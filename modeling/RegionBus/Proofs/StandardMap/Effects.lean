import RegionBus.Proofs.Bus.Reports
import RegionBus.Proofs.StandardMap.Views

/-!
# What Stores Can Change

A store through the bus changes one word or nothing. It changes the word that
tools see at the folded address if that word lies in main memory, in the signal
processor's memory, or in the scratch memory behind the boot code; a store to any
other address is lost.

The devices protect what they protect by different means. Images have a device
that drops every store, and boot code lies below a position that its device
compares with. `Location.Writable` knows only about blocks and offsets, and
`guards_standardHandler` says that the devices come to the same. What remains is a
store at a location, whose effect on each byte is known.

Every access of a session is made of word accesses, and so the images and the
boot code stay what they are however long it goes on and whatever is watched.

## Main definitions

* `Location.Writable`: Memory that can be written through the bus.
* `Handler.writable?`: Where in raw memory a handler stores.
* `Handler.Guards`: A handler stores where it should.
* `Store.Takes`: What one store does to raw memory.
* `Store.Keeps`: What no store through the bus can change is unchanged.

## Theorems

* `guards_standardHandler`: The devices protect what cannot be written.
* `writeWord_standard`: A store of a word.
* `takes_standard`: What it does to each byte.
* `Session.keeps_run`: What a whole session leaves alone.
* `write_effect`: Both, for every configuration that is accepted.
-/

namespace RegionBus

variable {X A R : Type}

/-- Memory that can be written through the bus: main memory, the signal processor's
    memory, and scratch memory. -/
def Location.Writable (l : Location) : Prop :=
  l.block = .dram ∨ l.block = .rspMem ∨ l.block = .pifMem ∧ pifRomSize ≤ l.offset

instance (l : Location) : Decidable l.Writable :=
  inferInstanceAs (Decidable (_ ∨ _))

/-- Where in raw memory a handler stores. -/
def Handler.writable? (a : UInt32) : Handler (Device X) → Option Location
  | device (.ram d) =>
    if d.position a < d.readOnlyBelow.toNat then none else some ⟨d.block, d.position a⟩
  | device (.rom _) | device (.attached _) | openBus | debug => none

namespace Store

/-- The store with a word written where a location is given. -/
def writeAt (s : Store) (l? : Option Location) (value mask : UInt32) : Store :=
  match l? with
  | some l => s.writeWordOrDrop l.block l.offset value mask
  | none => s

/-- One store is another one after a word was written to an address. -/
structure Takes (s : Store) (a value mask : UInt32) (s' : Store) : Prop where
  /-- Where memory can be written, one word has the masked bits of the value, and
      every other byte is as before. -/
  taken : ∀ l, s.locate? (wordStart (folded a)) = some l → l.Writable →
    l.offset % 4 = 0 ∧ (s.block l.block).Fits l.offset 4 ∧
      (s'.block l.block).wordAt l.offset =
        ((s.block l.block).wordAt l.offset &&& ~~~mask) ||| (value &&& mask) ∧
      ∀ k j, ¬ (k = l.block ∧ l.offset ≤ j ∧ j < l.offset + 4) →
        (s'.block k).get j = (s.block k).get j
  /-- Anywhere else nothing happens. -/
  lost : (∀ l, s.locate? (wordStart (folded a)) = some l → ¬ l.Writable) → s' = s

/-- What cannot be written through the bus is the same in two stores. -/
structure Keeps (s s' : Store) : Prop where
  /-- No block is longer or shorter. -/
  size_eq : ∀ k, (s'.block k).size = (s.block k).size
  /-- The cartridge image is the same. -/
  cartRom_eq : s'.cartRom = s.cartRom
  /-- So is the disk drive's image. -/
  ddRom_eq : s'.ddRom = s.ddRom
  /-- So is the boot code. -/
  bootCode_eq : ∀ j < pifRomSize, s'.pifMem.get j = s.pifMem.get j

namespace Keeps

variable {s t u : Store} {n : Nat}

theorem refl (s : Store) : s.Keeps s :=
  ⟨fun _ => rfl, rfl, rfl, fun _ _ => rfl⟩

theorem trans (h : s.Keeps t) (h' : t.Keeps u) : s.Keeps u :=
  ⟨fun k => (h'.size_eq k).trans (h.size_eq k), h'.cartRom_eq.trans h.cartRom_eq,
    h'.ddRom_eq.trans h.ddRom_eq,
    fun j hj => (h'.bootCode_eq j hj).trans (h.bootCode_eq j hj)⟩

theorem shaped (h : s.Keeps t) (hs : s.Shaped n) : t.Shaped n :=
  fun k => (h.size_eq k).trans (hs k)

/-- Addresses stand for the same bytes. -/
theorem locate?_eq (h : s.Keeps t) (a : UInt32) : t.locate? a = s.locate? a := by
  simp only [locate?, h.size_eq]

end Keeps

/-- A store at a writable place keeps all that is not writable. -/
theorem keeps_writeAt (s : Store) {l? : Option Location} (hl : ∀ l ∈ l?, l.Writable)
    (value mask : UInt32) : s.Keeps (s.writeAt l? value mask) := by
  cases l? with
  | none => exact .refl s
  | some l =>
      have hw := hl l rfl
      have hother : ∀ k, k ≠ l.block →
          (s.writeWordOrDrop l.block l.offset value mask).block k = s.block k :=
        fun k hk => by rw [block_writeWordOrDrop, if_neg (Ne.symm hk)]
      constructor
      case size_eq => exact fun k => s.size_writeWordOrDrop l.block k l.offset value mask
      case cartRom_eq =>
        refine hother .cartRom fun h => ?_
        simp only [Location.Writable, ← h, reduceCtorEq, false_and, or_self] at hw
      case ddRom_eq =>
        refine hother .ddRom fun h => ?_
        simp only [Location.Writable, ← h, reduceCtorEq, false_and, or_self] at hw
      case bootCode_eq =>
        intro j hj
        change ((s.writeWordOrDrop l.block l.offset value mask).block .pifMem).get j = _
        by_cases hk : .pifMem = l.block
        · -- The word lies behind the boot code.
          have hbehind : pifRomSize ≤ l.offset := by
            simp only [Location.Writable, ← hk, reduceCtorEq, true_and, false_or] at hw
            exact hw
          rw [block_writeWordOrDrop, if_pos hk.symm, Block.get_writeWordOrDrop,
            if_neg (by omega), ← hk]
          rfl
        · rw [hother _ hk]
          rfl

end Store

/-- What a handler of the machine makes of a word. -/
theorem Handler.write_target [AttachedDevice X A] {handler : Handler (Device X)}
    (h : handler.BuiltIn) (a value mask : UInt32) (hardware : Hardware A) :
    handler.target.write a value mask hardware =
      { hardware with store := hardware.store.writeAt (handler.writable? a) value mask } := by
  cases handler with
  | openBus => rfl
  | debug => cases h
  | device d =>
      cases d with
      | rom d => rfl
      | attached d => cases h
      | ram d =>
          change d.write a value mask hardware = _
          rw [RamDevice.write, RamDevice.position?_eq h, writable?]
          dsimp only
          split <;> rfl

/-- A handler stores where it leads to memory that can be written. -/
def Handler.Guards (handler : Handler (Device X)) (a : UInt32) : Prop :=
  handler.writable? a = (handler.location? a).filter fun l => l.Writable

theorem guards_ram {d : RamDevice} {a : UInt32}
    (h : (⟨d.block, d.position a⟩ : Location).Writable ↔
      ¬ d.position a < d.readOnlyBelow.toNat) :
    (.device (.ram d) : Handler (Device X)).Guards a := by
  rw [Handler.Guards, Handler.writable?, Handler.location?, Device.location?, Option.filter_some]
  by_cases hbelow : d.position a < d.readOnlyBelow.toNat
  · rw [if_pos hbelow, if_neg fun hw => h.mp (of_decide_eq_true hw) hbelow]
  · rw [if_neg hbelow, if_pos (decide_eq_true (h.mpr hbelow))]

/-- A device that protects nothing has to lead to memory that can be written. -/
theorem guards_unprotected {d : RamDevice} (hd : d.readOnlyBelow = 0)
    (hblock : d.block = .dram ∨ d.block = .rspMem) (a : UInt32) :
    (.device (.ram d) : Handler (Device X)).Guards a := by
  have hw : (⟨d.block, d.position a⟩ : Location).Writable :=
    hblock.elim Or.inl fun h => Or.inr (Or.inl h)
  exact guards_ram (iff_of_true hw (by rw [hd]; exact Nat.not_lt_zero _))

theorem guards_pifMemory (a : UInt32) :
    (.device (.ram pifMemory) : Handler (Device X)).Guards a := by
  refine guards_ram ?_
  have hblock : pifMemory.block = .pifMem := rfl
  simp only [Location.Writable, hblock, reduceCtorEq, true_and, false_or, Nat.not_lt]
  rfl

/-- A device that never stores has to lead to memory that cannot be written. -/
theorem guards_rom {d : RomDevice} (hblock : d.block = .cartRom ∨ d.block = .ddRom)
    (a : UInt32) : (.device (.rom d) : Handler (Device X)).Guards a := by
  have hnot : ¬ (⟨d.block, d.position a⟩ : Location).Writable := by
    rcases hblock with h | h <;>
      simp only [Location.Writable, h, reduceCtorEq, false_and, or_self, not_false_eq_true]
  rw [Handler.Guards, Handler.location?, Device.location?, Option.filter_some,
    if_neg fun hw => hnot (of_decide_eq_true hw)]
  rfl

/-- The devices protect what cannot be written, and nothing else. -/
theorem guards_standardHandler (n : Nat) (a : UInt32) :
    (standardHandler (X := X) n a).Guards a := by
  unfold standardHandler
  repeat' split
  -- Memory without protection, memory behind boot code, images, and what stores nowhere.
  all_goals first
    | exact guards_unprotected rfl (.inl rfl) a
    | exact guards_unprotected rfl (.inr rfl) a
    | exact guards_pifMemory a
    | exact guards_rom (.inl rfl) a
    | exact guards_rom (.inr rfl) a
    | rfl

/-- The windows lead from words to words. -/
theorem Catalog.offset_of_resolve? {a : UInt32} (ha : a.toNat % 4 = 0) {l : Location}
    (h : standard.resolve? a = some l) : l.offset % 4 = 0 := by
  rw [resolve?_standard] at h
  rcases address_parts a.toNat with hp | hp | hp | hp | hp | hp | hp | hp | hp | hp
  all_goals
    simp (disch := omega) only [if_pos, if_neg, Option.some.injEq, reduceCtorEq] at h
  all_goals
    rw [← h]
    dsimp only
    omega

theorem size_mod_four {n : Nat} (hn : ValidDramSize n) {s : Store} (hs : s.Shaped n)
    (k : BlockKind) : (s.block k).size % 4 = 0 := by
  rw [hs k]
  cases k with
  | dram =>
      have hunit := hn.unit
      simp only [dramAlignment] at hunit
      change n % 4 = 0
      omega
  | cartRom | rspMem | ddRom | pifMem =>
      rw [BlockKind.sizeWith]
      decide

/-- A word that is found lies in its block as a whole. -/
theorem fits_of_locate? {n : Nat} (hn : ValidDramSize n) {s : Store} (hs : s.Shaped n)
    {a : UInt32} (ha : a.toNat % 4 = 0) {l : Location} (h : s.locate? a = some l) :
    l.offset % 4 = 0 ∧ (s.block l.block).Fits l.offset 4 := by
  have hin := Store.lt_of_locate? h
  have hsize := size_mod_four hn hs l.block
  have hoffset : l.offset % 4 = 0 :=
    Catalog.offset_of_resolve? ha (Option.filter_eq_some_iff.mp h).1
  -- A multiple of four below another one is below it by at least a word.
  refine ⟨hoffset, ?_⟩
  unfold Block.Fits
  omega

/-- A store at a place behind the end of its block is lost, so it does not matter
    whether such a place counts as found. -/
theorem Store.writeAt_filter (s : Store) (l? : Option Location) (value mask : UInt32) :
    s.writeAt (l?.filter fun l => l.offset < (s.block l.block).size) value mask =
      s.writeAt l? value mask := by
  cases l? with
  | none => rfl
  | some l =>
      by_cases hin : l.offset < (s.block l.block).size
      · rw [Option.filter_some, if_pos (decide_eq_true hin)]
      · have hnot : ¬ (s.block l.block).Fits l.offset 4 := by
          unfold Block.Fits
          omega
        rw [filter_location (Nat.le_of_not_lt hin), writeAt, writeAt,
          writeWordOrDrop_of_not_fits hnot]

section Standard

variable {n : Nat} [AttachedDevice X A] [Registry R] {bus : Bus (Device X)}

/-- A word read from the standard map changes no device. -/
theorem devices_readWord_standard (hn : ValidDramSize n)
    (hb : bus.Reflects (standardMap (UInt32.ofNat n))) (a : UInt32)
    (p : Backplane R (Hardware A)) : (bus.readWord a p).2.devices = p.devices := by
  rw [Bus.readWord_eq (hb.settled _), device_standard hn hb,
    Handler.read_target (builtIn_standardHandler _ _)]

/-- A word is stored where tools see the word of the folded address, if it can be
    written there. -/
theorem writeWord_standard (hn : ValidDramSize n)
    (hb : bus.Reflects (standardMap (UInt32.ofNat n))) {p : Backplane R (Hardware A)}
    (hs : p.devices.store.Shaped n) {a : UInt32} (ha : a.toNat % 4 = 0) (value mask : UInt32) :
    (bus.writeWord a value mask p).devices.store =
      p.devices.store.writeAt ((p.devices.store.locate? (folded a)).filter fun l => l.Writable)
        value mask := by
  have hguards := guards_standardHandler (X := X) n a
  rw [Handler.Guards] at hguards
  rw [Bus.writeWord_eq ha (hb.settled _), device_standard hn hb,
    Handler.write_target (builtIn_standardHandler _ _), hguards, locate?_folded (X := X) hs,
    Option.filter_filter]
  -- A place is in its block and can be written in either order, and the first is dropped.
  simp only [Bool.and_comm]
  rw [← Option.filter_filter, Store.writeAt_filter]

/-- What a store under a mask does to each byte. -/
theorem takes_standard (hn : ValidDramSize n)
    (hb : bus.Reflects (standardMap (UInt32.ofNat n))) {p : Backplane R (Hardware A)}
    (hs : p.devices.store.Shaped n) (a value mask : UInt32) :
    p.devices.store.Takes a value mask (bus.writeMasked a value mask p).devices.store := by
  have hword : Store.wordStart (folded a) = folded (a &&& ~~~3) := wordStart_folded a
  have haligned : (Store.wordStart (folded a)).toNat % 4 = 0 := aligned_word (folded a)
  rw [Bus.writeMasked, writeWord_standard hn hb hs (aligned_word a), ← hword]
  constructor
  case taken =>
    intro l hl hw
    rcases fits_of_locate? hn hs haligned hl with ⟨hoffset, hfits⟩
    rw [hl, Option.filter_some, if_pos (decide_eq_true hw), Store.writeAt]
    refine ⟨hoffset, hfits, ?_, fun k j hout => ?_⟩
    · rw [Store.block_writeWordOrDrop, if_pos rfl, Block.wordAt_writeWordOrDrop hfits, Word.merge]
    · rw [Store.block_writeWordOrDrop]
      split
      · next hk => rw [Block.get_writeWordOrDrop, if_neg fun h => hout ⟨hk.symm, h.2⟩, hk]
      · rfl
  case lost =>
    intro hnot
    cases hl : p.devices.store.locate? (Store.wordStart (folded a)) with
    | none => rfl
    | some l => rw [Option.filter_some, if_neg fun h => hnot l hl (of_decide_eq_true h)]; rfl

theorem keeps_writeWord (hn : ValidDramSize n)
    (hb : bus.Reflects (standardMap (UInt32.ofNat n))) {p : Backplane R (Hardware A)}
    (hs : p.devices.store.Shaped n) {a : UInt32} (ha : a.toNat % 4 = 0) (value mask : UInt32) :
    p.devices.store.Keeps (bus.writeWord a value mask p).devices.store := by
  rw [writeWord_standard hn hb hs ha]
  exact Store.keeps_writeAt _ (fun l hl => of_decide_eq_true (Option.filter_eq_some_iff.mp hl).2)
    value mask

/-- A read of any width is some words read. -/
theorem keeps_read (hn : ValidDramSize n) (hb : bus.Reflects (standardMap (UInt32.ofNat n)))
    (width : Width) (a : UInt32) (p : Backplane R (Hardware A)) :
    p.devices.store.Keeps (bus.read width a p).2.devices.store := by
  have hsame : (bus.read width a p).2.devices = p.devices := by
    cases width with
    | word => exact devices_readWord_standard hn hb _ p
    | byte =>
        simp only [Bus.read, Bus.read8_eq]
        exact devices_readWord_standard hn hb _ p
    | half =>
        simp only [Bus.read, Bus.read16_eq]
        exact devices_readWord_standard hn hb _ p
    | double =>
        simp only [Bus.read, Bus.read64_eq]
        rw [devices_readWord_standard hn hb, devices_readWord_standard hn hb]
  rw [hsame]
  exact .refl _

theorem keeps_foldl_storeBytes (hn : ValidDramSize n)
    (hb : bus.Reflects (standardMap (UInt32.ofNat n)))
    (stores : List ((UInt32 × UInt32) × UInt32)) {p : Backplane R (Hardware A)}
    (hs : p.devices.store.Shaped n) :
    p.devices.store.Keeps (stores.foldl bus.storeBytes p).devices.store := by
  induction stores generalizing p with
  | nil => exact .refl _
  | cons x stores ih =>
      have hone : p.devices.store.Keeps (bus.storeBytes p x).devices.store :=
        keeps_writeWord hn hb hs (aligned_word x.1.1) _ _
      exact hone.trans (ih (hone.shaped hs))

/-- A store of any width is some words written. -/
theorem keeps_write (hn : ValidDramSize n) (hb : bus.Reflects (standardMap (UInt32.ofNat n)))
    (width : Width) (a : UInt32) (value : UInt64) {p : Backplane R (Hardware A)}
    (hs : p.devices.store.Shaped n) :
    p.devices.store.Keeps (bus.write width a value p).devices.store := by
  rcases bus.write_eq_stores width a value p with ⟨values, -, hwrite⟩
  rw [hwrite]
  exact keeps_foldl_storeBytes hn hb _ hs

/-- A step that maps nothing keeps the map, and what cannot be written. -/
theorem Session.keeps_perform (hn : ValidDramSize n) {s : Session (Device X) R (Hardware A)}
    (hb : s.bus.Reflects (standardMap (UInt32.ofNat n))) (hs : s.plane.devices.store.Shaped n)
    {step : BusStep (Device X) R} (hstep : step.mapping? = none) :
    (step.perform s).2.bus.Reflects (standardMap (UInt32.ofNat n)) ∧
      s.plane.devices.store.Keeps (step.perform s).2.plane.devices.store := by
  cases step with
  | apply m => cases hstep
  | activate k a => exact ⟨hb.activate k a, .refl _⟩
  | deactivate k a => exact ⟨hb.deactivate k a, .refl _⟩
  | setLastPc pc => exact ⟨hb.setLastPc pc, .refl _⟩
  | exchange registry => exact ⟨hb, .refl _⟩
  | read width a => exact ⟨hb, keeps_read hn hb width a s.plane⟩
  | write width a value => exact ⟨hb, keeps_write hn hb width a value hs⟩
  | writeMasked a value mask =>
      exact ⟨hb, keeps_writeWord hn hb hs (aligned_word a) value mask⟩

/-- What cannot be written through the bus is the same after any session. -/
theorem Session.keeps_run (hn : ValidDramSize n) {s : Session (Device X) R (Hardware A)}
    (hb : s.bus.Reflects (standardMap (UInt32.ofNat n))) (hs : s.plane.devices.store.Shaped n)
    {steps : List (BusStep (Device X) R)} (hsteps : ∀ step ∈ steps, step.mapping? = none) :
    (s.run steps).2.bus.Reflects (standardMap (UInt32.ofNat n)) ∧
      s.plane.devices.store.Keeps (s.run steps).2.plane.devices.store := by
  induction steps generalizing s with
  | nil => exact ⟨hb, .refl _⟩
  | cons step steps ih =>
      rcases keeps_perform hn hb hs (hsteps step List.mem_cons_self) with ⟨hbus, hstore⟩
      rcases ih hbus (hstore.shaped hs) (fun x hx => hsteps x (List.mem_cons_of_mem step hx)) with
        ⟨hbus', hstore'⟩
      exact ⟨hbus', hstore.trans hstore'⟩

end Standard

variable [AttachedDevice X A] [Registry R]

/-- Whatever happens on a bus with the standard map, short of a new mapping: images
    and boot code stay as they are, and at any point in time one more store writes
    one word of the memory that can be written, or nothing. -/
theorem write_effect {c : Config} (hc : c.validate = .ok ()) {s : Store}
    (hs : s.Shaped c.dramSize) (intercepting : Bool) (registry : Option R) :
    ∃ bus : Bus (Device X),
      Bus.ofMappings intercepting registry (standardMap s.dramWord) = .ok bus ∧
        ∀ (heard : Option R) (attached : A) (steps : List (BusStep (Device X) R)),
          (∀ step ∈ steps, step.mapping? = none) →
            let later := ((Session.mk bus ⟨heard, .ofStore s attached⟩).run steps).2
            s.Keeps later.plane.devices.store ∧
              ∀ a value mask, later.plane.devices.store.Takes a value mask
                (later.bus.writeMasked a value mask later.plane).devices.store := by
  have hn := c.validate_eq_ok_iff.mp hc
  have hword : s.dramWord = UInt32.ofNat c.dramSize := congrArg UInt32.ofNat (hs .dram)
  rcases exists_standardBus (X := X) hn intercepting registry with ⟨bus, hbus, hb⟩
  rw [hword]
  refine ⟨bus, hbus, fun heard attached steps hsteps => ?_⟩
  rcases Session.keeps_run hn (s := ⟨bus, ⟨heard, .ofStore s attached⟩⟩) hb hs hsteps with
    ⟨hbus', hkeeps⟩
  exact ⟨hkeeps, takes_standard hn hbus' (hkeeps.shaped hs)⟩

/-- A store to the boot code is lost even if it is watched, and one to a copy of
    scratch memory is not. -/
theorem write_effect_bootCode : ∃ bus : Bus (Device Empty),
    Bus.ofMappings true (none : Option Breakpoints)
        (standardMap (Store.ofGrants 0x10000 []).dramWord) = .ok bus ∧
      let later := ((Session.mk bus
        ⟨some Breakpoints.empty, .ofStore (Store.ofGrants 0x10000 []) ()⟩).run
          [.activate .write 0x1FC00000, .write .double 0x1FC007B8 0x0123456789ABCDEF]).2
      (∀ j < pifRomSize, later.plane.devices.store.pifMem.get j = 0) ∧
        (later.bus.writeMasked 0x1FC00FC1 0xAABBCCDD 0x00FF00FF
            later.plane).devices.store.pifMem.wordAt 0x7C0 =
          (later.plane.devices.store.pifMem.wordAt 0x7C0 &&& 0xFF00FF00) ||| 0x00BB00DD := by
  have hc : ({ Config.default with dramSize := 0x10000 } : Config).validate = .ok () := rfl
  have hshape : (Store.ofGrants 0x10000 []).Shaped 0x10000 := by
    intro k
    cases k <;> rfl
  rcases write_effect (X := Empty) hc hshape true (none : Option Breakpoints) with ⟨bus, hbus, h⟩
  refine ⟨bus, hbus, ?_⟩
  rcases h (some Breakpoints.empty) ()
    [.activate .write 0x1FC00000, .write .double 0x1FC007B8 0x0123456789ABCDEF]
    (by simp only [List.forall_mem_cons, BusStep.mapping?, List.not_mem_nil, IsEmpty.forall_iff,
      implies_true, and_self]) with ⟨hkeeps, htakes⟩
  have hlocate := hkeeps.locate?_eq (Store.wordStart (folded 0x1FC00FC1))
  refine ⟨fun j hj => ?_, ?_⟩
  · rw [hkeeps.bootCode_eq j hj]
    exact Contents.get_filled 0 j
  · have htaken := (htakes 0x1FC00FC1 0xAABBCCDD 0x00FF00FF).taken ⟨.pifMem, 0x7C0⟩
      (hlocate.trans rfl) (by decide)
    exact htaken.2.2.1

end RegionBus

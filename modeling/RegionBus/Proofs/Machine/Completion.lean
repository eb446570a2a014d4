import RegionBus.Proofs.Bus.Failures
import RegionBus.Proofs.Bus.History
import RegionBus.Proofs.Machine.Building
import RegionBus.Proofs.StandardMap.Locations

/-!
# Which Accesses Complete

A machine in use is given commands, its bus is switched by hand, and its registry,
its memory and its devices may become anything at any moment. Through all of this its
bus reflects what was mapped to it, `reflects_of_inUse`: in each region the handlers
are settled, and the device is that of the last mapping. So the debug handler is never
in front of itself, and never in front of nothing.

What is left to go wrong is arithmetic. Addresses, lanes and reported ranges never
overflow, whatever they are. Positions in blocks can, but the standard map has no memory
whose positions do, so that takes a mapping made since: of memory that starts so far
behind in its block that no block is that large. `accesses_complete` says exactly which
accesses fail and whose memory fails them. If no such memory is mapped then every access
completes, `failed_perform`; if it is, then a read may not, `position_overflows`.

## Main definitions

* `Machine.InUse`: A machine in use, to which only some mappings are made.
* `Machine.AccessLaw`: What becomes of every access through the bus of a machine.

## Theorems

* `reflects_setWatched`, `reflects_unmapping`, `reflects_applyMapping`: What a bus goes
  through.
* `reflects_of_inUse`: The bus of a machine in use reflects what was mapped to it.
* `culprit_of_inUse`: What fails an access of a machine in use was mapped to it.
* `accesses_complete`: The law of accesses holds of every machine in use.
* `failed_perform`: Where all memory is roomy, no access fails.
* `position_overflows`: A read that fails where it is not.
-/

namespace RegionBus

variable {X A : Type}

/-- A machine in use: it was built, was given commands, and all that can be reached
    from outside may have become anything. Only some mappings are allowed. -/
inductive Machine.InUse [AttachedDevice X A] (allowed : Mapping (Device X) → Prop) :
    Machine X A → Prop
  /-- The machine as it was built. -/
  | built {readFile : ImagePath → Option Image} {c : Config} {attached : A} {s : Machine X A}
      (hs : Machine.build (m := Id) readFile c attached = .ok s) : InUse allowed s
  /-- One more command. -/
  | perform {s : Machine X A} (h : InUse allowed s) (command : Command X A)
      (hmapping : ∀ m, command.mapping? = some m → allowed m) : InUse allowed (command.perform s)
  /-- A kind of access is watched or not in the region of an address, whatever the
      registry wants. -/
  | switch {s : Machine X A} (h : InUse allowed s) (k : AccessKind) (a : UInt32) (on : Bool) :
      InUse allowed (s.onBus fun bus => setWatched bus k a on)
  /-- The registry is changed without the bus. -/
  | exchange {s : Machine X A} (h : InUse allowed s) (registry : Option Breakpoints) :
      InUse allowed { s with registry := registry }
  /-- The memory and the devices are changed without the bus. -/
  | replace {s : Machine X A} (h : InUse allowed s) (memory : RawMemory A) :
      InUse allowed { s with memory := memory }

/-- What becomes of every access through the bus of a machine to which only some mappings
    were made. -/
structure Machine.AccessLaw [AttachedDevice X A] (allowed : Mapping (Device X) → Prop)
    (s : Machine X A) : Prop where
  /-- The table has an entry for every address. -/
  indexed : ∀ a : UInt32, s.bus.entries[(a >>> 16).toNat]? = some (s.bus.entryAt a)
  /-- The live handler of a region is a device or none, or it is the debug handler and
      has one of these to pass an access on to. -/
  routed : ∀ a, (s.bus.entryAt a).live.isDebug = false ∨ (s.bus.entryAt a).live = .debug ∧
    ∃ handler, (s.bus.entryAt a).saved = some handler ∧ handler.isDebug = false
  /-- A read fails iff the position of one of its words overflows. -/
  read : ∀ {R : Type} [Registry R] (width : Width) (a : UInt32) (p : Backplane R (Hardware A)),
    (s.bus.read width a p).2.devices.failed =
      (p.devices.failed || (width.words a).any s.bus.overflows)
  /-- So does a write of any width. -/
  write : ∀ {R : Type} [Registry R] (width : Width) (a : UInt32) (value : UInt64)
    (p : Backplane R (Hardware A)), (s.bus.write width a value p).devices.failed =
      (p.devices.failed || (width.words a).any s.bus.overflows)
  /-- So does a write under any mask. -/
  writeMasked : ∀ {R : Type} [Registry R] (a value mask : UInt32) (p : Backplane R (Hardware A)),
    (s.bus.writeMasked a value mask p).devices.failed =
      (p.devices.failed || s.bus.overflows (a &&& ~~~3))
  /-- A registry is only told of bytes that lie below the end of the address space. -/
  reported : ∀ {R : Type} [Registry R] {motive : R → Prop} (p : Backplane R (Hardware A)),
    Registry.Stable motive → (∀ l ∈ p.registry, motive l) →
      (∀ width a, ∀ l ∈ (s.bus.read width a p).2.registry, motive l) ∧
      (∀ width a value, ∀ l ∈ (s.bus.write width a value p).registry, motive l) ∧
      ∀ a value mask, ∀ l ∈ (s.bus.writeMasked a value mask p).registry, motive l
  /-- Where a position overflows, an allowed mapping put the memory there. -/
  culprit : ∀ a, s.bus.overflows a = true → ∃ m d, allowed m ∧ m.covers (regionOf a) = true ∧
    m.handler = .device (.ram d) ∧ 2 ^ 64 ≤ d.position a

section Reflects

variable {history : List (Mapping (Device X))} {bus : Bus (Device X)} {s : Machine X A}

theorem reflects_setWatched (h : bus.Reflects history) (k : AccessKind) (a : UInt32)
    (on : Bool) : (Machine.setWatched bus k a on).Reflects history := by
  cases on with
  | true => exact h.activate k a
  | false => exact h.deactivate k a

theorem reflects_foldl_syncRegion (h : bus.Reflects history) (l : Breakpoints)
    (regions : List Region) :
    (regions.foldl (Machine.syncRegion l) bus).Reflects history := by
  induction regions generalizing bus with
  | nil => exact h
  | cons r regions ih => exact ih (reflects_setWatched (reflects_setWatched h _ _ _) _ _ _)

namespace Machine

theorem reflects_edited (h : s.bus.Reflects history) (l : Breakpoints) (first last : UInt32) :
    (s.edited l first last).bus.Reflects history :=
  reflects_foldl_syncRegion h l _

theorem reflects_addBreakpoint (h : s.bus.Reflects history) (first last : UInt32)
    (flags : Flags) : (s.addBreakpoint first last flags).2.bus.Reflects history := by
  cases hl : s.registry with
  | none =>
      rcases s with ⟨memory, bus, registry⟩
      subst hl
      exact h
  | some l =>
      rw [addBreakpoint_eq hl]
      exact reflects_edited h _ _ _

theorem reflects_removeBreakpoint (h : s.bus.Reflects history) (index : Nat) :
    (s.removeBreakpoint index).2.bus.Reflects history := by
  cases hl : s.registry with
  | none =>
      rcases s with ⟨memory, bus, registry⟩
      subst hl
      exact h
  | some l =>
      rw [removeBreakpoint_eq hl]
      cases l.get? index with
      | none => exact h
      | some b => exact reflects_edited h _ _ _

theorem reflects_setBreakpointEnabled (h : s.bus.Reflects history) (index : Nat) (on : Bool) :
    (s.setBreakpointEnabled index on).2.bus.Reflects history := by
  cases hl : s.registry with
  | none =>
      rcases s with ⟨memory, bus, registry⟩
      subst hl
      exact h
  | some l =>
      rw [setBreakpointEnabled_eq hl]
      cases l.get? index with
      | none => exact h
      | some b => exact reflects_edited h _ _ _

variable [AttachedDevice X A]

/-- A command that asks for no mapping leaves the devices where they are. -/
theorem reflects_unmapping (h : s.bus.Reflects history) {command : Command X A}
    (hnone : command.mapping? = none) : (command.perform s).bus.Reflects history := by
  cases command with
  | addBreakpoint first last flags => exact reflects_addBreakpoint h first last flags
  | removeBreakpoint index => exact reflects_removeBreakpoint h index
  | setBreakpointEnabled index on => exact reflects_setBreakpointEnabled h index on
  | takeHits =>
      rcases s with ⟨memory, bus, registry⟩
      cases registry <;> exact h
  | applyMapping m => cases hnone
  | setLastPc pc => exact h.setLastPc pc
  | loadCartridge file =>
      rw [Command.perform, loadCartridgeFile]
      cases s.memory.loadCartridgeFile file <;> exact h
  | loadPif file =>
      rw [Command.perform, loadPifFile]
      cases s.memory.loadPifFile file <;> exact h
  | _ => exact h

/-- A mapping puts its device in place, or is refused. -/
theorem reflects_applyMapping (h : s.bus.Reflects history) {m : Mapping (Device X)}
    (hm : m.handler.isDebug = false) :
    ((Command.applyMapping m : Command X A).perform s).bus.Reflects (history ++ [m]) := by
  rw [Command.perform]
  cases hok : s.applyMapping m with
  | ok t =>
      rcases applyMapping_eq_ok_iff.mp hok with ⟨bus, hbus, rfl⟩
      exact h.apply hm hbus
  | error e => exact h.refused (applyMapping_eq_error_iff.mp hok)

/-- A mapping leaves the memory alone, whether it is accepted or not. -/
theorem memory_perform_applyMapping (s : Machine X A) (m : Mapping (Device X)) :
    ((Command.applyMapping m : Command X A).perform s).memory = s.memory := by
  rw [Command.perform]
  cases hok : s.applyMapping m with
  | ok t => exact memory_applyMapping hok
  | error e => rfl

/-- The bus of a machine in use reflects the standard map and the mappings since. -/
theorem reflects_of_inUse {allowed : Mapping (Device X) → Prop}
    (hforeign : ∀ m, allowed m → m.handler.isDebug = false) (h : InUse allowed s) :
    ∃ n mappings, ValidDramSize n ∧ (∀ m ∈ mappings, allowed m) ∧
      s.bus.Reflects (standardMap (UInt32.ofNat n) ++ mappings) := by
  induction h with
  | @built readFile c attached s hs =>
      rcases fresh_of_build hs with ⟨memory, hmemory, hfresh⟩
      refine ⟨c.dramSize, [], RawMemory.valid_of_build hmemory,
        fun m hm => absurd hm List.not_mem_nil, ?_⟩
      rw [List.append_nil]
      exact hfresh.reflects
  | perform h command hmapping ih =>
      rcases ih with ⟨n, mappings, hn, hallowed, hbus⟩
      cases hm : command.mapping? with
      | none => exact ⟨n, mappings, hn, hallowed, reflects_unmapping hbus hm⟩
      | some m =>
          have hnew := hmapping m hm
          -- Only one command asks for a mapping.
          cases command with
          | applyMapping m' =>
              rw [Option.some.inj hm]
              refine ⟨n, mappings ++ [m], hn, ?_, ?_⟩
              · exact List.forall_mem_append.mpr ⟨hallowed, List.forall_mem_singleton.mpr hnew⟩
              · rw [← List.append_assoc]
                exact reflects_applyMapping hbus (hforeign m hnew)
          | _ => cases hm
  | switch h k a on ih =>
      rcases ih with ⟨n, mappings, hn, hallowed, hbus⟩
      exact ⟨n, mappings, hn, hallowed, reflects_setWatched hbus k a on⟩
  | exchange h registry ih => exact ih
  | replace h memory ih => exact ih

end Machine

end Reflects

/-- The device of a region was attached by a later mapping over it, or it was there before. -/
theorem Mapping.handlerOver_append_cases {D : Type} (history mappings : List (Mapping D))
    (r : Region) : handlerOver (history ++ mappings) r = handlerOver history r ∨
      ∃ m ∈ mappings, m.covers r = true ∧ handlerOver (history ++ mappings) r = m.handler := by
  have hlast : lastOver? (history ++ mappings) r =
      (lastOver? mappings r).or (lastOver? history r) := by
    rw [lastOver?, List.reverse_append, List.find?_append]
    rfl
  rw [handlerOver, hlast]
  cases hlater : lastOver? mappings r with
  | none => exact Or.inl rfl
  | some m =>
      have hmem := List.mem_reverse.mp (List.mem_of_find?_eq_some hlater)
      have hcovers := List.find?_some (p := fun m : Mapping D => m.covers r) hlater
      exact Or.inr ⟨m, hmem, hcovers, rfl⟩

/-- What is part of the machine itself never overflows. -/
theorem Handler.BuiltIn.overflows_eq_false {handler : Handler (Device X)} (h : handler.BuiltIn)
    (a : UInt32) : handler.overflows a = false := by
  rw [← Bool.not_eq_true]
  intro hoverflows
  rcases Handler.ram_of_overflows hoverflows with ⟨d, rfl, hle⟩
  exact absurd hle (Nat.not_le.mpr (RamDevice.position_lt h a))

section Complete

variable [AttachedDevice X A] {s : Machine X A} {allowed : Mapping (Device X) → Prop}

namespace Machine

/-- Where a position overflows on a machine in use, an allowed mapping put the memory
    there. -/
theorem culprit_of_inUse (hforeign : ∀ m, allowed m → m.handler.isDebug = false)
    (h : InUse allowed s) {a : UInt32} (hoverflows : s.bus.overflows a = true) :
    ∃ m d, allowed m ∧ m.covers (regionOf a) = true ∧ m.handler = .device (.ram d) ∧
      2 ^ 64 ≤ d.position a := by
  rcases reflects_of_inUse hforeign h with ⟨n, mappings, hn, hallowed, hbus⟩
  rw [Bus.overflows, Bus.entryAt, hbus.device_eq] at hoverflows
  rcases Mapping.handlerOver_append_cases (standardMap (UInt32.ofNat n)) mappings (regionOf a) with
    hstandard | ⟨m, hm, hcovers, hhandler⟩
  · -- Nothing in the standard map overflows.
    have hbuiltIn := builtIn_standardHandler (X := X) n a
    rw [hstandard, handlerOver_standardMap hn, hbuiltIn.overflows_eq_false] at hoverflows
    cases hoverflows
  · rw [hhandler] at hoverflows
    rcases Handler.ram_of_overflows hoverflows with ⟨d, hram, hle⟩
    exact ⟨m, d, hallowed m hm, hcovers, hram, hle⟩

theorem settled_of_inUse (hforeign : ∀ m, allowed m → m.handler.isDebug = false)
    (h : InUse allowed s) : ∀ r, (s.bus.entry r).Settled := by
  rcases reflects_of_inUse hforeign h with ⟨n, mappings, -, -, hbus⟩
  exact hbus.settled

end Machine

/-- On a machine in use an access fails iff one of its words has a position that
    overflows, and that takes memory that was mapped to do so. Nothing else fails. -/
theorem accesses_complete (hforeign : ∀ m, allowed m → m.handler.isDebug = false)
    (h : Machine.InUse allowed s) : s.AccessLaw allowed := by
  have hsettled := Machine.settled_of_inUse hforeign h
  constructor
  case indexed =>
    intro a
    have hindex : (a >>> 16).toNat = (regionOf a).val := Mapping.toNat_shiftRight_sixteen a
    rw [hindex, Vector.getElem?_eq_getElem (regionOf a).isLt]
    rfl
  case routed =>
    intro a
    have hs := hsettled (regionOf a)
    have hlive := hs.live_eq
    have hsaved := hs.saved_eq
    -- Where nothing is watched the device is live itself, and elsewhere it is saved.
    by_cases hc : (s.bus.entry (regionOf a)).checks.isEmpty
    · rw [if_pos hc] at hlive
      refine Or.inl ?_
      rw [Bus.entryAt, hlive]
      exact hs.device_ne
    · rw [if_neg hc] at hlive hsaved
      exact Or.inr ⟨hlive, _, hsaved, hs.device_ne⟩
  case read => exact fun width a p => Bus.failed_read hsettled width a p
  case write => exact fun width a value p => Bus.failed_write hsettled width a value p
  case writeMasked => exact fun a value mask p => Bus.failed_writeMasked hsettled a value mask p
  case reported =>
    intro R _ motive p hstable hp
    exact ⟨Bus.registry_stable_read hsettled hstable hp,
      Bus.registry_stable_write hsettled hstable hp,
      Bus.registry_stable_writeMasked hsettled hstable hp⟩
  case culprit => exact fun a => Machine.culprit_of_inUse hforeign h

namespace Machine.AccessLaw

theorem overflows_eq_false (h : s.AccessLaw allowed)
    (hroomy : ∀ m d, allowed m → m.handler = .device (.ram d) → d.Roomy) (a : UInt32) :
    s.bus.overflows a = false := by
  rw [← Bool.not_eq_true]
  intro hoverflows
  rcases h.culprit a hoverflows with ⟨m, d, hallowed, -, hram, hle⟩
  exact absurd hle (Nat.not_le.mpr (RamDevice.position_lt (hroomy m d hallowed hram) a))

/-- Where all memory that was mapped is roomy, no access fails. -/
theorem failed_perform (h : s.AccessLaw allowed)
    (hroomy : ∀ m d, allowed m → m.handler = .device (.ram d) → d.Roomy)
    {command : Command X A} (hc : command.IsAccess) :
    (command.perform s).memory.failed = s.memory.failed := by
  have hnone := overflows_eq_false h hroomy
  have hwords : ∀ words : List UInt32, words.any s.bus.overflows = false := fun words =>
    List.any_eq_false.mpr fun a _ => Bool.eq_false_iff.mp (hnone a)
  cases command with
  | read width a =>
      have hread := h.read width a ⟨s.registry, s.memory.toHardware⟩
      rw [hwords, Bool.or_false] at hread
      exact hread
  | write width a value =>
      have hwrite := h.write width a value ⟨s.registry, s.memory.toHardware⟩
      rw [hwords, Bool.or_false] at hwrite
      exact hwrite
  | writeMasked a value mask =>
      have hwrite := h.writeMasked a value mask ⟨s.registry, s.memory.toHardware⟩
      rw [hnone, Bool.or_false] at hwrite
      exact hwrite
  | _ => cases hc

end Machine.AccessLaw

end Complete

/-- A machine without images is built from the default settings. -/
theorem Machine.exists_build_default : ∃ s : Machine Empty Unit,
    build (m := Id) (fun _ => none) Config.default () = .ok s ∧ s.memory.failed = false := by
  have hmemory : ∃ memory, RawMemory.build (fun _ => none) Config.default () = .ok memory ∧
      memory.failed = false := ⟨_, rfl, rfl⟩
  rcases hmemory with ⟨memory, hmemory, hfailed⟩
  rcases exists_build (X := Empty) hmemory with ⟨s, hs, hfresh⟩
  rw [← hfresh.memory_eq] at hfailed
  exact ⟨s, hs, hfailed⟩

/-- Main memory once more, repeated every 256 bytes. -/
def repeatedDram : RamDevice where
  name := "repeated"
  block := .dram
  base := 0xFFFF0000
  start := 0x7FFF00
  distanceMask := 0xFF

/-- A mapping of such memory at the end of the address space. -/
def repeatedMapping : Mapping (Device Empty) :=
  ⟨0xFFFF0000, 0xFFFFFFFF, .isViewer, .device (.ram repeatedDram)⟩

/-- A machine whose last region was mapped to and is watched, although nothing is
    registered. No access fails. -/
theorem accesses_complete_repeated : ∃ s : Machine Empty Unit,
    Machine.InUse (fun m => m = repeatedMapping) s ∧
      s.AccessLaw (fun m => m = repeatedMapping) ∧
      ∀ command : Command Empty Unit, command.IsAccess →
        (command.perform s).memory.failed = s.memory.failed := by
  rcases Machine.exists_build_default with ⟨s, hs, -⟩
  have hbuilt : Machine.InUse (fun m => m = repeatedMapping) s := .built hs
  have hmapped := hbuilt.perform (.applyMapping repeatedMapping)
    fun m hm => (Option.some.inj hm).symm
  have hinUse := (hmapped.switch .write 0xFFFFFFFF true).perform
    (.write .double 0xFFFFFFFF 0x1122334455667788) fun m hm => by cases hm
  have hlaw := accesses_complete (fun m hm => hm ▸ rfl) hinUse
  refine ⟨_, hinUse, hlaw, fun command hc => hlaw.failed_perform ?_ hc⟩
  rintro m d rfl ⟨⟩
  exact (by decide : repeatedDram.Roomy)

/-- Memory that starts four bytes in front of the largest number there is. -/
def lateDram : RamDevice where
  name := "late"
  block := .dram
  base := 0x20000000
  start := 0xFFFFFFFFFFFFFFFC

/-- A mapping of such memory. -/
def lateMapping : Mapping (Device Empty) :=
  ⟨0x20000000, 0x2000FFFF, .isViewer, .device (.ram lateDram)⟩

/-- Its second word has no position, and so a read of it fails on a machine to which
    nothing else was mapped. -/
theorem position_overflows : ∃ s : Machine Empty Unit,
    Machine.InUse (fun m => m = lateMapping) s ∧ s.memory.failed = false ∧
      ((Command.read .word 0x20000004).perform s).memory.failed = true := by
  rcases Machine.exists_build_default with ⟨s, hs, hfailed⟩
  rcases Machine.fresh_of_build hs with ⟨memory, -, hfresh⟩
  have hbus := Machine.reflects_applyMapping hfresh.reflects
    (rfl : lateMapping.handler.isDebug = false)
  -- All that matters of the machine from here on is what its bus reflects.
  rw [← Machine.memory_perform_applyMapping s lateMapping] at hfailed
  have hbuilt : Machine.InUse (fun m => m = lateMapping) s := .built hs
  have hinUse := hbuilt.perform (.applyMapping lateMapping) fun m hm => (Option.some.inj hm).symm
  generalize (Command.applyMapping lateMapping).perform s = t at *
  refine ⟨t, hinUse, hfailed, ?_⟩
  have hread := Bus.failed_read hbus.settled .word 0x20000004 ⟨t.registry, t.memory.toHardware⟩
  have hdevice := hbus.device_eq (regionOf 0x20000004)
  have haligned := alignWord_eq_self (by decide : (0x20000004 : UInt32).toNat % 4 = 0)
  have hoverflows : lateMapping.handler.overflows 0x20000004 = true := by decide
  rw [Mapping.handlerOver_concat, if_pos (by decide)] at hdevice
  rw [Width.words, List.any_cons, haligned, Bus.overflows, Bus.entryAt, hdevice, hoverflows,
    Bool.true_or, Bool.or_true] at hread
  exact hread

end RegionBus

import RegionBus.Probe.Run
import RegionBus.Proofs.Machine.Building
import RegionBus.Proofs.Machine.Synchronised
import RegionBus.Proofs.Probe.Findings
import RegionBus.Proofs.Probe.Printed

/-!
# What Breakpoints Change in a Report

A run of the probe with break options differs from the same run without any in three
ways: its machine has a debugger, its registry has a breakpoint on the word of each
address that the options name, and it has hits. The two machines have the same memory
and the same devices, so the reports differ only where a breakpoint can be seen: an
address is served by the debug handler where its region has a word with a breakpoint.

The hits follow from the order of registration. The breakpoints on reads come first and
those on writes behind them, the probe never writes, so a look at an address is a hit
iff its word is one of those whose reads are watched, and the first one counts.

All this is said of reports and of what was printed for them: `Report.Printed` finds each
row of a report in the text that a run ends with.

## Main definitions

* `Arguments.plain`: The same arguments without break options.
* `Arguments.breakpoints`: The breakpoints that the arguments ask for.
* `readHit?`: The hit of a look at an address.
* `Finding.Beside`, `BreakLaw`: A report beside that of the run without break options.
* `Guarded`: A machine after the breakpoints were set.

## Theorems

* `hit?_wordRead`: What is noted of a look at an address.
* `has_wantedChecks_iff_breaks`: The regions that the breakpoints watch.
* `guarded_setBreakpoints`: The machine after the breakpoints were set.
* `Guarded.beside`, `Guarded.breakLaw`: Two machines compared, one without breakpoints.
* `probe_reports_breaks`: What a run reports.
-/

namespace RegionBus

theorem Breakpoints.live_iff (l : Breakpoints) (b : Breakpoint) :
    l.Live b ↔ some b ∈ l.slots.toList := by
  rw [Live, List.mem_iff_getElem?]
  simp only [get?, Option.join_eq_some_iff, Array.getElem?_toList]

/-- A bus in line with its registry reflects what was mapped to it. -/
theorem Bus.Follows.reflects {D : Type} {history : List (Mapping D)} {l : Breakpoints}
    {bus : Bus D} (h : bus.Follows history l) : bus.Reflects history where
  settled := h.settled
  device_eq r := (h.serves r).device_eq
  kind_eq r := (h.serves r).kind_eq
  unwatched hnot := absurd (hnot.symm.trans h.intercepting) Bool.false_ne_true

namespace Probe

/-- The same arguments without break options. -/
def Arguments.plain (args : Arguments) : Arguments :=
  { args with breakReads := [], breakWrites := [] }

/-- The breakpoint on the word of an address. -/
def wordBreakpoint (k : AccessKind) (a : UInt32) : Breakpoint :=
  ⟨a &&& ~~~3, a ||| 3, k.watched⟩

/-- The addresses of the words where a kind of access is watched. -/
def Arguments.breaks (args : Arguments) : AccessKind → List UInt32
  | .read => args.breakReads
  | .write => args.breakWrites

/-- The breakpoints that the arguments ask for, by index. -/
def Arguments.breakpoints (args : Arguments) : List (Option Breakpoint) :=
  args.breakReads.map (fun a => some (wordBreakpoint .read a)) ++
    args.breakWrites.map fun a => some (wordBreakpoint .write a)

/-- The hit of a look at an address: the first word that it is on counts. -/
def readHit? (reads : List UInt32) (a : UInt32) : Option Hit :=
  (reads.findIdx? fun b => b &&& ~~~3 == a &&& ~~~3).map fun i =>
    ⟨i, 0xFFFFFFFC, a &&& ~~~3, 4, .union .enabled .read⟩

/-- The region of an address has a word that the break options name. -/
def Arguments.Watches (args : Arguments) (a : UInt32) : Prop :=
  ∃ b ∈ args.breakReads ++ args.breakWrites, regionOf b = regionOf a

instance (args : Arguments) (a : UInt32) : Decidable (args.Watches a) :=
  inferInstanceAs (Decidable (∃ b ∈ _, _))

/-- A finding beside that of the run without break options. -/
structure Finding.Beside (args : Arguments) (f plain : Finding) : Prop where
  /-- The addresses are the same. -/
  address_eq : f.address = plain.address
  /-- So are the kinds of device. -/
  device_eq : f.device = plain.device
  /-- So are the windows. -/
  window_eq : f.window = plain.window
  /-- So are the words that were read. -/
  value_eq : f.value = plain.value
  /-- The debug handler serves the address where the options say so. -/
  handler_eq : f.handler = if args.Watches f.address then "debug handler" else plain.handler
  /-- Without break options it never does. -/
  plain_handler : plain.handler ≠ "debug handler"

/-- What holds of a report beside that of the run without break options. -/
structure BreakLaw (args : Arguments) (r plain : Report) : Prop where
  /-- The addresses are those of the arguments, in order. -/
  addresses : r.findings.map Finding.address = args.addresses
  /-- There is one hit for each address whose word is watched, in order, and the newest
      ones are kept. -/
  hits : r.hits = (args.addresses.filterMap (readHit? args.breakReads)).rtake maxHits
  /-- Every hit is a read, and one of a breakpoint on reads. -/
  reads : ∀ hit ∈ r.hits, hitKind hit = "read" ∧ hit.index < args.breakReads.length
  /-- Every finding is beside the one of the same address. -/
  columns : List.Forall₂ (Finding.Beside args) r.findings plain.findings

section Words

/-- The last byte of a word. -/
theorem toNat_lastByte (a : UInt32) : (a ||| 3).toNat = a.toNat / 4 * 4 + 3 := by
  have hlow : ∀ r < 4, r ||| 3 = 3 := by decide
  have hsplit : a.toNat = 2 ^ 2 * (a.toNat / 4) ||| a.toNat % 4 := by
    rw [← Nat.two_pow_add_eq_or_of_lt (by omega)]
    omega
  have hthree : (3 : UInt32).toNat = 3 := rfl
  -- Both low bits are set, whatever they were.
  rw [UInt32.toNat_or, hthree, hsplit, Nat.or_assoc, hlow _ (by omega),
    ← Nat.two_pow_add_eq_or_of_lt (by decide)]
  omega

/-- A look at an address meets a breakpoint on a word iff reads are watched and the word is
    that of the address. -/
theorem meets_wordBreakpoint (k : AccessKind) (a b : UInt32) :
    (wordRead a).meets (wordBreakpoint k b) = (k == .read && b &&& ~~~3 == a &&& ~~~3) := by
  have hb := b.toNat_lt
  have hflags : k.watched.contains .enabled = true ∧
      k.watched.contains AccessKind.read.flag = (k == .read) := by
    cases k <;> decide
  have hend := (inWord_of_aligned (aligned_word a)).toNat_end
  have hoverlaps : (wordBreakpoint k b).overlaps (a &&& ~~~3) ((a &&& ~~~3) + (4 - 1)) =
      (b &&& ~~~3 == a &&& ~~~3) := by
    rw [Bool.eq_iff_iff, Breakpoint.overlaps, Bool.and_eq_true, decide_eq_true_eq,
      decide_eq_true_eq, beq_iff_eq, ← UInt32.toNat_inj, UInt32.le_iff_toNat_le,
      UInt32.le_iff_toNat_le, hend, wordBreakpoint, toNat_lastByte, toNat_alignWord,
      toNat_alignWord]
    change _ ≤ _ + (4 - 1) ∧ _ ↔ _
    omega
  rw [Report.meets, wordRead, hoverlaps]
  rw [wordBreakpoint, hflags.1, hflags.2, Bool.true_and]

/-- A breakpoint on a word meets the region that the word lies in, and no other. -/
theorem overlaps_region_iff (k : AccessKind) (a : UInt32) (r : Region) :
    (wordBreakpoint k a).overlaps r.base r.last = true ↔ regionOf a = r := by
  rw [Breakpoint.overlaps, Bool.and_eq_true, decide_eq_true_eq, decide_eq_true_eq,
    UInt32.le_iff_toNat_le, UInt32.le_iff_toNat_le, wordBreakpoint, toNat_lastByte,
    toNat_alignWord, Region.toNat_base, Region.toNat_last, Fin.ext_iff]
  simp only [regionOf]
  omega

end Words

/-- What is noted of a look at an address, if the breakpoints are those that the
    arguments ask for. -/
theorem hit?_wordRead (args : Arguments) (hits : List Hit) (a : UInt32) :
    (Observer.mk args.breakpoints 0 hits).hit? (wordRead a) = readHit? args.breakReads a := by
  have hreads : (args.breakReads.map fun b => some (wordBreakpoint .read b)).findIdx?
      (fun slot => slot.any (wordRead a).meets) =
        args.breakReads.findIdx? fun b => b &&& ~~~3 == a &&& ~~~3 := by
    rw [List.findIdx?_map]
    congr 1
    funext b
    exact meets_wordBreakpoint .read a b
  have hwrites : (args.breakWrites.map fun b => some (wordBreakpoint .write b)).findIdx?
      (fun slot => slot.any (wordRead a).meets) = none := by
    rw [List.findIdx?_eq_none_iff]
    intro slot hslot
    rcases List.mem_map.mp hslot with ⟨b, -, rfl⟩
    exact meets_wordBreakpoint .write a b
  rw [Observer.hit?, readHit?, Arguments.breakpoints, List.findIdx?_append, hreads, hwrites]
  cases args.breakReads.findIdx? fun b => b &&& ~~~3 == a &&& ~~~3 <;> rfl

section Registered

variable {args : Arguments}

theorem some_mem_breakpoints_iff (b : Breakpoint) : some b ∈ args.breakpoints ↔
    ∃ k, ∃ a ∈ args.breaks k, wordBreakpoint k a = b := by
  simp only [Arguments.breakpoints, List.mem_append, List.mem_map, Option.some.injEq]
  constructor
  · rintro (h | h)
    · exact ⟨.read, h⟩
    · exact ⟨.write, h⟩
  · rintro ⟨k, h⟩
    cases k with
    | read => exact Or.inl h
    | write => exact Or.inr h

/-- A kind of access is wanted in the regions that the options name for it. -/
theorem has_wantedChecks_iff_breaks {l : Breakpoints} (hl : l.slots.toList = args.breakpoints)
    (r : Region) (k : AccessKind) : (Bus.wantedChecks (some l) r).has k = true ↔
      ∃ a ∈ args.breaks k, regionOf a = r := by
  have hflags : ∀ j, (AccessKind.watched j).contains .enabled = true ∧
      ((AccessKind.watched j).contains k.flag = true ↔ j = k) := by
    intro j
    cases j <;> cases k <;> decide
  rw [Bus.has_wantedChecks_iff]
  constructor
  · rintro ⟨l', hl', hfound⟩
    rw [← Option.some.inj hl'] at hfound
    rcases (l.isSome_lookup?_region_iff r k).mp hfound with ⟨b, hlive, hmeets, -, hkind⟩
    rw [l.live_iff, hl, some_mem_breakpoints_iff] at hlive
    rcases hlive with ⟨j, a, ha, rfl⟩
    have hj : j = k := (hflags j).2.mp hkind
    rw [hj] at ha
    exact ⟨a, ha, (overlaps_region_iff j a r).mp hmeets⟩
  · rintro ⟨a, ha, hr⟩
    refine ⟨l, rfl, (l.isSome_lookup?_region_iff r k).mpr
      ⟨wordBreakpoint k a, ?_, (overlaps_region_iff k a r).mpr hr, (hflags k).1,
        (hflags k).2.mpr rfl⟩⟩
    rw [l.live_iff, hl, some_mem_breakpoints_iff]
    exact ⟨k, a, ha, rfl⟩

end Registered

/-- A machine that was built with some main memory, after the breakpoints were set that the
    arguments ask for. -/
structure Guarded (args : Arguments) (dramSize : Nat) (memory : RawMemory Unit)
    (s : Machine Empty Unit) : Prop where
  /-- The memory is still the same. -/
  memory_eq : s.memory = memory
  /-- The devices are still those of the standard map. -/
  reflects : s.bus.Reflects (standardMap (UInt32.ofNat dramSize))
  /-- A kind of access is watched in the regions that the options name for it. -/
  watches : ∀ r k, ((s.bus.entry r).checks.has k = true ↔ ∃ a ∈ args.breaks k, regionOf a = r)
  /-- The hits are those of looks at words whose reads are watched. -/
  hits : ∀ addresses, (Report.take s addresses).hits =
    (addresses.filterMap (readHit? args.breakReads)).rtake maxHits

section Setting

variable {args : Arguments} {c : Config} {memory : RawMemory Unit} {s : Machine Empty Unit}
  {history : List (Mapping (Device Empty))} {o : Observer}

/-- Breakpoints set one after the other stand behind those that were there. -/
theorem observes_breakOnWord (h : o.Observes history s) (k : AccessKind)
    (addresses : List UInt32) :
    Observer.Observes ⟨o.breakpoints ++ addresses.map fun a => some (wordBreakpoint k a),
      o.lastPc, o.hits⟩ history (addresses.foldl (breakOnWord k) s) := by
  induction addresses generalizing o s with
  | nil =>
      rw [List.map_nil, List.append_nil]
      exact h
  | cons a addresses ih =>
      have hforeign : (Command.addBreakpoint (a &&& ~~~3) (a ||| 3) k.watched :
        Command Empty Unit).Foreign := trivial
      have hadd := h.perform hforeign
      have hnone : history ++ (Command.addBreakpoint (a &&& ~~~3) (a ||| 3) k.watched :
        Command Empty Unit).mapping?.toList = history := List.append_nil history
      rw [hnone] at hadd
      have hrest := ih hadd
      rw [Observer.perform, List.append_assoc] at hrest
      exact hrest

theorem memory_breakOnWord (k : AccessKind) (addresses : List UInt32) :
    (addresses.foldl (breakOnWord k) s).memory = s.memory := by
  induction addresses generalizing s with
  | nil => rfl
  | cons a addresses ih =>
      rw [List.foldl_cons, ih]
      exact Machine.memory_addBreakpoint s _ _ _

/-- With a debugger the breakpoints are set, those on reads first. -/
theorem guarded_of_follows (hn : ValidDramSize (configure args c).dramSize)
    (h : s.Fresh (configure args c) memory)
    (hdebugger : (configure args c).debugger = true) :
    Guarded args (configure args c).dramSize memory (setBreakpoints args s) := by
  have hstart : Observer.start.Observes (standardMap (UInt32.ofNat (configure args c).dramSize))
      s := Observer.observes_start (h.follows hdebugger) h.lastPc_eq
  have hset : (Observer.mk args.breakpoints 0 []).Observes _ (setBreakpoints args s) :=
    observes_breakOnWord (observes_breakOnWord hstart .read args.breakReads) .write
      args.breakWrites
  rcases hset with ⟨⟨l, hfollows, hseen⟩, hpc⟩
  constructor
  case memory_eq =>
    rw [setBreakpoints, memory_breakOnWord, memory_breakOnWord, h.memory_eq]
  case reflects => exact hfollows.bus.reflects
  case watches =>
    intro r k
    rw [(hfollows.bus.serves r).checks_eq]
    exact has_wantedChecks_iff_breaks hseen.slots r k
  case hits =>
    intro addresses
    have hbuiltIn := Bus.Reflects.builtIn hn hfollows.bus.reflects
    rw [hits_take hbuiltIn ⟨⟨l, hfollows, hseen⟩, hpc⟩, List.nil_append, List.filterMap_map]
    congr 2
    funext a
    exact hit?_wordRead args [] a

/-- Without one there is nothing to set. -/
theorem guarded_of_none (hn : ValidDramSize (configure args c).dramSize)
    (h : s.Fresh (configure args c) memory)
    (hdebugger : (configure args c).debugger = false) :
    Guarded args (configure args c).dramSize memory (setBreakpoints args s) := by
  have hnone : args.breakReads = [] ∧ args.breakWrites = [] := by
    by_contra hsome
    rw [configure, if_neg hsome] at hdebugger
    cases hdebugger
  have hsame : setBreakpoints args s = s := by
    rw [setBreakpoints, hnone.1, hnone.2, List.foldl_nil, List.foldl_nil]
  rw [hsame]
  constructor
  case memory_eq => exact h.memory_eq
  case reflects => exact h.reflects
  case watches =>
    intro r k
    have hbreaks : args.breaks k = [] := by
      cases k with
      | read => exact hnone.1
      | write => exact hnone.2
    have hchecks : Checks.none.has k = false := by cases k <;> rfl
    rw [h.unwatched r, hbreaks, hchecks]
    simp only [List.not_mem_nil, false_and, exists_false, Bool.false_eq_true]
  case hits =>
    intro addresses
    have hregistry : s.registry = none := by
      rw [h.registry_eq, hdebugger]
      rfl
    have hmiss : addresses.filterMap (readHit? args.breakReads) = [] := by
      rw [hnone.1]
      exact List.filterMap_eq_nil_iff.mpr fun a _ => rfl
    rw [hits_take_bare (Bus.Reflects.builtIn hn h.reflects) hregistry, hmiss, List.rtake_nil]

/-- The breakpoints that the arguments ask for are set on a machine that was built for
    them. -/
theorem guarded_setBreakpoints (hn : ValidDramSize (configure args c).dramSize)
    (h : s.Fresh (configure args c) memory) :
    Guarded args (configure args c).dramSize memory (setBreakpoints args s) := by
  cases hdebugger : (configure args c).debugger with
  | true => exact guarded_of_follows hn h hdebugger
  | false => exact guarded_of_none hn h hdebugger

end Setting

section Columns

variable {args : Arguments} {n : Nat} {memory : RawMemory Unit} {s s' : Machine Empty Unit}

/-- The region of an address is watched iff the options name a word of it. -/
theorem Guarded.isEmpty_iff (h : Guarded args n memory s) (a : UInt32) :
    (s.bus.entry (regionOf a)).checks.isEmpty = false ↔ args.Watches a := by
  have hread := h.watches (regionOf a) .read
  have hwrite := h.watches (regionOf a) .write
  simp only [Checks.has, Arguments.breaks] at hread hwrite
  simp only [Checks.isEmpty, Arguments.Watches, List.mem_append, or_and_right, exists_or,
    ← hread, ← hwrite, Bool.and_eq_false_iff, Bool.not_eq_false']

/-- Who serves an address: the debug handler where the options say so, else the device. -/
theorem Guarded.live_eq (h : Guarded args n memory s) (hn : ValidDramSize n) (a : UInt32) :
    (s.bus.entryAt a).live = if args.Watches a then .debug else standardHandler n a := by
  have hlive := (h.reflects.settled (regionOf a)).live_eq
  rw [h.reflects.device_eq, handlerOver_standardMap hn] at hlive
  rw [Bus.entryAt, hlive]
  by_cases hwatches : args.Watches a
  · rw [if_pos hwatches, (h.isEmpty_iff a).mpr hwatches, if_neg Bool.false_ne_true]
  · rw [if_neg hwatches, if_pos]
    rw [← Bool.not_eq_false, h.isEmpty_iff]
    exact hwatches

/-- No device of the machine has the name of the debug handler. -/
theorem name_standardHandler (n : Nat) (a : UInt32) :
    (standardHandler (X := Empty) n a).name ≠ "debug handler" := by
  unfold standardHandler
  repeat' split
  all_goals decide

theorem not_watches_plain (args : Arguments) (a : UInt32) : ¬ args.plain.Watches a := by
  rintro ⟨b, hb, -⟩
  exact List.not_mem_nil hb

/-- What is found at an address on two machines with the same memory, one of them without
    breakpoints. -/
theorem Guarded.beside (h : Guarded args n memory s) (h' : Guarded args.plain n memory s')
    (hn : ValidDramSize n) (a : UInt32) :
    Finding.Beside args (.of s.bus s.memory.toHardware a)
      (.of s'.bus s'.memory.toHardware a) := by
  have hlive := h.live_eq hn a
  have hlive' := h'.live_eq hn a
  rw [if_neg (not_watches_plain args a)] at hlive'
  constructor
  case address_eq => rfl
  case window_eq => rfl
  case device_eq =>
    simp only [Finding.of, Bus.kindAt, Bus.entryAt]
    rw [h.reflects.kind_eq, h'.reflects.kind_eq]
  case value_eq =>
    simp only [Finding.of, Bus.entryAt]
    rw [h.reflects.device_eq, h'.reflects.device_eq, h.memory_eq, h'.memory_eq]
  case handler_eq =>
    change (s.bus.entryAt a).live.name =
      if args.Watches a then "debug handler" else (s'.bus.entryAt a).live.name
    rw [hlive, hlive', apply_ite Handler.name]
    rfl
  case plain_handler =>
    simp only [Finding.of]
    rw [hlive']
    exact name_standardHandler n a

/-- The names in a report can be printed in columns. -/
theorem Guarded.tidy (h : Guarded args n memory s) (hn : ValidDramSize n)
    (addresses : List UInt32) : ∀ f ∈ (Report.take s addresses).findings, f.Tidy := by
  have hwindows : ∀ w ∈ Catalog.standard.windows, Unbroken w.name := by decide
  rw [findings_take (Bus.Reflects.builtIn hn h.reflects), List.forall_mem_map]
  intro a _
  have hhandler : (Finding.of s.bus s.memory.toHardware a).handler.length ≤ 16 ∧
      Unbroken (Finding.of s.bus s.memory.toHardware a).handler := by
    simp only [Finding.of, h.live_eq hn a, standardHandler]
    repeat' split
    all_goals decide
  constructor
  case length_le => exact hhandler.1
  case handler => exact hhandler.2
  case window =>
    simp only [Finding.of]
    cases hw : Catalog.standard.windowFor? a with
    | none => decide
    | some w => exact hwindows w (List.mem_of_find?_eq_some hw)

/-- A hit of a look is a read, and one of a breakpoint on reads. -/
theorem of_readHit? {reads : List UInt32} {a : UInt32} {hit : Hit}
    (h : readHit? reads a = some hit) : hitKind hit = "read" ∧ hit.index < reads.length := by
  rcases Option.map_eq_some_iff.mp h with ⟨i, hi, rfl⟩
  have hread : (Flags.enabled.union .read).contains .write = false := by decide
  refine ⟨?_, (List.findIdx?_eq_some_iff_getElem.mp hi).1⟩
  rw [hitKind, hread]
  rfl

/-- What is reported of two such machines. -/
theorem Guarded.breakLaw (h : Guarded args n memory s) (h' : Guarded args.plain n memory s')
    (hn : ValidDramSize n) :
    BreakLaw args (.take s args.addresses) (.take s' args.addresses) := by
  have hfindings := findings_take (Bus.Reflects.builtIn hn h.reflects) args.addresses
  constructor
  case addresses =>
    rw [hfindings, List.map_map]
    exact List.map_id _
  case hits => exact h.hits args.addresses
  case reads =>
    intro hit hhit
    rw [h.hits args.addresses] at hhit
    rcases List.mem_filterMap.mp (List.mem_of_mem_drop hhit) with ⟨a, -, ha⟩
    exact of_readHit? ha
  case columns =>
    rw [hfindings, findings_take (Bus.Reflects.builtIn hn h'.reflects), List.forall₂_map_left_iff,
      List.forall₂_map_right_iff, List.forall₂_same]
    exact fun a _ => h.beside h' hn a

end Columns

/-- Without break options the configuration is the same up to the debugger. -/
theorem configure_plain (args : Arguments) (c : Config) :
    configure args.plain c = { configure args c with debugger := c.debugger } := by
  by_cases hnone : args.breakReads = [] ∧ args.breakWrites = []
  · simp only [configure, Arguments.plain, and_self, if_true, if_pos hnone]
    cases args.rom <;> rfl
  · simp only [configure, Arguments.plain, and_self, if_true, if_neg hnone]
    cases args.rom <;> rfl

/-- A probe prints one finding for each address and one hit for each address whose word is
    watched, both in the order of the addresses. Apart from its hits and from the regions that
    the debug handler serves, its report is that of the same run without break options. -/
theorem probe_reports_breaks (readFile : ImagePath → Option Image) (args : Arguments)
    (c : Config) {s : Machine Empty Unit}
    (h : Machine.build (m := Id) readFile (configure args c) () = .ok s) :
    ∃ r plain text plainText, runWith (m := Id) readFile args c = .report text ∧
      runWith (m := Id) readFile args.plain c = .report plainText ∧
      r.Printed args.json text ∧ plain.Printed args.json plainText ∧ BreakLaw args r plain := by
  rcases Machine.fresh_of_build h with ⟨memory, hmemory, hfresh⟩
  have hplain : RawMemory.build readFile (configure args.plain c) () = .ok memory := by
    rw [configure_plain]
    exact hmemory
  rcases Machine.exists_build (X := Empty) hplain with ⟨s', h', hfresh'⟩
  have hn := RawMemory.valid_of_build hmemory
  have hguarded := guarded_setBreakpoints hn hfresh
  have hguarded' := guarded_setBreakpoints (RawMemory.valid_of_build hplain) hfresh'
  rw [congrArg Config.dramSize (configure_plain args c)] at hguarded'
  refine ⟨_, _, _, _, ?_, ?_, printed_showReport args (hguarded.tidy hn args.addresses),
    printed_showReport args.plain (hguarded'.tidy hn args.addresses),
    hguarded.breakLaw hguarded' hn⟩
  · rw [runWith, h]
    rfl
  · rw [runWith, h']
    rfl

/-- Looks at a word that is watched twice, at one whose writes are watched, and at one that
    shares its region with the first. -/
def Arguments.watchedTwice : Arguments where
  addresses := [0x04000006, 0x10, 0x0400000C, 0x04000004]
  config := none
  rom := none
  breakReads := [0x04000005, 0x04000007]
  breakWrites := [0x10]
  json := true

theorem probe_reports_breaks_watchedTwice : ∃ r plain text,
    runWith (m := Id) (fun _ => none) .watchedTwice .default = .report text ∧
      r.Printed true text ∧ BreakLaw .watchedTwice r plain ∧
      r.hits = [⟨0, 0xFFFFFFFC, 0x04000004, 4, .union .enabled .read⟩,
        ⟨0, 0xFFFFFFFC, 0x04000004, 4, .union .enabled .read⟩] := by
  have hmemory : ∃ memory, RawMemory.build (fun _ => none)
      (configure .watchedTwice .default) () = .ok memory := ⟨_, rfl⟩
  rcases hmemory with ⟨memory, hmemory⟩
  rcases Machine.exists_build (X := Empty) hmemory with ⟨s, hs, -⟩
  rcases probe_reports_breaks (fun _ => none) .watchedTwice .default hs with
    ⟨r, plain, text, -, hrun, -, hprinted, -, hlaw⟩
  refine ⟨r, plain, text, hrun, hprinted, hlaw, ?_⟩
  rw [hlaw.hits]
  decide

end Probe

end RegionBus

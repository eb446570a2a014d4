import RegionBus.Proofs.Machine.Upkeep

/-!
# Registry and Bus Agree

The registry and the bus of a machine agree in every region, whatever the
machine was told to do. Three things come out of it. In each region the bus
watches what the registry finds breakpoints for, and the handlers are those of
the last mapping. Two machines that saw the same mappings and have the same
breakpoints dispatch alike, however they got there. And a mapping and a
breakpoint may change places: the machine is the same afterwards.

## Main definitions

* `Machine.Reached`: A machine that some commands have led to.
* `Synchronised`: What a region of the bus has to be.
* `SyncLaw`: What holds of every machine that is reached.

## Theorems

* `follows_of_reached`: Every machine that is reached keeps its bus in line.
* `addBreakpoint_applyMapping`: A mapping and a breakpoint change places.
* `sync_law`: Registry and bus agree on every machine that is reached.
-/

namespace RegionBus

variable {X A : Type}

/-- A machine with a debugger that some commands have led to, with the mappings
    there were on the way, those of the machine to begin with included. No
    command maps the debug handler. -/
inductive Machine.Reached [AttachedDevice X A] : List (Mapping (Device X)) → Machine X A → Prop
  /-- The machine to begin with, over any store. -/
  | start {store : Store} {attached : A} {s : Machine X A}
      (hs : Machine.withStore store true attached = .ok s) :
      Reached (standardMap store.dramWord) s
  /-- One more command. -/
  | step {history : List (Mapping (Device X))} {s : Machine X A} (h : Reached history s)
      (command : Command X A) (hf : command.Foreign) :
      Reached (history ++ command.mapping?.toList) (command.perform s)

/-- A breakpoint is in the registry of a machine. -/
def Machine.Live (s : Machine X A) (b : Breakpoint) : Prop :=
  ∃ l, s.registry = some l ∧ l.Live b

/-- What a region of the bus has to be after some mappings, with some breakpoints. -/
structure Synchronised {D : Type} (history : List (Mapping D)) (l : Breakpoints) (bus : Bus D)
    (r : Region) : Prop where
  /-- A kind of access is watched iff the registry finds a breakpoint for it. -/
  checks_iff : ∀ k, (bus.entry r).checks.has k = true ↔
    (l.lookup? r.base regionSize k.watched).isSome
  /-- If anything is watched, the debug handler is live, and the handler of the
      last mapping is saved. -/
  watched : (bus.entry r).checks ≠ .none → (bus.entry r).live = .debug ∧
    (bus.entry r).saved = some (Mapping.handlerOver history r)
  /-- Otherwise the handler of the last mapping is live, and none is saved. -/
  unwatched : (bus.entry r).checks = .none →
    (bus.entry r).live = Mapping.handlerOver history r ∧ (bus.entry r).saved = none
  /-- The kind of device is that of the last mapping. -/
  kind_eq : (bus.entry r).kind = Mapping.kindOver history r

/-- What holds of every machine that is reached with some mappings. -/
structure SyncLaw [AttachedDevice X A] (history : List (Mapping (Device X)))
    (s : Machine X A) : Prop where
  /-- There is a registry, and every region is as it and the mappings have it. -/
  synchronised : ∃ l, s.registry = some l ∧ ∀ r, Synchronised history l s.bus r
  /-- The bus knows the same of every region as that of any other machine with the
      same mappings and the same live breakpoints. -/
  determined : ∀ t : Machine X A, Machine.Reached history t → (∀ b, s.Live b ↔ t.Live b) →
    ∀ r, s.bus.entry r = t.bus.entry r
  /-- A mapping and a breakpoint may change places. -/
  commutes : ∀ m : Mapping (Device X), m.handler.isDebug = false →
    ∀ (first last : UInt32) (flags : Flags),
      (s.addBreakpoint first last flags).2.applyMapping m =
        (s.applyMapping m).map fun t => (t.addBreakpoint first last flags).2

theorem Bus.Follows.synchronised {D : Type} {history : List (Mapping D)} {l : Breakpoints}
    {bus : Bus D} (h : bus.Follows history l) (r : Region) : Synchronised history l bus r := by
  have hserves := h.serves r
  have hlive := hserves.settled.live_eq
  have hsaved := hserves.settled.saved_eq
  rw [hserves.device_eq] at hlive hsaved
  constructor
  case checks_iff =>
    intro k
    rw [hserves.checks_eq, has_wantedChecks_iff]
    constructor
    · rintro ⟨l', hl, hsome⟩
      rw [Option.some.inj hl]
      exact hsome
    · exact fun hsome => ⟨l, rfl, hsome⟩
  case watched =>
    intro hc
    -- The debug handler is live here, in front of the device.
    have hne : ¬ (bus.entry r).checks.isEmpty = true := fun he =>
      hc ((Checks.isEmpty_iff _).mp he)
    rw [if_neg hne] at hlive hsaved
    exact ⟨hlive, hsaved⟩
  case unwatched =>
    intro hc
    have he : (bus.entry r).checks.isEmpty = true := (Checks.isEmpty_iff _).mpr hc
    rw [if_pos he] at hlive hsaved
    exact ⟨hlive, hsaved⟩
  case kind_eq => exact hserves.kind_eq

section Commute

variable {history : List (Mapping (Device X))} {l : Breakpoints} {s t : Machine X A}
  {m : Mapping (Device X)}

namespace Machine

theorem memory_addBreakpoint (s : Machine X A) (first last : UInt32) (flags : Flags) :
    (s.addBreakpoint first last flags).2.memory = s.memory := by
  rcases s with ⟨memory, bus, registry⟩
  cases registry <;> rfl

/-- A mapping and a breakpoint change places. -/
theorem addBreakpoint_applyMapping (h : s.Follows history l) (hm : m.handler.isDebug = false)
    (first last : UInt32) (flags : Flags) :
    (s.addBreakpoint first last flags).2.applyMapping m =
      (s.applyMapping m).map fun t => (t.addBreakpoint first last flags).2 := by
  have hadded := follows_addBreakpoint h first last flags
  cases hmapped : s.applyMapping m with
  | error e =>
      -- A mapping that is refused is refused with or without the breakpoint.
      have hbus := applyMapping_eq_error_iff.mp hmapped
      exact applyMapping_eq_error_iff.mpr (Bus.apply_error_eq hbus _ _)
  | ok t =>
      rcases applyMapping_eq_ok_iff.mp hmapped with ⟨bus, hbus, -⟩
      have hle := (Bus.apply_isOk_iff _ _ m).mp ⟨bus, hbus⟩
      rcases (Bus.apply_isOk_iff (s.addBreakpoint first last flags).2.bus
        (s.addBreakpoint first last flags).2.registry m).mpr hle with ⟨bus', hbus'⟩
      have hlast := applyMapping_eq_ok_iff.mpr ⟨bus', hbus', rfl⟩
      rw [hlast]
      -- Both ways lead to the same mappings and the same registry.
      have hright := follows_addBreakpoint (follows_applyMapping h hm hmapped) first last flags
      refine congrArg Except.ok ((follows_applyMapping hadded hm hlast).unique hright ?_ ?_)
      · rw [memory_applyMapping hlast, memory_addBreakpoint, memory_addBreakpoint,
          memory_applyMapping hmapped]
      · rw [lastPc_applyMapping hlast, lastPc_addBreakpoint h, lastPc_addBreakpoint
          (follows_applyMapping h hm hmapped), lastPc_applyMapping hmapped]

end Machine

end Commute

section Law

variable [AttachedDevice X A] {history : List (Mapping (Device X))} {s : Machine X A}

/-- Every machine that is reached keeps its bus in line with its registry. -/
theorem Machine.follows_of_reached (h : Reached history s) : ∃ l, s.Follows history l := by
  induction h with
  | start hs => exact ⟨.empty, follows_withStore hs⟩
  | step h command hf ih =>
      rcases ih with ⟨l, hl⟩
      exact ⟨_, follows_perform hl hf⟩

/-- Some more commands lead to some more machines. -/
theorem Machine.reached_after (h : Reached history s) (commands : List (Command X A))
    (hf : ∀ command ∈ commands, command.Foreign) :
    Reached (history ++ commands.filterMap Command.mapping?) (s.after commands) := by
  induction commands generalizing history s with
  | nil =>
      rw [List.filterMap_nil, List.append_nil]
      exact h
  | cons command commands ih =>
      have hrest := ih (h.step command (hf command List.mem_cons_self))
        (fun c hc => hf c (List.mem_cons_of_mem command hc))
      rw [List.append_assoc] at hrest
      cases hm : command.mapping? with
      | none =>
          rw [hm, Option.toList_none, List.nil_append] at hrest
          rw [List.filterMap_cons_none hm]
          exact hrest
      | some m =>
          rw [hm, Option.toList_some, List.singleton_append] at hrest
          rw [List.filterMap_cons_some hm]
          exact hrest

/-- Registry and bus agree on every machine that is reached. -/
theorem sync_law (h : Machine.Reached history s) : SyncLaw history s := by
  rcases Machine.follows_of_reached h with ⟨l, hl⟩
  constructor
  case synchronised => exact ⟨l, hl.registry, hl.bus.synchronised⟩
  case determined =>
    intro t ht hlive r
    rcases Machine.follows_of_reached ht with ⟨l', hl'⟩
    -- What a registry wants depends on its live breakpoints, not on their indices.
    have hsame : ∀ b, l.Live b ↔ l'.Live b := by
      intro b
      have hb := hlive b
      simp only [Machine.Live, hl.registry, hl'.registry, Option.some.injEq,
        exists_eq_left'] at hb
      exact hb
    exact hl.bus.entry_eq hl'.bus (Breakpoints.wantedChecks_eq_of_live fun b _ => hsame b)
  case commutes =>
    intro m hm first last flags
    exact Machine.addBreakpoint_applyMapping hl hm first last flags

end Law

/-- Breakpoints over several regions, with their bounds either way round, that
    come and go around mappings of what they watch. -/
def Command.crossing : List (Command Empty Unit) :=
  [.addBreakpoint 0x2FFFF 0x10000 (.union .enabled .read),
    .applyMapping ⟨0x1FFFF, 0x20000, .rom, .device (.rom cartridge)⟩,
    .addBreakpoint 0x1FFF0 0x20010 (.union .enabled .write), .removeBreakpoint 0,
    .applyMapping ⟨0x20000, 0x1FFFF, .pif, .openBus⟩, .setBreakpointEnabled 1 false,
    .write .double 0x1FFF8 0x1122334455667788, .takeHits]

theorem sync_law_crossing : ∃ s : Machine Empty Unit,
    Machine.Reached (standardMap 0x800000 ++ Command.crossing.filterMap Command.mapping?) s ∧
      SyncLaw (standardMap 0x800000 ++ Command.crossing.filterMap Command.mapping?) s := by
  have hword : (Store.ofGrants 0x800000 []).dramWord = 0x800000 := by decide
  have hf : ∀ command ∈ Command.crossing, command.Foreign := by decide
  rcases Machine.exists_withStore_bare with ⟨s, hs⟩
  have h := Machine.reached_after (.start hs) Command.crossing hf
  rw [hword] at h
  exact ⟨_, h, sync_law h⟩

end RegionBus

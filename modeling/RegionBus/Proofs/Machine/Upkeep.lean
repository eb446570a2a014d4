import RegionBus.Proofs.Machine.Command
import RegionBus.Proofs.Machine.Following
import RegionBus.Proofs.StandardMap.Layout

/-!
# A Machine Keeps its Bus in Line

Whatever a machine is told to do, its bus stays in line with its registry.
`follows_perform` shows it for each command, and says what the command makes of
the registry as well: `Command.onRegistry` knows nothing of the bus. It adds,
removes and switches breakpoints, and for an access it reports every word, as if
all regions were watched.

The machine to begin with is in line too, since no breakpoint was there when
the standard map was installed.

## Main definitions

* `Command.onRegistry`: What a command makes of the registry.
* `Machine.Follows`: A machine whose bus is in line with its registry.

## Theorems

* `follows_addBreakpoint`, `follows_removeBreakpoint`, `follows_setBreakpointEnabled`,
  `follows_applyMapping`, `follows_access`: The commands that matter to breakpoints.
* `follows_perform`: Every command keeps the bus in line.
* `follows_withStore`: So it is to begin with.
* `Follows.unique`: Such a machine is known by its mappings and its registry.
-/

namespace RegionBus

variable {X A : Type}

/-- What a command makes of the registry, when a program counter was announced. -/
def Command.onRegistry (lastPc : UInt32) (l : Breakpoints) : Command X A → Breakpoints
  | addBreakpoint first last flags => (l.add first last flags).2
  | removeBreakpoint index => (l.remove index).2
  | setBreakpointEnabled index on => (l.setEnabled index on).2
  | takeHits => l.takeHits.2
  | command => command.reports.foldl (fun l x => l.hear lastPc x) l

/-- A machine with a registry and a bus in line with it. -/
structure Machine.Follows (history : List (Mapping (Device X))) (l : Breakpoints)
    (s : Machine X A) : Prop where
  /-- The registry. -/
  registry : s.registry = some l
  /-- The bus is in line with it. -/
  bus : s.bus.Follows history l

theorem Breakpoints.slots_foldl_hear (l : Breakpoints) (lastPc : UInt32)
    (reports : List Report) :
    (reports.foldl (fun l x => l.hear lastPc x) l).slots = l.slots := by
  induction reports generalizing l with
  | nil => rfl
  | cons x reports ih =>
      rw [List.foldl_cons, ih, hear, slots_report]

/-- On a bus in line with its registry all accesses might as well be reported. -/
theorem Bus.Follows.foldl_told {D : Type} {history : List (Mapping D)} {l : Breakpoints}
    {bus : Bus D} (h : bus.Follows history l) {reports : List Report}
    (hw : ∀ x ∈ reports, InWord x.address x.size) :
    reports.foldl (fun l x => bus.told x.kind x.address x.size l) (some l) =
      some (reports.foldl (fun l x => l.hear bus.lastPc x) l) := by
  induction reports generalizing l with
  | nil => rfl
  | cons x reports ih =>
      rw [List.foldl_cons, List.foldl_cons, h.told (hw x List.mem_cons_self)]
      -- The registry has changed, but it wants the same watched as before.
      refine ih (h.exchange fun r => ?_) (fun y hy => hw y (List.mem_cons_of_mem x hy))
      exact Breakpoints.wantedChecks_eq_of_get?
        (Breakpoints.get?_of_slots_eq (l.slots_report _ _ _ _)) r

namespace Machine

variable {history : List (Mapping (Device X))} {l : Breakpoints} {s : Machine X A}

/-- A machine in line with given mappings and a given registry is known by its
    memory and its program counter. -/
theorem Follows.unique (hs : s.Follows history l) {t : Machine X A} (ht : t.Follows history l)
    (hm : s.memory = t.memory) (hp : s.bus.lastPc = t.bus.lastPc) : s = t := by
  have hi : s.bus.intercepting = t.bus.intercepting := by
    rw [hs.bus.intercepting, ht.bus.intercepting]
  -- What the bus knows of a region follows from what both have in common.
  have hb : s.bus = t.bus := Bus.ext_entry hi hp fun r => hs.bus.entry_eq ht.bus rfl
  have hr : s.registry = t.registry := hs.registry.trans ht.registry.symm
  rcases s with ⟨memory, bus, registry⟩
  rcases t with ⟨memory', bus', registry'⟩
  simp only at hm hb hr
  rw [hm, hb, hr]

theorem Follows.of_memory (h : s.Follows history l) (memory : RawMemory A) :
    ({ s with memory := memory } : Machine X A).Follows history l :=
  ⟨h.registry, h.bus⟩

/-- An edit of the registry keeps the bus in line if it matters to no region but
    those that are asked again. -/
theorem follows_edited (h : s.Follows history l) {l' : Breakpoints} {first last : UInt32}
    (hout : ∀ r ∉ Region.between (regionOf (min first last)) (regionOf (max first last)),
      Bus.wantedChecks (some l') r = Bus.wantedChecks (some l) r) :
    (s.edited l' first last).Follows history l' :=
  ⟨rfl, h.bus.sync (Region.nodup_between _ _) hout⟩

theorem follows_addBreakpoint (h : s.Follows history l) (first last : UInt32) (flags : Flags) :
    (s.addBreakpoint first last flags).2.Follows history (l.add first last flags).2 := by
  rw [addBreakpoint_eq h.registry]
  exact follows_edited h fun r hr => l.wantedChecks_add first last flags hr

theorem follows_removeBreakpoint (h : s.Follows history l) (index : Nat) :
    (s.removeBreakpoint index).2.Follows history (l.remove index).2 := by
  rw [removeBreakpoint_eq h.registry]
  cases hget : l.get? index with
  | none => exact ⟨rfl, h.bus.exchange (Breakpoints.wantedChecks_remove_none hget)⟩
  | some b => exact follows_edited h fun r hr => Breakpoints.wantedChecks_remove hget hr

theorem follows_setBreakpointEnabled (h : s.Follows history l) (index : Nat) (on : Bool) :
    (s.setBreakpointEnabled index on).2.Follows history (l.setEnabled index on).2 := by
  rw [setBreakpointEnabled_eq h.registry]
  cases hget : l.get? index with
  | none =>
      have hsame : (l.setEnabled index on).2 = l := by rw [Breakpoints.setEnabled, hget]
      rw [hsame]
      exact h
  | some b => exact follows_edited h fun r hr => Breakpoints.wantedChecks_setEnabled hget on hr

theorem follows_takeHits (h : s.Follows history l) :
    s.takeHits.2.Follows history l.takeHits.2 := by
  rcases s with ⟨memory, bus, registry⟩
  rcases h with ⟨hl, hbus⟩
  subst hl
  exact ⟨rfl, hbus.exchange (Breakpoints.wantedChecks_eq_of_get? fun i => rfl)⟩

theorem follows_applyMapping (h : s.Follows history l) {m : Mapping (Device X)}
    (hm : m.handler.isDebug = false) {t : Machine X A} (hok : s.applyMapping m = .ok t) :
    t.Follows (history ++ [m]) l := by
  rcases applyMapping_eq_ok_iff.mp hok with ⟨bus, hbus, rfl⟩
  rw [h.registry] at hbus
  exact ⟨h.registry, h.bus.apply hm hbus⟩

theorem follows_refused (h : s.Follows history l) {m : Mapping (Device X)} {e : MemoryError}
    (herror : s.applyMapping m = .error e) : s.Follows (history ++ [m]) l := by
  have hbus := applyMapping_eq_error_iff.mp herror
  rw [h.registry] at hbus
  exact ⟨h.registry, h.bus.refused hbus⟩

/-- Nothing the bus is used for changes more than the registry. -/
theorem follows_access (h : s.Follows history l) {command : Command X A}
    [AttachedDevice X A] (hc : command.IsAccess) : (command.perform s).Follows history
      (command.reports.foldl (fun l x => l.hear s.bus.lastPc x) l) := by
  constructor
  case registry =>
    rw [Command.registry_perform h.bus.settled hc, h.registry]
    exact h.bus.foldl_told fun x hx => Command.inWord_reports hx
  case bus =>
    -- Hits are added, but no breakpoint comes or goes.
    rw [Command.bus_perform hc]
    exact h.bus.exchange fun r => Breakpoints.wantedChecks_eq_of_get?
      (Breakpoints.get?_of_slots_eq (l.slots_foldl_hear _ _)) r

section LastPc

theorem lastPc_edited (hi : s.bus.intercepting = true) (l : Breakpoints) (first last : UInt32) :
    (s.edited l first last).bus.lastPc = s.bus.lastPc :=
  lastPc_foldl_syncRegion hi l _

theorem lastPc_addBreakpoint (h : s.Follows history l) (first last : UInt32) (flags : Flags) :
    (s.addBreakpoint first last flags).2.bus.lastPc = s.bus.lastPc := by
  rw [addBreakpoint_eq h.registry]
  exact lastPc_edited h.bus.intercepting _ first last

theorem lastPc_removeBreakpoint (h : s.Follows history l) (index : Nat) :
    (s.removeBreakpoint index).2.bus.lastPc = s.bus.lastPc := by
  rw [removeBreakpoint_eq h.registry]
  cases l.get? index with
  | none => rfl
  | some b => exact lastPc_edited h.bus.intercepting _ b.first b.last

theorem lastPc_setBreakpointEnabled (h : s.Follows history l) (index : Nat) (on : Bool) :
    (s.setBreakpointEnabled index on).2.bus.lastPc = s.bus.lastPc := by
  rw [setBreakpointEnabled_eq h.registry]
  cases l.get? index with
  | none => rfl
  | some b => exact lastPc_edited h.bus.intercepting _ b.first b.last

theorem lastPc_applyMapping {t : Machine X A} {m : Mapping (Device X)}
    (hok : s.applyMapping m = .ok t) : t.bus.lastPc = s.bus.lastPc := by
  rcases applyMapping_eq_ok_iff.mp hok with ⟨bus, hbus, rfl⟩
  exact Bus.lastPc_apply hbus

end LastPc

variable [AttachedDevice X A]

/-- The program counter changes only when one is announced. -/
theorem lastPc_perform (h : s.Follows history l) (command : Command X A) :
    (command.perform s).bus.lastPc = command.lastPc?.getD s.bus.lastPc := by
  cases command with
  | addBreakpoint first last flags => exact lastPc_addBreakpoint h first last flags
  | removeBreakpoint index => exact lastPc_removeBreakpoint h index
  | setBreakpointEnabled index on => exact lastPc_setBreakpointEnabled h index on
  | takeHits =>
      rcases s with ⟨memory, bus, registry⟩
      cases registry <;> rfl
  | applyMapping m =>
      rw [Command.perform]
      cases hok : s.applyMapping m with
      | ok t => exact lastPc_applyMapping hok
      | error e => rfl
  | loadCartridge file =>
      rw [Command.perform, loadCartridgeFile]
      cases s.memory.loadCartridgeFile file <;> rfl
  | loadPif file =>
      rw [Command.perform, loadPifFile]
      cases s.memory.loadPifFile file <;> rfl
  | _ => rfl

/-- A command that asks for no mapping keeps the bus in line. -/
theorem follows_unmapping (h : s.Follows history l) {command : Command X A}
    (hnone : command.mapping? = none) :
    (command.perform s).Follows history (command.onRegistry s.bus.lastPc l) := by
  cases command with
  | addBreakpoint first last flags => exact follows_addBreakpoint h first last flags
  | removeBreakpoint index => exact follows_removeBreakpoint h index
  | setBreakpointEnabled index on => exact follows_setBreakpointEnabled h index on
  | takeHits => exact follows_takeHits h
  | applyMapping m => cases hnone
  | setLastPc pc => exact ⟨h.registry, h.bus.setLastPc pc⟩
  | read width a => exact follows_access h trivial
  | write width a value => exact follows_access h trivial
  | writeMasked a value mask => exact follows_access h trivial
  | loadCartridge file =>
      -- A file that is refused leaves the machine as it was.
      rw [Command.perform, loadCartridgeFile]
      cases s.memory.loadCartridgeFile file with
      | ok memory => exact h.of_memory memory
      | error e => exact h
  | loadPif file =>
      rw [Command.perform, loadPifFile]
      cases s.memory.loadPifFile file with
      | ok memory => exact h.of_memory memory
      | error e => exact h
  | poke a value => exact h.of_memory _
  | setHook hook => exact h.of_memory _
  | invalidate => exact h.of_memory _

/-- A command keeps the bus in line, with one more mapping if it asks for one. -/
theorem follows_perform (h : s.Follows history l) {command : Command X A}
    (hf : command.Foreign) : (command.perform s).Follows
      (history ++ command.mapping?.toList) (command.onRegistry s.bus.lastPc l) := by
  cases hmapping : command.mapping? with
  | none =>
      rw [Option.toList_none, List.append_nil]
      exact follows_unmapping h hmapping
  | some m =>
      -- Only one command asks for a mapping.
      cases command with
      | applyMapping m' =>
          rw [← Option.some.inj hmapping, Option.toList_some, Command.perform]
          cases hok : s.applyMapping m' with
          | ok t => exact follows_applyMapping h hf hok
          | error e => exact follows_refused h hok
      | _ => cases hmapping

end Machine

namespace Machine

variable {store : Store} {attached : A} {s : Machine X A}

theorem withStore_eq (store : Store) (debugger : Bool) (attached : A) :
    (withStore store debugger attached : Except MemoryError (Machine X A)) =
      (Bus.ofMappings debugger (if debugger then some Breakpoints.empty else none)
        (standardMap store.dramWord)).map fun bus =>
          ⟨RawMemory.ofStore store attached, bus,
            if debugger then some Breakpoints.empty else none⟩ := by
  unfold withStore
  dsimp only
  cases Bus.ofMappings debugger (if debugger then some Breakpoints.empty else none)
      (standardMap store.dramWord) with
  | ok bus => rfl
  | error e => rfl

/-- A machine with a debugger has the bus that the standard map gives, and no
    breakpoint. -/
theorem exists_bus_of_withStore (hs : withStore store true attached = .ok s) :
    ∃ bus, (standardMap store.dramWord).foldlM
        (fun bus m => bus.apply (some Breakpoints.empty) m) (Bus.unmapped true) = .ok bus ∧
      s = ⟨RawMemory.ofStore store attached, bus, some .empty⟩ := by
  rw [withStore_eq, if_pos rfl, Bus.ofMappings] at hs
  cases hbus : (standardMap store.dramWord).foldlM
      (fun bus m => bus.apply (some Breakpoints.empty) m)
      (Bus.unmapped true : Bus (Device X)) with
  | error e =>
      rw [hbus] at hs
      cases hs
  | ok bus =>
      rw [hbus] at hs
      exact ⟨bus, rfl, (Except.ok.inj hs).symm⟩

theorem follows_withStore (hs : withStore store true attached = .ok s) :
    s.Follows (standardMap store.dramWord) .empty := by
  rcases exists_bus_of_withStore hs with ⟨bus, hbus, rfl⟩
  exact ⟨rfl, Bus.follows_foldlM (isDebug_standardMap _) Bus.follows_unmapped hbus⟩

theorem lastPc_withStore (hs : withStore store true attached = .ok s) : s.bus.lastPc = 0 := by
  rcases exists_bus_of_withStore hs with ⟨bus, hbus, rfl⟩
  have hmapped : Bus.ofMappings true (some Breakpoints.empty) (standardMap store.dramWord) =
      .ok bus := hbus
  exact Bus.lastPc_ofMappings hmapped

/-- A machine is had whenever the standard map is in order. -/
theorem exists_withStore (debugger : Bool)
    (hle : ∀ m ∈ (standardMap store.dramWord : List (Mapping (Device X))), m.first ≤ m.last) :
    ∃ s : Machine X A, withStore store debugger attached = .ok s := by
  rcases Bus.exists_foldlM_apply (if debugger then some Breakpoints.empty else none) hle
    (Bus.unmapped debugger) with ⟨bus, hbus⟩
  rw [withStore_eq, Bus.ofMappings, hbus]
  exact ⟨_, rfl⟩

/-- There is such a machine with eight megabytes of main memory to which nothing is
    attached. -/
theorem exists_withStore_bare :
    ∃ s : Machine Empty Unit, withStore (Store.ofGrants 0x800000 []) true () = .ok s := by
  have hword : (Store.ofGrants 0x800000 []).dramWord = 0x800000 := by decide
  have hle : ∀ m ∈ (standardMap 0x800000 : List (Mapping (Device Empty))),
      m.first ≤ m.last := by decide
  rw [← hword] at hle
  exact exists_withStore true hle

end Machine

end RegionBus

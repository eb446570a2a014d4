import RegionBus.Machine
import RegionBus.Proofs.Breakpoint.Slots
import RegionBus.Proofs.Bus.Reports

/-!
# Commands to a Machine

A machine in use is given commands: breakpoints come, go and are switched,
mappings are installed, words are read and written through the bus, and memory
is changed past the bus. A command that is refused leaves the machine as it was,
and what a command answers is not kept, since the theorems about a run are about
the machine it ends in.

As far as breakpoints are concerned there are few kinds of command. A command
changes the registry and brings the bus in line with it, or it changes the bus,
or it accesses the bus, or it does neither and works on the memory alone. An
access is known by what it reports, `Command.reports`: the bus stays as it is,
and `registry_perform` says that the registry is told of one report after the
other.

## Main definitions

* `Command`: One command to a machine.
* `Command.perform`, `Machine.after`: A machine after a command, and after some.
* `Machine.edited`: A machine with another registry.
* `Command.mapping?`: The mapping that a command asks for.
* `Report`: A word access as it is reported.
* `Command.reports`: What a command reports.

## Theorems

* `addBreakpoint_eq`, `removeBreakpoint_eq`, `setBreakpointEnabled_eq`: A breakpoint that
  comes, goes or is switched is an edit of the registry.
* `applyMapping_eq_ok_iff`, `applyMapping_eq_error_iff`: A mapping is the bus's affair.
* `inWord_reports`: A report never leaves its word.
* `bus_perform`, `registry_perform`: A machine after an access.
-/

namespace RegionBus

variable {X A : Type}

/-- One command to a machine. -/
inductive Command (X A : Type) where
  /-- A breakpoint is added. -/
  | addBreakpoint (first last : UInt32) (flags : Flags)
  /-- The breakpoint of an index is removed. -/
  | removeBreakpoint (index : Nat)
  /-- The breakpoint of an index is switched on or off. -/
  | setBreakpointEnabled (index : Nat) (on : Bool)
  /-- The hits so far are taken. -/
  | takeHits
  /-- A mapping is installed. -/
  | applyMapping (m : Mapping (Device X))
  /-- A program counter is announced. -/
  | setLastPc (pc : UInt32)
  /-- A value of a width is read. -/
  | read (width : Width) (a : UInt32)
  /-- A value of a width is written. -/
  | write (width : Width) (a : UInt32) (value : UInt64)
  /-- A word is written under a mask. -/
  | writeMasked (a value mask : UInt32)
  /-- The contents of a cartridge file are loaded. -/
  | loadCartridge (file : Option Image)
  /-- The contents of a boot code file are loaded. -/
  | loadPif (file : Option Image)
  /-- A word is replaced past the bus. -/
  | poke (a value : UInt32)
  /-- An invalidation hook takes the place of the one before. -/
  | setHook (hook : Store → A → A)
  /-- The invalidation hook is run by hand. -/
  | invalidate

/-- A word access as it is reported. -/
structure Report where
  /-- The kind of access. -/
  kind : AccessKind
  /-- The first address accessed. -/
  address : UInt32
  /-- The number of bytes. -/
  size : UInt32
  deriving DecidableEq, Repr

/-- The registry after an access was reported from behind a program counter. -/
def Breakpoints.hear (l : Breakpoints) (lastPc : UInt32) (x : Report) : Breakpoints :=
  l.report (lastPc - 4) x.address x.size x.kind.watched

namespace Command

/-- A command does not map the debug handler. -/
def Foreign : Command X A → Prop
  | applyMapping m => m.handler.isDebug = false
  | _ => True

instance : (command : Command X A) → Decidable command.Foreign
  | .applyMapping m => inferInstanceAs (Decidable (m.handler.isDebug = false))
  | .addBreakpoint .. | .removeBreakpoint .. | .setBreakpointEnabled .. | .takeHits
  | .setLastPc .. | .read .. | .write .. | .writeMasked .. | .loadCartridge .. | .loadPif ..
  | .poke .. | .setHook .. | .invalidate => .isTrue trivial

/-- The mapping that a command asks for. -/
def mapping? : Command X A → Option (Mapping (Device X))
  | applyMapping m => some m
  | _ => none

/-- The program counter that a command announces. -/
def lastPc? : Command X A → Option UInt32
  | setLastPc pc => some pc
  | _ => none

/-- The word accesses of a command in order, each as it is to be reported. -/
def reports : Command X A → List Report
  | read width a => (width.words a).map fun w => ⟨.read, w, 4⟩
  | write width a _ => (width.stores a).map fun x => ⟨.write, x.1, x.2⟩
  | writeMasked a _ mask => [⟨.write, (a &&& ~~~3) + firstLane mask, laneCount mask⟩]
  | _ => []

/-- A command is a read or a write through the bus. -/
def IsAccess : Command X A → Prop
  | read _ _ | write _ _ _ | writeMasked _ _ _ => True
  | _ => False

variable [AttachedDevice X A]

/-- The machine after a command. -/
def perform (s : Machine X A) : Command X A → Machine X A
  | addBreakpoint first last flags => (s.addBreakpoint first last flags).2
  | removeBreakpoint index => (s.removeBreakpoint index).2
  | setBreakpointEnabled index on => (s.setBreakpointEnabled index on).2
  | takeHits => s.takeHits.2
  | applyMapping m =>
    -- What is refused changes nothing.
    match s.applyMapping m with
    | .ok s => s
    | .error _ => s
  | setLastPc pc => s.onBus fun bus => bus.setLastPc pc
  | read width a => (s.access fun bus p => bus.read width a p).2
  | write width a value => s.run fun bus p => bus.write width a value p
  | writeMasked a value mask => s.run fun bus p => bus.writeMasked a value mask p
  | loadCartridge file =>
    match s.loadCartridgeFile file with
    | .ok s => s
    | .error _ => s
  | loadPif file =>
    match s.loadPifFile file with
    | .ok s => s
    | .error _ => s
  | poke a value => { s with memory := (s.memory.poke a value).2 }
  | setHook hook => { s with memory := s.memory.setHook hook }
  | invalidate => { s with memory := s.memory.invalidate }

end Command

/-- The machine with another registry, after the regions between two addresses were
    asked again. -/
def Machine.edited (s : Machine X A) (l : Breakpoints) (first last : UInt32) : Machine X A :=
  sync { s with registry := some l } first last

/-- The machine after some commands. -/
def Machine.after [AttachedDevice X A] (s : Machine X A) (commands : List (Command X A)) :
    Machine X A :=
  commands.foldl Command.perform s

namespace Machine

variable {s t : Machine X A} {l : Breakpoints} {m : Mapping (Device X)} {e : MemoryError}

theorem addBreakpoint_eq (hl : s.registry = some l) (first last : UInt32) (flags : Flags) :
    s.addBreakpoint first last flags =
      (some l.slots.size, s.edited (l.add first last flags).2 first last) := by
  rcases s with ⟨memory, bus, registry⟩
  subst hl
  rfl

theorem removeBreakpoint_eq (hl : s.registry = some l) (index : Nat) :
    s.removeBreakpoint index =
      match l.get? index with
      | some b => (true, s.edited (l.remove index).2 b.first b.last)
      | none => (false, { s with registry := some (l.remove index).2 }) := by
  rcases s with ⟨memory, bus, registry⟩
  subst hl
  -- The breakpoint that is handed back is the one that was there.
  have hremove : l.remove index = (l.get? index, (l.remove index).2) := rfl
  simp only [removeBreakpoint]
  rw [hremove]
  cases l.get? index <;> rfl

/-- A breakpoint keeps its bounds when it is switched, so the regions that are
    asked again are those it lay over before. -/
theorem setBreakpointEnabled_eq (hl : s.registry = some l) (index : Nat) (on : Bool) :
    s.setBreakpointEnabled index on =
      match l.get? index with
      | some b => (true, s.edited (l.setEnabled index on).2 b.first b.last)
      | none => (false, s) := by
  rcases s with ⟨memory, bus, registry⟩
  subst hl
  have hafter := l.get?_setEnabled index on index
  rw [if_pos rfl] at hafter
  simp only [setBreakpointEnabled]
  rw [hafter, Breakpoints.setEnabled]
  cases l.get? index <;> rfl

theorem applyMapping_eq_ok_iff : s.applyMapping m = .ok t ↔
    ∃ bus, s.bus.apply s.registry m = .ok bus ∧ { s with bus := bus } = t := by
  have h : s.applyMapping m =
      (s.bus.apply s.registry m).map fun bus => { s with bus := bus } := rfl
  rw [h]
  cases s.bus.apply s.registry m with
  | ok bus => simp only [Except.map, Except.ok.injEq, exists_eq_left']
  | error e => simp only [Except.map, reduceCtorEq, false_and, exists_false]

theorem applyMapping_eq_error_iff : s.applyMapping m = .error e ↔
    s.bus.apply s.registry m = .error e := by
  have h : s.applyMapping m =
      (s.bus.apply s.registry m).map fun bus => { s with bus := bus } := rfl
  rw [h]
  cases s.bus.apply s.registry m with
  | ok bus => simp only [Except.map, reduceCtorEq]
  | error e => simp only [Except.map, Except.error.injEq]

theorem memory_applyMapping (hok : s.applyMapping m = .ok t) : t.memory = s.memory := by
  rcases applyMapping_eq_ok_iff.mp hok with ⟨bus, hbus, rfl⟩
  rfl

end Machine

namespace Command

/-- A report never leaves its word. -/
theorem inWord_reports {command : Command X A} {x : Report} (hx : x ∈ command.reports) :
    InWord x.address x.size := by
  cases command with
  | read width a =>
      rcases List.mem_map.mp hx with ⟨w, hw, rfl⟩
      exact Width.inWord_words hw
  | write width a value =>
      rcases List.mem_map.mp hx with ⟨y, hy, rfl⟩
      exact Width.inWord_stores hy
  | writeMasked a value mask =>
      rw [List.mem_singleton.mp hx]
      exact inWord_masked a mask
  | _ => cases hx

variable [AttachedDevice X A] {s : Machine X A} {command : Command X A}

/-- An access leaves the bus as it was. -/
theorem bus_perform (hc : command.IsAccess) : (command.perform s).bus = s.bus := by
  cases command with
  | read width a => rfl
  | write width a value => rfl
  | writeMasked a value mask => rfl
  | _ => cases hc

/-- The registry is told of each word of an access. -/
theorem registry_perform (hs : ∀ r, (s.bus.entry r).Settled) (hc : command.IsAccess) :
    (command.perform s).registry =
      command.reports.foldl (fun l x => s.bus.told x.kind x.address x.size l) s.registry := by
  cases command with
  | read width a =>
      rw [reports, List.foldl_map]
      exact Bus.registry_read hs width a ⟨s.registry, s.memory.toHardware⟩
  | write width a value =>
      rw [reports, List.foldl_map]
      exact Bus.registry_write hs width a value ⟨s.registry, s.memory.toHardware⟩
  | writeMasked a value mask =>
      exact Bus.registry_writeMasked hs a value mask ⟨s.registry, s.memory.toHardware⟩
  | _ => cases hc

end Command

end RegionBus

import RegionBus.Proofs.Bus.Embedding
import RegionBus.Proofs.Machine.Synchronised
import RegionBus.Proofs.Store.Images
import RegionBus.Proofs.Store.Pokes

/-!
# The Calls of an Invalidation Hook

A machine has one invalidation hook at a time, and all that can be seen of a call is what
the hook makes of its state. To count calls nonetheless, a machine is given a log. Every
hook does what it did and enters its call, with a number of its own and the memory that it
was given. The hook that is there to begin with has the number zero, and the hooks that
are installed are numbered from one.

The log is a larger state for the devices, which leave it alone, so a machine with a log
does what it does without (`perform_logged`). That equation also says what is entered: one
call for each change past the bus that succeeded, with the memory as it is after the
change, and nothing for any other command. `changed?` knows of no machine beyond its
memory: it is what poking, loading, and asking for a call by hand make of a store. The
law of changes says byte for byte what that is. A poke replaces one word, and an image
is in its place afterwards, or was too long for it.

The rest is counting. Between two installations the number does not change, so the calls
with a number are those of one stretch of the run.

## Main definitions

* `HookCall`, `Logged`: A log of calls.
* `Logged.devices`, `Logged.enter`: Devices and hooks of a machine with a log.
* `Machine.logged`, `Command.logged`: A machine with a log, and its commands.
* `Command.changed?`: The memory after a change past the bus.
* `Command.load?`: The place and the file of a command that loads an image.
* `Machine.changes`: The changes in a run, each with the memory after it.
* `Machine.heard`: The memories that a hook was given in a run.
* `Machine.ChangeLaw`, `Machine.HookLaw`: What changes do, and who hears of them.

## Theorems

* `perform_change`: What a change past the bus does, and one that is refused.
* `perform_logged`, `after_logged`: A machine with a log.
* `hookCalls_append`, `number_bounds`: The numbers of the calls in a run.
* `heard_installed`: What a hook hears from its installation on.
* `hooks_law`: Changes and calls, for every machine and every run.
-/

namespace RegionBus

variable {X A : Type}

/-- A call of a hook. -/
structure HookCall where
  /-- The number of the hook. -/
  number : Nat
  /-- The memory that it was given. -/
  store : Store

/-- A state with the calls of hooks so far, the oldest first. -/
structure Logged (A : Type) where
  /-- The state. -/
  state : A
  /-- The calls. -/
  calls : List HookCall

/-- The memory and the attached devices with a log. -/
def Parts.logged (calls : List HookCall) (parts : Parts A) : Parts (Logged A) :=
  ⟨parts.store, ⟨parts.attached, calls⟩⟩

/-- The hardware with a log. -/
def Hardware.logged (calls : List HookCall) (h : Hardware A) : Hardware (Logged A) :=
  ⟨h.toParts.logged calls, h.failed⟩

namespace Logged

/-- A hook that does the same and enters the call. -/
def enter (number : Nat) (hook : Store → A → A) (store : Store) (a : Logged A) : Logged A :=
  ⟨hook store a.state, a.calls ++ [⟨number, store⟩]⟩

/-- The memory and the attached devices without the log. -/
def parts (p : Parts (Logged A)) : Parts A :=
  ⟨p.store, p.attached.state⟩

/-- The same attached devices, which leave the log alone. -/
@[reducible] def devices [AttachedDevice X A] : AttachedDevice X (Logged A) where
  name := AttachedDevice.name
  read d a p :=
    let (value, after) := AttachedDevice.read d a (parts p)
    (value, after.logged p.attached.calls)
  write d a value mask p :=
    (AttachedDevice.write d a value mask (parts p)).logged p.attached.calls

end Logged

/-- The machine with another memory. -/
def Machine.withMemory {B : Type} (s : Machine X A) (memory : RawMemory B) : Machine X B :=
  ⟨memory, s.bus, s.registry⟩

/-- The memory with a log, whose hook has a number. -/
def RawMemory.logged (number : Nat) (calls : List HookCall) (m : RawMemory A) :
    RawMemory (Logged A) :=
  ⟨m.toHardware.logged calls, ⟨m.invalidator.hook.map (Logged.enter number)⟩⟩

/-- The machine with a log, whose hook has a number. -/
def Machine.logged (number : Nat) (calls : List HookCall) (s : Machine X A) :
    Machine X (Logged A) :=
  s.withMemory (s.memory.logged number calls)

namespace Command

/-- A command installs a hook. -/
def setsHook : Command X A → Bool
  | setHook _ => true
  | _ => false

/-- The number of the hook after a command. -/
def nextNumber (number : Nat) (command : Command X A) : Nat :=
  if command.setsHook then number + 1 else number

/-- The command to a machine with a log. A hook that is installed enters its calls. -/
def logged (number : Nat) : Command X A → Command X (Logged A)
  | setHook hook => setHook (Logged.enter number hook)
  | addBreakpoint first last flags => addBreakpoint first last flags
  | removeBreakpoint index => removeBreakpoint index
  | setBreakpointEnabled index on => setBreakpointEnabled index on
  | takeHits => takeHits
  | applyMapping m => applyMapping m
  | setLastPc pc => setLastPc pc
  | read width a => read width a
  | write width a value => write width a value
  | writeMasked a value mask => writeMasked a value mask
  | loadCartridge file => loadCartridge file
  | loadPif file => loadPif file
  | poke a value => poke a value
  | invalidate => invalidate

/-- Some commands to a machine with a log, the hooks numbered from the one that is there. -/
def loggedFrom (number : Nat) : List (Command X A) → List (Command X (Logged A))
  | [] => []
  | command :: commands =>
    command.logged (command.nextNumber number) ::
      loggedFrom (command.nextNumber number) commands

/-- The number of hooks that some commands install. -/
def hooksSet (commands : List (Command X A)) : Nat :=
  commands.countP setsHook

/-- A command asks for a change past the bus, or for the hook to be called by hand. -/
def IsChange : Command X A → Prop
  | poke _ _ | loadCartridge _ | loadPif _ | invalidate => True
  | _ => False

/-- The memory after a change past the bus, if a command makes one. To call the hook by
    hand counts as a change to the same memory. -/
def changed? (s : Machine X A) : Command X A → Option Store
  | poke a value => s.memory.store.poke? a value
  | loadCartridge file => file.bind fun image => (s.memory.store.loadCartridge image).toOption
  | loadPif file => file.bind fun image => (s.memory.store.loadPif image).toOption
  | invalidate => some s.memory.store
  | _ => none

/-- The place for an image that a command names, and the file that it wants there. -/
def load? : Command X A → Option (ImageSlot × Option Image)
  | loadCartridge file => some (.cartridge, file)
  | loadPif file => some (.bootCode, file)
  | _ => none

/-- The calls that a command makes of the hook with a number. -/
def hookCalls (number : Nat) (s : Machine X A) (command : Command X A) : List HookCall :=
  if s.memory.invalidator.hasHook then (command.changed? s).toList.map (HookCall.mk number)
  else []

end Command

namespace Machine

variable [AttachedDevice X A]

/-- A machine with a log after some commands. -/
def afterLogged (s : Machine X (Logged A)) (commands : List (Command X (Logged A))) :
    Machine X (Logged A) :=
  @after X (Logged A) Logged.devices s commands

/-- The changes past the bus that some commands make, each with the memory after it. -/
def changes (s : Machine X A) : List (Command X A) → List Store
  | [] => []
  | command :: commands =>
    (command.changed? s).toList ++ changes (command.perform s) commands

/-- The calls of hooks that some commands make. -/
def hookCalls (number : Nat) (s : Machine X A) : List (Command X A) → List HookCall
  | [] => []
  | command :: commands =>
    command.hookCalls number s ++
      hookCalls (command.nextNumber number) (command.perform s) commands

/-- The memories that the hook with a number was given while a machine ran. -/
def heard (s : Machine X A) (commands : List (Command X A)) (number : Nat) : List Store :=
  let after := (s.logged 0 []).afterLogged (Command.loggedFrom 0 commands)
  (after.memory.attached.calls.filter fun call => call.number = number).map HookCall.store

/-- What becomes of a change past the bus that a machine is asked for. -/
structure ChangeLaw (s : Machine X A) : Prop where
  /-- A word is replaced iff there is one to see, and poking tells. -/
  poke_iff : ∀ a value,
    ((s.memory.poke a value).1 = true ↔ ((.poke a value : Command X A).changed? s).isSome) ∧
      ((s.memory.poke a value).1 = true ↔ (s.memory.store.peek? a).isSome)
  /-- It is the word of the address, and every other byte is as it was. -/
  replaced : ∀ a value store, (.poke a value : Command X A).changed? s = some store →
    ∃ l, s.memory.store.locate? (a &&& ~~~3) = some l ∧
      (s.memory.store.block l.block).Fits l.offset 4 ∧ s.memory.store.Replaced l value store
  /-- Loading a cartridge tells whether memory changed. -/
  loadCartridge_iff : ∀ file, (∃ t, s.loadCartridgeFile file = .ok t) ↔
    ((.loadCartridge file : Command X A).changed? s).isSome
  /-- So does loading boot code. -/
  loadPif_iff : ∀ file, (∃ t, s.loadPifFile file = .ok t) ↔
    ((.loadPif file : Command X A).changed? s).isSome
  /-- What is loaded is the image of a file, and it is there with nothing else changed. -/
  loaded : ∀ (command : Command X A) slot file store, command.load? = some (slot, file) →
    command.changed? s = some store →
    ∃ image, file = some image ∧ slot.Loaded image s.memory.store store
  /-- An image is loaded iff it is no longer than the limit and fits its block. In the
      memory of a machine the limit is what counts. -/
  accepted_iff : ∀ (command : Command X A) slot image,
    command.load? = some (slot, some image) →
    ((command.changed? s).isSome ↔ image.size ≤ slot.limit ∧
      image.paddedSize ≤ (s.memory.store.block slot.block).size) ∧
    ∀ n, s.memory.store.Shaped n → ((command.changed? s).isSome ↔ image.size ≤ slot.limit)
  /-- A file that cannot be read is refused. -/
  unreadable : s.loadCartridgeFile none = .error .file ∧ s.loadPifFile none = .error .file
  /-- So is an image that is too long. -/
  tooLarge : ∀ image : Image,
    (cartRomSize < image.size → s.loadCartridgeFile (some image) =
      .error (.imageTooLarge (s.memory.store.block .cartRom).kind image.size cartRomSize)) ∧
    (pifRomSize < image.size → s.loadPifFile (some image) =
      .error (.imageTooLarge (s.memory.store.block .pifMem).kind image.size pifRomSize))
  /-- A call by hand is a change to the same memory, and no other command is a change. -/
  otherwise : (.invalidate : Command X A).changed? s = some s.memory.store ∧
    ∀ command : Command X A, ¬ command.IsChange → command.changed? s = none
  /-- What succeeds puts the changed memory in place and hands it to the hook, and nothing
      else changes. -/
  done : ∀ (command : Command X A) store, command.changed? s = some store →
    command.perform s = { s with memory := s.memory.replaceStore store }
  /-- The memory is then the changed one. -/
  inPlace : ∀ (command : Command X A) store, command.changed? s = some store →
    (command.perform s).memory.store = store
  /-- What is refused leaves everything as it was. -/
  refused : ∀ command : Command X A, command.IsChange → command.changed? s = none →
    command.perform s = s

/-- Who hears of the changes in a run. -/
structure HookLaw (s : Machine X A) (commands : List (Command X A)) : Prop where
  /-- A machine with a log does what it does without. -/
  unnoticed : ∃ calls, (s.logged 0 []).afterLogged (Command.loggedFrom 0 commands) =
    (s.after commands).logged (Command.hooksSet commands) calls
  /-- From its installation to the next one, or to the end, a hook is called once for each
      change, and is given the memory after it. -/
  installed : ∀ before hook between rest,
    commands = before ++ .setHook hook :: (between ++ rest) → Command.hooksSet between = 0 →
    (∀ command ∈ rest.head?, command.setsHook = true) →
    s.heard commands (Command.hooksSet before + 1) =
      (s.after (before ++ [.setHook hook])).changes between
  /-- So is the hook that was there to begin with, up to the first installation. -/
  initial : ∀ between rest, commands = between ++ rest → Command.hooksSet between = 0 →
    (∀ command ∈ rest.head?, command.setsHook = true) →
    s.heard commands 0 = if s.memory.invalidator.hasHook then s.changes between else []
  /-- There are no other calls. -/
  others : ∀ number, Command.hooksSet commands < number → s.heard commands number = []

end Machine

section Log

variable (s : Machine X A) (number : Nat) (calls : List HookCall)

namespace Machine

/-- What leaves any memory alone does to a machine with a log what it does without. -/
theorem logged_of_withMemory {t : Machine X A} {u : Machine X (Logged A)}
    (hmemory : t = t.withMemory s.memory) (h : u = t.withMemory (s.memory.logged number calls)) :
    u = t.logged number calls := by
  have hsame : t.memory = s.memory := by
    rw [hmemory]
    rfl
  rw [h, logged, hsame]

section Breakpoints

variable {B : Type} (memory : RawMemory B)

theorem addBreakpoint_withMemory (first last : UInt32) (flags : Flags) :
    ((s.withMemory memory).addBreakpoint first last flags).2 =
      (s.addBreakpoint first last flags).2.withMemory memory := by
  rcases s with ⟨before, bus, registry⟩
  cases registry <;> rfl

theorem removeBreakpoint_withMemory (index : Nat) :
    ((s.withMemory memory).removeBreakpoint index).2 =
      (s.removeBreakpoint index).2.withMemory memory := by
  rcases s with ⟨before, bus, registry⟩
  cases registry with
  | none => rfl
  | some l =>
      have hl : (⟨before, bus, some l⟩ : Machine X A).registry = some l := rfl
      rw [withMemory, removeBreakpoint_eq rfl, removeBreakpoint_eq hl]
      cases l.get? index <;> rfl

theorem setBreakpointEnabled_withMemory (index : Nat) (on : Bool) :
    ((s.withMemory memory).setBreakpointEnabled index on).2 =
      (s.setBreakpointEnabled index on).2.withMemory memory := by
  rcases s with ⟨before, bus, registry⟩
  cases registry with
  | none => rfl
  | some l =>
      have hl : (⟨before, bus, some l⟩ : Machine X A).registry = some l := rfl
      rw [withMemory, setBreakpointEnabled_eq rfl, setBreakpointEnabled_eq hl]
      cases l.get? index <;> rfl

theorem takeHits_withMemory :
    (s.withMemory memory).takeHits.2 = s.takeHits.2.withMemory memory := by
  rcases s with ⟨before, bus, registry⟩
  cases registry <;> rfl

/-- A mapping is accepted or refused by the bus. -/
theorem mapped_withMemory (m : Mapping (Device X)) :
    (match (s.withMemory memory).applyMapping m with
      | .ok t => t
      | .error _ => s.withMemory memory) =
      (match s.applyMapping m with | .ok t => t | .error _ => s).withMemory memory := by
  rcases s with ⟨before, bus, registry⟩
  simp only [withMemory, applyMapping]
  cases bus.apply registry m <;> rfl

end Breakpoints

/-- A changed memory is handed to the hook, if there is one, and the call is entered. -/
theorem replaceStore_logged (store : Store) :
    ({ s.logged number calls with
        memory := (s.logged number calls).memory.replaceStore store } : Machine X (Logged A)) =
      ({ s with memory := s.memory.replaceStore store } : Machine X A).logged number
        (calls ++ if s.memory.invalidator.hasHook then [⟨number, store⟩] else []) := by
  rcases s with ⟨⟨⟨⟨before, attached⟩, failed⟩, ⟨hook⟩⟩, bus, registry⟩
  cases hook with
  | none =>
      rw [Invalidator.hasHook, Option.isSome_none, if_neg Bool.false_ne_true, List.append_nil]
      rfl
  | some hook => rfl

end Machine

/-- The machine after an access, by what the access changed. -/
def Machine.resumed (s : Machine X A) (p : Backplane Breakpoints (Hardware A)) : Machine X A :=
  ⟨⟨p.devices, s.memory.invalidator⟩, s.bus, p.registry⟩

/-- An image is loaded into its place. -/
theorem Command.changed?_of_load {command : Command X A} {slot : ImageSlot} {image : Image}
    (h : command.load? = some (slot, some image)) :
    command.changed? s = (slot.load s.memory.store image).toOption := by
  cases command with
  | loadCartridge | loadPif =>
      cases h
      rfl
  | _ => cases h

theorem changed?_logged (command : Command X A) (number' : Nat) :
    (command.logged number').changed? (s.logged number calls) = command.changed? s := by
  cases command <;> rfl

variable [AttachedDevice X A]

section Changes

variable {s} {command : Command X A}

/-- A change past the bus is a change of the memory of which the hook hears, and of
    nothing else. One that is refused leaves everything as it was. -/
theorem Command.perform_change (hc : command.IsChange) : command.perform s =
    (command.changed? s).elim s fun store =>
      { s with memory := s.memory.replaceStore store } := by
  cases command with
  | poke a value =>
      rw [perform, RawMemory.poke, changed?]
      cases s.memory.store.poke? a value <;> rfl
  | loadCartridge file =>
      cases file with
      | none => rfl
      | some image =>
          rw [perform, Machine.loadCartridgeFile, RawMemory.loadCartridgeFile, changed?,
            Option.bind_some]
          cases s.memory.store.loadCartridge image <;> rfl
  | loadPif file =>
      cases file with
      | none => rfl
      | some image =>
          rw [perform, Machine.loadPifFile, RawMemory.loadPifFile, changed?, Option.bind_some]
          cases s.memory.store.loadPif image <;> rfl
  | invalidate => rfl
  | _ => cases hc

theorem Command.perform_of_changed {store : Store} (h : command.changed? s = some store) :
    command.perform s = { s with memory := s.memory.replaceStore store } := by
  have hc : command.IsChange := by
    cases command with
    | poke a value | loadCartridge file | loadPif file | invalidate => trivial
    | _ => cases h
  rw [perform_change hc, h, Option.elim_some]

theorem Command.perform_of_refused (hc : command.IsChange) (h : command.changed? s = none) :
    command.perform s = s := by
  rw [perform_change hc, h, Option.elim_none]

theorem Command.invalidator_change (hc : command.IsChange) :
    (command.perform s).memory.invalidator = s.memory.invalidator := by
  rw [perform_change hc]
  cases command.changed? s <;> rfl

end Changes

/-- Devices do with a log what they do without. -/
theorem embeds_logged : DeviceBank.Embeds
    (Device.instDeviceBankHardware : DeviceBank (Device X) (Hardware A))
    (@Device.instDeviceBankHardware X (Logged A) Logged.devices) (Hardware.logged calls) := by
  constructor
  case read_eq =>
    intro d a h
    cases d with
    | ram d =>
        simp only [DeviceBank.read, Device.read, RamDevice.read]
        cases d.position? a <;> rfl
    | rom d | attached d => rfl
  case write_eq =>
    intro d a value mask h
    cases d with
    | ram d =>
        simp only [DeviceBank.write, Device.write, RamDevice.write]
        cases d.position? a with
        | none => rfl
        | some position =>
            simp only [apply_ite (Hardware.logged calls)]
            rfl
    | rom d | attached d => rfl
  case fail_eq => exact fun h => rfl

/-- A change past the bus is the same with a log, and the call is entered. -/
theorem perform_logged_change (command : Command X A) (hc : command.IsChange) (number' : Nat) :
    @Command.perform X (Logged A) Logged.devices (s.logged number calls)
        (command.logged number') =
      (command.perform s).logged number (calls ++ command.hookCalls number s) := by
  have hlogged := changed?_logged s number calls command number'
  rw [Command.hookCalls]
  cases h : command.changed? s with
  | none =>
      have hc' : (command.logged number').IsChange := by cases command <;> exact hc
      rw [@Command.perform_of_refused X (Logged A) _ Logged.devices _ hc' (hlogged.trans h),
        Command.perform_of_refused hc h, Option.toList_none, List.map_nil, ite_self,
        List.append_nil]
  | some store =>
      rw [@Command.perform_of_changed X (Logged A) _ Logged.devices _ _ (hlogged.trans h),
        Command.perform_of_changed h, s.replaceStore_logged, Option.toList_some,
        List.map_singleton]

/-- A machine with a log does what it does without, and one call is entered for each
    change past the bus, if there is a hook. -/
theorem perform_logged (command : Command X A) :
    @Command.perform X (Logged A) Logged.devices (s.logged number calls)
        (command.logged (command.nextNumber number)) =
      (command.perform s).logged (command.nextNumber number)
        (calls ++ command.hookCalls number s) := by
  have hquiet : command.changed? s = none → command.hookCalls number s = [] := by
    intro hnone
    rw [Command.hookCalls, hnone, Option.toList_none, List.map_nil, ite_self]
  have hembeds := embeds_logged (X := X) (A := A) calls
  cases command with
  | poke a value => exact perform_logged_change s number calls (.poke a value) trivial _
  | loadCartridge file => exact perform_logged_change s number calls (.loadCartridge file) trivial _
  | loadPif file => exact perform_logged_change s number calls (.loadPif file) trivial _
  | invalidate => exact perform_logged_change s number calls .invalidate trivial _
  | addBreakpoint first last flags =>
      rw [hquiet rfl, List.append_nil]
      exact s.logged_of_withMemory number calls (s.addBreakpoint_withMemory _ first last flags)
        (s.addBreakpoint_withMemory _ first last flags)
  | removeBreakpoint index =>
      rw [hquiet rfl, List.append_nil]
      exact s.logged_of_withMemory number calls (s.removeBreakpoint_withMemory _ index)
        (s.removeBreakpoint_withMemory _ index)
  | setBreakpointEnabled index on =>
      rw [hquiet rfl, List.append_nil]
      exact s.logged_of_withMemory number calls (s.setBreakpointEnabled_withMemory _ index on)
        (s.setBreakpointEnabled_withMemory _ index on)
  | takeHits =>
      rw [hquiet rfl, List.append_nil]
      exact s.logged_of_withMemory number calls (s.takeHits_withMemory _)
        (s.takeHits_withMemory _)
  | setHook hook | setLastPc pc =>
      rw [hquiet rfl, List.append_nil]
      rfl
  | applyMapping m =>
      rw [hquiet rfl, List.append_nil]
      exact s.logged_of_withMemory number calls (s.mapped_withMemory _ m)
        (s.mapped_withMemory _ m)
  | read width a =>
      rw [hquiet rfl, List.append_nil]
      have hread := hembeds.read s.bus width a ⟨s.registry, s.memory.toHardware⟩
      exact congrArg (fun x => (s.logged number calls).resumed x.2) hread
  | write width a value =>
      rw [hquiet rfl, List.append_nil]
      have hwrite := hembeds.write s.bus width a value ⟨s.registry, s.memory.toHardware⟩
      exact congrArg (s.logged number calls).resumed hwrite
  | writeMasked a value mask =>
      rw [hquiet rfl, List.append_nil]
      have hwrite := hembeds.writeMasked s.bus a value mask ⟨s.registry, s.memory.toHardware⟩
      exact congrArg (s.logged number calls).resumed hwrite

end Log

section Run

open Command

theorem Command.nextNumber_eq (number : Nat) (command : Command X A) :
    command.nextNumber number = number + hooksSet [command] := by
  rw [nextNumber, hooksSet, List.countP_singleton]
  split <;> rfl

theorem Command.hooksSet_cons (command : Command X A) (commands : List (Command X A)) :
    hooksSet (command :: commands) = hooksSet [command] + hooksSet commands := by
  rw [hooksSet, List.countP_cons, hooksSet, List.countP_singleton, hooksSet, Nat.add_comm]

theorem Command.hooksSet_append (commands rest : List (Command X A)) :
    hooksSet (commands ++ rest) = hooksSet commands + hooksSet rest :=
  List.countP_append

variable [AttachedDevice X A]

theorem Machine.after_cons (s : Machine X A) (command : Command X A)
    (commands : List (Command X A)) :
    s.after (command :: commands) = (command.perform s).after commands := rfl

/-- A machine with a log does what it does without for as long as it runs, and the log has
    the calls in order. -/
theorem after_logged (s : Machine X A) (number : Nat) (calls : List HookCall)
    (commands : List (Command X A)) :
    (s.logged number calls).afterLogged (loggedFrom number commands) =
      (s.after commands).logged (number + hooksSet commands)
        (calls ++ s.hookCalls number commands) := by
  induction commands generalizing s number calls with
  | nil =>
      rw [Machine.hookCalls, List.append_nil]
      rfl
  | cons command commands ih =>
      have hstep := perform_logged s number calls command
      have hrest := ih (command.perform s) (command.nextNumber number)
        (calls ++ command.hookCalls number s)
      rw [← hstep] at hrest
      rw [hooksSet_cons, ← Nat.add_assoc, ← nextNumber_eq, Machine.hookCalls, ← List.append_assoc]
      exact hrest

namespace Machine

theorem after_append (s : Machine X A) (commands rest : List (Command X A)) :
    s.after (commands ++ rest) = (s.after commands).after rest :=
  List.foldl_append

/-- The calls of a run are those of its parts, the hooks numbered on. -/
theorem hookCalls_append (s : Machine X A) (number : Nat) (commands rest : List (Command X A)) :
    s.hookCalls number (commands ++ rest) = s.hookCalls number commands ++
      (s.after commands).hookCalls (number + hooksSet commands) rest := by
  induction commands generalizing s number with
  | nil => rfl
  | cons command commands ih =>
      rw [List.cons_append, hookCalls, ih, hookCalls, List.append_assoc, after_cons, hooksSet_cons,
        ← Nat.add_assoc, ← nextNumber_eq]

/-- The calls of a run have the number of the hook that was there, or of one that the run
    installs. -/
theorem number_bounds (s : Machine X A) (number : Nat) (commands : List (Command X A)) :
    ∀ call ∈ s.hookCalls number commands,
      number ≤ call.number ∧ call.number ≤ number + hooksSet commands := by
  induction commands generalizing s number with
  | nil => exact fun call hcall => absurd hcall List.not_mem_nil
  | cons command commands ih =>
      intro call hcall
      rw [hookCalls, List.mem_append] at hcall
      have hnext := command.nextNumber_eq number
      rw [hooksSet_cons]
      rcases hcall with hcall | hcall
      · have hnumber : call.number = number := by
          rw [Command.hookCalls] at hcall
          split at hcall
          · rcases List.mem_map.mp hcall with ⟨store, -, rfl⟩
            rfl
          · cases hcall
        omega
      · have hrest := ih _ _ call hcall
        omega

/-- Only a command that installs a hook is about it. -/
theorem invalidator_perform (s : Machine X A) {command : Command X A}
    (hset : command.setsHook = false) :
    (command.perform s).memory.invalidator = s.memory.invalidator := by
  cases command with
  | setHook hook => cases hset
  | addBreakpoint first last flags =>
      exact congrArg RawMemory.invalidator (s.memory_addBreakpoint first last flags)
  | removeBreakpoint index =>
      exact congrArg (fun t => t.memory.invalidator) (s.removeBreakpoint_withMemory s.memory index)
  | setBreakpointEnabled index on =>
      exact congrArg (fun t => t.memory.invalidator)
        (s.setBreakpointEnabled_withMemory s.memory index on)
  | takeHits => exact congrArg (fun t => t.memory.invalidator) (s.takeHits_withMemory s.memory)
  | applyMapping m =>
      exact congrArg (fun t => t.memory.invalidator) (s.mapped_withMemory s.memory m)
  | poke a value | loadCartridge file | loadPif file | invalidate =>
      exact invalidator_change trivial
  | setLastPc pc | read width a | write width a value | writeMasked a value mask => rfl

theorem hasHook_perform (s : Machine X A) (command : Command X A) :
    (command.perform s).memory.invalidator.hasHook =
      (s.memory.invalidator.hasHook || command.setsHook) := by
  by_cases hset : command.setsHook = true
  · cases command with
    | setHook hook => exact (Bool.or_true _).symm
    | _ => cases hset
  · rw [Bool.not_eq_true] at hset
    rw [s.invalidator_perform hset, hset, Bool.or_false]

/-- While no hook is installed, the one that is there is called once for each change, with
    the memory after it. -/
theorem hookCalls_between (s : Machine X A) (number : Nat) {commands : List (Command X A)}
    (hnone : hooksSet commands = 0) : s.hookCalls number commands =
      if s.memory.invalidator.hasHook then (s.changes commands).map (HookCall.mk number)
      else [] := by
  induction commands generalizing s with
  | nil => rw [hookCalls, changes, List.map_nil, ite_self]
  | cons command commands ih =>
      rw [hooksSet_cons] at hnone
      have hnumber : command.nextNumber number = number := by
        rw [nextNumber_eq]
        omega
      have hset : command.setsHook = false := by
        have hcount : hooksSet [command] = 0 := by omega
        rw [hooksSet, List.countP_singleton] at hcount
        by_contra hnot
        rw [Bool.not_eq_false] at hnot
        rw [if_pos hnot] at hcount
        cases hcount
      rw [hookCalls, hnumber, ih (command.perform s) (by omega), hasHook_perform, hset,
        Bool.or_false, Command.hookCalls, changes]
      split
      · rw [List.map_append]
      · rfl

/-- What a hook was given is in the calls of the run. -/
theorem heard_eq (s : Machine X A) (commands : List (Command X A)) (number : Nat) :
    s.heard commands number =
      ((s.hookCalls 0 commands).filter fun call => call.number = number).map HookCall.store := by
  rw [heard, after_logged]
  rfl

/-- Calls with other numbers are not a hook's. -/
theorem filter_eq_nil {calls : List HookCall} {number : Nat}
    (h : ∀ call ∈ calls, call.number ≠ number) :
    (calls.filter fun call => call.number = number) = [] :=
  List.filter_eq_nil_iff.mpr fun call hcall heq => h call hcall (of_decide_eq_true heq)

/-- Of a run that goes on with an installation the hook before hears nothing more. -/
theorem number_ne_of_rest (s : Machine X A) (number : Nat) {rest : List (Command X A)}
    (hrest : ∀ command ∈ rest.head?, command.setsHook = true) :
    ∀ call ∈ s.hookCalls number rest, call.number ≠ number := by
  cases rest with
  | nil => exact fun call hcall => absurd hcall List.not_mem_nil
  | cons command commands =>
      have hset := hrest command rfl
      intro call hcall
      rw [hookCalls, List.mem_append] at hcall
      rcases hcall with hcall | hcall
      · -- To install a hook is not a change.
        have hnone : command.changed? s = none := by
          cases command with
          | setHook hook => rfl
          | _ => cases hset
        rw [Command.hookCalls, hnone, Option.toList_none, List.map_nil, ite_self] at hcall
        cases hcall
      · have hbounds := number_bounds _ _ _ call hcall
        rw [nextNumber, if_pos hset] at hbounds
        omega

/-- The calls with a number are those of the stretch of the run in which it is the number of
    the hook. -/
theorem filter_hookCalls (s : Machine X A) (number : Nat) {between rest : List (Command X A)}
    (hnone : hooksSet between = 0)
    (hrest : ∀ command ∈ rest.head?, command.setsHook = true) :
    (((s.hookCalls number (between ++ rest)).filter fun call => call.number = number).map
        HookCall.store) =
      if s.memory.invalidator.hasHook then s.changes between else [] := by
  rw [hookCalls_append, hnone, Nat.add_zero, List.filter_append,
    filter_eq_nil (number_ne_of_rest _ number hrest), List.append_nil,
    hookCalls_between s number hnone]
  split
  · have hall : ((s.changes between).map (HookCall.mk number)).filter
        (fun call => call.number = number) = (s.changes between).map (HookCall.mk number) := by
      rw [List.filter_eq_self]
      intro call hcall
      rcases List.mem_map.mp hcall with ⟨store, -, rfl⟩
      exact decide_eq_true rfl
    rw [hall, List.map_map]
    exact List.map_id _
  · rfl

/-- A hook hears of the changes between its installation and the next one. -/
theorem heard_installed (s : Machine X A) (before : List (Command X A)) (hook : Store → A → A)
    {between rest : List (Command X A)} (hnone : hooksSet between = 0)
    (hrest : ∀ command ∈ rest.head?, command.setsHook = true) :
    s.heard (before ++ .setHook hook :: (between ++ rest)) (hooksSet before + 1) =
      (s.after (before ++ [.setHook hook])).changes between := by
  have hsplit : before ++ .setHook hook :: (between ++ rest) =
      (before ++ [.setHook hook]) ++ (between ++ rest) := by
    rw [List.append_assoc, List.singleton_append]
  have hcount : 0 + hooksSet (before ++ [.setHook hook]) = hooksSet before + 1 := by
    rw [Nat.zero_add, hooksSet_append]
    rfl
  have hhook : (s.after (before ++ [.setHook hook])).memory.invalidator.hasHook = true := by
    rw [after_append]
    rfl
  -- All calls before are of hooks that were installed earlier.
  have hearlier : ∀ call ∈ s.hookCalls 0 (before ++ [.setHook hook]),
      call.number ≠ hooksSet before + 1 := by
    intro call hcall
    rw [hookCalls_append, List.mem_append] at hcall
    rcases hcall with hcall | hcall
    · have hbounds := number_bounds _ _ _ call hcall
      omega
    · have hquiet : (s.after before).hookCalls (0 + hooksSet before) [.setHook hook] = [] := by
        rw [hookCalls, hookCalls, Command.hookCalls, List.append_nil]
        exact ite_self _
      rw [hquiet] at hcall
      cases hcall
  rw [heard_eq, hsplit, hookCalls_append, hcount, List.filter_append, filter_eq_nil hearlier,
    List.nil_append, filter_hookCalls _ _ hnone hrest, if_pos hhook]

/-- What is made of a result does not matter to whether there is one. -/
theorem exists_map_ok_iff {E α β γ : Type} (result : Except E α) (f : α → β) (g : β → γ) :
    (∃ t, (result.map f).map g = .ok t) ↔ ∃ t, result = .ok t := by
  cases result with
  | ok value => exact ⟨fun _ => ⟨value, rfl⟩, fun _ => ⟨_, rfl⟩⟩
  | error e =>
      constructor
      · rintro ⟨t, ht⟩
        cases ht
      · rintro ⟨t, ht⟩
        cases ht

theorem toOption_eq_some_iff {E α : Type} {result : Except E α} {value : α} :
    result.toOption = some value ↔ result = .ok value := by
  cases result with
  | ok v =>
      exact ⟨fun h => congrArg Except.ok (Option.some.inj h),
        fun h => congrArg some (Except.ok.inj h)⟩
  | error e =>
      constructor
      · intro h
        cases h
      · intro h
        cases h

theorem isSome_toOption_iff {E α : Type} {result : Except E α} :
    result.toOption.isSome ↔ ∃ value, result = .ok value := by
  simp only [Option.isSome_iff_exists, toOption_eq_some_iff]

theorem changeLaw (s : Machine X A) : s.ChangeLaw := by
  have exists_file : ∀ result : Except MemoryError Store,
      (∃ t, (result.map s.memory.replaceStore).map (fun m => { s with memory := m }) = .ok t) ↔
        result.toOption.isSome := fun result =>
    (exists_map_ok_iff result _ _).trans isSome_toOption_iff.symm
  constructor
  case poke_iff =>
    intro a value
    have hpoke := s.memory.poke_iff_isSome a value
    exact ⟨hpoke, hpoke.trans (s.memory.store.isSome_poke?_iff a value)⟩
  case loadCartridge_iff =>
    intro file
    cases file with
    | none => exact exists_file (.error MemoryError.file)
    | some image => exact exists_file (s.memory.store.loadCartridge image)
  case loadPif_iff =>
    intro file
    cases file with
    | none => exact exists_file (.error MemoryError.file)
    | some image => exact exists_file (s.memory.store.loadPif image)
  case replaced => exact fun a value store => Store.replaced_of_poke?
  case loaded =>
    intro command slot file store hplace hchanged
    cases file with
    | none =>
        cases command with
        | loadCartridge | loadPif =>
            cases hplace
            cases hchanged
        | _ => cases hplace
    | some image =>
        rw [Command.changed?_of_load s hplace] at hchanged
        exact ⟨image, rfl, ImageSlot.loaded_of_load (toOption_eq_some_iff.mp hchanged)⟩
  case accepted_iff =>
    intro command slot image hplace
    rw [Command.changed?_of_load s hplace, isSome_toOption_iff]
    exact ⟨ImageSlot.load_isOk_iff, fun n hs => ImageSlot.load_isOk_iff_of_shaped hs⟩
  case unreadable => exact ⟨rfl, rfl⟩
  case tooLarge =>
    refine fun image => ⟨fun h => ?_, fun h => ?_⟩
    · have hload : s.memory.store.loadCartridge image = _ := ImageSlot.cartridge.load_of_lt h
      rw [loadCartridgeFile, RawMemory.loadCartridgeFile, hload]
      rfl
    · have hload : s.memory.store.loadPif image = _ := ImageSlot.bootCode.load_of_lt h
      rw [loadPifFile, RawMemory.loadPifFile, hload]
      rfl
  case otherwise =>
    refine ⟨rfl, fun command hc => ?_⟩
    cases command with
    | poke | loadCartridge | loadPif | invalidate => exact absurd trivial hc
    | _ => rfl
  case done => exact fun command store h => perform_of_changed h
  case inPlace =>
    intro command store h
    rw [perform_of_changed h]
    rfl
  case refused => exact fun command hc h => perform_of_refused hc h

end Machine

/-- Changes past the bus and the calls of hooks, for every machine and every run. -/
theorem hooks_law (s : Machine X A) (commands : List (Command X A)) :
    s.ChangeLaw ∧ s.HookLaw commands := by
  refine ⟨s.changeLaw, ?_⟩
  constructor
  case unnoticed =>
    rw [after_logged, Nat.zero_add]
    exact ⟨_, rfl⟩
  case installed =>
    rintro before hook between rest rfl hnone hrest
    exact s.heard_installed before hook hnone hrest
  case initial =>
    rintro between rest rfl hnone hrest
    rw [Machine.heard_eq]
    exact s.filter_hookCalls 0 hnone hrest
  case others =>
    intro number hlt
    rw [Machine.heard_eq, Machine.filter_eq_nil, List.map_nil]
    intro call hcall
    have hbounds := Machine.number_bounds _ _ _ call hcall
    omega

end Run

/-- A hook hears of a word that is replaced and not of a file that is missing, the hook in
    its place is called by hand, and nobody hears of a word that is not there. -/
theorem hooks_law_replaced : ∃ s : Machine Empty Unit,
    Machine.withStore (Store.ofGrants 0x800000 []) true () = .ok s ∧
      ∃ commands : List (Command Empty Unit),
        commands = [.poke 0x03F00000 1, .setHook fun _ a => a, .poke 0 7, .loadPif none,
          .setHook fun _ a => a, .invalidate, .invalidate] ∧
        s.heard commands 0 = [] ∧ (s.heard commands 1).length = 1 ∧
          (s.heard commands 2).length = 2 := by
  rcases Machine.exists_withStore_bare with ⟨s, hs⟩
  refine ⟨s, hs, _, rfl, ?_⟩
  rcases Machine.exists_bus_of_withStore hs with ⟨bus, -, rfl⟩
  generalize hs' : (⟨RawMemory.ofStore (Store.ofGrants 0x800000 []) (), bus, some .empty⟩ :
    Machine Empty Unit) = s
  have hlaw := (hooks_law s [.poke 0x03F00000 1, .setHook fun _ a => a, .poke 0 7, .loadPif none,
    .setHook fun _ a => a, .invalidate, .invalidate]).2
  have hmiss : (Store.ofGrants 0x800000 []).poke? 0x03F00000 1 = none := rfl
  rcases hpoke : (Store.ofGrants 0x800000 []).poke? 0 7 with _ | store
  · have hsome : ((Store.ofGrants 0x800000 []).poke? 0 7).isSome := rfl
    rw [hpoke] at hsome
    cases hsome
  have hstore : s.memory.store = Store.ofGrants 0x800000 [] := by rw [← hs']; rfl
  have hbare : s.memory.invalidator.hasHook = false := by rw [← hs']; rfl
  refine ⟨?_, ?_, ?_⟩
  · have hfirst := hlaw.initial [.poke 0x03F00000 1] _ rfl rfl (by rintro _ ⟨⟩; rfl)
    rw [hfirst, hbare, if_neg Bool.false_ne_true]
  · have hsecond := hlaw.installed [.poke 0x03F00000 1] _ [.poke 0 7, .loadPif none] _ rfl rfl
      (by rintro _ ⟨⟩; rfl)
    change s.heard _ 1 = _ at hsecond
    have hquiet : (.poke 0x03F00000 1 : Command Empty Unit).perform s = s :=
      Command.perform_of_refused trivial ((congrArg (Store.poke? · _ 1) hstore).trans hmiss)
    rw [hsecond, List.singleton_append, Machine.after_cons, hquiet]
    change ((s.memory.store.poke? 0 7).toList ++ []).length = 1
    rw [hstore, hpoke]
    rfl
  · have hthird := hlaw.installed [.poke 0x03F00000 1, .setHook fun _ a => a, .poke 0 7,
      .loadPif none] _ [.invalidate, .invalidate] [] rfl rfl (by rintro _ ⟨⟩)
    change s.heard _ 2 = _ at hthird
    rw [hthird]
    rfl

end RegionBus

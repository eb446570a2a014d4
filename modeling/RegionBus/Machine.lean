import RegionBus.Bus.Access
import RegionBus.Config.Basic
import RegionBus.RawMemory
import RegionBus.StandardMap

/-!
# The Machine

A machine is raw memory with a bus in front of it and, if it has a
debugger, the registry of breakpoints. It is built with the standard map in
place; more can be mapped later.

The registry and the bus have to agree on which regions are watched. Whenever a
breakpoint comes, goes or is switched, `Machine.sync` asks the registry again for
every region between its two bounds.

## Main definitions

* `Machine`: Memory, bus and registry.
* `Machine.withStore`, `Machine.build`: Machines built.
* `Machine.access`, `Machine.run`: An access through the bus.
* `Machine.addBreakpoint`, `removeBreakpoint`, `setBreakpointEnabled`: Breakpoints.
* `Machine.takeHits`: The hits so far.
-/

namespace RegionBus

/-- The machine's memory, its bus and its breakpoints. Devices from outside are
    named by `X`; their state and that of the invalidation hook is of type `A`. -/
structure Machine (X A : Type) where
  /-- The raw memory and the state of attached devices. -/
  memory : RawMemory A
  /-- The bus. -/
  bus : Bus (Device X)
  /-- The breakpoints, if the machine has a debugger. -/
  registry : Option Breakpoints

namespace Machine

variable {X A α : Type}

/-- A machine with the standard map over a store. -/
def withStore (store : Store) (debugger : Bool) (attached : A) :
    Except MemoryError (Machine X A) :=
  let registry := if debugger then some Breakpoints.empty else none
  match Bus.ofMappings debugger registry (standardMap store.dramWord) with
  | .ok bus => .ok ⟨RawMemory.ofStore store attached, bus, registry⟩
  | .error e => .error e

/-- The machine with the contents of a cartridge file loaded. -/
def loadCartridgeFile (s : Machine X A) (file : Option Image) :
    Except MemoryError (Machine X A) :=
  (s.memory.loadCartridgeFile file).map fun m => { s with memory := m }

/-- The machine with the contents of a boot code file loaded. -/
def loadPifFile (s : Machine X A) (file : Option Image) : Except MemoryError (Machine X A) :=
  (s.memory.loadPifFile file).map fun m => { s with memory := m }

/-- A machine without images, on memory that is had from the host. -/
def create (c : Config) (attached : A) : Except MemoryError (Machine X A) :=
  c.validate.bind fun _ =>
    (Store.createOnHost c.dramSize).bind fun store => withStore store c.debugger attached

/-- A machine built from its settings, with the images they name. Files are read
    by `readFile`, which gives nothing for one that cannot be read. -/
def build {m : Type → Type} [Monad m] (readFile : ImagePath → m (Option Image)) (c : Config)
    (attached : A) : m (Except MemoryError (Machine X A)) := do
  let load (path : Option ImagePath)
      (into : Machine X A → Option Image → Except MemoryError (Machine X A))
      (s : Except MemoryError (Machine X A)) : m (Except MemoryError (Machine X A)) :=
    match s, path with
    | .ok s, some path => do return into s (← readFile path)
    | s, _ => return s
  load c.cartRom loadCartridgeFile (← load c.pifRom loadPifFile (create c attached))

/-- Whether the machine has a debugger. -/
def debuggerEnabled (s : Machine X A) : Bool :=
  s.registry.isSome

/-- The machine after something that an access through the bus can do. -/
def access (s : Machine X A)
    (f : Bus (Device X) → Backplane Breakpoints (Hardware A) →
      α × Backplane Breakpoints (Hardware A)) : α × Machine X A :=
  match s with
  | ⟨⟨hardware, invalidator⟩, bus, registry⟩ =>
    let (result, p) := f bus ⟨registry, hardware⟩
    (result, ⟨⟨p.devices, invalidator⟩, bus, p.registry⟩)

/-- The machine after a store through the bus. -/
def run (s : Machine X A)
    (f : Bus (Device X) → Backplane Breakpoints (Hardware A) →
      Backplane Breakpoints (Hardware A)) : Machine X A :=
  (s.access fun bus p => ((), f bus p)).2

/-- The machine with a change made to its bus alone. -/
def onBus (s : Machine X A) (f : Bus (Device X) → Bus (Device X)) : Machine X A :=
  match s with
  | ⟨memory, bus, registry⟩ => ⟨memory, f bus, registry⟩

/-- The machine with one more mapping. -/
def applyMapping (s : Machine X A) (m : Mapping (Device X)) : Except MemoryError (Machine X A) :=
  match s with
  | ⟨memory, bus, registry⟩ => (bus.apply registry m).map fun bus => ⟨memory, bus, registry⟩

/-- The bus with a kind of access watched or not in the region of an address. -/
def setWatched (bus : Bus (Device X)) (k : AccessKind) (a : UInt32) (on : Bool) :
    Bus (Device X) :=
  if on then bus.activate k a else bus.deactivate k a

/-- The bus with the checks of a region as a registry wants them. -/
def syncRegion (registry : Breakpoints) (bus : Bus (Device X)) (r : Region) :
    Bus (Device X) :=
  let wanted := Bus.wantedChecks (some registry) r
  setWatched (setWatched bus .read r.base wanted.read) .write r.base wanted.write

/-- The machine with the checks of every region between two addresses, in
    whichever order they are, as its registry wants them. -/
def sync (s : Machine X A) (a b : UInt32) : Machine X A :=
  match s with
  | ⟨memory, bus, some registry⟩ =>
    ⟨memory, (Region.between (regionOf (min a b)) (regionOf (max a b))).foldl
      (syncRegion registry) bus, some registry⟩
  | s => s

/-- The machine with one more breakpoint, and its index. Without a debugger
    there is none. -/
def addBreakpoint (s : Machine X A) (first last : UInt32) (flags : Flags) :
    Option Nat × Machine X A :=
  match s with
  | ⟨memory, bus, some registry⟩ =>
    let (index, registry) := registry.add first last flags
    (some index, sync ⟨memory, bus, some registry⟩ first last)
  | s => (none, s)

/-- The machine without the breakpoint of an index, and whether there was one. -/
def removeBreakpoint (s : Machine X A) (index : Nat) : Bool × Machine X A :=
  match s with
  | ⟨memory, bus, some registry⟩ =>
    match registry.remove index with
    | (some b, registry) => (true, sync ⟨memory, bus, some registry⟩ b.first b.last)
    | (none, registry) => (false, ⟨memory, bus, some registry⟩)
  | s => (false, s)

/-- The machine with the breakpoint of an index switched on or off, and whether
    there is one. -/
def setBreakpointEnabled (s : Machine X A) (index : Nat) (on : Bool) : Bool × Machine X A :=
  match s with
  | ⟨memory, bus, some registry⟩ =>
    -- A breakpoint keeps its bounds when it is switched.
    let (done, registry) := registry.setEnabled index on
    let s : Machine X A := ⟨memory, bus, some registry⟩
    match registry.get? index with
    | some b => (done, s.sync b.first b.last)
    | none => (done, s)
  | s => (false, s)

/-- The hits so far, and the machine without them. -/
def takeHits (s : Machine X A) : List Hit × Machine X A :=
  match s with
  | ⟨memory, bus, some registry⟩ =>
    let (hits, registry) := registry.takeHits
    (hits, ⟨memory, bus, some registry⟩)
  | s => ([], s)

end Machine

end RegionBus

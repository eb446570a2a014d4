import RegionBus.Device.Memory
import RegionBus.Invalidation

/-!
# Raw Memory

Debuggers and compilers reach memory directly, past the bus and its
breakpoints. A change made that way runs the invalidation hook, once and only
after the new contents are in place; an attempt that fails changes nothing and
runs no hook.

## Main definitions

* `RawMemory`: The hardware and the invalidation hook.
* `RawMemory.poke`: A word written past the bus.
* `RawMemory.loadCartridgeFile`, `RawMemory.loadPifFile`: Images from files.
* `RawMemory.invalidate`: The hook run by hand.
-/

namespace RegionBus

/-- The hardware, with the hook that hears of changes made past the bus. -/
structure RawMemory (A : Type) extends Hardware A where
  /-- The hook. -/
  invalidator : Invalidator Store A

namespace RawMemory

variable {A : Type}

/-- The memory without a hook. -/
def ofStore (store : Store) (attached : A) : RawMemory A where
  toHardware := .ofStore store attached
  invalidator := .empty

/-- The memory with a hook in the place of the one before. -/
def setHook (m : RawMemory A) (hook : Store → A → A) : RawMemory A :=
  { m with invalidator := m.invalidator.setHook hook }

/-- The memory after the hook ran. -/
def invalidate (m : RawMemory A) : RawMemory A :=
  { m with attached := m.invalidator.run m.store m.attached }

/-- The memory with another store in place, of which the hook heard. -/
def replaceStore (m : RawMemory A) (store : Store) : RawMemory A :=
  invalidate { m with store := store }

/-- The memory with the word of an address replaced, and whether there was one. -/
def poke (m : RawMemory A) (a value : UInt32) : Bool × RawMemory A :=
  match m.store.poke? a value with
  | some store => (true, m.replaceStore store)
  | none => (false, m)

/-- The memory with the contents of a cartridge file loaded; `none` stands for a
    file that could not be read. -/
def loadCartridgeFile (m : RawMemory A) (file : Option Image) :
    Except MemoryError (RawMemory A) :=
  match file with
  | none => .error .file
  | some image => (m.store.loadCartridge image).map m.replaceStore

/-- The memory with the contents of a boot code file loaded; `none` stands for a
    file that could not be read. -/
def loadPifFile (m : RawMemory A) (file : Option Image) : Except MemoryError (RawMemory A) :=
  match file with
  | none => .error .file
  | some image => (m.store.loadPif image).map m.replaceStore

end RawMemory

end RegionBus

import RegionBus.Error

/-!
# Address Windows

A window lets tools reach raw memory by physical address, past the bus: the
addresses from `first` to `last` stand for consecutive bytes of one block. Only
raw memory has windows; registers and unmapped space have none.

A catalog is a list of windows that share no address. `Catalog.ofWindows`
checks this window by window and reports the first one at fault. Since windows
are disjoint, the order in which a catalog lists them never matters to a
lookup.

The standard catalog splits the cartridge's range around the window of the
peripheral interface, which lies inside it, and continues main memory in a
second window behind its register block.

## Main definitions

* `Location`: A position inside a block.
* `Window`: A range of addresses and where it leads.
* `Catalog`: Disjoint windows.
* `Catalog.ofWindows`: The catalog of a list of windows, or what is wrong with it.
* `Catalog.windowFor?`, `Catalog.resolve?`: Lookup by address.
* `Catalog.standard`: The machine's windows.

## Theorems

* `ofWindows_standard`: The standard windows make a catalog.
-/

namespace RegionBus

/-- Where main memory starts. -/
def dramBase : UInt32 := 0x00000000

/-- The register block of main memory; the low window ends in front of it. -/
def dramRegsBase : UInt32 := 0x03F00000

/-- The signal processor's memory. -/
def rspMemBase : UInt32 := 0x04000000

/-- The disk drive's image. -/
def ddRomBase : UInt32 := 0x06000000

/-- The second window of main memory. -/
def highDramBase : UInt32 := 0x08000000

/-- The cartridge. -/
def cartRomBase : UInt32 := 0x10000000

/-- The peripheral interface's boot code, with its scratch memory behind it. -/
def pifMemBase : UInt32 := 0x1FC00000

/-- The first address behind the window of the peripheral interface. -/
def abovePifBase : UInt32 := 0x1FD00000

/-- A position inside a block. -/
structure Location where
  /-- The block. -/
  block : BlockKind
  /-- The position counted from the start of the block. -/
  offset : Nat
  deriving DecidableEq, Repr

/-- Addresses that stand for consecutive bytes of a block. -/
structure Window where
  /-- The name used in messages and reports. -/
  name : String
  /-- The first address. -/
  first : UInt32
  /-- The last address. -/
  last : UInt32
  /-- The block the window leads to. -/
  block : BlockKind
  /-- The position in the block that `first` stands for. -/
  base : UInt64
  deriving DecidableEq, Repr

namespace Window

/-- Whether an address lies in the window. -/
def contains (w : Window) (a : UInt32) : Bool :=
  w.first ≤ a && a ≤ w.last

/-- Whether two windows share an address, neither of them being inverted. -/
def overlaps (w v : Window) : Bool :=
  w.first ≤ v.last && v.first ≤ w.last

/-- The position that an address in the window stands for. -/
def locate (w : Window) (a : UInt32) : Location where
  block := w.block
  offset := (w.base + (a - w.first).toUInt64).toNat

end Window

/-- Windows that share no address. -/
structure Catalog where
  /-- The windows, in the order they were given. -/
  windows : List Window
  deriving DecidableEq, Repr

namespace Catalog

/-- The first fault in a list of windows that follows the sound list `earlier`:
    a window whose bounds are inverted, or one that shares an address with a window
    in front of it. -/
def firstFault? (earlier : List Window) : List Window → Option MemoryError
  | [] => none
  | w :: rest =>
    if w.last < w.first then
      some (.invertedRange w.first w.last)
    else
      match earlier.find? fun v => v.overlaps w with
      | some v => some (.overlappingWindows v.name w.name)
      | none => firstFault? (earlier ++ [w]) rest

/-- The catalog of a list of windows, unless one is inverted or overlaps another. -/
def ofWindows (windows : List Window) : Except MemoryError Catalog :=
  match firstFault? [] windows with
  | some e => .error e
  | none => .ok ⟨windows⟩

/-- The window an address lies in. -/
def windowFor? (c : Catalog) (a : UInt32) : Option Window :=
  c.windows.find? fun w => w.contains a

/-- The position an address stands for. It may lie behind the end of the block,
    whose size the catalog does not know. -/
def resolve? (c : Catalog) (a : UInt32) : Option Location :=
  (c.windowFor? a).map fun w => w.locate a

/-- Every window an address lies in. -/
def matching (c : Catalog) (a : UInt32) : List Window :=
  c.windows.filter fun w => w.contains a

/-- The machine's windows. -/
def standardWindows : List Window := [
  ⟨"low DRAM", dramBase, dramRegsBase - 1, .dram, 0⟩,
  ⟨"PIF memory", pifMemBase, abovePifBase - 1, .pifMem, 0⟩,
  ⟨"cartridge ROM", cartRomBase, pifMemBase - 1, .cartRom, 0⟩,
  ⟨"cartridge ROM (above PIF)", abovePifBase, 0xFFFFFFFF, .cartRom,
    (abovePifBase - cartRomBase).toUInt64⟩,
  ⟨"DD ROM", ddRomBase, ddRomBase + 0x01FFFFFF, .ddRom, 0⟩,
  ⟨"RSP memory", rspMemBase, rspMemBase + 0x1FFF, .rspMem, 0⟩,
  ⟨"high DRAM", highDramBase, cartRomBase - 1, .dram, dramRegsBase.toUInt64⟩]

/-- The catalog of the machine's windows. -/
def standard : Catalog :=
  ⟨standardWindows⟩

theorem ofWindows_standard : ofWindows standardWindows = .ok standard := by
  rfl

end Catalog

end RegionBus

import RegionBus.Block.Basic
import RegionBus.Error

/-!
# Allocation

The five blocks are allocated together: either all of them are had, or those
that were are given back. An allocator answers each request with a host address
or refuses it; a request whose size does not fit the host's address range is
never made. An address that is not aligned as asked is given back at once.

Every request and release is an event. `acquire` returns the list of them, so
what was asked for, what was had and what was given back can be read off.

## Main definitions

* `Layout`: The size and alignment of a piece of memory.
* `Allocator`: What is answered to each request.
* `Event`: One exchange with an allocator.
* `Grant`: A piece of memory that was had.
* `acquire`: A list of blocks requested in turn, all or nothing.
-/

namespace RegionBus

/-- The size and alignment of a piece of memory. -/
structure Layout where
  /-- The size in bytes. -/
  size : Nat
  /-- The alignment in bytes. -/
  align : Nat
  deriving DecidableEq, Repr

/-- Whether the size, rounded up to the alignment, fits the signed 64-bit range
    that the host counts memory in. -/
def Layout.Representable (l : Layout) : Prop :=
  l.size + l.align ≤ 0x8000000000000000

instance (l : Layout) : Decidable l.Representable :=
  inferInstanceAs (Decidable (_ ≤ _))

/-- The layout of each block when main memory has `dramSize` bytes. -/
def BlockKind.layout (dramSize : Nat) (k : BlockKind) : Layout where
  size := k.sizeWith dramSize
  align := k.alignment

/-- A source of memory: the host address of zeroed memory for a block, or nothing. -/
abbrev Allocator := BlockKind → Layout → Option Nat

/-- One exchange with an allocator. -/
inductive Event where
  /-- Memory was requested and had at `address`. -/
  | granted (kind : BlockKind) (layout : Layout) (address : Nat)
  /-- Memory was requested and refused. -/
  | refused (kind : BlockKind) (layout : Layout)
  /-- Memory that was had at `address` was given back. -/
  | released (kind : BlockKind) (layout : Layout) (address : Nat)
  deriving DecidableEq, Repr

/-- A piece of memory that was had from an allocator. -/
structure Grant where
  /-- The block it is for. -/
  kind : BlockKind
  /-- What was asked for. -/
  layout : Layout
  /-- Where it lies in host memory. -/
  address : Nat
  deriving DecidableEq, Repr

/-- The event of giving a piece of memory back. -/
def Grant.release (g : Grant) : Event :=
  .released g.kind g.layout g.address

/-- One block requested from an allocator: what was had, and the events. -/
def request (allocator : Allocator) (kind : BlockKind) (layout : Layout) :
    Option Grant × List Event :=
  if layout.Representable then
    match allocator kind layout with
    | none => (none, [.refused kind layout])
    | some address =>
      if address % layout.align = 0 then
        (some ⟨kind, layout, address⟩, [.granted kind layout address])
      else
        -- Memory that is not aligned is no use and goes back at once.
        (none, [.granted kind layout address, .released kind layout address])
  else
    (none, [])

/-- The blocks in `kinds` requested in turn while the grants in `held` are held,
    the newest first. At the first failure all grants are given back, the newest
    first, and the block is reported. -/
def acquire (allocator : Allocator) (layout : BlockKind → Layout) :
    List BlockKind → List Grant → Except MemoryError (List Grant) × List Event
  | [], held => (.ok held, [])
  | kind :: kinds, held =>
    match request allocator kind (layout kind) with
    | (some grant, events) =>
      let (result, later) := acquire allocator layout kinds (grant :: held)
      (result, events ++ later)
    | (none, events) => (.error (.allocation kind), events ++ held.map Grant.release)

/-- A host that grants every request of up to `limit` bytes except empty ones.
    Each block has a part of the address range to itself, so that blocks never
    touch and every address is aligned. -/
def Allocator.host (limit : Nat) : Allocator := fun kind layout =>
  if layout.size = 0 ∨ limit < layout.size then none
  else
    match kind with
    | .dram => some 0x1000000000000
    | .cartRom => some 0x2000000000000
    | .rspMem => some 0x3000000000000
    | .ddRom => some 0x4000000000000
    | .pifMem => some 0x5000000000000

/-- The most memory that a host process can address. -/
def Allocator.hostLimit : Nat := 0x800000000000

end RegionBus

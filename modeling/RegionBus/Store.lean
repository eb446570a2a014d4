import RegionBus.Allocation.Basic
import RegionBus.Window

/-!
# The Store

The machine's raw memory: its five blocks, and how much of the cartridge block
an image fills. A store is had from an allocator in one step. Tools reach it by
physical address through the standard windows; images are loaded into it with
their words turned around.

## Main definitions

* `Store`: The five blocks.
* `Store.create`: The blocks had from an allocator.
* `Store.locate?`, `Store.hostAddress?`: The byte behind an address.
* `Store.peek?`, `Store.poke?`: The word behind an address.
* `Store.loadCartridge`, `Store.loadPif`, `Store.loadDisk`: Images loaded.

## Theorems

* `updateBlock_eq`: Changing a block is putting in the changed one.
* `block_setBlock`: A block that was put in is the one that is found.
-/

namespace RegionBus

/-- The machine's raw memory. -/
structure Store where
  /-- Main memory. -/
  dram : Block
  /-- The cartridge image. -/
  cartRom : Block
  /-- The signal processor's memory. -/
  rspMem : Block
  /-- The disk drive's image. -/
  ddRom : Block
  /-- Boot code and scratch memory of the peripheral interface. -/
  pifMem : Block
  /-- The length of the cartridge image that was loaded last. -/
  cartridgeSize : Nat

namespace Store

/-- One of the blocks. -/
def block (s : Store) : BlockKind → Block
  | .dram => s.dram
  | .cartRom => s.cartRom
  | .rspMem => s.rspMem
  | .ddRom => s.ddRom
  | .pifMem => s.pifMem

/-- The store with one of the blocks replaced. -/
def setBlock (s : Store) (k : BlockKind) (b : Block) : Store :=
  match k with
  | .dram => { s with dram := b }
  | .cartRom => { s with cartRom := b }
  | .rspMem => { s with rspMem := b }
  | .ddRom => { s with ddRom := b }
  | .pifMem => { s with pifMem := b }

/-- The store with one of the blocks changed. -/
def updateBlock (s : Store) (k : BlockKind) (f : Block → Block) : Store :=
  match k with
  | .dram => { s with dram := f s.dram }
  | .cartRom => { s with cartRom := f s.cartRom }
  | .rspMem => { s with rspMem := f s.rspMem }
  | .ddRom => { s with ddRom := f s.ddRom }
  | .pifMem => { s with pifMem := f s.pifMem }

theorem updateBlock_eq (s : Store) (k : BlockKind) (f : Block → Block) :
    s.updateBlock k f = s.setBlock k (f (s.block k)) := by
  cases k <;> rfl

theorem block_setBlock (s : Store) (k j : BlockKind) (b : Block) :
    (s.setBlock k b).block j = if k = j then b else s.block j := by
  cases k <;> cases j <;> rfl

theorem cartridgeSize_setBlock (s : Store) (k : BlockKind) (b : Block) :
    (s.setBlock k b).cartridgeSize = s.cartridgeSize := by
  cases k <;> rfl

/-- The address a list of grants has for a block. -/
def grantedAddress (grants : List Grant) (k : BlockKind) : Nat :=
  ((grants.find? fun g => g.kind = k).map Grant.address).getD 0

/-- The zeroed store over a list of grants. -/
def ofGrants (dramSize : Nat) (grants : List Grant) : Store :=
  let zeroed (k : BlockKind) := Block.zeroed k (grantedAddress grants k) (k.sizeWith dramSize)
  { dram := zeroed .dram
    cartRom := zeroed .cartRom
    rspMem := zeroed .rspMem
    ddRom := zeroed .ddRom
    pifMem := zeroed .pifMem
    cartridgeSize := 0 }

/-- A store whose blocks are had from an allocator, with the events. -/
def create (allocator : Allocator) (dramSize : Nat) : Except MemoryError Store × List Event :=
  let outcome := acquire allocator (BlockKind.layout dramSize) BlockKind.all []
  (outcome.1.map (ofGrants dramSize), outcome.2)

/-- A store whose blocks are had from the host. -/
def createOnHost (dramSize : Nat) : Except MemoryError Store :=
  (create (Allocator.host Allocator.hostLimit) dramSize).1

/-- The byte that an address stands for, if the block reaches that far. -/
def locate? (s : Store) (a : UInt32) : Option Location :=
  (Catalog.standard.resolve? a).filter fun l => l.offset < (s.block l.block).size

/-- The host address of the byte that an address stands for. -/
def hostAddress? (s : Store) (a : UInt32) : Option Nat :=
  (s.locate? a).bind fun l => (s.block l.block).addressAt? l.offset

/-- The first address of the word that an address lies in. -/
def wordStart (a : UInt32) : UInt32 :=
  a &&& ~~~3

/-- The word that an address lies in, read past the bus. -/
def peek? (s : Store) (a : UInt32) : Option UInt32 :=
  (s.locate? (wordStart a)).bind fun l => (s.block l.block).readWord? l.offset

/-- The store with the word that an address lies in replaced, past the bus. -/
def poke? (s : Store) (a value : UInt32) : Option Store :=
  (s.locate? (wordStart a)).bind fun l =>
    ((s.block l.block).writeWord? l.offset value 0xFFFFFFFF).map (s.setBlock l.block)

/-- The length of the cartridge image as a word. -/
def romSize (s : Store) : UInt32 :=
  UInt32.ofNat s.cartridgeSize

/-- The store with an image of at most `limit` bytes at the start of a block.
    The image counts in whole words, so a partial last word is rounded up. -/
def loadImage (s : Store) (k : BlockKind) (image : Image) (limit : Nat) :
    Except MemoryError Store :=
  -- The limit can be smaller than the block, which holds more than the image.
  let tooLarge := MemoryError.imageTooLarge (s.block k).kind image.size limit
  if limit < image.paddedSize then .error tooLarge
  else
    match (s.block k).loadWords? 0 image with
    | some b => .ok (s.setBlock k b)
    | none => .error tooLarge

/-- The store with a cartridge image. -/
def loadCartridge (s : Store) (image : Image) : Except MemoryError Store :=
  match s.loadImage .cartRom image cartRomSize with
  | .ok s => .ok { s with cartridgeSize := image.size }
  | .error e => .error e

/-- The store with boot code for the peripheral interface. -/
def loadPif (s : Store) (image : Image) : Except MemoryError Store :=
  s.loadImage .pifMem image pifRomSize

/-- The store with a disk drive image. -/
def loadDisk (s : Store) (image : Image) : Except MemoryError Store :=
  s.loadImage .ddRom image ddRomSize

end Store

end RegionBus

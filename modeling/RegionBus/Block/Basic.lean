import RegionBus.Block.Contents
import RegionBus.Block.Image
import RegionBus.Block.Kind
import RegionBus.Word

/-!
# Blocks

A block is one contiguous piece of raw memory: where it lies in host memory,
how long it is, and what it holds. Every access is checked against the length
and leaves the block alone when any of its bytes would fall outside.

Words lie in a block with the least significant byte first. Image files have
the most significant byte first, so `loadWords?` turns every word around.

## Main definitions

* `Block`: A piece of raw memory.
* `Block.readWord?`, `Block.writeWord?`: Words at any offset, aligned or not.
* `Block.writeWordOrDrop`: The block after a store that may miss it.
* `Block.readBytes?`, `Block.writeBytes?`: Runs of bytes.
* `Block.loadWords?`: An image, converted word by word.
* `Block.fill`: The same byte everywhere.
* `Block.addressAt?`: The host address of a byte.

## Theorems

* `readWord?_isSome`, `writeWord?_isSome`: A word access succeeds iff it fits.
* `get_writeWord?`: What a word store does to each byte.
* `get_writeBytes?`, `get_loadWords?`: What the bulk stores do to each byte.
-/

namespace RegionBus

/-- One contiguous piece of raw memory. -/
structure Block where
  /-- Which of the machine's blocks this is. -/
  kind : BlockKind
  /-- The host address of the first byte. -/
  address : Nat
  /-- The length in bytes. -/
  size : Nat
  /-- The bytes; only those below `size` can be reached. -/
  contents : Contents

namespace Block

/-- A block of zeros. -/
def zeroed (kind : BlockKind) (address size : Nat) : Block where
  kind := kind
  address := address
  size := size
  contents := .filled 0

/-- The byte at an offset. -/
def get (b : Block) (i : Nat) : UInt8 :=
  b.contents.get i

/-- Whether the `n` bytes from `offset` on lie inside the block. -/
abbrev Fits (b : Block) (offset n : Nat) : Prop :=
  offset + n ≤ b.size

/-- The word at an offset, whether or not the block reaches that far. -/
def wordAt (b : Block) (offset : Nat) : UInt32 :=
  Word.ofBytes (b.get offset) (b.get (offset + 1)) (b.get (offset + 2)) (b.get (offset + 3))

/-- The word at an offset. -/
def readWord? (b : Block) (offset : Nat) : Option UInt32 :=
  if b.Fits offset 4 then some (b.wordAt offset) else none

/-- The block with four bytes from `offset` on replaced by those of a word. -/
def putWord (b : Block) (offset : Nat) (word : UInt32) : Block :=
  { b with
    contents := (((b.contents.set offset (Word.byte word 0)).set
      (offset + 1) (Word.byte word 1)).set
      (offset + 2) (Word.byte word 2)).set
      (offset + 3) (Word.byte word 3) }

/-- The block with the masked bits of the word at `offset` taken from `value`. -/
def writeWord? (b : Block) (offset : Nat) (value mask : UInt32) : Option Block :=
  if b.Fits offset 4 then
    some (b.putWord offset (Word.merge (b.wordAt offset) value mask))
  else
    none

/-- The block after a store that is lost if the word lies outside of it. -/
def writeWordOrDrop (b : Block) (offset : Nat) (value mask : UInt32) : Block :=
  if b.Fits offset 4 then
    b.putWord offset (Word.merge (b.wordAt offset) value mask)
  else
    b

/-- The `n` bytes from `offset` on. -/
def readBytes? (b : Block) (offset n : Nat) : Option (List UInt8) :=
  if b.Fits offset n then some ((List.range n).map fun i => b.get (offset + i)) else none

/-- The block with the bytes from `offset` on replaced by those of `data`. -/
def writeBytes? (b : Block) (offset : Nat) (data : Image) : Option Block :=
  if b.Fits offset data.size then
    some { b with contents := b.contents.splice offset data.size data.get }
  else
    none

/-- The block with an image copied to `offset`. The image has the most
    significant byte of each word first and is padded with zeros to whole words,
    and all of them have to fit. -/
def loadWords? (b : Block) (offset : Nat) (image : Image) : Option Block :=
  if b.Fits offset image.paddedSize then
    some { b with
      contents := b.contents.splice offset image.paddedSize fun i =>
        image.get (i / 4 * 4 + (3 - i % 4)) }
  else
    none

/-- The block with every byte replaced by `byte`. -/
def fill (b : Block) (byte : UInt8) : Block :=
  { b with contents := .filled byte }

/-- The host address of the byte at an offset inside the block. -/
def addressAt? (b : Block) (offset : Nat) : Option Nat :=
  if offset < b.size then some (b.address + offset) else none

theorem readWord?_isSome (b : Block) (offset : Nat) :
    (b.readWord? offset).isSome ↔ b.Fits offset 4 := by
  rw [readWord?, Option.isSome_ite]

theorem writeWord?_isSome (b : Block) (offset : Nat) (value mask : UInt32) :
    (b.writeWord? offset value mask).isSome ↔ b.Fits offset 4 := by
  rw [writeWord?, Option.isSome_ite]

theorem get_putWord (b : Block) (offset : Nat) (word : UInt32) (j : Nat) :
    (b.putWord offset word).get j =
      if offset ≤ j ∧ j < offset + 4 then Word.byte word (j - offset) else b.get j := by
  simp only [putWord, get, Contents.get_set]
  grind

theorem get_writeWord? {b b' : Block} {offset : Nat} {value mask : UInt32}
    (h : b.writeWord? offset value mask = some b') (j : Nat) :
    b'.get j = if offset ≤ j ∧ j < offset + 4 then
      Word.byte (Word.merge (b.wordAt offset) value mask) (j - offset) else b.get j := by
  unfold writeWord? at h
  split at h
  · cases h
    exact get_putWord ..
  · cases h

theorem get_writeBytes? {b b' : Block} {offset : Nat} {data : Image}
    (h : b.writeBytes? offset data = some b') (j : Nat) :
    b'.get j = if offset ≤ j ∧ j < offset + data.size then data.get (j - offset)
      else b.get j := by
  unfold writeBytes? at h
  split at h
  · cases h
    exact Contents.get_splice ..
  · cases h

theorem get_loadWords? {b b' : Block} {offset : Nat} {image : Image}
    (h : b.loadWords? offset image = some b') (j : Nat) :
    b'.get j = if offset ≤ j ∧ j < offset + image.paddedSize then
      image.get ((j - offset) / 4 * 4 + (3 - (j - offset) % 4)) else b.get j := by
  unfold loadWords? at h
  split at h
  · cases h
    exact Contents.get_splice ..
  · cases h

theorem get_fill (b : Block) (byte : UInt8) (j : Nat) : (b.fill byte).get j = byte :=
  Contents.get_filled byte j

end Block

end RegionBus

/-!
# Images

An image is a finite string of bytes offered to a block: a cartridge dump, boot
code, or any piece of data to copy in. It is given by its length and a function
for its bytes, so an image of hundreds of megabytes of zeros costs nothing to
name.

## Main definitions

* `Image`: A length and the bytes below it.
* `Image.get`: A byte, zero behind the end.
* `Image.ofBytes`, `Image.zeros`: Images from data.
* `Image.toBytes`: The data of an image.
* `Image.paddedSize`: The length rounded up to whole words.
-/

namespace RegionBus

/-- A string of `size` bytes; what `byte` says from `size` on is never used. -/
structure Image where
  /-- The number of bytes. -/
  size : Nat
  /-- The byte at each position below `size`. -/
  byte : Nat → UInt8

namespace Image

/-- The byte at position `i`, and zero behind the end. -/
def get (image : Image) (i : Nat) : UInt8 :=
  if i < image.size then image.byte i else 0

/-- The image that holds the given bytes. -/
def ofBytes (bytes : ByteArray) : Image where
  size := bytes.size
  byte i := if h : i < bytes.size then bytes[i] else 0

/-- An image of zeros. -/
def zeros (size : Nat) : Image where
  size := size
  byte _ := 0

/-- The bytes of an image. -/
def toBytes (image : Image) : ByteArray :=
  ⟨Array.ofFn fun i : Fin image.size => image.byte i⟩

/-- The length rounded up to a whole number of words. -/
def paddedSize (image : Image) : Nat :=
  (image.size + 3) / 4 * 4

theorem get_of_size_le {image : Image} {i : Nat} (h : image.size ≤ i) : image.get i = 0 := by
  rw [get, if_neg (Nat.not_lt.mpr h)]

end Image

end RegionBus

/-!
# Words and Their Bytes

A word is 32 bits. Inside a block its bytes lie with the least significant one
first; on the bus and in image files the most significant one comes first.
Bytes are numbered here by significance, so byte 0 is the low one.

A store carries a mask: `Word.merge` takes the bits in the mask from the new
value and the others from the old one.

Where a sum, a difference, a product or a shift has to stay within words, it is
computed with a step that gives nothing if it does not.

## Main definitions

* `Word.ofBytes`: The word with four given bytes, low byte first.
* `Word.byte`: One byte of a word.
* `Word.merge`: The old word with the masked bits replaced.
* `Word.add?`, `Word.sub?`, `Word.mul?`: Arithmetic that stays within words.
* `Word.shiftLeft?`, `Word.shiftRight?`: Shifts by less than the width of a word.

## Theorems

* `byte_ofBytes`, `byte_ofBytes_apply`: A word built from bytes has these bytes.
* `ofBytes_byte`: A word is built from its bytes.
* `merge_full`: A full mask replaces the word.
* `add?_of_lt`, `sub?_of_le`: When there is a sum or a difference.
-/

namespace RegionBus

namespace Word

/-- The word whose bytes are `b0` to `b3`, the least significant first. -/
def ofBytes (b0 b1 b2 b3 : UInt8) : UInt32 :=
  UInt32.ofNat (b0.toNat + 0x100 * b1.toNat + 0x10000 * b2.toNat + 0x1000000 * b3.toNat)

/-- Byte `i` of a word, byte 0 being the least significant. -/
def byte (w : UInt32) (i : Nat) : UInt8 :=
  UInt8.ofNat (w.toNat >>> (8 * i))

/-- The old word with the bits in `mask` taken from `value`. -/
def merge (old value mask : UInt32) : UInt32 :=
  (old &&& ~~~mask) ||| (value &&& mask)

/-- The sum of two words, if it is a word. -/
def add? (a b : UInt32) : Option UInt32 :=
  if a.toNat + b.toNat < 0x100000000 then some (a + b) else none

/-- The difference of two words, if it is a word. -/
def sub? (a b : UInt32) : Option UInt32 :=
  if b ≤ a then some (a - b) else none

/-- The product of two words, if it is a word. -/
def mul? (a b : UInt32) : Option UInt32 :=
  if a.toNat * b.toNat < 0x100000000 then some (a * b) else none

/-- A word shifted up by less than its width. -/
def shiftLeft? (a n : UInt32) : Option UInt32 :=
  if n < 32 then some (a <<< n) else none

/-- A word shifted down by less than its width. -/
def shiftRight? (a n : UInt32) : Option UInt32 :=
  if n < 32 then some (a >>> n) else none

theorem toNat_ofBytes (b0 b1 b2 b3 : UInt8) :
    (ofBytes b0 b1 b2 b3).toNat =
      b0.toNat + 0x100 * b1.toNat + 0x10000 * b2.toNat + 0x1000000 * b3.toNat := by
  have h0 := b0.toNat_lt
  have h1 := b1.toNat_lt
  have h2 := b2.toNat_lt
  have h3 := b3.toNat_lt
  rw [ofBytes, UInt32.toNat_ofNat']
  omega

theorem byte_ofBytes (b0 b1 b2 b3 : UInt8) :
    byte (ofBytes b0 b1 b2 b3) 0 = b0 ∧ byte (ofBytes b0 b1 b2 b3) 1 = b1 ∧
      byte (ofBytes b0 b1 b2 b3) 2 = b2 ∧ byte (ofBytes b0 b1 b2 b3) 3 = b3 := by
  have h0 := b0.toNat_lt
  have h1 := b1.toNat_lt
  have h2 := b2.toNat_lt
  have h3 := b3.toNat_lt
  refine ⟨?_, ?_, ?_, ?_⟩ <;>
  · apply UInt8.toNat_inj.mp
    rw [byte, UInt8.toNat_ofNat', toNat_ofBytes]
    omega

/-- A word built from four bytes in a row has them in the same order. -/
theorem byte_ofBytes_apply (f : Nat → UInt8) {i : Nat} (hi : i < 4) :
    byte (ofBytes (f 0) (f 1) (f 2) (f 3)) i = f i := by
  rcases byte_ofBytes (f 0) (f 1) (f 2) (f 3) with ⟨h0, h1, h2, h3⟩
  have hcases : i = 0 ∨ i = 1 ∨ i = 2 ∨ i = 3 := by omega
  rcases hcases with rfl | rfl | rfl | rfl
  · exact h0
  · exact h1
  · exact h2
  · exact h3

theorem ofBytes_byte (w : UInt32) : ofBytes (byte w 0) (byte w 1) (byte w 2) (byte w 3) = w := by
  have h := w.toNat_lt
  -- As numbers, the bytes are the digits of the word in base 256.
  apply UInt32.toNat_inj.mp
  rw [toNat_ofBytes]
  simp only [byte, UInt8.toNat_ofNat']
  omega

theorem merge_full (old value : UInt32) : merge old value 0xFFFFFFFF = value := by
  have hall : (0xFFFFFFFF : UInt32) = -1 := rfl
  rw [merge, hall, UInt32.not_neg_one, UInt32.and_zero, UInt32.and_neg_one, UInt32.zero_or]

section Checked

variable {a b : UInt32}

theorem add?_of_lt (h : a.toNat + b.toNat < 0x100000000) : add? a b = some (a + b) :=
  if_pos h

theorem add?_of_le (h : 0x100000000 ≤ a.toNat + b.toNat) : add? a b = none :=
  if_neg (Nat.not_lt.mpr h)

theorem sub?_of_le (h : b ≤ a) : sub? a b = some (a - b) :=
  if_pos h

theorem sub?_of_lt (h : a < b) : sub? a b = none :=
  if_neg (UInt32.not_le.mpr h)

end Checked

end Word

end RegionBus

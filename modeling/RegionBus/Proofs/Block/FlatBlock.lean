import Mathlib.Data.Nat.Digits.Defs
import RegionBus.Proofs.Block.Steps

/-!
# Blocks as Lists of Bytes

What a block answers can be told without knowing how it keeps its bytes. `FlatBlock` keeps
them in a list. It takes a piece out of the list or puts another one in its place, and it does
so only if the list has that piece.

Everything else is a matter of spelling. A word is spelled by four bytes, the least
significant one first. An image has them the other way round and may end within a word, so
`turned` turns each four of its bytes around and fills up the last ones.

## Main definitions

* `slice`, `patch`: A piece of a list, and a piece replaced.
* `littleEndian`, `wordBytes`, `turned`: How words are spelled.
* `FlatBlock`, `FlatBlock.perform`, `FlatBlock.run`: A list of bytes in use.

## Theorems

* `getElem?_patch`: The elements of a list after a piece was replaced.
* `FlatBlock.getElem?_put`: The bytes that a store leaves alone.
* `length_turned`, `getD_turned`: The bytes of an image turned around.
-/

namespace RegionBus

section Lists

variable {α : Type}

/-- Some elements of a list, from a position on. -/
def slice (l : List α) (offset n : Nat) : List α :=
  (l.drop offset).take n

/-- A list with the elements from a position on replaced by others. -/
def patch (l : List α) (offset : Nat) (new : List α) : List α :=
  l.take offset ++ new ++ l.drop (offset + new.length)

theorem getElem?_map_range (f : Nat → α) (n i : Nat) :
    ((List.range n).map f)[i]? = if i < n then some (f i) else none := by
  rw [List.getElem?_map]
  by_cases h : i < n
  · rw [List.getElem?_range h, if_pos h, Option.map_some]
  · rw [List.getElem?_eq_none (by rw [List.length_range]; omega), if_neg h, Option.map_none]

theorem getElem?_slice (l : List α) (offset n i : Nat) :
    (slice l offset n)[i]? = if i < n then l[offset + i]? else none := by
  rw [slice, List.getElem?_take, List.getElem?_drop]

/-- The elements of a list after a piece of it was replaced. -/
theorem getElem?_patch {l : List α} {offset : Nat} (h : offset ≤ l.length) (new : List α)
    (i : Nat) : (patch l offset new)[i]? =
      if offset ≤ i ∧ i < offset + new.length then new[i - offset]? else l[i]? := by
  have htake : (l.take offset).length = offset := List.length_take_of_le h
  rw [patch, List.append_assoc, List.getElem?_append, htake]
  by_cases hfront : i < offset
  · rw [if_pos hfront, if_neg (by omega), List.getElem?_take_of_lt hfront]
  · rw [if_neg hfront, List.getElem?_append]
    by_cases hin : i - offset < new.length
    · rw [if_pos hin, if_pos (by omega)]
    · have hindex : offset + new.length + (i - offset - new.length) = i := by omega
      rw [if_neg hin, if_neg (by omega), List.getElem?_drop, hindex]

end Lists

/-- The number that some bytes spell, the least significant one first. -/
def littleEndian (bytes : List UInt8) : Nat :=
  Nat.ofDigits 256 (bytes.map UInt8.toNat)

/-- The four bytes that spell a word, the least significant one first. -/
def wordBytes (w : UInt32) : List UInt8 :=
  [Word.byte w 0, Word.byte w 1, Word.byte w 2, Word.byte w 3]

/-- Bytes with each four of them turned around. Zeros are put behind the last ones if they
    are fewer. -/
def turned : List UInt8 → List UInt8
  | [] => []
  | [a] => [0, 0, 0, a]
  | [a, b] => [0, 0, b, a]
  | [a, b, c] => [0, c, b, a]
  | a :: b :: c :: d :: rest => d :: c :: b :: a :: turned rest

/-- The bytes of an image. -/
def Image.byteList (image : Image) : List UInt8 :=
  (List.range image.size).map image.get

/-- A block that is nothing but a list of bytes at a host address. -/
structure FlatBlock where
  /-- The host address of the first byte. -/
  address : Nat
  /-- The bytes. -/
  bytes : List UInt8
  deriving DecidableEq, Repr

namespace FlatBlock

/-- The answer to a store, and the block with other bytes put in from a position on, if it has
    as many there. -/
def put (l : FlatBlock) (offset : Nat) (new : List UInt8) : BlockAnswer × FlatBlock :=
  if offset + new.length ≤ l.bytes.length then
    (.stored true, { l with bytes := patch l.bytes offset new })
  else
    (.stored false, l)

/-- The word that four bytes of the list spell. -/
def wordAt (l : FlatBlock) (offset : Nat) : UInt32 :=
  UInt32.ofNat (littleEndian (slice l.bytes offset 4))

/-- The answer of a list of bytes to a step, and the list afterwards. -/
def perform (l : FlatBlock) : BlockStep → BlockAnswer × FlatBlock
  | .readWord offset =>
    (.word (if offset + 4 ≤ l.bytes.length then some (l.wordAt offset) else none), l)
  | .writeWord offset value mask =>
    l.put offset (wordBytes (Word.merge (l.wordAt offset) value mask))
  | .readBytes offset buffer =>
    if offset + buffer.length ≤ l.bytes.length then
      (.copied true (slice l.bytes offset buffer.length), l)
    else
      (.copied false buffer, l)
  | .writeBytes offset data => l.put offset data.byteList
  | .loadWords offset image => l.put offset (turned image.byteList)
  | .fill byte => (.filled, { l with bytes := List.replicate l.bytes.length byte })
  | .addressAt offset =>
    (.address (if offset < l.bytes.length then some (l.address + offset) else none), l)

/-- The answers of a list of bytes to some steps in order, and the list afterwards. -/
def run (l : FlatBlock) : List BlockStep → List BlockAnswer × FlatBlock
  | [] => ([], l)
  | step :: steps =>
    let (reply, l) := l.perform step
    let (replies, l) := l.run steps
    (reply :: replies, l)

end FlatBlock

/-- A store leaves the bytes alone that are not in its piece. -/
theorem FlatBlock.getElem?_put (l : FlatBlock) {offset i : Nat} {new : List UInt8}
    (hi : i < offset ∨ offset + new.length ≤ i) : (l.put offset new).2.bytes[i]? = l.bytes[i]? := by
  rw [put]
  split
  · rw [getElem?_patch (by omega), if_neg (by omega)]
  · rfl

/-- Every other byte of a word that is not aligned is replaced. -/
example : (FlatBlock.perform ⟨0, [1, 2, 3, 4, 5, 6]⟩ (.writeWord 1 0xAABBCCDD 0x00FF00FF)).2.bytes =
    [1, 0xDD, 3, 0xBB, 5, 6] := by decide

@[simp]
theorem length_wordBytes (w : UInt32) : (wordBytes w).length = 4 := rfl

theorem getD_wordBytes (w : UInt32) {i : Nat} (hi : i < 4) :
    (wordBytes w).getD i 0 = Word.byte w i := by
  have hcases : i = 0 ∨ i = 1 ∨ i = 2 ∨ i = 3 := by omega
  rcases hcases with rfl | rfl | rfl | rfl <;> rfl

/-- Four bytes spell the word that is made of them. -/
theorem littleEndian_four (b₀ b₁ b₂ b₃ : UInt8) :
    littleEndian [b₀, b₁, b₂, b₃] = (Word.ofBytes b₀ b₁ b₂ b₃).toNat := by
  rw [Word.toNat_ofBytes, littleEndian]
  simp only [List.map_cons, List.map_nil, Nat.ofDigits_cons, Nat.ofDigits_nil]
  omega

@[simp]
theorem Image.length_byteList (image : Image) : image.byteList.length = image.size := by
  rw [byteList, List.length_map, List.length_range]

theorem Image.getD_byteList (image : Image) (i : Nat) : image.byteList.getD i 0 = image.get i := by
  rw [List.getD_eq_getElem?_getD, byteList, getElem?_map_range]
  by_cases h : i < image.size
  · rw [if_pos h, Option.getD_some]
  · rw [if_neg h, Option.getD_none, get_of_size_le (Nat.le_of_not_lt h)]

theorem length_turned (bytes : List UInt8) :
    (turned bytes).length = (bytes.length + 3) / 4 * 4 := by
  induction bytes using turned.induct with
  | case1 => rfl
  | case2 | case3 | case4 =>
      simp only [turned, List.length_cons, List.length_nil, Nat.reduceAdd, Nat.reduceDiv,
        Nat.reduceMul]
  | case5 a b c d rest ih =>
      simp only [turned, List.length_cons, ih]
      omega

/-- An image is as long as its whole words when it is turned around. -/
theorem Image.length_turned_byteList (image : Image) :
    (turned image.byteList).length = image.paddedSize := by
  rw [length_turned, length_byteList, paddedSize]

/-- Each byte comes from the opposite place in its four, and is zero if there is none. -/
theorem getD_turned (bytes : List UInt8) {i : Nat} (hi : i < (turned bytes).length) :
    (turned bytes).getD i 0 = bytes.getD (i / 4 * 4 + (3 - i % 4)) 0 := by
  induction bytes using turned.induct generalizing i with
  | case1 => cases hi
  | case2 | case3 | case4 =>
      have hcases : i = 0 ∨ i = 1 ∨ i = 2 ∨ i = 3 := by
        simp only [turned, List.length_cons, List.length_nil] at hi
        omega
      rcases hcases with rfl | rfl | rfl | rfl <;> rfl
  | case5 a b c d rest ih =>
      by_cases hfirst : i < 4
      · have hcases : i = 0 ∨ i = 1 ∨ i = 2 ∨ i = 3 := by omega
        rcases hcases with rfl | rfl | rfl | rfl <;> rfl
      · -- Behind the first four both sides go on with the rest.
        obtain ⟨j, rfl⟩ : ∃ j, i = j + 4 := ⟨i - 4, by omega⟩
        have hj : j < (turned rest).length := by
          simp only [turned, List.length_cons] at hi
          omega
        have hindex : (j + 4) / 4 * 4 + (3 - (j + 4) % 4) = j / 4 * 4 + (3 - j % 4) + 4 := by omega
        rw [hindex]
        exact ih hj

/-- The last word of an image is filled up. -/
example : turned [0x11, 0x22, 0x33, 0x44, 0x55] =
    [0x44, 0x33, 0x22, 0x11, 0, 0, 0, 0x55] := rfl

end RegionBus

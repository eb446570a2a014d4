import Std.Data.HashMap

/-!
# Contents of a Block

A block can be hundreds of megabytes large while a program touches a few words
of it. Its contents are therefore a backdrop, a function that knows every byte
of the block as it was filled or loaded, and a table of the bytes stored since.
Filling a block or loading an image into it makes a new backdrop; small stores
only add to the table.

The view of all this is `Contents.get`. Each operation has one lemma that says
what it does to that view, and nothing else should unfold it.

## Main definitions

* `Contents`: The bytes of a block.
* `Contents.get`: The byte at a position.
* `Contents.filled`: The same byte everywhere.
* `Contents.set`: One byte replaced.
* `Contents.splice`: A run of bytes replaced.

## Theorems

* `get_filled`, `get_set`, `get_splice`: The view after each operation.
-/

namespace RegionBus

/-- The bytes of a block: a backdrop, and the bytes stored over it. -/
structure Contents where
  /-- Every byte before the stores in `stored`. -/
  backdrop : Nat → UInt8
  /-- The bytes stored over the backdrop, by position. -/
  stored : Std.HashMap Nat UInt8

namespace Contents

/-- The byte at position `i`. -/
def get (c : Contents) (i : Nat) : UInt8 :=
  (c.stored[i]?).getD (c.backdrop i)

/-- The same byte everywhere. -/
def filled (b : UInt8) : Contents where
  backdrop _ := b
  stored := ∅

/-- The byte at position `i` replaced by `b`. -/
def set (c : Contents) (i : Nat) (b : UInt8) : Contents where
  backdrop := c.backdrop
  stored := c.stored.insert i b

/-- The `n` bytes from `start` on replaced by a new backdrop. -/
def overlay (c : Contents) (start n : Nat) (f : Nat → UInt8) : Contents where
  backdrop i := if start ≤ i ∧ i < start + n then f (i - start) else c.get i
  stored := ∅

/-- The longest run that is stored byte by byte; longer ones become a backdrop. -/
def longestStoredRun : Nat := 4096

/-- The `n` bytes from `start` on replaced by `f 0`, `f 1` and so on. -/
def splice (c : Contents) (start n : Nat) (f : Nat → UInt8) : Contents :=
  if n ≤ longestStoredRun then
    (List.range n).foldl (fun c i => c.set (start + i) (f i)) c
  else
    c.overlay start n f

@[simp]
theorem get_filled (b : UInt8) (i : Nat) : (filled b).get i = b := by
  rw [get, filled, Std.HashMap.getElem?_empty, Option.getD_none]

theorem get_set (c : Contents) (i j : Nat) (b : UInt8) :
    (c.set i b).get j = if i = j then b else c.get j := by
  rw [get, set, Std.HashMap.getElem?_insert]
  by_cases h : i = j
  · rw [if_pos (beq_iff_eq.mpr h), if_pos h, Option.getD_some]
  · rw [if_neg fun heq => h (beq_iff_eq.mp heq), if_neg h]
    rfl

theorem get_overlay (c : Contents) (start n : Nat) (f : Nat → UInt8) (j : Nat) :
    (c.overlay start n f).get j =
      if start ≤ j ∧ j < start + n then f (j - start) else c.get j := by
  rw [get, overlay, Std.HashMap.getElem?_empty, Option.getD_none]

theorem get_foldl_set (c : Contents) (start n : Nat) (f : Nat → UInt8) (j : Nat) :
    ((List.range n).foldl (fun c i => c.set (start + i) (f i)) c).get j =
      if start ≤ j ∧ j < start + n then f (j - start) else c.get j := by
  induction n with
  | zero =>
      have h : ¬(start ≤ j ∧ j < start + 0) := by omega
      rw [if_neg h]
      rfl
  | succ n ih =>
      -- The last byte of the run is set on top of the others.
      rw [List.range_succ, List.foldl_append, List.foldl_cons, List.foldl_nil, get_set, ih]
      by_cases h : start + n = j
      · have hj : j - start = n := by omega
        have hr : start ≤ j ∧ j < start + (n + 1) := by omega
        rw [if_pos h, if_pos hr, hj]
      · have hr : (start ≤ j ∧ j < start + (n + 1)) ↔ (start ≤ j ∧ j < start + n) := by omega
        simp only [if_neg h, hr]

theorem get_splice (c : Contents) (start n : Nat) (f : Nat → UInt8) (j : Nat) :
    (c.splice start n f).get j =
      if start ≤ j ∧ j < start + n then f (j - start) else c.get j := by
  unfold splice
  split
  · exact get_foldl_set c start n f j
  · exact get_overlay c start n f j

end Contents

end RegionBus

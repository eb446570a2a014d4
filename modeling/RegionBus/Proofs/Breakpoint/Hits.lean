import Mathlib.Data.List.DropRight
import RegionBus.Proofs.Breakpoint.Slots

/-!
# The Lists behind a Registry

A registry keeps two arrays, its breakpoints by index and the hits. Seen as
lists they change in the plainest way: a breakpoint is appended, put out or
modified at its index, and a search is a search in the list.

The hits are the end of a longer list, that of all hits there were. Keeping the
newest `maxHits` of them after each hit comes to the same as keeping them all
and looking at the newest ones in the end, which is `rtake_concat`: what was
dropped on the way would be dropped anyway.

## Theorems

* `slots_add`, `slots_remove`, `slots_setEnabled`: The breakpoints after each change.
* `hits_record`: The hits after one more.
* `rtake_concat`: Hits may as well be dropped in the end.
-/

namespace RegionBus

namespace Breakpoints

theorem slots_add (l : Breakpoints) (first last : UInt32) (flags : Flags) :
    (l.add first last flags).2.slots.toList =
      l.slots.toList ++ [some ⟨first, last, flags⟩] := by
  rw [add, Array.toList_push]

theorem slots_remove (l : Breakpoints) (i : Nat) :
    (l.remove i).2.slots.toList = l.slots.toList.set i none := by
  rw [remove, Array.toList_setIfInBounds]

theorem slots_setEnabled (l : Breakpoints) (i : Nat) (on : Bool) :
    (l.setEnabled i on).2.slots.toList = l.slots.toList.modify i
      (Option.map fun b => { b with flags := b.flags.setEnabled on }) := by
  rw [setEnabled, get?, ← Array.getElem?_toList, List.modify_eq_set_getElem?]
  -- The index was not given out, or is a hole, or has a breakpoint.
  cases hslot : l.slots.toList[i]? with
  | none => rfl
  | some slot =>
      cases slot with
      | none =>
          rcases List.getElem?_eq_some_iff.mp hslot with ⟨hlt, hnone⟩
          have hself := List.set_getElem_self hlt
          rw [hnone] at hself
          exact hself.symm
      | some b => exact Array.toList_setIfInBounds

theorem size_setEnabled (l : Breakpoints) (i : Nat) (on : Bool) :
    (l.setEnabled i on).2.slots.size = l.slots.size := by
  have hslots := congrArg List.length (l.slots_setEnabled i on)
  rw [List.length_modify, Array.length_toList, Array.length_toList] at hslots
  exact hslots

theorem find?_eq (l : Breakpoints) (first last : UInt32) (flags : Flags) :
    l.find? first last flags = l.slots.toList.findIdx? fun slot =>
      slot.any fun b => b.overlaps first last && b.flags.contains flags := by
  rw [find?, ← List.findIdx?_toArray, Array.toArray_toList]

theorem hits_setEnabled (l : Breakpoints) (i : Nat) (on : Bool) :
    (l.setEnabled i on).2.hits = l.hits := by
  rw [setEnabled]
  split <;> rfl

theorem slots_record (l : Breakpoints) (hit : Hit) : (l.record hit).slots = l.slots :=
  rfl

/-- One more hit, and the newest ones of all are kept. Since there are never more than
    `maxHits`, it is enough to drop one when there are as many. -/
theorem hits_record (l : Breakpoints) (hit : Hit) :
    (l.record hit).hits.toList = (l.hits.toList ++ [hit]).rtake maxHits := by
  have hsize : l.hits.toList.length = l.hits.size := Array.length_toList
  have hle := l.hits_le
  change (pushNewest l.hits hit).toList = _
  rw [pushNewest, Array.toList_push]
  by_cases hfull : l.hits.size = maxHits
  · have hmax : maxHits = maxHits - 1 + 1 := rfl
    have hone : maxHits - (maxHits - 1) = 1 := rfl
    rw [if_pos hfull, Array.toList_extract, List.extract_eq_take_drop, hmax,
      List.rtake_concat_succ, List.rtake, hsize, hfull, hone, List.take_of_length_le]
    rw [List.length_drop, hsize, hfull]
  · have hzero : l.hits.size + 1 - maxHits = 0 := by omega
    rw [if_neg hfull, List.rtake, List.length_append, List.length_singleton, hsize, hzero,
      List.drop_zero]

end Breakpoints

/-- The newest of the newest, with one more, are the newest of all with one more. -/
theorem rtake_concat {α : Type} (xs : List α) (x : α) {n : Nat} (hn : 0 < n) :
    (xs.rtake n ++ [x]).rtake n = (xs ++ [x]).rtake n := by
  rcases Nat.exists_eq_add_of_lt hn with ⟨k, hk⟩
  rw [Nat.zero_add] at hk
  subst hk
  rw [List.rtake_concat_succ, List.rtake_concat_succ]
  simp only [List.rtake_eq_reverse_take_reverse, List.reverse_reverse, List.take_take]
  rw [Nat.min_eq_left (Nat.le_succ k)]

end RegionBus

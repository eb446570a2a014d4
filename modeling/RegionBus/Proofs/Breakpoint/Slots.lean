import RegionBus.Proofs.Breakpoint.Lookup

/-!
# Changes of a Breakpoint List

Each change of a list of breakpoints is a change of one index. The `get?` lemmas
say which, and what is there afterwards. An access changes no index at all; it
can only add to the hits.

A change matters to a region only if a breakpoint that was there before or is
there now meets it. `wantedChecks_eq_of_change` is stated for any change of one
index between breakpoints that have the same two bounds. Adding, removing and
switching are all of this kind, and for each of them it says that the regions
which are not between the bounds want the same watched as before.

## Theorems

* `get?_add`, `get?_remove`, `get?_setEnabled`: What is under each index.
* `wantedChecks_eq_of_live`: What is wanted depends on the live breakpoints.
* `wantedChecks_eq_of_change`: A change of one index matters only near it.
* `wantedChecks_add`, `wantedChecks_remove`, `wantedChecks_setEnabled`: Each change.
-/

namespace RegionBus

namespace Breakpoints

theorem get?_add (l : Breakpoints) (first last : UInt32) (flags : Flags) (i : Nat) :
    (l.add first last flags).2.get? i =
      if i = l.slots.size then some ⟨first, last, flags⟩ else l.get? i := by
  simp only [add, get?, Array.getElem?_push]
  split
  · rfl
  · rfl

theorem get?_remove (l : Breakpoints) (i j : Nat) :
    (l.remove i).2.get? j = if i = j then none else l.get? j := by
  simp only [remove, get?, Array.getElem?_setIfInBounds]
  by_cases hij : i = j
  · rw [if_pos hij, if_pos hij]
    split <;> rfl
  · rw [if_neg hij, if_neg hij]

/-- The breakpoint under an index, if there is one, is switched and keeps its
    bounds; nothing else changes. -/
theorem get?_setEnabled (l : Breakpoints) (i : Nat) (on : Bool) (j : Nat) :
    (l.setEnabled i on).2.get? j =
      if i = j then (l.get? i).map fun b => { b with flags := b.flags.setEnabled on }
      else l.get? j := by
  rw [setEnabled]
  cases hget : l.get? i with
  | none =>
      by_cases hij : i = j
      · rw [if_pos hij, ← hij, hget]
        rfl
      · rw [if_neg hij]
  | some b =>
      have hlt : i < l.slots.size := by
        rw [get?, Option.join_eq_some_iff] at hget
        exact (Array.getElem?_eq_some_iff.mp hget).1
      simp only [get?, Array.getElem?_setIfInBounds]
      by_cases hij : i = j
      · rw [if_pos hij, if_pos hij, if_pos hlt]
        rfl
      · rw [if_neg hij, if_neg hij]

theorem get?_of_slots_eq {l l' : Breakpoints} (h : l.slots = l'.slots) (i : Nat) :
    l.get? i = l'.get? i := by
  rw [get?, get?, h]

/-- Two lists in which the same breakpoints that meet a region are live want the
    same watched there. -/
theorem wantedChecks_eq_of_live {l l' : Breakpoints} {r : Region}
    (h : ∀ b : Breakpoint, b.overlaps r.base r.last = true → (l.Live b ↔ l'.Live b)) :
    Bus.wantedChecks (some l) r = Bus.wantedChecks (some l') r := by
  have hkind : ∀ k : AccessKind, (l.lookup? r.base regionSize k.watched).isSome =
      (l'.lookup? r.base regionSize k.watched).isSome := by
    intro k
    rw [Bool.eq_iff_iff, isSome_lookup?_region_iff, isSome_lookup?_region_iff]
    constructor
    · rintro ⟨b, hlive, hmeets, hflags⟩
      exact ⟨b, (h b hmeets).mp hlive, hmeets, hflags⟩
    · rintro ⟨b, hlive, hmeets, hflags⟩
      exact ⟨b, (h b hmeets).mpr hlive, hmeets, hflags⟩
  simp only [Bus.wantedChecks, Registry.lookup?, hkind]

theorem wantedChecks_eq_of_get? {l l' : Breakpoints} (h : ∀ i, l.get? i = l'.get? i)
    (r : Region) : Bus.wantedChecks (some l) r = Bus.wantedChecks (some l') r := by
  refine wantedChecks_eq_of_live (fun b _ => ?_)
  simp only [Live, h]

/-- A change under one index, from and to breakpoints with the same two bounds,
    matters only to the regions between these bounds. -/
theorem wantedChecks_eq_of_change {l l' : Breakpoints} {i : Nat} {first last : UInt32}
    (hother : ∀ j, j ≠ i → l'.get? j = l.get? j)
    (hold : ∀ b, l.get? i = some b → b.first = first ∧ b.last = last)
    (hnew : ∀ b, l'.get? i = some b → b.first = first ∧ b.last = last) {r : Region}
    (hr : r ∉ Region.between (regionOf (min first last)) (regionOf (max first last))) :
    Bus.wantedChecks (some l') r = Bus.wantedChecks (some l) r := by
  -- A breakpoint that meets the region is not the one that changes.
  have hne : ∀ b : Breakpoint, b.overlaps r.base r.last = true →
      ¬ (b.first = first ∧ b.last = last) := by
    rintro b hmeets ⟨hfirst, hlast⟩
    have hmem := b.mem_between_of_overlaps r hmeets
    rw [hfirst, hlast] at hmem
    exact hr hmem
  -- So it has been there under another index, and still is.
  refine wantedChecks_eq_of_live (fun b hmeets => ?_)
  constructor
  · rintro ⟨j, hj⟩
    by_cases hji : j = i
    · exact absurd (hnew b (hji ▸ hj)) (hne b hmeets)
    · exact ⟨j, by rw [← hother j hji]; exact hj⟩
  · rintro ⟨j, hj⟩
    by_cases hji : j = i
    · exact absurd (hold b (hji ▸ hj)) (hne b hmeets)
    · exact ⟨j, by rw [hother j hji]; exact hj⟩

/-- A breakpoint that is added matters to the regions between its bounds. -/
theorem wantedChecks_add (l : Breakpoints) (first last : UInt32) (flags : Flags) {r : Region}
    (hr : r ∉ Region.between (regionOf (min first last)) (regionOf (max first last))) :
    Bus.wantedChecks (some (l.add first last flags).2) r = Bus.wantedChecks (some l) r := by
  refine wantedChecks_eq_of_change (i := l.slots.size) (fun j hj => ?_) (fun b hb => ?_)
    (fun b hb => ?_) hr
  · rw [get?_add, if_neg hj]
  · -- The index was not given out before.
    rw [get?_of_size_le l (Nat.le_refl _)] at hb
    cases hb
  · rw [get?_add, if_pos rfl] at hb
    rw [← Option.some.inj hb]
    exact ⟨rfl, rfl⟩

/-- So does one that is removed. -/
theorem wantedChecks_remove {l : Breakpoints} {i : Nat} {b : Breakpoint}
    (hget : l.get? i = some b) {r : Region}
    (hr : r ∉ Region.between (regionOf (min b.first b.last)) (regionOf (max b.first b.last))) :
    Bus.wantedChecks (some (l.remove i).2) r = Bus.wantedChecks (some l) r := by
  refine wantedChecks_eq_of_change (i := i) (fun j hj => ?_) (fun b' hb => ?_)
    (fun b' hb => ?_) hr
  · rw [get?_remove, if_neg (Ne.symm hj)]
  · rw [hget] at hb
    rw [← Option.some.inj hb]
    exact ⟨rfl, rfl⟩
  · rw [get?_remove, if_pos rfl] at hb
    cases hb

/-- And one that is switched. -/
theorem wantedChecks_setEnabled {l : Breakpoints} {i : Nat} {b : Breakpoint}
    (hget : l.get? i = some b) (on : Bool) {r : Region}
    (hr : r ∉ Region.between (regionOf (min b.first b.last)) (regionOf (max b.first b.last))) :
    Bus.wantedChecks (some (l.setEnabled i on).2) r = Bus.wantedChecks (some l) r := by
  refine wantedChecks_eq_of_change (i := i) (fun j hj => ?_) (fun b' hb => ?_)
    (fun b' hb => ?_) hr
  · rw [get?_setEnabled, if_neg (Ne.symm hj)]
  · rw [hget] at hb
    rw [← Option.some.inj hb]
    exact ⟨rfl, rfl⟩
  · rw [get?_setEnabled, if_pos rfl, hget, Option.map_some] at hb
    rw [← Option.some.inj hb]
    exact ⟨rfl, rfl⟩

/-- Removing what is not there matters to no region. -/
theorem wantedChecks_remove_none {l : Breakpoints} {i : Nat} (hget : l.get? i = none)
    (r : Region) : Bus.wantedChecks (some (l.remove i).2) r = Bus.wantedChecks (some l) r := by
  refine wantedChecks_eq_of_get? (fun j => ?_) r
  rw [get?_remove]
  by_cases hij : i = j
  · rw [if_pos hij, ← hij, hget]
  · rw [if_neg hij]

end Breakpoints

end RegionBus

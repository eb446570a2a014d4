import RegionBus.Proofs.Breakpoint.Hits

/-!
# The Two Bounds of a Breakpoint

A breakpoint is given by two bounds, and meets a range if its first bound is not behind
the range and its last bound not in front of it. With the bounds the wrong way round,
this asks that both of them lie within the range, which is much less often the case.
The regions that are asked again when a breakpoint comes or goes are those between the
two bounds in either order, so for them the order makes no difference.

Where it makes a difference depends on the ranges. A write can be of a single byte, and
then only a breakpoint with equal bounds can have them in either order. Reads are of
whole words, so it is enough for the bounds to lie in one word. A breakpoint that watches
neither is never asked. This is what `Breakpoint.Symmetric` says, and `twin_reversed`
shows that it suffices.

Registries that differ in the order of such bounds only are `Twins`. They find the same
breakpoints and want the same watched, and they stay twins whatever is done to both.

## Main definitions

* `Breakpoint.reversed`: A breakpoint with its bounds in the other order.
* `Breakpoint.Symmetric`: The order of its bounds does not matter.
* `AccessKind.Spans`: The ranges that are asked about for a kind of access.
* `Breakpoint.Twin`: No such range tells two breakpoints apart.
* `Breakpoints.Twins`: Registries with such breakpoints under the same indices.

## Theorems

* `twin_reversed`: A breakpoint whose bounds may be in either order.
* `Twins.find?_eq`, `Twins.wantedChecks_eq`: Twins find the same and want the same.
* `twins_reversed`: How registries come to be twins.
* `Twins.add`, `Twins.remove`, `Twins.setEnabled`, `Twins.record`: They stay twins.
-/

namespace RegionBus

/-- The ranges that are asked about for a kind of access. Reads are of whole words. -/
def AccessKind.Spans : AccessKind → UInt32 → UInt32 → Prop
  | read, first, last => first.toNat % 4 = 0 ∧ last.toNat % 4 = 3
  | write, _, _ => True

namespace Flags

/-- A switch does not change what is watched. -/
theorem contains_flag_setEnabled (f : Flags) (on : Bool) (k : AccessKind) :
    (f.setEnabled on).contains k.flag = f.contains k.flag := by
  have hzero : k.flag.bits.toNat.testBit 0 = false := by cases k <;> decide
  rw [Bool.eq_iff_iff, contains_iff, contains_iff]
  refine forall_congr' fun i => imp_congr_right fun hi => ?_
  have hne : i ≠ 0 := by
    rintro rfl
    rw [hzero] at hi
    exact Bool.noConfusion hi
  rw [testBit_setEnabled, if_neg hne]

theorem contains_enabled_setEnabled (f : Flags) :
    (f.setEnabled true).contains .enabled = true := by
  rw [contains_iff]
  intro i hi
  rw [testBit_setEnabled, if_pos (Nat.testBit_one_eq_true_iff_self_eq_zero.mp hi)]

end Flags

namespace Breakpoint

/-- A breakpoint with its bounds in the other order. -/
def reversed (b : Breakpoint) : Breakpoint :=
  ⟨b.last, b.first, b.flags⟩

/-- The order of the bounds does not matter: they are equal, or only reads are watched
    and the bounds lie in one word, or nothing is watched. -/
def Symmetric (b : Breakpoint) : Prop :=
  b.first = b.last ∨ b.flags.contains .write = false ∧
    (b.flags.contains .read = false ∨ b.first.toNat / 4 = b.last.toNat / 4)

instance (b : Breakpoint) : Decidable b.Symmetric :=
  inferInstanceAs (Decidable (_ ∨ _))

/-- No range that is asked about tells two breakpoints apart. -/
structure Twin (b b' : Breakpoint) : Prop where
  /-- They have the same flags. -/
  flags_eq : b'.flags = b.flags
  /-- They meet the same ranges of every kind they watch. -/
  overlaps_eq : ∀ k : AccessKind, b.flags.contains k.flag = true → ∀ first last,
    k.Spans first last → b'.overlaps first last = b.overlaps first last

theorem Twin.refl (b : Breakpoint) : b.Twin b :=
  ⟨rfl, fun _ _ _ _ _ => rfl⟩

/-- A breakpoint whose bounds may be in either order. -/
theorem twin_reversed {b : Breakpoint} (h : b.Symmetric) : b.Twin b.reversed := by
  refine ⟨rfl, fun k hk first last hspan => ?_⟩
  rcases b with ⟨x, y, flags⟩
  rcases h with hxy | ⟨hwrite, hread⟩
  · simp only at hxy
    rw [hxy]
    rfl
  · cases k with
    | write =>
        rw [AccessKind.flag, hwrite] at hk
        exact Bool.noConfusion hk
    | read =>
        rcases hread with hread | hword
        · rw [AccessKind.flag, hread] at hk
          exact Bool.noConfusion hk
        · -- Either bound lies in the same words as the other.
          rcases hspan with ⟨hfirst, hlast⟩
          simp only at hword
          rw [Bool.eq_iff_iff]
          simp only [overlaps, reversed, Bool.and_eq_true, decide_eq_true_eq,
            UInt32.le_iff_toNat_le]
          omega

/-- Twins stay twins if both are switched. -/
theorem Twin.setEnabled {b b' : Breakpoint} (h : b.Twin b') (on : Bool) :
    Twin { b with flags := b.flags.setEnabled on } { b' with flags := b'.flags.setEnabled on } := by
  refine ⟨congrArg (fun f => Flags.setEnabled f on) h.flags_eq, fun k hk first last hspan => ?_⟩
  rw [Flags.contains_flag_setEnabled] at hk
  exact h.overlaps_eq k hk first last hspan

end Breakpoint

namespace Breakpoints

/-- Two registries that differ only in breakpoints which no range tells apart. -/
structure Twins (l l' : Breakpoints) : Prop where
  /-- The same indices were given out. -/
  size_eq : l'.slots.size = l.slots.size
  /-- The same hits were recorded. -/
  hits_eq : l'.hits = l.hits
  /-- Under each index there are two breakpoints that nothing tells apart, or none. -/
  get?_rel : ∀ i, Option.Rel Breakpoint.Twin (l.get? i) (l'.get? i)

namespace Twins

variable {l l' : Breakpoints}

theorem answers_iff (h : l.Twins l') (k : AccessKind) {first last : UInt32}
    (hspan : k.Spans first last) (i : Nat) :
    l'.Answers first last k.watched i ↔ l.Answers first last k.watched i := by
  have hrel := h.get?_rel i
  rw [Answers, Answers]
  generalize l.get? i = slot at hrel ⊢
  generalize l'.get? i = slot' at hrel ⊢
  cases hrel with
  | none => rfl
  | some htwin =>
      simp only [Option.some.injEq, exists_eq_left', AccessKind.watched_eq,
        Flags.contains_union_iff, htwin.flags_eq]
      constructor
      · rintro ⟨hmeets, henabled, hkind⟩
        exact ⟨htwin.overlaps_eq k hkind _ _ hspan ▸ hmeets, henabled, hkind⟩
      · rintro ⟨hmeets, henabled, hkind⟩
        exact ⟨(htwin.overlaps_eq k hkind _ _ hspan).trans hmeets, henabled, hkind⟩

/-- Twins find the same. -/
theorem find?_eq (h : l.Twins l') (k : AccessKind) {first last : UInt32}
    (hspan : k.Spans first last) :
    l'.find? first last k.watched = l.find? first last k.watched := by
  apply Option.ext
  intro i
  rw [find?_eq_some_iff, find?_eq_some_iff]
  simp only [h.answers_iff k hspan]

/-- So they want the same watched. -/
theorem wantedChecks_eq (h : l.Twins l') (r : Region) :
    Bus.wantedChecks (some l') r = Bus.wantedChecks (some l) r := by
  have hspan : ∀ k : AccessKind, k.Spans r.base r.last := by
    intro k
    cases k with
    | write => trivial
    | read =>
        rw [AccessKind.Spans, Region.toNat_base, Region.toNat_last]
        omega
  simp only [Bus.wantedChecks, Registry.lookup?, lookup?_region, h.find?_eq _ (hspan _)]

theorem refl (l : Breakpoints) : l.Twins l := by
  refine ⟨rfl, rfl, fun i => ?_⟩
  cases l.get? i with
  | none => exact .none
  | some b => exact .some (.refl b)

/-- Twins stay twins when twins are added to them. -/
theorem add (h : l.Twins l') {b b' : Breakpoint} (hb : b.Twin b') :
    (l.add b.first b.last b.flags).2.Twins (l'.add b'.first b'.last b'.flags).2 := by
  refine ⟨?_, h.hits_eq, fun i => ?_⟩
  · simp only [Breakpoints.add, Array.size_push, h.size_eq]
  · rw [get?_add, get?_add, h.size_eq]
    by_cases hi : i = l.slots.size
    · rw [if_pos hi, if_pos hi]
      exact .some hb
    · rw [if_neg hi, if_neg hi]
      exact h.get?_rel i

theorem remove (h : l.Twins l') (i : Nat) : (l.remove i).2.Twins (l'.remove i).2 := by
  refine ⟨?_, h.hits_eq, fun j => ?_⟩
  · simp only [Breakpoints.remove, Array.size_setIfInBounds, h.size_eq]
  · rw [get?_remove, get?_remove]
    by_cases hij : i = j
    · rw [if_pos hij, if_pos hij]
      exact .none
    · rw [if_neg hij, if_neg hij]
      exact h.get?_rel j

theorem setEnabled (h : l.Twins l') (i : Nat) (on : Bool) :
    (l.setEnabled i on).2.Twins (l'.setEnabled i on).2 := by
  refine ⟨?_, ?_, fun j => ?_⟩
  · rw [size_setEnabled, size_setEnabled, h.size_eq]
  · rw [hits_setEnabled, hits_setEnabled, h.hits_eq]
  · rw [get?_setEnabled, get?_setEnabled]
    by_cases hij : i = j
    · rw [if_pos hij, if_pos hij]
      have hrel := h.get?_rel i
      generalize l.get? i = slot at hrel ⊢
      generalize l'.get? i = slot' at hrel ⊢
      cases hrel with
      | none => exact .none
      | some htwin => exact .some (htwin.setEnabled on)
    · rw [if_neg hij, if_neg hij]
      exact h.get?_rel j

theorem takeHits (h : l.Twins l') : l.takeHits.2.Twins l'.takeHits.2 :=
  ⟨h.size_eq, rfl, h.get?_rel⟩

/-- The same hit is recorded by both. -/
theorem record (h : l.Twins l') (hit : Hit) : (l.record hit).Twins (l'.record hit) := by
  have hget := fun i => get?_of_slots_eq (l.slots_record hit) i
  have hget' := fun i => get?_of_slots_eq (l'.slots_record hit) i
  refine ⟨?_, ?_, fun i => ?_⟩
  · rw [slots_record, slots_record, h.size_eq]
  · rw [← Array.toList_inj, hits_record, hits_record, h.hits_eq]
  · rw [hget, hget']
    exact h.get?_rel i

end Twins

/-- How registries come to be twins. -/
theorem twins_reversed (l : Breakpoints) {b : Breakpoint} (h : b.Symmetric) :
    (l.add b.first b.last b.flags).2.Twins (l.add b.last b.first b.flags).2 :=
  (Twins.refl l).add (Breakpoint.twin_reversed h)

end Breakpoints

end RegionBus

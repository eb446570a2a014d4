import RegionBus.Proofs.Breakpoint.Hits
import RegionBus.Proofs.Breakpoint.Lookup

/-!
# Ranges and Breakpoints

A lookup is about addresses: it is to find the first breakpoint that has one in
common with a range. What the registry compares are the bounds of the breakpoint and
the two ends of the range, and the far end is computed so that it stays within the
address space. For a breakpoint with its bounds in order the two come to the same,
which is `overlaps_iff_meets`. It is here that the range must not be empty, since its
end is found by going one byte less far than it is long.

An access looks for its breakpoint in the same way, except that one of no bytes counts
as one of a single byte. So what is recorded of an access can be read off a lookup, and
nothing but the hits ever changes.

## Main definitions

* `InRange`: An address is one of some bytes in a row.
* `Breakpoint.Meets`: A breakpoint has an address in common with such bytes.
* `Breakpoints.Upright`: The bounds of every breakpoint are in order.
* `Breakpoints.Matches`: The breakpoint of an index is one that a lookup is for.
* `Breakpoints.LookupLaw`: What a lookup finds and an access records.

## Theorems

* `toNat_saturatingAdd`: A sum ends at the last address.
* `overlaps_iff_meets`: What the comparison of bounds finds out.
* `report_eq_lookup`: An access is recorded with the breakpoint that a lookup finds.
* `lookup_law`: All of this, for any breakpoints with their bounds in order.
-/

namespace RegionBus

/-- An address is one of the `size` bytes from `start` on. Behind the last address
    there are none. -/
def InRange (start size x : UInt32) : Prop :=
  start.toNat ≤ x.toNat ∧ x.toNat < start.toNat + size.toNat

/-- A breakpoint has an address in common with the `size` bytes from `start` on. -/
def Breakpoint.Meets (b : Breakpoint) (start size : UInt32) : Prop :=
  ∃ x, b.first ≤ x ∧ x ≤ b.last ∧ InRange start size x

namespace Breakpoints

/-- The bounds of every breakpoint are in order. -/
def Upright (l : Breakpoints) : Prop :=
  ∀ (i : Nat) (b : Breakpoint), l.slots[i]? = some (some b) → b.first ≤ b.last

/-- There is a breakpoint under an index, it meets the `size` bytes from `start` on, and
    it has every bit of the given flags. -/
def Matches (l : Breakpoints) (start size : UInt32) (flags : Flags) (i : Nat) : Prop :=
  ∃ b : Breakpoint, l.slots[i]? = some (some b) ∧ b.Meets start size ∧
    ∀ bit, flags.bits.toNat.testBit bit = true → b.flags.bits.toNat.testBit bit = true

/-- What lookups in a registry find, and what it records of accesses. -/
structure LookupLaw (l : Breakpoints) : Prop where
  /-- A lookup finds the least index that matches, unless it is for no bytes. -/
  found : ∀ start size flags i, l.lookup? start size flags = some i ↔
    0 < size ∧ l.Matches start size flags i ∧ ∀ j < i, ¬ l.Matches start size flags j
  /-- An access is recorded once, with the index that a lookup finds for its bytes, or
      for the first one if it has none. -/
  recorded : ∀ pc address size flags i, l.lookup? address (max size 1) flags = some i →
    (l.report pc address size flags).hits.toList =
      (l.hits.toList ++ [Hit.mk i pc address size flags]).rtake maxHits
  /-- An access is not recorded if the lookup finds none. -/
  missed : ∀ pc address size flags, l.lookup? address (max size 1) flags = none →
    (l.report pc address size flags).hits = l.hits
  /-- No access changes a breakpoint. -/
  kept : ∀ pc address size flags, (l.report pc address size flags).slots = l.slots

end Breakpoints

theorem toNat_saturatingAdd (a b : UInt32) :
    (saturatingAdd a b).toNat = min (a.toNat + b.toNat) 0xFFFFFFFF := by
  have ha := a.toNat_lt
  have hb := b.toNat_lt
  have hmax : (0xFFFFFFFF : UInt32).toNat = 0xFFFFFFFF := rfl
  have hle : b ≤ 0xFFFFFFFF := by
    rw [UInt32.le_iff_toNat_le, hmax]
    omega
  have hrest : (0xFFFFFFFF - b).toNat = 0xFFFFFFFF - b.toNat :=
    UInt32.toNat_sub_of_le _ _ hle
  rw [saturatingAdd]
  by_cases h : a ≤ 0xFFFFFFFF - b
  · rw [if_pos h]
    rw [UInt32.le_iff_toNat_le, hrest] at h
    rw [UInt32.toNat_add]
    omega
  · rw [if_neg h, hmax]
    rw [UInt32.le_iff_toNat_le, hrest] at h
    omega

/-- A range of some bytes ends where its last byte is, or with the last address. -/
theorem toNat_rangeEnd (start : UInt32) {size : UInt32} (hsize : 0 < size) :
    (saturatingAdd start (size - 1)).toNat =
      min (start.toNat + size.toNat - 1) 0xFFFFFFFF := by
  have hone : (1 : UInt32).toNat = 1 := rfl
  have hpos : 0 < size.toNat := UInt32.lt_iff_toNat_lt.mp hsize
  have hle : 1 ≤ size := by
    rw [UInt32.le_iff_toNat_le, hone]
    omega
  rw [toNat_saturatingAdd, UInt32.toNat_sub_of_le _ _ hle, hone]
  omega

/-- The bounds tell whether a breakpoint meets a range, if they are in order and the
    range is not empty. -/
theorem Breakpoint.overlaps_iff_meets {b : Breakpoint} (hb : b.first ≤ b.last)
    {start size : UInt32} (hsize : 0 < size) :
    b.overlaps start (saturatingAdd start (size - 1)) = true ↔ b.Meets start size := by
  have hend := toNat_rangeEnd start hsize
  have hpos : 0 < size.toNat := UInt32.lt_iff_toNat_lt.mp hsize
  have hstart := start.toNat_lt
  simp only [overlaps, Meets, InRange, Bool.and_eq_true, decide_eq_true_eq,
    UInt32.le_iff_toNat_le, hend] at hb ⊢
  constructor
  · rintro ⟨hfirst, hlast⟩
    -- The later one of the two beginnings is common to both.
    by_cases h : b.first.toNat ≤ start.toNat
    · exact ⟨start, h, hlast, Nat.le_refl _, by omega⟩
    · exact ⟨b.first, Nat.le_refl _, hb, by omega, by omega⟩
  · rintro ⟨x, hfirst, hlast, hbegin, hbehind⟩
    have hx := x.toNat_lt
    omega

namespace Breakpoints

variable {l : Breakpoints} {start size : UInt32} {flags : Flags}

theorem get?_eq_some_iff {i : Nat} {b : Breakpoint} :
    l.get? i = some b ↔ l.slots[i]? = some (some b) := by
  rw [get?, Option.join_eq_some_iff]

/-- Where all bounds are in order, the breakpoints that answer are those that match. -/
theorem answers_iff_matches (hl : l.Upright) (hsize : 0 < size) (i : Nat) :
    l.Answers start (saturatingAdd start (size - 1)) flags i ↔ l.Matches start size flags i := by
  simp only [Answers, Matches, get?_eq_some_iff, Flags.contains_iff]
  constructor
  · rintro ⟨b, hslot, hmeets, hflags⟩
    exact ⟨b, hslot, (b.overlaps_iff_meets (hl i b hslot) hsize).mp hmeets, hflags⟩
  · rintro ⟨b, hslot, hmeets, hflags⟩
    exact ⟨b, hslot, (b.overlaps_iff_meets (hl i b hslot) hsize).mpr hmeets, hflags⟩

theorem lookup?_eq_some_iff (hl : l.Upright) (i : Nat) :
    l.lookup? start size flags = some i ↔
      0 < size ∧ l.Matches start size flags i ∧ ∀ j < i, ¬ l.Matches start size flags j := by
  rw [lookup?_eq_some_iff_answers]
  refine and_congr_right fun hsize => ?_
  simp only [answers_iff_matches hl hsize]

/-- An access is recorded with the breakpoint that a lookup finds for its bytes, where
    one of no bytes counts as one of a single byte. -/
theorem report_eq_lookup (l : Breakpoints) (pc address size : UInt32) (flags : Flags) :
    l.report pc address size flags =
      match l.lookup? address (max size 1) flags with
      | some i => l.record ⟨i, pc, address, size, flags⟩
      | none => l := by
  have hmax : max size 1 ≠ 0 ∧ max size 1 - 1 = if size = 0 then 0 else size - 1 := by
    by_cases hzero : size = 0
    · rw [if_pos hzero, hzero]
      decide
    · have hle : 1 ≤ size.toNat := UInt32.lt_iff_toNat_lt.mp (UInt32.pos_iff_ne_zero.mpr hzero)
      have hmax : max size 1 = size := by
        rw [← UInt32.toNat_inj, UInt32.toNat_max]
        exact Nat.max_eq_left hle
      rw [if_neg hzero, hmax]
      exact ⟨hzero, rfl⟩
  have hlookup : l.lookup? address (max size 1) flags =
      l.find? address (saturatingAdd address (if size = 0 then 0 else size - 1)) flags := by
    rw [lookup?, if_neg hmax.1, hmax.2]
  rw [hlookup]
  rfl

end Breakpoints

/-- What lookups find in a registry whose breakpoints have their bounds in order, and
    what is recorded of accesses. -/
theorem lookup_law {l : Breakpoints} (hl : l.Upright) : l.LookupLaw := by
  constructor
  case found => exact fun start size flags i => Breakpoints.lookup?_eq_some_iff hl i
  case recorded =>
    intro pc address size flags i hi
    rw [l.report_eq_lookup, hi]
    exact l.hits_record _
  case missed =>
    intro pc address size flags hnone
    rw [l.report_eq_lookup, hnone]
  case kept => exact l.slots_report

/-- Two breakpoints at the end of the address space, of which the first was removed. -/
def Breakpoints.topmost : Breakpoints :=
  (((empty.add 0xFFFFFFF0 0xFFFFFFFF (.union .enabled .write)).2.add 0xFFFFFFFF 0xFFFFFFFF
    (.union .enabled .read)).2.remove 0).2

/-- A range that runs past the last address meets the breakpoint there, and an access of
    no bytes is recorded with it. -/
theorem lookup_law_topmost : Breakpoints.topmost.Upright ∧
    Breakpoints.topmost.lookup? 0xFFFFFFFE 0x10000 .read = some 1 ∧
    Breakpoints.topmost.lookup? 0xFFFFFFFF 0 .read = none ∧
    (Breakpoints.topmost.report 0x400 0xFFFFFFFF 0 .read).hits.toList =
      [⟨1, 0x400, 0xFFFFFFFF, 0, .read⟩] := by
  have hslots : Breakpoints.topmost.slots =
      #[none, some ⟨0xFFFFFFFF, 0xFFFFFFFF, .union .enabled .read⟩] := rfl
  have hl : Breakpoints.topmost.Upright := by
    intro i b h
    rw [hslots] at h
    rcases i with _ | _ | i
    · cases h
    · cases h
      exact UInt32.le_refl _
    · cases h
  have hlaw := lookup_law hl
  -- The hole is passed over, and the last address is in every range that reaches it.
  have hfound : ∀ start size, 0 < size → InRange start size 0xFFFFFFFF →
      Breakpoints.topmost.lookup? start size .read = some 1 := by
    intro start size hsize hin
    rw [hlaw.found]
    refine ⟨hsize, ⟨_, rfl, ⟨0xFFFFFFFF, UInt32.le_refl _, UInt32.le_refl _, hin⟩, ?_⟩, ?_⟩
    · exact (Flags.contains_iff _ _).mp rfl
    · rintro j hj ⟨b, hslot, -⟩
      rw [Nat.lt_one_iff.mp hj] at hslot
      cases hslot
  refine ⟨hl, hfound _ _ (by decide) ⟨by decide, by decide⟩, ?_, ?_⟩
  · rw [Option.eq_none_iff_forall_ne_some]
    exact fun i hi => absurd ((hlaw.found _ _ _ i).mp hi).1 (UInt32.lt_irrefl 0)
  · rw [hlaw.recorded 0x400 0xFFFFFFFF 0 .read 1
      (hfound _ _ (by decide) ⟨by decide, by decide⟩)]
    decide

end RegionBus

import Mathlib.Data.List.Basic
import RegionBus.Proofs.Bus.Reports

/-!
# The Lanes of a Mask

The four bytes of a word are its lanes, the most significant one being lane 0. A mask
enables a lane if it has some bit of it. A store is reported by one range of lanes, which
is worked out from the mask in two parts: where its highest bit is, and how many bits it
has.

The first part is always right. No lane in front of the range is enabled, and the range
begins with an enabled lane, if there is any. The second part takes for granted that the
bits fill whole lanes and leave none out. `laneExact_iff` says for which masks the range has
the enabled lanes and no others: those with one lane, filled or not, and those of several
neighbouring lanes that are filled. A mask with a gap, a mask that fills its lanes in part,
and the mask without a bit are all reported by a wrong range.

## Main definitions

* `Enables`: A mask enables a lane.
* `InReport`: A lane lies in the range a store is reported by.
* `LaneExact`: The two agree.
* `OneLane`, `PlainMask`: The masks for which they do.

## Theorems

* `enables_firstLane`: The range begins with an enabled lane.
* `laneExact_iff`: The masks that are reported by the lanes they enable.
-/

namespace RegionBus

/-- A mask enables a lane: it has one of its eight bits. -/
def Enables (mask : UInt32) (lane : Nat) : Prop :=
  ∃ i < 8, mask.toNat.testBit (8 * (3 - lane) + i) = true

instance (mask : UInt32) (lane : Nat) : Decidable (Enables mask lane) :=
  inferInstanceAs (Decidable (∃ i < 8, _))

/-- A lane lies in the range that a store under a mask is reported by. -/
def InReport (mask : UInt32) (lane : Nat) : Prop :=
  (firstLane mask).toNat ≤ lane ∧ lane < (firstLane mask).toNat + (laneCount mask).toNat

instance (mask : UInt32) (lane : Nat) : Decidable (InReport mask lane) :=
  inferInstanceAs (Decidable (_ ∧ _))

/-- A store under a mask is reported by the lanes that the mask enables. -/
def LaneExact (mask : UInt32) : Prop :=
  ∀ lane < 4, InReport mask lane ↔ Enables mask lane

instance (mask : UInt32) : Decidable (LaneExact mask) :=
  inferInstanceAs (Decidable (∀ lane < 4, _))

/-- A mask enables exactly one lane. -/
def OneLane (mask : UInt32) : Prop :=
  ∃ lane < 4, ∀ other < 4, Enables mask other ↔ other = lane

/-- A mask enables exactly one lane, or it is made of several neighbouring lanes with all
    their bits. -/
def PlainMask (mask : UInt32) : Prop :=
  OneLane mask ∨ ∃ first count, 2 ≤ count ∧ first + count ≤ 4 ∧ mask = laneMask first count

theorem toNat_firstLane (mask : UInt32) :
    (firstLane mask).toNat = min (leadingZeros mask / 8) 3 := by
  rw [firstLane, UInt32.toNat_ofNat']
  omega

theorem bitCount_le_32 (mask : UInt32) : bitCount mask ≤ 32 := by
  have hbits := bitCount_le mask
  omega

theorem toNat_laneCount (mask : UInt32) :
    (laneCount mask).toNat = max (bitCount mask / 8) 1 := by
  have hbits := bitCount_le_32 mask
  rw [laneCount, UInt32.toNat_ofNat']
  omega

/-- The range begins in the word and ends in it. -/
theorem firstLane_add_laneCount_le (mask : UInt32) :
    (firstLane mask).toNat + (laneCount mask).toNat ≤ 4 := by
  have hbits := bitCount_le mask
  rw [toNat_firstLane, toNat_laneCount]
  omega

theorem testBit_of_le {mask : UInt32} {i : Nat} (hi : 32 ≤ i) :
    mask.toNat.testBit i = false :=
  Nat.testBit_lt_two_pow (Nat.lt_of_lt_of_le mask.toNat_lt (Nat.pow_le_pow_right (by decide) hi))

/-- A bit is a bit of its lane. -/
theorem enables_of_testBit {mask : UInt32} {i : Nat} (hi : i < 32)
    (hbit : mask.toNat.testBit i = true) : Enables mask (3 - i / 8) := by
  refine ⟨i % 8, by omega, ?_⟩
  rw [show 8 * (3 - (3 - i / 8)) + i % 8 = i by omega]
  exact hbit

section FirstLane

variable {mask : UInt32} {lane : Nat}

/-- If any lane is enabled, then the first one of the range is. -/
theorem enables_firstLane (hlane : lane < 4) (h : Enables mask lane) :
    Enables mask (firstLane mask).toNat := by
  rcases h with ⟨i, hi, hbit⟩
  have hback : 31 - (31 - (8 * (3 - lane) + i)) = 8 * (3 - lane) + i := by omega
  rw [toNat_firstLane, leadingZeros]
  cases hfind : (List.range 32).find? fun j => mask.toNat.testBit (31 - j) with
  | none =>
      have hnot := List.find?_eq_none.mp hfind (31 - (8 * (3 - lane) + i))
        (List.mem_range.mpr (by omega))
      rw [hback] at hnot
      exact absurd hbit hnot
  | some z =>
      -- The highest bit is in the lane that its number of leading zeros says.
      rcases List.find?_range_eq_some.mp hfind with ⟨hz, hmem, -⟩
      rw [List.mem_range] at hmem
      have henables := enables_of_testBit (by omega) hz
      rw [Option.getD_some]
      rw [show 3 - (31 - z) / 8 = min (z / 8) 3 by omega] at henables
      exact henables

end FirstLane

/-- The bits of some neighbouring lanes. -/
theorem testBit_laneMask {first count : Nat} (hle : first + count ≤ 4) (i : Nat) :
    (laneMask first count).toNat.testBit i =
      decide (8 * (4 - first - count) ≤ i ∧ i < 8 * (4 - first)) := by
  have hlt : (2 ^ (8 * count) - 1) * 2 ^ (8 * (4 - first - count)) < 2 ^ 32 := by
    -- There are fifteen ways to pick lanes, those without any counted.
    have hall : ∀ first < 5, ∀ count < 5, first + count ≤ 4 →
        (2 ^ (8 * count) - 1) * 2 ^ (8 * (4 - first - count)) < 2 ^ 32 := by decide
    exact hall first (by omega) count (by omega) hle
  rw [laneMask, UInt32.toNat_ofNat_of_lt' hlt, Nat.testBit_mul_two_pow,
    Nat.testBit_two_pow_sub_one, Bool.eq_iff_iff]
  simp only [Bool.and_eq_true, decide_eq_true_eq]
  omega

/-- Some neighbouring lanes have eight bits each. -/
theorem bitCount_laneMask {first count : Nat} (hle : first + count ≤ 4) :
    bitCount (laneMask first count) = 8 * count := by
  have hall : ∀ first < 5, ∀ count < 5, first + count ≤ 4 →
      bitCount (laneMask first count) = 8 * count := by decide
  exact hall first (by omega) count (by omega) hle

/-- A mask within some lanes has no more bits than they have. -/
theorem bitCount_le_of_imp {mask other : UInt32}
    (h : ∀ i, mask.toNat.testBit i = true → other.toNat.testBit i = true) :
    bitCount mask ≤ bitCount other :=
  List.countP_mono_left fun i _ => h i

/-- If it has as many, then it has them all. -/
theorem eq_of_bitCount_le {mask other : UInt32}
    (h : ∀ i, mask.toNat.testBit i = true → other.toNat.testBit i = true)
    (hcount : bitCount other ≤ bitCount mask) : mask = other := by
  have hsub := List.monotone_filter_right (List.range 32) h
  rw [bitCount, bitCount, List.countP_eq_length_filter, List.countP_eq_length_filter] at hcount
  have hsame := hsub.eq_of_length (Nat.le_antisymm hsub.length_le hcount)
  apply UInt32.toNat_inj.mp
  apply Nat.eq_of_testBit_eq
  intro i
  by_cases hi : i < 32
  · -- The same bits pass both filters.
    have hmem := congrArg (fun bits => i ∈ bits) hsame
    simp only [List.mem_filter, List.mem_range, hi, true_and, eq_iff_iff] at hmem
    exact Bool.eq_iff_iff.mpr hmem
  · rw [testBit_of_le (by omega), testBit_of_le (by omega)]

/-- The bits of a mask lie in the lanes that it enables. -/
theorem testBit_laneMask_of_enables {mask : UInt32} {first count : Nat} (hle : first + count ≤ 4)
    (h : ∀ lane < 4, Enables mask lane → first ≤ lane ∧ lane < first + count) {i : Nat}
    (hbit : mask.toNat.testBit i = true) :
    (laneMask first count).toNat.testBit i = true := by
  by_cases hi : i < 32
  · have hlane := h (3 - i / 8) (by omega) (enables_of_testBit hi hbit)
    rw [testBit_laneMask hle, decide_eq_true_eq]
    omega
  · rw [testBit_of_le (by omega)] at hbit
    exact absurd hbit Bool.false_ne_true

/-- A mask with one lane is reported by one byte. -/
theorem laneCount_of_oneLane {mask : UInt32} (h : OneLane mask) : (laneCount mask).toNat = 1 := by
  rcases h with ⟨lane, hlane, honly⟩
  have hwithin : ∀ i, mask.toNat.testBit i = true → (laneMask lane 1).toNat.testBit i = true :=
    fun i => testBit_laneMask_of_enables (by omega) fun other hother ho => by
      have := (honly other hother).mp ho
      omega
  -- One lane has eight bits at most.
  have hle := bitCount_le_of_imp hwithin
  rw [bitCount_laneMask (by omega)] at hle
  rw [toNat_laneCount]
  omega

/-- And it is reported by its lane. -/
theorem laneExact_of_oneLane {mask : UInt32} (h : OneLane mask) : LaneExact mask := by
  have hcount := laneCount_of_oneLane h
  rcases h with ⟨lane, hlane, honly⟩
  have henabled := (honly lane hlane).mpr rfl
  have hfirst : (firstLane mask).toNat = lane :=
    (honly _ (toNat_firstLane_lt mask)).mp (enables_firstLane hlane henabled)
  intro other hother
  rw [honly other hother, InReport, hfirst, hcount]
  omega

/-- Several lanes with all their bits are reported by them. -/
theorem laneExact_laneMask {first count : Nat} (hpos : 0 < count) (hle : first + count ≤ 4) :
    LaneExact (laneMask first count) := by
  have hall : ∀ first < 4, ∀ count < 5, 0 < count → first + count ≤ 4 →
      LaneExact (laneMask first count) := by decide
  exact hall first (by omega) count (by omega) hpos hle

/-- The masks that are reported by the lanes they enable. -/
theorem laneExact_iff (mask : UInt32) : LaneExact mask ↔ PlainMask mask := by
  have hend := firstLane_add_laneCount_le mask
  have hcount := toNat_laneCount mask
  constructor
  · intro h
    by_cases hone : (laneCount mask).toNat = 1
    · refine Or.inl ⟨(firstLane mask).toNat, toNat_firstLane_lt mask, fun other hother => ?_⟩
      rw [← h other hother, InReport]
      omega
    · -- The count is that of bits, so there are enough of them to fill the lanes.
      refine Or.inr ⟨(firstLane mask).toNat, (laneCount mask).toNat, by omega, hend, ?_⟩
      refine eq_of_bitCount_le (fun i => testBit_laneMask_of_enables hend fun lane hlane hl =>
        (h lane hlane).mpr hl) ?_
      rw [bitCount_laneMask hend]
      omega
  · rintro (h | ⟨first, count, hpos, hle, rfl⟩)
    · exact laneExact_of_oneLane h
    · exact laneExact_laneMask (by omega) hle

end RegionBus

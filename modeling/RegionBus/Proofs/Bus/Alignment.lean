import Mathlib.Algebra.Group.Nat.Defs
import RegionBus.Bus.Access

/-!
# Rounded Addresses

The bus rounds an address down by clearing its low bits. Read as a number, that
is the largest multiple of the width that is not above the address, which is the
form arithmetic can work with.

A word never crosses from one region into the next, and so the byte at which the
debug handler reports a store lies in the region of the store.

## Theorems

* `and_highMask`: Clearing the low bits of a number.
* `toNat_alignHalf`, `toNat_alignWord`, `toNat_alignDouble`: Rounded addresses.
* `toNat_lane`, `toNat_halfLane`: What rounding leaves out.
* `alignWord_add_lane`: An address is its word and its lane.
* `regionOf_add_of_lt`: A word lies in one region.
* `regionOf_add_firstLane`: A store is reported in its own region.
-/

namespace RegionBus

/-- Clearing the `k` low bits of a 32-bit number rounds it down to a multiple of
    `2 ^ k`. -/
theorem and_highMask (x k : Nat) (hx : x < 2 ^ 32) (hk : k ≤ 32) :
    x &&& (2 ^ (32 - k) - 1) * 2 ^ k = x / 2 ^ k * 2 ^ k := by
  apply Nat.eq_of_testBit_eq
  intro i
  rw [Nat.testBit_and, Nat.testBit_mul_two_pow, Nat.testBit_mul_two_pow,
    Nat.testBit_two_pow_sub_one, Nat.testBit_div_two_pow]
  -- A bit is cleared, or kept, or none of the 32.
  by_cases hi : k ≤ i
  · rw [show i - k + k = i by omega]
    by_cases hlt : i < 32
    · simp only [hi, show i - k < 32 - k by omega, decide_true, Bool.and_true, Bool.true_and]
    · -- The number has no bit that high.
      have hz : x.testBit i = false :=
        Nat.testBit_lt_two_pow (Nat.lt_of_lt_of_le hx (Nat.pow_le_pow_right (by decide) (by omega)))
      rw [hz, Bool.false_and, Bool.and_false]
  · simp only [hi, decide_false, Bool.false_and, Bool.and_false]

theorem toNat_alignHalf (a : UInt32) : (a &&& ~~~1).toNat = a.toNat / 2 * 2 := by
  rw [UInt32.toNat_and]
  exact and_highMask a.toNat 1 a.toNat_lt (by decide)

theorem toNat_alignWord (a : UInt32) : (a &&& ~~~3).toNat = a.toNat / 4 * 4 := by
  rw [UInt32.toNat_and]
  exact and_highMask a.toNat 2 a.toNat_lt (by decide)

theorem toNat_alignDouble (a : UInt32) : (a &&& ~~~7).toNat = a.toNat / 8 * 8 := by
  rw [UInt32.toNat_and]
  exact and_highMask a.toNat 3 a.toNat_lt (by decide)

/-- The number of a byte in its word. -/
theorem toNat_lane (a : UInt32) : (a &&& 3).toNat = a.toNat % 4 := by
  rw [UInt32.toNat_and]
  exact Nat.and_two_pow_sub_one_eq_mod a.toNat 2

/-- The number of the first byte of a half word in its word. -/
theorem toNat_halfLane (a : UInt32) : (a &&& 2).toNat = a.toNat % 4 / 2 * 2 := by
  have h : a &&& 2 = (a &&& 3) &&& ~~~1 := by
    rw [UInt32.and_assoc]
    rfl
  rw [h, toNat_alignHalf, toNat_lane]

theorem alignWord_eq_self {a : UInt32} (ha : a.toNat % 4 = 0) : a &&& ~~~3 = a := by
  rw [← UInt32.toNat_inj, toNat_alignWord]
  omega

theorem alignWord_alignHalf (a : UInt32) : (a &&& ~~~1) &&& ~~~3 = a &&& ~~~3 := by
  rw [← UInt32.toNat_inj, toNat_alignWord, toNat_alignHalf, toNat_alignWord]
  omega

/-- An address is that of its word and the number of its byte. -/
theorem alignWord_add_lane (a : UInt32) : (a &&& ~~~3) + UInt32.ofNat (a.toNat % 4) = a := by
  have hlt := a.toNat_lt
  rw [← UInt32.toNat_inj, UInt32.toNat_add, toNat_alignWord, UInt32.toNat_ofNat']
  omega

/-- The second word of a double lies right behind the first one. -/
theorem toNat_secondWord (a : UInt32) : ((a &&& ~~~7) + 4).toNat = a.toNat / 8 * 8 + 4 := by
  have hlt := a.toNat_lt
  have h4 : (4 : UInt32).toNat = 4 := rfl
  rw [UInt32.toNat_add, toNat_alignDouble, h4]
  omega

/-- The bytes of a word all lie in one region. -/
theorem regionOf_add_of_lt {a i : UInt32} (ha : a.toNat % 4 = 0) (hi : i.toNat < 4) :
    regionOf (a + i) = regionOf a := by
  have hlt := a.toNat_lt
  apply Fin.ext
  simp only [regionOf, UInt32.toNat_add]
  omega

theorem toNat_firstLane_lt (mask : UInt32) : (firstLane mask).toNat < 4 := by
  rw [firstLane, UInt32.toNat_ofNat']
  omega

theorem regionOf_add_firstLane {a : UInt32} (ha : a.toNat % 4 = 0) (mask : UInt32) :
    regionOf (a + firstLane mask) = regionOf a :=
  regionOf_add_of_lt ha (toNat_firstLane_lt mask)

end RegionBus

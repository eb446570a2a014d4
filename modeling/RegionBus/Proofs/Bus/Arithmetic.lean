import RegionBus.Proofs.Bus.Alignment

/-!
# Arithmetic That Cannot Fail

An access computes a few words of its own: how far its lane lies above the lowest one,
where its second word begins, and at which byte a store is reported. Each step is
written so that it gives nothing where a word is not enough for the result, and then
the access would fail.

It never comes to that. Addresses are rounded down before anything is added to them,
lanes are numbered below four, and so each step gives what arithmetic modulo the size
of a word gives. The lemmas for the widths say this once, and no proof behind them
meets a step that could fail.

## Theorems

* `laneShift?_eq`, `laned?_eq`: Lanes are shifted by less than the width of a word.
* `secondWord?_eq`, `firstByte?_eq`: Sums of addresses are addresses.
* `read8_eq` to `write64_eq`: Accesses of each width, free of checks.
-/

namespace RegionBus

theorem and_le_mask (x mask : UInt32) : (x &&& mask).toNat ≤ mask.toNat := by
  rw [UInt32.toNat_and]
  exact Nat.and_le_right

theorem lane_le (a : UInt32) : a &&& 3 ≤ 3 :=
  UInt32.le_iff_toNat_le.mpr (and_le_mask a 3)

theorem halfLane_le (a : UInt32) : a &&& 2 ≤ 2 :=
  UInt32.le_iff_toNat_le.mpr (and_le_mask a 2)

section Lanes

variable {lowest lane : UInt32}

theorem toNat_laneShift (hle : lane ≤ lowest) (hlowest : lowest ≤ 3) :
    ((lowest - lane) * 8).toNat = (lowest.toNat - lane.toNat) * 8 := by
  have hthree : (3 : UInt32).toNat = 3 := rfl
  have height : (8 : UInt32).toNat = 8 := rfl
  rw [UInt32.le_iff_toNat_le] at hlowest
  rw [UInt32.toNat_mul, UInt32.toNat_sub_of_le _ _ hle, height]
  omega

/-- Lanes lie less than the width of a word above the lowest one. -/
theorem laneShift_lt (hle : lane ≤ lowest) (hlowest : lowest ≤ 3) : (lowest - lane) * 8 < 32 := by
  have hthree : (3 : UInt32).toNat = 3 := rfl
  have hwidth : (32 : UInt32).toNat = 32 := rfl
  rw [UInt32.lt_iff_toNat_lt, toNat_laneShift hle hlowest]
  rw [UInt32.le_iff_toNat_le] at hlowest
  omega

theorem laneShift?_eq (hle : lane ≤ lowest) (hlowest : lowest ≤ 3) :
    laneShift? lowest lane = some ((lowest - lane) * 8) := by
  have hthree : (3 : UInt32).toNat = 3 := rfl
  have height : (8 : UInt32).toNat = 8 := rfl
  have hmul : (lowest - lane).toNat * (8 : UInt32).toNat < 0x100000000 := by
    rw [UInt32.le_iff_toNat_le] at hlowest
    rw [UInt32.toNat_sub_of_le _ _ hle, height]
    omega
  rw [laneShift?, Word.sub?_of_le hle]
  exact if_pos hmul

theorem laned?_eq (hle : lane ≤ lowest) (hlowest : lowest ≤ 3) (value mask : UInt32) :
    laned? value mask lowest lane =
      some (value <<< ((lowest - lane) * 8), mask <<< ((lowest - lane) * 8)) := by
  have hlt := laneShift_lt hle hlowest
  rw [laned?, laneShift?_eq hle hlowest]
  simp only [Option.bind_eq_bind, Option.bind_some, Word.shiftLeft?, if_pos hlt]
  rfl

end Lanes

/-- There is always a second word behind the first one of a double. -/
theorem secondWord?_eq (a : UInt32) : Word.add? (a &&& ~~~7) 4 = some ((a &&& ~~~7) + 4) := by
  have ha := a.toNat_lt
  have hfour : (4 : UInt32).toNat = 4 := rfl
  apply Word.add?_of_lt
  rw [toNat_alignDouble, hfour]
  omega

/-- The first byte that a mask enables lies in the word. -/
theorem firstByte?_eq {a : UInt32} (ha : a.toNat % 4 = 0) (mask : UInt32) :
    Word.add? a (firstLane mask) = some (a + firstLane mask) := by
  have hlt := a.toNat_lt
  have hlane := toNat_firstLane_lt mask
  exact Word.add?_of_lt (by omega)

namespace Bus

variable {D R W : Type} [DeviceBank D W] [Registry R] (bus : Bus D) (a : UInt32)
  (p : Backplane R W)

theorem read8_eq : bus.read8 a p =
    (((bus.readWord (a &&& ~~~3) p).1 >>> ((3 - (a &&& 3)) * 8)).toUInt8,
      (bus.readWord (a &&& ~~~3) p).2) := by
  have hlt := laneShift_lt (lane_le a) (UInt32.le_refl 3)
  simp only [read8, laneShift?_eq (lane_le a) (UInt32.le_refl 3), Word.shiftRight?, if_pos hlt]

theorem read16_eq : bus.read16 a p =
    (((bus.readWord (a &&& ~~~3) p).1 >>> ((2 - (a &&& 2)) * 8)).toUInt16,
      (bus.readWord (a &&& ~~~3) p).2) := by
  have hlt := laneShift_lt (halfLane_le a) (by decide)
  simp only [read16, laneShift?_eq (halfLane_le a) (by decide), Word.shiftRight?, if_pos hlt]

theorem read64_eq : bus.read64 a p =
    let first := bus.readWord (a &&& ~~~7) p
    let second := bus.readWord ((a &&& ~~~7) + 4) first.2
    (first.1.toUInt64 <<< 32 ||| second.1.toUInt64, second.2) := by
  simp only [read64, secondWord?_eq]

theorem write8_eq (value : UInt8) : bus.write8 a value p =
    bus.writeMasked a (value.toUInt32 <<< ((3 - (a &&& 3)) * 8))
      (0xFF <<< ((3 - (a &&& 3)) * 8)) p := by
  simp only [write8, laned?_eq (lane_le a) (UInt32.le_refl 3)]

theorem write16_eq (value : UInt16) : bus.write16 a value p =
    bus.writeMasked a (value.toUInt32 <<< ((2 - (a &&& 2)) * 8))
      (0xFFFF <<< ((2 - (a &&& 2)) * 8)) p := by
  simp only [write16, laned?_eq (halfLane_le a) (by decide : (2 : UInt32) ≤ 3)]

theorem write64_eq (value : UInt64) : bus.write64 a value p =
    bus.writeMasked ((a &&& ~~~7) + 4) value.toUInt32 0xFFFFFFFF
      (bus.writeMasked (a &&& ~~~7) (value >>> 32).toUInt32 0xFFFFFFFF p) := by
  simp only [write64, secondWord?_eq]

end Bus

end RegionBus

/-!
# Regions

The 32-bit address space is cut into 65536 regions of 64 KiB. Everything the
bus decides, it decides by region.

## Main definitions

* `Region`: The index of a region.
* `regionOf`: The region an address lies in.
* `Region.base`: The first address of a region.
* `Region.between`: The regions from one to another, both included.

## Theorems

* `mem_between`: What lies between two regions.
* `regionOf_base`: A region's first address lies in it.
-/

namespace RegionBus

/-- The number of low address bits that do not choose the region. -/
def regionShift : Nat := 16

/-- The number of regions. -/
def regionCount : Nat := 65536

/-- The number of bytes in a region. -/
def regionSize : UInt32 := 0x10000

/-- The index of a region. -/
abbrev Region := Fin regionCount

/-- The region an address lies in. -/
def regionOf (a : UInt32) : Region :=
  ⟨a.toNat / 65536, by
    have h := a.toNat_lt
    simp only [regionCount]
    omega⟩

namespace Region

/-- The first address of a region. -/
def base (r : Region) : UInt32 :=
  UInt32.ofNat (r.val * 65536)

/-- The region of an index, counted modulo the number of regions. -/
def ofIndex (i : Nat) : Region :=
  ⟨i % regionCount, Nat.mod_lt _ (by decide)⟩

/-- The regions from `first` to `last`, both included. -/
def between (first last : Region) : List Region :=
  (List.range' first.val (last.val + 1 - first.val)).map ofIndex

theorem mem_between {first last r : Region} :
    r ∈ between first last ↔ first ≤ r ∧ r ≤ last := by
  have hr := r.isLt
  have hl := last.isLt
  simp only [between, List.mem_map, List.mem_range'_1, Fin.le_def]
  constructor
  · rintro ⟨i, hi, rfl⟩
    -- Every index in the range is that of a region.
    have : i % regionCount = i := Nat.mod_eq_of_lt (by omega)
    simp only [ofIndex, this]
    omega
  · intro h
    refine ⟨r.val, by omega, ?_⟩
    apply Fin.ext
    simp only [ofIndex]
    exact Nat.mod_eq_of_lt hr

theorem regionOf_base (r : Region) : regionOf r.base = r := by
  have hr : r.val < 65536 := r.isLt
  apply Fin.ext
  simp only [regionOf, base, UInt32.toNat_ofNat']
  omega

end Region

end RegionBus

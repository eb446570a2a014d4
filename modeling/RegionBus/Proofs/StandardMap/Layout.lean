import RegionBus.Config.Basic
import RegionBus.Proofs.Bus.History
import RegionBus.StandardMap

/-!
# The Layout of the Standard Map

The standard map is a list of mappings whose bounds are computed from the size of
main memory. `standardHandler` is the same map as a table of addresses: who
serves an address, in the order of the address space, without a word about
regions, about the order of mappings, or about one that replaces another.
`handlerOver_standardMap` says that the two agree.

Regions can be left out because every mapping of the list covers whole regions.
Such a mapping covers the region of an address iff the address itself lies
between the bounds. For this the size of main memory has to be a whole number of
regions, which is what a configuration is checked for.

## Main definitions

* `ValidDramSize`: The sizes of main memory a machine can be built with.
* `BoundedDramSize`: The sizes for which the bounds are words.
* `Mapping.Whole`: A mapping covers whole regions.
* `standardHandler`: The standard map as a table of addresses.

## Theorems

* `Config.validate_eq_ok_iff`: Which configurations are accepted.
* `Whole.covers_iff`: What a mapping of whole regions covers.
* `whole_standardMap`: The standard map maps whole regions.
* `address_parts`: The parts of the address space.
* `handlerOver_standardMap`: The standard map is the table.
* `exists_standardBus`, `device_standard`: A bus with the standard map.
-/

namespace RegionBus

variable {X D : Type}

/-- A size of main memory that a machine can be built with. -/
structure ValidDramSize (n : Nat) : Prop where
  /-- There is some main memory. -/
  pos : 0 < n
  /-- It is a whole number of regions. -/
  unit : n % dramAlignment = 0
  /-- It fits its two ranges. -/
  le_max : n ≤ dramMaxSize

/-- A size of main memory for which the bounds of the standard map are words. It need
    not fit the ranges. -/
structure BoundedDramSize (n : Nat) : Prop where
  /-- There is some main memory. -/
  pos : 0 < n
  /-- Its high range ends inside the address space. -/
  lt : n < 0xFBF00000

theorem ValidDramSize.bounded {n : Nat} (hn : ValidDramSize n) : BoundedDramSize n := by
  have hmax := hn.le_max
  simp only [dramMaxSize] at hmax
  exact ⟨hn.pos, by omega⟩

theorem Config.validate_eq_ok_iff (c : Config) :
    c.validate = .ok () ↔ ValidDramSize c.dramSize := by
  have hfault : c.validate = .ok () ↔ c.fault? = none := by
    rw [validate]
    cases c.fault? with
    | none => exact ⟨fun _ => rfl, fun _ => rfl⟩
    | some fault => simp only [reduceCtorEq]
  rw [hfault, fault?_eq_none_iff]
  exact ⟨fun h => ⟨h.1, h.2.1, h.2.2⟩, fun h => ⟨h.pos, h.unit, h.le_max⟩⟩

namespace Mapping

/-- A mapping covers whole regions: it begins with the first address of one and
    ends with the last address of the same one or of a later one. -/
def Whole (m : Mapping D) : Prop :=
  m.first ≤ m.last ∧ m.first.toNat % 65536 = 0 ∧ m.last.toNat % 65536 = 65535

instance (m : Mapping D) : Decidable m.Whole :=
  inferInstanceAs (Decidable (_ ∧ _))

theorem Whole.covers_iff {m : Mapping D} (h : m.Whole) (a : UInt32) :
    m.covers (regionOf a) = true ↔ m.first.toNat ≤ a.toNat ∧ a.toNat ≤ m.last.toNat := by
  rcases h with ⟨-, hfirst, hlast⟩
  simp only [covers, regionOf, Fin.le_def, Bool.and_eq_true, decide_eq_true_eq,
    UInt32.le_iff_toNat_le]
  omega

/-- The handler of an address after one more mapping. -/
def pick (a : UInt32) (handler : Handler D) (m : Mapping D) : Handler D :=
  if m.first.toNat ≤ a.toNat ∧ a.toNat ≤ m.last.toNat then m.handler else handler

/-- Where all mappings cover whole regions, addresses need not be rounded to
    regions to find out who serves them. -/
theorem handlerOver_eq_foldl {history : List (Mapping D)} (h : ∀ m ∈ history, m.Whole)
    (a : UInt32) : handlerOver history (regionOf a) = history.foldl (pick a) .openBus := by
  induction history using List.reverseRecOn with
  | nil => rfl
  | append_singleton history m ih =>
      have hm := h m (List.mem_append_right history List.mem_cons_self)
      rw [handlerOver_concat, List.foldl_append, List.foldl_cons, List.foldl_nil,
        ih fun x hx => h x (List.mem_append_left [m] hx), pick]
      by_cases ha : m.covers (regionOf a)
      · rw [if_pos ha, if_pos ((hm.covers_iff a).mp ha)]
      · rw [if_neg ha, if_neg fun hc => ha ((hm.covers_iff a).mpr hc)]

end Mapping

/-- The parts into which the address space falls. The second one of the signal
    processor's memory, here the fourth, has nothing but copies of the first. -/
theorem address_parts (i : Nat) : i < 0x03F00000 ∨ 0x03F00000 ≤ i ∧ i < 0x04000000 ∨
    0x04000000 ≤ i ∧ i < 0x04002000 ∨ 0x04002000 ≤ i ∧ i < 0x04010000 ∨
    0x04010000 ≤ i ∧ i < 0x06000000 ∨ 0x06000000 ≤ i ∧ i < 0x08000000 ∨
    0x08000000 ≤ i ∧ i < 0x10000000 ∨ 0x10000000 ≤ i ∧ i < 0x1FC00000 ∨
    0x1FC00000 ≤ i ∧ i < 0x1FD00000 ∨ 0x1FD00000 ≤ i := by
  omega

/-- Who serves an address on the standard map of a machine whose main memory has
    `dramSize` bytes. -/
def standardHandler (dramSize : Nat) (a : UInt32) : Handler (Device X) :=
  if a.toNat < 0x03F00000 then
    if a.toNat < dramSize then .device (.ram lowDram) else .openBus
  else if a.toNat < 0x04000000 then .openBus
  else if a.toNat < 0x04010000 then .device (.ram rspMemory)
  else if a.toNat < 0x06000000 then .openBus
  else if a.toNat < 0x08000000 then .device (.rom diskImage)
  else if a.toNat < 0x10000000 then
    -- Main memory goes on here with what the low range has no room for.
    if a.toNat - 0x08000000 + 0x03F00000 < dramSize then .device (.ram highDram) else .openBus
  else if a.toNat < 0x1FC00000 then .device (.rom cartridge)
  else if a.toNat < 0x1FD00000 then .device (.ram pifMemory)
  else .openBus

/-- The first address behind main memory's low range. -/
theorem toNat_lowBehind (size : UInt32) :
    (dramBase + min size dramRegsBase).toNat = min size.toNat 0x03F00000 := by
  have hbase : dramBase.toNat = 0 := rfl
  have hregs : dramRegsBase.toNat = 0x03F00000 := rfl
  rw [UInt32.toNat_add, UInt32.toNat_min, hbase, hregs]
  omega

/-- The first address behind main memory's high range. -/
theorem toNat_highBehind {size : UInt32} (h : 0x03F00000 ≤ size.toNat)
    (hlt : size.toNat < 0xFBF00000) : (highDramBase + (size - dramRegsBase)).toNat =
      0x08000000 + (size.toNat - 0x03F00000) := by
  have hbase : highDramBase.toNat = 0x08000000 := rfl
  have hregs : dramRegsBase.toNat = 0x03F00000 := rfl
  rw [UInt32.toNat_add, UInt32.toNat_sub, hbase, hregs]
  omega

namespace BoundedDramSize

variable {n : Nat}

theorem toNat_ofNat (hn : BoundedDramSize n) : (UInt32.ofNat n).toNat = n := by
  have hlt := hn.lt
  rw [UInt32.toNat_ofNat']
  omega

/-- The last address of main memory's low range. -/
theorem toNat_lowLast (hn : BoundedDramSize n) :
    (dramBase + min (UInt32.ofNat n) dramRegsBase - 1).toNat = min n 0x03F00000 - 1 := by
  have hpos := hn.pos
  have hone : (1 : UInt32).toNat = 1 := rfl
  rw [UInt32.toNat_sub, toNat_lowBehind, hn.toNat_ofNat, hone]
  omega

theorem dramRegsBase_lt_iff (hn : BoundedDramSize n) :
    dramRegsBase < UInt32.ofNat n ↔ 0x03F00000 < n := by
  rw [UInt32.lt_iff_toNat_lt, hn.toNat_ofNat]
  rfl

/-- The last address of main memory's high range. -/
theorem toNat_highLast (hn : BoundedDramSize n) (h : 0x03F00000 < n) :
    (highDramBase + (UInt32.ofNat n - dramRegsBase) - 1).toNat =
      0x08000000 + (n - 0x03F00000) - 1 := by
  have hlt := hn.lt
  have hsize := hn.toNat_ofNat
  have hone : (1 : UInt32).toNat = 1 := rfl
  rw [UInt32.toNat_sub, toNat_highBehind (by omega) (by omega), hsize, hone]
  omega

end BoundedDramSize

section Table

variable {n : Nat}

/-- The high range of main memory is there if main memory reaches it, and it ends
    with the last region that main memory fills. -/
theorem foldl_highDramMap (hn : ValidDramSize n) (a : UInt32) (handler : Handler (Device X)) :
    (highDramMap (UInt32.ofNat n)).foldl (Mapping.pick a) handler =
      if 0x08000000 ≤ a.toNat ∧ a.toNat < 0x08000000 + (n - 0x03F00000) then
        .device (.ram highDram)
      else handler := by
  have hbase : highDramBase.toNat = 0x08000000 := rfl
  rw [highDramMap]
  by_cases h : 0x03F00000 < n
  · have hiff : a.toNat ≤ 0x08000000 + (n - 0x03F00000) - 1 ↔
        a.toNat < 0x08000000 + (n - 0x03F00000) := by omega
    rw [if_pos (hn.bounded.dramRegsBase_lt_iff.mpr h), List.foldl_cons, List.foldl_nil,
      Mapping.pick, hn.bounded.toNat_highLast h, hbase]
    simp only [hiff]
  · have hnone : ¬ (0x08000000 ≤ a.toNat ∧ a.toNat < 0x08000000 + (n - 0x03F00000)) := by omega
    rw [if_neg fun hc => h (hn.bounded.dramRegsBase_lt_iff.mp hc), if_neg hnone, List.foldl_nil]

theorem whole_highDramMap (hn : ValidDramSize n) :
    ∀ m ∈ highDramMap (X := X) (UInt32.ofNat n), m.Whole := by
  have hunit := hn.unit
  have hfirst : highDramBase.toNat % 65536 = 0 := by decide
  simp only [dramAlignment] at hunit
  intro m hm
  rw [highDramMap] at hm
  split at hm
  · next h =>
    rw [hn.bounded.dramRegsBase_lt_iff] at h
    have hlast := hn.bounded.toNat_highLast h
    rw [List.mem_singleton.mp hm]
    refine ⟨?_, hfirst, ?_⟩
    · rw [UInt32.le_iff_toNat_le, hlast]
      change 0x08000000 ≤ _
      omega
    · rw [hlast]
      omega
  · cases hm

theorem whole_standardMap (hn : ValidDramSize n) :
    ∀ m ∈ standardMap (X := X) (UInt32.ofNat n), m.Whole := by
  have hpos := hn.pos
  have hunit := hn.unit
  simp only [dramAlignment] at hunit
  refine List.forall_mem_append.mpr ⟨List.forall_mem_cons.mpr ⟨⟨?_, rfl, ?_⟩, ?_⟩, ?_⟩
  · exact UInt32.le_iff_toNat_le.mpr (Nat.zero_le _)
  · rw [hn.bounded.toNat_lowLast]
    omega
  · -- The bounds of these are numbers.
    simp only [registers, List.forall_mem_cons, Mapping.Whole, List.not_mem_nil,
      IsEmpty.forall_iff, implies_true]
    decide
  · exact whole_highDramMap hn

theorem handlerOver_standardMap (hn : ValidDramSize n) (a : UInt32) :
    Mapping.handlerOver (standardMap (X := X) (UInt32.ofNat n)) (regionOf a) =
      standardHandler n a := by
  have hpos := hn.pos
  have hmax := hn.le_max
  have hlast := hn.bounded.toNat_lowLast
  simp only [dramMaxSize] at hmax
  rw [Mapping.handlerOver_eq_foldl (whole_standardMap hn), standardMap, List.foldl_append,
    foldl_highDramMap hn]
  generalize dramBase + min (UInt32.ofNat n) dramRegsBase - 1 = last at hlast
  simp only [List.foldl_cons, List.foldl_nil, Mapping.pick, registers, hlast, dramBase,
    dramRegsBase, rspMemBase, ddRomBase, highDramBase, cartRomBase, pifMemBase, standardHandler,
    UInt32.reduceAdd, UInt32.reduceSub, UInt32.reduceToNat]
  generalize a.toNat = i
  -- Registers are left to the open bus, so their tags can be skipped.
  rcases address_parts i with h | h | h | h | h | h | h | h | h | h
  all_goals simp (disch := omega) only [if_pos, if_neg, ite_self]
  -- Main memory is served as far as it reaches, in either of its ranges.
  · have hlow : 0 ≤ i ∧ i ≤ min n 0x03F00000 - 1 ↔ i < n := by omega
    simp only [hlow]
  · have hhigh : 0x08000000 ≤ i ∧ i < 0x08000000 + (n - 0x03F00000) ↔
        i - 0x08000000 + 0x03F00000 < n := by omega
    simp only [hhigh]

/-- The mappings of the machine put devices in place, not the debug handler. -/
theorem isDebug_standardMap (dramSize : UInt32) :
    ∀ m ∈ (standardMap dramSize : List (Mapping (Device X))), m.handler.isDebug = false := by
  intro m hm
  rw [standardMap, List.mem_append] at hm
  -- The fixed part of the map is gone through, and main memory's high range is a
  -- memory device if it is there at all.
  rcases hm with hm | hm
  · revert m
    simp only [List.forall_mem_cons]
    exact ⟨rfl, rfl, rfl, rfl, rfl, rfl, rfl, rfl, rfl, rfl, rfl, rfl, rfl, rfl, rfl, rfl, rfl,
      rfl, fun m hm => absurd hm List.not_mem_nil⟩
  · rw [highDramMap] at hm
    split at hm
    · rw [List.mem_singleton.mp hm]
      rfl
    · cases hm

/-- A bus is had with the standard map, and nothing else is mapped to it. -/
theorem exists_standardBus {R : Type} [Registry R] (hn : ValidDramSize n) (intercepting : Bool)
    (registry : Option R) : ∃ bus : Bus (Device X),
      Bus.ofMappings intercepting registry (standardMap (UInt32.ofNat n)) = .ok bus ∧
        bus.Reflects (standardMap (UInt32.ofNat n)) := by
  rcases Bus.exists_foldlM_apply registry (fun m hm => (whole_standardMap hn m hm).1)
    (Bus.unmapped intercepting : Bus (Device X)) with ⟨bus, hbus⟩
  exact ⟨bus, hbus, Bus.reflects_ofMappings (isDebug_standardMap _) hbus⟩

/-- The devices behind a bus with the standard map are those of the table. -/
theorem device_standard (hn : ValidDramSize n) {bus : Bus (Device X)}
    (hb : bus.Reflects (standardMap (UInt32.ofNat n))) (a : UInt32) :
    (bus.entryAt a).device = standardHandler n a := by
  rw [Bus.entryAt, hb.device_eq, handlerOver_standardMap hn]

end Table

end RegionBus

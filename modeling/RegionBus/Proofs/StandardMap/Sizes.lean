import RegionBus.Proofs.Mapping.Precedence
import RegionBus.Proofs.StandardMap.Layout
import RegionBus.Proofs.Store.Translation

/-!
# Sizes of Main Memory and the Standard Map

A store can be had with main memory of any size, since neither the allocation nor the
map asks whether it fits its ranges. The standard map takes the size as a word and
computes with words, so two things can go wrong. The bounds can leave the range of
words, and the high range can grow over what lies behind it: it is mapped last and
wins over the cartridge.

The first is made visible by computing the bounds once more, with steps that give
nothing where a word is not enough. They agree with the map for every size below
`0xFBF00000`, and fail for all others and for no memory at all. The second happens
much earlier, with the first byte more than the two ranges hold.
`standardMap_partitioned_iff` puts this together: the map is as it should be for the
sizes from 1 to `dramMaxSize`, whole numbers of regions or not, and for no others.

## Main definitions

* `Word.ofNat?`: A number as a word.
* `standardBounds?`: The bounds of the standard map computed with it.
* `Handler.servesDram`: A handler leads to main memory.
* `Bus.Partitioned`: Main memory, cartridge and peripheral interface keep to their ranges.

## Theorems

* `standardBounds?_eq`: When the bounds are words.
* `BoundedDramSize.ordered_standardMap`: They are then in order.
* `partitioned_standardMap`: What main memory that fits its ranges leaves alone.
* `spilled_standardMap`: What becomes of the regions behind the high range.
* `standardMap_partitioned_iff`: The sizes for which the map is as it should be.
-/

namespace RegionBus

variable {X D R : Type}

namespace Word

/-- A number as a word, if it is one. -/
def ofNat? (n : Nat) : Option UInt32 :=
  if n < 0x100000000 then some (UInt32.ofNat n) else none

end Word

/-- The first and the last address of a mapping. -/
def Mapping.bounds (m : Mapping D) : UInt32 × UInt32 :=
  (m.first, m.last)

/-- The last address of main memory's low range, computed with words. -/
def lowLast? (size : UInt32) : Option UInt32 := do
  let behind ← Word.add? dramBase (min size dramRegsBase)
  Word.sub? behind 1

/-- The bounds of main memory's high range, if there is one, computed with words. -/
def highBounds? (size : UInt32) : Option (List (UInt32 × UInt32)) :=
  if dramRegsBase < size then do
    let highSize ← Word.sub? size dramRegsBase
    let behind ← Word.add? highDramBase highSize
    let last ← Word.sub? behind 1
    return [(highDramBase, last)]
  else
    some []

/-- The bounds of the standard map, computed with words. -/
def standardBounds? (dramSize : Nat) : Option (List (UInt32 × UInt32)) := do
  let size ← Word.ofNat? dramSize
  let lowLast ← lowLast? size
  let high ← highBounds? size
  let regsLast ← Word.add? dramRegsBase 0xFFFFF
  let rspMemLast ← Word.add? rspMemBase 0xFFFF
  let ddRomLast ← Word.add? ddRomBase 0x01FFFFFF
  let flashLast ← Word.sub? cartRomBase 1
  let cartRomLast ← Word.sub? pifMemBase 1
  let pifLast ← Word.add? pifMemBase 0xFFFFF
  return [(dramBase, lowLast), (dramRegsBase, regsLast), (rspMemBase, rspMemLast),
    (0x04040000, 0x0407FFFF), (0x04080000, 0x040FFFFF), (0x04100000, 0x041FFFFF),
    (0x04200000, 0x042FFFFF), (0x04300000, 0x043FFFFF), (0x04400000, 0x044FFFFF),
    (0x04500000, 0x045FFFFF), (0x04600000, 0x046FFFFF), (0x04700000, 0x047FFFFF),
    (0x04800000, 0x048FFFFF), (0x05000000, 0x05FFFFFF), (ddRomBase, ddRomLast),
    (highDramBase, flashLast), (cartRomBase, cartRomLast), (pifMemBase, pifLast)] ++ high

/-- A handler leads to main memory. -/
def Handler.servesDram : Handler (Device X) → Bool
  | device (.ram d) => d.block = .dram
  | device (.rom d) => d.block = .dram
  | device (.attached _) | openBus | debug => false

/-- Main memory, the cartridge and the peripheral interface keep to their ranges. -/
structure Bus.Partitioned (bus : Bus (Device X)) : Prop where
  /-- Main memory is mapped in its two ranges and nowhere else. -/
  dram : ∀ a, bus.kindAt a = .rdram ∨ (bus.entryAt a).device.servesDram = true →
    a ≤ 0x03EFFFFF ∨ 0x08000000 ≤ a ∧ a ≤ 0x0FFFFFFF
  /-- The cartridge serves its whole range. -/
  cartridge : ∀ a, 0x10000000 ≤ a → a ≤ 0x1FBFFFFF →
    bus.kindAt a = .rom ∧ (bus.entryAt a).LeadsTo (.device (.rom cartridge))
  /-- So does the peripheral interface. -/
  pif : ∀ a, 0x1FC00000 ≤ a → a ≤ 0x1FCFFFFF →
    bus.kindAt a = .pif ∧ (bus.entryAt a).LeadsTo (.device (.ram pifMemory))

/-- The low range ends somewhere iff there is some main memory. -/
theorem lowLast?_eq (size : UInt32) : lowLast? size =
    if 0 < size.toNat then some (dramBase + min size dramRegsBase - 1) else none := by
  have hbehind := toNat_lowBehind size
  have hone : (1 : UInt32).toNat = 1 := rfl
  have hfits : dramBase.toNat + (min size dramRegsBase).toNat < 0x100000000 := by
    have hbase : dramBase.toNat = 0 := rfl
    have hlt := (min size dramRegsBase).toNat_lt
    omega
  rw [lowLast?, Word.add?_of_lt hfits, Option.bind_eq_bind, Option.bind_some]
  by_cases h : 0 < size.toNat
  · rw [if_pos h, Word.sub?_of_le]
    rw [UInt32.le_iff_toNat_le, hbehind, hone]
    omega
  · rw [if_neg h, Word.sub?_of_lt]
    rw [UInt32.lt_iff_toNat_lt, hbehind, hone]
    omega

/-- The high range ends inside the address space, or its end is not computed. -/
theorem highBounds?_eq (size : UInt32) : highBounds? size =
    if size.toNat < 0xFBF00000 then some ((highDramMap (X := X) size).map Mapping.bounds)
    else none := by
  have hregs : dramRegsBase.toNat = 0x03F00000 := rfl
  have hbase : highDramBase.toNat = 0x08000000 := rfl
  have hone : (1 : UInt32).toNat = 1 := rfl
  have hsize := size.toNat_lt
  rw [highBounds?, highDramMap]
  by_cases h : dramRegsBase < size
  · have hle : dramRegsBase ≤ size := UInt32.le_of_lt h
    have hdiff : (size - dramRegsBase).toNat = size.toNat - 0x03F00000 :=
      UInt32.toNat_sub_of_le _ _ hle
    rw [if_pos h, if_pos h, Word.sub?_of_le hle, Option.bind_eq_bind, Option.bind_some]
    rw [UInt32.lt_iff_toNat_lt, hregs] at h
    by_cases hlt : size.toNat < 0xFBF00000
    · have hbehind := toNat_highBehind (Nat.le_of_lt h) hlt
      rw [if_pos hlt, Word.add?_of_lt (by omega), Option.bind_some,
        Word.sub?_of_le (by rw [UInt32.le_iff_toNat_le, hbehind, hone]; omega)]
      rfl
    · rw [if_neg hlt, Word.add?_of_le (by omega)]
      rfl
  · rw [if_neg h, if_neg h, if_pos]
    · rfl
    · rw [UInt32.lt_iff_toNat_lt, hregs] at h
      omega

/-- The bounds of the standard map are words iff there is some main memory and its high
    range ends inside the address space. -/
theorem standardBounds?_eq (n : Nat) : standardBounds? n =
    if 0 < n ∧ n < 0xFBF00000 then
      some ((standardMap (X := X) (UInt32.ofNat n)).map Mapping.bounds)
    else none := by
  rw [standardBounds?, Word.ofNat?]
  by_cases hword : n < 0x100000000
  · have hnat : (UInt32.ofNat n).toNat = n := UInt32.toNat_ofNat_of_lt' hword
    rw [if_pos hword, Option.bind_eq_bind, Option.bind_some, lowLast?_eq,
      highBounds?_eq (X := X), hnat]
    by_cases hpos : 0 < n
    · by_cases hlt : n < 0xFBF00000
      · rw [if_pos hpos, if_pos hlt, if_pos ⟨hpos, hlt⟩]
        rfl
      · rw [if_pos hpos, if_neg hlt, if_neg fun h => hlt h.2]
        rfl
    · have hnot : ¬ (0 < n ∧ n < 0xFBF00000) := fun h => hpos h.1
      rw [if_neg hpos, if_neg hnot]
      rfl
  · have hnot : ¬ (0 < n ∧ n < 0xFBF00000) := by omega
    rw [if_neg hword, if_neg hnot]
    rfl

theorem Mapping.spans_iff {m : Mapping D} {a : UInt32} : m.Spans a ↔
    m.first.toNat / 65536 ≤ a.toNat / 65536 ∧ a.toNat / 65536 ≤ m.last.toNat / 65536 := by
  rw [Spans, UInt32.le_iff_toNat_le, UInt32.le_iff_toNat_le, toNat_shiftRight_sixteen,
    toNat_shiftRight_sixteen, toNat_shiftRight_sixteen]

theorem Mapping.Whole.spans_iff {m : Mapping D} (h : m.Whole) {a : UInt32} :
    m.Spans a ↔ m.first ≤ a ∧ a ≤ m.last := by
  rw [← covers_regionOf_iff h.1, h.covers_iff, UInt32.le_iff_toNat_le, UInt32.le_iff_toNat_le]

/-- The mapping of main memory's high range. -/
def highMapping (size : UInt32) : Mapping (Device X) :=
  ⟨highDramBase, highDramBase + (size - dramRegsBase) - 1, .rdram, .device (.ram highDram)⟩

/-- The mapping of main memory's low range. -/
def lowMapping (size : UInt32) : Mapping (Device X) :=
  ⟨dramBase, dramBase + min size dramRegsBase - 1, .rdram, .device (.ram lowDram)⟩

/-- The mapping of the cartridge. -/
def cartridgeMapping : Mapping (Device X) :=
  ⟨cartRomBase, pifMemBase - 1, .rom, .device (.rom cartridge)⟩

/-- The mapping of the peripheral interface. -/
def pifMapping : Mapping (Device X) :=
  ⟨pifMemBase, pifMemBase + 0xFFFFF, .pif, .device (.ram pifMemory)⟩

theorem spans_cartridgeMapping_iff {a : UInt32} :
    (cartridgeMapping (X := X)).Spans a ↔ 0x10000000 ≤ a ∧ a ≤ 0x1FBFFFFF := by
  have hwhole : (cartridgeMapping (X := X)).Whole := by
    simp only [cartridgeMapping, Mapping.Whole]
    decide
  exact hwhole.spans_iff

theorem spans_pifMapping_iff {a : UInt32} :
    (pifMapping (X := X)).Spans a ↔ 0x1FC00000 ≤ a ∧ a ≤ 0x1FCFFFFF := by
  have hwhole : (pifMapping (X := X)).Whole := by
    simp only [pifMapping, Mapping.Whole]
    decide
  exact hwhole.spans_iff

/-- The mappings that do not depend on the size of main memory. -/
def fixedMap : List (Mapping (Device X)) :=
  ((standardMap 0).take 18).tail

namespace BoundedDramSize

variable {n : Nat}

theorem mem_highDramMap (hn : BoundedDramSize n) {m : Mapping (Device X)}
    (hm : m ∈ highDramMap (UInt32.ofNat n)) :
    0x03F00000 < n ∧ m = highMapping (UInt32.ofNat n) := by
  rw [highDramMap] at hm
  split at hm
  · next h => exact ⟨hn.dramRegsBase_lt_iff.mp h, List.mem_singleton.mp hm⟩
  · cases hm

/-- What holds of main memory's two mappings and of all fixed ones holds of the map. -/
theorem forall_mem_standardMap (hn : BoundedDramSize n) {p : Mapping (Device X) → Prop}
    (hlow : p (lowMapping (UInt32.ofNat n)))
    (hhigh : 0x03F00000 < n → p (highMapping (UInt32.ofNat n)))
    (hfixed : ∀ m ∈ fixedMap, p m) :
    ∀ m ∈ standardMap (UInt32.ofNat n), p m := by
  intro m hm
  rw [standardMap, List.mem_append] at hm
  rcases hm with hm | hm
  · rcases List.mem_cons.mp hm with rfl | hm
    · exact hlow
    · exact hfixed m hm
  · rcases hn.mem_highDramMap hm with ⟨h, rfl⟩
    exact hhigh h

theorem ordered_standardMap (hn : BoundedDramSize n) :
    ∀ m ∈ standardMap (X := X) (UInt32.ofNat n), m.first ≤ m.last := by
  refine hn.forall_mem_standardMap ?_ (fun h => ?_) ?_
  · exact UInt32.le_iff_toNat_le.mpr (Nat.zero_le _)
  · rw [highMapping, UInt32.le_iff_toNat_le, hn.toNat_highLast h]
    change 0x08000000 ≤ _
    omega
  · have hall : (fixedMap (X := X)).all (fun m => m.first ≤ m.last) = true := rfl
    exact fun m hm => of_decide_eq_true (List.all_eq_true.mp hall m hm)

theorem exists_ofMappings [Registry R] (hn : BoundedDramSize n) (intercepting : Bool)
    (registry : Option R) : ∃ bus : Bus (Device X),
      Bus.ofMappings intercepting registry (standardMap (UInt32.ofNat n)) = .ok bus :=
  Bus.exists_foldlM_apply registry hn.ordered_standardMap (Bus.unmapped intercepting)

/-- What the high range of main memory spans it has, be it behind its range. -/
theorem spilled_standardMap (hn : BoundedDramSize n) (h : 0x03F00000 < n)
    {bus : Bus (Device X)} (hb : bus.Leads (standardMap (UInt32.ofNat n))) {a : UInt32}
    (hfirst : 0x08000000 / 65536 ≤ a.toNat / 65536)
    (hlast : a.toNat / 65536 ≤ (0x08000000 + (n - 0x03F00000) - 1) / 65536) :
    bus.kindAt a = .rdram ∧ (bus.entryAt a).LeadsTo (.device (.ram highDram)) := by
  have hhigh : highDramMap (X := X) (UInt32.ofNat n) = [highMapping (UInt32.ofNat n)] := by
    rw [highDramMap, if_pos (hn.dramRegsBase_lt_iff.mpr h)]
    rfl
  have hsplit : standardMap (X := X) (UInt32.ofNat n) =
      lowMapping (UInt32.ofNat n) :: fixedMap ++ [highMapping (UInt32.ofNat n)] := by
    rw [standardMap, hhigh]
    rfl
  refine (hb.lastWins hn.ordered_standardMap).won _ _ [] hsplit a ?_
    (fun x hx => absurd hx List.not_mem_nil)
  rw [Mapping.spans_iff, highMapping, hn.toNat_highLast h]
  exact ⟨hfirst, hlast⟩

/-- Main memory is mapped by its two mappings, which end inside their ranges as long as
    it fits them. -/
theorem bounds_of_dram (hn : BoundedDramSize n) (hmax : n ≤ dramMaxSize) :
    ∀ m ∈ standardMap (X := X) (UInt32.ofNat n),
      m.kind = .rdram ∨ m.handler.servesDram = true →
        m.last.toNat < 0x03F00000 ∨ 0x08000000 ≤ m.first.toNat ∧ m.last.toNat < 0x10000000 := by
  have hpos := hn.pos
  simp only [dramMaxSize] at hmax
  refine hn.forall_mem_standardMap (fun _ => .inl ?_) (fun h _ => .inr ⟨?_, ?_⟩) ?_
  · rw [lowMapping, hn.toNat_lowLast]
    omega
  · exact Nat.le_refl 0x08000000
  · rw [highMapping, hn.toNat_highLast h]
    omega
  · have hall : (fixedMap (X := X)).all
        (fun m => m.kind ≠ .rdram && !m.handler.servesDram) = true := rfl
    intro m hm hdram
    have hnot := List.all_eq_true.mp hall m hm
    rw [Bool.and_eq_true, decide_eq_true_eq, Bool.not_eq_true'] at hnot
    rcases hdram with hkind | hserves
    · exact absurd hkind hnot.1
    · rw [hnot.2] at hserves
      cases hserves

/-- What main memory leaves alone as long as it fits its ranges. -/
theorem partitioned_standardMap (hn : BoundedDramSize n) (hmax : n ≤ dramMaxSize)
    {bus : Bus (Device X)} (hb : bus.Leads (standardMap (UInt32.ofNat n))) : bus.Partitioned := by
  have hwins := hb.lastWins hn.ordered_standardMap
  simp only [dramMaxSize] at hmax
  -- The high range ends in front of the cartridge.
  have hhigh : ∀ a : UInt32, 0x10000000 ≤ a → ∀ m ∈ highDramMap (X := X) (UInt32.ofNat n),
      ¬ m.Spans a := by
    intro a ha m hm
    rcases hn.mem_highDramMap hm with ⟨h, rfl⟩
    simp only [UInt32.le_iff_toNat_le, UInt32.reduceToNat] at ha
    rw [Mapping.spans_iff, highMapping, hn.toNat_highLast h]
    omega
  constructor
  case dram =>
    intro a hdram
    rcases hb.mapped_or_vacant hn.ordered_standardMap a with
      ⟨m, hm, hspans, hkind, hleads⟩ | ⟨hkind, hleads⟩
    · rw [hkind, hleads.device_eq] at hdram
      have hbounds := hn.bounds_of_dram hmax m hm hdram
      rw [Mapping.spans_iff] at hspans
      simp only [UInt32.le_iff_toNat_le, UInt32.reduceToNat]
      omega
    · rw [hkind, hleads.device_eq] at hdram
      rcases hdram with hdram | hdram
      · cases hdram
      · cases hdram
  case cartridge =>
    intro a hfirst hlast
    have hafter : ∀ x ∈ pifMapping :: highDramMap (X := X) (UInt32.ofNat n), ¬ x.Spans a := by
      refine List.forall_mem_cons.mpr ⟨fun hspans => ?_, hhigh a hfirst⟩
      exact absurd (UInt32.le_trans (spans_pifMapping_iff.mp hspans).1 hlast) (by decide)
    exact hwins.won ((standardMap (UInt32.ofNat n)).take 16) cartridgeMapping _ rfl a
      (spans_cartridgeMapping_iff.mpr ⟨hfirst, hlast⟩) hafter
  case pif =>
    intro a hfirst hlast
    exact hwins.won ((standardMap (UInt32.ofNat n)).take 17) pifMapping _ rfl a
      (spans_pifMapping_iff.mpr ⟨hfirst, hlast⟩) (hhigh a (UInt32.le_trans (by decide) hfirst))

end BoundedDramSize

theorem dramWord_of_create {allocator : Allocator} {n : Nat} {s : Store} {events : List Event}
    (hs : Store.create allocator n = (.ok s, events)) : s.dramWord = UInt32.ofNat n :=
  congrArg UInt32.ofNat (Store.shaped_of_create hs .dram)

/-- The standard map of a store is as it should be iff there is some main memory and it
    fits its ranges: its bounds are computed with words, they are in order, and on a bus
    of either kind everything keeps to its range. -/
theorem standardMap_partitioned_iff [Registry R] {allocator : Allocator} {n : Nat} {s : Store}
    {events : List Event} (hs : Store.create allocator n = (.ok s, events))
    (intercepting : Bool) (registry : Option R) :
    (standardBounds? n = some ((standardMap (X := X) s.dramWord).map Mapping.bounds) ∧
        (∀ m ∈ standardMap (X := X) s.dramWord, m.first ≤ m.last) ∧
        ∃ bus : Bus (Device X),
          Bus.ofMappings intercepting registry (standardMap s.dramWord) = .ok bus ∧
            bus.Partitioned) ↔
      0 < n ∧ n ≤ dramMaxSize := by
  rw [dramWord_of_create hs, standardBounds?_eq (X := X)]
  constructor
  · rintro ⟨hbounds, -, bus, hbus, hpart⟩
    have hn : BoundedDramSize n := by
      by_contra hnot
      rw [if_neg fun h => hnot ⟨h.1, h.2⟩] at hbounds
      cases hbounds
    refine ⟨hn.pos, Nat.le_of_not_lt fun hlarge => ?_⟩
    simp only [dramMaxSize] at hlarge
    -- The first region of the cartridge belongs to main memory's high range.
    have hspilled := hn.spilled_standardMap (a := 0x10000000) (by omega)
      (Bus.leads_ofMappings hbus) (by decide) (by simp only [UInt32.reduceToNat]; omega)
    have hrange := hpart.dram 0x10000000 (.inl hspilled.1)
    exact absurd hrange (by decide)
  · rintro ⟨hpos, hmax⟩
    have hn : BoundedDramSize n := ⟨hpos, by simp only [dramMaxSize] at hmax; omega⟩
    rcases hn.exists_ofMappings (X := X) intercepting registry with ⟨bus, hbus⟩
    rw [if_pos ⟨hn.pos, hn.lt⟩]
    exact ⟨rfl, hn.ordered_standardMap, bus, hbus,
      hn.partitioned_standardMap hmax (Bus.leads_ofMappings hbus)⟩

/-- Main memory that fills its ranges up to a part of the last region. -/
theorem standardMap_partitioned_iff_partial : ∃ s events,
    Store.create (Allocator.host Allocator.hostLimit) 0x0BEF8001 = (.ok s, events) ∧
      ∃ bus : Bus (Device Empty),
        Bus.ofMappings true (some Breakpoints.empty) (standardMap s.dramWord) = .ok bus ∧
          bus.Partitioned := by
  have hcreated : ∃ s events,
      Store.create (Allocator.host Allocator.hostLimit) 0x0BEF8001 = (.ok s, events) :=
    ⟨_, _, rfl⟩
  rcases hcreated with ⟨s, events, hs⟩
  have h := (standardMap_partitioned_iff (X := Empty) hs true (some Breakpoints.empty)).mpr
    (by decide)
  exact ⟨s, events, hs, h.2.2⟩

/-- One region more than fits, and main memory has the first region of the cartridge. -/
theorem cartridge_replaced : ∃ s events,
    Store.create (Allocator.host Allocator.hostLimit) 0x0BF10000 = (.ok s, events) ∧
      ∃ bus : Bus (Device Empty),
        Bus.ofMappings false (none : Option Breakpoints) (standardMap s.dramWord) = .ok bus ∧
          bus.kindAt 0x10000000 = .rdram ∧
          (bus.entryAt 0x10000000).LeadsTo (.device (.ram highDram)) := by
  have hcreated : ∃ s events,
      Store.create (Allocator.host Allocator.hostLimit) 0x0BF10000 = (.ok s, events) :=
    ⟨_, _, rfl⟩
  rcases hcreated with ⟨s, events, hs⟩
  have hn : BoundedDramSize 0x0BF10000 := ⟨by decide, by decide⟩
  rcases hn.exists_ofMappings (X := Empty) false (none : Option Breakpoints) with ⟨bus, hbus⟩
  refine ⟨s, events, hs, bus, ?_, ?_⟩
  · rw [dramWord_of_create hs]
    exact hbus
  · exact hn.spilled_standardMap (by decide) (Bus.leads_ofMappings hbus) (by decide)
      (by decide)

end RegionBus

import Mathlib.Data.Set.Function
import RegionBus.Proofs.Allocation.Acquisition
import RegionBus.Proofs.StandardMap.Locations

/-!
# Addresses and Bytes

The windows lead from addresses to the bytes of the blocks. Two blocks have two
windows each: main memory goes on behind its register block, and the cartridge is
cut in two by the window of the peripheral interface. Nevertheless no byte has two
addresses, and as long as main memory fits its windows every byte has one.

The way back is a function. `Location.address` gives the address that a byte of a
block stands at, and the two lemmas about it are all that is needed: it undoes what
a lookup found, for main memory of any size, and a lookup undoes it, as long as main
memory is not too large. A byte behind the windows of main memory gets an address in
the cartridge's range and is not found there.

## Main definitions

* `Location.address`: The address of a byte.
* `Store.bytes`, `Store.addresses`: The two sides of translation.
* `Store.Translated`: Translation for main memory of any size.

## Theorems

* `address_of_resolve?`: What an address leads to is found at that address again.
* `locate?_address`: Every byte is found at its address.
* `translated`: Translation stays inside the blocks and never leads to the same byte twice.
* `locate?_bijOn`: Addresses and bytes correspond.
* `translation_bijective`: Translation, for every store.
-/

namespace RegionBus

/-- The address of a byte. Main memory goes on behind its register block. -/
def Location.address (l : Location) : UInt32 :=
  match l.block with
  | .dram =>
    if l.offset < 0x03F00000 then UInt32.ofNat l.offset
    else UInt32.ofNat (0x08000000 + (l.offset - 0x03F00000))
  | .cartRom => UInt32.ofNat (0x10000000 + l.offset)
  | .rspMem => UInt32.ofNat (0x04000000 + l.offset)
  | .ddRom => UInt32.ofNat (0x06000000 + l.offset)
  | .pifMem => UInt32.ofNat (0x1FC00000 + l.offset)

namespace Location

/-- What an address leads to is found at that address again. -/
theorem address_of_resolve? {a : UInt32} {l : Location}
    (h : Catalog.standard.resolve? a = some l) :
    l.address = a := by
  have ha := a.toNat_lt
  rw [Catalog.resolve?_standard] at h
  -- The distance from the start of a window is added to it again.
  have hback : ∀ i, i = a.toNat → UInt32.ofNat i = a := by
    rintro i rfl
    exact UInt32.ofNat_toNat
  -- Each part of the address space lies in one window or in none.
  rcases address_parts a.toNat with hp | hp | hp | hp | hp | hp | hp | hp | hp | hp
  all_goals simp (disch := omega) only [if_pos, if_neg] at h
  all_goals cases h
  all_goals simp (disch := omega) only [address, if_pos, if_neg]
  all_goals exact hback _ (by omega)

end Location

namespace Store

/-- The bytes of all blocks. -/
def bytes (s : Store) : Set Location :=
  {l | l.offset < (s.block l.block).size}

/-- The addresses that stand for a byte. -/
def addresses (s : Store) : Set UInt32 :=
  {a | (s.locate? a).isSome}

/-- Translation for main memory of any size. -/
structure Translated (s : Store) : Prop where
  /-- What an address stands for lies inside its block. -/
  inside : ∀ a l, s.locate? a = some l → l.offset < (s.block l.block).size
  /-- Two addresses do not stand for the same byte. -/
  injective : ∀ a b l, s.locate? a = some l → s.locate? b = some l → a = b
  /-- The host address of a byte is counted from the start of its block. There is one
      iff the address stands for a byte. -/
  host : ∀ a, s.hostAddress? a =
    (s.locate? a).map fun l => (s.block l.block).address + l.offset

variable {s : Store} {n : Nat} {a : UInt32} {l : Location}

theorem shaped_of_create {allocator : Allocator} {events : List Event}
    (hs : create allocator n = (.ok s, events)) : s.Shaped n := by
  rcases created_or_denied allocator n with ⟨t, _, ht, hcreated⟩ | ⟨e, _, he, -⟩
  · rw [hs, Prod.mk.injEq, Except.ok.injEq] at ht
    rw [ht.1]
    exact hcreated.size_eq
  · rw [hs, Prod.mk.injEq] at he
    cases he.1

/-- Every byte is found at its address, as long as main memory fits its windows. -/
theorem locate?_address (hs : s.Shaped n) (hn : n ≤ dramMaxSize) (hl : l ∈ s.bytes) :
    s.locate? l.address = some l := by
  have hword : ∀ i < 2 ^ 32, (UInt32.ofNat i).toNat = i := fun i hi =>
    UInt32.toNat_ofNat_of_lt' hi
  rw [locate?, Option.filter_eq_some_iff, decide_eq_true_eq]
  refine ⟨?_, hl⟩
  have hin : l.offset < l.block.sizeWith n := by
    rw [← hs l.block]
    exact hl
  rcases l with ⟨block, offset⟩
  simp only [dramMaxSize] at hn
  rw [Catalog.resolve?_standard]
  cases block with
  | dram =>
      -- Behind its low window main memory goes on in the high one.
      simp only [BlockKind.sizeWith] at hin
      by_cases h : offset < 0x03F00000
      · simp (disch := omega) only [Location.address, hword, if_pos]
      · simp (disch := omega) only [Location.address, hword, if_neg, if_pos]
        have hoffset : 0x08000000 + (offset - 0x03F00000) - 0x08000000 + 0x03F00000 = offset := by
          omega
        rw [hoffset]
  | cartRom | rspMem | ddRom | pifMem =>
      simp only [BlockKind.sizeWith, cartRomSize, rspMemSize, ddRomSize, pifRomSize, pifRamSize]
        at hin
      simp (disch := omega) only [Location.address, hword, if_neg, if_pos, Nat.add_sub_cancel_left]

theorem translated (s : Store) : s.Translated := by
  constructor
  case inside => exact fun a l h => lt_of_locate? h
  case injective =>
    intro a b l ha hb
    rw [locate?, Option.filter_eq_some_iff] at ha hb
    rw [← Location.address_of_resolve? ha.1, Location.address_of_resolve? hb.1]
  case host =>
    intro a
    rw [hostAddress?]
    cases h : s.locate? a with
    | none => rfl
    | some l => rw [Option.bind_some, Block.addressAt?, if_pos (lt_of_locate? h), Option.map_some]

/-- Addresses and bytes correspond, as long as main memory fits its windows. -/
theorem locate?_bijOn (hs : s.Shaped n) (hn : n ≤ dramMaxSize) :
    Set.BijOn s.locate? s.addresses (some '' s.bytes) := by
  refine ⟨fun a ha => ?_, fun a ha b _ hab => ?_, ?_⟩
  · rcases Option.isSome_iff_exists.mp ha with ⟨l, hl⟩
    exact ⟨l, lt_of_locate? hl, hl.symm⟩
  · rcases Option.isSome_iff_exists.mp ha with ⟨l, hl⟩
    exact s.translated.injective a b l hl (hab ▸ hl)
  · rintro _ ⟨l, hl, rfl⟩
    have hfound := locate?_address hs hn hl
    exact ⟨l.address, Option.isSome_iff_exists.mpr ⟨l, hfound⟩, hfound⟩

end Store

/-- Translation, for every store: it stays inside the blocks and never leads to the same
    byte twice, and addresses and bytes correspond as long as main memory fits its
    windows. -/
theorem translation_bijective {s : Store} {n : Nat} (hs : s.Shaped n) :
    s.Translated ∧ (n ≤ dramMaxSize → Set.BijOn s.locate? s.addresses (some '' s.bytes)) :=
  ⟨s.translated, Store.locate?_bijOn hs⟩

/-- In a store from the host, main memory is found behind its register block. -/
theorem translation_bijective_highDram : ∃ s, Store.createOnHost 0x04000000 = .ok s ∧
    s.Shaped 0x04000000 ∧ Set.BijOn s.locate? s.addresses (some '' s.bytes) ∧
      s.hostAddress? 0x080FFFFF = some 0x1000003FFFFFF := by
  have hcreated : ∃ s, Store.createOnHost 0x04000000 = .ok s ∧ s.Shaped 0x04000000 ∧
      s.locate? 0x080FFFFF = some ⟨.dram, 0x03FFFFFF⟩ ∧
      (s.block .dram).address = 0x1000000000000 :=
    ⟨_, rfl, fun k => by cases k <;> rfl, rfl, rfl⟩
  rcases hcreated with ⟨s, hs, hshape, hlocate, haddress⟩
  rcases translation_bijective hshape with ⟨htranslated, hbij⟩
  refine ⟨s, hs, hshape, hbij (by decide), ?_⟩
  rw [htranslated.host, hlocate, Option.map_some, haddress]
  rfl

end RegionBus

import RegionBus.Proofs.Bus.Dispatch

/-!
# What an Access Reports

An access of any width is one or two words, and the debug handler sees each of
them. What it reports is worked out from the mask of the word, but that is only
how a store of one or two bytes finds its way back to where it began: the first
enabled lane of a typed store is the lane its address picked, and its mask has
bits for as many bytes as the store has. `registry_read` and `registry_write`
say the result in terms of the access alone.

All the ranges an access reports lie within a word, `InWord`, so none of them
runs past the last address or out of its region.

## Main definitions

* `Width.words`: The words that a read takes.
* `Width.stores`: The bytes that a store replaces, word by word.
* `InWord`: Some bytes lie within one word.
* `laneMask`: The mask of some bytes of a word.
* `Bus.storeBytes`: Some bytes within a word stored.

## Theorems

* `InWord.saturatingAdd_eq`: No report runs past the last address.
* `lanes_laneMask`: The lanes of a mask are found again from the mask.
* `inWord_masked`: A store under a mask is reported within its word.
* `write_eq_stores`: The bytes that are reported are those that are stored.
* `registry_read`, `registry_write`: The registry after an access of any width.
* `registry_writeMasked`: The registry after a word written under a mask.
-/

namespace RegionBus

namespace Width

/-- The words that a read of a width takes, in order. -/
def words : Width → UInt32 → List UInt32
  | byte, a | half, a | word, a => [a &&& ~~~3]
  | double, a => [a &&& ~~~7, (a &&& ~~~7) + 4]

/-- The first address and the number of the bytes that a store of a width
    replaces in each word, in order. -/
def stores : Width → UInt32 → List (UInt32 × UInt32)
  | byte, a => [(a, 1)]
  | half, a => [(a &&& ~~~1, 2)]
  | word, a => [(a &&& ~~~3, 4)]
  | double, a => [(a &&& ~~~7, 4), ((a &&& ~~~7) + 4, 4)]

end Width

/-- The mask with the bits of some bytes of a word, counted from the most
    significant one on. -/
def laneMask (first count : Nat) : UInt32 :=
  UInt32.ofNat ((2 ^ (8 * count) - 1) * 2 ^ (8 * (4 - first - count)))

/-- The `size` bytes from an address on lie within one word. -/
def InWord (a size : UInt32) : Prop :=
  0 < size.toNat ∧ a.toNat % 4 + size.toNat ≤ 4

namespace InWord

variable {a size : UInt32}

theorem size_ne_zero (h : InWord a size) : size ≠ 0 := by
  intro hzero
  rw [hzero] at h
  exact absurd h.1 (Nat.lt_irrefl 0)

theorem toNat_size_sub (h : InWord a size) : (size - 1).toNat = size.toNat - 1 := by
  have hone : (1 : UInt32) ≤ size := UInt32.le_iff_toNat_le.mpr h.1
  rw [UInt32.toNat_sub_of_le _ _ hone]
  rfl

/-- No report runs past the last address. -/
theorem saturatingAdd_eq (h : InWord a size) :
    saturatingAdd a (size - 1) = a + (size - 1) := by
  have ha := a.toNat_lt
  have hmax : (0xFFFFFFFF : UInt32).toNat = 4294967295 := rfl
  have hsize := h.toNat_size_sub
  have hle : size - 1 ≤ 0xFFFFFFFF := by
    have hlt := (size - 1).toNat_lt
    rw [UInt32.le_iff_toNat_le]
    omega
  rcases h with ⟨hpos, hword⟩
  -- The last word ends at the last address.
  rw [saturatingAdd, if_pos]
  rw [UInt32.le_iff_toNat_le, UInt32.toNat_sub_of_le _ _ hle, hsize, hmax]
  omega

/-- A report ends where its bytes do. -/
theorem toNat_end (h : InWord a size) :
    (a + (size - 1)).toNat = a.toNat + (size.toNat - 1) := by
  have ha := a.toNat_lt
  have hsize := h.toNat_size_sub
  rcases h with ⟨hpos, hword⟩
  rw [UInt32.toNat_add, hsize]
  omega

end InWord

theorem inWord_of_aligned {a : UInt32} (ha : a.toNat % 4 = 0) : InWord a 4 := by
  have h4 : (4 : UInt32).toNat = 4 := rfl
  rw [InWord, h4, ha]
  omega

theorem aligned_word (a : UInt32) : (a &&& ~~~3).toNat % 4 = 0 := by
  rw [toNat_alignWord]
  omega

theorem aligned_double (a : UInt32) : (a &&& ~~~7).toNat % 4 = 0 := by
  rw [toNat_alignDouble]
  omega

theorem aligned_secondWord (a : UInt32) : ((a &&& ~~~7) + 4).toNat % 4 = 0 := by
  rw [toNat_secondWord]
  omega

theorem Width.inWord_words {width : Width} {a w : UInt32} (hw : w ∈ width.words a) :
    InWord w 4 := by
  cases width with
  | byte | half | word =>
      rw [words, List.mem_singleton] at hw
      subst hw
      exact inWord_of_aligned (aligned_word a)
  | double =>
      rw [words, List.mem_cons, List.mem_singleton] at hw
      rcases hw with rfl | rfl
      · exact inWord_of_aligned (aligned_double a)
      · exact inWord_of_aligned (aligned_secondWord a)

theorem Width.inWord_stores {width : Width} {a : UInt32} {x : UInt32 × UInt32}
    (hx : x ∈ width.stores a) : InWord x.1 x.2 := by
  cases width with
  | byte =>
      rw [stores, List.mem_singleton] at hx
      subst hx
      have h1 : (1 : UInt32).toNat = 1 := rfl
      rw [InWord, h1]
      omega
  | half =>
      rw [stores, List.mem_singleton] at hx
      subst hx
      have h2 : (2 : UInt32).toNat = 2 := rfl
      rw [InWord, toNat_alignHalf, h2]
      omega
  | word =>
      rw [stores, List.mem_singleton] at hx
      subst hx
      exact inWord_of_aligned (aligned_word a)
  | double =>
      rw [stores, List.mem_cons, List.mem_singleton] at hx
      rcases hx with rfl | rfl
      · exact inWord_of_aligned (aligned_double a)
      · exact inWord_of_aligned (aligned_secondWord a)

/-- The lanes of a mask are found again from the mask. -/
theorem lanes_laneMask {first count : Nat} (hpos : 0 < count) (hle : first + count ≤ 4) :
    firstLane (laneMask first count) = UInt32.ofNat first ∧
      laneCount (laneMask first count) = UInt32.ofNat count := by
  -- There are ten ways to pick some bytes of a word.
  have hall : ∀ first < 4, ∀ count < 5, 0 < count → first + count ≤ 4 →
      firstLane (laneMask first count) = UInt32.ofNat first ∧
        laneCount (laneMask first count) = UInt32.ofNat count := by decide
  exact hall first (by omega) count (by omega) hpos hle

/-- A store of one byte has the mask of this byte. -/
theorem laneMask_byte (a : UInt32) :
    (0xFF : UInt32) <<< ((3 - (a &&& 3)) * 8) = laneMask (a.toNat % 4) 1 := by
  have hlane := toNat_lane a
  have hcases : a &&& 3 = 0 ∨ a &&& 3 = 1 ∨ a &&& 3 = 2 ∨ a &&& 3 = 3 := by
    simp only [← UInt32.toNat_inj, UInt32.reduceToNat]
    omega
  rw [← hlane]
  rcases hcases with h | h | h | h <;> rw [h] <;> decide

/-- A store of two bytes has the mask of these two. -/
theorem laneMask_half (a : UInt32) :
    (0xFFFF : UInt32) <<< ((2 - (a &&& 2)) * 8) = laneMask ((a &&& ~~~1).toNat % 4) 2 := by
  have hlane := toNat_halfLane a
  have hhalf : (a &&& ~~~1).toNat % 4 = (a &&& 2).toNat := by
    rw [toNat_alignHalf, hlane]
    omega
  -- A half word begins in the first or in the third lane.
  have hcases : a &&& 2 = 0 ∨ a &&& 2 = 2 := by
    simp only [← UInt32.toNat_inj, UInt32.reduceToNat]
    omega
  rw [hhalf]
  rcases hcases with h | h <;> rw [h] <;> decide

theorem laneMask_word {a : UInt32} (ha : a.toNat % 4 = 0) :
    (0xFFFFFFFF : UInt32) = laneMask (a.toNat % 4) 4 := by
  rw [ha]
  decide

/-- The bits of a mask lie behind its leading zeros. -/
theorem lt_of_testBit_mask {mask : UInt32} {i : Nat} (hi : i < 32)
    (hbit : mask.toNat.testBit i = true) : i < 32 - leadingZeros mask := by
  -- Leading zeros are counted from the top, bits from the bottom.
  have hback : 31 - (31 - i) = i := by omega
  rw [leadingZeros]
  cases hfind : (List.range 32).find? fun j => mask.toNat.testBit (31 - j) with
  | none =>
      have hnot := List.find?_eq_none.mp hfind (31 - i) (List.mem_range.mpr (by omega))
      rw [hback] at hnot
      exact absurd hbit hnot
  | some z =>
      rcases List.find?_range_eq_some.mp hfind with ⟨-, hz, hleast⟩
      rw [List.mem_range] at hz
      rw [Option.getD_some]
      by_cases hlt : i < 32 - z
      · exact hlt
      · -- Then the bit would have been found before `z`.
        have hnot := hleast (31 - i) (by omega)
        rw [hback, hbit, Bool.not_true] at hnot
        exact absurd hnot Bool.false_ne_true

theorem countP_range_le {p : Nat → Bool} {n m : Nat} (h : ∀ i < n, p i = true → i < m) :
    (List.range n).countP p ≤ m := by
  induction n with
  | zero => exact Nat.zero_le m
  | succ n ih =>
      have hn := ih fun i hi => h i (by omega)
      rw [List.range_succ, List.countP_append, List.countP_singleton]
      by_cases hp : p n = true
      · -- If the last one counts, then the bound is above all of them.
        have hm := h n (by omega) hp
        have hlen := List.countP_le_length (p := p) (l := List.range n)
        rw [List.length_range] at hlen
        rw [if_pos hp]
        omega
      · rw [if_neg hp]
        exact hn

/-- A mask has no more bits than there are behind its leading zeros. -/
theorem bitCount_le (mask : UInt32) : bitCount mask ≤ 32 - leadingZeros mask :=
  countP_range_le fun _ hi hbit => lt_of_testBit_mask hi hbit

/-- What a store under a mask is reported with lies within its word. -/
theorem inWord_masked (a mask : UInt32) :
    InWord ((a &&& ~~~3) + firstLane mask) (laneCount mask) := by
  have hbits := bitCount_le mask
  have hfirst : (firstLane mask).toNat = min (leadingZeros mask / 8) 3 := by
    rw [firstLane, UInt32.toNat_ofNat']
    omega
  have hcount : (laneCount mask).toNat = max (bitCount mask / 8) 1 := by
    rw [laneCount, UInt32.toNat_ofNat']
    omega
  have ha := a.toNat_lt
  rw [InWord, UInt32.toNat_add, toNat_alignWord, hfirst, hcount]
  omega

namespace Bus

variable {D R W : Type} [DeviceBank D W] [Registry R] {bus : Bus D}

/-- Some bytes within a word stored, given with the word that has their new values. -/
def storeBytes (bus : Bus D) (p : Backplane R W) (x : (UInt32 × UInt32) × UInt32) :
    Backplane R W :=
  bus.writeWord (x.1.1 &&& ~~~3) x.2 (laneMask (x.1.1.toNat % 4) x.1.2.toNat) p

theorem writeMasked_word (bus : Bus D) {a : UInt32} (ha : a.toNat % 4 = 0) (value : UInt32)
    (p : Backplane R W) :
    bus.writeMasked a value 0xFFFFFFFF p = bus.storeBytes p ((a, 4), value) := by
  rw [writeMasked, storeBytes, laneMask_word ha]
  rfl

/-- A store of any width stores the bytes it is reported with, and no others. -/
theorem write_eq_stores (bus : Bus D) (width : Width) (a : UInt32) (value : UInt64)
    (p : Backplane R W) : ∃ values : List UInt32, values.length = (width.stores a).length ∧
      bus.write width a value p = ((width.stores a).zip values).foldl bus.storeBytes p := by
  cases width with
  | byte =>
      refine ⟨[value.toUInt8.toUInt32 <<< ((3 - (a &&& 3)) * 8)], rfl, ?_⟩
      rw [write, write8_eq, writeMasked, laneMask_byte]
      rfl
  | half =>
      refine ⟨[value.toUInt16.toUInt32 <<< ((2 - (a &&& 2)) * 8)], rfl, ?_⟩
      rw [write, write16_eq, writeMasked, laneMask_half, ← alignWord_alignHalf]
      rfl
  | word =>
      refine ⟨[value.toUInt32], rfl, ?_⟩
      -- The address is rounded down twice here, and once in the code.
      have hword := bus.writeMasked_word (aligned_word a) value.toUInt32 p
      rw [writeMasked, alignWord_eq_self (aligned_word a)] at hword
      exact hword
  | double =>
      refine ⟨[(value >>> 32).toUInt32, value.toUInt32], rfl, ?_⟩
      rw [write, write64_eq, bus.writeMasked_word (aligned_double a),
        bus.writeMasked_word (aligned_secondWord a)]
      rfl

theorem registry_readWord (hs : ∀ r, (bus.entry r).Settled) (a : UInt32) (p : Backplane R W) :
    (bus.readWord a p).2.registry = bus.told .read a 4 p.registry := by
  rw [readWord_eq (hs (regionOf a))]

/-- A read of any width reports each of its words. -/
theorem registry_read (hs : ∀ r, (bus.entry r).Settled) (width : Width) (a : UInt32)
    (p : Backplane R W) : (bus.read width a p).2.registry =
      (width.words a).foldl (fun registry w => bus.told .read w 4 registry) p.registry := by
  cases width with
  | byte =>
      rw [read, read8_eq]
      exact registry_readWord hs _ p
  | half =>
      rw [read, read16_eq]
      exact registry_readWord hs _ p
  | word => exact registry_readWord hs _ p
  | double =>
      simp only [read, read64_eq, Width.words, List.foldl_cons, List.foldl_nil]
      rw [registry_readWord hs, registry_readWord hs]

/-- A store under a mask is reported from its first enabled byte on. -/
theorem registry_writeMasked (hs : ∀ r, (bus.entry r).Settled) (a value mask : UInt32)
    (p : Backplane R W) : (bus.writeMasked a value mask p).registry =
      bus.told .write ((a &&& ~~~3) + firstLane mask) (laneCount mask) p.registry := by
  rw [writeMasked, writeWord_eq (aligned_word a) (hs _)]

/-- Bytes that are stored are reported as the bytes they are. -/
theorem registry_storeBytes (hs : ∀ r, (bus.entry r).Settled) {x : (UInt32 × UInt32) × UInt32}
    (hw : InWord x.1.1 x.1.2) (p : Backplane R W) :
    (bus.storeBytes p x).registry = bus.told .write x.1.1 x.1.2 p.registry := by
  rcases lanes_laneMask hw.1 hw.2 with ⟨hfirst, hcount⟩
  rw [storeBytes, writeWord_eq (aligned_word x.1.1) (hs _), hfirst, hcount, alignWord_add_lane,
    UInt32.ofNat_toNat]

theorem registry_foldl_storeBytes (hs : ∀ r, (bus.entry r).Settled)
    {stores : List (UInt32 × UInt32)} (hw : ∀ x ∈ stores, InWord x.1 x.2)
    {values : List UInt32} (hlen : values.length = stores.length) (p : Backplane R W) :
    ((stores.zip values).foldl bus.storeBytes p).registry =
      stores.foldl (fun registry x => bus.told .write x.1 x.2 registry) p.registry := by
  induction stores generalizing values p with
  | nil => rfl
  | cons x stores ih =>
      cases values with
      | nil => cases hlen
      | cons value values =>
          rw [List.zip_cons_cons, List.foldl_cons, List.foldl_cons,
            ih (fun y hy => hw y (List.mem_cons_of_mem x hy)) (Nat.succ.inj hlen),
            registry_storeBytes hs (hw x List.mem_cons_self)]

/-- A store of any width reports the bytes that it replaces in each word. -/
theorem registry_write (hs : ∀ r, (bus.entry r).Settled) (width : Width) (a : UInt32)
    (value : UInt64) (p : Backplane R W) : (bus.write width a value p).registry =
      (width.stores a).foldl (fun registry x => bus.told .write x.1 x.2 registry) p.registry := by
  rcases bus.write_eq_stores width a value p with ⟨values, hlen, hwrite⟩
  rw [hwrite]
  exact registry_foldl_storeBytes hs (fun x hx => width.inWord_stores hx) hlen p

end Bus

end RegionBus

import RegionBus.Proofs.StandardMap.Locations

/-!
# Windows as Rules in Order

A memory map can be written down as rules that are tried one after the other. A rule tests
an address by a bound or by its high bits, and the first rule whose test holds says which
block the address leads to. Such rules may overlap. The one for the cartridge takes all
addresses from its base on, and leaves out the peripheral interface only because the rule
for that comes first.

The windows are ranges that do not overlap, with the cartridge cut in two. So there is
nothing the two forms have in common but the answer. To compare them, each test is turned
into a range: high bits that are fixed leave the low bits free, and that is a range if the
fixed bits are all above the free ones. Then both forms are tables over the parts of the
address space.

How long a block is does not matter to the choice of the rule. If the block of the first
rule ends too early, the address leads nowhere, and no later rule is tried.

## Main definitions

* `AddressTest`, `MapRule`: A test of an address, and a rule with such a test.
* `firstLocation?`: Where the first rule leads whose test holds.
* `priorityRules`: The memory map as rules.
* `locateByPriority?`: The byte that an address stands for by the rules.

## Theorems

* `and_mask_eq_iff`: Fixed high bits as a range.
* `firstLocation?_priorityRules`: The rules lead where the windows lead.
* `locate?_eq_locateByPriority?`: They find the same bytes, whatever the blocks are like.
* `windows_follow_priority`: They do so for main memory of any size.
-/

namespace RegionBus

/-- A test of an address. -/
inductive AddressTest where
  /-- It is not above the last one. -/
  | upTo (last : UInt32)
  /-- It is not below the first one. -/
  | from (first : UInt32)
  /-- It is neither below the first one nor above the last one. -/
  | between (first last : UInt32)
  /-- Its bits under a mask are those of a pattern. -/
  | masked (mask pattern : UInt32)
  deriving DecidableEq, Repr

/-- An address passes a test. -/
def AddressTest.Holds (a : UInt32) : AddressTest → Prop
  | .upTo last => a ≤ last
  | .from first => first ≤ a
  | .between first last => first ≤ a ∧ a ≤ last
  | .masked mask pattern => a &&& mask = pattern

instance (a : UInt32) : (test : AddressTest) → Decidable (test.Holds a)
  | .upTo last => inferInstanceAs (Decidable (a ≤ last))
  | .from first => inferInstanceAs (Decidable (first ≤ a))
  | .between first last => inferInstanceAs (Decidable (first ≤ a ∧ a ≤ last))
  | .masked mask pattern => inferInstanceAs (Decidable (a &&& mask = pattern))

/-- A rule of a memory map. -/
structure MapRule where
  /-- The test of an address. -/
  test : AddressTest
  /-- The block that an address leads to if it passes. -/
  block : BlockKind
  /-- The address from which on bytes are counted. -/
  start : UInt32
  /-- The position in the block that this address stands for. -/
  base : Nat
  deriving DecidableEq, Repr

/-- Where an address leads by a rule. -/
def MapRule.location (r : MapRule) (a : UInt32) : Location where
  block := r.block
  offset := a.toNat - r.start.toNat + r.base

/-- Where an address leads by the first rule whose test it passes. -/
def firstLocation? (a : UInt32) : List MapRule → Option Location
  | [] => none
  | r :: rules => if r.test.Holds a then some (r.location a) else firstLocation? a rules

/-- The memory map of the machine as rules, the first one of which counts. -/
def priorityRules : List MapRule := [
  ⟨.upTo 0x03EFFFFF, .dram, 0x00000000, 0⟩,
  ⟨.masked 0xFFF00000 0x1FC00000, .pifMem, 0x1FC00000, 0⟩,
  ⟨.from 0x10000000, .cartRom, 0x10000000, 0⟩,
  ⟨.masked 0xFE000000 0x06000000, .ddRom, 0x06000000, 0⟩,
  ⟨.masked 0xFFFFE000 0x04000000, .rspMem, 0x04000000, 0⟩,
  ⟨.between 0x08000000 0x0FFFFFFF, .dram, 0x08000000, 0x03F00000⟩]

/-- The byte that an address stands for by the first rule, if its block, whose length is
    given, reaches that far. -/
def locateByPriority? (size : BlockKind → Nat) (a : UInt32) : Option Location :=
  (firstLocation? a priorityRules).filter fun l => l.offset < size l.block

/-- Fixed high bits leave a range of addresses. -/
theorem and_mask_eq_iff {mask pattern : UInt32} (k : Nat) (hk : k ≤ 32)
    (hmask : mask.toNat = (2 ^ (32 - k) - 1) * 2 ^ k) (q : Nat)
    (hpattern : pattern.toNat = q * 2 ^ k) (a : UInt32) :
    a &&& mask = pattern ↔ pattern.toNat ≤ a.toNat ∧ a.toNat < pattern.toNat + 2 ^ k := by
  have hpos : 0 < 2 ^ k := Nat.two_pow_pos k
  rw [← UInt32.toNat_inj, UInt32.toNat_and, hmask, and_highMask a.toNat k a.toNat_lt hk, hpattern,
    Nat.mul_right_cancel_iff hpos, Nat.div_eq_iff hpos]
  omega

/-- The rules lead where the windows lead, for every address. -/
theorem firstLocation?_priorityRules (a : UInt32) :
    firstLocation? a priorityRules = Catalog.standard.resolve? a := by
  have ha := a.toNat_lt
  -- As a lemma of its own this would be checked by unfolding the numbers.
  have hzero : ∀ i : Nat, i + 0 = i := Nat.add_zero
  have hpif : a &&& 0xFFF00000 = 0x1FC00000 ↔ _ :=
    and_mask_eq_iff 20 (by decide) (by decide) 0x1FC (by decide) a
  have hdisk : a &&& 0xFE000000 = 0x06000000 ↔ _ :=
    and_mask_eq_iff 25 (by decide) (by decide) 0x3 (by decide) a
  have hrsp : a &&& 0xFFFFE000 = 0x04000000 ↔ _ :=
    and_mask_eq_iff 13 (by decide) (by decide) 0x2000 (by decide) a
  rw [Catalog.resolve?_standard]
  simp only [priorityRules, firstLocation?, AddressTest.Holds, MapRule.location, hpif, hdisk, hrsp,
    UInt32.le_iff_toNat_le, UInt32.reduceToNat, Nat.reducePow]
  generalize a.toNat = i at ha
  -- Each part of the address space is decided by one of the rules, or by none.
  rcases address_parts i with h | h | h | h | h | h | h | h | h | h
  all_goals simp (disch := omega) only [if_pos, if_neg, Nat.sub_zero, hzero]

/-- The rules find the bytes that the windows find, whatever the blocks are like. -/
theorem Store.locate?_eq_locateByPriority? (s : Store) (a : UInt32) :
    s.locate? a = locateByPriority? (fun k => (s.block k).size) a := by
  rw [locate?, locateByPriority?, firstLocation?_priorityRules]

/-- The rules find the bytes that the windows find, for main memory of any size. -/
theorem windows_follow_priority {s : Store} {n : Nat} (hs : s.Shaped n) (a : UInt32) :
    s.locate? a = locateByPriority? (BlockKind.sizeWith n) a := by
  have hsize : (fun k => (s.block k).size) = BlockKind.sizeWith n := funext hs
  rw [s.locate?_eq_locateByPriority?, hsize]

/-- In a store from the host, the rules find main memory behind its register block, the
    cartridge on one side of the peripheral interface and nothing on the other, and
    nothing where a block ends inside the range of its rule. -/
theorem windows_follow_priority_gaps : ∃ s, Store.createOnHost 0x04000000 = .ok s ∧
    s.Shaped 0x04000000 ∧
    s.locate? 0x080FFFFF = some ⟨.dram, 0x03FFFFFF⟩ ∧ s.locate? 0x08100000 = none ∧
    s.locate? 0x1FBFFFFF = some ⟨.cartRom, 0x0FBFFFFF⟩ ∧ s.locate? 0x1FD00000 = none ∧
    s.locate? 0x1FC007FF = some ⟨.pifMem, 0x7FF⟩ ∧ s.locate? 0x1FC00800 = none := by
  have hcreated : ∃ s, Store.createOnHost 0x04000000 = .ok s ∧ s.Shaped 0x04000000 :=
    ⟨_, rfl, fun k => by cases k <;> rfl⟩
  rcases hcreated with ⟨s, hs, hshape⟩
  refine ⟨s, hs, hshape, ?_⟩
  simp only [windows_follow_priority hshape]
  decide

end RegionBus

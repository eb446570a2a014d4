import RegionBus.Proofs.Device.Positions
import RegionBus.Proofs.StandardMap.Layout
import RegionBus.Proofs.Store.Words

/-!
# Where the Standard Map Leads

Two maps lead from addresses to raw memory. Tools go through the windows of the
catalog, and the bus goes through the devices of the standard map. They were made
for different purposes: the windows lead to single bytes and never repeat a
block, while the devices take whole regions and repeat the small blocks
throughout them.

`folded` is all that stands between the two. It takes an address in a copy of a
small block to the same byte of the first copy. `locate?_folded` says that the
devices find at an address what the windows find at the folded one, for every
address and every size of main memory. Both sides are tables over the address
space once the windows are brought into the order of their addresses, and so they
are compared part by part.

## Main definitions

* `folded`: An address with the copies of the small blocks taken together.
* `Handler.location?`: Where in raw memory a handler leads.
* `Handler.BuiltIn`: A handler is part of the machine itself.

## Theorems

* `Catalog.resolve?_standard`: The windows as a table of addresses.
* `locate?_folded`: Both maps lead to the same place.
* `folded_of_locate?`: What the windows find is never in a copy.
* `wordStart_folded`: The copies keep words whole.
-/

namespace RegionBus

variable {X : Type}

/-- An address with the copies of the signal processor's memory, and those of the
    peripheral interface's block, taken together in the first one. -/
def folded (a : UInt32) : UInt32 :=
  if 0x04000000 ≤ a ∧ a ≤ 0x0400FFFF then 0x04000000 ||| (a &&& 0x1FFF)
  else if 0x1FC00000 ≤ a ∧ a ≤ 0x1FCFFFFF then 0x1FC00000 ||| (a &&& 0x7FF)
  else a

theorem toNat_and_mask (a m : UInt32) (k : Nat) (hm : m.toNat = 2 ^ k - 1) :
    (a &&& m).toNat = a.toNat % 2 ^ k := by
  rw [UInt32.toNat_and, hm, Nat.and_two_pow_sub_one_eq_mod]

/-- A number below all bits of another one is added by joining the bits. -/
theorem toNat_or_of_lt {a b : UInt32} (k q : Nat) (ha : a.toNat = 2 ^ k * q)
    (hb : b.toNat < 2 ^ k) : (a ||| b).toNat = a.toNat + b.toNat := by
  rw [UInt32.toNat_or, ha, Nat.two_pow_add_eq_or_of_lt hb]

theorem toNat_folded (a : UInt32) : (folded a).toNat =
    if 0x04000000 ≤ a.toNat ∧ a.toNat ≤ 0x0400FFFF then 0x04000000 + a.toNat % 0x2000
    else if 0x1FC00000 ≤ a.toNat ∧ a.toNat ≤ 0x1FCFFFFF then 0x1FC00000 + a.toNat % 0x800
    else a.toNat := by
  have hrsp := toNat_and_mask a 0x1FFF 13 rfl
  have hpif := toNat_and_mask a 0x7FF 11 rfl
  simp only [Nat.reducePow] at hrsp hpif
  simp only [folded, UInt32.le_iff_toNat_le, UInt32.reduceToNat]
  split
  · rw [toNat_or_of_lt 13 0x2000 rfl (by rw [hrsp]; omega), hrsp]
    rfl
  · split
    · rw [toNat_or_of_lt 11 0x3F800 rfl (by rw [hpif]; omega), hpif]
      rfl
    · rfl

namespace Catalog

/-- One more window in front of others, for a window that leads to the first 4 GiB
    of its block. -/
theorem resolve?_cons {w : Window} (hbase : w.base.toNat < 2 ^ 32) (windows : List Window)
    (a : UInt32) : resolve? ⟨w :: windows⟩ a =
      if w.first.toNat ≤ a.toNat ∧ a.toNat ≤ w.last.toNat then
        some ⟨w.block, w.base.toNat + (a.toNat - w.first.toNat)⟩
      else resolve? ⟨windows⟩ a := by
  have hcontains : w.contains a = true ↔ w.first.toNat ≤ a.toNat ∧ a.toNat ≤ w.last.toNat := by
    simp only [Window.contains, Bool.and_eq_true, decide_eq_true_eq, UInt32.le_iff_toNat_le]
  rw [resolve?, windowFor?, List.find?_cons]
  by_cases h : w.contains a = true
  · have hlt := a.toNat_lt
    have hin := hcontains.mp h
    have hoffset : (w.base + (a - w.first).toUInt64).toNat =
        w.base.toNat + (a.toNat - w.first.toNat) := by
      rw [UInt64.toNat_add, UInt32.toNat_toUInt64,
        UInt32.toNat_sub_of_le _ _ (UInt32.le_iff_toNat_le.mpr hin.1)]
      omega
    rw [h, if_pos hin, ← hoffset]
    rfl
  · rw [(Bool.not_eq_true _).mp h, if_neg fun hin => h (hcontains.mpr hin)]
    rfl

/-- The standard windows as a table of addresses. -/
theorem resolve?_standard (a : UInt32) : standard.resolve? a =
    if a.toNat < 0x03F00000 then some ⟨.dram, a.toNat⟩
    else if a.toNat < 0x04000000 then none
    else if a.toNat < 0x04002000 then some ⟨.rspMem, a.toNat - 0x04000000⟩
    else if a.toNat < 0x06000000 then none
    else if a.toNat < 0x08000000 then some ⟨.ddRom, a.toNat - 0x06000000⟩
    else if a.toNat < 0x10000000 then some ⟨.dram, a.toNat - 0x08000000 + 0x03F00000⟩
    else if a.toNat < 0x1FC00000 then some ⟨.cartRom, a.toNat - 0x10000000⟩
    else if a.toNat < 0x1FD00000 then some ⟨.pifMem, a.toNat - 0x1FC00000⟩
    else some ⟨.cartRom, a.toNat - 0x10000000⟩ := by
  have ha := a.toNat_lt
  have hnone : resolve? ⟨[]⟩ a = none := rfl
  rw [standard, standardWindows]
  repeat rw [resolve?_cons (by decide)]
  simp only [hnone, dramBase,
    dramRegsBase, rspMemBase, ddRomBase, highDramBase, cartRomBase, pifMemBase, abovePifBase,
    UInt32.reduceAdd, UInt32.reduceSub, UInt32.reduceToNat, UInt32.toNat_toUInt64,
    UInt64.toNat_zero, Nat.zero_add]
  generalize a.toNat = i at ha
  rcases address_parts i with h | h | h | h | h | h | h | h | h | h
  all_goals simp (disch := omega) only [if_pos, if_neg, Nat.sub_zero]
  · rw [Nat.add_comm]
  · -- The window above the peripheral interface continues the one below it.
    have hoffset : 0x0FD00000 + (i - 0x1FD00000) = i - 0x10000000 := by omega
    rw [hoffset]

end Catalog

/-- Where in raw memory a device leads. -/
def Device.location? (a : UInt32) : Device X → Option Location
  | ram d => some ⟨d.block, d.position a⟩
  | rom d => some ⟨d.block, d.position a⟩
  | attached _ => none

/-- Where in raw memory a handler leads. -/
def Handler.location? (a : UInt32) : Handler (Device X) → Option Location
  | device d => d.location? a
  | openBus | debug => none

/-- A handler is part of the machine itself: raw memory whose positions do not
    overflow, or nobody. -/
def Handler.BuiltIn : Handler (Device X) → Prop
  | device (.ram d) => d.Roomy
  | openBus | device (.rom _) => True
  | device (.attached _) | debug => False

theorem roomy_lowDram : lowDram.Roomy := by
  decide

theorem roomy_highDram : highDram.Roomy := by
  decide

theorem roomy_rspMemory : rspMemory.Roomy := by
  decide

theorem roomy_pifMemory : pifMemory.Roomy := by
  decide

theorem builtIn_standardHandler (n : Nat) (a : UInt32) :
    (standardHandler (X := X) n a).BuiltIn := by
  unfold standardHandler
  repeat' split
  all_goals first
    | exact trivial
    | exact roomy_lowDram
    | exact roomy_highDram
    | exact roomy_rspMemory
    | exact roomy_pifMemory

/-- The distance of an address, as far as a row of low bits counts, behind the start. -/
theorem RamDevice.position_of_mask {d : RamDevice} {k : Nat}
    (hmask : d.distanceMask.toNat = 2 ^ k - 1) (a : UInt32) :
    d.position a = d.start.toNat + (a - d.base).toNat % 2 ^ k := by
  rw [position, toNat_and_mask _ _ k hmask]

section Positions

variable (a : UInt32)

theorem position_lowDram : lowDram.position a = a.toNat := by
  have ha := a.toNat_lt
  have hstart : lowDram.start.toNat = 0 := rfl
  have hbase : lowDram.base.toNat = 0 := rfl
  rw [RamDevice.position_of_mask (k := 32) rfl, UInt32.toNat_sub, hstart, hbase]
  omega

theorem position_highDram (h : 0x08000000 ≤ a.toNat) :
    highDram.position a = a.toNat - 0x08000000 + 0x03F00000 := by
  have ha := a.toNat_lt
  have hstart : highDram.start.toNat = 0x03F00000 := rfl
  have hbase : highDram.base.toNat = 0x08000000 := rfl
  rw [RamDevice.position_of_mask (k := 32) rfl, UInt32.toNat_sub, hstart, hbase]
  omega

theorem position_rspMemory : rspMemory.position a = a.toNat % 0x2000 := by
  have ha := a.toNat_lt
  have hstart : rspMemory.start.toNat = 0 := rfl
  have hbase : rspMemory.base.toNat = 0x04000000 := rfl
  rw [RamDevice.position_of_mask (k := 13) rfl, UInt32.toNat_sub, hstart, hbase]
  omega

theorem position_pifMemory : pifMemory.position a = a.toNat % 0x800 := by
  have ha := a.toNat_lt
  have hstart : pifMemory.start.toNat = 0 := rfl
  have hbase : pifMemory.base.toNat = 0x1FC00000 := rfl
  rw [RamDevice.position_of_mask (k := 11) rfl, UInt32.toNat_sub, hstart, hbase]
  omega

theorem position_diskImage (h : 0x06000000 ≤ a.toNat) :
    diskImage.position a = a.toNat - 0x06000000 :=
  UInt32.toNat_sub_of_le a ddRomBase (UInt32.le_iff_toNat_le.mpr h)

theorem position_cartridge (h : 0x10000000 ≤ a.toNat) :
    cartridge.position a = a.toNat - 0x10000000 :=
  UInt32.toNat_sub_of_le a cartRomBase (UInt32.le_iff_toNat_le.mpr h)

end Positions

/-- An offset behind the end of its block is a miss. -/
theorem Store.filter_location {s : Store} {l : Location} (h : (s.block l.block).size ≤ l.offset) :
    (some l).filter (fun l => l.offset < (s.block l.block).size) = none := by
  rw [Option.filter_some, if_neg]
  rw [decide_eq_true_eq]
  omega

/-- The devices find at an address what the windows find at the folded address. -/
theorem locate?_folded {n : Nat} {s : Store} (hs : s.Shaped n) (a : UInt32) :
    s.locate? (folded a) = ((standardHandler (X := X) n a).location? a).filter
      fun l => l.offset < (s.block l.block).size := by
  have hlt := a.toNat_lt
  have hfold := toNat_folded a
  have hdram : (s.block .dram).size = n := hs .dram
  have hcart : (s.block .cartRom).size = 0x0FC00000 := hs .cartRom
  rw [Store.locate?, Catalog.resolve?_standard]
  rcases address_parts a.toNat with h | h | h | h | h | h | h | h | h | h
  all_goals
    simp (disch := omega) only [if_pos, if_neg] at hfold
    simp (disch := omega) only [hfold, standardHandler, if_pos, if_neg]
  · by_cases hin : a.toNat < n
    · rw [if_pos hin, Handler.location?, Device.location?, position_lowDram]
      rfl
    · -- Main memory ends here, and nothing is mapped behind it.
      rw [if_neg hin, Store.filter_location (by rw [hdram]; exact Nat.le_of_not_lt hin)]
      rfl
  · rfl
  -- The signal processor's memory, and the copies of it.
  iterate 2
    · rw [Handler.location?, Device.location?, position_rspMemory, Nat.add_sub_cancel_left]
      rfl
  · rfl
  · rw [Handler.location?, Device.location?, position_diskImage a h.1]
    rfl
  · by_cases hin : a.toNat - 0x08000000 + 0x03F00000 < n
    · rw [if_pos hin, Handler.location?, Device.location?, position_highDram a h.1]
      rfl
    · rw [if_neg hin, Store.filter_location (by rw [hdram]; exact Nat.le_of_not_lt hin)]
      rfl
  · rw [Handler.location?, Device.location?, position_cartridge a h.1]
    rfl
  · rw [Handler.location?, Device.location?, position_pifMemory, Nat.add_sub_cancel_left]
    rfl
  · -- The window above the peripheral interface begins behind the end of its block.
    have hbehind : 0x0FC00000 ≤ a.toNat - 0x10000000 := by omega
    rw [Store.filter_location (by rw [hcart]; exact hbehind)]
    rfl

/-- A word and the first copy of it. -/
theorem wordStart_folded (a : UInt32) :
    Store.wordStart (folded a) = folded (Store.wordStart a) := by
  rw [← UInt32.toNat_inj, Store.wordStart, Store.wordStart, toNat_alignWord, toNat_folded,
    toNat_folded, toNat_alignWord]
  rcases address_parts a.toNat with h | h | h | h | h | h | h | h | h | h
  all_goals simp (disch := omega) only [if_pos, if_neg]
  all_goals omega

end RegionBus

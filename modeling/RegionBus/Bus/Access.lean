import RegionBus.Bus.Basic
import RegionBus.Word

/-!
# Accesses

The bus moves whole words; an access of another width is made of those. The
most significant byte of a word has the lowest address. A load or store of one
or two bytes picks its lane of the word and masks the others. One of eight bytes
takes two words, the one with the lower address first. Addresses are rounded
down to a multiple of the width.

An access goes to the live handler of its region. The debug handler takes note
of an access of a kind that is watched and then passes it on to the saved
handler, so that breakpoints never change what an access does. It reports a
store by the bytes its mask enables: from the first enabled lane on, as many
bytes as the mask has bits for, and at least one.

Addresses and shifts are computed with words. An access that would need more than
a word for one of them cannot be completed, and neither can one that the debug
handler would have to pass on to itself.

An access leaves the bus itself as it was. What it can change is the `Backplane`:
the registry, which takes note of it, and the state of the devices.

## Main definitions

* `Backplane`: What an access can change.
* `Backplane.fail`: What becomes of it if the access cannot be completed.
* `Target`: Where an access ends.
* `laneShift?`, `laned?`: A value moved to its lane of the word.
* `Bus.readWord`, `Bus.writeWord`: One word moved.
* `Width`: How many bytes an access moves.
* `Bus.read8` to `Bus.write64`, `Bus.writeMasked`: Accesses of each width.
* `Bus.read`, `Bus.write`: An access of a width given as a value.
-/

namespace RegionBus

/-- What an access can change: the registry of breakpoints, if there is one, and
    the state of the devices. -/
structure Backplane (R W : Type) where
  /-- The registry that takes note of accesses. -/
  registry : Option R
  /-- The state of the devices. -/
  devices : W

/-- What an access can change, after an access that could not be completed. The type
    `D` of the devices says what their state is then. -/
def Backplane.fail {R W : Type} (D : Type) [DeviceBank D W] (p : Backplane R W) :
    Backplane R W :=
  match p with
  | ⟨registry, devices⟩ => ⟨registry, DeviceBank.fail (D := D) devices⟩

/-- Where an access ends. -/
inductive Target (D : Type) where
  /-- At no device. -/
  | openBus
  /-- At a device. -/
  | device (d : D)
  /-- At a debug handler that has nothing to pass the access on to. -/
  | unsaved
  /-- At a debug handler that would pass the access on to itself. -/
  | circular
  deriving DecidableEq, Repr

/-- Where an access ends that is passed on by the debug handler. -/
def RegionEntry.forwarded {D : Type} (e : RegionEntry D) : Target D :=
  match e.saved with
  | some (.device d) => .device d
  | some .openBus => .openBus
  | some .debug => .circular
  | none => .unsaved

namespace Target

variable {D W : Type} [DeviceBank D W]

/-- The word read where an access ends: zero unless a device answers. A handler
    cannot be entered once more while it is at work. -/
def read (t : Target D) (a : UInt32) (w : W) : UInt32 × W :=
  match t with
  | device d => DeviceBank.read d a w
  | openBus | unsaved => (0, w)
  | circular => (0, DeviceBank.fail (D := D) w)

/-- The state of the devices after a write: only a device takes it. -/
def write (t : Target D) (a value mask : UInt32) (w : W) : W :=
  match t with
  | device d => DeviceBank.write d a value mask w
  | openBus | unsaved => w
  | circular => DeviceBank.fail (D := D) w

end Target

/-- The position of the highest bit of a mask, counted from the top, or 32. -/
def leadingZeros (mask : UInt32) : Nat :=
  ((List.range 32).find? fun i => mask.toNat.testBit (31 - i)).getD 32

/-- The number of bits in a mask. -/
def bitCount (mask : UInt32) : Nat :=
  (List.range 32).countP fun i => mask.toNat.testBit i

/-- The first byte of a word that a mask enables, the last one for an empty mask. -/
def firstLane (mask : UInt32) : UInt32 :=
  UInt32.ofNat (min (leadingZeros mask / 8) 3)

/-- The number of bytes that a mask has bits for, at least one. -/
def laneCount (mask : UInt32) : UInt32 :=
  UInt32.ofNat (max (bitCount mask / 8) 1)

/-- How far a lane lies above the lowest one, in bits. -/
def laneShift? (lowest lane : UInt32) : Option UInt32 := do
  let lanes ← Word.sub? lowest lane
  Word.mul? lanes 8

/-- A value and its mask, moved up to a lane of the word. -/
def laned? (value mask lowest lane : UInt32) : Option (UInt32 × UInt32) := do
  let shift ← laneShift? lowest lane
  let value ← Word.shiftLeft? value shift
  let mask ← Word.shiftLeft? mask shift
  return (value, mask)

/-- How many bytes an access moves. -/
inductive Width where
  | byte
  | half
  | word
  | double
  deriving DecidableEq, Repr

/-- The number of bytes of a width. -/
def Width.bytes : Width → Nat
  | byte => 1
  | half => 2
  | word => 4
  | double => 8

namespace Bus

variable {D R W : Type} [DeviceBank D W] [Registry R]

/-- The backplane after the debug handler saw an access. The registry is told if
    the region of the address watches this kind of access. -/
def note (bus : Bus D) (k : AccessKind) (a size : UInt32) (p : Backplane R W) :
    Backplane R W :=
  if (bus.entryAt a).checks.has k then
    match p with
    | ⟨some registry, devices⟩ =>
      ⟨some (Registry.report registry (bus.lastPc - 4) a size k.watched), devices⟩
    | ⟨none, devices⟩ => ⟨none, devices⟩
  else
    p

/-- One word read. -/
def readWord (bus : Bus D) (a : UInt32) (p : Backplane R W) : UInt32 × Backplane R W :=
  let finish (t : Target D) (p : Backplane R W) :=
    match p with
    | ⟨registry, devices⟩ =>
      let (value, devices) := t.read a devices
      (value, ⟨registry, devices⟩)
  match (bus.entryAt a).live with
  | .openBus => (0, p)
  | .device d => finish (.device d) p
  | .debug => finish (bus.entryAt a).forwarded (bus.note .read a 4 p)

/-- One word written under a mask. -/
def writeWord (bus : Bus D) (a value mask : UInt32) (p : Backplane R W) : Backplane R W :=
  let finish (t : Target D) (p : Backplane R W) : Backplane R W :=
    match p with
    | ⟨registry, devices⟩ => ⟨registry, t.write a value mask devices⟩
  match (bus.entryAt a).live with
  | .openBus => p
  | .device d => finish (.device d) p
  | .debug =>
    -- The access is reported by its first enabled byte and passed on unchanged.
    match Word.add? a (firstLane mask) with
    | some first =>
      finish (bus.entryAt first).forwarded (bus.note .write first (laneCount mask) p)
    | none => p.fail D

/-- One byte read. -/
def read8 (bus : Bus D) (a : UInt32) (p : Backplane R W) : UInt8 × Backplane R W :=
  match laneShift? 3 (a &&& 3) with
  | some shift =>
    let (word, p) := bus.readWord (a &&& ~~~3) p
    match Word.shiftRight? word shift with
    | some word => (word.toUInt8, p)
    | none => (0, p.fail D)
  | none => (0, p.fail D)

/-- Two bytes read. -/
def read16 (bus : Bus D) (a : UInt32) (p : Backplane R W) : UInt16 × Backplane R W :=
  match laneShift? 2 (a &&& 2) with
  | some shift =>
    let (word, p) := bus.readWord (a &&& ~~~3) p
    match Word.shiftRight? word shift with
    | some word => (word.toUInt16, p)
    | none => (0, p.fail D)
  | none => (0, p.fail D)

/-- Four bytes read. -/
def read32 (bus : Bus D) (a : UInt32) (p : Backplane R W) : UInt32 × Backplane R W :=
  bus.readWord (a &&& ~~~3) p

/-- Eight bytes read. -/
def read64 (bus : Bus D) (a : UInt32) (p : Backplane R W) : UInt64 × Backplane R W :=
  let a := a &&& ~~~7
  let (high, p) := bus.readWord a p
  match Word.add? a 4 with
  | some second =>
    let (low, p) := bus.readWord second p
    (high.toUInt64 <<< 32 ||| low.toUInt64, p)
  | none => (0, p.fail D)

/-- Four bytes written under a mask. -/
def writeMasked (bus : Bus D) (a value mask : UInt32) (p : Backplane R W) : Backplane R W :=
  bus.writeWord (a &&& ~~~3) value mask p

/-- One byte written. -/
def write8 (bus : Bus D) (a : UInt32) (value : UInt8) (p : Backplane R W) : Backplane R W :=
  match laned? value.toUInt32 0xFF 3 (a &&& 3) with
  | some (value, mask) => bus.writeMasked a value mask p
  | none => p.fail D

/-- Two bytes written. -/
def write16 (bus : Bus D) (a : UInt32) (value : UInt16) (p : Backplane R W) : Backplane R W :=
  match laned? value.toUInt32 0xFFFF 2 (a &&& 2) with
  | some (value, mask) => bus.writeMasked a value mask p
  | none => p.fail D

/-- Four bytes written. -/
def write32 (bus : Bus D) (a value : UInt32) (p : Backplane R W) : Backplane R W :=
  bus.writeMasked a value 0xFFFFFFFF p

/-- Eight bytes written. -/
def write64 (bus : Bus D) (a : UInt32) (value : UInt64) (p : Backplane R W) :
    Backplane R W :=
  let a := a &&& ~~~7
  let p := bus.writeMasked a (value >>> 32).toUInt32 0xFFFFFFFF p
  match Word.add? a 4 with
  | some second => bus.writeMasked second value.toUInt32 0xFFFFFFFF p
  | none => p.fail D

/-- A value of the given width read. -/
def read (bus : Bus D) (width : Width) (a : UInt32) (p : Backplane R W) :
    UInt64 × Backplane R W :=
  match width with
  | .byte => let (v, p) := bus.read8 a p; (v.toUInt64, p)
  | .half => let (v, p) := bus.read16 a p; (v.toUInt64, p)
  | .word => let (v, p) := bus.read32 a p; (v.toUInt64, p)
  | .double => bus.read64 a p

/-- The low bytes of a value written, as many as the width has. -/
def write (bus : Bus D) (width : Width) (a : UInt32) (value : UInt64) (p : Backplane R W) :
    Backplane R W :=
  match width with
  | .byte => bus.write8 a value.toUInt8 p
  | .half => bus.write16 a value.toUInt16 p
  | .word => bus.write32 a value.toUInt32 p
  | .double => bus.write64 a value p

end Bus

end RegionBus

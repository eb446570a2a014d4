import RegionBus.Device.Bank
import RegionBus.Store

/-!
# Memory Devices

Devices that serve raw memory: `RamDevice` reads and writes a block, `RomDevice`
only reads one. Both turn an address into a position of the block by taking the
distance from a base address. A `RamDevice` can also start at a later position,
repeat a part of its block throughout its range, and protect the start of the
block against writes. Outside of the block reads give zero and writes are lost.

A position is a number of 64 bits. The distance wraps around, but the sum of the
distance and the start must not: an access whose position is too large cannot be
completed.

Other devices, such as the register files of a video or audio chip, come from
outside. They are attached under a type `X` and keep their state in a type `A`;
`AttachedDevice X A` says how they behave.

## Main definitions

* `Parts`: The raw memory and the state of attached devices.
* `Hardware`: The parts, and whether an access could not be completed.
* `RamDevice`, `RomDevice`: Memory behind the bus.
* `RamDevice.position?`: The position that an address stands for.
* `AttachedDevice`: Devices from outside.
* `Device`: Any of these.
-/

namespace RegionBus

/-- What devices from outside work on: the raw memory, and their own state. -/
structure Parts (A : Type) where
  /-- The raw memory. -/
  store : Store
  /-- The state of attached devices. -/
  attached : A

/-- What the devices of a machine work on. -/
structure Hardware (A : Type) extends Parts A where
  /-- An access could not be completed. -/
  failed : Bool := false

namespace Hardware

variable {A : Type}

/-- The hardware before any access. -/
def ofStore (store : Store) (attached : A) : Hardware A where
  store := store
  attached := attached

/-- The hardware after an access that could not be completed. -/
def fail (h : Hardware A) : Hardware A :=
  { h with failed := true }

end Hardware

/-- Memory that can be read and written. -/
structure RamDevice where
  /-- The name in reports. -/
  name : String
  /-- The block behind the device. -/
  block : BlockKind
  /-- The address that stands for the start of the memory. -/
  base : UInt32
  /-- Where in the block the memory starts. -/
  start : UInt64 := 0
  /-- The bits of the distance from `base` that choose a byte. -/
  distanceMask : UInt32 := 0xFFFFFFFF
  /-- Writes to positions of the block below this one are lost. -/
  readOnlyBelow : UInt64 := 0
  deriving DecidableEq, Repr

/-- Memory that can only be read. -/
structure RomDevice where
  /-- The name in reports. -/
  name : String
  /-- The block behind the device. -/
  block : BlockKind
  /-- The address that stands for the start of the block. -/
  base : UInt32
  deriving DecidableEq, Repr

/-- The position in the block that an address stands for, however large it is. -/
def RamDevice.position (d : RamDevice) (a : UInt32) : Nat :=
  d.start.toNat + ((a - d.base) &&& d.distanceMask).toNat

/-- The position in the block that an address stands for, if 64 bits can hold it. -/
def RamDevice.position? (d : RamDevice) (a : UInt32) : Option Nat :=
  if d.position a < 0x10000000000000000 then some (d.position a) else none

/-- The position in the block that an address stands for. -/
def RomDevice.position (d : RomDevice) (a : UInt32) : Nat :=
  (a - d.base).toNat

/-- The word of a block, or zero outside of it. -/
def Store.wordOrZero (s : Store) (k : BlockKind) (position : Nat) : UInt32 :=
  ((s.block k).readWord? position).getD 0

/-- The store with a word of a block written under a mask, or unchanged if the
    word lies outside of the block. -/
def Store.writeWordOrDrop (s : Store) (k : BlockKind) (position : Nat) (value mask : UInt32) :
    Store :=
  s.updateBlock k fun b => b.writeWordOrDrop position value mask

namespace RamDevice

variable {A : Type}

/-- The word at an address. -/
def read (d : RamDevice) (a : UInt32) (h : Hardware A) : UInt32 × Hardware A :=
  match d.position? a with
  | some position => (h.store.wordOrZero d.block position, h)
  | none => (0, h.fail)

/-- The hardware after a write to an address. -/
def write (d : RamDevice) (a value mask : UInt32) (h : Hardware A) : Hardware A :=
  match d.position? a with
  | some position =>
    if position < d.readOnlyBelow.toNat then h
    else { h with store := h.store.writeWordOrDrop d.block position value mask }
  | none => h.fail

end RamDevice

/-- The word at an address. -/
def RomDevice.read (d : RomDevice) (s : Store) (a : UInt32) : UInt32 :=
  s.wordOrZero d.block (d.position a)

/-- Devices from outside, named by `X`, with a state of type `A` of their own.
    They reach the raw memory as well. -/
class AttachedDevice (X : Type) (A : outParam Type) where
  /-- The name of a device in reports. -/
  name : X → String := fun _ => unnamed
  /-- The word at an address. Reading may change the state. -/
  read : X → (address : UInt32) → Parts A → UInt32 × Parts A
  /-- The state after a word was written under a mask. -/
  write : X → (address value mask : UInt32) → Parts A → Parts A

/-- A machine to which nothing is attached. -/
instance : AttachedDevice Empty Unit where
  name d := nomatch d
  read d := nomatch d
  write d := nomatch d

/-- The devices of a machine. -/
inductive Device (X : Type) where
  /-- Memory that can be read and written. -/
  | ram (d : RamDevice)
  /-- Memory that can only be read. -/
  | rom (d : RomDevice)
  /-- A device from outside. -/
  | attached (d : X)
  deriving DecidableEq, Repr

namespace Device

variable {X A : Type} [AttachedDevice X A]

/-- The name of a device in reports. -/
def name : Device X → String
  | ram d => d.name
  | rom d => d.name
  | attached d => AttachedDevice.name d

/-- The word a device gives for an address. -/
def read (d : Device X) (a : UInt32) (h : Hardware A) : UInt32 × Hardware A :=
  match d with
  | ram d => d.read a h
  | rom d => (d.read h.store a, h)
  | attached d =>
    match h with
    | ⟨parts, failed⟩ =>
      let (value, parts) := AttachedDevice.read d a parts
      (value, ⟨parts, failed⟩)

/-- The hardware after a device took a word for an address. -/
def write (d : Device X) (a value mask : UInt32) (h : Hardware A) : Hardware A :=
  match d with
  | ram d => d.write a value mask h
  | rom _ => h
  | attached d =>
    match h with
    | ⟨parts, failed⟩ => ⟨AttachedDevice.write d a value mask parts, failed⟩

instance : DeviceBank (Device X) (Hardware A) where
  name := name
  read := read
  write := write
  fail := Hardware.fail

end Device

end RegionBus

/-!
# Devices Behind the Bus

A device answers reads and writes of whole words. A write carries a mask, and
only the bits in the mask may change, so a store of one byte needs no read
first. The addresses handed to a device are full physical addresses.

`DeviceBank D W` says that the devices in `D` work on a shared state of type
`W`. The bus is written against this class alone and knows no particular
device. An access that cannot be completed ends the program. The state keeps
that, and no answer given after it counts.

A region is served by a `Handler`: one of the devices, the open bus, or the
debug handler that a breakpoint layer puts in front of a device.

## Main definitions

* `DeviceBank`: Devices over a state.
* `Handler`: Who serves a region.
* `Handler.name`: The name of a handler in reports.
-/

namespace RegionBus

/-- The name in reports of a device that has none of its own. -/
def unnamed : String := "unnamed handler"

/-- Devices, named by `D`, that work on a state of type `W`. -/
class DeviceBank (D : Type) (W : outParam Type) where
  /-- The name of a device in reports. -/
  name : D → String := fun _ => unnamed
  /-- The word at an address. Reading may change the state. -/
  read : D → (address : UInt32) → W → UInt32 × W
  /-- The state after a word was written under a mask. -/
  write : D → (address value mask : UInt32) → W → W
  /-- The state after an access that could not be completed. -/
  fail : W → W

/-- Who serves the accesses to a region. -/
inductive Handler (D : Type) where
  /-- No device: reads give zero and writes are lost. -/
  | openBus
  /-- A device. -/
  | device (d : D)
  /-- The breakpoint layer, which reports an access and passes it on. -/
  | debug
  deriving DecidableEq, Repr

namespace Handler

variable {D W : Type}

/-- The name of a handler in reports. -/
def name [DeviceBank D W] : Handler D → String
  | openBus => "open bus"
  | device d => DeviceBank.name d
  | debug => "debug handler"

/-- Whether a handler is the breakpoint layer's. -/
def isDebug : Handler D → Bool
  | debug => true
  | openBus | device _ => false

end Handler

end RegionBus

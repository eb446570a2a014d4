import RegionBus.Device.Bank
import RegionBus.Device.Kind
import RegionBus.Error
import RegionBus.Region
import RegionBus.Text.Quoted

/-!
# Mappings

A mapping attaches a handler to a range of addresses, given by the first and the
last one. It covers whole regions: every region that contains an address of the
range, even if the range begins or ends inside of it.

## Main definitions

* `Mapping`: A range, the kind of device, and its handler.
* `Mapping.regions`: The first and last region covered.
* `Mapping.describe`: A mapping as text.
-/

namespace RegionBus

/-- A handler attached to a range of addresses. -/
structure Mapping (D : Type) where
  /-- The first address. -/
  first : UInt32
  /-- The last address. -/
  last : UInt32
  /-- The kind of device. -/
  kind : DeviceKind
  /-- Who serves the range. -/
  handler : Handler D
  deriving DecidableEq, Repr

namespace Mapping

variable {D W : Type}

/-- The first and the last region that a mapping covers. -/
def regions (m : Mapping D) : Except MemoryError (Region × Region) :=
  if m.last < m.first then .error (.invertedRange m.first m.last)
  else .ok (regionOf m.first, regionOf m.last)

/-- A mapping as text. -/
def describe [DeviceBank D W] (m : Mapping D) : String :=
  "MemMapping \x7b begin: " ++ Text.hexWord m.first ++ ", end: " ++ Text.hexWord m.last ++
    ", device_type: " ++ m.kind.name ++ ", handler: " ++ Text.quoted m.handler.name ++ " \x7d"

end Mapping

end RegionBus

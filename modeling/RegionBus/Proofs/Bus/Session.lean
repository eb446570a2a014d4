import RegionBus.Bus.Access

/-!
# Sessions with a Bus

A session is a bus in use: mappings come, breakpoints are set and cleared, words
are read and written, and the registry may become another one at any moment. A
step answers as far as its caller can see, so two sessions that answer alike
cannot be told apart through the bus.

To see what the devices are told as well, `Recorded` puts a recorder in front of
each device. A recorded device does what the device does and writes down the
call, with the device it was for, behind all calls before. The record is part of
the state of the devices, so nothing about the bus has to change for it.

## Main definitions

* `BusStep`: One step of a session.
* `Reply`: What a step answers.
* `Session`: A bus with what its accesses change.
* `BusStep.perform`, `Session.run`: A session after a step, and after some.
* `Recorded`: Devices whose calls are recorded.
-/

namespace RegionBus

variable {D R W : Type}

/-- One step of a session with a bus. -/
inductive BusStep (D R : Type) where
  /-- A mapping is installed. -/
  | apply (m : Mapping D)
  /-- A kind of access comes to be watched in the region of an address. -/
  | activate (k : AccessKind) (a : UInt32)
  /-- A kind of access is no longer watched in the region of an address. -/
  | deactivate (k : AccessKind) (a : UInt32)
  /-- A program counter is announced. -/
  | setLastPc (pc : UInt32)
  /-- The registry becomes another one. -/
  | exchange (registry : Option R)
  /-- A value of a width is read. -/
  | read (width : Width) (a : UInt32)
  /-- A value of a width is written. -/
  | write (width : Width) (a : UInt32) (value : UInt64)
  /-- A word is written under a mask. -/
  | writeMasked (a value mask : UInt32)

/-- A step does not map the debug handler. -/
def BusStep.Foreign : BusStep D R → Prop
  | apply m => m.handler.isDebug = false
  | _ => True

instance : (step : BusStep D R) → Decidable step.Foreign
  | .apply m => inferInstanceAs (Decidable (m.handler.isDebug = false))
  | .activate _ _ | .deactivate _ _ | .setLastPc _ | .exchange _ | .read _ _ | .write _ _ _
  | .writeMasked _ _ _ => .isTrue trivial

/-- What a step answers. -/
inductive Reply where
  /-- The step was taken. -/
  | done
  /-- The step was refused. -/
  | refused (e : MemoryError)
  /-- A value was read. -/
  | value (v : UInt64)
  deriving DecidableEq, Repr

/-- A bus in use, with the registry and the state of the devices. -/
structure Session (D R W : Type) where
  /-- The bus. -/
  bus : Bus D
  /-- What an access can change. -/
  plane : Backplane R W

/-- A session with a bus to which nothing is mapped. -/
def Session.start (intercepting : Bool) (registry : Option R) (devices : W) : Session D R W :=
  ⟨Bus.unmapped intercepting, ⟨registry, devices⟩⟩

variable [DeviceBank D W] [Registry R]

/-- The session after a step, with the answer. -/
def BusStep.perform (s : Session D R W) : BusStep D R → Reply × Session D R W
  | apply m =>
    match s.bus.apply s.plane.registry m with
    | .ok bus => (.done, { s with bus := bus })
    | .error e => (.refused e, s)
  | activate k a => (.done, { s with bus := s.bus.activate k a })
  | deactivate k a => (.done, { s with bus := s.bus.deactivate k a })
  | setLastPc pc => (.done, { s with bus := s.bus.setLastPc pc })
  | exchange registry => (.done, { s with plane := { s.plane with registry := registry } })
  | read width a => (.value (s.bus.read width a s.plane).1,
    { s with plane := (s.bus.read width a s.plane).2 })
  | write width a value => (.done, { s with plane := s.bus.write width a value s.plane })
  | writeMasked a value mask =>
    (.done, { s with plane := s.bus.writeMasked a value mask s.plane })

/-- The session after some steps, with the answers in order. -/
def Session.run (s : Session D R W) : List (BusStep D R) → List Reply × Session D R W
  | [] => ([], s)
  | step :: steps =>
    let (reply, s) := step.perform s
    let (replies, s) := s.run steps
    (reply :: replies, s)

/-- A device whose calls are recorded. -/
structure Recorded (D : Type) where
  /-- The device that is called. -/
  device : D
  deriving DecidableEq, Repr

/-- A call of a device. -/
inductive Call where
  /-- A word is read. -/
  | read (a : UInt32)
  /-- A word is written under a mask. -/
  | write (a value mask : UInt32)
  deriving DecidableEq, Repr

/-- The state of recorded devices: their own, and the calls so far, each with the
    device it was for. -/
structure Recording (D W : Type) where
  /-- The state of the devices. -/
  state : W
  /-- The calls, the oldest first. -/
  calls : List (D × Call)

/-- The recording before any call. -/
def Recording.start (state : W) : Recording D W :=
  ⟨state, []⟩

instance : DeviceBank (Recorded D) (Recording D W) where
  name d := DeviceBank.name d.device
  read d a w :=
    let (value, state) := DeviceBank.read d.device a w.state
    (value, ⟨state, w.calls ++ [(d.device, .read a)]⟩)
  write d a value mask w :=
    ⟨DeviceBank.write d.device a value mask w.state,
      w.calls ++ [(d.device, .write a value mask)]⟩
  fail w := ⟨DeviceBank.fail (D := D) w.state, w.calls⟩

end RegionBus

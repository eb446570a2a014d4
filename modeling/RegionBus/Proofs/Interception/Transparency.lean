import RegionBus.Proofs.Bus.Dispatch
import RegionBus.Proofs.Bus.Session
import RegionBus.Proofs.Mapping.Coverage
import RegionBus.StandardMap

/-!
# Breakpoints Change Nothing

Take two buses, one with a breakpoint layer and one without, and put them through
the same session. Nothing that can be read or asked through the bus tells them
apart, and no device can either: each is called for the same words, with the
same values and masks, in the same order.

The two are tied together by `Mirrors`: in every region they agree on the device
and its kind, both regions are settled, and the one without a layer watches
nothing. The checks, and with them the live and saved handlers, may differ, and
so may the registries; neither has a say in what a device is asked. A step of a
session either changes the device and kind of a region alike on both sides, or
only what is watched on one of them.

That an access does the same on both sides needs no recorder: it is shown for
any devices, as an equality of their states. The calls are then a special case,
the one where the devices are recorded.

## Main definitions

* `RegionEntry.Mirrors`: Two views of a region, of which only one may be watched.
* `Mirrors`: Two buses that differ only by a breakpoint layer.
* `Session.Mirrors`: Two sessions that differ only by a breakpoint layer.
* `Session.Alike`: Two outcomes that nobody can tell apart.

## Theorems

* `Mirrors.apply`: A mapping keeps the two together.
* `Mirrors.read`, `Mirrors.write`: An access has the same effect on both sides.
* `Session.mirrors_perform`: So has every step.
* `Session.mirrors_run`: And every session.
* `interception_transparent`: Breakpoints change neither answers nor calls.
-/

namespace RegionBus

variable {D R W : Type}

/-- Two views of a region, of which only the first one may be watched. -/
structure RegionEntry.Mirrors (watched plain : RegionEntry D) : Prop where
  /-- The first view is settled. -/
  settled : watched.Settled
  /-- So is the second one. -/
  plain_settled : plain.Settled
  /-- The second view has nothing watched. -/
  plain_checks : plain.checks = .none
  /-- Both have the same device. -/
  device_eq : watched.device = plain.device
  /-- And the same kind of device. -/
  kind_eq : watched.kind = plain.kind

/-- Two buses that differ only by a breakpoint layer, which the first one has. -/
structure Mirrors (watched plain : Bus D) : Prop where
  /-- The first bus has a breakpoint layer. -/
  intercepting : watched.intercepting = true
  /-- The second one has none. -/
  not_intercepting : plain.intercepting = false
  /-- Every region looks the same, except for what is watched. -/
  entry : ∀ r, (watched.entry r).Mirrors (plain.entry r)

namespace RegionEntry

/-- A handler put in the place of the live one leaves a region settled in which
    nothing is watched. -/
theorem settled_replace {e : RegionEntry D} (h : e.Settled) (hc : e.checks = .none)
    (kind : DeviceKind) {handler : Handler D} (hh : handler.isDebug = false) :
    ({ e with kind := kind, live := handler } : RegionEntry D).Settled ∧
      ({ e with kind := kind, live := handler } : RegionEntry D).device = handler := by
  -- Nothing is watched, so the live handler is the device.
  have hs : e.saved = none := by
    rw [h.saved_eq, hc]
    rfl
  rcases e with ⟨k, live, saved, checks⟩
  subst hc hs
  refine ⟨⟨?_, ?_, hh⟩, rfl⟩
  · exact ⟨fun hsome => absurd hsome Bool.false_ne_true, fun hempty => Bool.noConfusion hempty⟩
  · rw [hh]
    exact ⟨fun hdebug => absurd hdebug Bool.false_ne_true, fun hempty => Bool.noConfusion hempty⟩

variable {e f : RegionEntry D}

/-- The same handler mapped to both views of a region. Whatever the registries
    want watched, the views go on to mirror each other. -/
theorem Mirrors.installed [Registry R] (h : e.Mirrors f) (registry registry' : Option R)
    (kind : DeviceKind) {handler : Handler D} (hh : handler.isDebug = false) (r : Region) :
    (Bus.installed true registry kind handler r e).Mirrors
      (Bus.installed false registry' kind handler r f) := by
  rcases settled_replace h.plain_settled h.plain_checks kind hh with ⟨hs, hd⟩
  constructor
  case settled => exact settled_mapped h.settled kind hh _
  case plain_settled => exact hs
  case plain_checks => exact h.plain_checks
  case device_eq => exact (device_mapped h.settled kind handler _).trans hd.symm
  case kind_eq => exact kind_mapped e kind handler _

/-- A change of what is watched alone keeps the views together. -/
theorem Mirrors.rewatched (h : e.Mirrors f) {e' : RegionEntry D} (hs : e'.Settled)
    (hd : e'.device = e.device) (hk : e'.kind = e.kind) : e'.Mirrors f :=
  ⟨hs, h.plain_settled, h.plain_checks, hd.trans h.device_eq, hk.trans h.kind_eq⟩

end RegionEntry

theorem mirrors_unmapped : Mirrors (Bus.unmapped true : Bus D) (Bus.unmapped false) where
  intercepting := rfl
  not_intercepting := rfl
  entry r := by
    rw [Bus.entry_unmapped, Bus.entry_unmapped]
    exact ⟨RegionEntry.settled_unmapped, RegionEntry.settled_unmapped, rfl, rfl, rfl⟩

namespace Mirrors

variable {watched plain : Bus D}

/-- A change of one region on the watched side keeps the two buses together, if
    the two views of the region go on to mirror each other. -/
theorem update (h : Mirrors watched plain) (r : Region) (f : RegionEntry D → RegionEntry D)
    (hf : (f (watched.entry r)).Mirrors (plain.entry r)) : Mirrors (watched.update r f) plain := by
  refine ⟨h.intercepting, h.not_intercepting, fun s => ?_⟩
  rw [Bus.entry_update]
  by_cases hs : r = s
  · rw [if_pos hs, ← hs]
    exact hf
  · rw [if_neg hs]
    exact h.entry s

theorem activate (h : Mirrors watched plain) (k : AccessKind) (a : UInt32) :
    Mirrors (watched.activate k a) (plain.activate k a) := by
  have he := h.entry (regionOf a)
  rw [Bus.activate, if_pos h.intercepting, Bus.activate,
    if_neg (ne_true_of_eq_false h.not_intercepting)]
  exact h.update _ _ (he.rewatched (RegionEntry.settled_watch he.settled k)
    (RegionEntry.device_watch he.settled k) (RegionEntry.kind_watch _ k))

theorem deactivate (h : Mirrors watched plain) (k : AccessKind) (a : UInt32) :
    Mirrors (watched.deactivate k a) (plain.deactivate k a) := by
  have he := h.entry (regionOf a)
  rw [Bus.deactivate, if_pos h.intercepting, Bus.deactivate,
    if_neg (ne_true_of_eq_false h.not_intercepting)]
  exact h.update _ _ (he.rewatched (RegionEntry.settled_unwatch he.settled k)
    (RegionEntry.device_unwatch _ k) (RegionEntry.kind_unwatch _ k))

theorem setLastPc (h : Mirrors watched plain) (pc : UInt32) :
    Mirrors (watched.setLastPc pc) (plain.setLastPc pc) :=
  ⟨h.intercepting, h.not_intercepting, h.entry⟩

variable [Registry R]

/-- A mapping attaches the same device on both sides. -/
theorem apply (h : Mirrors watched plain) {m : Mapping D} (hm : m.handler.isDebug = false)
    {registry registry' : Option R} {watched' plain' : Bus D}
    (hw : watched.apply registry m = .ok watched') (hp : plain.apply registry' m = .ok plain') :
    Mirrors watched' plain' := by
  refine ⟨?_, ?_, fun r => ?_⟩
  · rw [Bus.intercepting_apply hw, h.intercepting]
  · rw [Bus.intercepting_apply hp, h.not_intercepting]
  · -- The bounds of a mapping alone say which regions it covers.
    rw [Bus.entry_apply hw, Bus.entry_apply hp, h.intercepting, h.not_intercepting]
    by_cases hr : m.covers r
    · rw [if_pos hr, if_pos hr]
      exact (h.entry r).installed registry registry' m.kind hm r
    · rw [if_neg hr, if_neg hr]
      exact h.entry r

variable [DeviceBank D W] {p q : Backplane R W}

theorem readWord (h : Mirrors watched plain) (hpq : p.devices = q.devices) (a : UInt32) :
    (watched.readWord a p).1 = (plain.readWord a q).1 ∧
      (watched.readWord a p).2.devices = (plain.readWord a q).2.devices := by
  have he : (watched.entryAt a).Mirrors (plain.entryAt a) := h.entry (regionOf a)
  -- Both sides ask the same device, and only what the registry is told may differ.
  rw [Bus.readWord_eq he.settled, Bus.readWord_eq he.plain_settled, he.device_eq, hpq]
  exact ⟨rfl, rfl⟩

theorem writeWord (h : Mirrors watched plain) (hpq : p.devices = q.devices) {a : UInt32}
    (ha : a.toNat % 4 = 0) (value mask : UInt32) :
    (watched.writeWord a value mask p).devices = (plain.writeWord a value mask q).devices := by
  have he : (watched.entryAt a).Mirrors (plain.entryAt a) := h.entry (regionOf a)
  rw [Bus.writeWord_eq ha he.settled, Bus.writeWord_eq ha he.plain_settled, he.device_eq, hpq]

theorem writeMasked (h : Mirrors watched plain) (hpq : p.devices = q.devices)
    (a value mask : UInt32) : (watched.writeMasked a value mask p).devices =
      (plain.writeMasked a value mask q).devices := by
  refine h.writeWord hpq ?_ value mask
  rw [toNat_alignWord]
  omega

theorem read (h : Mirrors watched plain) (hpq : p.devices = q.devices) (width : Width)
    (a : UInt32) : (watched.read width a p).1 = (plain.read width a q).1 ∧
      (watched.read width a p).2.devices = (plain.read width a q).2.devices := by
  rcases h.readWord hpq (a &&& ~~~3) with ⟨hv, hd⟩
  cases width with
  | byte =>
      simp only [Bus.read, Bus.read8_eq, hv]
      exact ⟨trivial, hd⟩
  | half =>
      simp only [Bus.read, Bus.read16_eq, hv]
      exact ⟨trivial, hd⟩
  | word =>
      simp only [Bus.read, Bus.read32, hv]
      exact ⟨trivial, hd⟩
  | double =>
      -- The second word is read in the state the first one left.
      rcases h.readWord hpq (a &&& ~~~7) with ⟨hhigh, hdevices⟩
      rcases h.readWord hdevices ((a &&& ~~~7) + 4) with ⟨hlow, hd⟩
      simp only [Bus.read, Bus.read64_eq, hhigh, hlow]
      exact ⟨trivial, hd⟩

theorem write (h : Mirrors watched plain) (hpq : p.devices = q.devices) (width : Width)
    (a : UInt32) (value : UInt64) :
    (watched.write width a value p).devices = (plain.write width a value q).devices := by
  cases width with
  | byte =>
      rw [Bus.write, Bus.write, Bus.write8_eq, Bus.write8_eq]
      exact h.writeMasked hpq a _ _
  | half =>
      rw [Bus.write, Bus.write, Bus.write16_eq, Bus.write16_eq]
      exact h.writeMasked hpq a _ _
  | word => exact h.writeMasked hpq a _ _
  | double =>
      rw [Bus.write, Bus.write, Bus.write64_eq, Bus.write64_eq]
      exact h.writeMasked (h.writeMasked hpq _ _ _) _ _ _

end Mirrors

/-- Two sessions that differ only by a breakpoint layer and by their registries. -/
structure Session.Mirrors (s t : Session D R W) : Prop where
  /-- The buses differ only by a layer. -/
  bus : RegionBus.Mirrors s.bus t.bus
  /-- The devices are in the same state. -/
  devices : s.plane.devices = t.plane.devices

variable [DeviceBank D W] [Registry R]

theorem Session.mirrors_perform {s t : Session D R W} (h : s.Mirrors t) {step : BusStep D R}
    (hf : step.Foreign) : (step.perform s).1 = (step.perform t).1 ∧
      (step.perform s).2.Mirrors (step.perform t).2 := by
  cases step with
  | apply m =>
      rw [BusStep.perform, BusStep.perform]
      cases hw : s.bus.apply s.plane.registry m with
      | ok watched =>
          -- Whether a mapping is refused does not depend on the bus.
          have hle := (Bus.apply_isOk_iff s.bus s.plane.registry m).mp ⟨watched, hw⟩
          rcases (Bus.apply_isOk_iff t.bus t.plane.registry m).mpr hle with ⟨plain, hp⟩
          rw [hp]
          exact ⟨rfl, h.bus.apply hf hw hp, h.devices⟩
      | error e =>
          rw [Bus.apply_error_eq hw t.bus t.plane.registry]
          exact ⟨rfl, h⟩
  | activate k a => exact ⟨rfl, h.bus.activate k a, h.devices⟩
  | deactivate k a => exact ⟨rfl, h.bus.deactivate k a, h.devices⟩
  | setLastPc pc => exact ⟨rfl, h.bus.setLastPc pc, h.devices⟩
  | exchange registry => exact ⟨rfl, h.bus, h.devices⟩
  | read width a =>
      rcases h.bus.read h.devices width a with ⟨hv, hd⟩
      exact ⟨congrArg Reply.value hv, h.bus, hd⟩
  | write width a value => exact ⟨rfl, h.bus, h.bus.write h.devices width a value⟩
  | writeMasked a value mask => exact ⟨rfl, h.bus, h.bus.writeMasked h.devices a value mask⟩

/-- Two sessions that differ only by a breakpoint layer answer the same steps
    alike, and differ only by the layer afterwards. -/
theorem Session.mirrors_run {s t : Session D R W} (h : s.Mirrors t)
    {steps : List (BusStep D R)} (hf : ∀ step ∈ steps, step.Foreign) :
    (s.run steps).1 = (t.run steps).1 ∧ (s.run steps).2.Mirrors (t.run steps).2 := by
  induction steps generalizing s t with
  | nil => exact ⟨rfl, h⟩
  | cons step steps ih =>
      rcases mirrors_perform h (hf step List.mem_cons_self) with ⟨hreply, hnext⟩
      rcases ih hnext (fun x hx => hf x (List.mem_cons_of_mem step hx)) with ⟨hreplies, hrest⟩
      simp only [Session.run]
      exact ⟨by rw [hreply, hreplies], hrest⟩

/-- Two outcomes of sessions that nobody can tell apart: neither who used the bus,
    nor a device. -/
structure Session.Alike (x y : List Reply × Session (Recorded D) R (Recording D W)) : Prop where
  /-- The answers are the same. -/
  replies : x.1 = y.1
  /-- The devices were called for the same words with the same values and masks,
      in the same order. -/
  calls : x.2.plane.devices.calls = y.2.plane.devices.calls
  /-- The devices are in the same state. -/
  state : x.2.plane.devices.state = y.2.plane.devices.state
  /-- Every address has the same kind of device. -/
  kinds : ∀ a, x.2.bus.kindAt a = y.2.bus.kindAt a

/-- Breakpoints change nothing: if the same steps are taken on a bus with a
    breakpoint layer and on one without, nobody can tell the two apart after any
    number of them. -/
theorem interception_transparent (steps : List (BusStep (Recorded D) R))
    (hf : ∀ step ∈ steps, step.Foreign) (registry registry' : Option R) (state : W) (n : Nat) :
    Session.Alike ((Session.start true registry (Recording.start state)).run (steps.take n))
      ((Session.start false registry' (Recording.start state)).run (steps.take n)) := by
  have hstart : (Session.start true registry (Recording.start state) :
      Session (Recorded D) R (Recording D W)).Mirrors
        (Session.start false registry' (Recording.start state)) := ⟨mirrors_unmapped, rfl⟩
  rcases Session.mirrors_run hstart (fun step hs => hf step (List.mem_of_mem_take hs)) with
    ⟨hreplies, hbus, hdevices⟩
  constructor
  case replies => exact hreplies
  case calls => rw [hdevices]
  case state => rw [hdevices]
  case kinds => exact fun a => (hbus.entry (regionOf a)).kind_eq

/-- Main memory mapped twice, the second time while it is watched, and accessed
    under a breakpoint before and after. -/
def BusStep.watchedTwice : List (BusStep (Recorded (Device Empty)) Breakpoints) :=
  [.apply ⟨0, 0x1FFFF, .rdram, .device ⟨.ram lowDram⟩⟩, .activate .read 0x1000,
    .write .double 0x1000 0x1122334455667788, .activate .write 0x1004, .read .half 0x1002,
    .apply ⟨0x8000, 0x8003, .pif, .device ⟨.ram pifMemory⟩⟩,
    .exchange (some (Breakpoints.empty.add 0 3 (.union .enabled .read)).2),
    .writeMasked 0x1001 0xFFFFFFFF 0x00FF00F0, .deactivate .read 0x1234,
    .deactivate .write 0, .read .byte 0x1001]

theorem interception_transparent_watchedTwice :
    (∀ step ∈ BusStep.watchedTwice, step.Foreign) ∧
      Session.Alike
        ((Session.start true (some Breakpoints.empty)
          (Recording.start (Hardware.ofStore (Store.ofGrants 0x10000 []) ()))).run
            (BusStep.watchedTwice.take 11))
        ((Session.start false none
          (Recording.start (Hardware.ofStore (Store.ofGrants 0x10000 []) ()))).run
            (BusStep.watchedTwice.take 11)) := by
  have hf : ∀ step ∈ BusStep.watchedTwice, step.Foreign := by decide
  have h := interception_transparent BusStep.watchedTwice hf (some Breakpoints.empty) none
    (Hardware.ofStore (Store.ofGrants 0x10000 []) ()) 11
  exact ⟨hf, h⟩

end RegionBus

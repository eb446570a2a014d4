import RegionBus.Breakpoint.Flags
import RegionBus.Device.Bank
import RegionBus.Device.Kind

/-!
# One Region of the Bus

For each region the bus knows what kind of device is mapped there and who serves
its accesses, the live handler. A breakpoint layer can watch a region. It then
puts its debug handler in the device's place and keeps the device's handler
aside as the saved one:

* a region whose checks are empty has its device's handler live and none saved;
* a watched region has the debug handler live and its device's handler saved.

The saved handler is taken when the first kind of access comes to be watched,
and put back when the last one no longer is. A mapping of a watched region
replaces the saved handler, so that the region stays watched.

## Main definitions

* `RegionEntry`: What the bus knows of one region.
* `RegionEntry.mapped`: A handler mapped to the region.
* `RegionEntry.watch`, `RegionEntry.unwatch`: A kind of access watched or no longer.
* `RegionEntry.device`: Who serves the region when breakpoints are left out.
* `RegionEntry.Settled`: The live and saved handlers agree with the checks.

## Theorems

* `settled_mapped`, `settled_watch`, `settled_unwatch`: Every step keeps a region settled.
* `device_mapped`, `device_watch`, `device_unwatch`: Who serves it after each step.
* `checks_mapped`, `checks_watch`, `checks_unwatch`: What is watched after each step.
* `Settled.saved_eq`, `Settled.live_eq`: The handlers of a settled region.
* `Settled.ext`: A settled region is known by its kind, device and checks.
-/

namespace RegionBus

/-- What the bus knows of one region. -/
structure RegionEntry (D : Type) where
  /-- The kind of device mapped. -/
  kind : DeviceKind
  /-- Who serves the accesses. -/
  live : Handler D
  /-- Who served them before the region came to be watched. -/
  saved : Option (Handler D)
  /-- The kinds of access that are watched. -/
  checks : Checks
  deriving DecidableEq, Repr

namespace RegionEntry

variable {D : Type}

/-- A region to which nothing was mapped. -/
def unmapped : RegionEntry D :=
  ⟨.nothing, .openBus, none, .none⟩

/-- A handler mapped to a region, which is to be watched with the checks
    `wanted` unless it is watched already. -/
def mapped (e : RegionEntry D) (kind : DeviceKind) (handler : Handler D) (wanted : Checks) :
    RegionEntry D :=
  if e.checks.isEmpty then
    if wanted.isEmpty then { e with kind := kind, live := handler }
    else ⟨kind, .debug, some handler, wanted⟩
  else
    { e with kind := kind, saved := some handler }

/-- A region with a kind of access watched. -/
def watch (e : RegionEntry D) (k : AccessKind) : RegionEntry D :=
  if e.checks.isEmpty then ⟨e.kind, .debug, some e.live, e.checks.set k true⟩
  else { e with checks := e.checks.set k true }

/-- A region with a kind of access no longer watched. -/
def unwatch (e : RegionEntry D) (k : AccessKind) : RegionEntry D :=
  let checks := e.checks.set k false
  match checks.isEmpty, e.saved with
  | true, some handler => ⟨e.kind, handler, none, checks⟩
  | _, _ => { e with checks := checks }

/-- Who serves a region when breakpoints are left out. -/
def device (e : RegionEntry D) : Handler D :=
  e.saved.getD e.live

/-- The live and saved handlers agree with the checks: a watched region has the
    debug handler live and another one saved, any other region has another one live
    and none saved. -/
structure Settled (e : RegionEntry D) : Prop where
  /-- A handler is saved iff something is watched. -/
  saved_iff : e.saved.isSome ↔ e.checks.isEmpty = false
  /-- The debug handler is live iff something is watched. -/
  live_iff : e.live.isDebug ↔ e.checks.isEmpty = false
  /-- The debug handler is not saved under itself. -/
  device_ne : e.device.isDebug = false

/-- A region that is not watched is settled if no handler is saved and another one than
    the debug handler is live. -/
theorem settled_of_isEmpty {e : RegionEntry D} (hc : e.checks.isEmpty = true)
    (hs : e.saved = none) (hl : e.live.isDebug = false) : e.Settled where
  saved_iff := by rw [hs, hc]; exact iff_of_false Bool.false_ne_true Bool.noConfusion
  live_iff := by rw [hl, hc]; exact iff_of_false Bool.false_ne_true Bool.noConfusion
  device_ne := by rw [device, hs]; exact hl

/-- A watched region is settled if the debug handler is live and another one saved. -/
theorem settled_of_watched {e : RegionEntry D} (hc : e.checks.isEmpty = false)
    (hl : e.live = .debug) {handler : Handler D} (hs : e.saved = some handler)
    (hh : handler.isDebug = false) : e.Settled where
  saved_iff := by rw [hs, hc]; exact iff_of_true rfl rfl
  live_iff := by rw [hl, hc]; exact iff_of_true rfl rfl
  device_ne := by rw [device, hs]; exact hh

theorem settled_unmapped : (unmapped : RegionEntry D).Settled :=
  settled_of_isEmpty rfl rfl rfl

namespace Settled

variable {e : RegionEntry D}

theorem saved_eq (h : e.Settled) :
    e.saved = if e.checks.isEmpty then none else some e.device := by
  have hs := h.saved_iff
  by_cases hc : e.checks.isEmpty
  · rw [if_pos hc]
    cases hsaved : e.saved with
    | none => rfl
    | some d =>
        rw [hsaved, hc] at hs
        exact absurd (hs.mp rfl) Bool.noConfusion
  · rw [if_neg hc]
    rw [Bool.not_eq_true] at hc
    rcases Option.isSome_iff_exists.mp (hs.mpr hc) with ⟨d, hd⟩
    rw [device, hd, Option.getD_some]

theorem live_eq (h : e.Settled) : e.live = if e.checks.isEmpty then e.device else .debug := by
  by_cases hc : e.checks.isEmpty
  · have hs : e.saved = none := by rw [h.saved_eq, if_pos hc]
    rw [if_pos hc, device, hs, Option.getD_none]
  · rw [if_neg hc]
    have hd : e.live.isDebug = true := h.live_iff.mpr ((Bool.not_eq_true _).mp hc)
    cases hlive : e.live with
    | debug => rfl
    | openBus => rw [hlive] at hd; exact absurd hd Bool.false_ne_true
    | device d => rw [hlive] at hd; exact absurd hd Bool.false_ne_true

end Settled

theorem settled_mapped {e : RegionEntry D} (h : e.Settled) (kind : DeviceKind)
    {handler : Handler D} (hh : handler.isDebug = false) (wanted : Checks) :
    (e.mapped kind handler wanted).Settled := by
  have hs := h.saved_eq
  have hl := h.live_eq
  unfold mapped
  -- Not watched and not to be, not watched but to be, or watched already.
  by_cases hc : e.checks.isEmpty
  · rw [if_pos hc] at hs
    rw [if_pos hc]
    by_cases hw : wanted.isEmpty
    · rw [if_pos hw]
      exact settled_of_isEmpty hc hs hh
    · rw [if_neg hw]
      exact settled_of_watched ((Bool.not_eq_true _).mp hw) rfl rfl hh
  · rw [if_neg hc] at hl
    rw [if_neg hc]
    exact settled_of_watched ((Bool.not_eq_true _).mp hc) hl rfl hh

theorem settled_watch {e : RegionEntry D} (h : e.Settled) (k : AccessKind) :
    (e.watch k).Settled := by
  have hs := h.saved_eq
  have hl := h.live_eq
  have hwatched := e.checks.isEmpty_set_true k
  unfold watch
  by_cases hc : e.checks.isEmpty
  · -- The live handler is the device, and it is saved now.
    rw [if_pos hc] at hl
    rw [if_pos hc]
    refine settled_of_watched hwatched rfl rfl ?_
    rw [hl]
    exact h.device_ne
  · rw [if_neg hc] at hs hl
    rw [if_neg hc]
    exact settled_of_watched hwatched hl hs h.device_ne

theorem settled_unwatch {e : RegionEntry D} (h : e.Settled) (k : AccessKind) :
    (e.unwatch k).Settled := by
  have hs := h.saved_eq
  have hl := h.live_eq
  unfold unwatch
  dsimp only
  by_cases hc : e.checks.isEmpty
  · -- It was not watched, and so it is not now.
    have hempty := e.checks.isEmpty_set_false k hc
    rw [if_pos hc] at hs hl
    rw [hempty, hs]
    refine settled_of_isEmpty hempty rfl ?_
    rw [hl]
    exact h.device_ne
  · rw [if_neg hc] at hs hl
    cases hrest : (e.checks.set k false).isEmpty with
    | true =>
        rw [hs]
        exact settled_of_isEmpty hrest rfl h.device_ne
    | false => exact settled_of_watched hrest hl hs h.device_ne

theorem device_mapped {e : RegionEntry D} (h : e.Settled) (kind : DeviceKind)
    (handler : Handler D) (wanted : Checks) : (e.mapped kind handler wanted).device = handler := by
  unfold mapped
  by_cases hc : e.checks.isEmpty
  · have hs : e.saved = none := by rw [h.saved_eq, if_pos hc]
    rw [if_pos hc]
    split
    · rw [device, hs, Option.getD_none]
    · rfl
  · rw [if_neg hc]
    rfl

theorem device_watch {e : RegionEntry D} (h : e.Settled) (k : AccessKind) :
    (e.watch k).device = e.device := by
  unfold watch
  by_cases hc : e.checks.isEmpty
  · have hl : e.live = e.device := by rw [h.live_eq, if_pos hc]
    rw [if_pos hc]
    exact hl
  · rw [if_neg hc]
    rfl

theorem device_unwatch (e : RegionEntry D) (k : AccessKind) :
    (e.unwatch k).device = e.device := by
  unfold unwatch
  dsimp only
  split
  · next handler _ hs =>
    -- The saved handler is put back.
    rw [device, device, hs, Option.getD_none, Option.getD_some]
  · rfl

theorem kind_mapped (e : RegionEntry D) (kind : DeviceKind) (handler : Handler D)
    (wanted : Checks) : (e.mapped kind handler wanted).kind = kind := by
  unfold mapped
  split
  · split <;> rfl
  · rfl

theorem checks_mapped (e : RegionEntry D) (kind : DeviceKind) (handler : Handler D)
    (wanted : Checks) : (e.mapped kind handler wanted).checks =
      if e.checks.isEmpty then wanted else e.checks := by
  unfold mapped
  by_cases he : e.checks.isEmpty
  · rw [if_pos he, if_pos he]
    by_cases hw : wanted.isEmpty
    · -- Both are empty, and there is only one way to be.
      rw [if_pos hw, (Checks.isEmpty_iff wanted).mp hw]
      exact (Checks.isEmpty_iff e.checks).mp he
    · rw [if_neg hw]
  · rw [if_neg he, if_neg he]

theorem kind_watch (e : RegionEntry D) (k : AccessKind) : (e.watch k).kind = e.kind := by
  unfold watch
  split <;> rfl

theorem checks_watch (e : RegionEntry D) (k : AccessKind) :
    (e.watch k).checks = e.checks.set k true := by
  unfold watch
  split <;> rfl

theorem kind_unwatch (e : RegionEntry D) (k : AccessKind) : (e.unwatch k).kind = e.kind := by
  unfold unwatch
  dsimp only
  split <;> rfl

theorem checks_unwatch (e : RegionEntry D) (k : AccessKind) :
    (e.unwatch k).checks = e.checks.set k false := by
  unfold unwatch
  dsimp only
  split <;> rfl

namespace Settled

variable {e f : RegionEntry D}

/-- The handlers follow from the device and the checks, so two settled regions
    that agree in these are the same. -/
theorem ext (he : e.Settled) (hf : f.Settled) (hk : e.kind = f.kind)
    (hd : e.device = f.device) (hc : e.checks = f.checks) : e = f := by
  have hl : e.live = f.live := by rw [he.live_eq, hf.live_eq, hc, hd]
  have hs : e.saved = f.saved := by rw [he.saved_eq, hf.saved_eq, hc, hd]
  rcases e with ⟨kind, live, saved, checks⟩
  rcases f with ⟨kind', live', saved', checks'⟩
  simp only at hk hl hs hc
  rw [hk, hl, hs, hc]

end Settled

end RegionEntry

end RegionBus

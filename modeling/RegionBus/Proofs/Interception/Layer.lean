import Mathlib.Data.List.Induction
import RegionBus.Proofs.Breakpoint.Lookup
import RegionBus.Proofs.Mapping.Coverage

/-!
# The States of a Breakpoint Layer

A breakpoint layer takes three kinds of step: a handler is mapped to a region, a
kind of access comes to be watched, or it no longer is. The registry is asked
only when something is mapped, and it may be another one each time, so it is
part of the step.

What the layer knows of a region splits into two parts that never mix. The kind
of device and the device itself are those of the last mapping, whatever was
watched before or after it. The checks follow the watching, and a mapping
matters to them only if nothing is watched. Which handler is live and which one
is saved then follows from these, because every step leaves the region settled:
`settled_onEntry` is the one place where the two transitions between watched and
not watched are looked at.

## Main definitions

* `LayerStep`: One step of a breakpoint layer.
* `LayerStep.perform`: The bus after a step.
* `LayerStep.onEntry`: What a step does to its region.
* `LayerStep.ChecksAfter`: How a step changes the checks of its region.
* `Bus.layered`: A bus after some steps.
* `LayerStep.lastHandler`, `LayerStep.lastKind`: What was mapped to a region last.
* `LayerLaw`: What holds of a region after some steps.

## Theorems

* `entry_perform`: What a step does to each region.
* `settled_onEntry`: A step leaves its region settled.
* `checksAfter_onEntry`: A step changes the checks of its region by its rule.
* `tracks_layered`: The device of a region is the last one mapped to it.
* `layer_law`: The law of the layer, for any steps.
-/

namespace RegionBus

variable {D R : Type}

/-- One step of a breakpoint layer. A mapping comes with the registry as it is at
    that moment, if there is one. -/
inductive LayerStep (D R : Type) where
  /-- A handler is mapped to a region. -/
  | map (registry : Option R) (region : Region) (kind : DeviceKind) (handler : Handler D)
  /-- A kind of access comes to be watched in the region of an address. -/
  | activate (k : AccessKind) (a : UInt32)
  /-- A kind of access is no longer watched in the region of an address. -/
  | deactivate (k : AccessKind) (a : UInt32)

namespace LayerStep

/-- The region a step is about. -/
def region : LayerStep D R → Region
  | map _ region _ _ => region
  | activate _ a => regionOf a
  | deactivate _ a => regionOf a

/-- A step does not map the layer's own handler. -/
def Foreign : LayerStep D R → Prop
  | map _ _ _ handler => handler.isDebug = false
  | activate _ _ => True
  | deactivate _ _ => True

instance : (step : LayerStep D R) → Decidable step.Foreign
  | map _ _ _ handler => inferInstanceAs (Decidable (handler.isDebug = false))
  | activate _ _ | deactivate _ _ => .isTrue trivial

/-- What a step attaches to a region, if it maps a handler to it. -/
def mapping? (r : Region) : LayerStep D R → Option (DeviceKind × Handler D)
  | map _ region kind handler => if region = r then some (kind, handler) else none
  | activate _ _ => none
  | deactivate _ _ => none

/-- The handler that was mapped to a region last; before any mapping it is the
    open bus. -/
def lastHandler (steps : List (LayerStep D R)) (r : Region) : Handler D :=
  (steps.reverse.findSome? (mapping? r)).elim .openBus Prod.snd

/-- The kind of device that was mapped to a region last. -/
def lastKind (steps : List (LayerStep D R)) (r : Region) : DeviceKind :=
  (steps.reverse.findSome? (mapping? r)).elim .nothing Prod.fst

variable [Registry R]

/-- The bus after a step. -/
def perform (bus : Bus D) : LayerStep D R → Bus D
  | map registry region kind handler => bus.mapRegion registry kind handler region
  | activate k a => bus.activate k a
  | deactivate k a => bus.deactivate k a

/-- What a step does to its region. -/
def onEntry (e : RegionEntry D) : LayerStep D R → RegionEntry D
  | map registry region kind handler =>
    e.mapped kind handler (if e.checks.isEmpty then Bus.wantedChecks registry region else .none)
  | activate k _ => e.watch k
  | deactivate k _ => e.unwatch k

/-- How a step changes the checks of its region. Watching sets one kind and
    clears one kind. A mapping leaves a watched region as it is; in any other
    region it has watched what the registry finds an enabled breakpoint for. -/
def ChecksAfter (before after : Checks) : LayerStep D R → Prop
  | map registry region _ _ =>
    if before.isEmpty then
      ∀ k, after.has k = true ↔ ∃ l, registry = some l ∧
        (Registry.lookup? l region.base regionSize k.watched).isSome
    else after = before
  | activate k _ => after.has k = true ∧ ∀ j, j ≠ k → after.has j = before.has j
  | deactivate k _ => after.has k = false ∧ ∀ j, j ≠ k → after.has j = before.has j

end LayerStep

/-- A bus with a breakpoint layer to which nothing is mapped, after some steps. -/
def Bus.layered [Registry R] (steps : List (LayerStep D R)) : Bus D :=
  steps.foldl LayerStep.perform (Bus.unmapped true)

namespace LayerStep

theorem lastHandler_concat (steps : List (LayerStep D R)) (step : LayerStep D R) (r : Region) :
    lastHandler (steps ++ [step]) r =
      match step.mapping? r with
      | some (_, handler) => handler
      | none => lastHandler steps r := by
  rw [lastHandler, List.reverse_append, List.reverse_singleton, List.singleton_append,
    List.findSome?_cons]
  cases step.mapping? r with
  | none => rfl
  | some p => rfl

theorem lastKind_concat (steps : List (LayerStep D R)) (step : LayerStep D R) (r : Region) :
    lastKind (steps ++ [step]) r =
      match step.mapping? r with
      | some (kind, _) => kind
      | none => lastKind steps r := by
  rw [lastKind, List.reverse_append, List.reverse_singleton, List.singleton_append,
    List.findSome?_cons]
  cases step.mapping? r with
  | none => rfl
  | some p => rfl

/-- A step maps nothing to a region it is not about. -/
theorem mapping?_other (step : LayerStep D R) {r : Region} (hr : step.region ≠ r) :
    step.mapping? r = none := by
  cases step with
  | map registry region kind handler => exact if_neg hr
  | activate k a => rfl
  | deactivate k a => rfl

variable [Registry R] {bus : Bus D}

theorem perform_eq (hi : bus.intercepting = true) (step : LayerStep D R) :
    step.perform bus = bus.update step.region step.onEntry := by
  cases step with
  | map registry region kind handler =>
      rw [perform, Bus.mapRegion, if_pos hi]
      rfl
  | activate k a =>
      rw [perform, Bus.activate, if_pos hi]
      rfl
  | deactivate k a =>
      rw [perform, Bus.deactivate, if_pos hi]
      rfl

/-- A step changes its region and no other. -/
theorem entry_perform (hi : bus.intercepting = true) (step : LayerStep D R) (r : Region) :
    (step.perform bus).entry r =
      if step.region = r then step.onEntry (bus.entry r) else bus.entry r := by
  rw [perform_eq hi, Bus.entry_update]
  by_cases hr : step.region = r
  · rw [if_pos hr, if_pos hr, hr]
  · rw [if_neg hr, if_neg hr]

theorem settled_onEntry {e : RegionEntry D} (h : e.Settled) (step : LayerStep D R)
    (hf : step.Foreign) : (step.onEntry e).Settled := by
  cases step with
  | map registry region kind handler => exact RegionEntry.settled_mapped h kind hf _
  | activate k a => exact RegionEntry.settled_watch h k
  | deactivate k a => exact RegionEntry.settled_unwatch h k

theorem device_onEntry {e : RegionEntry D} (h : e.Settled) (step : LayerStep D R) :
    (step.onEntry e).device =
      match step.mapping? step.region with
      | some (_, handler) => handler
      | none => e.device := by
  cases step with
  | map registry region kind handler =>
      simp only [onEntry, mapping?, LayerStep.region, if_true]
      exact RegionEntry.device_mapped h kind handler _
  | activate k a => exact RegionEntry.device_watch h k
  | deactivate k a => exact RegionEntry.device_unwatch e k

theorem kind_onEntry (e : RegionEntry D) (step : LayerStep D R) :
    (step.onEntry e).kind =
      match step.mapping? step.region with
      | some (kind, _) => kind
      | none => e.kind := by
  cases step with
  | map registry region kind handler =>
      simp only [onEntry, mapping?, LayerStep.region, if_true]
      exact RegionEntry.kind_mapped e kind handler _
  | activate k a => exact RegionEntry.kind_watch e k
  | deactivate k a => exact RegionEntry.kind_unwatch e k

/-- A step changes the checks of its region by its rule. -/
theorem checksAfter_onEntry (e : RegionEntry D) (step : LayerStep D R) :
    step.ChecksAfter e.checks (step.onEntry e).checks := by
  cases step with
  | map registry region kind handler =>
      rw [onEntry, RegionEntry.checks_mapped, ChecksAfter]
      -- The registry was asked only if nothing was watched.
      by_cases he : e.checks.isEmpty
      · rw [if_pos he, if_pos he, if_pos he]
        exact Bus.has_wantedChecks_iff registry region
      · rw [if_neg he, if_neg he]
  | activate k a =>
      rw [onEntry, RegionEntry.checks_watch]
      refine ⟨?_, fun j hj => ?_⟩
      · rw [Checks.has_set, if_pos rfl]
      · rw [Checks.has_set, if_neg (Ne.symm hj)]
  | deactivate k a =>
      rw [onEntry, RegionEntry.checks_unwatch]
      refine ⟨?_, fun j hj => ?_⟩
      · rw [Checks.has_set, if_pos rfl]
      · rw [Checks.has_set, if_neg (Ne.symm hj)]

end LayerStep

namespace Bus

variable [Registry R]

theorem layered_concat (steps : List (LayerStep D R)) (step : LayerStep D R) :
    (layered (steps ++ [step]) : Bus D) = step.perform (layered steps) := by
  rw [layered, List.foldl_append, layered, List.foldl_cons, List.foldl_nil]

theorem intercepting_layered (steps : List (LayerStep D R)) :
    (layered steps : Bus D).intercepting = true := by
  induction steps using List.reverseRecOn with
  | nil => rfl
  | append_singleton steps step ih =>
      rw [layered_concat, LayerStep.perform_eq ih, intercepting_update, ih]

/-- After any steps every region is settled, and its device and kind are those
    mapped to it last. -/
theorem tracks_layered (steps : List (LayerStep D R)) (hf : ∀ step ∈ steps, step.Foreign)
    (r : Region) : ((layered steps).entry r).Settled ∧
      ((layered steps).entry r).device = LayerStep.lastHandler steps r ∧
      ((layered steps).entry r).kind = LayerStep.lastKind steps r := by
  -- Induction on the steps, the last one taken off first.
  induction steps using List.reverseRecOn with
  | nil =>
      have h : (layered ([] : List (LayerStep D R))).entry r = .unmapped := entry_unmapped true r
      rw [h]
      exact ⟨RegionEntry.settled_unmapped, rfl, rfl⟩
  | append_singleton steps step ih =>
      have hstep : step.Foreign := hf step (List.mem_append_right steps (List.mem_singleton_self _))
      rcases ih (fun s hs => hf s (List.mem_append_left _ hs)) with ⟨hs, hd, hk⟩
      rw [layered_concat, LayerStep.entry_perform (intercepting_layered steps),
        LayerStep.lastHandler_concat, LayerStep.lastKind_concat]
      -- The last step was about this region, or it did not touch it.
      by_cases hr : step.region = r
      · subst hr
        rw [if_pos rfl]
        refine ⟨LayerStep.settled_onEntry hs step hstep, ?_, ?_⟩
        · rw [LayerStep.device_onEntry hs, hd]
        · rw [LayerStep.kind_onEntry, hk]
      · rw [if_neg hr, step.mapping?_other hr]
        exact ⟨hs, hd, hk⟩

end Bus

/-- What holds of a region after some steps of a breakpoint layer, and of one
    more step. -/
structure LayerLaw [Registry R] (steps : List (LayerStep D R)) (r : Region) : Prop where
  /-- Nothing is watched iff no handler is saved. -/
  checks_iff_saved : ((Bus.layered steps).entry r).checks = .none ↔
    ((Bus.layered steps).entry r).saved = none
  /-- No handler is saved iff the live one is not the layer's own. -/
  saved_iff_live : ((Bus.layered steps).entry r).saved = none ↔
    ((Bus.layered steps).entry r).live.isDebug = false
  /-- The device, which is saved if there is a saved handler and live otherwise,
      is the handler that was mapped last. -/
  device_eq : ((Bus.layered steps).entry r).saved.getD ((Bus.layered steps).entry r).live =
    LayerStep.lastHandler steps r
  /-- The layer's own handler is never the device. -/
  device_foreign : (LayerStep.lastHandler steps r).isDebug = false
  /-- The kind of device is the one that was mapped last. -/
  kind_eq : ((Bus.layered steps).entry r).kind = LayerStep.lastKind steps r
  /-- At first nothing is watched. -/
  checks_start : steps = [] → ((Bus.layered steps).entry r).checks = .none
  /-- One more step about the region changes its checks by the rule. -/
  checks_step : ∀ step : LayerStep D R, step.region = r →
    step.ChecksAfter ((Bus.layered steps).entry r).checks
      ((Bus.layered (steps ++ [step])).entry r).checks
  /-- One more step about another region changes nothing. -/
  other_step : ∀ step : LayerStep D R, step.region ≠ r →
    (Bus.layered (steps ++ [step])).entry r = (Bus.layered steps).entry r

/-- The law of a breakpoint layer: it holds of every region after any steps that
    never map the layer's own handler. For the registry of breakpoints, what a
    mapping comes to watch is what an enabled breakpoint in the region watches. -/
theorem layer_law [Registry R] (steps : List (LayerStep D R))
    (hf : ∀ step ∈ steps, step.Foreign) (r : Region) :
    LayerLaw steps r ∧ ∀ (l : Breakpoints) (k : AccessKind),
      (Registry.lookup? l r.base regionSize k.watched).isSome ↔
        ∃ b, l.Live b ∧ b.overlaps r.base r.last = true ∧
          b.flags.contains .enabled = true ∧ b.flags.contains k.flag = true := by
  refine ⟨?_, fun l k => l.isSome_lookup?_region_iff r k⟩
  rcases Bus.tracks_layered steps hf r with ⟨hs, hd, hk⟩
  have hi := Bus.intercepting_layered steps
  -- Both handlers are as the checks have them, so the checks stand in between.
  have hsaved : ((Bus.layered steps).entry r).saved = none ↔
      ((Bus.layered steps).entry r).checks.isEmpty = true := by
    rw [← Option.not_isSome_iff_eq_none, hs.saved_iff, Bool.not_eq_false]
  have hlive : ((Bus.layered steps).entry r).live.isDebug = false ↔
      ((Bus.layered steps).entry r).checks.isEmpty = true := by
    rw [← Bool.not_eq_true, hs.live_iff, Bool.not_eq_false]
  constructor
  case checks_iff_saved => rw [hsaved, Checks.isEmpty_iff]
  case saved_iff_live => rw [hsaved, hlive]
  case device_eq => exact hd
  case device_foreign =>
    rw [← hd]
    exact hs.device_ne
  case kind_eq => exact hk
  case checks_start =>
    intro h
    subst h
    have h : (Bus.layered ([] : List (LayerStep D R))).entry r = .unmapped :=
      Bus.entry_unmapped true r
    rw [h]
    rfl
  case checks_step =>
    intro step hr
    rw [Bus.layered_concat, LayerStep.entry_perform hi, if_pos hr]
    exact LayerStep.checksAfter_onEntry _ step
  case other_step =>
    intro step hr
    rw [Bus.layered_concat, LayerStep.entry_perform hi, if_neg hr]

/-- A region that is mapped while it is watched, over which a breakpoint comes to
    lie, and which is watched no longer in the end. -/
def LayerStep.remapped : List (LayerStep Bool Breakpoints) :=
  [.map none (Region.ofIndex 1) .rdram (.device true), .activate .read 0x12345,
    .map (some (Breakpoints.empty.add 0x10000 0x10003 (.union .enabled .write)).2)
      (Region.ofIndex 1) .rom (.device false),
    .deactivate .read 0x10000, .activate .write 0x1FFFC]

theorem layer_law_remapped :
    (∀ step ∈ LayerStep.remapped, step.Foreign) ∧
      LayerStep.lastHandler LayerStep.remapped (Region.ofIndex 1) = .device false ∧
      LayerLaw LayerStep.remapped (Region.ofIndex 1) :=
  ⟨by decide, by decide, (layer_law LayerStep.remapped (by decide) (Region.ofIndex 1)).1⟩

end RegionBus

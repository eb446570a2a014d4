import RegionBus.Proofs.Interception.Transparency
import RegionBus.Proofs.Machine.Following

/-!
# Mapping Back What Was Looked Up

Looking up an address tells the kind of device and the live handler. One would think
that mapping these back to the address changes nothing. In a region that is watched,
the live handler is the debug handler, and mapping it makes it the saved one. The
device is then lost: no switching of what is watched brings it back, and once nothing
is watched any more, every word of the region reads as zero.

Where the live handler is not the debug handler, mapping it back loses nothing. The
region has the same device as before, and the two buses serve it alike whatever is
watched later. So the live handler tells, before anything is mapped, whether the
mapping is harmless. This needs no assumption on how the bus was used before. It is
enough that a handler is saved iff something is watched, and that the debug handler is
live then, which even a mapping of the debug handler keeps.

## Main definitions

* `Switch`: A kind of access comes to be watched, or no longer is.
* `Bus.switched`: A bus after some switches.
* `Bus.lookedUp`: What looking up an address tells, as a mapping.
* `Session.reinstalled`: A session in which it is mapped back.
* `Bus.ServesLike`: A bus serves an address like another one, from now on.
* `RegionEntry.Paired`: A handler is saved iff something is watched.
* `RegionEntry.Lost`: There is no device behind the debug handler.
* `ReinstallLaw`: What mapping back does after some steps.

## Theorems

* `paired_run`: Every session keeps handlers saved where something is watched.
* `lost_switched`: A lost device does not come back.
* `servesLike_of_device_eq`: The device alone decides how an address is served.
* `reinstall_law`: When mapping back is harmless, and what it does.
-/

namespace RegionBus

variable {D R W : Type}

/-- A kind of access comes to be watched in the region of an address, or no longer is. -/
structure Switch where
  /-- Whether it is watched from now on. -/
  on : Bool
  /-- The kind of access. -/
  kind : AccessKind
  /-- The address. -/
  address : UInt32
  deriving DecidableEq, Repr

/-- The bus after a switch. -/
def Bus.switch (bus : Bus D) (w : Switch) : Bus D :=
  if w.on then bus.activate w.kind w.address else bus.deactivate w.kind w.address

/-- The bus after some switches. -/
def Bus.switched (bus : Bus D) (ws : List Switch) : Bus D :=
  ws.foldl switch bus

/-- What looking up an address tells, as a mapping of the address. -/
def Bus.lookedUp (bus : Bus D) (a : UInt32) : Mapping D :=
  ⟨a, a, (bus.entryAt a).kind, (bus.entryAt a).live⟩

/-- A session in which what looking up an address tells is mapped back to it, with the
    answer. -/
def Session.reinstalled [DeviceBank D W] [Registry R] (s : Session D R W) (a : UInt32) :
    Reply × Session D R W :=
  (BusStep.apply (s.bus.lookedUp a)).perform s

/-- The session that some steps lead to on a new bus with a breakpoint layer. -/
def Session.after [DeviceBank D W] [Registry R] (registry : Option R) (devices : W)
    (steps : List (BusStep D R)) : Session D R W :=
  ((start true registry devices).run steps).2

/-- After any switches, the second bus serves an address as the first one does. -/
structure Bus.ServesLike (R W : Type) [DeviceBank D W] [Registry R] (bus bus' : Bus D)
    (a : UInt32) : Prop where
  /-- If nothing is watched, the live handler is the device of the first bus. -/
  live : ∀ ws, ((bus'.switched ws).entryAt a).checks = .none →
    ((bus'.switched ws).entryAt a).live = ((bus.switched ws).entryAt a).device
  /-- A handler is saved iff something is watched. -/
  saved_iff : ∀ ws, ((bus'.switched ws).entryAt a).saved.isSome ↔
    ((bus'.switched ws).entryAt a).checks ≠ .none
  /-- It is never the debug handler. -/
  saved_ne : ∀ ws, ((bus'.switched ws).entryAt a).saved ≠ some .debug
  /-- What is read is what the first bus reads. -/
  read : ∀ ws width (p : Backplane R W),
    ((bus'.switched ws).read width a p).1 = ((bus.switched ws).read width a p).1

theorem Handler.isDebug_eq_false {handler : Handler D} (h : handler ≠ .debug) :
    handler.isDebug = false := by
  cases handler with
  | debug => exact absurd rfl h
  | openBus => rfl
  | device d => rfl

namespace RegionEntry

/-- A handler is saved iff something is watched, and then the debug handler is live. -/
structure Paired (e : RegionEntry D) : Prop where
  /-- A handler is saved iff something is watched. -/
  saved_iff : e.saved.isSome ↔ e.checks.isEmpty = false
  /-- The debug handler is live if something is watched. -/
  live_eq : e.checks.isEmpty = false → e.live = .debug

/-- There is no device behind the debug handler. -/
def Lost (e : RegionEntry D) : Prop :=
  e.live = .debug ∧ e.device = .debug

theorem paired_unmapped : (unmapped : RegionEntry D).Paired :=
  ⟨⟨fun h => absurd h Bool.false_ne_true, fun h => Bool.noConfusion h⟩,
    fun h => Bool.noConfusion h⟩

variable {e : RegionEntry D}

theorem paired_of_isEmpty (hc : e.checks.isEmpty = true) (hs : e.saved = none) : e.Paired where
  saved_iff := by rw [hs, hc]; exact iff_of_false Bool.false_ne_true Bool.noConfusion
  live_eq := by rw [hc]; exact Bool.noConfusion

theorem paired_of_watched (hc : e.checks.isEmpty = false) (hl : e.live = .debug)
    {handler : Handler D} (hs : e.saved = some handler) : e.Paired where
  saved_iff := by rw [hs, hc]; exact iff_of_true rfl rfl
  live_eq _ := hl

theorem Paired.saved_eq_none (h : e.Paired) (hc : e.checks.isEmpty = true) : e.saved = none := by
  rw [← Option.not_isSome_iff_eq_none, h.saved_iff, hc]
  exact Bool.noConfusion

/-- A mapping keeps the handlers paired, of whichever handler it is. -/
theorem paired_mapped (h : e.Paired) (kind : DeviceKind) (handler : Handler D)
    (wanted : Checks) : (e.mapped kind handler wanted).Paired := by
  unfold mapped
  by_cases hc : e.checks.isEmpty
  · rw [if_pos hc]
    by_cases hw : wanted.isEmpty
    · rw [if_pos hw]
      exact paired_of_isEmpty hc (h.saved_eq_none hc)
    · rw [if_neg hw]
      exact paired_of_watched ((Bool.not_eq_true _).mp hw) rfl rfl
  · have hwatched := (Bool.not_eq_true _).mp hc
    rw [if_neg hc]
    exact paired_of_watched hwatched (h.live_eq hwatched) rfl

theorem paired_watch (h : e.Paired) (k : AccessKind) : (e.watch k).Paired := by
  have hwatched := e.checks.isEmpty_set_true k
  unfold watch
  by_cases hc : e.checks.isEmpty
  · rw [if_pos hc]
    exact paired_of_watched hwatched rfl rfl
  · have hbefore := (Bool.not_eq_true _).mp hc
    rcases Option.isSome_iff_exists.mp (h.saved_iff.mpr hbefore) with ⟨handler, hs⟩
    rw [if_neg hc]
    exact paired_of_watched hwatched (h.live_eq hbefore) hs

theorem paired_unwatch (h : e.Paired) (k : AccessKind) : (e.unwatch k).Paired := by
  unfold unwatch
  dsimp only
  by_cases hc : e.checks.isEmpty
  · -- It was not watched, and so it is not now.
    have hempty := e.checks.isEmpty_set_false k hc
    rw [hempty, h.saved_eq_none hc]
    exact paired_of_isEmpty hempty rfl
  · have hbefore := (Bool.not_eq_true _).mp hc
    rcases Option.isSome_iff_exists.mp (h.saved_iff.mpr hbefore) with ⟨handler, hs⟩
    rw [hs]
    cases hrest : (e.checks.set k false).isEmpty with
    | true => exact paired_of_isEmpty hrest rfl
    | false => exact paired_of_watched hrest (h.live_eq hbefore) rfl

theorem paired_switched (h : e.Paired) (k : AccessKind) (on : Bool) :
    (e.switched k on).Paired := by
  rw [switched]
  split
  · exact paired_watch h k
  · exact paired_unwatch h k

theorem settled_switched {e : RegionEntry D} (h : e.Settled) (k : AccessKind) (on : Bool) :
    (e.switched k on).Settled := by
  rw [switched]
  split
  · exact settled_watch h k
  · exact settled_unwatch h k

theorem device_switched {e : RegionEntry D} (h : e.Settled) (k : AccessKind) (on : Bool) :
    (e.switched k on).device = e.device := by
  rw [switched]
  split
  · exact device_watch h k
  · exact device_unwatch e k

/-- Where the debug handler is not live, the region is settled, and nothing is watched. -/
theorem Paired.settled (h : e.Paired) (hne : e.live ≠ .debug) :
    e.Settled ∧ e.checks = .none ∧ e.device = e.live := by
  have hlive := Handler.isDebug_eq_false hne
  have hempty : e.checks.isEmpty = true := by
    by_contra hwatched
    exact hne (h.live_eq ((Bool.not_eq_true _).mp hwatched))
  have hsaved := h.saved_eq_none hempty
  have hdevice : e.device = e.live := by rw [device, hsaved, Option.getD_none]
  refine ⟨⟨h.saved_iff, ?_, hdevice ▸ hlive⟩, (Checks.isEmpty_iff _).mp hempty, hdevice⟩
  rw [hlive, hempty]
  exact ⟨fun h => absurd h Bool.false_ne_true, fun h => Bool.noConfusion h⟩

/-- Mapping the debug handler to a region where it is live loses the device. -/
theorem lost_mapped (h : e.Paired) (hlive : e.live = .debug) (kind : DeviceKind)
    (wanted : Checks) : (e.mapped kind .debug wanted).Lost := by
  unfold mapped
  by_cases hc : e.checks.isEmpty
  · rw [if_pos hc]
    split
    · -- Nothing is watched, so the debug handler is the device itself.
      refine ⟨rfl, ?_⟩
      rw [device, h.saved_eq_none hc, Option.getD_none]
    · exact ⟨rfl, rfl⟩
  · rw [if_neg hc]
    exact ⟨hlive, rfl⟩

/-- A switch does not bring a lost device back. -/
theorem lost_switched (hlost : e.Lost) (k : AccessKind) (on : Bool) : (e.switched k on).Lost := by
  rcases hlost with ⟨hlive, hdevice⟩
  rw [switched]
  split
  · unfold watch
    split
    · -- What is live, the debug handler, is saved under itself.
      exact ⟨rfl, hlive⟩
    · exact ⟨hlive, hdevice⟩
  · have hkept := (device_unwatch e k).trans hdevice
    refine ⟨?_, hkept⟩
    unfold unwatch
    dsimp only
    split
    · next handler _ hs =>
      -- The handler that is put back is the debug handler.
      rw [device, hs, Option.getD_some] at hdevice
      exact hdevice
    · exact hlive

/-- What is saved of a lost device is nothing, or the debug handler. -/
theorem Lost.saved_eq (h : e.Paired) (hlost : e.Lost) :
    e.saved = if e.checks.isEmpty then none else some .debug := by
  have hdevice := hlost.2
  have hs := h.saved_iff
  rw [device] at hdevice
  cases hsaved : e.saved with
  | none =>
      rw [hsaved] at hs
      rw [if_pos]
      by_contra hne
      exact absurd (hs.mpr ((Bool.not_eq_true _).mp hne)) Bool.false_ne_true
  | some handler =>
      rw [hsaved] at hdevice hs
      rw [if_neg (ne_true_of_eq_false (hs.mp rfl)), ← hdevice, Option.getD_some]

end RegionEntry

namespace Bus

variable {bus bus' : Bus D}

theorem intercepting_switch (bus : Bus D) (w : Switch) :
    (bus.switch w).intercepting = bus.intercepting := by
  rw [switch, activate, deactivate]
  split <;> split <;> rfl

/-- A switch matters to its region only. -/
theorem entry_switch (hi : bus.intercepting = true) (w : Switch) (r : Region) :
    (bus.switch w).entry r =
      if regionOf w.address = r then (bus.entry r).switched w.kind w.on else bus.entry r := by
  rw [switch, activate, if_pos hi, deactivate, if_pos hi, RegionEntry.switched]
  by_cases hr : regionOf w.address = r
  · subst hr
    split <;> rw [entry_update, if_pos rfl]
  · split <;> rw [entry_update, if_neg hr]

/-- What every switch of a region keeps, for two buses side by side, holds after any
    switches. -/
theorem switched_induction {motive : RegionEntry D → RegionEntry D → Prop}
    (hstep : ∀ e e' k on, motive e e' → motive (e.switched k on) (e'.switched k on))
    (hi : bus.intercepting = true) (hi' : bus'.intercepting = true) {r : Region}
    (hstart : motive (bus.entry r) (bus'.entry r)) (ws : List Switch) :
    motive ((bus.switched ws).entry r) ((bus'.switched ws).entry r) := by
  induction ws generalizing bus bus' with
  | nil => exact hstart
  | cons w ws ih =>
      refine ih ((bus.intercepting_switch w).trans hi) ((bus'.intercepting_switch w).trans hi') ?_
      rw [entry_switch hi, entry_switch hi']
      by_cases hr : regionOf w.address = r
      · rw [if_pos hr, if_pos hr]
        exact hstep _ _ w.kind w.on hstart
      · rw [if_neg hr, if_neg hr]
        exact hstart

section Read

variable [DeviceBank D W] [Registry R] {a : UInt32}

/-- A value is read alike from two buses if the words of its region are. -/
theorem read_congr (hword : ∀ b, regionOf b = regionOf a → ∀ p q : Backplane R W,
      p.devices = q.devices → (bus.readWord b p).1 = (bus'.readWord b q).1 ∧
        (bus.readWord b p).2.devices = (bus'.readWord b q).2.devices)
    (width : Width) (p : Backplane R W) : (bus.read width a p).1 = (bus'.read width a p).1 := by
  have ha := a.toNat_lt
  have hone : regionOf (a &&& ~~~3) = regionOf a := by
    apply Fin.ext
    simp only [regionOf, toNat_alignWord]
    omega
  have hvalue := (hword _ hone p p rfl).1
  cases width with
  | byte => simp only [read, read8_eq, hvalue]
  | half => simp only [read, read16_eq, hvalue]
  | word => simp only [read, read32, hvalue]
  | double =>
      have hhigh : regionOf (a &&& ~~~7) = regionOf a := by
        apply Fin.ext
        simp only [regionOf, toNat_alignDouble]
        omega
      have hlow : regionOf ((a &&& ~~~7) + 4) = regionOf a := by
        apply Fin.ext
        simp only [regionOf, toNat_secondWord]
        omega
      -- The second word is read in the state the first one left.
      rcases hword _ hhigh p p rfl with ⟨hfirst, hdevices⟩
      have hsecond := (hword _ hlow _ _ hdevices).1
      simp only [read, read64_eq, hfirst, hsecond]

/-- The device alone decides how an address is served. -/
theorem servesLike_of_device_eq (hi : bus.intercepting = true) (hi' : bus'.intercepting = true)
    (hs : (bus.entryAt a).Settled) (hs' : (bus'.entryAt a).Settled)
    (hd : (bus'.entryAt a).device = (bus.entryAt a).device) : bus.ServesLike R W bus' a := by
  have hkeep : ∀ ws, ((bus.switched ws).entryAt a).Settled ∧
      ((bus'.switched ws).entryAt a).Settled ∧
        ((bus'.switched ws).entryAt a).device = ((bus.switched ws).entryAt a).device := by
    refine switched_induction (motive := fun e e' => e.Settled ∧ e'.Settled ∧
      e'.device = e.device) ?_ hi hi' ⟨hs, hs', hd⟩
    rintro e e' k on ⟨he, he', hdevice⟩
    refine ⟨RegionEntry.settled_switched he k on, RegionEntry.settled_switched he' k on, ?_⟩
    rw [RegionEntry.device_switched he, RegionEntry.device_switched he', hdevice]
  constructor
  case live =>
    intro ws hchecks
    rcases hkeep ws with ⟨-, he', hdevice⟩
    rw [he'.live_eq, hchecks, ← hdevice]
    rfl
  case saved_iff =>
    intro ws
    rw [(hkeep ws).2.1.saved_iff, ← Bool.not_eq_true, Checks.isEmpty_iff]
  case saved_ne =>
    intro ws hsaved
    have hne := (hkeep ws).2.1.device_ne
    rw [RegionEntry.device, hsaved, Option.getD_some] at hne
    exact Bool.noConfusion hne
  case read =>
    intro ws width p
    rcases hkeep ws with ⟨he, he', hdevice⟩
    refine read_congr (fun b hb p q hpq => ?_) width p
    have hentry : ∀ bus : Bus D, bus.entryAt b = bus.entryAt a := fun bus => congrArg bus.entry hb
    rw [readWord_eq (by rw [hentry]; exact he'), readWord_eq (by rw [hentry]; exact he),
      hentry, hentry, hdevice, hpq]
    exact ⟨rfl, rfl⟩

end Read

end Bus

/-- A bus with a breakpoint layer that has the handlers of every region paired. -/
structure Bus.Paired (bus : Bus D) : Prop where
  /-- There is a breakpoint layer. -/
  intercepting : bus.intercepting = true
  /-- The handlers of a region are paired. -/
  entry : ∀ r, (bus.entry r).Paired

namespace Session

variable [DeviceBank D W] [Registry R] {s : Session D R W}

theorem paired_switch {bus : Bus D} (h : bus.Paired) (w : Switch) : (bus.switch w).Paired := by
  refine ⟨(bus.intercepting_switch w).trans h.intercepting, fun r => ?_⟩
  rw [Bus.entry_switch h.intercepting]
  split
  · exact RegionEntry.paired_switched (h.entry r) w.kind w.on
  · exact h.entry r

theorem paired_perform (h : s.bus.Paired) (step : BusStep D R) : (step.perform s).2.bus.Paired := by
  cases step with
  | apply m =>
      rw [BusStep.perform]
      cases hok : s.bus.apply s.plane.registry m with
      | error e => exact h
      | ok bus =>
          refine ⟨(Bus.intercepting_apply hok).trans h.intercepting, fun r => ?_⟩
          rw [Bus.entry_apply hok, h.intercepting]
          split
          · exact RegionEntry.paired_mapped (h.entry r) m.kind m.handler _
          · exact h.entry r
  | activate k a => exact paired_switch h ⟨true, k, a⟩
  | deactivate k a => exact paired_switch h ⟨false, k, a⟩
  | setLastPc pc => exact ⟨h.intercepting, h.entry⟩
  | exchange registry => exact h
  | read width a => exact h
  | write width a value => exact h
  | writeMasked a value mask => exact h

theorem paired_run (h : s.bus.Paired) (steps : List (BusStep D R)) :
    (s.run steps).2.bus.Paired := by
  induction steps generalizing s with
  | nil => exact h
  | cons step steps ih => exact ih (paired_perform h step)

theorem paired_after (registry : Option R) (devices : W) (steps : List (BusStep D R)) :
    (after registry devices steps).bus.Paired := by
  refine paired_run ⟨rfl, fun r => ?_⟩ steps
  exact (Bus.entry_unmapped true r).symm ▸ RegionEntry.paired_unmapped

/-- A handler that is mapped to one address is mapped to its region, and nothing else
    happens. -/
theorem apply_at (hi : s.bus.intercepting = true) (a : UInt32) (kind : DeviceKind)
    (handler : Handler D) : ∃ bus, (BusStep.apply ⟨a, a, kind, handler⟩).perform s =
        (.done, { s with bus := bus }) ∧ bus.intercepting = true ∧ bus.lastPc = s.bus.lastPc ∧
      ∀ r, bus.entry r = if regionOf a = r then
        Bus.installed true s.plane.registry kind handler r (s.bus.entry r) else s.bus.entry r := by
  rcases (Bus.apply_isOk_iff s.bus s.plane.registry ⟨a, a, kind, handler⟩).mpr
    (UInt32.le_refl a) with ⟨bus, hok⟩
  refine ⟨bus, ?_, (Bus.intercepting_apply hok).trans hi, Bus.lastPc_apply hok, fun r => ?_⟩
  · rw [BusStep.perform, hok]
  · have hcovers : (⟨a, a, kind, handler⟩ : Mapping D).covers r = true ↔ regionOf a = r := by
      rw [Mapping.covers, decide_eq_true (UInt32.le_refl a), Bool.true_and, Bool.and_eq_true,
        decide_eq_true_iff, decide_eq_true_iff]
      exact ⟨fun h => Fin.le_antisymm h.1 h.2, fun h => ⟨Fin.le_of_eq h, Fin.le_of_eq h.symm⟩⟩
    rw [Bus.entry_apply hok, hi]
    by_cases hr : regionOf a = r
    · rw [if_pos hr, if_pos (hcovers.mpr hr)]
    · rw [if_neg hr, if_neg fun h => hr (hcovers.mp h)]

variable {a : UInt32}

/-- Mapping its device to an address of a settled region loses nothing. -/
theorem servesLike_of_settled (hi : s.bus.intercepting = true) (hs : (s.bus.entryAt a).Settled)
    {handler : Handler D} (hd : handler = (s.bus.entryAt a).device) :
    s.bus.ServesLike R W ((BusStep.apply { s.bus.lookedUp a with handler := handler }).perform
      s).2.bus a := by
  rcases apply_at hi a (s.bus.entryAt a).kind handler with ⟨bus, hok, hi', -, hentry⟩
  have hat := (hentry (regionOf a)).trans (if_pos rfl)
  rw [Bus.lookedUp, hok]
  refine Bus.servesLike_of_device_eq hi hi' hs ?_ ?_
  · rw [Bus.entryAt, hat]
    exact RegionEntry.settled_mapped hs _ (hd ▸ hs.device_ne) _
  · rw [Bus.entryAt, hat, ← hd]
    exact RegionEntry.device_mapped hs _ handler _

/-- Where the debug handler is live and is mapped back, it stays for good. -/
theorem lost_switched (h : s.bus.Paired) (hlive : (s.bus.entryAt a).live = .debug)
    (ws : List Switch) :
    (((s.reinstalled a).2.bus.switched ws).entryAt a).Paired ∧
      (((s.reinstalled a).2.bus.switched ws).entryAt a).Lost := by
  have hpaired : (s.reinstalled a).2.bus.Paired := paired_perform h _
  rcases apply_at h.intercepting a (s.bus.entryAt a).kind (s.bus.entryAt a).live with
    ⟨bus, hok, hi, -, hentry⟩
  have hat := (hentry (regionOf a)).trans (if_pos rfl)
  rw [reinstalled, Bus.lookedUp, hok] at hpaired ⊢
  refine Bus.switched_induction (motive := fun e _ => e.Paired ∧ e.Lost) ?_ hi hi
    ⟨hpaired.entry _, ?_⟩ ws
  · rintro e - k on ⟨hpair, hlost⟩
    exact ⟨RegionEntry.paired_switched hpair k on, RegionEntry.lost_switched hlost k on⟩
  · rw [hat, hlive]
    exact RegionEntry.lost_mapped (h.entry (regionOf a)) hlive _ _

/-- And it becomes its own device if something comes to be watched. -/
theorem not_servesLike (h : s.bus.Paired) (hlive : (s.bus.entryAt a).live = .debug) :
    ¬ s.bus.ServesLike R W (s.reinstalled a).2.bus a := by
  intro hlike
  have hi := (paired_perform h (BusStep.apply (s.bus.lookedUp a))).intercepting
  rcases lost_switched h hlive [⟨true, .read, a⟩] with ⟨hpaired, hlost⟩
  have hwatched : (((s.reinstalled a).2.bus.switched [⟨true, .read, a⟩]).entryAt
      a).checks.isEmpty = false := by
    have hentry := (Bus.entry_switch hi ⟨true, .read, a⟩ (regionOf a)).trans (if_pos rfl)
    exact (congrArg (fun e => e.checks.isEmpty) hentry).trans
      (congrArg Checks.isEmpty (RegionEntry.checks_watch _ .read))
  have hsaved := hlost.saved_eq hpaired
  rw [hwatched] at hsaved
  exact hlike.saved_ne _ hsaved

/-- Where nothing is watched and nothing is saved, the debug handler answers every read
    with zero. -/
theorem readWord_of_lost {bus : Bus D} {b : UInt32} (hlive : (bus.entryAt b).live = .debug)
    (hsaved : (bus.entryAt b).saved = none) (hchecks : (bus.entryAt b).checks = .none)
    (p : Backplane R W) : bus.readWord b p = (0, p) := by
  have hnote : bus.note .read b 4 p = p := by
    rw [Bus.note_eq, Bus.told_of_isEmpty ((Checks.isEmpty_iff _).mpr hchecks)]
  rw [Bus.readWord, hlive]
  simp only [hnote, RegionEntry.forwarded, hsaved]
  rfl

/-- Where nothing is watched and the debug handler was never mapped, a plain bus takes
    the place of both sessions, before and after. -/
theorem mirrors_reinstalled {t : Session D R W} (h : s.Mirrors t)
    (hchecks : (s.bus.entryAt a).checks = .none) : (s.reinstalled a).2.Mirrors t := by
  have he := h.bus.entry (regionOf a)
  rcases apply_at h.bus.intercepting a (s.bus.entryAt a).kind (s.bus.entryAt a).live with
    ⟨bus, hok, hi, -, hentry⟩
  have hlive : (s.bus.entryAt a).live = (s.bus.entryAt a).device :=
    he.settled.live_eq.trans (if_pos ((Checks.isEmpty_iff _).mpr hchecks))
  rw [reinstalled, Bus.lookedUp, hok]
  refine ⟨⟨hi, h.bus.not_intercepting, fun r => ?_⟩, h.devices⟩
  rw [hentry]
  by_cases hr : regionOf a = r
  · rw [if_pos hr, ← hr]
    exact he.rewatched (RegionEntry.settled_mapped he.settled _ (hlive ▸ he.settled.device_ne) _)
      ((RegionEntry.device_mapped he.settled _ _ _).trans hlive)
      (RegionEntry.kind_mapped _ _ _ _)
  · rw [if_neg hr]
    exact h.bus.entry r

end Session

section Law

variable [DeviceBank D W] [Registry R] (s : Session D R W) (a : UInt32)

/-- What it does to map back to an address what was looked up there. -/
structure ReinstallLaw : Prop where
  /-- It is never refused. -/
  accepted : (s.reinstalled a).1 = .done
  /-- It loses nothing iff the debug handler is not live. -/
  harmless_iff : s.bus.ServesLike R W (s.reinstalled a).2.bus a ↔ (s.bus.entryAt a).live ≠ .debug
  /-- If the debug handler is live, the region has no device any more. The debug handler
      stays live, and no other is ever saved. -/
  lost : (s.bus.entryAt a).live = .debug → ∀ ws,
    (((s.reinstalled a).2.bus.switched ws).entryAt a).live = .debug ∧
      (((s.reinstalled a).2.bus.switched ws).entryAt a).saved =
        if (((s.reinstalled a).2.bus.switched ws).entryAt a).checks.isEmpty then none
        else some .debug
  /-- Once nothing is watched there, all words of the region read as zero, and no device
      is asked. -/
  silent : (s.bus.entryAt a).live = .debug → ∀ ws,
    (((s.reinstalled a).2.bus.switched ws).entryAt a).checks = .none →
      ∀ b (p : Backplane R W), regionOf b = regionOf a →
        ((s.reinstalled a).2.bus.switched ws).readWord b p = (0, p)
  /-- Other regions do not take part. -/
  others : ∀ r, r ≠ regionOf a → (s.reinstalled a).2.bus.entry r = s.bus.entry r

/-- What else is known of it if the debug handler was never mapped before. -/
structure ForeignReinstallLaw : Prop where
  /-- It loses nothing iff nothing is watched. -/
  harmless_iff : s.bus.ServesLike R W (s.reinstalled a).2.bus a ↔
    (s.bus.entryAt a).checks = .none
  /-- In that case nobody can tell later whether it was done. -/
  later : (s.bus.entryAt a).checks = .none → ∀ steps : List (BusStep D R),
    (∀ step ∈ steps, step.Foreign) →
      ((s.reinstalled a).2.run steps).1 = (s.run steps).1 ∧
        ((s.reinstalled a).2.run steps).2.plane.devices = (s.run steps).2.plane.devices
  /-- Mapping the device in place of the live handler would lose nothing in any case. -/
  device : s.bus.ServesLike R W ((BusStep.apply { s.bus.lookedUp a with
    handler := (s.bus.entryAt a).device }).perform s).2.bus a

end Law

/-- Mapping back what was looked up loses the device of a region that is watched, and
    nothing otherwise. -/
theorem reinstall_law [DeviceBank D W] [Registry R] (registry : Option R) (devices : W)
    (steps : List (BusStep D R)) (a : UInt32) :
    ReinstallLaw (Session.after registry devices steps) a ∧
      ((∀ step ∈ steps, step.Foreign) →
        ForeignReinstallLaw (Session.after registry devices steps) a) := by
  have hpaired := Session.paired_after registry devices steps
  constructor
  · constructor
    case accepted =>
      rcases Session.apply_at hpaired.intercepting a _ _ with ⟨bus, hok, -⟩
      exact congrArg Prod.fst hok
    case harmless_iff =>
      constructor
      · exact fun hlike hlive => Session.not_servesLike hpaired hlive hlike
      · intro hne
        rcases (hpaired.entry (regionOf a)).settled hne with ⟨hs, -, hdevice⟩
        exact Session.servesLike_of_settled hpaired.intercepting hs hdevice.symm
    case lost =>
      intro hlive ws
      rcases Session.lost_switched hpaired hlive ws with ⟨hpair, hlost⟩
      exact ⟨hlost.1, hlost.saved_eq hpair⟩
    case silent =>
      intro hlive ws hchecks b p hb
      rcases Session.lost_switched hpaired hlive ws with ⟨hpair, hlost⟩
      have hsaved := hlost.saved_eq hpair
      rw [if_pos ((Checks.isEmpty_iff _).mpr hchecks)] at hsaved
      have hentry := congrArg (((Session.after registry devices steps).reinstalled
        a).2.bus.switched ws).entry hb
      exact Session.readWord_of_lost ((congrArg _ hentry).trans hlost.1)
        ((congrArg _ hentry).trans hsaved) ((congrArg _ hentry).trans hchecks) p
    case others =>
      intro r hr
      rcases Session.apply_at hpaired.intercepting a _ _ with ⟨bus, hok, -, -, hentry⟩
      rw [Session.reinstalled, Bus.lookedUp, hok, hentry, if_neg (Ne.symm hr)]
  · intro hforeign
    have hstart : (Session.start true registry devices : Session D R W).Mirrors
        (Session.start false registry devices) := ⟨mirrors_unmapped, rfl⟩
    have hmirrors := (Session.mirrors_run hstart hforeign).2
    have hs := (hmirrors.bus.entry (regionOf a)).settled
    constructor
    case harmless_iff =>
      constructor
      · intro hlike
        by_contra hne
        refine Session.not_servesLike hpaired ?_ hlike
        exact (hpaired.entry (regionOf a)).live_eq
          ((Bool.not_eq_true _).mp fun h => hne ((Checks.isEmpty_iff _).mp h))
      · intro hchecks
        refine Session.servesLike_of_settled hpaired.intercepting hs ?_
        exact hs.live_eq.trans (if_pos ((Checks.isEmpty_iff _).mpr hchecks))
    case later =>
      intro hchecks next hnext
      have hbefore := Session.mirrors_run hmirrors hnext
      have hafter := Session.mirrors_run (Session.mirrors_reinstalled hmirrors hchecks) hnext
      exact ⟨hafter.1.trans hbefore.1.symm, hafter.2.devices.trans hbefore.2.devices.symm⟩
    case device => exact Session.servesLike_of_settled hpaired.intercepting hs rfl

/-- A session in which main memory was mapped and reads of it came to be watched. -/
def Session.watchedOnce : Session (Device Empty) Breakpoints (Hardware Unit) :=
  after none (.ofStore (Store.ofGrants 0x10000 []) ())
    [.apply ⟨0, 0xFFFF, .rdram, .device (.ram lowDram)⟩, .activate .read 0x1000]

theorem Session.entryAt_watchedOnce : Session.watchedOnce.bus.entryAt 0x1000 =
    ⟨.rdram, .debug, some (.device (.ram lowDram)), ⟨true, false⟩⟩ := by
  rcases (Bus.apply_isOk_iff (Bus.unmapped true) (none : Option Breakpoints)
    ⟨0, 0xFFFF, .rdram, .device (Device.ram (X := Empty) lowDram)⟩).mpr (by decide) with
    ⟨mapped, hok⟩
  have hrun : watchedOnce.bus = mapped.switch ⟨true, .read, 0x1000⟩ := by
    simp only [watchedOnce, after, run, start, BusStep.perform, hok]
    rfl
  have hmapped : mapped.entry (regionOf 0x1000) =
      ⟨.rdram, .device (.ram lowDram), none, .none⟩ := by
    rw [Bus.entry_apply hok, if_pos (by decide), Bus.entry_unmapped]
    rfl
  rw [hrun, Bus.entryAt, Bus.entry_switch (Bus.intercepting_apply hok), if_pos rfl, hmapped]
  rfl

/-- Main memory is back when it is no longer watched. If what was looked up was mapped
    back before, the debug handler is there instead, and it has nothing saved. -/
theorem device_lost :
    ((Session.watchedOnce.bus.switched [⟨false, .read, 0x1000⟩]).entryAt 0x1000).live =
        .device (.ram lowDram) ∧
      ((Session.watchedOnce.reinstalled 0x1000).2.bus.entryAt 0x1000).saved = some .debug ∧
      ((Session.watchedOnce.reinstalled 0x1000).2.bus.switched
        [⟨false, .read, 0x1000⟩]).entryAt 0x1000 = ⟨.rdram, .debug, none, .none⟩ ∧
      ¬ Session.watchedOnce.bus.ServesLike Breakpoints (Hardware Unit)
        (Session.watchedOnce.reinstalled 0x1000).2.bus 0x1000 := by
  have hi : Session.watchedOnce.bus.intercepting = true :=
    (Session.paired_after none _ _).intercepting
  have hentry := Session.entryAt_watchedOnce
  have hbefore : (Session.watchedOnce.bus.switched [⟨false, .read, 0x1000⟩]).entryAt 0x1000 =
      (Session.watchedOnce.bus.entryAt 0x1000).switched .read false :=
    (Bus.entry_switch hi ⟨false, .read, 0x1000⟩ (regionOf 0x1000)).trans (if_pos rfl)
  rcases Session.apply_at hi 0x1000 (Session.watchedOnce.bus.entryAt 0x1000).kind
    (Session.watchedOnce.bus.entryAt 0x1000).live with ⟨bus, hok, hi', -, hmapped⟩
  have hat : bus.entryAt 0x1000 = ⟨.rdram, .debug, some .debug, ⟨true, false⟩⟩ := by
    refine ((hmapped (regionOf 0x1000)).trans (if_pos rfl)).trans ?_
    have hentry' : Session.watchedOnce.bus.entry (regionOf 0x1000) = _ := hentry
    rw [hentry, hentry']
    rfl
  have hafter : (bus.switched [⟨false, .read, 0x1000⟩]).entryAt 0x1000 =
      (bus.entryAt 0x1000).switched .read false :=
    (Bus.entry_switch hi' ⟨false, .read, 0x1000⟩ (regionOf 0x1000)).trans (if_pos rfl)
  rw [Session.reinstalled, Bus.lookedUp, hok, hbefore, hentry]
  refine ⟨rfl, congrArg RegionEntry.saved hat, ?_, fun hlike => ?_⟩
  · rw [hafter, hat]
    rfl
  · exact hlike.saved_ne [] (congrArg RegionEntry.saved hat)

end RegionBus

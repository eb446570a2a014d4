import Mathlib.Data.List.Induction
import Mathlib.Data.List.Nodup
import RegionBus.Bus.Basic

/-!
# What a Mapping Covers

A mapping is installed region by region, in a loop over all regions between its
two bounds. Seen from one region the loop is short: the region is changed once
if the mapping covers it, and not at all otherwise. `entry_apply` says so for
either kind of bus, and nothing after it has to look at the loop again.

Where several mappings follow each other, what counts for a region is the last
one that covers it. `lastOver?` picks it out of a history of mappings, and the
`concat` lemmas say how the pick changes when one more mapping comes. A mapping
with its bounds the wrong way round is refused by the bus and covers nothing, so
it may stand in a history without being noticed.

## Main definitions

* `Mapping.covers`: Whether a mapping is installed over a region.
* `Mapping.lastOver?`: The last mapping over a region.
* `Mapping.handlerOver`, `Mapping.kindOver`: What it attached there.
* `Bus.installed`: One region with a handler mapped to it.

## Theorems

* `entry_foldl_update`: A loop over distinct regions changes each of them once.
* `entry_apply`: What a mapping does to each region.
* `apply_isOk_iff`: Which mappings are refused.
* `handlerOver_concat`, `kindOver_concat`: One more mapping in a history.
* `foldlM_apply_induction`: What every mapping keeps holds in the end.
* `intercepting_ofMappings`, `lastPc_ofMappings`: A bus that was built from mappings.
-/

namespace RegionBus

variable {D R : Type}

theorem Region.nodup_between (first last : Region) : (Region.between first last).Nodup := by
  have hl := last.isLt
  rw [Region.between]
  have hrange : (List.range' first.val (last.val + 1 - first.val)).Nodup := List.nodup_range'
  refine List.Nodup.map_on ?_ hrange
  intro i hi j hj hij
  rw [List.mem_range'_1] at hi hj
  -- Both indices are in range, so they are those of their regions.
  have hval : i % regionCount = j % regionCount := congrArg Fin.val hij
  rwa [Nat.mod_eq_of_lt (by omega), Nat.mod_eq_of_lt (by omega)] at hval

namespace Mapping

/-- Whether a mapping is installed over a region: it is in order, and the region
    lies between those of its two bounds. -/
def covers (m : Mapping D) (r : Region) : Bool :=
  m.first ≤ m.last && (regionOf m.first ≤ r && r ≤ regionOf m.last)

/-- The last mapping of a history that covers a region. -/
def lastOver? (history : List (Mapping D)) (r : Region) : Option (Mapping D) :=
  history.reverse.find? fun m => m.covers r

/-- The handler that the last mapping attached to a region; before any mapping it
    is the open bus. -/
def handlerOver (history : List (Mapping D)) (r : Region) : Handler D :=
  (lastOver? history r).elim .openBus Mapping.handler

/-- The kind of device that the last mapping attached to a region. -/
def kindOver (history : List (Mapping D)) (r : Region) : DeviceKind :=
  (lastOver? history r).elim .nothing Mapping.kind

theorem lastOver?_concat (history : List (Mapping D)) (m : Mapping D) (r : Region) :
    lastOver? (history ++ [m]) r = if m.covers r then some m else lastOver? history r := by
  rw [lastOver?, List.reverse_append, List.reverse_singleton, List.singleton_append,
    List.find?_cons]
  by_cases h : m.covers r
  · rw [h, if_pos rfl]
  · rw [if_neg h, (Bool.not_eq_true _).mp h]
    rfl

theorem handlerOver_concat (history : List (Mapping D)) (m : Mapping D) (r : Region) :
    handlerOver (history ++ [m]) r = if m.covers r then m.handler else handlerOver history r := by
  rw [handlerOver, lastOver?_concat, handlerOver]
  split <;> rfl

theorem kindOver_concat (history : List (Mapping D)) (m : Mapping D) (r : Region) :
    kindOver (history ++ [m]) r = if m.covers r then m.kind else kindOver history r := by
  rw [kindOver, lastOver?_concat, kindOver]
  split <;> rfl

theorem regions_eq (m : Mapping D) : m.regions =
    if m.first ≤ m.last then .ok (regionOf m.first, regionOf m.last)
    else .error (.invertedRange m.first m.last) := by
  rw [regions]
  by_cases h : m.first ≤ m.last
  · rw [if_neg (UInt32.not_lt.mpr h), if_pos h]
  · rw [if_pos (UInt32.not_le.mp h), if_neg h]

end Mapping

namespace Bus

/-- A loop over distinct regions that changes one region in each round changes
    each of them once, and no other. -/
theorem entry_foldl_update (f : Region → RegionEntry D → RegionEntry D) (l : List Region)
    (hl : l.Nodup) (bus : Bus D) (s : Region) :
    (s ∈ l → (l.foldl (fun bus r => bus.update r (f r)) bus).entry s = f s (bus.entry s)) ∧
      (s ∉ l → (l.foldl (fun bus r => bus.update r (f r)) bus).entry s = bus.entry s) := by
  induction l generalizing bus with
  | nil => exact ⟨fun hs => absurd hs List.not_mem_nil, fun _ => rfl⟩
  | cons r l ih =>
      have hr := (List.nodup_cons.mp hl).1
      rcases ih (List.nodup_cons.mp hl).2 (bus.update r (f r)) with ⟨hin, hout⟩
      rw [entry_update] at hin hout
      rw [List.foldl_cons]
      by_cases hs : r = s
      · -- This round was for `s`, and no later one is.
        subst hs
        rw [if_pos rfl] at hout
        exact ⟨fun _ => hout hr, fun hnot => absurd List.mem_cons_self hnot⟩
      · rw [if_neg hs] at hin hout
        refine ⟨fun hmem => hin ?_, fun hnot => hout fun hmem => ?_⟩
        · exact (List.mem_cons.mp hmem).resolve_left (Ne.symm hs)
        · exact hnot (List.mem_cons_of_mem r hmem)

/-- One region with a handler mapped to it, on a bus with or without a breakpoint
    layer. -/
def installed [Registry R] (intercepting : Bool) (registry : Option R) (kind : DeviceKind)
    (handler : Handler D) (r : Region) (e : RegionEntry D) : RegionEntry D :=
  if intercepting then
    e.mapped kind handler (if e.checks.isEmpty then wantedChecks registry r else .none)
  else { e with kind := kind, live := handler }

theorem mapRegion_eq [Registry R] (bus : Bus D) (registry : Option R) (kind : DeviceKind)
    (handler : Handler D) (r : Region) : bus.mapRegion registry kind handler r =
      bus.update r (installed bus.intercepting registry kind handler r) := by
  rw [mapRegion]
  by_cases h : bus.intercepting
  · rw [if_pos h, h]
    rfl
  · rw [if_neg h, (Bool.not_eq_true _).mp h]
    rfl

/-- The loop of a mapping, with the bus's kind read once in front of it. -/
theorem foldl_mapRegion [Registry R] (registry : Option R) (kind : DeviceKind)
    (handler : Handler D) (l : List Region) (bus : Bus D) :
    l.foldl (fun bus r => bus.mapRegion registry kind handler r) bus =
      l.foldl (fun b r => b.update r (installed bus.intercepting registry kind handler r)) bus := by
  induction l generalizing bus with
  | nil => rfl
  | cons r l ih =>
      rw [List.foldl_cons, List.foldl_cons, ih, mapRegion_eq, intercepting_update]

theorem intercepting_foldl_update (f : Region → RegionEntry D → RegionEntry D)
    (l : List Region) (bus : Bus D) :
    (l.foldl (fun bus r => bus.update r (f r)) bus).intercepting = bus.intercepting := by
  induction l generalizing bus with
  | nil => rfl
  | cons r l ih => rw [List.foldl_cons, ih, intercepting_update]

theorem lastPc_foldl_update (f : Region → RegionEntry D → RegionEntry D)
    (l : List Region) (bus : Bus D) :
    (l.foldl (fun bus r => bus.update r (f r)) bus).lastPc = bus.lastPc := by
  induction l generalizing bus with
  | nil => rfl
  | cons r l ih => rw [List.foldl_cons, ih, lastPc_update]

section Apply

variable [Registry R]

theorem apply_eq (bus : Bus D) (registry : Option R) (m : Mapping D) :
    bus.apply registry m =
      if m.first ≤ m.last then
        .ok ((Region.between (regionOf m.first) (regionOf m.last)).foldl
          (fun b r => b.update r (installed bus.intercepting registry m.kind m.handler r)) bus)
      else .error (.invertedRange m.first m.last) := by
  rw [apply, Mapping.regions_eq]
  by_cases h : m.first ≤ m.last
  · rw [if_pos h, if_pos h, ← foldl_mapRegion]
  · rw [if_neg h, if_neg h]

/-- A mapping is refused iff its bounds are the wrong way round. -/
theorem apply_isOk_iff (bus : Bus D) (registry : Option R) (m : Mapping D) :
    (∃ bus', bus.apply registry m = .ok bus') ↔ m.first ≤ m.last := by
  rw [apply_eq]
  by_cases h : m.first ≤ m.last
  · rw [if_pos h]
    exact ⟨fun _ => h, fun _ => ⟨_, rfl⟩⟩
  · rw [if_neg h]
    refine ⟨fun hc => ?_, fun hc => absurd hc h⟩
    rcases hc with ⟨bus', hc⟩
    cases hc

variable {bus bus' : Bus D} {registry : Option R} {m : Mapping D}

theorem eq_of_apply (h : bus.apply registry m = .ok bus') :
    m.first ≤ m.last ∧
      bus' = (Region.between (regionOf m.first) (regionOf m.last)).foldl
        (fun b r => b.update r (installed bus.intercepting registry m.kind m.handler r)) bus := by
  have hle : m.first ≤ m.last := (apply_isOk_iff bus registry m).mp ⟨bus', h⟩
  rw [apply_eq, if_pos hle] at h
  exact ⟨hle, (Except.ok.inj h).symm⟩

theorem intercepting_apply (h : bus.apply registry m = .ok bus') :
    bus'.intercepting = bus.intercepting := by
  rw [(eq_of_apply h).2, intercepting_foldl_update]

theorem lastPc_apply (h : bus.apply registry m = .ok bus') : bus'.lastPc = bus.lastPc := by
  rw [(eq_of_apply h).2, lastPc_foldl_update]

theorem entry_apply (h : bus.apply registry m = .ok bus') (r : Region) :
    bus'.entry r =
      if m.covers r then
        installed bus.intercepting registry m.kind m.handler r (bus.entry r)
      else bus.entry r := by
  rcases eq_of_apply h with ⟨hle, hbus⟩
  -- The loop of the mapping runs over the regions it covers.
  have hcovers : m.covers r = true ↔
      r ∈ Region.between (regionOf m.first) (regionOf m.last) := by
    rw [Mapping.covers, Region.mem_between]
    simp only [hle, decide_true, Bool.true_and, Bool.and_eq_true, decide_eq_true_eq]
  rcases entry_foldl_update (installed bus.intercepting registry m.kind m.handler)
    (Region.between (regionOf m.first) (regionOf m.last)) (Region.nodup_between _ _) bus r with
    ⟨hin, hout⟩
  rw [hbus]
  by_cases hr : m.covers r
  · rw [if_pos hr, hin (hcovers.mp hr)]
  · rw [if_neg hr, hout fun hmem => hr (hcovers.mpr hmem)]

theorem not_le_of_apply_error {e : MemoryError} (h : bus.apply registry m = .error e) :
    ¬ m.first ≤ m.last := by
  intro hle
  rcases (apply_isOk_iff bus registry m).mpr hle with ⟨bus', hok⟩
  rw [hok] at h
  cases h

/-- A mapping that one bus refuses is refused by every bus, for the same reason. -/
theorem apply_error_eq {e : MemoryError} (h : bus.apply registry m = .error e) (bus' : Bus D)
    (registry' : Option R) : bus'.apply registry' m = .error e := by
  have hle := not_le_of_apply_error h
  rw [apply_eq, if_neg hle] at h ⊢
  exact h

/-- A refused mapping covers nothing. -/
theorem covers_of_apply_error {e : MemoryError} (h : bus.apply registry m = .error e)
    (r : Region) : m.covers r = false := by
  rw [Mapping.covers, decide_eq_false (not_le_of_apply_error h), Bool.false_and]

/-- What holds before any mapping, and is kept by each one that is installed, holds
    when all of them were installed in order. -/
theorem foldlM_apply_induction {motive : List (Mapping D) → Bus D → Prop}
    {mappings : List (Mapping D)} (hstart : motive [] bus)
    (hstep : ∀ history m next next', m ∈ mappings → motive history next →
      next.apply registry m = .ok next' → motive (history ++ [m]) next')
    (hok : mappings.foldlM (fun bus m => bus.apply registry m) bus = .ok bus') :
    motive mappings bus' := by
  -- The last mapping is taken off first, so that the history grows at its end.
  induction mappings using List.reverseRecOn generalizing bus' with
  | nil =>
      rw [← Except.ok.inj hok]
      exact hstart
  | append_singleton mappings m ih =>
      rw [List.foldlM_append] at hok
      cases hlast : mappings.foldlM (fun bus m => bus.apply registry m) bus with
      | error e =>
          rw [hlast] at hok
          cases hok
      | ok next =>
          rw [hlast] at hok
          have hm : (next.apply registry m >>= pure) = .ok bus' := hok
          rw [bind_pure] at hm
          have hbefore : motive mappings next := ih (fun history x before after hx =>
            hstep history x before after (List.mem_append_left [m] hx)) hlast
          exact hstep mappings m next bus' (List.mem_append_right mappings List.mem_cons_self)
            hbefore hm

/-- Mappings that are all in order are installed. -/
theorem exists_foldlM_apply (registry : Option R) {mappings : List (Mapping D)}
    (hle : ∀ m ∈ mappings, m.first ≤ m.last) (bus : Bus D) :
    ∃ bus', mappings.foldlM (fun bus m => bus.apply registry m) bus = .ok bus' := by
  induction mappings generalizing bus with
  | nil => exact ⟨bus, rfl⟩
  | cons m mappings ih =>
      rcases (apply_isOk_iff bus registry m).mpr (hle m List.mem_cons_self) with ⟨next, hnext⟩
      rw [List.foldlM_cons, hnext]
      exact ih (fun x hx => hle x (List.mem_cons_of_mem m hx)) next

section OfMappings

variable {intercepting : Bool} {mappings : List (Mapping D)}

theorem intercepting_ofMappings (hbus : ofMappings intercepting registry mappings = .ok bus) :
    bus.intercepting = intercepting := by
  refine foldlM_apply_induction (motive := fun _ bus => bus.intercepting = intercepting) rfl ?_ hbus
  intro history m next next' hmem hnext happly
  rw [intercepting_apply happly, hnext]

theorem lastPc_ofMappings (hbus : ofMappings intercepting registry mappings = .ok bus) :
    bus.lastPc = 0 := by
  refine foldlM_apply_induction (motive := fun _ bus => bus.lastPc = 0) rfl ?_ hbus
  intro history m next next' hmem hnext happly
  rw [lastPc_apply happly, hnext]

end OfMappings

end Apply

end Bus

end RegionBus

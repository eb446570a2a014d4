import RegionBus.Machine
import RegionBus.Proofs.Breakpoint.Slots
import RegionBus.Proofs.Bus.Reports
import RegionBus.Proofs.Mapping.Coverage

/-!
# A Bus in Line with its Registry

`Bus.Follows` is the invariant that ties a bus to what happened to it: in every
region the device and its kind are those of the last mapping, what is watched is
what the registry wants watched, and the handlers agree with both. Since a
settled region is known by these three, a bus that follows given mappings and a
given registry is known too, up to the program counter.

The invariant is kept by a mapping because a mapping either asks the registry or
finds a region that already watches what the registry wants. It is kept by a
change of the registry because the regions between the two bounds are asked
again, and `Follows.sync` needs of every other region only that the registry
wants there what it wanted before.

A bus that follows its registry is as good as the registry itself. An access to
an unwatched region is not reported, and `Follows.told` says that reporting it
would have made no difference: a breakpoint that meets the access meets the
region as well, so the region would be watched.

## Main definitions

* `RegionEntry.Serves`: What is known of a region, in terms of what led to it.
* `RegionEntry.rewatched`: A region with other kinds of access watched.
* `Bus.Follows`: A bus in line with its mappings and its registry.

## Theorems

* `Serves.unique`: A region is known by its kind, its device and what is wanted.
* `Serves.mapped`, `Serves.rewatched`: A region after each kind of change.
* `Follows.apply`, `Follows.refused`, `Follows.sync`: Every change keeps a bus in line.
* `Follows.told`: Every access might as well be reported.
-/

namespace RegionBus

variable {D R W : Type}

namespace RegionEntry

/-- A region serves a device of a kind and watches what is wanted. -/
structure Serves (e : RegionEntry D) (kind : DeviceKind) (device : Handler D)
    (wanted : Checks) : Prop where
  /-- The handlers agree with the checks. -/
  settled : e.Settled
  /-- The kind of device. -/
  kind_eq : e.kind = kind
  /-- The device. -/
  device_eq : e.device = device
  /-- What is watched. -/
  checks_eq : e.checks = wanted

/-- A region with a kind of access watched or not. -/
def switched (e : RegionEntry D) (k : AccessKind) (on : Bool) : RegionEntry D :=
  if on then e.watch k else e.unwatch k

/-- A region with other kinds of access watched. -/
def rewatched (e : RegionEntry D) (wanted : Checks) : RegionEntry D :=
  (e.switched .read wanted.read).switched .write wanted.write

variable {e f : RegionEntry D} {kind : DeviceKind} {device : Handler D} {wanted : Checks}

theorem serves_unmapped : (unmapped : RegionEntry D).Serves .nothing .openBus .none :=
  ⟨settled_unmapped, rfl, rfl, rfl⟩

/-- A region is known by its kind, its device and what is wanted. -/
theorem Serves.unique (he : e.Serves kind device wanted) (hf : f.Serves kind device wanted) :
    e = f := by
  refine Settled.ext he.settled hf.settled ?_ ?_ ?_
  · rw [he.kind_eq, hf.kind_eq]
  · rw [he.device_eq, hf.device_eq]
  · rw [he.checks_eq, hf.checks_eq]

/-- A mapping attaches another device. The registry is asked only if nothing is
    watched, but a watched region already watches what it would answer. -/
theorem Serves.mapped (h : e.Serves kind device wanted) (kind' : DeviceKind)
    {handler : Handler D} (hh : handler.isDebug = false) :
    (e.mapped kind' handler (if e.checks.isEmpty then wanted else .none)).Serves
      kind' handler wanted := by
  constructor
  case settled => exact settled_mapped h.settled kind' hh _
  case kind_eq => exact kind_mapped e kind' handler _
  case device_eq => exact device_mapped h.settled kind' handler _
  case checks_eq =>
    -- Asked again or not, the answer would be `wanted`.
    rw [checks_mapped]
    by_cases hc : e.checks.isEmpty
    · rw [if_pos hc, if_pos hc]
    · rw [if_neg hc, h.checks_eq]

theorem Serves.switched (h : e.Serves kind device wanted) (k : AccessKind) (on : Bool) :
    (e.switched k on).Serves kind device (wanted.set k on) := by
  cases on with
  | true =>
      refine ⟨settled_watch h.settled k, ?_, ?_, ?_⟩
      · exact (kind_watch e k).trans h.kind_eq
      · exact (device_watch h.settled k).trans h.device_eq
      · rw [← h.checks_eq]
        exact checks_watch e k
  | false =>
      refine ⟨settled_unwatch h.settled k, ?_, ?_, ?_⟩
      · exact (kind_unwatch e k).trans h.kind_eq
      · exact (device_unwatch e k).trans h.device_eq
      · rw [← h.checks_eq]
        exact checks_unwatch e k

/-- A region that is asked again watches what is wanted now. -/
theorem Serves.rewatched (h : e.Serves kind device wanted) (wanted' : Checks) :
    (e.rewatched wanted').Serves kind device wanted' :=
  (h.switched .read wanted'.read).switched .write wanted'.write

end RegionEntry

/-- A bus in line with its mappings and its registry: every region serves the
    device of the last mapping and watches what the registry wants. -/
structure Bus.Follows (history : List (Mapping D)) (l : Breakpoints) (bus : Bus D) : Prop where
  /-- The bus has a breakpoint layer. -/
  intercepting : bus.intercepting = true
  /-- Every region serves what it should. -/
  serves : ∀ r, (bus.entry r).Serves (Mapping.kindOver history r) (Mapping.handlerOver history r)
    (Bus.wantedChecks (some l) r)

/-- Without breakpoints nothing is wanted. -/
theorem Breakpoints.wantedChecks_empty (r : Region) :
    Bus.wantedChecks (some Breakpoints.empty) r = .none := by
  have hnone : ∀ flags, Breakpoints.empty.lookup? r.base regionSize flags = none := by
    intro flags
    rw [lookup?_region, find?]
    exact Array.findIdx?_empty
  simp only [Bus.wantedChecks, Registry.lookup?, hnone]
  rfl

theorem Bus.follows_unmapped : (Bus.unmapped true : Bus D).Follows [] .empty := by
  refine ⟨rfl, fun r => ?_⟩
  rw [Bus.entry_unmapped, Breakpoints.wantedChecks_empty]
  exact RegionEntry.serves_unmapped

namespace Bus.Follows

variable {history : List (Mapping D)} {l : Breakpoints} {bus : Bus D}

/-- Two buses in line with the same mappings and with registries that want the
    same watched know the same of every region. -/
theorem entry_eq (h : bus.Follows history l) {l' : Breakpoints} {bus' : Bus D}
    (h' : bus'.Follows history l') {r : Region}
    (hw : wantedChecks (some l) r = wantedChecks (some l') r) : bus.entry r = bus'.entry r :=
  (h.serves r).unique (hw ▸ h'.serves r)

theorem settled (h : bus.Follows history l) (r : Region) : (bus.entry r).Settled :=
  (h.serves r).settled

theorem setLastPc (h : bus.Follows history l) (pc : UInt32) :
    (bus.setLastPc pc).Follows history l :=
  ⟨h.intercepting, h.serves⟩

/-- A registry that wants the same watched everywhere can take the other's place. -/
theorem exchange (h : bus.Follows history l) {l' : Breakpoints}
    (hw : ∀ r, wantedChecks (some l') r = wantedChecks (some l) r) : bus.Follows history l' := by
  refine ⟨h.intercepting, fun r => ?_⟩
  rw [hw r]
  exact h.serves r

theorem apply (h : bus.Follows history l) {m : Mapping D} (hm : m.handler.isDebug = false)
    {bus' : Bus D} (hok : bus.apply (some l) m = .ok bus') : bus'.Follows (history ++ [m]) l := by
  refine ⟨(intercepting_apply hok).trans h.intercepting, fun r => ?_⟩
  rw [entry_apply hok, Mapping.kindOver_concat, Mapping.handlerOver_concat, h.intercepting]
  -- A region the mapping does not cover keeps its last mapping.
  by_cases hr : m.covers r
  · rw [if_pos hr, if_pos hr, if_pos hr]
    exact (h.serves r).mapped m.kind hm
  · rw [if_neg hr, if_neg hr, if_neg hr]
    exact h.serves r

/-- A mapping that is refused covers nothing, so it may be counted in. -/
theorem refused (h : bus.Follows history l) {m : Mapping D} {e : MemoryError}
    (herror : bus.apply (some l) m = .error e) : bus.Follows (history ++ [m]) l := by
  refine ⟨h.intercepting, fun r => ?_⟩
  have hr : ¬ m.covers r = true := ne_true_of_eq_false (covers_of_apply_error herror r)
  rw [Mapping.kindOver_concat, Mapping.handlerOver_concat, if_neg hr, if_neg hr]
  exact h.serves r

end Bus.Follows

/-- A bus in line with its registry goes on to be so while mappings are installed in
    order. -/
theorem Bus.follows_foldlM {l : Breakpoints} {mappings : List (Mapping D)}
    (hm : ∀ m ∈ mappings, m.handler.isDebug = false) {bus bus' : Bus D} (h : bus.Follows [] l)
    (hok : mappings.foldlM (fun bus m => bus.apply (some l) m) bus = .ok bus') :
    bus'.Follows mappings l := by
  refine foldlM_apply_induction (motive := fun history bus => bus.Follows history l) h ?_ hok
  intro history m next next' hmem hnext happly
  exact hnext.apply (hm m hmem) happly

section Sync

variable {X : Type} {bus : Bus (Device X)}

theorem setWatched_eq (hi : bus.intercepting = true) (k : AccessKind) (r : Region) (on : Bool) :
    Machine.setWatched bus k r.base on = bus.update r fun e => e.switched k on := by
  cases on with
  | true =>
      rw [Machine.setWatched, if_pos rfl, Bus.activate, if_pos hi, Region.regionOf_base]
      rfl
  | false =>
      rw [Machine.setWatched, if_neg Bool.false_ne_true, Bus.deactivate, if_pos hi,
        Region.regionOf_base]
      rfl

theorem syncRegion_eq (hi : bus.intercepting = true) (l : Breakpoints) (r : Region) :
    Machine.syncRegion l bus r =
      bus.update r fun e => e.rewatched (Bus.wantedChecks (some l) r) := by
  -- Reads are switched first, which leaves the bus with its breakpoint layer.
  have hnext : (bus.update r fun e =>
      e.switched .read (Bus.wantedChecks (some l) r).read).intercepting = true := hi
  rw [Machine.syncRegion, setWatched_eq hi, setWatched_eq hnext, Bus.update_update]
  rfl

theorem foldl_syncRegion (hi : bus.intercepting = true) (l : Breakpoints)
    (regions : List Region) : regions.foldl (Machine.syncRegion l) bus =
      regions.foldl
        (fun b r => b.update r fun e => e.rewatched (Bus.wantedChecks (some l) r)) bus := by
  induction regions generalizing bus with
  | nil => rfl
  | cons r regions ih =>
      rw [List.foldl_cons, List.foldl_cons, syncRegion_eq hi]
      exact ih hi

/-- Some regions are asked again after a change of the registry. If it wants the
    same as before in all others, the bus is in line with it. -/
theorem Bus.Follows.sync {history : List (Mapping (Device X))} {l l' : Breakpoints}
    (h : bus.Follows history l) {regions : List Region} (hnodup : regions.Nodup)
    (hout : ∀ r ∉ regions, wantedChecks (some l') r = wantedChecks (some l) r) :
    (regions.foldl (Machine.syncRegion l') bus).Follows history l' := by
  rw [foldl_syncRegion h.intercepting]
  refine ⟨?_, fun r => ?_⟩
  · rw [intercepting_foldl_update, h.intercepting]
  · rcases entry_foldl_update (fun r e => e.rewatched (wantedChecks (some l') r)) regions hnodup
      bus r with ⟨hin, hkept⟩
    -- A region is asked again, or the new registry wants there what the old one did.
    by_cases hr : r ∈ regions
    · rw [hin hr]
      exact (h.serves r).rewatched _
    · rw [hkept hr, hout r hr]
      exact h.serves r

theorem lastPc_foldl_syncRegion (hi : bus.intercepting = true) (l : Breakpoints)
    (regions : List Region) :
    (regions.foldl (Machine.syncRegion l) bus).lastPc = bus.lastPc := by
  rw [foldl_syncRegion hi, Bus.lastPc_foldl_update]

end Sync

/-- A report within a word compares its own bytes, and no others. -/
theorem Breakpoints.report_eq {a size : UInt32} (hw : InWord a size) (l : Breakpoints)
    (pc : UInt32) (flags : Flags) : l.report pc a size flags =
      match l.find? a (a + (size - 1)) flags with
      | some index => l.record ⟨index, pc, a, size, flags⟩
      | none => l := by
  have hreport : l.report pc a size flags =
      match l.find? a (saturatingAdd a (if size = 0 then 0 else size - 1)) flags with
      | some index => l.record ⟨index, pc, a, size, flags⟩
      | none => l := rfl
  rw [hreport, if_neg hw.size_ne_zero, hw.saturatingAdd_eq]

/-- A breakpoint that watches an access within a word has the region watched. -/
theorem Breakpoints.has_wantedChecks_of_find? {l : Breakpoints} {k : AccessKind}
    {a size : UInt32} (hw : InWord a size)
    (h : (l.find? a (a + (size - 1)) k.watched).isSome) :
    (Bus.wantedChecks (some l) (regionOf a)).has k = true := by
  have hend := hw.toNat_end
  have ha := a.toNat_lt
  rcases (l.isSome_find?_iff _ _ _).mp h with ⟨b, hlive, hmeets, hflags⟩
  rcases hw with ⟨hpos, hword⟩
  -- The bytes lie in one word, and the word in one region.
  have hregion : b.overlaps (regionOf a).base (regionOf a).last = true := by
    refine b.overlaps_mono ?_ ?_ hmeets
    · rw [UInt32.le_iff_toNat_le, Region.toNat_base]
      simp only [regionOf]
      omega
    · rw [UInt32.le_iff_toNat_le, Region.toNat_last, hend]
      simp only [regionOf]
      omega
  refine (Bus.has_wantedChecks_iff (some l) (regionOf a) k).mpr ⟨l, rfl, ?_⟩
  refine (l.isSome_lookup?_region_iff (regionOf a) k).mpr ⟨b, hlive, hregion, ?_⟩
  rw [AccessKind.watched_eq, Flags.contains_union_iff] at hflags
  exact hflags

/-- A registry that wants nothing watched in a region has nothing to say about
    an access there. -/
theorem Breakpoints.report_eq_self {l : Breakpoints} {k : AccessKind} {a size : UInt32}
    (hw : InWord a size) (h : (Bus.wantedChecks (some l) (regionOf a)).has k = false)
    (pc : UInt32) : l.report pc a size k.watched = l := by
  have hnone : l.find? a (a + (size - 1)) k.watched = none := by
    rw [← Option.not_isSome_iff_eq_none]
    intro hsome
    rw [has_wantedChecks_of_find? hw hsome] at h
    exact Bool.noConfusion h
  rw [report_eq hw, hnone]

/-- On a bus in line with its registry every access might as well be reported. -/
theorem Bus.Follows.told {history : List (Mapping D)} {l : Breakpoints} {bus : Bus D}
    (h : bus.Follows history l) {a size : UInt32} (hw : InWord a size) (k : AccessKind) :
    bus.told k a size (some l) = some (l.report (bus.lastPc - 4) a size k.watched) := by
  have hchecks : (bus.entryAt a).checks = wantedChecks (some l) (regionOf a) :=
    (h.serves (regionOf a)).checks_eq
  rw [Bus.told, hchecks]
  by_cases hhas : (wantedChecks (some l) (regionOf a)).has k = true
  · rw [if_pos hhas]
    rfl
  · -- The access is not reported, and would not have been a hit.
    rw [if_neg hhas, l.report_eq_self hw ((Bool.not_eq_true _).mp hhas)]

end RegionBus

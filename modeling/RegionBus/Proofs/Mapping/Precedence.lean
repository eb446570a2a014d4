import RegionBus.Proofs.Bus.Session
import RegionBus.Proofs.Mapping.Coverage
import RegionBus.StandardMap

/-!
# The Last Mapping Wins

A bus is built from mappings one after the other, so of those that reach into a
region the last one is left in the end. `LastWins` says so address by address, in
terms of the bounds alone: a mapping spans an address if the region of the address
lies between the regions of its bounds, wherever in their regions these lie.

Nothing is asked of the handlers. A breakpoint layer that finds a breakpoint in a
region when it is mapped puts its own handler there, and the one that was mapped is
then the saved one. `LeadsTo` is the state in which a region can be left in either
case, and `LeadsTo.installed` is the step: it holds again of the new handler
whenever one is mapped, be it the layer's own.

A mapping whose bounds are the wrong way round is refused before any region is
touched. The first one in a list is the one that is reported, because all before
it were installed and none behind it is looked at.

## Main definitions

* `RegionEntry.LeadsTo`: Accesses to a region end at a handler.
* `Mapping.Spans`: A mapping reaches into the region of an address.
* `Bus.LastWins`: Every address is served by the last mapping that spans it.
* `Bus.Remapped`: A bus after one more mapping.
* `Bus.Leads`: What the mappings so far have made of a bus, region by region.

## Theorems

* `LeadsTo.installed`: A region after a handler was mapped to it.
* `leads_ofMappings`: Every region leads to the handler that was mapped last.
* `foldlM_apply_inverted`: The first mapping that is out of order is reported.
* `later_mapping_wins`: A bus built from any mappings, and one more mapping.
-/

namespace RegionBus

variable {D R W : Type}

namespace RegionEntry

/-- Accesses to a region end at a handler. It is live in a region that is not
    watched, and saved behind the debug handler in one that is. -/
structure LeadsTo (e : RegionEntry D) (handler : Handler D) : Prop where
  /-- Where nothing is watched the handler is live, and none is saved. -/
  unwatched : e.checks.isEmpty = true → e.live = handler ∧ e.saved = none
  /-- Where something is watched the handler is saved. -/
  watched : e.checks.isEmpty = false → e.live = .debug ∧ e.saved = some handler

theorem leadsTo_unmapped : (unmapped : RegionEntry D).LeadsTo .openBus :=
  ⟨fun _ => ⟨rfl, rfl⟩, fun h => by cases h⟩

theorem LeadsTo.device_eq {e : RegionEntry D} {handler : Handler D} (h : e.LeadsTo handler) :
    e.device = handler := by
  cases hc : e.checks.isEmpty with
  | true =>
      rcases h.unwatched hc with ⟨hlive, hsaved⟩
      rw [device, hsaved, Option.getD_none, hlive]
  | false =>
      rcases h.watched hc with ⟨-, hsaved⟩
      rw [device, hsaved, Option.getD_some]

theorem LeadsTo.mapped {e : RegionEntry D} {before : Handler D} (h : e.LeadsTo before)
    (kind : DeviceKind) (handler : Handler D) (wanted : Checks) :
    (e.mapped kind handler wanted).LeadsTo handler := by
  unfold RegionEntry.mapped
  cases hc : e.checks.isEmpty with
  | true =>
      rw [if_pos rfl]
      by_cases hw : wanted.isEmpty = true
      · rw [if_pos hw]
        refine ⟨fun _ => ⟨rfl, (h.unwatched hc).2⟩, fun hnot => ?_⟩
        exact Bool.noConfusion (hc.symm.trans hnot)
      · rw [if_neg hw]
        exact ⟨fun hnot => absurd hnot hw, fun _ => ⟨rfl, rfl⟩⟩
  | false =>
      -- What is live in a watched region stays live, and only the saved handler changes.
      rw [if_neg Bool.false_ne_true]
      exact ⟨fun hnot => Bool.noConfusion (hc.symm.trans hnot), fun _ => ⟨(h.watched hc).1, rfl⟩⟩

/-- A region after a handler was mapped to it, on either kind of bus. -/
theorem LeadsTo.installed [Registry R] {e : RegionEntry D} {before : Handler D}
    (h : e.LeadsTo before) {intercepting : Bool}
    (hbare : intercepting = false → e.checks.isEmpty = true) (registry : Option R)
    (kind : DeviceKind) (handler : Handler D) (r : Region) :
    (Bus.installed intercepting registry kind handler r e).LeadsTo handler := by
  cases intercepting with
  | true => exact h.mapped kind handler _
  | false =>
      have hc := hbare rfl
      exact ⟨fun _ => ⟨rfl, (h.unwatched hc).2⟩, fun hnot => Bool.noConfusion (hc.symm.trans hnot)⟩

end RegionEntry

namespace Mapping

/-- A mapping reaches into the region of an address. -/
def Spans (m : Mapping D) (a : UInt32) : Prop :=
  m.first >>> 16 ≤ a >>> 16 ∧ a >>> 16 ≤ m.last >>> 16

instance (m : Mapping D) (a : UInt32) : Decidable (m.Spans a) :=
  inferInstanceAs (Decidable (_ ∧ _))

theorem toNat_shiftRight_sixteen (a : UInt32) : (a >>> 16).toNat = a.toNat / 65536 := by
  rw [UInt32.toNat_shiftRight, Nat.shiftRight_eq_div_pow]
  rfl

theorem covers_regionOf_iff {m : Mapping D} (h : m.first ≤ m.last) (a : UInt32) :
    m.covers (regionOf a) = true ↔ m.Spans a := by
  simp only [covers, Spans, h, regionOf, Fin.le_def, decide_true, Bool.true_and, Bool.and_eq_true,
    decide_eq_true_eq, UInt32.le_iff_toNat_le, toNat_shiftRight_sixteen]

variable {mappings : List (Mapping D)}

/-- The last mapping over a region is the one that no later one covers. -/
theorem lastOver?_eq_some {earlier later : List (Mapping D)} {m : Mapping D} {r : Region}
    (hm : m.covers r = true) (hlater : ∀ x ∈ later, ¬ x.covers r = true) :
    lastOver? (earlier ++ m :: later) r = some m := by
  rw [lastOver?, List.find?_eq_some_iff_append]
  refine ⟨hm, later.reverse, earlier.reverse, ?_, fun x hx => ?_⟩
  · rw [List.reverse_append, List.reverse_cons, List.append_assoc, List.singleton_append]
  · rw [(Bool.not_eq_true _).mp (hlater x (List.mem_reverse.mp hx)), Bool.not_false]

theorem lastOver?_eq_none {r : Region} (h : ∀ m ∈ mappings, ¬ m.covers r = true) :
    lastOver? mappings r = none :=
  List.find?_eq_none.mpr fun m hm => h m (List.mem_reverse.mp hm)

end Mapping

namespace Bus

/-- Every address is served by the last of some mappings that spans it. -/
structure LastWins (mappings : List (Mapping D)) (bus : Bus D) : Prop where
  /-- A mapping that spans an address, with none behind it that does, has the region. -/
  won : ∀ earlier m later, mappings = earlier ++ m :: later → ∀ a, m.Spans a →
    (∀ x ∈ later, ¬ x.Spans a) → bus.kindAt a = m.kind ∧ (bus.entryAt a).LeadsTo m.handler
  /-- What no mapping spans is left to the open bus. -/
  vacant : ∀ a, (∀ m ∈ mappings, ¬ m.Spans a) →
    bus.kindAt a = .nothing ∧ (bus.entryAt a).LeadsTo .openBus

/-- A bus after one more mapping: the regions that it spans are its own, and nothing
    else has changed. -/
structure Remapped (m : Mapping D) (bus bus' : Bus D) : Prop where
  /-- The kind of device is that of the mapping. -/
  kind_eq : ∀ a, m.Spans a → bus'.kindAt a = m.kind
  /-- Accesses end at its handler, if they ended at one before. -/
  leads : ∀ a, m.Spans a → (bus.intercepting = false → (bus.entryAt a).checks.isEmpty = true) →
    ∀ before, (bus.entryAt a).LeadsTo before → (bus'.entryAt a).LeadsTo m.handler
  /-- Any other region is as it was. -/
  other : ∀ a, ¬ m.Spans a → bus'.entryAt a = bus.entryAt a
  /-- There is a breakpoint layer if there was one. -/
  intercepting_eq : bus'.intercepting = bus.intercepting
  /-- The program counter is the one that was announced before. -/
  lastPc_eq : bus'.lastPc = bus.lastPc

section Apply

variable [Registry R] {registry : Option R}

theorem kind_installed (intercepting : Bool) (registry : Option R) (kind : DeviceKind)
    (handler : Handler D) (r : Region) (e : RegionEntry D) :
    (installed intercepting registry kind handler r e).kind = kind := by
  cases intercepting with
  | true => exact RegionEntry.kind_mapped e kind handler _
  | false => rfl

theorem checks_installed_bare (registry : Option R) (kind : DeviceKind) (handler : Handler D)
    (r : Region) (e : RegionEntry D) :
    (installed false registry kind handler r e).checks = e.checks := rfl

/-- What the mappings so far have made of a bus. -/
structure Leads (history : List (Mapping D)) (bus : Bus D) : Prop where
  /-- The kind of device is that of the last mapping. -/
  kind_eq : ∀ r, (bus.entry r).kind = Mapping.kindOver history r
  /-- Accesses end at its handler. -/
  leads : ∀ r, (bus.entry r).LeadsTo (Mapping.handlerOver history r)
  /-- Without a breakpoint layer nothing is watched. -/
  bare : bus.intercepting = false → ∀ r, (bus.entry r).checks.isEmpty = true

theorem leads_unmapped (intercepting : Bool) : (unmapped intercepting : Bus D).Leads [] := by
  refine ⟨fun r => ?_, fun r => ?_, fun _ r => ?_⟩
  · rw [entry_unmapped]
    rfl
  · rw [entry_unmapped]
    exact RegionEntry.leadsTo_unmapped
  · rw [entry_unmapped]
    rfl

theorem Leads.apply {history : List (Mapping D)} {bus bus' : Bus D} {m : Mapping D}
    (h : bus.Leads history) (hok : bus.apply registry m = .ok bus') :
    bus'.Leads (history ++ [m]) := by
  -- Either the mapping covers the region, or both the region and the history's pick stay.
  refine ⟨fun r => ?_, fun r => ?_, fun hnot r => ?_⟩
  · rw [entry_apply hok, Mapping.kindOver_concat]
    split
    · exact kind_installed _ _ _ _ _ _
    · exact h.kind_eq r
  · rw [entry_apply hok, Mapping.handlerOver_concat]
    split
    · exact (h.leads r).installed (fun hbare => h.bare hbare r) registry m.kind m.handler r
    · exact h.leads r
  · rw [intercepting_apply hok] at hnot
    rw [entry_apply hok]
    split
    · rw [hnot, checks_installed_bare]
      exact h.bare hnot r
    · exact h.bare hnot r

/-- Every region of a bus built from mappings leads to the handler mapped last. -/
theorem leads_ofMappings {intercepting : Bool} {mappings : List (Mapping D)} {bus : Bus D}
    (hok : ofMappings intercepting registry mappings = .ok bus) : bus.Leads mappings := by
  refine foldlM_apply_induction (motive := fun history bus => bus.Leads history)
    (leads_unmapped intercepting) ?_ hok
  intro history m next next' _ hnext happly
  exact hnext.apply happly

theorem Leads.of_lastOver? {history : List (Mapping D)} {bus : Bus D} (h : bus.Leads history)
    {a : UInt32} {last : Option (Mapping D)}
    (hlast : Mapping.lastOver? history (regionOf a) = last) :
    bus.kindAt a = last.elim .nothing Mapping.kind ∧
      (bus.entryAt a).LeadsTo (last.elim .openBus Mapping.handler) := by
  have hkind := h.kind_eq (regionOf a)
  have hleads := h.leads (regionOf a)
  rw [Mapping.kindOver, hlast] at hkind
  rw [Mapping.handlerOver, hlast] at hleads
  exact ⟨hkind, hleads⟩

theorem Leads.lastWins {mappings : List (Mapping D)} {bus : Bus D} (h : bus.Leads mappings)
    (hle : ∀ m ∈ mappings, m.first ≤ m.last) : bus.LastWins mappings := by
  constructor
  case won =>
    intro earlier m later hsplit a hm hlater
    have hmem : ∀ x ∈ m :: later, x ∈ mappings := fun x hx => by
      rw [hsplit]
      exact List.mem_append_right earlier hx
    have hlast : Mapping.lastOver? mappings (regionOf a) = some m := by
      rw [hsplit]
      refine Mapping.lastOver?_eq_some ?_ fun x hx => ?_
      · exact (Mapping.covers_regionOf_iff (hle m (hmem m List.mem_cons_self)) a).mpr hm
      · have hx' := hle x (hmem x (List.mem_cons_of_mem m hx))
        rw [Mapping.covers_regionOf_iff hx']
        exact hlater x hx
    exact h.of_lastOver? hlast
  case vacant =>
    intro a hnone
    have hlast : Mapping.lastOver? mappings (regionOf a) = none :=
      Mapping.lastOver?_eq_none fun m hm => by
        rw [Mapping.covers_regionOf_iff (hle m hm)]
        exact hnone m hm
    exact h.of_lastOver? hlast

/-- An address is served by one of the mappings, or nothing is mapped there. -/
theorem Leads.mapped_or_vacant {mappings : List (Mapping D)} {bus : Bus D}
    (h : bus.Leads mappings) (hle : ∀ m ∈ mappings, m.first ≤ m.last) (a : UInt32) :
    (∃ m ∈ mappings, m.Spans a ∧ bus.kindAt a = m.kind ∧ (bus.entryAt a).LeadsTo m.handler) ∨
      bus.kindAt a = .nothing ∧ (bus.entryAt a).LeadsTo .openBus := by
  cases hlast : Mapping.lastOver? mappings (regionOf a) with
  | none => exact .inr (h.of_lastOver? hlast)
  | some m =>
      have hmem : m ∈ mappings := List.mem_reverse.mp (List.mem_of_find?_eq_some hlast)
      have hat := h.of_lastOver? hlast
      rw [Mapping.lastOver?] at hlast
      have hcovers := List.find?_some hlast
      exact .inl ⟨m, hmem, (Mapping.covers_regionOf_iff (hle m hmem) a).mp hcovers, hat⟩

theorem apply_inverted {m : Mapping D} (h : m.last < m.first) (bus : Bus D)
    (registry : Option R) : bus.apply registry m = .error (.invertedRange m.first m.last) := by
  rw [apply_eq, if_neg (UInt32.not_le.mpr h)]

/-- Of some mappings the first one that is out of order is reported. -/
theorem foldlM_apply_inverted {earlier : List (Mapping D)}
    (hearlier : ∀ x ∈ earlier, x.first ≤ x.last) {m : Mapping D} (hm : m.last < m.first)
    (later : List (Mapping D)) (bus : Bus D) (registry : Option R) :
    (earlier ++ m :: later).foldlM (fun bus m => bus.apply registry m) bus =
      .error (.invertedRange m.first m.last) := by
  rcases exists_foldlM_apply registry hearlier bus with ⟨next, hnext⟩
  rw [List.foldlM_append, hnext]
  have hrest : (m :: later).foldlM (fun bus m => bus.apply registry m) next =
      .error (.invertedRange m.first m.last) := by
    rw [List.foldlM_cons, apply_inverted hm]
    rfl
  exact hrest

theorem remapped_of_apply {bus bus' : Bus D} {m : Mapping D}
    (hok : bus.apply registry m = .ok bus') : bus.Remapped m bus' := by
  have hle := (eq_of_apply hok).1
  have hin : ∀ a, m.Spans a → bus'.entryAt a =
      installed bus.intercepting registry m.kind m.handler (regionOf a) (bus.entryAt a) := by
    intro a ha
    rw [entryAt, entry_apply hok, if_pos ((Mapping.covers_regionOf_iff hle a).mpr ha)]
    rfl
  constructor
  case kind_eq =>
    intro a ha
    rw [kindAt, hin a ha, kind_installed]
  case leads =>
    intro a ha hbare before hbefore
    rw [hin a ha]
    exact hbefore.installed hbare registry m.kind m.handler (regionOf a)
  case other =>
    intro a ha
    rw [entryAt, entry_apply hok, if_neg fun hc => ha ((Mapping.covers_regionOf_iff hle a).mp hc)]
    rfl
  case intercepting_eq => exact intercepting_apply hok
  case lastPc_eq => exact lastPc_apply hok

end Apply

end Bus

/-- A bus built from any mappings, and one more mapping for a bus in any state. The
    first mapping that is out of order is reported; if there is none, every address is
    served by the last one that spans it. One more mapping is refused and changes
    nothing, or changes the regions that it spans and no others. -/
theorem later_mapping_wins [DeviceBank D W] [Registry R] (intercepting : Bool)
    (registry : Option R) (mappings : List (Mapping D)) :
    (∀ earlier m later, mappings = earlier ++ m :: later → (∀ x ∈ earlier, x.first ≤ x.last) →
        m.last < m.first → Bus.ofMappings intercepting registry mappings =
          .error (.invertedRange m.first m.last)) ∧
      ((∀ m ∈ mappings, m.first ≤ m.last) →
        ∃ bus, Bus.ofMappings intercepting registry mappings = .ok bus ∧ bus.LastWins mappings) ∧
      ∀ (s : Session D R W) (m : Mapping D),
        (m.last < m.first →
          BusStep.perform s (.apply m) = (.refused (.invertedRange m.first m.last), s)) ∧
        (m.first ≤ m.last → ∃ bus, BusStep.perform s (.apply m) = (.done, { s with bus := bus }) ∧
          s.bus.Remapped m bus) := by
  refine ⟨?_, fun hle => ?_, fun s m => ⟨fun hm => ?_, fun hm => ?_⟩⟩
  · rintro earlier m later rfl hearlier hm
    exact Bus.foldlM_apply_inverted hearlier hm later _ registry
  · -- With all bounds in order nothing is refused, so there is a bus to speak of.
    rcases Bus.exists_foldlM_apply registry hle (Bus.unmapped intercepting) with ⟨bus, hbus⟩
    exact ⟨bus, hbus, (Bus.leads_ofMappings hbus).lastWins hle⟩
  · rw [BusStep.perform, Bus.apply_inverted hm]
  · rcases (Bus.apply_isOk_iff s.bus s.plane.registry m).mpr hm with ⟨bus, hbus⟩
    rw [BusStep.perform, hbus]
    exact ⟨bus, rfl, Bus.remapped_of_apply hbus⟩

/-- Mappings that overlap up to the end of the address space, with bounds inside of
    regions. -/
def Mapping.overlapping : List (Mapping (Device Empty)) :=
  [⟨0x0001FFFF, 0xFFFFFFFF, .rdram, .device (.ram lowDram)⟩,
    ⟨0xFFFE8000, 0xFFFF0000, .rom, .device (.rom cartridge)⟩,
    ⟨0x00018000, 0x00018003, .pif, .openBus⟩]

/-- Two regions that main memory reaches into go to the mappings behind it, one of them
    watched, and the region in front of it is left to the open bus. -/
theorem later_mapping_wins_overlapping : ∃ bus,
    Bus.ofMappings true (some (Breakpoints.empty.add 0xFFFFFFF0 0xFFFFFFFF
        (.union .enabled .write)).2) Mapping.overlapping = .ok bus ∧
      (bus.kindAt 0xFFFFFFFF = .rom ∧
        (bus.entryAt 0xFFFFFFFF).LeadsTo (.device (.rom cartridge))) ∧
      (bus.kindAt 0x0001FFFF = .pif ∧ (bus.entryAt 0x0001FFFF).LeadsTo .openBus) ∧
      (bus.kindAt 0x0000FFFF = .nothing ∧ (bus.entryAt 0x0000FFFF).LeadsTo .openBus) := by
  rcases (later_mapping_wins (W := Hardware Unit) true
    (some (Breakpoints.empty.add 0xFFFFFFF0 0xFFFFFFFF (.union .enabled .write)).2)
    Mapping.overlapping).2.1 (by decide) with ⟨bus, hbus, hwins⟩
  exact ⟨bus, hbus,
    hwins.won [⟨0x0001FFFF, 0xFFFFFFFF, .rdram, .device (.ram lowDram)⟩] _ _ rfl _ (by decide)
      (by decide),
    hwins.won [⟨0x0001FFFF, 0xFFFFFFFF, .rdram, .device (.ram lowDram)⟩,
      ⟨0xFFFE8000, 0xFFFF0000, .rom, .device (.rom cartridge)⟩] _ [] rfl _ (by decide) (by decide),
    hwins.vacant _ (by decide)⟩

end RegionBus

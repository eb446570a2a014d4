import RegionBus.Proofs.Breakpoint.Hits
import RegionBus.Proofs.Bus.Lanes
import RegionBus.Proofs.Machine.Synchronised

/-!
# Stores under a Mask and their Hits

A store under a mask should be a hit if a breakpoint covers one of the bytes the
mask enables, and only then. What the machine compares with its breakpoints is
one range of bytes, so the two agree as far as the range has the enabled lanes.

`noticed_iff` is the half that says nothing of lanes: a store is noticed iff some
breakpoint that watches writes meets the range. If its bounds are in order, it
meets the range iff it covers a byte of it, which is `overlaps_iff_covers`. The
machines to the contrary have a single breakpoint each. One on a single byte
tells the range and the enabled lanes apart wherever they differ, and one with
its bounds the wrong way round covers no byte at all but meets every range that
has both its bounds.

## Main definitions

* `laneAddress`: The address of a lane.
* `reportFirst`, `reportLast`: The range that a store is reported by.
* `Breakpoint.Covers`: A breakpoint covers an address.
* `Machine.Watches`: A breakpoint of a machine watches writes.
* `Machine.maskedHit`, `Machine.noticed`: What a store is noted as, and whether it is.
* `Machine.Concerns`: A store should be a hit.
* `Machine.Exact`: The two agree for all stores under a mask.
* `MaskLaw`: For which masks they do.

## Theorems

* `noticed_eq`, `noticed_iff`: When a store is noticed, and as what.
* `overlaps_iff_covers`: A range is met where one of its bytes is covered.
* `exists_reached_single`, `noticed_iff_of_single`: Machines with any one breakpoint.
* `mask_law`: The masks that are reported by the lanes they enable.
-/

namespace RegionBus

variable {X A : Type}

/-- The address of a lane of the word that an address lies in. -/
def laneAddress (a : UInt32) (lane : Nat) : UInt32 :=
  (a &&& ~~~3) + UInt32.ofNat lane

theorem toNat_laneAddress (a : UInt32) {lane : Nat} (hlane : lane < 4) :
    (laneAddress a lane).toNat = a.toNat / 4 * 4 + lane := by
  have ha := a.toNat_lt
  rw [laneAddress, UInt32.toNat_add, toNat_alignWord, UInt32.toNat_ofNat']
  omega

/-- The first byte that a store under a mask is reported by. -/
def reportFirst (a mask : UInt32) : UInt32 :=
  (a &&& ~~~3) + firstLane mask

/-- The last byte that a store under a mask is reported by. -/
def reportLast (a mask : UInt32) : UInt32 :=
  reportFirst a mask + (laneCount mask - 1)

theorem toNat_reportFirst (a mask : UInt32) :
    (reportFirst a mask).toNat = a.toNat / 4 * 4 + (firstLane mask).toNat := by
  have hfirst := toNat_laneAddress a (toNat_firstLane_lt mask)
  rw [laneAddress, UInt32.ofNat_toNat] at hfirst
  exact hfirst

theorem toNat_reportLast (a mask : UInt32) : (reportLast a mask).toNat =
    a.toNat / 4 * 4 + (firstLane mask).toNat + ((laneCount mask).toNat - 1) := by
  rw [← toNat_reportFirst]
  exact (inWord_masked a mask).toNat_end

/-- A breakpoint covers an address. One with its bounds the wrong way round covers
    none. -/
def Breakpoint.Covers (b : Breakpoint) (x : UInt32) : Prop :=
  b.first ≤ x ∧ x ≤ b.last

namespace Machine

/-- A live breakpoint is switched on and watches writes. -/
def Watches (s : Machine X A) (b : Breakpoint) : Prop :=
  s.Live b ∧ b.flags.contains .enabled = true ∧ b.flags.contains .write = true

/-- The bounds of every breakpoint are in order. -/
def Upright (s : Machine X A) : Prop :=
  ∀ b, s.Live b → b.first ≤ b.last

/-- A breakpoint that watches writes covers a byte that a store under a mask
    stores. -/
def Concerns (s : Machine X A) (a mask : UInt32) : Prop :=
  ∃ b, s.Watches b ∧ ∃ lane < 4, Enables mask lane ∧ b.Covers (laneAddress a lane)

variable [AttachedDevice X A]

/-- What a store under a mask is noted as, if a breakpoint meets it. -/
def maskedHit (s : Machine X A) (a mask : UInt32) (i : Nat) : Hit :=
  ⟨i, s.bus.lastPc - 4, reportFirst a mask, laneCount mask, .union .enabled .write⟩

/-- The hits of a store under a mask, those before being taken. -/
def noticed (s : Machine X A) (a value mask : UInt32) : List Hit :=
  ((Command.writeMasked a value mask).perform s.takeHits.2).takeHits.1

/-- Whatever is stored under a mask and wherever, it is a hit iff it concerns a
    breakpoint. -/
def Exact (s : Machine X A) (mask : UInt32) : Prop :=
  ∀ a value, s.noticed a value mask ≠ [] ↔ s.Concerns a mask

end Machine

/-- What holds of the stores under a mask. -/
structure MaskLaw (X A : Type) [AttachedDevice X A] (mask : UInt32) : Prop where
  /-- A store is noticed iff a breakpoint that watches writes meets the range that the
      store is reported by. -/
  reported : ∀ {history : List (Mapping (Device X))} {s : Machine X A},
    Machine.Reached history s → ∀ a value, s.noticed a value mask ≠ [] ↔
      ∃ b, s.Watches b ∧ b.overlaps (reportFirst a mask) (reportLast a mask) = true
  /-- What is noticed is one hit, and comes behind the hits before. -/
  kept : ∀ {history : List (Mapping (Device X))} {s : Machine X A},
    Machine.Reached history s → ∀ a value,
      s.noticed a value mask = [] ∧
          ((Command.writeMasked a value mask).perform s).takeHits.1 = s.takeHits.1 ∨
        ∃ i, s.noticed a value mask = [s.maskedHit a mask i] ∧
          ((Command.writeMasked a value mask).perform s).takeHits.1 =
            (s.takeHits.1 ++ [s.maskedHit a mask i]).rtake maxHits
  /-- On machines whose breakpoints have their bounds in order, exactly the plain masks
      are noticed as they should be. -/
  upright : (∀ (history : List (Mapping (Device X))) (s : Machine X A),
    Machine.Reached history s → s.Upright → s.Exact mask) ↔ PlainMask mask
  /-- On all machines, exactly those of one lane are. -/
  unrestricted : (∀ (history : List (Mapping (Device X))) (s : Machine X A),
    Machine.Reached history s → s.Exact mask) ↔ OneLane mask

namespace Machine

variable {history : List (Mapping (Device X))} {l : Breakpoints} {s : Machine X A}

theorem takeHits_of_registry (hl : s.registry = some l) : s.takeHits.1 = l.hits.toList := by
  rcases s with ⟨memory, bus, registry⟩
  subst hl
  rfl

theorem live_iff (h : s.Follows history l) (b : Breakpoint) : s.Live b ↔ l.Live b := by
  simp only [Live, h.registry, Option.some.injEq, exists_eq_left']

variable [AttachedDevice X A] (a value mask : UInt32)

/-- The hits that can be taken after a store under a mask: the least breakpoint that
    meets its range is noted behind the hits before. -/
theorem takeHits_writeMasked (h : s.Follows history l) :
    ((Command.writeMasked a value mask).perform s).takeHits.1 =
      ((l.find? (reportFirst a mask) (reportLast a mask) AccessKind.write.watched).elim
        l.hits.toList fun i => (l.hits.toList ++ [s.maskedHit a mask i]).rtake maxHits) := by
  have haccess : (Command.writeMasked a value mask : Command X A).IsAccess := trivial
  have hstore := follows_access h haccess
  have hinside : InWord (reportFirst a mask) (laneCount mask) := inWord_masked a mask
  have hlast : reportFirst a mask + (laneCount mask - 1) = reportLast a mask := rfl
  rw [takeHits_of_registry hstore.registry, Command.reports, List.foldl_cons, List.foldl_nil]
  change (l.report (s.bus.lastPc - 4) (reportFirst a mask) (laneCount mask)
    AccessKind.write.watched).hits.toList = _
  rw [Breakpoints.report_eq hinside, hlast]
  cases l.find? (reportFirst a mask) (reportLast a mask) AccessKind.write.watched with
  | none => rfl
  | some i =>
      rw [Option.elim_some]
      exact l.hits_record (s.maskedHit a mask i)

/-- A store is noticed as the least breakpoint that meets its range. -/
theorem noticed_eq (h : s.Follows history l) : s.noticed a value mask =
    ((l.find? (reportFirst a mask) (reportLast a mask) AccessKind.write.watched).map
      (s.maskedHit a mask)).toList := by
  have hpc : s.takeHits.2.bus.lastPc = s.bus.lastPc := lastPc_perform h .takeHits
  have hhit : s.takeHits.2.maskedHit a mask = s.maskedHit a mask := by
    funext i
    rw [maskedHit, hpc, maskedHit]
  -- Taking the hits leaves the breakpoints as they are.
  have hfind : l.takeHits.2.find? = l.find? := rfl
  have hhits : l.takeHits.2.hits.toList = [] := rfl
  rw [noticed, takeHits_writeMasked a value mask (follows_takeHits h), hfind, hhit, hhits]
  cases l.find? (reportFirst a mask) (reportLast a mask) AccessKind.write.watched with
  | none => rfl
  | some i =>
      have hmax : maxHits = maxHits - 1 + 1 := rfl
      rw [Option.elim_some, Option.map_some, Option.toList_some, hmax, List.rtake_concat_succ,
        List.rtake_nil, List.nil_append]

/-- A store is noticed iff a breakpoint that watches writes meets its range. -/
theorem noticed_iff (h : s.Follows history l) : s.noticed a value mask ≠ [] ↔
    ∃ b, s.Watches b ∧ b.overlaps (reportFirst a mask) (reportLast a mask) = true := by
  have hsome := l.isSome_find?_iff (reportFirst a mask) (reportLast a mask)
    AccessKind.write.watched
  have hiff : s.noticed a value mask ≠ [] ↔
      (l.find? (reportFirst a mask) (reportLast a mask) AccessKind.write.watched).isSome := by
    rw [noticed_eq a value mask h]
    cases l.find? (reportFirst a mask) (reportLast a mask) AccessKind.write.watched with
    | none => simp
    | some i => simp
  rw [hiff, hsome]
  simp only [Watches, live_iff h, AccessKind.watched_eq, Flags.contains_union_iff]
  constructor
  · rintro ⟨b, hlive, hmeets, hflags⟩
    exact ⟨b, ⟨hlive, hflags⟩, hmeets⟩
  · rintro ⟨b, ⟨hlive, hflags⟩, hmeets⟩
    exact ⟨b, hlive, hmeets, hflags⟩

end Machine

section Covers

variable {mask : UInt32} {b : Breakpoint}

/-- The range is met by a breakpoint iff one of its bytes is covered. Only a
    breakpoint with its bounds the wrong way round can meet it otherwise, and that
    takes a range of more than one byte. -/
theorem overlaps_iff_covers (a : UInt32) (hb : b.first ≤ b.last ∨ (laneCount mask).toNat = 1) :
    b.overlaps (reportFirst a mask) (reportLast a mask) = true ↔
      ∃ lane < 4, InReport mask lane ∧ b.Covers (laneAddress a lane) := by
  have hend := firstLane_add_laneCount_le mask
  have hcount := toNat_laneCount mask
  rw [UInt32.le_iff_toNat_le] at hb
  simp only [Breakpoint.overlaps, Breakpoint.Covers, InReport, Bool.and_eq_true,
    decide_eq_true_eq, UInt32.le_iff_toNat_le, toNat_reportFirst, toNat_reportLast]
  constructor
  · rintro ⟨hstart, hlast⟩
    -- The first byte of the range is covered, or the one where the breakpoint begins.
    refine ⟨max (firstLane mask).toNat (b.first.toNat - a.toNat / 4 * 4), by omega, by omega, ?_⟩
    rw [toNat_laneAddress a (by omega)]
    omega
  · rintro ⟨lane, hlane, hin, hcovers⟩
    rw [toNat_laneAddress a hlane] at hcovers
    omega

/-- A mask with several lanes has a range that is met by the first two of its bytes, the
    wrong way round. -/
theorem meets_of_laneMask {first count : Nat} (hcount : 2 ≤ count) (hle : first + count ≤ 4) :
    UInt32.ofNat (first + 1) ≤ reportLast 0 (laneMask first count) ∧
      reportFirst 0 (laneMask first count) ≤ UInt32.ofNat first := by
  have hall : ∀ first < 4, ∀ count < 5, 2 ≤ count → first + count ≤ 4 →
      UInt32.ofNat (first + 1) ≤ reportLast 0 (laneMask first count) ∧
        reportFirst 0 (laneMask first count) ≤ UInt32.ofNat first := by decide
  exact hall first (by omega) count (by omega) hcount hle

end Covers

namespace Machine

/-- There is a machine with any one breakpoint. -/
theorem exists_reached_single [AttachedDevice X A] (attached : A) (b : Breakpoint) :
    ∃ (history : List (Mapping (Device X))) (s : Machine X A),
      Reached history s ∧ ∀ b', s.Live b' ↔ b' = b := by
  have hsize : ValidDramSize 0x800000 := ⟨by decide, by decide, by decide⟩
  have hword : (Store.ofGrants 0x800000 []).dramWord = UInt32.ofNat 0x800000 := rfl
  have hle := fun m hm => (whole_standardMap (X := X) hsize m hm).1
  rw [← hword] at hle
  have hexists : ∃ s : Machine X A, withStore (Store.ofGrants 0x800000 []) true attached = .ok s :=
    exists_withStore true hle
  rcases hexists with ⟨s, hs⟩
  refine ⟨_, _, (Reached.start hs).step (.addBreakpoint b.first b.last b.flags) trivial, ?_⟩
  intro b'
  have hadd := follows_addBreakpoint (follows_withStore hs) b.first b.last b.flags
  refine (live_iff hadd b').trans ?_
  -- The first index is the only one that was given out.
  simp only [Breakpoints.Live, Breakpoints.get?_add]
  constructor
  · rintro ⟨i, hi⟩
    split at hi
    · exact (Option.some.inj hi).symm
    · cases hi
  · rintro rfl
    exact ⟨_, if_pos rfl⟩

section Single

variable {s : Machine X A} {first last : UInt32}

/-- The only breakpoint of a machine watches writes. -/
theorem watches_iff_of_single
    (hlive : ∀ b, s.Live b ↔ b = ⟨first, last, .union .enabled .write⟩) (b : Breakpoint) :
    s.Watches b ↔ b = ⟨first, last, .union .enabled .write⟩ := by
  have hflags : (Flags.enabled.union .write).contains .enabled = true ∧
      (Flags.enabled.union .write).contains .write = true := by decide
  rw [Watches, hlive]
  refine and_iff_left_of_imp ?_
  rintro rfl
  exact hflags

/-- It decides what is noticed. -/
theorem noticed_iff_of_single [AttachedDevice X A] {history : List (Mapping (Device X))}
    (h : Reached history s)
    (hlive : ∀ b, s.Live b ↔ b = ⟨first, last, .union .enabled .write⟩) (a value mask : UInt32) :
    s.noticed a value mask ≠ [] ↔
      first ≤ reportLast a mask ∧ reportFirst a mask ≤ last := by
  rcases follows_of_reached h with ⟨l, hl⟩
  rw [noticed_iff a value mask hl]
  simp only [watches_iff_of_single hlive, exists_eq_left, Breakpoint.overlaps, Bool.and_eq_true,
    decide_eq_true_eq]

/-- And what should be. -/
theorem concerns_iff_of_single
    (hlive : ∀ b, s.Live b ↔ b = ⟨first, last, .union .enabled .write⟩) (a mask : UInt32) :
    s.Concerns a mask ↔
      ∃ lane < 4, Enables mask lane ∧ first ≤ laneAddress a lane ∧ laneAddress a lane ≤ last := by
  simp only [Concerns, watches_iff_of_single hlive, exists_eq_left, Breakpoint.Covers]

end Single

section Exact

variable [AttachedDevice X A] {mask : UInt32}

/-- On a machine with breakpoints in order a store is noticed as it should be if the
    range has the enabled lanes. The order does not matter for a single byte. -/
theorem exact_of_laneExact (hmask : LaneExact mask) {history : List (Mapping (Device X))}
    {s : Machine X A} (h : Reached history s)
    (hb : ∀ b, s.Live b → b.first ≤ b.last ∨ (laneCount mask).toNat = 1) : s.Exact mask := by
  rcases follows_of_reached h with ⟨l, hl⟩
  intro a value
  rw [noticed_iff a value mask hl, Concerns]
  refine exists_congr fun b => and_congr_right fun hwatches => ?_
  rw [overlaps_iff_covers a (hb b hwatches.1)]
  exact exists_congr fun lane => and_congr_right fun hlane =>
    and_congr_left fun _ => hmask lane hlane

/-- A byte with a breakpoint tells whether its lane is in the range and whether it is
    enabled. -/
theorem laneExact_of_exact (attached : A)
    (h : ∀ (history : List (Mapping (Device X))) (s : Machine X A),
      Reached history s → s.Upright → s.Exact mask) : LaneExact mask := by
  intro lane hlane
  rcases exists_reached_single (X := X) attached
    ⟨laneAddress 0 lane, laneAddress 0 lane, .union .enabled .write⟩ with ⟨history, s, hs, hlive⟩
  have hupright : s.Upright := by
    intro b hb
    rw [(hlive b).mp hb]
    exact UInt32.le_refl _
  have hiff := h history s hs hupright 0 0
  have hend := firstLane_add_laneCount_le mask
  have hcount := toNat_laneCount mask
  rw [noticed_iff_of_single hs hlive, concerns_iff_of_single hlive] at hiff
  simp only [UInt32.le_iff_toNat_le, toNat_reportFirst, toNat_reportLast,
    toNat_laneAddress 0 hlane] at hiff
  -- The breakpoint covers its own lane, and no other.
  have honly : (∃ other < 4, Enables mask other ∧
      (0 : UInt32).toNat / 4 * 4 + lane ≤ (laneAddress 0 other).toNat ∧
        (laneAddress 0 other).toNat ≤ (0 : UInt32).toNat / 4 * 4 + lane) ↔ Enables mask lane := by
    constructor
    · rintro ⟨other, hother, henables, hstart, hlast⟩
      rw [toNat_laneAddress 0 hother] at hstart hlast
      have heq : other = lane := by omega
      rw [← heq]
      exact henables
    · intro henables
      refine ⟨lane, hlane, henables, ?_⟩
      rw [toNat_laneAddress 0 hlane]
      omega
  rw [honly] at hiff
  rw [← hiff, InReport]
  omega

/-- Several neighbouring lanes are not noticed as they should be if the bounds of a
    breakpoint are the wrong way round. -/
theorem not_exact_laneMask (attached : A) {first count : Nat} (hcount : 2 ≤ count)
    (hle : first + count ≤ 4) : ∃ (history : List (Mapping (Device X))) (s : Machine X A),
      Reached history s ∧ ¬ s.Exact (laneMask first count) := by
  rcases exists_reached_single (X := X) attached
    ⟨UInt32.ofNat (first + 1), UInt32.ofNat first, .union .enabled .write⟩ with
    ⟨history, s, hs, hlive⟩
  refine ⟨history, s, hs, fun hexact => ?_⟩
  have hiff := hexact 0 0
  rw [noticed_iff_of_single hs hlive, concerns_iff_of_single hlive] at hiff
  -- No address lies behind the second byte and in front of the first one.
  rcases hiff.mp (meets_of_laneMask hcount hle) with ⟨lane, hlane, -, hstart, hend⟩
  rw [UInt32.le_iff_toNat_le, UInt32.toNat_ofNat'] at hstart hend
  omega

end Exact

end Machine

/-- A store under a mask is noticed as one range of bytes. On machines with their
    breakpoints in order it is a hit iff it concerns a breakpoint for exactly those
    masks that enable one lane, or fill several neighbouring ones. -/
theorem mask_law [AttachedDevice X A] (attached : A) (mask : UInt32) : MaskLaw X A mask := by
  constructor
  case reported =>
    intro history s hs a value
    rcases Machine.follows_of_reached hs with ⟨l, hl⟩
    exact Machine.noticed_iff a value mask hl
  case kept =>
    intro history s hs a value
    rcases Machine.follows_of_reached hs with ⟨l, hl⟩
    rw [Machine.takeHits_writeMasked a value mask hl, Machine.takeHits_of_registry hl.registry,
      Machine.noticed_eq a value mask hl]
    cases l.find? (reportFirst a mask) (reportLast a mask) AccessKind.write.watched with
    | none => exact Or.inl ⟨rfl, rfl⟩
    | some i =>
        rw [Option.elim_some, Option.map_some, Option.toList_some]
        exact Or.inr ⟨i, rfl, rfl⟩
  case upright =>
    rw [← laneExact_iff]
    constructor
    · exact Machine.laneExact_of_exact attached
    · intro hmask history s hs hupright
      exact Machine.exact_of_laneExact hmask hs fun b hb => Or.inl (hupright b hb)
  case unrestricted =>
    constructor
    · intro h
      have hexact := Machine.laneExact_of_exact attached fun history s hs _ => h history s hs
      rcases (laneExact_iff mask).mp hexact with hone | ⟨first, count, hcount, hle, rfl⟩
      · exact hone
      · rcases Machine.not_exact_laneMask (X := X) attached hcount hle with ⟨history, s, hs, hnot⟩
        exact absurd (h history s hs) hnot
    · intro hone history s hs
      exact Machine.exact_of_laneExact (laneExact_of_oneLane hone) hs fun b _ =>
        Or.inr (laneCount_of_oneLane hone)

/-- A mask with the first and the last lane of a word. A breakpoint on the second byte is
    hit by it, and one on the last byte is not. The latter is hit by a store of nothing. -/
theorem gap_misreported :
    (∃ history, ∃ s : Machine Empty Unit, Machine.Reached history s ∧
      (∀ b, s.Live b ↔ b = ⟨0x1001, 0x1001, .union .enabled .write⟩) ∧
        s.noticed 0x1000 0x12345678 0xFF0000FF ≠ [] ∧ ¬ s.Concerns 0x1000 0xFF0000FF) ∧
    ∃ history, ∃ s : Machine Empty Unit, Machine.Reached history s ∧
      (∀ b, s.Live b ↔ b = ⟨0x1003, 0x1003, .union .enabled .write⟩) ∧
        s.noticed 0x1000 0x12345678 0xFF0000FF = [] ∧ s.Concerns 0x1000 0xFF0000FF ∧
          s.noticed 0x1000 0x12345678 0 ≠ [] ∧ ¬ s.Concerns 0x1000 0 := by
  constructor
  · rcases Machine.exists_reached_single (X := Empty) () ⟨0x1001, 0x1001, .union .enabled .write⟩
      with ⟨history, s, hs, hlive⟩
    refine ⟨history, s, hs, hlive, ?_, ?_⟩
    · exact (Machine.noticed_iff_of_single hs hlive _ _ _).mpr (by decide)
    · rw [Machine.concerns_iff_of_single hlive]
      decide
  · rcases Machine.exists_reached_single (X := Empty) () ⟨0x1003, 0x1003, .union .enabled .write⟩
      with ⟨history, s, hs, hlive⟩
    refine ⟨history, s, hs, hlive, ?_, ?_, ?_, ?_⟩
    · by_contra hne
      exact absurd ((Machine.noticed_iff_of_single hs hlive _ _ _).mp hne) (by decide)
    · rw [Machine.concerns_iff_of_single hlive]
      decide
    · exact (Machine.noticed_iff_of_single hs hlive _ _ _).mpr (by decide)
    · rw [Machine.concerns_iff_of_single hlive]
      decide

end RegionBus

import Mathlib.Data.List.Induction
import Mathlib.Data.List.Pairwise
import RegionBus.Window

/-!
# Windows That Share No Address

A catalog is built from a list of windows that is gone through once. Each window is
compared with those in front of it by two bounds, and this is enough to find out
whether they share an address as long as none of them is inverted. Nothing else is
refused, and the window that is reported is the first one at fault.

What the check leaves is a list in which every address lies in one window at most.
So it does not matter which match a lookup takes, and the order of the windows can
be changed at will: `windowFor?_eq_some_iff` has no trace of the order left.

The scan carries the windows it has passed. `firstFault?_append` says that it passes
over sound windows without a word, `firstFault?_cons_of_fault` that it stops at one
that is not, and `sound_or_fault` that there is no third case.

## Main definitions

* `Window.Shares`: Two windows share an address.
* `Window.lastOffset`: The position at which a window ends.
* `Catalog.Sound`: No window is inverted, and no address lies in two of them.
* `Catalog.Fault`: What is wrong with a window that follows others.
* `Catalog.OrderFree`: Lookup does not depend on the order of the windows.

## Theorems

* `Window.overlaps_iff_shares`: What the comparison of bounds finds out.
* `sound_or_fault`: A list of windows is sound, or there is a first one at fault.
* `ofWindows_eq_ok_iff`, `ofWindows_eq_error_iff`: What is accepted and what is reported.
* `windowFor?_eq_some_iff`: The window of an address.
* `orderFree_of_sound`: Sound windows can be put in any order.
* `catalog_exact`: All of this, for any windows.
-/

namespace RegionBus

namespace Window

variable {w v : Window}

/-- Two windows share an address. -/
def Shares (w v : Window) : Prop :=
  ∃ a, w.contains a = true ∧ v.contains a = true

theorem contains_iff {a : UInt32} : w.contains a = true ↔ w.first ≤ a ∧ a ≤ w.last := by
  rw [contains, Bool.and_eq_true, decide_eq_true_eq, decide_eq_true_eq]

theorem Shares.symm (h : w.Shares v) : v.Shares w := by
  rcases h with ⟨a, hw, hv⟩
  exact ⟨a, hv, hw⟩

/-- Of two windows that are in order, the bounds tell whether they share an address. -/
theorem overlaps_iff_shares (hw : w.first ≤ w.last) (hv : v.first ≤ v.last) :
    w.overlaps v = true ↔ w.Shares v := by
  rw [overlaps, Bool.and_eq_true, decide_eq_true_eq, decide_eq_true_eq]
  constructor
  · rintro ⟨hleft, hright⟩
    -- The later one of the two first addresses lies in both.
    by_cases h : w.first ≤ v.first
    · exact ⟨v.first, contains_iff.mpr ⟨h, hright⟩, contains_iff.mpr ⟨UInt32.le_refl _, hv⟩⟩
    · have hle : v.first ≤ w.first := UInt32.le_of_lt (UInt32.not_le.mp h)
      exact ⟨w.first, contains_iff.mpr ⟨UInt32.le_refl _, hw⟩, contains_iff.mpr ⟨hle, hleft⟩⟩
  · rintro ⟨a, ha, ha'⟩
    rw [contains_iff] at ha ha'
    exact ⟨UInt32.le_trans ha.1 ha'.2, UInt32.le_trans ha'.1 ha.2⟩

/-- The position of the last address, not cut to 64 bits. -/
def lastOffset (w : Window) : Nat :=
  w.base.toNat + (w.last.toNat - w.first.toNat)

/-- The position of an address, if the window does not lead behind the 64-bit range. -/
theorem offset_locate (hfits : w.lastOffset ≤ 0xFFFFFFFFFFFFFFFF)
    {a : UInt32} (ha : w.contains a = true) :
    w.locate a = ⟨w.block, w.base.toNat + (a.toNat - w.first.toNat)⟩ := by
  rw [contains_iff, UInt32.le_iff_toNat_le, UInt32.le_iff_toNat_le] at ha
  rw [lastOffset] at hfits
  have hdistance : (a - w.first).toNat = a.toNat - w.first.toNat :=
    UInt32.toNat_sub_of_le _ _ (UInt32.le_iff_toNat_le.mpr ha.1)
  have hoffset : (w.base + (a - w.first).toUInt64).toNat =
      w.base.toNat + (a.toNat - w.first.toNat) := by
    rw [UInt64.toNat_add, UInt32.toNat_toUInt64, hdistance]
    omega
  rw [locate, hoffset]

end Window

namespace Catalog

/-- No window is inverted, and no address lies in two of them. -/
structure Sound (windows : List Window) : Prop where
  /-- Every window is in order. -/
  in_order : ∀ w ∈ windows, w.first ≤ w.last
  /-- No two windows share an address. -/
  apart : windows.Pairwise fun w v => ¬ w.Shares v

/-- What is wrong with a window that follows others. -/
inductive Fault (earlier : List Window) (w : Window) : MemoryError → Prop where
  /-- Its bounds are inverted. -/
  | inverted (h : w.last < w.first) : Fault earlier w (.invertedRange w.first w.last)
  /-- It shares an address with an earlier window, and with none in front of that. -/
  | shared (front : List Window) (v : Window) (back : List Window)
    (hearlier : earlier = front ++ v :: back) (hw : w.first ≤ w.last) (hv : v.Shares w)
    (hfront : ∀ x ∈ front, ¬ x.Shares w) : Fault earlier w (.overlappingWindows v.name w.name)

/-- Lookup does not depend on the order of the windows. -/
structure OrderFree (windows : List Window) : Prop where
  /-- An address lies in one window at most. -/
  unique : ∀ a, (matching ⟨windows⟩ a).length ≤ 1
  /-- The windows make a catalog in any order. -/
  accepted : ∀ windows', windows.Perm windows' → ofWindows windows' = .ok ⟨windows'⟩
  /-- The window of an address is the same in any order. -/
  windowFor_eq : ∀ windows', windows.Perm windows' →
    ∀ a, windowFor? ⟨windows'⟩ a = windowFor? ⟨windows⟩ a
  /-- So is the position that the address stands for. -/
  resolve_eq : ∀ windows', windows.Perm windows' →
    ∀ a, resolve? ⟨windows'⟩ a = resolve? ⟨windows⟩ a
  /-- It is counted from the start of the window, as far as positions have 64 bits. -/
  resolve_exact : ∀ w ∈ windows, w.lastOffset ≤ 0xFFFFFFFFFFFFFFFF →
    ∀ a, w.contains a = true →
      resolve? ⟨windows⟩ a = some ⟨w.block, w.base.toNat + (a.toNat - w.first.toNat)⟩

theorem sound_nil : Sound [] :=
  ⟨fun _ hw => absurd hw List.not_mem_nil, List.Pairwise.nil⟩

theorem sound_concat_iff {earlier : List Window} {w : Window} :
    Sound (earlier ++ [w]) ↔ Sound earlier ∧ w.first ≤ w.last ∧ ∀ v ∈ earlier, ¬ v.Shares w := by
  constructor
  · rintro ⟨horder, hapart⟩
    rw [List.pairwise_append] at hapart
    refine ⟨⟨fun v hv => horder v (List.mem_append_left _ hv), hapart.1⟩,
      horder w (List.mem_append_right _ List.mem_cons_self), fun v hv => ?_⟩
    exact hapart.2.2 v hv w List.mem_cons_self
  · rintro ⟨⟨horder, hapart⟩, hw, hnew⟩
    refine ⟨fun v hv => ?_, List.pairwise_append.mpr ⟨hapart, List.pairwise_singleton _ w, ?_⟩⟩
    · rcases List.mem_append.mp hv with hv | hv
      · exact horder v hv
      · rw [List.mem_singleton.mp hv]
        exact hw
    · intro v hv x hx
      rw [List.mem_singleton.mp hx]
      exact hnew v hv

theorem Sound.of_append {windows windows' : List Window} (h : Sound (windows ++ windows')) :
    Sound windows :=
  ⟨fun w hw => h.in_order w (List.mem_append_left _ hw), (List.pairwise_append.mp h.apart).1⟩

theorem Sound.perm {windows windows' : List Window} (h : Sound windows)
    (hperm : windows.Perm windows') : Sound windows' := by
  refine ⟨fun w hw => h.in_order w (hperm.mem_iff.mpr hw), ?_⟩
  exact (hperm.pairwise_iff fun hnot hshares => hnot hshares.symm).mp h.apart

section Scan

variable {earlier : List Window} {w : Window}

theorem Sound.overlaps_iff (h : Sound earlier) (hw : w.first ≤ w.last) {v : Window}
    (hv : v ∈ earlier) : v.overlaps w = true ↔ v.Shares w :=
  Window.overlaps_iff_shares (h.in_order v hv) hw

/-- The search by bounds finds the first window that shares an address. -/
theorem Sound.find?_eq_some_iff (h : Sound earlier) (hw : w.first ≤ w.last) {v : Window} :
    (earlier.find? fun v => v.overlaps w) = some v ↔
      ∃ front back, earlier = front ++ v :: back ∧ v.Shares w ∧ ∀ x ∈ front, ¬ x.Shares w := by
  rw [List.find?_eq_some_iff_append]
  have hnot : ∀ {front back}, earlier = front ++ v :: back →
      ((∀ x ∈ front, (!x.overlaps w) = true) ↔ ∀ x ∈ front, ¬ x.Shares w) := by
    intro front back hsplit
    refine forall₂_congr fun x hx => ?_
    have hmem : x ∈ earlier := by
      rw [hsplit]
      exact List.mem_append_left _ hx
    rw [Bool.not_eq_true', ← Bool.not_eq_true, h.overlaps_iff hw hmem]
  constructor
  · rintro ⟨hv, front, back, hsplit, hfront⟩
    have hmem : v ∈ earlier := by
      rw [hsplit]
      exact List.mem_append_right front List.mem_cons_self
    exact ⟨front, back, hsplit, (h.overlaps_iff hw hmem).mp hv, (hnot hsplit).mp hfront⟩
  · rintro ⟨front, back, hsplit, hv, hfront⟩
    have hmem : v ∈ earlier := by
      rw [hsplit]
      exact List.mem_append_right front List.mem_cons_self
    exact ⟨(h.overlaps_iff hw hmem).mpr hv, front, back, hsplit, (hnot hsplit).mpr hfront⟩

theorem firstFault?_cons_of_sound (h : Sound (earlier ++ [w])) (rest : List Window) :
    firstFault? earlier (w :: rest) = firstFault? (earlier ++ [w]) rest := by
  rcases sound_concat_iff.mp h with ⟨hearlier, hw, hnew⟩
  have hfind : (earlier.find? fun v => v.overlaps w) = none :=
    List.find?_eq_none.mpr fun v hv => by
      rw [hearlier.overlaps_iff hw hv]
      exact hnew v hv
  rw [firstFault?, if_neg (UInt32.not_lt.mpr hw), hfind]

theorem firstFault?_cons_of_fault (hearlier : Sound earlier) {e : MemoryError}
    (h : Fault earlier w e) (rest : List Window) : firstFault? earlier (w :: rest) = some e := by
  cases h with
  | inverted h => rw [firstFault?, if_pos h]
  | shared front v back hsplit hw hv hfront =>
      have hfind := (hearlier.find?_eq_some_iff hw).mpr ⟨front, back, hsplit, hv, hfront⟩
      rw [firstFault?, if_neg (UInt32.not_lt.mpr hw), hfind]

/-- The scan passes over sound windows. -/
theorem firstFault?_append {front : List Window} (h : Sound (earlier ++ front))
    (rest : List Window) :
    firstFault? earlier (front ++ rest) = firstFault? (earlier ++ front) rest := by
  induction front generalizing earlier with
  | nil => rw [List.nil_append, List.append_nil]
  | cons w front ih =>
      rw [List.append_cons] at h ⊢
      rw [List.cons_append, firstFault?_cons_of_sound h.of_append, ih h]

/-- A list of windows is sound, or there is a first one at fault. -/
theorem sound_or_fault (windows : List Window) : Sound windows ∨
    ∃ earlier w later e, windows = earlier ++ w :: later ∧ Sound earlier ∧ Fault earlier w e := by
  -- The last window is taken off first, so that a fault in front of it counts first.
  induction windows using List.reverseRecOn with
  | nil => exact .inl sound_nil
  | append_singleton earlier w ih =>
      rcases ih with hsound | ⟨front, v, back, e, hsplit, hfront, hfault⟩
      · by_cases hw : w.first ≤ w.last
        · cases hfind : earlier.find? fun v => v.overlaps w with
          | none =>
              refine .inl (sound_concat_iff.mpr ⟨hsound, hw, fun v hv => ?_⟩)
              rw [← hsound.overlaps_iff hw hv]
              exact List.find?_eq_none.mp hfind v hv
          | some v =>
              rcases (hsound.find?_eq_some_iff hw).mp hfind with ⟨front, back, hsplit, hv, hfront⟩
              exact .inr ⟨earlier, w, [], _, rfl, hsound, .shared front v back hsplit hw hv hfront⟩
        · exact .inr ⟨earlier, w, [], _, rfl, hsound, .inverted (UInt32.not_le.mp hw)⟩
      · refine .inr ⟨front, v, back ++ [w], e, ?_, hfront, hfault⟩
        rw [hsplit, List.append_assoc, List.cons_append]

end Scan

section Validation

variable {windows : List Window}

theorem ofWindows_of_sound (h : Sound windows) : ofWindows windows = .ok ⟨windows⟩ := by
  have hnil : Sound ([] ++ windows) := h
  have hscan : firstFault? [] (windows ++ []) = none := firstFault?_append hnil []
  rw [List.append_nil] at hscan
  rw [ofWindows, hscan]

theorem ofWindows_of_fault {earlier : List Window} (hearlier : Sound earlier) {w : Window}
    {e : MemoryError} (hfault : Fault earlier w e) (later : List Window) :
    ofWindows (earlier ++ w :: later) = .error e := by
  have hnil : Sound ([] ++ earlier) := hearlier
  have hscan : firstFault? [] (earlier ++ w :: later) = some e :=
    (firstFault?_append hnil (w :: later)).trans (firstFault?_cons_of_fault hearlier hfault later)
  rw [ofWindows, hscan]

/-- A list of windows is accepted iff it is sound. -/
theorem ofWindows_eq_ok_iff {c : Catalog} :
    ofWindows windows = .ok c ↔ Sound windows ∧ c = ⟨windows⟩ := by
  constructor
  · intro h
    rcases sound_or_fault windows with hsound | ⟨earlier, w, later, e, rfl, hearlier, hfault⟩
    · rw [ofWindows_of_sound hsound] at h
      exact ⟨hsound, (Except.ok.inj h).symm⟩
    · rw [ofWindows_of_fault hearlier hfault] at h
      cases h
  · rintro ⟨hsound, rfl⟩
    exact ofWindows_of_sound hsound

/-- What is reported is the fault of the first window that has one. -/
theorem ofWindows_eq_error_iff {e : MemoryError} : ofWindows windows = .error e ↔
    ∃ earlier w later, windows = earlier ++ w :: later ∧ Sound earlier ∧ Fault earlier w e := by
  constructor
  · intro h
    rcases sound_or_fault windows with hsound | ⟨earlier, w, later, e', rfl, hearlier, hfault⟩
    · rw [ofWindows_of_sound hsound] at h
      cases h
    · rw [ofWindows_of_fault hearlier hfault] at h
      rw [← Except.error.inj h]
      exact ⟨earlier, w, later, rfl, hearlier, hfault⟩
  · rintro ⟨earlier, w, later, rfl, hearlier, hfault⟩
    exact ofWindows_of_fault hearlier hfault later

end Validation

section Lookup

variable {windows : List Window} {w : Window} {a : UInt32}

theorem Sound.eq_of_contains (h : Sound windows) {v : Window} (hw : w ∈ windows)
    (hv : v ∈ windows) (hwa : w.contains a = true) (hva : v.contains a = true) : w = v := by
  have hsymm : Std.Symm fun w v : Window => ¬ w.Shares v :=
    ⟨fun _ _ hnot hshares => hnot hshares.symm⟩
  by_contra hne
  exact h.apart.forall hw hv hne ⟨a, hwa, hva⟩

theorem contains_of_windowFor? {c : Catalog} (h : c.windowFor? a = some w) :
    w.contains a = true := by
  rw [windowFor?] at h
  have hin := List.find?_some h
  exact hin

/-- The window of an address is the one it lies in. -/
theorem windowFor?_eq_some_iff (h : Sound windows) :
    windowFor? ⟨windows⟩ a = some w ↔ w ∈ windows ∧ w.contains a = true := by
  constructor
  · intro hfind
    exact ⟨List.mem_of_find?_eq_some hfind, contains_of_windowFor? hfind⟩
  · rintro ⟨hw, hwa⟩
    cases hfind : windowFor? ⟨windows⟩ a with
    | none => exact absurd hwa (List.find?_eq_none.mp hfind w hw)
    | some v =>
        rw [h.eq_of_contains hw (List.mem_of_find?_eq_some hfind) hwa
          (contains_of_windowFor? hfind)]

theorem windowFor?_perm (h : Sound windows) {windows' : List Window}
    (hperm : windows.Perm windows') (a : UInt32) :
    windowFor? ⟨windows'⟩ a = windowFor? ⟨windows⟩ a := by
  refine Option.ext fun w => ?_
  rw [windowFor?_eq_some_iff (h.perm hperm), windowFor?_eq_some_iff h, hperm.mem_iff]

theorem length_matching_le (h : Sound windows) (a : UInt32) :
    (matching ⟨windows⟩ a).length ≤ 1 := by
  have hapart : (matching ⟨windows⟩ a).Pairwise fun w v => ¬ w.Shares v :=
    h.apart.sublist List.filter_sublist
  have hin : ∀ w ∈ matching ⟨windows⟩ a, w.contains a = true :=
    fun w hw => (List.mem_filter.mp hw).2
  cases hmatching : matching ⟨windows⟩ a with
  | nil => exact Nat.zero_le 1
  | cons w rest =>
      cases rest with
      | nil => exact Nat.le_refl 1
      | cons v rest =>
          -- The first two would share the address.
          rw [hmatching] at hapart hin
          have hv : v ∈ w :: v :: rest := List.mem_cons_of_mem w List.mem_cons_self
          exact absurd ⟨a, hin w List.mem_cons_self, hin v hv⟩
            (List.rel_of_pairwise_cons hapart List.mem_cons_self)

theorem orderFree_of_sound (h : Sound windows) : OrderFree windows := by
  constructor
  case unique => exact length_matching_le h
  case accepted => exact fun windows' hperm => ofWindows_of_sound (h.perm hperm)
  case windowFor_eq => exact fun windows' hperm => windowFor?_perm h hperm
  case resolve_eq =>
    intro windows' hperm a
    rw [resolve?, resolve?, windowFor?_perm h hperm]
  case resolve_exact =>
    intro w hw hfits a ha
    rw [resolve?, (windowFor?_eq_some_iff h).mpr ⟨hw, ha⟩, Option.map_some,
      Window.offset_locate hfits ha]

end Lookup

/-- The check of a list of windows is exact. It accepts those that are sound and reports
    the first fault of any other, and what it accepts can be put in any order. -/
theorem catalog_exact (windows : List Window) :
    (∀ c, ofWindows windows = .ok c ↔
        ((∀ w ∈ windows, w.first ≤ w.last) ∧ windows.Pairwise fun w v => ¬ w.Shares v) ∧
          c = ⟨windows⟩) ∧
      (∀ e, ofWindows windows = .error e ↔ ∃ earlier w later,
        windows = earlier ++ w :: later ∧ Sound earlier ∧ Fault earlier w e) ∧
      ∀ c, ofWindows windows = .ok c → OrderFree windows := by
  refine ⟨fun c => ?_, fun e => ofWindows_eq_error_iff, fun c hc => ?_⟩
  · rw [ofWindows_eq_ok_iff]
    exact and_congr_left fun _ => ⟨fun h => ⟨h.in_order, h.apart⟩, fun h => ⟨h.1, h.2⟩⟩
  · exact orderFree_of_sound (ofWindows_eq_ok_iff.mp hc).1

/-- Windows that touch, one of them down to a single address, and that lead to any place in
    their blocks. -/
def touching : List Window :=
  [⟨"high", 0x00001000, 0xFFFFFFFF, .cartRom, 0x2000⟩, ⟨"low", 0x00000000, 0x00000FFE, .dram, 0⟩,
    ⟨"between", 0x00000FFF, 0x00000FFF, .rspMem, 0xFFFFFFFFFFFFFFFF⟩]

/-- They can be put in any order. One more that reaches over all three is refused, and
    the one that is named is the first. -/
theorem catalog_exact_touching : OrderFree touching ∧
    resolve? ⟨touching.reverse⟩ 0x00001004 = some ⟨.cartRom, 0x2004⟩ ∧
    ofWindows (touching.reverse ++ [⟨"across", 0x00000FFE, 0x00001000, .ddRom, 0⟩]) =
      .error (.overlappingWindows "between" "across") := by
  have hfree : OrderFree touching := (catalog_exact touching).2.2 ⟨touching⟩ rfl
  have hreverse : touching.Perm touching.reverse := (List.reverse_perm touching).symm
  rcases ((catalog_exact touching.reverse).1 _).mp (hfree.accepted _ hreverse) with
    ⟨⟨horder, hapart⟩, -⟩
  refine ⟨hfree, ?_, ?_⟩
  · rw [hfree.resolve_eq _ hreverse]
    exact hfree.resolve_exact _ List.mem_cons_self (by decide) 0x00001004 rfl
  · refine ((catalog_exact _).2.1 _).mpr ⟨touching.reverse, _, [], rfl, ⟨horder, hapart⟩, ?_⟩
    exact .shared [] _ _ rfl (by decide) ⟨0x00000FFF, rfl, rfl⟩
      (fun x hx => absurd hx List.not_mem_nil)

end Catalog

end RegionBus

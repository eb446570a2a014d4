import Mathlib.Data.List.Range
import Mathlib.Logic.Function.Basic
import RegionBus.Proofs.Breakpoint.Journal

/-!
# Indices as Names

A registry keeps its breakpoints in an array that only ever grows. A breakpoint that
is removed leaves a hole behind, so the others stay where they are, and the index a
breakpoint was given out under names it for as long as the registry lives.

`Directory` is what this amounts to: a map from indices to breakpoints without any
order or holes, and the number of the next index. Looking at a registry as a directory
forgets the array, and `directory_perform` says that no step can tell the difference.

What a directory has under an index can be read off the journal, without looking at
the registry at all. It is the breakpoint that was added under it, switched as it was
switched last, unless a removal of the index has found something. `agrees_journal` is
proved by going through the journal from its end, since what the last step has done
depends on all those before it. An index that was not given out yet carries nothing
over from the time before it is, because what is asked about it then is answered with no.

## Main definitions

* `Directory`: A map from indices to breakpoints.
* `Breakpoints.directory`: A registry as a directory.
* `Journal.added`, `Journal.named`: The breakpoints that were added, and their indices.
* `Journal.removed`: Whether the breakpoint of an index was removed.
* `Journal.lastSwitch?`: How the breakpoint of an index was switched last.
* `Journal.current?`: The breakpoint of an index as the journal has it.
* `Breakpoints.NameLaw`: What the indices of a registry mean after some steps.

## Theorems

* `directory_perform`, `directory_journal`: A registry is a directory.
* `current?_eq_none_iff`, `eq_of_current?`: What a journal has under an index.
* `agrees_perform`, `agrees_journal`: What is under an index can be read off the journal.
* `get?_perform_none`: An index that was emptied stays empty.
* `name_law`: Indices are names, after any steps.
-/

namespace RegionBus

/-- A breakpoint as it is after it was switched, or as it was if it never was. -/
def Breakpoint.switched (b : Breakpoint) : Option Bool → Breakpoint
  | none => b
  | some on => { b with flags := b.flags.setEnabled on }

theorem Breakpoint.switched_switched (b : Breakpoint) (last : Option Bool) (on : Bool) :
    (b.switched last).switched (some on) = b.switched (some on) := by
  cases last with
  | none => rfl
  | some on' => simp only [switched, Flags.setEnabled_setEnabled]

/-- A map from indices to breakpoints, and the hits. -/
@[ext]
structure Directory where
  /-- The index that is given out next. -/
  next : Nat
  /-- The breakpoint of each index. -/
  entry : Nat → Option Breakpoint
  /-- The hits, the oldest first. -/
  hits : List Hit

namespace Directory

/-- Nothing under any index. -/
def empty : Directory := ⟨0, fun _ => none, []⟩

/-- The least index whose breakpoint meets the `size` bytes from `start` on and has all
    the given flags. -/
def lookup? (d : Directory) (start size : UInt32) (flags : Flags) : Option Nat :=
  if size = 0 then none else
    (List.range d.next).find? fun i => (d.entry i).any fun b =>
      b.overlaps start (saturatingAdd start (size - 1)) && b.flags.contains flags

/-- The answer to a step, and the directory afterwards. -/
def perform (d : Directory) : RegistryStep → RegistryReply × Directory
  | .add first last flags =>
    (.index d.next, { d with
      next := d.next + 1
      entry := Function.update d.entry d.next (some ⟨first, last, flags⟩) })
  | .remove i => (.breakpoint (d.entry i), { d with entry := Function.update d.entry i none })
  | .setEnabled i on =>
    (.switched (d.entry i).isSome, { d with
      entry := Function.update d.entry i ((d.entry i).map fun b => b.switched (some on)) })
  | .get i => (.breakpoint (d.entry i), d)
  | .lookup start size flags => (.found (d.lookup? start size flags), d)
  | .report pc address size flags =>
    (.done, match d.lookup? address (max size 1) flags with
      | some i => { d with hits := (d.hits ++ [Hit.mk i pc address size flags]).rtake maxHits }
      | none => d)
  | .takeHits => (.hits d.hits, { d with hits := [] })

/-- The journal of some steps. -/
def journal (d : Directory) : List RegistryStep → Journal
  | [] => []
  | step :: steps => (step, (d.perform step).1) :: (d.perform step).2.journal steps

end Directory

namespace Journal

/-- The breakpoints that were added, the first first. -/
def added (j : Journal) : List Breakpoint :=
  j.filterMap fun entry => entry.1.added?

/-- The index that was given out for a breakpoint. -/
def name? : RegistryStep × RegistryReply → Option Nat
  | (.add _ _ _, .index i) => some i
  | _ => none

/-- The indices that were given out, in this order. -/
def named (j : Journal) : List Nat :=
  j.filterMap name?

/-- The breakpoint of an index was there, and was removed. -/
def removes (i : Nat) : RegistryStep × RegistryReply → Bool
  | (.remove k, .breakpoint (some _)) => k = i
  | _ => false

/-- The breakpoint of an index was removed at some time. -/
def removed (j : Journal) (i : Nat) : Bool :=
  j.any (removes i)

/-- How the breakpoint of an index was switched, if it was there. -/
def switch? (i : Nat) : RegistryStep × RegistryReply → Option Bool
  | (.setEnabled k on, .switched true) => if k = i then some on else none
  | _ => none

/-- How the breakpoint of an index was switched last. -/
def lastSwitch? (j : Journal) (i : Nat) : Option Bool :=
  (j.filterMap (switch? i)).getLast?

/-- The breakpoint of an index as the journal has it. -/
def current? (j : Journal) (i : Nat) : Option Breakpoint :=
  if j.removed i then none else (j.added[i]?).map fun b => b.switched (j.lastSwitch? i)

variable (j : Journal) (step : RegistryStep) (reply : RegistryReply)

theorem added_concat :
    added (j ++ [(step, reply)]) = j.added ++ step.added?.toList :=
  filterMap_concat j (step, reply)

theorem named_concat :
    named (j ++ [(step, reply)]) = j.named ++ (name? (step, reply)).toList :=
  filterMap_concat j (step, reply)

theorem removed_concat (i : Nat) :
    removed (j ++ [(step, reply)]) i = (j.removed i || removes i (step, reply)) := by
  rw [removed, removed, List.any_append, List.any_cons, List.any_nil, Bool.or_false]

theorem lastSwitch?_concat (i : Nat) :
    lastSwitch? (j ++ [(step, reply)]) i = (switch? i (step, reply)).or (j.lastSwitch? i) := by
  rw [lastSwitch?, filterMap_concat, List.getLast?_append]
  cases switch? i (step, reply) <;> rfl

/-- What is said of another index is neither a removal nor a switch. -/
theorem removes_switch?_of_index? {step : RegistryStep} {next i : Nat}
    (hi : step.index? next ≠ some i) :
    removes i (step, reply) = false ∧ switch? i (step, reply) = none := by
  cases step with
  | remove k =>
      have hne : k ≠ i := fun h => hi (congrArg some h)
      refine ⟨?_, rfl⟩
      rcases reply with _ | (_ | b) | _ | _ | _ | _
      case breakpoint.some => exact decide_eq_false hne
      all_goals rfl
  | setEnabled k on =>
      have hne : k ≠ i := fun h => hi (congrArg some h)
      refine ⟨rfl, ?_⟩
      rcases reply with _ | _ | (_ | _) | _ | _ | _
      case switched.true => exact if_neg hne
      all_goals rfl
  | add first last flags => exact ⟨rfl, rfl⟩
  | get k => exact ⟨rfl, rfl⟩
  | lookup start size flags => exact ⟨rfl, rfl⟩
  | report pc address size flags => exact ⟨rfl, rfl⟩
  | takeHits => exact ⟨rfl, rfl⟩

/-- So it leaves what the journal has under the index. -/
theorem current?_concat_of_index? {step : RegistryStep} {i : Nat}
    (hi : step.index? j.added.length ≠ some i) :
    current? (j ++ [(step, reply)]) i = j.current? i := by
  rcases removes_switch?_of_index? reply hi with ⟨hremoves, hswitch⟩
  have hadded : (added (j ++ [(step, reply)]))[i]? = j.added[i]? := by
    rw [added_concat]
    cases step with
    | add first last flags =>
        have hne : i ≠ j.added.length := fun h => hi (congrArg some h.symm)
        rw [List.getElem?_append]
        split
        · rfl
        · -- Behind the new breakpoint there is nothing, as before it came.
          have hbefore : j.added.length ≤ i := by omega
          have hbehind : 1 ≤ i - j.added.length := by omega
          rw [List.getElem?_eq_none hbefore, List.getElem?_eq_none hbehind]
    | _ => exact congrArg (fun bs : List Breakpoint => bs[i]?) (List.append_nil _)
  rw [current?, current?, removed_concat, lastSwitch?_concat, hremoves, hswitch, hadded,
    Bool.or_false, Option.none_or]

/-- A new index has the breakpoint that was added under it. -/
theorem current?_concat_add (first last : UInt32) (flags : Flags)
    (hremoved : j.removed j.added.length = false)
    (hswitch : j.lastSwitch? j.added.length = none) :
    current? (j ++ [(.add first last flags, reply)]) j.added.length =
      some ⟨first, last, flags⟩ := by
  have hadded : added (j ++ [(.add first last flags, reply)]) =
    j.added ++ [⟨first, last, flags⟩] := added_concat j _ _
  rw [current?, removed_concat, lastSwitch?_concat, hremoved, hswitch, hadded,
    List.getElem?_concat_length]
  rfl

/-- There is none under an index from which one was removed. -/
theorem current?_concat_remove (i : Nat) (b : Option Breakpoint) :
    current? (j ++ [(.remove i, .breakpoint b)]) i = if b.isSome then none else j.current? i := by
  have hadded : added (j ++ [(.remove i, .breakpoint b)]) = j.added :=
    (added_concat j _ _).trans (List.append_nil _)
  have hswitch : lastSwitch? (j ++ [(.remove i, .breakpoint b)]) i = j.lastSwitch? i :=
    lastSwitch?_concat j _ _ i
  have hremoves : removes i (.remove i, .breakpoint b) = b.isSome := by
    cases b with
    | none => rfl
    | some b => exact decide_eq_true rfl
  rw [current?, removed_concat, hremoves, hswitch, hadded, current?]
  cases b.isSome with
  | true => rw [Bool.or_true, if_pos rfl, if_pos rfl]
  | false => rw [Bool.or_false, if_neg Bool.false_ne_true]

/-- A breakpoint that was switched is as it was switched last. -/
theorem current?_concat_setEnabled (i : Nat) (on found : Bool) :
    current? (j ++ [(.setEnabled i on, .switched found)]) i =
      if found then (j.current? i).map fun b => b.switched (some on) else j.current? i := by
  have hadded : added (j ++ [(.setEnabled i on, .switched found)]) = j.added :=
    (added_concat j _ _).trans (List.append_nil _)
  have hremoved : removed (j ++ [(.setEnabled i on, .switched found)]) i = j.removed i :=
    (removed_concat j _ _ i).trans (Bool.or_false _)
  rw [current?, hremoved, hadded, lastSwitch?_concat, current?]
  cases found with
  | false => rfl
  | true =>
      have hswitch : switch? i (.setEnabled i on, .switched true) = some on := if_pos rfl
      rw [hswitch, Option.some_or, if_pos rfl]
      by_cases hgone : j.removed i = true
      · rw [if_pos hgone, if_pos hgone, Option.map_none]
      · rw [if_neg hgone, if_neg hgone, Option.map_map]
        refine congrArg (fun f => Option.map f _) (funext fun b => ?_)
        exact (b.switched_switched _ on).symm

/-- The journal has no breakpoint under an index if none was added under it, or if it was
    removed. -/
theorem current?_eq_none_iff (i : Nat) :
    j.current? i = none ↔ j.added.length ≤ i ∨ j.removed i = true := by
  rw [current?]
  by_cases hgone : j.removed i = true
  · rw [if_pos hgone]
    exact iff_of_true rfl (Or.inr hgone)
  · rw [if_neg hgone, Option.map_eq_none_iff, List.getElem?_eq_none_iff]
    exact (or_iff_left hgone).symm

/-- Otherwise it has the breakpoint that was added, and only its lowest flag may differ. -/
theorem eq_of_current? {i : Nat} {b : Breakpoint} (hb : j.current? i = some b) :
    ∃ b₀, j.added[i]? = some b₀ ∧ b.first = b₀.first ∧ b.last = b₀.last ∧
      ∀ bit, b.flags.bits.toNat.testBit bit =
        if bit = 0 then (j.lastSwitch? i).getD (b₀.flags.bits.toNat.testBit 0)
        else b₀.flags.bits.toNat.testBit bit := by
  rw [current?] at hb
  split at hb
  · cases hb
  · rcases Option.map_eq_some_iff.mp hb with ⟨b₀, hadded, rfl⟩
    refine ⟨b₀, hadded, ?_⟩
    cases j.lastSwitch? i with
    | none =>
        refine ⟨rfl, rfl, fun bit => ?_⟩
        by_cases hbit : bit = 0
        · rw [if_pos hbit, hbit]
          rfl
        · rw [if_neg hbit]
          rfl
    | some on => exact ⟨rfl, rfl, Flags.testBit_setEnabled _ _⟩

end Journal

namespace Breakpoints

variable (l : Breakpoints) (steps : List RegistryStep)

/-- A registry as a directory. -/
def directory : Directory := ⟨l.slots.size, l.get?, l.hits.toList⟩

/-- What the indices of a registry mean after some steps. -/
structure NameLaw : Prop where
  /-- The registry answers as a map from indices to breakpoints does. -/
  directory : empty.journal steps = Directory.empty.journal steps
  /-- The indices that were given out are those from zero on, in order. -/
  named : (empty.journal steps).named = List.range (empty.journal steps).added.length
  /-- The next index is the number of breakpoints added so far. -/
  next : ∀ first last flags, ((empty.after steps).perform (.add first last flags)).1 =
    .index (empty.journal steps).added.length
  /-- There is no breakpoint under an index that was not given out, or whose breakpoint
      was removed, and under no other one. -/
  absent : ∀ i, (empty.after steps).get? i = none ↔
    i ∉ (empty.journal steps).named ∨ (empty.journal steps).removed i = true
  /-- Any other index has the breakpoint that was added under it, bit for bit, except
      that the lowest flag is as it was switched last. -/
  present : ∀ i b, (empty.after steps).get? i = some b →
    ∃ b₀, (empty.journal steps).added[i]? = some b₀ ∧ b.first = b₀.first ∧ b.last = b₀.last ∧
      ∀ bit, b.flags.bits.toNat.testBit bit =
        if bit = 0 then
          ((empty.journal steps).lastSwitch? i).getD (b₀.flags.bits.toNat.testBit 0)
        else b₀.flags.bits.toNat.testBit bit
  /-- Removing a breakpoint answers with it. Afterwards there is none under its index,
      and none is removed from there, whatever happens in between. -/
  removal : ∀ i b, (empty.after steps).get? i = some b →
    ((empty.after steps).perform (.remove i)).1 = .breakpoint (some b) ∧
      ∀ later, (((empty.after steps).perform (.remove i)).2.after later).get? i = none ∧
        ((((empty.after steps).perform (.remove i)).2.after later).perform (.remove i)).1 =
          .breakpoint none
  /-- Switching succeeds iff there is a breakpoint. -/
  switching : ∀ i on, ((empty.after steps).perform (.setEnabled i on)).1 =
    .switched ((empty.after steps).get? i).isSome
  /-- A step changes nothing under an index that it is not about. -/
  others : ∀ step i, step.index? (empty.journal steps).added.length ≠ some i →
    ((empty.after steps).perform step).2.get? i = (empty.after steps).get? i
  /-- A lookup finds the least index whose breakpoint answers. -/
  found : ∀ start size flags i,
    ((empty.after steps).perform (.lookup start size flags)).1 = .found (some i) ↔
      0 < size ∧
        (empty.after steps).Answers start (saturatingAdd start (size - 1)) flags i ∧
        ∀ k < i, ¬ (empty.after steps).Answers start (saturatingAdd start (size - 1)) flags k

theorem lookup?_directory (start size : UInt32) (flags : Flags) :
    l.directory.lookup? start size flags = l.lookup? start size flags := by
  have hany : ∀ first last i, l.Answers first last flags i ↔ (l.get? i).any (fun b =>
      b.overlaps first last && b.flags.contains flags) = true := by
    intro first last i
    simp only [Answers, Option.any_eq_true, Bool.and_eq_true]
  rw [Directory.lookup?, lookup?]
  by_cases hzero : size = 0
  · rw [if_pos hzero, if_pos hzero]
  · rw [if_neg hzero, if_neg hzero]
    -- Both find the least index that answers, and it is one that was given out.
    apply Option.ext
    intro i
    rw [List.find?_range_eq_some, find?_eq_some_iff]
    simp only [hany, Bool.not_eq_true', Bool.not_eq_true, List.mem_range]
    constructor
    · rintro ⟨hi, -, hmin⟩
      exact ⟨hi, hmin⟩
    · rintro ⟨hi, hmin⟩
      refine ⟨hi, ?_, hmin⟩
      by_contra hle
      rw [l.get?_of_size_le (Nat.le_of_not_lt hle)] at hi
      exact Bool.false_ne_true hi

theorem switched_eq (i : Nat) (on : Bool) : (l.setEnabled i on).1 = (l.get? i).isSome := by
  rw [setEnabled]
  cases l.get? i <;> rfl

theorem entry_eq_of_perform (step : RegistryStep) {i : Nat} {new : Option Breakpoint}
    (hnew : (l.perform step).2.get? i = new)
    (hindex : ∀ k, k ≠ i → step.index? l.slots.size ≠ some k) :
    Function.update l.get? i new = (l.perform step).2.get? := by
  funext k
  by_cases hk : k = i
  · rw [hk, Function.update_self, hnew]
  · rw [Function.update_of_ne hk, l.get?_perform step (hindex k hk)]

/-- No step can tell a registry from a directory. -/
theorem directory_perform (step : RegistryStep) : l.directory.perform step =
    ((l.perform step).1, (l.perform step).2.directory) := by
  have hindex : ∀ i k : Nat, k ≠ i → some i ≠ some k :=
    fun i k hk h => hk (Option.some.inj h).symm
  cases step with
  | add first last flags =>
      have hentry := l.entry_eq_of_perform (.add first last flags)
        ((l.get?_add first last flags l.slots.size).trans (if_pos rfl)) (hindex _)
      exact Prod.ext rfl (Directory.ext (l.size_perform (.add first last flags)).symm hentry rfl)
  | remove i =>
      have hentry := l.entry_eq_of_perform (.remove i)
        ((l.get?_remove i i).trans (if_pos rfl)) (hindex _)
      exact Prod.ext rfl (Directory.ext (l.size_perform (.remove i)).symm hentry rfl)
  | setEnabled i on =>
      have hentry := l.entry_eq_of_perform (.setEnabled i on)
        ((l.get?_setEnabled i on i).trans (if_pos rfl)) (hindex _)
      have hhits := congrArg Array.toList (l.hits_setEnabled i on)
      refine Prod.ext (congrArg RegistryReply.switched (l.switched_eq i on).symm) ?_
      exact Directory.ext (l.size_perform (.setEnabled i on)).symm hentry hhits.symm
  | report pc address size flags =>
      refine Prod.ext rfl ?_
      have hreport := l.report_eq_lookup pc address size flags
      simp only [Directory.perform, perform, lookup?_directory]
      rw [hreport]
      cases l.lookup? address (max size 1) flags with
      | none => rfl
      | some i =>
          have hslots := l.slots_record ⟨i, pc, address, size, flags⟩
          have hentry := funext (get?_of_slots_eq hslots)
          simp only [directory, hslots, hentry, hits_record]
  | lookup start size flags =>
      exact Prod.ext (congrArg RegistryReply.found (l.lookup?_directory start size flags)) rfl
  | get i => rfl
  | takeHits => rfl

/-- The answers of a registry are those of a directory. -/
theorem directory_journal : l.directory.journal steps = l.journal steps := by
  induction steps generalizing l with
  | nil => rfl
  | cons step steps ih =>
      rw [Directory.journal, journal, l.directory_perform step, ih]

/-- What a registry has under its indices is what a journal says. -/
structure Agrees (j : Journal) : Prop where
  /-- As many indices were given out as breakpoints were added. -/
  size : l.slots.size = j.added.length
  /-- They are those from zero on. -/
  named : j.named = List.range j.added.length
  /-- The breakpoint under each index is that of the journal. -/
  current : ∀ i, l.get? i = j.current? i
  /-- The journal says nothing yet of the indices that were not given out. -/
  fresh : ∀ i, j.added.length ≤ i → j.removed i = false ∧ j.lastSwitch? i = none

/-- The journal stays right about an index when a step is about it. -/
theorem get?_perform_index {l : Breakpoints} {j : Journal} (h : l.Agrees j)
    {step : RegistryStep} {i : Nat} (hi : step.index? l.slots.size = some i) :
    (l.perform step).2.get? i = Journal.current? (j ++ [(step, (l.perform step).1)]) i := by
  cases step with
  | add first last flags =>
      have hsize : l.slots.size = i := Option.some.inj hi
      rcases h.fresh _ (Nat.le_refl _) with ⟨hremoved, hswitch⟩
      have hget := (l.get?_add first last flags i).trans (if_pos hsize.symm)
      rw [← hsize, h.size, j.current?_concat_add _ first last flags hremoved hswitch,
        ← h.size, hsize]
      exact hget
  | remove k =>
      have hk : k = i := Option.some.inj hi
      subst hk
      have hget := (l.get?_remove k k).trans (if_pos rfl)
      refine hget.trans (Eq.trans ?_ (j.current?_concat_remove k (l.get? k)).symm)
      rw [← h.current k]
      cases l.get? k <;> rfl
  | setEnabled k on =>
      have hk : k = i := Option.some.inj hi
      subst hk
      have hget := (l.get?_setEnabled k on k).trans (if_pos rfl)
      have hreply : (l.perform (.setEnabled k on)).1 = .switched (l.get? k).isSome :=
        congrArg RegistryReply.switched (l.switched_eq k on)
      rw [hreply, j.current?_concat_setEnabled, ← h.current k]
      refine hget.trans ?_
      cases l.get? k <;> rfl
  | get k => cases hi
  | lookup start size flags => cases hi
  | report pc address size flags => cases hi
  | takeHits => cases hi

/-- Where there is no breakpoint, nothing is removed and nothing switched. -/
theorem removes_switch?_of_get? {i : Nat} (hget : l.get? i = none) (step : RegistryStep) :
    Journal.removes i (step, (l.perform step).1) = false ∧
      Journal.switch? i (step, (l.perform step).1) = none := by
  by_cases hi : step.index? l.slots.size = some i
  · cases step with
    | add first last flags => exact ⟨rfl, rfl⟩
    | remove k =>
        have hreply : (l.perform (.remove k)).1 = .breakpoint none := by
          rw [← hget, ← Option.some.inj hi]
          rfl
        rw [hreply]
        exact ⟨rfl, rfl⟩
    | setEnabled k on =>
        have hreply : (l.perform (.setEnabled k on)).1 = .switched false := by
          refine congrArg RegistryReply.switched ((l.switched_eq k on).trans ?_)
          rw [Option.some.inj hi, hget, Option.isSome_none]
        rw [hreply]
        exact ⟨rfl, rfl⟩
    | get k => cases hi
    | lookup start size flags => cases hi
    | report pc address size flags => cases hi
    | takeHits => cases hi
  · exact Journal.removes_switch?_of_index? _ hi

/-- And so does all the rest, whatever the step is about. -/
theorem agrees_perform {l : Breakpoints} {j : Journal} (h : l.Agrees j) (step : RegistryStep) :
    (l.perform step).2.Agrees (j ++ [(step, (l.perform step).1)]) := by
  have hnext : j.added.length ≤ (Journal.added (j ++ [(step, (l.perform step).1)])).length := by
    rw [Journal.added_concat, List.length_append]
    exact Nat.le_add_right _ _
  constructor
  case size =>
    rw [l.size_perform, h.size, Journal.added_concat, List.length_append]
  case named =>
    rw [Journal.named_concat, Journal.added_concat, List.length_append, h.named]
    cases step with
    | add first last flags =>
        have hreply : Journal.name? (.add first last flags,
            (l.perform (.add first last flags)).1) = some j.added.length :=
          congrArg some h.size
        rw [hreply]
        exact List.range_succ.symm
    | _ => exact List.append_nil _
  case current =>
    intro i
    by_cases hi : step.index? l.slots.size = some i
    · exact get?_perform_index h hi
    · rw [l.get?_perform step hi, h.current i]
      rw [h.size] at hi
      exact (j.current?_concat_of_index? _ hi).symm
  case fresh =>
    intro i hi
    rcases h.fresh i (Nat.le_trans hnext hi) with ⟨hremoved, hswitch⟩
    have hget := l.get?_of_size_le (i := i) (by rw [h.size]; exact Nat.le_trans hnext hi)
    rw [Journal.removed_concat, Journal.lastSwitch?_concat, hremoved, hswitch, Bool.false_or,
      Option.or_none]
    exact l.removes_switch?_of_get? hget step

/-- So a journal from the start is right about a registry after any steps. -/
theorem agrees_journal : (empty.after steps).Agrees (empty.journal steps) := by
  induction steps using List.reverseRecOn with
  | nil => exact ⟨rfl, rfl, fun i => empty.get?_of_size_le (Nat.zero_le i), fun i _ => ⟨rfl, rfl⟩⟩
  | append_singleton steps step ih =>
      rw [after_concat, journal_concat]
      exact agrees_perform ih step

-- What was asked about an index before it was given out is of no account.
example : Journal.current? (empty.journal
    [.setEnabled 0 false, .remove 0, .add 0x8000 0x8003 ⟨0x80000005⟩, .setEnabled 0 false]) 0 =
      some ⟨0x8000, 0x8003, ⟨0x80000004⟩⟩ := by
  decide

/-- An index from which a breakpoint was removed stays empty, for it is not given out
    again. -/
theorem get?_perform_none {i : Nat} (hlt : i < l.slots.size) (hget : l.get? i = none)
    (step : RegistryStep) : (l.perform step).2.get? i = none := by
  by_cases hi : step.index? l.slots.size = some i
  · cases step with
    | add first last flags => exact absurd (Option.some.inj hi) (Nat.ne_of_gt hlt)
    | remove k => exact (l.get?_remove k i).trans (if_pos (Option.some.inj hi))
    | setEnabled k on =>
        refine (l.get?_setEnabled k on i).trans ((if_pos (Option.some.inj hi)).trans ?_)
        rw [Option.some.inj hi, hget, Option.map_none]
    | get k => cases hi
    | lookup start size flags => cases hi
    | report pc address size flags => cases hi
    | takeHits => cases hi
  · rw [l.get?_perform step hi, hget]

theorem get?_after_none {i : Nat} (hlt : i < l.slots.size) (hget : l.get? i = none) :
    (l.after steps).get? i = none := by
  induction steps generalizing l with
  | nil => exact hget
  | cons step steps ih =>
      refine ih _ ?_ (l.get?_perform_none hlt hget step)
      rw [l.size_perform]
      exact Nat.lt_add_right _ hlt

end Breakpoints

/-- The indices that a registry gives out are names of its breakpoints, after any steps. -/
theorem name_law (steps : List RegistryStep) : Breakpoints.NameLaw steps := by
  have hagrees := Breakpoints.agrees_journal steps
  constructor
  case directory => exact (Breakpoints.empty.directory_journal steps).symm
  case named => exact hagrees.named
  case next =>
    intro first last flags
    exact congrArg RegistryReply.index hagrees.size
  case absent =>
    intro i
    rw [hagrees.current, Journal.current?_eq_none_iff, hagrees.named, List.mem_range,
      Nat.not_lt]
  case present =>
    intro i b hb
    rw [hagrees.current] at hb
    exact Journal.eq_of_current? _ hb
  case removal =>
    intro i b hb
    have hlt : i < (Breakpoints.empty.after steps).slots.size := by
      by_contra hle
      rw [Breakpoints.get?_of_size_le _ (Nat.le_of_not_lt hle)] at hb
      cases hb
    refine ⟨congrArg RegistryReply.breakpoint hb, fun later => ?_⟩
    have hgone := ((Breakpoints.empty.after steps).perform (.remove i)).2.get?_after_none later
      (by rw [Breakpoints.size_perform]; exact Nat.lt_add_right _ hlt)
      (((Breakpoints.empty.after steps).get?_remove i i).trans (if_pos rfl))
    exact ⟨hgone, congrArg RegistryReply.breakpoint hgone⟩
  case switching =>
    intro i on
    exact congrArg RegistryReply.switched ((Breakpoints.empty.after steps).switched_eq i on)
  case others =>
    intro step i hi
    rw [← hagrees.size] at hi
    exact (Breakpoints.empty.after steps).get?_perform step hi
  case found =>
    intro start size flags i
    rw [Breakpoints.perform, RegistryReply.found.injEq]
    exact Breakpoints.lookup?_eq_some_iff_answers _ start size flags i

end RegionBus

import RegionBus.Proofs.Breakpoint.Matches

/-!
# Registry Sessions

What a registry does over a longer time is told by its journal: what was asked of
it, and what it answered each time. The answers belong to the journal because some
questions have an effect only if the answer is yes. Removing an index that was
not given out yet does nothing, and must not count as a removal later, when it is.

A session is a list of steps, done one after the other. Only two things about a
registry change in it, what is under each index and the hits. `get?_perform` says
what one step does to the first, and `hits_perform` to the second.

## Main definitions

* `RegistryStep`, `RegistryReply`: What is asked of a registry, and the answers.
* `Breakpoints.perform`: The answer to a step, and the registry afterwards.
* `Breakpoints.after`, `Breakpoints.journal`: The same for a session.
* `RegistryStep.index?`: The index that a step is about.
* `Breakpoints.met?`: The hit that a step is recorded as.

## Theorems

* `after_append`, `journal_append`: A session that goes on.
* `get?_perform`: A step matters to no index but its own.
* `size_perform`: Only adding gives out an index.
* `hits_perform`: A step records at most one hit, or takes all of them.
-/

namespace RegionBus

/-- What can be asked of a registry. -/
inductive RegistryStep where
  /-- Add a breakpoint. -/
  | add (first last : UInt32) (flags : Flags)
  /-- Remove the breakpoint of an index. -/
  | remove (index : Nat)
  /-- Switch the breakpoint of an index on or off. -/
  | setEnabled (index : Nat) (on : Bool)
  /-- Tell the breakpoint of an index. -/
  | get (index : Nat)
  /-- Look for a breakpoint that meets some bytes. -/
  | lookup (start size : UInt32) (flags : Flags)
  /-- Take note of an access. -/
  | report (pc address size : UInt32) (flags : Flags)
  /-- Take the hits. -/
  | takeHits
  deriving DecidableEq, Repr

/-- What a registry answers. -/
inductive RegistryReply where
  /-- The index of a breakpoint that was added. -/
  | index (i : Nat)
  /-- The breakpoint of an index, if there is one. -/
  | breakpoint (b : Option Breakpoint)
  /-- Whether there was a breakpoint to switch. -/
  | switched (found : Bool)
  /-- The index that a lookup found. -/
  | found (i : Option Nat)
  /-- The hits that were taken. -/
  | hits (hits : List Hit)
  /-- Nothing to tell. -/
  | done
  deriving DecidableEq, Repr

/-- Steps with the answers to them, the first step first. -/
abbrev Journal := List (RegistryStep × RegistryReply)

/-- The index that a step is about, where `next` is the one given out next. -/
def RegistryStep.index? (next : Nat) : RegistryStep → Option Nat
  | .add _ _ _ => some next
  | .remove i => some i
  | .setEnabled i _ => some i
  | _ => none

/-- The breakpoint that a step adds. -/
def RegistryStep.added? : RegistryStep → Option Breakpoint
  | .add first last flags => some ⟨first, last, flags⟩
  | _ => none

theorem filterMap_concat {α β : Type} {f : α → Option β} (xs : List α) (x : α) :
    (xs ++ [x]).filterMap f = xs.filterMap f ++ (f x).toList := by
  rw [List.filterMap_append, List.filterMap_cons]
  cases f x <;> rfl

namespace Breakpoints

/-- The answer to a step, and the registry afterwards. -/
def perform (l : Breakpoints) : RegistryStep → RegistryReply × Breakpoints
  | .add first last flags => (l.add first last flags).map .index id
  | .remove i => (l.remove i).map .breakpoint id
  | .setEnabled i on => (l.setEnabled i on).map .switched id
  | .get i => (.breakpoint (l.get? i), l)
  | .lookup start size flags => (.found (l.lookup? start size flags), l)
  | .report pc address size flags => (.done, l.report pc address size flags)
  | .takeHits => l.takeHits.map .hits id

/-- The registry after some steps. -/
def after (l : Breakpoints) (steps : List RegistryStep) : Breakpoints :=
  steps.foldl (fun l step => (l.perform step).2) l

/-- The journal of some steps. -/
def journal (l : Breakpoints) : List RegistryStep → Journal
  | [] => []
  | step :: steps => (step, (l.perform step).1) :: (l.perform step).2.journal steps

/-- The hit that a step is recorded as, if some breakpoint meets it. -/
def met? (l : Breakpoints) : RegistryStep → Option Hit
  | .report pc address size flags =>
    (l.lookup? address (max size 1) flags).map fun i => ⟨i, pc, address, size, flags⟩
  | _ => none

theorem after_append (l : Breakpoints) (steps later : List RegistryStep) :
    l.after (steps ++ later) = (l.after steps).after later :=
  List.foldl_append

theorem after_concat (l : Breakpoints) (steps : List RegistryStep) (step : RegistryStep) :
    l.after (steps ++ [step]) = ((l.after steps).perform step).2 :=
  l.after_append steps [step]

theorem journal_append (l : Breakpoints) (steps later : List RegistryStep) :
    l.journal (steps ++ later) = l.journal steps ++ (l.after steps).journal later := by
  induction steps generalizing l with
  | nil => rfl
  | cons step steps ih => exact congrArg _ (ih _)

theorem journal_concat (l : Breakpoints) (steps : List RegistryStep) (step : RegistryStep) :
    l.journal (steps ++ [step]) =
      l.journal steps ++ [(step, ((l.after steps).perform step).1)] :=
  l.journal_append steps [step]

/-- No step matters to an index that it is not about. -/
theorem get?_perform (l : Breakpoints) (step : RegistryStep) {i : Nat}
    (hi : step.index? l.slots.size ≠ some i) : (l.perform step).2.get? i = l.get? i := by
  cases step with
  | add first last flags =>
      have hne : i ≠ l.slots.size := fun h => hi (congrArg some h.symm)
      exact (l.get?_add first last flags i).trans (if_neg hne)
  | remove k =>
      have hne : k ≠ i := fun h => hi (congrArg some h)
      exact (l.get?_remove k i).trans (if_neg hne)
  | setEnabled k on =>
      have hne : k ≠ i := fun h => hi (congrArg some h)
      exact (l.get?_setEnabled k on i).trans (if_neg hne)
  | report pc address size flags =>
      exact get?_of_slots_eq (l.slots_report pc address size flags) i
  | get k => rfl
  | lookup start size flags => rfl
  | takeHits => rfl

/-- One index is given out for every breakpoint that is added. -/
theorem size_perform (l : Breakpoints) (step : RegistryStep) :
    (l.perform step).2.slots.size = l.slots.size + step.added?.toList.length := by
  cases step with
  | add first last flags => exact Array.size_push _
  | remove k => exact Array.size_setIfInBounds
  | setEnabled k on => exact l.size_setEnabled k on
  | report pc address size flags =>
      exact congrArg Array.size (l.slots_report pc address size flags)
  | get k => rfl
  | lookup start size flags => rfl
  | takeHits => rfl

/-- A step that does not take the hits adds to them what it is recorded as. -/
theorem hits_perform (l : Breakpoints) {step : RegistryStep} (hstep : step ≠ .takeHits) :
    (l.perform step).2.hits.toList =
      (l.met? step).elim l.hits.toList fun hit => (l.hits.toList ++ [hit]).rtake maxHits := by
  cases step with
  | report pc address size flags =>
      have hreport := l.report_eq_lookup pc address size flags
      simp only [perform, met?]
      cases hi : l.lookup? address (max size 1) flags with
      | none =>
          rw [hi] at hreport
          rw [hreport, Option.map_none, Option.elim_none]
      | some i =>
          rw [hi] at hreport
          rw [hreport, Option.map_some, Option.elim_some, hits_record]
  | setEnabled k on => exact congrArg Array.toList (l.hits_setEnabled k on)
  | takeHits => exact absurd rfl hstep
  | add first last flags => rfl
  | remove k => rfl
  | get k => rfl
  | lookup start size flags => rfl

end Breakpoints

end RegionBus

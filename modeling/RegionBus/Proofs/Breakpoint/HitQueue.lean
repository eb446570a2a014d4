import RegionBus.Proofs.Breakpoint.Journal

/-!
# The Queue of Hits

Hits are kept until they are taken, and of too many the oldest are dropped. What is
dropped is lost, so a debugger that takes the hits from time to time does not get all
of them. It gets each batch with the beginning missing, and something is missing only
from batches that are as long as the queue.

The queue is the end of a batch. `hits_after` has it for a session of any length, with
the batch being what was recorded since the hits were taken last. It does not mention
the earlier steps, for the queue is empty when the hits were just taken. The
batches that were taken before are put together in `exists_batches`, which goes
through the session from its end. A step either ends the batch, or adds to it.

## Main definitions

* `Breakpoints.recorded`: The hits that were recorded in a session.
* `Breakpoints.taken`: The hits that were taken in it.
* `Breakpoints.sinceTake`: The hits that were recorded since they were taken last.
* `Breakpoints.QueueLaw`: What the queue has after some steps, and what it had.

## Theorems

* `recorded_concat`, `taken_concat`, `sinceTake_concat`: One more step.
* `hits_after`: The queue is the end of what was recorded since the last take.
* `exists_batches`: What was recorded is what was taken and what was lost.
* `queue_law`: The queue after any steps.
-/

namespace RegionBus

section Ends

variable {α : Type} (xs : List α)

theorem length_rtake (n : Nat) : (xs.rtake n).length = min xs.length n := by
  rw [List.rtake, List.length_drop]
  omega

/-- A list that is cut in front has its full length. -/
theorem length_rtake_of_rdrop_ne_nil {n : Nat} (h : xs.rdrop n ≠ []) :
    (xs.rtake n).length = n := by
  rw [length_rtake]
  apply Nat.min_eq_right
  by_contra hlt
  have hzero : xs.length - n = 0 := by omega
  apply h
  rw [List.rdrop, hzero, List.take_zero]

/-- One more goes to the end of a list, and if the list is full, the first goes out. -/
theorem rtake_concat_of_length_le {n : Nat} (hn : 0 < n) (h : xs.length ≤ n) (x : α) :
    (xs ++ [x]).rtake n = (if xs.length = n then xs.tail else xs) ++ [x] := by
  rw [List.rtake, List.length_append, List.length_singleton]
  by_cases hfull : xs.length = n
  · have hone : xs.length + 1 - n = 1 := by omega
    rw [if_pos hfull, hone, List.drop_append_of_le_length (by omega), List.drop_one]
  · have hzero : xs.length + 1 - n = 0 := by omega
    rw [if_neg hfull, hzero, List.drop_zero]

/-- Lists of which the ends are kept are those ends, each behind what was cut off. -/
theorem exists_pieces (n : Nat) (batches : List (List α)) :
    ∃ pieces : List (List α × List α),
      pieces.map Prod.snd = batches.map (·.rtake n) ∧
        (pieces.map fun piece => piece.1 ++ piece.2).flatten = batches.flatten ∧
        ∀ piece ∈ pieces, piece.1 ≠ [] → piece.2.length = n := by
  refine ⟨batches.map fun batch => (batch.rdrop n, batch.rtake n), ?_, ?_, ?_⟩
  · rw [List.map_map]
    rfl
  · rw [List.map_map]
    refine congrArg List.flatten ((List.map_congr_left fun batch _ => ?_).trans (List.map_id _))
    exact List.take_append_drop _ batch
  · intro piece hpiece hlost
    rcases List.mem_map.mp hpiece with ⟨batch, -, rfl⟩
    exact length_rtake_of_rdrop_ne_nil batch hlost

end Ends

namespace Breakpoints

variable (l : Breakpoints) (steps : List RegistryStep)

/-- The hits that are recorded in some steps, the oldest first. -/
def recorded (l : Breakpoints) : List RegistryStep → List Hit
  | [] => []
  | step :: steps => (l.met? step).toList ++ (l.perform step).2.recorded steps

/-- What each of the steps that take the hits is answered. -/
def taken (l : Breakpoints) (steps : List RegistryStep) : List (List Hit) :=
  (l.journal steps).filterMap fun entry =>
    match entry.2 with
    | .hits hits => some hits
    | _ => none

/-- Whether a step leaves the hits to be taken later. -/
def leavesHits (step : RegistryStep) : Bool :=
  step != .takeHits

/-- The hits that are recorded since they were taken last, or since the beginning. -/
def sinceTake (l : Breakpoints) (steps : List RegistryStep) : List Hit :=
  (l.after (steps.rdropWhile leavesHits)).recorded (steps.rtakeWhile leavesHits)

/-- What the queue of hits has after some steps, and what became of the other hits. -/
structure QueueLaw : Prop where
  /-- The queue has the newest ones of the hits that were recorded since the last take,
      the oldest first. -/
  newest : (empty.after steps).hits.toList = (empty.sinceTake steps).rtake maxHits
  /-- They are all of them, unless there are too many. -/
  count : (empty.after steps).hits.size = min (empty.sinceTake steps).length maxHits
  /-- Taking the hits answers with the queue and empties it. -/
  taking : ((empty.after steps).perform .takeHits).1 = .hits (empty.after steps).hits.toList ∧
    ((empty.after steps).perform .takeHits).2 =
      ⟨(empty.after steps).slots, #[], Nat.zero_le maxHits⟩
  /-- A hit that is recorded goes to the end of the queue, and if the queue is full, the
      first hit goes out. -/
  recording : ∀ step hit, (empty.after steps).met? step = some hit →
    ((empty.after steps).perform step).2.hits.toList =
      (if (empty.after steps).hits.size = maxHits then (empty.after steps).hits.toList.tail
        else (empty.after steps).hits.toList) ++ [hit]
  /-- What is not recorded leaves the queue as it is. -/
  leaving : ∀ step, step ≠ .takeHits → (empty.after steps).met? step = none →
    ((empty.after steps).perform step).2.hits = (empty.after steps).hits
  /-- The hits that were taken and those in the queue, each time behind what was lost, are
      all that were recorded. Something was lost only from a full queue. -/
  complete : ∃ batches : List (List Hit × List Hit),
    batches.map Prod.snd = empty.taken steps ++ [(empty.after steps).hits.toList] ∧
      (batches.map fun batch => batch.1 ++ batch.2).flatten = empty.recorded steps ∧
      ∀ batch ∈ batches, batch.1 ≠ [] → batch.2.length = maxHits

theorem recorded_append (later : List RegistryStep) :
    l.recorded (steps ++ later) = l.recorded steps ++ (l.after steps).recorded later := by
  induction steps generalizing l with
  | nil => rfl
  | cons step steps ih =>
      rw [List.cons_append, recorded, recorded, ih, List.append_assoc]
      rfl

theorem recorded_concat (step : RegistryStep) :
    l.recorded (steps ++ [step]) = l.recorded steps ++ ((l.after steps).met? step).toList := by
  rw [recorded_append, recorded, recorded, List.append_nil]

theorem taken_concat (step : RegistryStep) : l.taken (steps ++ [step]) =
    l.taken steps ++ if step = .takeHits then [(l.after steps).hits.toList] else [] := by
  rw [taken, journal_concat, filterMap_concat, taken]
  cases step <;> rfl

/-- A take leaves nothing behind, and any other step adds to what is there. -/
theorem sinceTake_concat (step : RegistryStep) : l.sinceTake (steps ++ [step]) =
    if step = .takeHits then []
    else l.sinceTake steps ++ ((l.after steps).met? step).toList := by
  rw [sinceTake, List.rdropWhile_concat, List.rtakeWhile_concat, leavesHits]
  by_cases htake : step = .takeHits
  · rw [if_pos htake, htake]
    rfl
  · have hleaves : (step != .takeHits) = true := bne_iff_ne.mpr htake
    rw [if_pos hleaves, if_pos hleaves, if_neg htake, recorded_concat, ← after_append,
      List.rdropWhile_append_rtakeWhile, sinceTake]

/-- The queue has the newest hits since they were taken last, if it was empty in the
    beginning. -/
theorem hits_after (hl : l.hits = #[]) :
    (l.after steps).hits.toList = (l.sinceTake steps).rtake maxHits := by
  induction steps using List.reverseRecOn with
  | nil =>
      have hafter : l.after [] = l := rfl
      have hsince : l.sinceTake [] = [] := rfl
      rw [hafter, hl, hsince, List.rtake_nil]
  | append_singleton steps step ih =>
      rw [after_concat, sinceTake_concat]
      by_cases htake : step = .takeHits
      · rw [if_pos htake, htake, List.rtake_nil]
        rfl
      · rw [if_neg htake, hits_perform _ htake, ih]
        cases (l.after steps).met? step with
        | none => rw [Option.elim_none, Option.toList_none, List.append_nil]
        | some hit =>
            rw [Option.elim_some, Option.toList_some, rtake_concat _ hit (by decide)]

/-- What is recorded falls into batches, one for each take and one for the queue, and each
    of them has its end kept if it was too long. -/
theorem exists_batches (hl : l.hits = #[]) : ∃ batches : List (List Hit),
    batches.map (·.rtake maxHits) = l.taken steps ∧
      batches.flatten ++ l.sinceTake steps = l.recorded steps := by
  induction steps using List.reverseRecOn with
  | nil => exact ⟨[], rfl, rfl⟩
  | append_singleton steps step ih =>
      rcases ih with ⟨batches, htaken, hrecorded⟩
      rw [taken_concat, sinceTake_concat, recorded_concat, ← hrecorded, ← htaken]
      by_cases htake : step = .takeHits
      · -- The batch is at its end, and the next one has nothing yet.
        refine ⟨batches ++ [l.sinceTake steps], ?_, ?_⟩
        · rw [if_pos htake, List.map_append, l.hits_after steps hl]
          rfl
        · have hmet : (l.after steps).met? step = none := by
            rw [htake]
            rfl
          rw [if_pos htake, hmet, List.flatten_append, List.flatten_singleton]
          rfl
      · refine ⟨batches, ?_, ?_⟩
        · rw [if_neg htake, List.append_nil]
        · rw [if_neg htake, List.append_assoc]

end Breakpoints

/-- The queue of hits after any steps. -/
theorem queue_law (steps : List RegistryStep) : Breakpoints.QueueLaw steps := by
  have hnewest := Breakpoints.empty.hits_after steps rfl
  constructor
  case newest => exact hnewest
  case count =>
    rw [← Array.length_toList, hnewest, length_rtake]
  case taking => exact ⟨rfl, rfl⟩
  case recording =>
    intro step hit hmet
    have htake : step ≠ .takeHits := by
      rintro rfl
      cases hmet
    have hle : (Breakpoints.empty.after steps).hits.toList.length ≤ maxHits :=
      (Breakpoints.empty.after steps).hits_le
    rw [Breakpoints.hits_perform _ htake, hmet, Option.elim_some,
      rtake_concat_of_length_le _ (by decide) hle, Array.length_toList]
  case leaving =>
    intro step htake hmet
    have hhits := (Breakpoints.empty.after steps).hits_perform htake
    rw [hmet, Option.elim_none] at hhits
    exact Array.toList_inj.mp hhits
  case complete =>
    rcases Breakpoints.empty.exists_batches steps rfl with ⟨batches, htaken, hrecorded⟩
    -- Each batch is cut where its end begins, and so is the one in the queue.
    rcases exists_pieces maxHits (batches ++ [Breakpoints.empty.sinceTake steps]) with
      ⟨pieces, hkept, hall, hlost⟩
    refine ⟨pieces, ?_, ?_, hlost⟩
    · rw [hkept, List.map_append, htaken, List.map_singleton, hnewest]
    · rw [hall, List.flatten_concat, hrecorded]

end RegionBus

import Mathlib.Data.List.Nodup
import RegionBus.Proofs.Allocation.Acquisition
import RegionBus.Proofs.Block.Steps
import RegionBus.SharedStore

/-!
# Blocks That Outlive Their Store

A block goes back when its last owner goes, whoever that is, and not before.
Until then it is used as if nothing else happened. `SharedStep` has all that can
happen: references are taken and given up, the store is given up, and blocks are
read and written. `SharedStore.Tracks` compares what became of a store in such
steps with three things that the steps alone say, whatever was kept of them: the
owners of each block, `SharedStep.owners`, the block as its accesses leave it, and
the events of blocks that went back.

One step gives back the blocks that lose their last owner in it, and no others.
As no block ever finds a new owner, the events of a whole run have each block
once if it is without an owner in the end, and never if it is not.

## Main definitions

* `BlockAccess`, `BlockAccess.perform`: A block read or written.
* `BlockAccess.step`: The same as a step of the block.
* `SharedStep`, `SharedStep.perform`, `SharedStore.run`: What happens to a store.
* `Owners`, `SharedStep.owners`: Who owns a block, and who does after some steps.
* `SharedStep.lost`: The blocks that lose their last owner in a step.
* `SharedStore.Tracks`: What is known of a store after some steps.
* `SharedStore.Lifetime`: What the owners of its blocks can rely on.

## Theorems

* `SharedStore.ownership_perform`: A store keeps count of its owners.
* `SharedStore.events_perform`: What one step gives back.
* `SharedStore.tracks_perform`, `SharedStore.tracks_run`: Steps that are tracked.
* `store_lifecycle`: A store from its first request to its last owner.
-/

namespace RegionBus

/-- A block read or written. -/
inductive BlockAccess where
  | readWord (offset : Nat)
  | writeWord (offset : Nat) (value mask : UInt32)
  | readBytes (offset n : Nat)
  | writeBytes (offset : Nat) (data : Image)
  | loadWords (offset : Nat) (image : Image)
  | fill (byte : UInt8)

/-- What an access answers. A word or some bytes are there only if they lie in the
    block, and `stored` says whether anything was. -/
inductive BlockReply where
  | word (w? : Option UInt32)
  | bytes (bytes? : Option (List UInt8))
  | stored (ok : Bool)
  deriving DecidableEq, Repr

/-- The block after an access, with the answer. -/
def BlockAccess.perform (b : Block) : BlockAccess → BlockReply × Block
  | readWord offset => (.word (b.readWord? offset), b)
  | writeWord offset value mask =>
    (.stored (b.writeWord? offset value mask).isSome, (b.writeWord? offset value mask).getD b)
  | readBytes offset n => (.bytes (b.readBytes? offset n), b)
  | writeBytes offset data =>
    (.stored (b.writeBytes? offset data).isSome, (b.writeBytes? offset data).getD b)
  | loadWords offset image =>
    (.stored (b.loadWords? offset image).isSome, (b.loadWords? offset image).getD b)
  | fill byte => (.stored true, b.fill byte)

/-- What the owner of a block asks of it, as a step. Bytes are read to a buffer of zeros. -/
def BlockAccess.step : BlockAccess → BlockStep
  | readWord offset => .readWord offset
  | writeWord offset value mask => .writeWord offset value mask
  | readBytes offset n => .readBytes offset (List.replicate n 0)
  | writeBytes offset data => .writeBytes offset data
  | loadWords offset image => .loadWords offset image
  | fill byte => .fill byte

theorem BlockAccess.perform_step (x : BlockAccess) (b : Block) :
    (b.perform x.step).2 = (x.perform b).2 := by
  cases x <;> rfl

/-- The block after some accesses. -/
def Block.after (b : Block) (accesses : List BlockAccess) : Block :=
  accesses.foldl (fun b x => (x.perform b).2) b

/-- One thing that happens to a store and its blocks. -/
inductive SharedStep where
  /-- A reference to a block is taken. -/
  | hold (k : BlockKind)
  /-- A reference to a block is given up. -/
  | letGo (k : BlockKind)
  /-- The store is given up, and its references with it. -/
  | close
  /-- A block is read or written by one of its owners. -/
  | access (k : BlockKind) (x : BlockAccess)

/-- The access of a step to a given block. -/
def SharedStep.access? (k : BlockKind) : SharedStep → Option BlockAccess
  | access j x => if j = k then some x else none
  | hold _ | letGo _ | close => none

/-- The accesses of some steps to a given block, in order. -/
def SharedStep.accesses (k : BlockKind) (steps : List SharedStep) : List BlockAccess :=
  steps.filterMap (access? k)

theorem SharedStep.accesses_concat (k : BlockKind) (steps : List SharedStep) (step : SharedStep) :
    accesses k (steps ++ [step]) = accesses k steps ++ (step.access? k).toList := by
  rw [accesses, List.filterMap_append, accesses, List.filterMap_cons, List.filterMap_nil]
  cases step.access? k <;> rfl

/-- Who owns a block: its store or not, and how many besides. -/
structure Owners where
  /-- The store is one of the owners. -/
  isStore : Bool
  /-- The number of references that are held besides. -/
  references : Nat

namespace Owners

/-- A block that was just had is its store's alone. -/
def initial : Owners := ⟨true, 0⟩

/-- The number of owners. -/
def count (o : Owners) : Nat :=
  o.references + o.isStore.toNat

/-- The owners of a block after a step. A reference is only handed out by an owner, and
    it is only given up by who holds one. -/
def after (k : BlockKind) (o : Owners) : SharedStep → Owners
  | .hold j => if j = k ∧ o.count ≠ 0 then { o with references := o.references + 1 } else o
  | .letGo j => if j = k then { o with references := o.references - 1 } else o
  | .close => { o with isStore := false }
  | .access _ _ => o

end Owners

/-- The owners of a block after some steps. -/
def SharedStep.owners (k : BlockKind) (steps : List SharedStep) : Owners :=
  steps.foldl (Owners.after k) .initial

/-- The blocks that lose their last owner in one more step. -/
def SharedStep.lost (steps : List SharedStep) (step : SharedStep) : List BlockKind :=
  BlockKind.all.filter fun k =>
    (owners k steps).count ≠ 0 ∧ (owners k (steps ++ [step])).count = 0

theorem SharedStep.owners_concat (k : BlockKind) (steps : List SharedStep) (step : SharedStep) :
    owners k (steps ++ [step]) = (owners k steps).after k step :=
  List.foldl_append

/-- The blocks after a step, with the answer if there is one, and the events. -/
def SharedStep.perform (s : SharedStore) :
    SharedStep → Option BlockReply × SharedStore × List Event
  | hold k => (none, s.hold k, [])
  | letGo k => (none, s.letGo k)
  | close => (none, s.close)
  | access k x =>
    ((s.block? k).map fun b => (x.perform b).1, s.updateBlock k fun b => (x.perform b).2, [])

/-- The blocks after some steps, with the events. -/
def SharedStore.run (s : SharedStore) : List SharedStep → SharedStore × List Event
  | [] => (s, [])
  | step :: steps =>
    let (_, s, events) := step.perform s
    let (s, later) := s.run steps
    (s, events ++ later)

/-- An access changes nothing but contents. -/
theorem BlockAccess.perform_place (x : BlockAccess) (b : Block) :
    (x.perform b).2.size = b.size ∧ (x.perform b).2.address = b.address := by
  have hplace := b.samePlace_perform x.step
  rw [x.perform_step] at hplace
  exact ⟨hplace.size_eq, hplace.address_eq⟩

theorem releaseEvent_injective (store : Store) : Function.Injective store.releaseEvent := by
  intro k j h
  rw [Store.releaseEvent, Store.releaseEvent] at h
  exact (Event.released.inj h).1

namespace SharedStore

variable (s : SharedStore)

/-- Who owns a block, as the store has it. -/
def ownership (k : BlockKind) : Owners :=
  ⟨s.isOpen, s.references k⟩

theorem count_ownership (k : BlockKind) : (s.ownership k).count = s.owners k := by
  rw [owners, ownership, Owners.count]
  cases s.isOpen <;> rfl

/-- A store keeps count of the owners of its blocks. -/
theorem ownership_perform (k : BlockKind) (step : SharedStep) :
    (step.perform s).2.1.ownership k = (s.ownership k).after k step := by
  cases step with
  | hold j =>
      rw [SharedStep.perform, Owners.after, count_ownership]
      -- A reference to another block changes nothing about this one.
      by_cases hj : j = k
      · subst hj
        by_cases hzero : s.owners j = 0
        · rw [hold, if_pos hzero, if_neg fun h => h.2 hzero]
        · rw [hold, if_neg hzero, if_pos ⟨rfl, hzero⟩]
          exact congrArg _ (congrArg _ (if_pos rfl))
      · rw [if_neg fun h => hj h.1, hold]
        split
        · rfl
        · exact congrArg _ (congrArg _ (if_neg fun h => hj h.symm))
  | letGo j =>
      rw [SharedStep.perform, Owners.after, letGo]
      by_cases hj : j = k
      · subst hj
        rw [if_pos rfl]
        split
        · next hzero =>
          -- None is held, and so none is taken away.
          have hsame : s.references j = s.references j - 1 := by omega
          exact congrArg _ hsame
        · exact congrArg _ (congrArg _ (if_pos rfl))
      · rw [if_neg hj]
        split
        · rfl
        · exact congrArg _ (congrArg _ (if_neg fun h => hj h.symm))
  | close =>
      rw [SharedStep.perform, Owners.after, close]
      split
      · rfl
      · next hopen => rw [ownership, Bool.eq_false_iff.mpr hopen]
  | access j x =>
      rw [SharedStep.perform, Owners.after, updateBlock]
      split <;> rfl

theorem owners_updateBlock (k j : BlockKind) (f : Block → Block) :
    (s.updateBlock k f).owners j = s.owners j := by
  unfold updateBlock
  split <;> rfl

theorem owners_hold_eq_zero_iff (k j : BlockKind) : (s.hold k).owners j = 0 ↔ s.owners j = 0 := by
  by_cases h : s.owners k = 0
  · rw [hold, if_pos h]
  · rw [owners_hold s k j h]
    by_cases hj : j = k
    · rw [hj]
      omega
    · rw [if_neg hj, Nat.add_zero]

/-- The blocks that lose their last owner on the way to another state. -/
def lost (s t : SharedStore) : List BlockKind :=
  BlockKind.all.filter fun k => s.owners k ≠ 0 ∧ t.owners k = 0

theorem mem_lost {s t : SharedStore} {k : BlockKind} :
    k ∈ s.lost t ↔ s.owners k ≠ 0 ∧ t.owners k = 0 := by
  rw [lost, List.mem_filter, decide_eq_true_eq]
  exact and_iff_right k.mem_all

theorem lost_eq_nil {s t : SharedStore} (h : ∀ k, t.owners k = 0 → s.owners k = 0) :
    s.lost t = [] := by
  refine List.eq_nil_iff_forall_not_mem.mpr fun k hk => ?_
  rcases mem_lost.mp hk with ⟨howned, hlost⟩
  exact howned (h k hlost)

/-- A step gives back the blocks that lose their last owner in it. -/
theorem events_perform (step : SharedStep) :
    (step.perform s).2.2 = (s.lost (step.perform s).2.1).map s.store.releaseEvent := by
  cases step with
  | hold k =>
      rw [SharedStep.perform, lost_eq_nil fun j => (s.owners_hold_eq_zero_iff k j).mp]
      rfl
  | access k x =>
      rw [SharedStep.perform, lost_eq_nil fun j hj => by rwa [owners_updateBlock] at hj]
      rfl
  | letGo k =>
      rw [SharedStep.perform]
      by_cases href : s.references k = 0
      · rw [letGo, if_pos href, lost_eq_nil fun _ h => h]
        rfl
      · have howners := fun j => s.owners_letGo k j href
        have hpos : s.owners k ≠ 0 := by
          rw [owners]
          omega
        -- No other block has fewer owners than before.
        have hlost : s.lost (s.letGo k).1 =
            BlockKind.all.filter fun j => j = k ∧ (s.letGo k).1.owners k = 0 := by
          refine List.filter_congr fun j _ => decide_eq_decide.mpr ?_
          by_cases hj : j = k
          · rw [hj]
            exact ⟨fun h => ⟨rfl, h.2⟩, fun h => ⟨hpos, h.2⟩⟩
          · rw [howners, if_neg hj, Nat.sub_zero]
            exact ⟨fun h => absurd h.2 h.1, fun h => absurd h.1 hj⟩
        rw [letGo_events s k href, hlost]
        by_cases hzero : (s.letGo k).1.owners k = 0
        · simp only [hzero, and_true, if_true]
          cases k <;> rfl
        · simp only [hzero, and_false, if_false, decide_false]
          rfl
  | close =>
      rw [SharedStep.perform]
      by_cases hopen : s.isOpen = true
      · have hlost : s.lost s.close.1 = BlockKind.all.filter fun k => s.close.1.owners k = 0 := by
          refine List.filter_congr fun k _ => decide_eq_decide.mpr (and_iff_right ?_)
          rw [owners, if_pos hopen]
          omega
        rw [close_events s hopen, hlost]
      · rw [close, if_neg hopen, lost_eq_nil fun _ h => h]
        rfl

/-- No block finds a new owner. -/
theorem owners_perform (step : SharedStep) {k : BlockKind} (h : s.owners k = 0) :
    (step.perform s).2.1.owners k = 0 := by
  cases step with
  | hold j => exact (s.owners_hold_eq_zero_iff j k).mpr h
  | access j x => exact (s.owners_updateBlock j k _).trans h
  | letGo j =>
      rw [SharedStep.perform]
      by_cases href : s.references j = 0
      · rwa [letGo, if_pos href]
      · rw [owners_letGo s j k href, h, Nat.zero_sub]
  | close =>
      rw [SharedStep.perform, owners_close]
      rw [owners] at h
      omega

/-- What is known of a store after some steps: the events so far, and each block as
    its accesses leave it. -/
structure Tracks (store : Store) (steps : List SharedStep) (events : List Event)
    (s : SharedStore) : Prop where
  /-- The blocks have gone nowhere else. -/
  release_eq : ∀ k, s.store.releaseEvent k = store.releaseEvent k
  /-- The blocks are owned as the steps say. -/
  ownership_eq : ∀ k, s.ownership k = SharedStep.owners k steps
  /-- A block that has an owner is what its accesses made of it. -/
  block_eq : ∀ k, s.owners k ≠ 0 →
    s.store.block k = (store.block k).after (SharedStep.accesses k steps)
  /-- A block without an owner has gone back once, and no other has. -/
  count_eq : ∀ k, events.count (store.releaseEvent k) = if s.owners k = 0 then 1 else 0
  /-- Nothing else has gone back. -/
  only : ∀ e ∈ events, ∃ k, e = store.releaseEvent k

theorem tracks_ofStore (store : Store) : (ofStore store).Tracks store [] [] := by
  have howned : ∀ k, (ofStore store).owners k ≠ 0 := fun _ => Nat.one_ne_zero
  exact ⟨fun _ => rfl, fun _ => rfl, fun _ _ => rfl, fun k => (if_neg (howned k)).symm,
    fun _ he => absurd he List.not_mem_nil⟩

variable {s} {store : Store} {steps : List SharedStep} {events : List Event}

theorem Tracks.ownership_perform (h : s.Tracks store steps events) (step : SharedStep)
    (k : BlockKind) :
    (step.perform s).2.1.ownership k = SharedStep.owners k (steps ++ [step]) := by
  rw [s.ownership_perform, h.ownership_eq, SharedStep.owners_concat]

/-- The blocks that lose their last owner in a step can be told from the steps. -/
theorem Tracks.lost_eq (h : s.Tracks store steps events) (step : SharedStep) :
    s.lost (step.perform s).2.1 = SharedStep.lost steps step := by
  refine List.filter_congr fun k _ => decide_eq_decide.mpr ?_
  rw [← count_ownership, ← count_ownership, h.ownership_eq, h.ownership_perform]

theorem Tracks.release_perform (h : s.Tracks store steps events) (step : SharedStep)
    (k : BlockKind) : (step.perform s).2.1.store.releaseEvent k = store.releaseEvent k := by
  rw [← h.release_eq k]
  cases step with
  | hold j =>
      rw [SharedStep.perform, hold]
      split <;> rfl
  | letGo j =>
      rw [SharedStep.perform, letGo]
      split <;> rfl
  | close =>
      rw [SharedStep.perform, close]
      split <;> rfl
  | access j x =>
      rw [SharedStep.perform, updateBlock]
      split
      · rfl
      · rcases x.perform_place (s.store.block j) with ⟨hsize, haddress⟩
        rw [Store.releaseEvent, Store.releaseEvent, Store.updateBlock_eq, Store.block_setBlock]
        split
        · next hj => rw [hsize, haddress, hj]
        · rfl

theorem Tracks.block_perform (h : s.Tracks store steps events) (step : SharedStep)
    {k : BlockKind} (hk : s.owners k ≠ 0) : (step.perform s).2.1.store.block k =
      (store.block k).after (SharedStep.accesses k (steps ++ [step])) := by
  have hafter : (store.block k).after (SharedStep.accesses k (steps ++ [step])) =
      (s.store.block k).after (step.access? k).toList := by
    rw [h.block_eq k hk, SharedStep.accesses_concat, Block.after, List.foldl_append]
    rfl
  rw [hafter]
  cases step with
  | hold j =>
      rw [SharedStep.perform, hold]
      split <;> rfl
  | letGo j =>
      rw [SharedStep.perform, letGo]
      split <;> rfl
  | close =>
      rw [SharedStep.perform, close]
      split <;> rfl
  | access j x =>
      rw [SharedStep.perform, SharedStep.access?]
      by_cases hj : j = k
      · rw [updateBlock, if_neg (by rw [hj]; exact hk), if_pos hj]
        dsimp only
        rw [Store.updateBlock_eq, Store.block_setBlock, if_pos hj, hj]
        rfl
      · rw [updateBlock, if_neg hj]
        split
        · rfl
        · dsimp only
          rw [Store.updateBlock_eq, Store.block_setBlock, if_neg hj]
          rfl

/-- How often a block goes back in a step. -/
theorem Tracks.count_perform (h : s.Tracks store steps events) (step : SharedStep)
    (k : BlockKind) : (step.perform s).2.2.count (store.releaseEvent k) =
      if s.owners k ≠ 0 ∧ (step.perform s).2.1.owners k = 0 then 1 else 0 := by
  have hevent : s.store.releaseEvent = store.releaseEvent := funext h.release_eq
  have hnodup : (s.lost (step.perform s).2.1).Nodup := List.Nodup.filter _ (by decide)
  -- No two blocks have the same event, so it is enough to count blocks.
  rw [events_perform, hevent, List.count_map_of_injective _ _ (releaseEvent_injective store),
    hnodup.count]
  simp only [mem_lost]

/-- A step that is tracked. -/
theorem tracks_perform (h : s.Tracks store steps events) (step : SharedStep) :
    (step.perform s).2.1.Tracks store (steps ++ [step]) (events ++ (step.perform s).2.2) := by
  constructor
  case release_eq => exact h.release_perform step
  case ownership_eq => exact h.ownership_perform step
  case block_eq =>
    intro k hk
    exact h.block_perform step fun hzero => hk (s.owners_perform step hzero)
  case count_eq =>
    intro k
    -- It went back before if it had no owner then, and in this step if it lost the last.
    rw [List.count_append, h.count_eq k, h.count_perform step k]
    by_cases hzero : s.owners k = 0
    · rw [if_pos hzero, if_neg fun hlost => hlost.1 hzero,
        if_pos (s.owners_perform step hzero)]
    · simp only [hzero, ne_eq, not_false_eq_true, true_and, if_false, Nat.zero_add]
  case only =>
    intro e he
    rcases List.mem_append.mp he with he | he
    · exact h.only e he
    · rw [events_perform] at he
      rcases List.mem_map.mp he with ⟨k, -, rfl⟩
      exact ⟨k, h.release_eq k⟩

theorem tracks_run (h : s.Tracks store steps events) (more : List SharedStep) :
    (s.run more).1.Tracks store (steps ++ more) (events ++ (s.run more).2) := by
  induction more generalizing s steps events with
  | nil =>
      rw [run, List.append_nil, List.append_nil]
      exact h
  | cons step more ih =>
      have hrest := ih (tracks_perform h step)
      rw [List.append_assoc, List.append_assoc] at hrest
      exact hrest

/-- What the owners of the blocks of a store can rely on after some steps. -/
structure Lifetime (store : Store) (dramSize : Nat) (steps : List SharedStep)
    (events : List Event) (s : SharedStore) : Prop where
  /-- Blocks go back as they were had. -/
  as_had : ∀ k, store.releaseEvent k = .released k (k.layout dramSize) (store.block k).address
  /-- The blocks are owned as the steps say. -/
  owners_eq : ∀ k, s.owners k = (SharedStep.owners k steps).count
  /-- A block without an owner has gone back once, and no other has. -/
  once : ∀ k, events.count (store.releaseEvent k) =
    if (SharedStep.owners k steps).count = 0 then 1 else 0
  /-- Nothing else has gone back. -/
  only : ∀ e ∈ events, ∃ k, e = store.releaseEvent k
  /-- One more step gives back what loses its last owner in it. -/
  moment : ∀ step : SharedStep,
    (step.perform s).2.2 = (SharedStep.lost steps step).map store.releaseEvent
  /-- An owner of a block reads and writes it as if nothing but its accesses had
      happened. -/
  usable : ∀ k x, ((SharedStep.access k x).perform s).1 =
    if (SharedStep.owners k steps).count = 0 then none
    else some (x.perform ((store.block k).after (SharedStep.accesses k steps))).1

theorem Tracks.lifetime (h : s.Tracks store steps events) {dramSize : Nat}
    (hsize : ∀ k, (store.block k).size = k.sizeWith dramSize) :
    s.Lifetime store dramSize steps events := by
  have howners : ∀ k, s.owners k = (SharedStep.owners k steps).count := by
    intro k
    rw [← count_ownership, h.ownership_eq]
  constructor
  case as_had =>
    intro k
    rw [Store.releaseEvent, hsize k]
    rfl
  case owners_eq => exact howners
  case once =>
    intro k
    rw [h.count_eq, howners]
  case only => exact h.only
  case moment =>
    intro step
    rw [events_perform, h.lost_eq, funext h.release_eq]
  case usable =>
    intro k x
    rw [SharedStep.perform, block?, ← howners]
    split
    · rfl
    · next howned => rw [h.block_eq k howned, Option.map_some]

end SharedStore

/-- A store from its first request to its last owner. It is had as a whole or not at
    all, and then each block goes back once, when its last owner goes. -/
theorem store_lifecycle (allocator : Allocator) (dramSize : Nat) :
    (∃ store events, Store.create allocator dramSize = (.ok store, events) ∧
      store.Created allocator dramSize events ∧
      ∀ steps : List SharedStep, ((SharedStore.ofStore store).run steps).1.Lifetime store dramSize
        steps ((SharedStore.ofStore store).run steps).2) ∨
    ∃ error events, Store.create allocator dramSize = (.error error, events) ∧
      allocator.Denied dramSize error events := by
  rcases created_or_denied allocator dramSize with
    ⟨store, events, hcreate, hcreated⟩ | ⟨error, events, hcreate, hdenied⟩
  · refine .inl ⟨store, events, hcreate, hcreated, fun steps => ?_⟩
    exact (SharedStore.tracks_run (SharedStore.tracks_ofStore store) steps).lifetime
      hcreated.size_eq
  · exact .inr ⟨error, events, hcreate, hdenied⟩

/-- A store of the usual size whose main memory is held twice and whose boot memory is
    held once when it is closed, before one reference to each is given up. The other
    three blocks go back with the store, and boot memory with its reference. Main memory
    is used as before until its last reference is given up. -/
theorem store_lifecycle_held : ∃ store events,
    Store.create (.host Allocator.hostLimit) 0x400000 = (.ok store, events) ∧
      let released := fun k => Event.released k (k.layout 0x400000) (store.block k).address
      let steps := [.hold .dram, .hold .dram, .hold .pifMem, .close, .letGo .dram, .letGo .pifMem]
      ((SharedStore.ofStore store).run steps).2 =
        [released .cartRom, released .rspMem, released .ddRom, released .pifMem] ∧
      (∀ x, ((SharedStep.access .dram x).perform ((SharedStore.ofStore store).run steps).1).1 =
        some (x.perform (store.block .dram)).1) ∧
      ((SharedStep.letGo .dram).perform ((SharedStore.ofStore store).run steps).1).2.2 =
        [released .dram] := by
  have hhad : ∃ store events,
      Store.create (.host Allocator.hostLimit) 0x400000 = (.ok store, events) := ⟨_, _, rfl⟩
  rcases store_lifecycle (.host Allocator.hostLimit) 0x400000 with
    ⟨store, events, hcreate, -, hlifetime⟩ | ⟨error, events, hcreate, -⟩
  · refine ⟨store, events, hcreate, ?_⟩
    intro released steps
    have h := hlifetime steps
    have hreleased : released = store.releaseEvent := funext fun k => (h.as_had k).symm
    refine ⟨?_, fun x => ?_, ?_⟩
    · rw [hreleased]
      rfl
    · exact h.usable .dram x
    · rw [h.moment, hreleased]
      rfl
  · rw [hcreate] at hhad
    rcases hhad with ⟨store, events, hok⟩
    cases hok

end RegionBus

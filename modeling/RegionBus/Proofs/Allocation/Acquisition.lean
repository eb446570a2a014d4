import Mathlib.Data.List.Count
import RegionBus.Store

/-!
# All Blocks or None

A store is had from an allocator as a whole. Each block is requested once, in
order, and the first request that is not met ends it: nothing is requested any
more, and everything that was had goes back. Memory that is not aligned goes back
at once, and the blocks before it follow in the opposite order.

The events say all of this, and `acquire_cases` reads them off the recursion, for
any blocks and whatever is already held. An allocator can answer as it likes: it
is asked about a block no more than once.

## Main definitions

* `Allocator.Meets`, `Allocator.Fails`: What becomes of one request.
* `Allocator.Granted`: Requests that were met, in order.
* `Store.Created`: A store that was had, with the events.
* `Allocator.Denied`: A failure, with the events.

## Theorems

* `request_cases`: One request.
* `acquire_cases`: Some requests in turn.
* `created_or_denied`: A store is had from an allocator or everything goes back.
-/

namespace RegionBus

/-- The event of having a piece of memory. -/
def Grant.event (g : Grant) : Event :=
  .granted g.kind g.layout g.address

namespace Allocator

/-- A request is met with memory that is aligned as asked. -/
structure Meets (allocator : Allocator) (kind : BlockKind) (layout : Layout) (address : Nat) :
    Prop where
  /-- The request can be made. -/
  representable : layout.Representable
  /-- This is the answer. -/
  answer : allocator kind layout = some address
  /-- The memory is aligned. -/
  aligned : address % layout.align = 0

/-- A request is not met, with the events. -/
inductive Fails (allocator : Allocator) (kind : BlockKind) (layout : Layout) :
    List Event → Prop where
  /-- The request cannot be made. -/
  | invalid (h : ¬ layout.Representable) : Fails allocator kind layout []
  /-- It is refused. -/
  | refused (h : layout.Representable) (hanswer : allocator kind layout = none) :
    Fails allocator kind layout [.refused kind layout]
  /-- It is answered with memory that is not aligned, which goes back. -/
  | misaligned (address : Nat) (h : layout.Representable)
    (hanswer : allocator kind layout = some address) (hmod : address % layout.align ≠ 0) :
    Fails allocator kind layout [.granted kind layout address, .released kind layout address]

/-- The requests for some blocks were met, one after the other. -/
structure Granted (allocator : Allocator) (layout : BlockKind → Layout) (kinds : List BlockKind)
    (grants : List Grant) : Prop where
  /-- There is a grant for each block, in order. -/
  kinds_eq : grants.map Grant.kind = kinds
  /-- It is what was asked for. -/
  layout_eq : ∀ g ∈ grants, g.layout = layout g.kind
  /-- And it was met. -/
  meets : ∀ g ∈ grants, allocator.Meets g.kind g.layout g.address

variable {allocator : Allocator} {layout : BlockKind → Layout}

theorem granted_nil : allocator.Granted layout [] [] :=
  ⟨rfl, fun _ hg => absurd hg List.not_mem_nil, fun _ hg => absurd hg List.not_mem_nil⟩

theorem Granted.cons {kind : BlockKind} {address : Nat}
    (hmeets : allocator.Meets kind (layout kind) address) {kinds : List BlockKind}
    {grants : List Grant} (h : allocator.Granted layout kinds grants) :
    allocator.Granted layout (kind :: kinds) (⟨kind, layout kind, address⟩ :: grants) :=
  ⟨by rw [List.map_cons, h.kinds_eq], List.forall_mem_cons.mpr ⟨rfl, h.layout_eq⟩,
    List.forall_mem_cons.mpr ⟨hmeets, h.meets⟩⟩

end Allocator

variable (allocator : Allocator)

/-- One request is met or not. -/
theorem request_cases (kind : BlockKind) (layout : Layout) :
    (∃ address, allocator.Meets kind layout address ∧ request allocator kind layout =
      (some ⟨kind, layout, address⟩, [.granted kind layout address])) ∨
    ∃ events, allocator.Fails kind layout events ∧
      request allocator kind layout = (none, events) := by
  unfold request
  by_cases h : layout.Representable
  · rw [if_pos h]
    cases hanswer : allocator kind layout with
    | none => exact .inr ⟨_, .refused h hanswer, rfl⟩
    | some address =>
        by_cases hmod : address % layout.align = 0
        · exact .inl ⟨address, ⟨h, hanswer, hmod⟩, if_pos hmod⟩
        · exact .inr ⟨_, .misaligned address h hanswer hmod, if_neg hmod⟩
  · rw [if_neg h]
    exact .inr ⟨[], .invalid h, rfl⟩

/-- Some requests in turn are all met, or the first one that is not ends it and
    everything that is held goes back, the newest first. -/
theorem acquire_cases (layout : BlockKind → Layout) (kinds : List BlockKind)
    (held : List Grant) :
    (∃ grants, allocator.Granted layout kinds grants ∧ acquire allocator layout kinds held =
      (.ok (grants.reverse ++ held), grants.map Grant.event)) ∨
    ∃ earlier kind later grants attempt, kinds = earlier ++ kind :: later ∧
      allocator.Granted layout earlier grants ∧ allocator.Fails kind (layout kind) attempt ∧
      acquire allocator layout kinds held = (.error (.allocation kind),
        grants.map Grant.event ++ attempt ++ (grants.reverse ++ held).map Grant.release) := by
  induction kinds generalizing held with
  | nil => exact .inl ⟨[], Allocator.granted_nil, rfl⟩
  | cons kind kinds ih =>
      unfold acquire
      rcases request_cases allocator kind (layout kind) with
        ⟨address, hmeets, hrequest⟩ | ⟨attempt, hfails, hrequest⟩
      · rw [hrequest]
        dsimp only
        -- What is had now goes back after all that follow, and before what was held.
        have hback : ∀ (g : Grant) (grants : List Grant),
            (g :: grants).reverse ++ held = grants.reverse ++ g :: held := fun g grants => by
          rw [List.reverse_cons, List.append_assoc, List.singleton_append]
        rcases ih (⟨kind, layout kind, address⟩ :: held) with
          ⟨grants, hgranted, hacquire⟩ |
          ⟨earlier, last, later, grants, attempt, hkinds, hgranted, hfails, hacquire⟩
        · refine .inl ⟨_, hgranted.cons hmeets, ?_⟩
          rw [hacquire, hback]
          rfl
        · refine .inr ⟨kind :: earlier, last, later, _, attempt, by rw [hkinds]; rfl,
            hgranted.cons hmeets, hfails, ?_⟩
          rw [hacquire, hback]
          rfl
      · rw [hrequest]
        exact .inr ⟨[], kind, kinds, [], attempt, rfl, Allocator.granted_nil, hfails, rfl⟩

/-- A store that was had from an allocator, with the events. -/
structure Store.Created (allocator : Allocator) (dramSize : Nat) (s : Store)
    (events : List Event) : Prop where
  /-- The blocks are what they are called. -/
  kind_eq : ∀ k, (s.block k).kind = k
  /-- They have the sizes they should have. -/
  size_eq : ∀ k, (s.block k).size = k.sizeWith dramSize
  /-- Each lies where the allocator said, and is aligned. -/
  meets : ∀ k, allocator.Meets k (k.layout dramSize) (s.block k).address
  /-- Each was requested once, and nothing went back. -/
  events_eq : events =
    BlockKind.all.map fun k => .granted k (k.layout dramSize) (s.block k).address

/-- A failure to have a store from an allocator, with the events. -/
structure Allocator.Denied (allocator : Allocator) (dramSize : Nat) (error : MemoryError)
    (events : List Event) : Prop where
  /-- The first block whose request was not met is reported. The blocks before it go
      back in the opposite order, and those behind it are not asked for. -/
  first : ∃ earlier kind later grants attempt, BlockKind.all = earlier ++ kind :: later ∧
    error = .allocation kind ∧
    allocator.Granted (BlockKind.layout dramSize) earlier grants ∧
    allocator.Fails kind (kind.layout dramSize) attempt ∧
    events = grants.map Grant.event ++ attempt ++ grants.reverse.map Grant.release
  /-- Nothing is had twice. -/
  once : ∀ kind layout address, events.count (.granted kind layout address) ≤ 1
  /-- Whatever was had has gone back, and nothing else has. -/
  balanced : ∀ kind layout address, events.count (.released kind layout address) =
    events.count (.granted kind layout address)

namespace Allocator

variable {allocator : Allocator}

/-- A failed request has given back what it had, and had no more than one thing. -/
theorem Fails.count {kind : BlockKind} {layout : Layout} {attempt : List Event}
    (h : allocator.Fails kind layout attempt) (k : BlockKind) (l : Layout) (address : Nat) :
    attempt.count (.released k l address) = attempt.count (.granted k l address) ∧
      attempt.count (.granted k l address) ≤ if k = kind then 1 else 0 := by
  cases h with
  | invalid h => exact ⟨rfl, Nat.zero_le _⟩
  | refused h hanswer => exact ⟨rfl, Nat.zero_le _⟩
  | misaligned a h hanswer hmod =>
      simp only [List.count_cons, List.count_nil, Nat.zero_add, beq_iff_eq, Event.granted.injEq,
        Event.released.injEq, reduceCtorEq, if_false, Nat.add_zero]
      refine ⟨trivial, ?_⟩
      split
      · next heq => exact Nat.le_of_eq (if_pos heq.1.symm).symm
      · exact Nat.zero_le _

/-- No block is granted twice. -/
theorem Granted.count {layout : BlockKind → Layout} {kinds : List BlockKind} {grants : List Grant}
    (h : allocator.Granted layout kinds grants) (hkinds : kinds.Nodup) (k : BlockKind) (l : Layout)
    (address : Nat) : grants.count ⟨k, l, address⟩ ≤ if k ∈ kinds then 1 else 0 := by
  have hmap := List.count_le_count_map (l := grants) (f := Grant.kind) (x := ⟨k, l, address⟩)
  rwa [h.kinds_eq, hkinds.count] at hmap

end Allocator

theorem count_granted (grants : List Grant) (k : BlockKind) (l : Layout) (address : Nat) :
    (grants.map Grant.event).count (.granted k l address) = grants.count ⟨k, l, address⟩ := by
  refine List.count_map_of_injective grants Grant.event (fun g g' h => ?_) ⟨k, l, address⟩
  rcases g with ⟨⟩
  cases h
  rfl

theorem count_released (grants : List Grant) (k : BlockKind) (l : Layout) (address : Nat) :
    (grants.map Grant.release).count (.released k l address) = grants.count ⟨k, l, address⟩ := by
  refine List.count_map_of_injective grants Grant.release (fun g g' h => ?_) ⟨k, l, address⟩
  rcases g with ⟨⟩
  cases h
  rfl

theorem count_eq_zero_of_forall_ne {f : Grant → Event} {e : Event} (h : ∀ g, f g ≠ e)
    (grants : List Grant) : (grants.map f).count e = 0 := by
  refine List.count_eq_zero.mpr fun hmem => ?_
  rcases List.mem_map.mp hmem with ⟨g, -, hg⟩
  exact h g hg

/-- The address that is found for a block is one that was granted for it. -/
theorem Allocator.Granted.exists_grantedAddress {allocator : Allocator}
    {layout : BlockKind → Layout} {grants : List Grant} (h : allocator.Granted layout BlockKind.all grants) (k : BlockKind) :
    ∃ g ∈ grants, g.kind = k ∧ Store.grantedAddress grants.reverse k = g.address := by
  have hmem : k ∈ grants.map Grant.kind := by
    rw [h.kinds_eq]
    exact k.mem_all
  cases hfind : grants.reverse.find? fun g => g.kind = k with
  | none =>
      rcases List.mem_map.mp hmem with ⟨g, hg, hk⟩
      have hnot := List.find?_eq_none.mp hfind g (List.mem_reverse.mpr hg)
      exact absurd (decide_eq_true hk) hnot
  | some g =>
      have hkind := List.find?_some hfind
      refine ⟨g, List.mem_reverse.mp (List.mem_of_find?_eq_some hfind),
        of_decide_eq_true hkind, ?_⟩
      rw [Store.grantedAddress, hfind]
      rfl

theorem created_of_granted {dramSize : Nat} {grants : List Grant}
    (h : allocator.Granted (BlockKind.layout dramSize) BlockKind.all grants) :
    (Store.ofGrants dramSize grants.reverse).Created allocator dramSize
      (grants.map Grant.event) := by
  have hblock : ∀ k, (Store.ofGrants dramSize grants.reverse).block k =
      Block.zeroed k (Store.grantedAddress grants.reverse k) (k.sizeWith dramSize) := by
    intro k
    cases k <;> rfl
  have hmeets : ∀ k, allocator.Meets k (k.layout dramSize)
      (Store.grantedAddress grants.reverse k) := by
    intro k
    rcases h.exists_grantedAddress k with ⟨g, hg, hkind, haddress⟩
    have hg' := h.meets g hg
    rw [h.layout_eq g hg, hkind] at hg'
    rwa [haddress]
  constructor
  case kind_eq =>
    intro k
    rw [hblock]
    rfl
  case size_eq =>
    intro k
    rw [hblock]
    rfl
  case meets =>
    intro k
    rw [hblock]
    exact hmeets k
  case events_eq =>
    rw [← h.kinds_eq, List.map_map]
    refine List.map_congr_left fun g hg => ?_
    have hg' := h.meets g hg
    rw [h.layout_eq g hg] at hg'
    -- The allocator answers a request in one way.
    have haddress : g.address = Store.grantedAddress grants.reverse g.kind :=
      Option.some.inj (hg'.answer.symm.trans (hmeets g.kind).answer)
    rw [Function.comp_apply, Grant.event, h.layout_eq g hg, hblock, haddress]
    rfl

theorem denied_of_fails {dramSize : Nat} {earlier later : List BlockKind} {kind : BlockKind}
    (hkinds : BlockKind.all = earlier ++ kind :: later) {grants : List Grant}
    (hgranted : allocator.Granted (BlockKind.layout dramSize) earlier grants)
    {attempt : List Event} (hfails : allocator.Fails kind (kind.layout dramSize) attempt) :
    allocator.Denied dramSize (.allocation kind)
      (grants.map Grant.event ++ attempt ++ grants.reverse.map Grant.release) := by
  have hnodup : (earlier ++ kind :: later).Nodup := by
    rw [← hkinds]
    decide
  have hearlier : earlier.Nodup := (List.nodup_append.mp hnodup).1
  have hnotin : kind ∉ earlier := fun hmem =>
    (List.nodup_append.mp hnodup).2.2 kind hmem kind List.mem_cons_self rfl
  constructor
  case first =>
    exact ⟨earlier, kind, later, grants, attempt, hkinds, rfl, hgranted, hfails, rfl⟩
  case once =>
    intro k l address
    have hone := (hfails.count k l address).2
    have hbefore := hgranted.count hearlier k l address
    rw [List.count_append, List.count_append, count_granted,
      count_eq_zero_of_forall_ne (fun g => by rw [Grant.release]; exact Event.noConfusion),
      Nat.add_zero]
    by_cases hk : k = kind
    · rw [if_pos hk] at hone
      rw [if_neg (by rw [hk]; exact hnotin)] at hbefore
      omega
    · rw [if_neg hk] at hone
      split at hbefore <;> omega
  case balanced =>
    intro k l address
    rw [List.count_append, List.count_append, List.count_append, List.count_append,
      count_granted, count_released, (hfails.count k l address).1, List.count_reverse,
      count_eq_zero_of_forall_ne (fun g => by rw [Grant.event]; exact Event.noConfusion),
      count_eq_zero_of_forall_ne (fun g => by rw [Grant.release]; exact Event.noConfusion)]
    omega

/-- A store is had from an allocator as a whole, or everything goes back. -/
theorem created_or_denied (dramSize : Nat) :
    (∃ s events, Store.create allocator dramSize = (.ok s, events) ∧
      s.Created allocator dramSize events) ∨
    ∃ error events, Store.create allocator dramSize = (.error error, events) ∧
      allocator.Denied dramSize error events := by
  rcases acquire_cases allocator (BlockKind.layout dramSize) BlockKind.all [] with
    ⟨grants, hgranted, hacquire⟩ |
    ⟨earlier, kind, later, grants, attempt, hkinds, hgranted, hfails, hacquire⟩
  · refine .inl ⟨_, _, ?_, created_of_granted allocator hgranted⟩
    rw [Store.create, hacquire, List.append_nil]
    rfl
  · refine .inr ⟨_, _, ?_, denied_of_fails allocator hkinds hgranted hfails⟩
    rw [Store.create, hacquire, List.append_nil]
    rfl

/-- Memory that is not aligned goes back first, and the last two blocks are not asked
    for. -/
example : (Store.create (fun k _ => some (if k = .rspMem then 1 else 0x10000)) 0x20000).2 =
    [.granted .dram ⟨0x20000, 0x10000⟩ 0x10000, .granted .cartRom ⟨0x0FC00000, 0x1000⟩ 0x10000,
      .granted .rspMem ⟨0x2000, 0x1000⟩ 1, .released .rspMem ⟨0x2000, 0x1000⟩ 1,
      .released .cartRom ⟨0x0FC00000, 0x1000⟩ 0x10000,
      .released .dram ⟨0x20000, 0x10000⟩ 0x10000] := by
  decide

end RegionBus

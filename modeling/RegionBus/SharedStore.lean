import RegionBus.Store

/-!
# Shared Stores

Tools can hold on to a block beyond the life of the store it belongs to. A block
therefore has owners: the store, as long as it is open, and everyone who holds a
reference. It stays as usable as ever while it has one, and its memory is given
back at the moment the last one lets go.

## Main definitions

* `SharedStore`: The blocks and who owns them.
* `SharedStore.owners`: The number of owners of a block.
* `SharedStore.hold`, `SharedStore.letGo`: A reference taken and given up.
* `SharedStore.close`: The store given up.
* `SharedStore.block?`, `SharedStore.updateBlock`: A block, as long as it is owned.

## Theorems

* `owners_hold`, `owners_letGo`, `owners_close`: Owners after each step.
* `letGo_events`, `close_events`: Memory is given back with the last owner.
-/

namespace RegionBus

/-- The blocks of a store and who owns them. -/
structure SharedStore where
  /-- The blocks. -/
  store : Store
  /-- Whether the store itself still owns all of its blocks. -/
  isOpen : Bool
  /-- The number of references to each block besides the store's. -/
  references : BlockKind → Nat

/-- The event of giving a block back. -/
def Store.releaseEvent (s : Store) (k : BlockKind) : Event :=
  .released k ⟨(s.block k).size, k.alignment⟩ (s.block k).address

namespace SharedStore

/-- A store that nobody else holds a reference to. -/
def ofStore (store : Store) : SharedStore where
  store := store
  isOpen := true
  references _ := 0

/-- The number of owners of a block. -/
def owners (s : SharedStore) (k : BlockKind) : Nat :=
  s.references k + if s.isOpen then 1 else 0

/-- A reference to a block taken, which only an owner can hand out. -/
def hold (s : SharedStore) (k : BlockKind) : SharedStore :=
  if s.owners k = 0 then s
  else { s with references := fun j => s.references j + if j = k then 1 else 0 }

/-- A reference to a block given up, and the block given back if it was the last
    owner's. -/
def letGo (s : SharedStore) (k : BlockKind) : SharedStore × List Event :=
  if s.references k = 0 then (s, [])
  else
    ({ s with references := fun j => s.references j - if j = k then 1 else 0 },
      if s.owners k = 1 then [s.store.releaseEvent k] else [])

/-- The store given up, and every block without another owner given back. -/
def close (s : SharedStore) : SharedStore × List Event :=
  if s.isOpen then
    ({ s with isOpen := false },
      (BlockKind.all.filter fun k => s.references k = 0).map s.store.releaseEvent)
  else
    (s, [])

/-- A block, as long as it has an owner. -/
def block? (s : SharedStore) (k : BlockKind) : Option Block :=
  if s.owners k = 0 then none else some (s.store.block k)

/-- A block changed, as long as it has an owner. -/
def updateBlock (s : SharedStore) (k : BlockKind) (f : Block → Block) : SharedStore :=
  if s.owners k = 0 then s else { s with store := s.store.updateBlock k f }

theorem owners_hold (s : SharedStore) (k j : BlockKind) (h : s.owners k ≠ 0) :
    (s.hold k).owners j = s.owners j + if j = k then 1 else 0 := by
  rw [hold, if_neg h]
  simp only [owners]
  omega

theorem owners_letGo (s : SharedStore) (k j : BlockKind) (h : s.references k ≠ 0) :
    (s.letGo k).1.owners j = s.owners j - if j = k then 1 else 0 := by
  simp only [letGo, if_neg h, owners]
  by_cases hj : j = k
  · rw [if_pos hj, hj]
    omega
  · rw [if_neg hj, Nat.sub_zero, Nat.sub_zero]

theorem owners_close (s : SharedStore) (k : BlockKind) :
    s.close.1.owners k = s.references k := by
  rw [close]
  by_cases h : s.isOpen = true
  · rw [if_pos h]
    rfl
  · rw [if_neg h, owners, if_neg h, Nat.add_zero]

theorem letGo_events (s : SharedStore) (k : BlockKind) (h : s.references k ≠ 0) :
    (s.letGo k).2 = if (s.letGo k).1.owners k = 0 then [s.store.releaseEvent k] else [] := by
  -- Whoever lets go was an owner, so there was at least one.
  have hlast : s.owners k = 1 ↔ s.owners k - 1 = 0 := by
    rw [owners]
    omega
  rw [owners_letGo s k k h, if_pos rfl, letGo, if_neg h]
  dsimp only
  simp only [hlast]

theorem close_events (s : SharedStore) (h : s.isOpen = true) :
    s.close.2 =
      (BlockKind.all.filter fun k => s.close.1.owners k = 0).map s.store.releaseEvent := by
  simp only [owners_close]
  rw [close, if_pos h]

end SharedStore

end RegionBus

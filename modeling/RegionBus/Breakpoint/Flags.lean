/-!
# Breakpoint Flags

A breakpoint says by flags whether it is switched on and which kinds of access
it watches. Flags are kept as the 32 bits they were given in, bits without a
meaning included, because whoever set them may want them back.

## Main definitions

* `Flags`: A set of flag bits.
* `Flags.contains`: Whether all bits of another set are in a set.
* `AccessKind`: A read or a write.
* `AccessKind.watched`: The flags that a breakpoint needs to watch a kind.
* `Checks`: The kinds that are watched in one region.

## Theorems

* `Checks.has_set`: Setting a kind changes this kind and no other.
-/

namespace RegionBus

/-- A set of breakpoint flags. -/
structure Flags where
  /-- One bit for each flag. -/
  bits : UInt32
  deriving DecidableEq, Repr

namespace Flags

/-- The breakpoint is switched on. -/
def enabled : Flags := ⟨0x01⟩

/-- The breakpoint watches reads. -/
def read : Flags := ⟨0x02⟩

/-- The breakpoint watches writes. -/
def write : Flags := ⟨0x04⟩

/-- The breakpoint watches execution. -/
def exec : Flags := ⟨0x08⟩

/-- Hits are to be logged. -/
def log : Flags := ⟨0x10⟩

/-- The flags in either of two sets. -/
def union (f g : Flags) : Flags :=
  ⟨f.bits ||| g.bits⟩

/-- Whether every flag of `g` is in `f`. -/
def contains (f g : Flags) : Bool :=
  f.bits &&& g.bits == g.bits

/-- The set with the switch turned on or off and all other bits kept. -/
def setEnabled (f : Flags) (on : Bool) : Flags :=
  if on then ⟨f.bits ||| enabled.bits⟩ else ⟨f.bits &&& ~~~enabled.bits⟩

end Flags

/-- The kinds of access a breakpoint layer can watch. -/
inductive AccessKind where
  | read
  | write
  deriving DecidableEq, Repr

/-- The flags of a breakpoint that is switched on and watches a kind of access. -/
def AccessKind.watched : AccessKind → Flags
  | read => Flags.enabled.union Flags.read
  | write => Flags.enabled.union Flags.write

/-- The kinds of access that are watched in one region. -/
structure Checks where
  /-- Reads are watched. -/
  read : Bool
  /-- Writes are watched. -/
  write : Bool
  deriving DecidableEq, Repr

namespace Checks

/-- Nothing is watched. -/
def none : Checks := ⟨false, false⟩

/-- Whether nothing is watched. -/
def isEmpty (c : Checks) : Bool :=
  !c.read && !c.write

/-- Whether a kind is watched. -/
def has (c : Checks) : AccessKind → Bool
  | .read => c.read
  | .write => c.write

/-- The checks with one kind watched or not. -/
def set (c : Checks) (k : AccessKind) (on : Bool) : Checks :=
  match k with
  | .read => { c with read := on }
  | .write => { c with write := on }

/-- The checks as bits: 1 for reads and 2 for writes. -/
def bits (c : Checks) : UInt8 :=
  (if c.read then 1 else 0) ||| (if c.write then 2 else 0)

theorem has_set (c : Checks) (k j : AccessKind) (on : Bool) :
    (c.set k on).has j = if k = j then on else c.has j := by
  cases k <;> cases j <;> rfl

theorem isEmpty_set_true (c : Checks) (k : AccessKind) : (c.set k true).isEmpty = false := by
  rcases c with ⟨r, w⟩
  cases k
  · rfl
  · exact Bool.and_false (!r)

theorem isEmpty_set_false (c : Checks) (k : AccessKind) (h : c.isEmpty = true) :
    (c.set k false).isEmpty = true := by
  rw [isEmpty, Bool.and_eq_true] at h
  cases k
  · exact h.2
  · rw [isEmpty, Bool.and_eq_true]
    exact ⟨h.1, rfl⟩

theorem isEmpty_iff (c : Checks) : c.isEmpty = true ↔ c = none := by
  rcases c with ⟨r, w⟩
  cases r <;> cases w <;> decide

end Checks

end RegionBus

/-!
# Invalidation of Compiled Code

Whoever compiles the code of the machine keeps the result somewhere, and has
to hear when memory changes past the bus. An invalidator holds the hook to call
then. A hook is given the memory as it is after the change and acts on a state
of its own.

## Main definitions

* `Invalidator`: The hook, if one was set.
* `Invalidator.run`: The hook called.
-/

namespace RegionBus

/-- The hook to call when memory of type `M` changed. It acts on a state of type
    `A`. -/
structure Invalidator (M A : Type) where
  /-- The hook, if one was set. -/
  hook : Option (M → A → A)

namespace Invalidator

variable {M A : Type}

/-- No hook. -/
def empty : Invalidator M A := ⟨none⟩

/-- A hook in the place of the one before. -/
def setHook (_ : Invalidator M A) (hook : M → A → A) : Invalidator M A :=
  ⟨some hook⟩

/-- Whether there is a hook. -/
def hasHook (i : Invalidator M A) : Bool :=
  i.hook.isSome

/-- What the hook makes of its state when called; without a hook nothing. -/
def run (i : Invalidator M A) (memory : M) (state : A) : A :=
  match i.hook with
  | some hook => hook memory state
  | none => state

/-- An invalidator as text. -/
def describe (i : Invalidator M A) : String :=
  "CacheInvalidator \x7b hook: " ++ (if i.hasHook then "true" else "false") ++ " \x7d"

end Invalidator

end RegionBus

import RegionBus.Breakpoint.Flags

/-!
# Breakpoint Registry

A debugger keeps its breakpoints in a registry, and the bus asks two things of
it: whether some breakpoint watches a range, and to take note of an access that
was intercepted. `Registry` is that contract; `Breakpoints` is the registry
that comes with the machine.

Breakpoints are named by their index. A removed breakpoint leaves a hole, so an
index is never used twice. A range is given by its first and last address, both
included; ranges that would run past the last address end there.

Hits are kept until they are taken, the newest `maxHits` of them.

## Main definitions

* `Registry`: What the bus asks of a registry.
* `Breakpoint`, `Hit`: A watched range, and an access that met one.
* `Breakpoints`: Breakpoints by index, and the hits.
* `Breakpoints.add`, `remove`, `get?`, `setEnabled`: Breakpoints by index.
* `Breakpoints.find?`: The first breakpoint that watches a range.
* `Breakpoints.record`: One more hit.
* `Breakpoints.takeHits`: The hits so far.

## Theorems

* `size_pushNewest_le`: One more hit leaves no more than `maxHits` of them.
* `slots_report`: An access leaves the breakpoints as they are.
-/

namespace RegionBus

/-- What the bus asks of a breakpoint registry. -/
class Registry (R : Type) where
  /-- The index of the first breakpoint that meets the `size` bytes from `start`
      on and has all the given flags. -/
  lookup? : R → (start size : UInt32) → Flags → Option Nat
  /-- The registry after an access by the instruction at `pc`. -/
  report : R → (pc address size : UInt32) → Flags → R

/-- A watched range of addresses. -/
structure Breakpoint where
  /-- The first address. -/
  first : UInt32
  /-- The last address. -/
  last : UInt32
  /-- Whether the breakpoint is on, and what it watches. -/
  flags : Flags
  deriving DecidableEq, Repr

/-- Whether a breakpoint meets the range from `first` to `last`. -/
def Breakpoint.overlaps (b : Breakpoint) (first last : UInt32) : Bool :=
  b.first ≤ last && first ≤ b.last

/-- An access that met a breakpoint. -/
structure Hit where
  /-- The index of the breakpoint. -/
  index : Nat
  /-- The address of the instruction. -/
  pc : UInt32
  /-- The first address of the access. -/
  address : UInt32
  /-- The number of bytes. -/
  size : UInt32
  /-- The flags the access was reported with. -/
  flags : Flags
  deriving DecidableEq, Repr

/-- The number of hits that are kept; older ones are dropped. -/
def maxHits : Nat := 4096

/-- The sum of two addresses, or the last address if there is none. -/
def saturatingAdd (a b : UInt32) : UInt32 :=
  if a ≤ 0xFFFFFFFF - b then a + b else 0xFFFFFFFF

/-- The hits with one more behind them. If there are `maxHits` already, then the
    oldest one is dropped. -/
def pushNewest (hits : Array Hit) (hit : Hit) : Array Hit :=
  (if hits.size = maxHits then hits.extract 1 hits.size else hits).push hit

theorem size_pushNewest_le {hits : Array Hit} (h : hits.size ≤ maxHits) (hit : Hit) :
    (pushNewest hits hit).size ≤ maxHits := by
  have hpos : 0 < maxHits := by decide
  rw [pushNewest, Array.size_push]
  -- Either the oldest hit made room for the new one, or there was room.
  split
  · rw [Array.size_extract]
    omega
  · omega

/-- Breakpoints by index, with holes for those removed, and the newest hits. -/
structure Breakpoints where
  /-- The breakpoint of each index that was given out. -/
  slots : Array (Option Breakpoint)
  /-- The hits, the oldest first. -/
  hits : Array Hit
  /-- No more than `maxHits` of them are kept. -/
  hits_le : hits.size ≤ maxHits
  deriving DecidableEq, Repr

namespace Breakpoints

/-- No breakpoints and no hits. -/
def empty : Breakpoints := ⟨#[], #[], Nat.zero_le maxHits⟩

/-- A breakpoint added under the next index. -/
def add (l : Breakpoints) (first last : UInt32) (flags : Flags) : Nat × Breakpoints :=
  (l.slots.size, { l with slots := l.slots.push (some ⟨first, last, flags⟩) })

/-- The breakpoint of an index, unless there is none or it was removed. -/
def get? (l : Breakpoints) (index : Nat) : Option Breakpoint :=
  (l.slots[index]?).join

/-- The list without the breakpoint of an index, and that breakpoint. -/
def remove (l : Breakpoints) (index : Nat) : Option Breakpoint × Breakpoints :=
  (l.get? index, { l with slots := l.slots.setIfInBounds index none })

/-- The list with the breakpoint of an index switched on or off, and whether
    there is one. -/
def setEnabled (l : Breakpoints) (index : Nat) (on : Bool) : Bool × Breakpoints :=
  match l.get? index with
  | some b =>
    (true, { l with
      slots := l.slots.setIfInBounds index (some { b with flags := b.flags.setEnabled on }) })
  | none => (false, l)

/-- The first index whose breakpoint meets the range from `first` to `last` and
    has all the given flags. -/
def find? (l : Breakpoints) (first last : UInt32) (flags : Flags) : Option Nat :=
  l.slots.findIdx? fun slot =>
    slot.any fun b => b.overlaps first last && b.flags.contains flags

/-- The first index whose breakpoint meets the `size` bytes from `start` on and
    has all the given flags. No bytes meet nothing. -/
def lookup? (l : Breakpoints) (start size : UInt32) (flags : Flags) : Option Nat :=
  if size = 0 then none else l.find? start (saturatingAdd start (size - 1)) flags

/-- The list with one more hit, the oldest dropped if there is no room for it. -/
def record (l : Breakpoints) (hit : Hit) : Breakpoints where
  slots := l.slots
  hits := pushNewest l.hits hit
  hits_le := size_pushNewest_le l.hits_le hit

/-- The list after an access. It is a hit if some breakpoint meets the bytes
    accessed and has all the given flags; an access of no bytes counts as one. -/
def report (l : Breakpoints) (pc address size : UInt32) (flags : Flags) : Breakpoints :=
  let last := saturatingAdd address (if size = 0 then 0 else size - 1)
  match l.find? address last flags with
  | some index => l.record ⟨index, pc, address, size, flags⟩
  | none => l

/-- The hits so far, and the list without them. -/
def takeHits (l : Breakpoints) : List Hit × Breakpoints :=
  (l.hits.toList, ⟨l.slots, #[], Nat.zero_le maxHits⟩)

instance : Registry Breakpoints where
  lookup? := lookup?
  report := report

theorem slots_report (l : Breakpoints) (pc address size : UInt32) (flags : Flags) :
    (l.report pc address size flags).slots = l.slots := by
  simp only [report, record]
  split <;> rfl

end Breakpoints

end RegionBus

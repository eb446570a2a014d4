import RegionBus.Breakpoint.Registry
import RegionBus.Bus.Entry
import RegionBus.Mapping

/-!
# The Bus

The bus is a table of all regions. Mappings attach handlers to ranges of
regions, in order, so that a later mapping wins where two overlap. Breakpoints
are set per region and per kind of access.

Whether a bus has a breakpoint layer is settled when it is built. Without one,
mappings are installed as they are, and nothing is ever watched. With one, a
mapping of a region that is not watched asks the registry whether it should be
from now on.

## Main definitions

* `Bus`: All regions, and the last program counter.
* `Bus.entry`, `Bus.update`: One region read and changed.
* `Bus.wantedChecks`: The checks a registry wants for a region.
* `Bus.mapRegion`, `Bus.apply`, `Bus.ofMappings`: Mappings.
* `Bus.activate`, `Bus.deactivate`: A kind of access watched or no longer.

## Theorems

* `entry_unmapped`: Nothing is mapped to a new bus.
* `entry_update`: Changing a region changes this region and no other.
* `update_update`: Two changes of a region are one.
* `ext_entry`: A bus is known by what it knows of each region.
-/

namespace RegionBus

variable {D R : Type}

/-- The regions of the address space and who serves them. -/
structure Bus (D : Type) where
  /-- What is known of each region. -/
  entries : Vector (RegionEntry D) regionCount
  /-- Whether the bus has a breakpoint layer. -/
  intercepting : Bool
  /-- The program counter as it was last announced. It is already past the
      instruction that makes an access. -/
  lastPc : UInt32

namespace Bus

/-- A bus to which nothing is mapped. -/
def unmapped (intercepting : Bool) : Bus D where
  entries := Vector.replicate regionCount .unmapped
  intercepting := intercepting
  lastPc := 0

/-- What the bus knows of a region. -/
def entry (bus : Bus D) (r : Region) : RegionEntry D :=
  bus.entries[r]

/-- What the bus knows of the region of an address. -/
def entryAt (bus : Bus D) (a : UInt32) : RegionEntry D :=
  bus.entry (regionOf a)

/-- The bus with what it knows of a region changed. -/
def update (bus : Bus D) (r : Region) (f : RegionEntry D → RegionEntry D) : Bus D :=
  { bus with entries := bus.entries.set r.val (f bus.entries[r]) r.isLt }

/-- The kind of device at an address. -/
def kindAt (bus : Bus D) (a : UInt32) : DeviceKind :=
  (bus.entryAt a).kind

/-- The bus with a program counter announced. -/
def setLastPc (bus : Bus D) (pc : UInt32) : Bus D :=
  { bus with lastPc := pc }

/-- The checks that a registry wants for a region. -/
def wantedChecks [Registry R] (registry : Option R) (r : Region) : Checks :=
  match registry with
  | none => .none
  | some registry =>
    { read := (Registry.lookup? registry r.base regionSize AccessKind.read.watched).isSome
      write := (Registry.lookup? registry r.base regionSize AccessKind.write.watched).isSome }

/-- The bus with a handler mapped to one region. -/
def mapRegion [Registry R] (bus : Bus D) (registry : Option R) (kind : DeviceKind)
    (handler : Handler D) (r : Region) : Bus D :=
  if bus.intercepting then
    -- The registry is asked only for regions that are not watched yet.
    bus.update r fun e => e.mapped kind handler
      (if e.checks.isEmpty then wantedChecks registry r else .none)
  else
    bus.update r fun e => { e with kind := kind, live := handler }

/-- The bus with a mapping installed over every region it covers. -/
def apply [Registry R] (bus : Bus D) (registry : Option R) (m : Mapping D) :
    Except MemoryError (Bus D) :=
  match m.regions with
  | .error e => .error e
  | .ok (first, last) =>
    .ok ((Region.between first last).foldl
      (fun bus r => bus.mapRegion registry m.kind m.handler r) bus)

/-- A bus with mappings installed in order. -/
def ofMappings [Registry R] (intercepting : Bool) (registry : Option R)
    (mappings : List (Mapping D)) : Except MemoryError (Bus D) :=
  mappings.foldlM (fun bus m => bus.apply registry m) (unmapped intercepting)

/-- The bus with a kind of access watched in the region of an address. -/
def activate (bus : Bus D) (k : AccessKind) (a : UInt32) : Bus D :=
  if bus.intercepting then bus.update (regionOf a) fun e => e.watch k else bus

/-- The bus with a kind of access no longer watched in the region of an address. -/
def deactivate (bus : Bus D) (k : AccessKind) (a : UInt32) : Bus D :=
  if bus.intercepting then bus.update (regionOf a) fun e => e.unwatch k else bus

theorem entry_unmapped (intercepting : Bool) (r : Region) :
    (unmapped intercepting : Bus D).entry r = .unmapped := by
  rw [entry, unmapped]
  exact Vector.getElem_replicate _

theorem entry_update (bus : Bus D) (r s : Region) (f : RegionEntry D → RegionEntry D) :
    (bus.update r f).entry s = if r = s then f (bus.entry r) else bus.entry s := by
  by_cases h : r = s
  · subst h
    rw [if_pos rfl]
    exact Vector.getElem_set_self _
  · rw [if_neg h]
    exact Vector.getElem_set_ne r.isLt s.isLt fun hv => h (Fin.ext hv)

theorem intercepting_update (bus : Bus D) (r : Region) (f : RegionEntry D → RegionEntry D) :
    (bus.update r f).intercepting = bus.intercepting := rfl

theorem lastPc_update (bus : Bus D) (r : Region) (f : RegionEntry D → RegionEntry D) :
    (bus.update r f).lastPc = bus.lastPc := rfl

/-- A bus is known by what it knows of each region, besides its layer and the
    program counter. -/
theorem ext_entry {bus bus' : Bus D} (hi : bus.intercepting = bus'.intercepting)
    (hp : bus.lastPc = bus'.lastPc) (he : ∀ r, bus.entry r = bus'.entry r) : bus = bus' := by
  rcases bus with ⟨entries, intercepting, lastPc⟩
  rcases bus' with ⟨entries', intercepting', lastPc'⟩
  have hentries : entries = entries' := by
    apply Vector.ext
    intro i hlt
    exact he ⟨i, hlt⟩
  simp only at hi hp
  rw [hentries, hi, hp]

theorem update_update (bus : Bus D) (r : Region) (f g : RegionEntry D → RegionEntry D) :
    (bus.update r f).update r g = bus.update r fun e => g (f e) := by
  refine ext_entry rfl rfl (fun s => ?_)
  by_cases h : r = s
  · simp only [entry_update, if_pos h, if_true]
  · simp only [entry_update, if_neg h]

end Bus

end RegionBus

import RegionBus.Proofs.Breakpoint.Hits
import RegionBus.Proofs.Machine.Upkeep

/-!
# No Hit Missed and None Invented

A naive observer of a machine knows nothing of regions. It has the list of
breakpoints and the program counter, it is told of every word that is accessed,
and compares each with every breakpoint. It never drops a hit before the hits
are taken.

The machine does less: it reports an access only in a region that is watched,
and keeps the newest hits alone. Still, the hits that can be taken from it are
the newest ones the observer has seen. That regions make no difference is what
`follows_perform` says, since `Command.onRegistry` reports every word. What is
left to compare is two lists of breakpoints and two lists of hits.

## Main definitions

* `Report.meets`: Whether a breakpoint watches an access.
* `Observer`: A naive observer.
* `Observer.hear`: The observer after an access.
* `Observer.perform`, `Observer.after`: The observer after a command, and after some.
* `Observer.Law`: What an observer does with an access.

## Theorems

* `law_observer`: An observer notes the least breakpoint that watches an access.
* `observes_perform`: A command keeps machine and observer together.
* `hits_observed`: The hits of a machine are the newest ones of its observer.
-/

namespace RegionBus

variable {X A : Type}

/-- Whether a breakpoint watches an access: it is switched on, it watches the
    kind of access, and it meets the bytes from the first to the last. -/
def Report.meets (x : Report) (b : Breakpoint) : Bool :=
  b.flags.contains .enabled && b.flags.contains x.kind.flag &&
    b.overlaps x.address (x.address + (x.size - 1))

/-- A naive observer of a machine. -/
structure Observer where
  /-- The breakpoint of each index that was given out, unless it was removed. -/
  breakpoints : List (Option Breakpoint)
  /-- The program counter that was announced last. -/
  lastPc : UInt32
  /-- All hits since they were taken, the oldest first. -/
  hits : List Hit

namespace Observer

/-- The observer to begin with. -/
def start : Observer := ⟨[], 0, []⟩

/-- The observer after a word access: it compares the access with every
    breakpoint, and notes the first one that watches it. -/
def hear (o : Observer) (x : Report) : Observer :=
  match o.breakpoints.findIdx? fun slot => slot.any x.meets with
  | some i =>
    let hit : Hit := ⟨i, o.lastPc - 4, x.address, x.size, .union .enabled x.kind.flag⟩
    { o with hits := o.hits ++ [hit] }
  | none => o

/-- The observer after a command. -/
def perform (o : Observer) : Command X A → Observer
  | .addBreakpoint first last flags =>
    { o with breakpoints := o.breakpoints ++ [some ⟨first, last, flags⟩] }
  | .removeBreakpoint index => { o with breakpoints := o.breakpoints.set index none }
  | .setBreakpointEnabled index on =>
    let switch (b : Breakpoint) : Breakpoint := { b with flags := b.flags.setEnabled on }
    { o with breakpoints := o.breakpoints.modify index (Option.map switch) }
  | .takeHits => { o with hits := [] }
  | .setLastPc pc => { o with lastPc := pc }
  | command => command.reports.foldl hear o

/-- The observer after some commands. -/
def after (o : Observer) (commands : List (Command X A)) : Observer :=
  commands.foldl perform o

/-- What an observer does with an access. -/
structure Law (o : Observer) : Prop where
  /-- An access that a breakpoint watches is one more hit, with the least index of
      such a breakpoint. -/
  hit : ∀ (x : Report) (i : Nat) (b : Breakpoint), o.breakpoints[i]? = some (some b) →
    x.meets b = true →
    (∀ j < i, ∀ b', o.breakpoints[j]? = some (some b') → x.meets b' = false) →
    o.hear x = { o with hits := o.hits ++
      [⟨i, o.lastPc - 4, x.address, x.size, .union .enabled x.kind.flag⟩] }
  /-- An access that no breakpoint watches changes nothing. -/
  miss : ∀ x : Report, (∀ (i : Nat) (b : Breakpoint), o.breakpoints[i]? = some (some b) →
    x.meets b = false) → o.hear x = o

theorem lastPc_hear (o : Observer) (x : Report) : (o.hear x).lastPc = o.lastPc := by
  rw [hear]
  split <;> rfl

theorem law_observer (o : Observer) : o.Law := by
  constructor
  case hit =>
    intro x i b hslot hmeets hleast
    rcases List.getElem?_eq_some_iff.mp hslot with ⟨hlt, hb⟩
    -- Neither a hole nor a breakpoint in front of `i` watches the access.
    have hfind : (o.breakpoints.findIdx? fun slot => slot.any x.meets) = some i := by
      refine List.findIdx?_eq_some_iff_getElem.mpr ⟨hlt, ?_, fun j hj => ?_⟩
      · rw [hb]
        exact hmeets
      · cases hslot' : o.breakpoints[j] with
        | none => exact Bool.false_ne_true
        | some b' =>
            have hother := List.getElem?_eq_some_iff.mpr ⟨Nat.lt_trans hj hlt, hslot'⟩
            rw [Option.any_some, hleast j hj b' hother]
            exact Bool.false_ne_true
    rw [hear, hfind]
  case miss =>
    intro x hnone
    have hfind : (o.breakpoints.findIdx? fun slot => slot.any x.meets) = none := by
      rw [List.findIdx?_eq_none_iff]
      intro slot hmem
      cases slot with
      | none => rfl
      | some b =>
          rcases List.mem_iff_getElem?.mp hmem with ⟨i, hi⟩
          exact hnone i b hi
    rw [hear, hfind]

end Observer

/-- An observer has the breakpoints of a registry, and the registry has the newest
    of its hits. -/
structure Breakpoints.SeenBy (l : Breakpoints) (o : Observer) : Prop where
  /-- Both have the same breakpoints under each index. -/
  slots : l.slots.toList = o.breakpoints
  /-- The registry has the newest hits. -/
  hits : l.hits.toList = o.hits.rtake maxHits

namespace Breakpoints

variable {l : Breakpoints} {o : Observer}

theorem SeenBy.hear (h : l.SeenBy o) {x : Report} (hw : InWord x.address x.size) :
    (l.hear o.lastPc x).SeenBy (o.hear x) := by
  have hflags : x.kind.watched = .union .enabled x.kind.flag := x.kind.watched_eq
  have hmeets : (fun slot : Option Breakpoint => slot.any fun b =>
      b.overlaps x.address (x.address + (x.size - 1)) && b.flags.contains x.kind.watched) =
        fun slot => slot.any x.meets := by
    -- The registry asks for both flags at once, the observer for each of them.
    funext slot
    congr 1
    funext b
    rw [hflags, Bool.eq_iff_iff, Report.meets]
    simp only [Bool.and_eq_true, Flags.contains_union_iff]
    exact and_comm
  rw [Breakpoints.hear, report_eq hw, find?_eq, hmeets, h.slots, Observer.hear]
  cases o.breakpoints.findIdx? fun slot => slot.any x.meets with
  | none => exact h
  | some i =>
      refine ⟨?_, ?_⟩
      · simp only [slots_record]
        exact h.slots
      · -- The registry may drop its oldest hit now, the observer counts it out later.
        simp only [hits_record, h.hits, hflags]
        exact rtake_concat _ _ (by decide)

theorem SeenBy.foldl_hear (h : l.SeenBy o) {reports : List Report}
    (hw : ∀ x ∈ reports, InWord x.address x.size) :
    (reports.foldl (fun l x => l.hear o.lastPc x) l).SeenBy (reports.foldl Observer.hear o) := by
  induction reports generalizing l o with
  | nil => exact h
  | cons x reports ih =>
      -- All words of an access are reported from the same instruction.
      have hpc : (o.hear x).lastPc = o.lastPc := o.lastPc_hear x
      have hrest := ih (h.hear (hw x List.mem_cons_self))
        (fun y hy => hw y (List.mem_cons_of_mem x hy))
      rw [hpc] at hrest
      exact hrest

theorem SeenBy.onRegistry (h : l.SeenBy o) (command : Command X A) :
    (command.onRegistry o.lastPc l).SeenBy (o.perform command) := by
  have hkept : (command.reports.foldl (fun l x => l.hear o.lastPc x) l).SeenBy
      (command.reports.foldl Observer.hear o) :=
    h.foldl_hear fun x hx => Command.inWord_reports hx
  cases command with
  | addBreakpoint first last flags =>
      refine ⟨?_, h.hits⟩
      rw [Command.onRegistry, slots_add, h.slots]
      rfl
  | removeBreakpoint index =>
      refine ⟨?_, h.hits⟩
      rw [Command.onRegistry, slots_remove, h.slots]
      rfl
  | setBreakpointEnabled index on =>
      refine ⟨?_, ?_⟩
      · rw [Command.onRegistry, slots_setEnabled, h.slots]
        rfl
      · rw [Command.onRegistry, hits_setEnabled]
        exact h.hits
  | takeHits => exact ⟨h.slots, (List.rtake_nil maxHits).symm⟩
  | setLastPc pc => exact ⟨h.slots, h.hits⟩
  | _ => exact hkept

end Breakpoints

theorem Observer.lastPc_foldl_hear (o : Observer) (reports : List Report) :
    (reports.foldl hear o).lastPc = o.lastPc := by
  induction reports generalizing o with
  | nil => rfl
  | cons x reports ih => rw [List.foldl_cons, ih, lastPc_hear]

theorem Observer.lastPc_perform (o : Observer) (command : Command X A) :
    (o.perform command).lastPc = command.lastPc?.getD o.lastPc := by
  cases command with
  | read width a => exact o.lastPc_foldl_hear _
  | write width a value => exact o.lastPc_foldl_hear _
  | writeMasked a value mask => exact o.lastPc_foldl_hear _
  | _ => rfl

/-- A machine and its observer: the bus is in line with the registry, and the
    observer has seen what the registry has. -/
structure Observer.Observes (o : Observer) (history : List (Mapping (Device X)))
    (s : Machine X A) : Prop where
  /-- The registry of the machine has what the observer has seen. -/
  registry : ∃ l, s.Follows history l ∧ l.SeenBy o
  /-- Both have the same program counter. -/
  lastPc : s.bus.lastPc = o.lastPc

namespace Observer

variable {o : Observer} {history : List (Mapping (Device X))} {s : Machine X A}

/-- The hits that are taken are the newest ones that the observer has seen. -/
theorem Observes.takeHits (h : o.Observes history s) :
    s.takeHits.1 = o.hits.rtake maxHits := by
  rcases h with ⟨⟨l, hl, hseen⟩, -⟩
  rcases s with ⟨memory, bus, registry⟩
  have hregistry : registry = some l := hl.registry
  subst hregistry
  exact hseen.hits

/-- Where there is no breakpoint, no hit and no program counter, nothing was missed yet. -/
theorem observes_start (h : s.Follows history .empty) (hpc : s.bus.lastPc = 0) :
    start.Observes history s :=
  ⟨⟨.empty, h, rfl, (List.rtake_nil maxHits).symm⟩, hpc⟩

theorem observes_withStore {store : Store} {attached : A}
    (hs : Machine.withStore store true attached = .ok s) :
    start.Observes (standardMap store.dramWord) s :=
  observes_start (Machine.follows_withStore hs) (Machine.lastPc_withStore hs)

variable [AttachedDevice X A]

/-- A command keeps a machine and its observer together. -/
theorem Observes.perform (h : o.Observes history s) {command : Command X A}
    (hf : command.Foreign) :
    (o.perform command).Observes (history ++ command.mapping?.toList) (command.perform s) := by
  rcases h with ⟨⟨l, hl, hseen⟩, hpc⟩
  constructor
  case registry =>
    refine ⟨_, Machine.follows_perform hl hf, ?_⟩
    rw [hpc]
    exact hseen.onRegistry command
  case lastPc => rw [Machine.lastPc_perform hl, lastPc_perform, hpc]

/-- So do some commands. -/
theorem Observes.after (h : o.Observes history s) {commands : List (Command X A)}
    (hf : ∀ command ∈ commands, command.Foreign) :
    ∃ history', (o.after commands).Observes history' (s.after commands) := by
  induction commands generalizing o history s with
  | nil => exact ⟨history, h⟩
  | cons command commands ih =>
      exact ih (h.perform (hf command List.mem_cons_self))
        (fun c hc => hf c (List.mem_cons_of_mem command hc))

end Observer

/-- What holds of a machine and an observer who was told of every access. -/
structure HitLaw [AttachedDevice X A] (s : Machine X A) (o : Observer) : Prop where
  /-- The hits that can be taken are the newest ones that the observer has seen. -/
  hits : s.takeHits.1 = o.hits.rtake maxHits
  /-- An observer notes one hit for each access that some breakpoint watches, with
      the least index of such a breakpoint, and none for any other access. -/
  heard : ∀ o' : Observer, o'.Law
  /-- The bytes that the observer is told of are the bytes that a store stores. -/
  stored : ∀ (width : Width) (a : UInt32) (value : UInt64)
    (p : Backplane Breakpoints (Hardware A)), ∃ values : List UInt32,
      values.length = (width.stores a).length ∧
        s.bus.write width a value p = ((width.stores a).zip values).foldl s.bus.storeBytes p

/-- No hit is missed and none is invented: after any commands the hits that can be
    taken from a machine are the newest ones that a naive observer has seen, who
    was told of every word that was accessed. -/
theorem hits_observed [AttachedDevice X A] {store : Store} {attached : A} {s : Machine X A}
    (hs : Machine.withStore store true attached = .ok s) (commands : List (Command X A))
    (hf : ∀ command ∈ commands, command.Foreign) :
    HitLaw (s.after commands) (Observer.start.after commands) := by
  rcases (Observer.observes_withStore hs).after hf with ⟨history, h⟩
  constructor
  case hits => exact h.takeHits
  case heard => exact Observer.law_observer
  case stored => exact fun width a value p => Bus.write_eq_stores _ width a value p

/-- Two breakpoints in one word, one of them with its bounds the wrong way round,
    and accesses of all widths around them. -/
def Command.straddling : List (Command Empty Unit) :=
  [.addBreakpoint 0x1FFF3 0x1FFF3 (.union .enabled .write),
    .addBreakpoint 0x1FFF3 0x1FFF2 (.union .enabled .read), .setLastPc 0x80001004,
    .write .byte 0x1FFF2 0xAA, .write .byte 0x1FFF3 0xBB, .read .double 0x1FFF6,
    .applyMapping ⟨0x10000, 0x2FFFF, .rom, .device (.rom cartridge)⟩,
    .setBreakpointEnabled 0 false, .write .half 0x1FFF2 0x1122, .writeMasked 0x1FFF0 0 0xFF]

theorem hits_observed_straddling :
    (Observer.start.after Command.straddling).hits =
        [⟨0, 0x80001000, 0x1FFF3, 1, .union .enabled .write⟩,
          ⟨1, 0x80001000, 0x1FFF0, 4, .union .enabled .read⟩] ∧
      ∃ s : Machine Empty Unit,
        Machine.withStore (Store.ofGrants 0x800000 []) true () = .ok s ∧
          HitLaw (s.after Command.straddling) (Observer.start.after Command.straddling) := by
  refine ⟨by decide, ?_⟩
  have hf : ∀ command ∈ Command.straddling, command.Foreign := by decide
  rcases Machine.exists_withStore_bare with ⟨s, hs⟩
  have h := hits_observed hs Command.straddling hf
  exact ⟨s, hs, h⟩

end RegionBus

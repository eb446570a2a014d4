import RegionBus.Proofs.Breakpoint.Bounds
import RegionBus.Proofs.Machine.MaskedStores

/-!
# Breakpoints with their Bounds Either Way Round

Add a breakpoint to a machine, and add it with its bounds in the other order to the same
machine instead. Both times the same regions are asked again, so one would expect the
two machines to go on alike. They do if the breakpoint is symmetric. Their registries are
then twins, and `Twins.perform` keeps them so through every command.

If it is not symmetric, a few commands tell the two machines apart. `isolate` takes the
other breakpoints out of the way, switches the new one on and takes the hits. Only the
new breakpoint is left then, and one access that begins at its first bound is a hit on
one of the machines and none on the other. A store of a byte will do if writes are
watched, and a read of a word if only reads are.

## Main definitions

* `Command.IsOrdinary`: A command is about breakpoints, or a typed access.
* `Machine.Alike`: Two machines that watch the same and have the same hits.
* `Machine.Twins`: Two machines whose registries are twins.
* `Command.isolate`: The commands after which one breakpoint is left.
* `Command.test`: An access that tells what one breakpoint meets.
* `BoundsLaw`: When the order of the bounds does not matter.

## Theorems

* `Twins.onRegistry`, `Twins.perform`, `Twins.after`: Twins stay twins.
* `isolated_iff`: What is left after the others were taken out of the way.
* `tested_iff`: What a test tells.
* `bounds_law`: The order does not matter for symmetric breakpoints, and no others.
-/

namespace RegionBus

variable {X A : Type}

namespace Command

/-- A command is about breakpoints, or is a typed access. -/
def IsOrdinary : Command X A → Prop
  | addBreakpoint _ _ _ | removeBreakpoint _ | setBreakpointEnabled _ _ | takeHits | read _ _
  | write _ _ _ => True
  | _ => False

/-- Every breakpoint but that of an index is removed, as far as the indices in front of
    it go. The one that is left is switched on, and the hits are taken. -/
def isolate (index : Nat) : List (Command X A) :=
  (List.range index).map removeBreakpoint ++ [setBreakpointEnabled index true, takeHits]

/-- A small access of a kind, to see what is met at an address. -/
def test (a : UInt32) : AccessKind → Command X A
  | .read => read .word a
  | .write => write .byte a 0

/-- The range that such an access reports. -/
def tested (a : UInt32) : AccessKind → Report
  | .read => ⟨.read, a &&& ~~~3, 4⟩
  | .write => ⟨.write, a, 1⟩

/-- A command reports only ranges of the form that its kind has. -/
theorem spans_reports {command : Command X A} {x : Report} (hx : x ∈ command.reports) :
    x.kind.Spans x.address (x.address + (x.size - 1)) := by
  cases command with
  | read width a =>
      rcases List.mem_map.mp hx with ⟨w, hw, rfl⟩
      have hword := Width.inWord_words hw
      have hend := hword.toNat_end
      have h4 : (4 : UInt32).toNat = 4 := rfl
      rcases hword with ⟨-, hle⟩
      rw [h4] at hend hle
      rw [AccessKind.Spans]
      simp only
      omega
  | write width a value =>
      rcases List.mem_map.mp hx with ⟨y, hy, rfl⟩
      exact trivial
  | writeMasked a value mask =>
      rw [List.mem_singleton.mp hx]
      exact trivial
  | _ => cases hx

end Command

/-- The registry after some commands that announce no program counter. -/
def Breakpoints.afterCommands (l : Breakpoints) (lastPc : UInt32)
    (commands : List (Command X A)) : Breakpoints :=
  commands.foldl (fun l command => command.onRegistry lastPc l) l

namespace Breakpoints.Twins

variable {l l' : Breakpoints}

/-- Twins stay twins when both are told of the same access. -/
theorem hear (h : l.Twins l') (lastPc : UInt32) {x : Report} (hw : InWord x.address x.size)
    (hspan : x.kind.Spans x.address (x.address + (x.size - 1))) :
    (l.hear lastPc x).Twins (l'.hear lastPc x) := by
  rw [Breakpoints.hear, Breakpoints.hear, report_eq hw, report_eq hw, h.find?_eq x.kind hspan]
  cases l.find? x.address (x.address + (x.size - 1)) x.kind.watched with
  | none => exact h
  | some i => exact h.record _

theorem foldl_hear (h : l.Twins l') (lastPc : UInt32) (reports : List Report)
    (hw : ∀ x ∈ reports, InWord x.address x.size)
    (hspan : ∀ x ∈ reports, x.kind.Spans x.address (x.address + (x.size - 1))) :
    (reports.foldl (fun l x => l.hear lastPc x) l).Twins
      (reports.foldl (fun l x => l.hear lastPc x) l') := by
  induction reports generalizing l l' with
  | nil => exact h
  | cons x reports ih =>
      exact ih (h.hear lastPc (hw x List.mem_cons_self) (hspan x List.mem_cons_self))
        (fun y hy => hw y (List.mem_cons_of_mem x hy))
        (fun y hy => hspan y (List.mem_cons_of_mem x hy))

/-- Every command keeps registries twins. -/
theorem onRegistry (h : l.Twins l') (lastPc : UInt32) (command : Command X A) :
    (command.onRegistry lastPc l).Twins (command.onRegistry lastPc l') := by
  have hreports := h.foldl_hear lastPc command.reports
    (fun x hx => Command.inWord_reports hx) (fun x hx => Command.spans_reports hx)
  cases command with
  | addBreakpoint first last flags => exact h.add (.refl ⟨first, last, flags⟩)
  | removeBreakpoint index => exact h.remove index
  | setBreakpointEnabled index on => exact h.setEnabled index on
  | takeHits => exact h.takeHits
  | _ => exact hreports

end Breakpoints.Twins

namespace Machine

/-- Two machines that watch the same in every region, and from which the same hits can be
    taken. -/
structure Alike (s t : Machine X A) : Prop where
  /-- The same kinds of access are watched. -/
  checks : ∀ r, (s.bus.entry r).checks = (t.bus.entry r).checks
  /-- The same hits were recorded. -/
  hits : s.takeHits.1 = t.takeHits.1

/-- Two machines with the same mappings and program counter whose registries are twins. -/
structure Twins (history : List (Mapping (Device X))) (s t : Machine X A) : Prop where
  /-- Each bus is in line with its registry, and the registries are twins. -/
  follows : ∃ l l', s.Follows history l ∧ t.Follows history l' ∧ l.Twins l'
  /-- The program counter is the same. -/
  lastPc : s.bus.lastPc = t.bus.lastPc

variable {history : List (Mapping (Device X))} {l : Breakpoints} {s t : Machine X A}

theorem Twins.alike (h : Twins history s t) : s.Alike t := by
  rcases h.follows with ⟨l, l', hs, ht, htwins⟩
  constructor
  case checks =>
    intro r
    rw [(hs.bus.serves r).checks_eq, (ht.bus.serves r).checks_eq, htwins.wantedChecks_eq]
  case hits =>
    rw [takeHits_of_registry hs.registry, takeHits_of_registry ht.registry, htwins.hits_eq]

/-- Adding a breakpoint that is symmetric makes twins, whichever bound comes first. -/
theorem twins_addBreakpoint (h : s.Follows history l) {b : Breakpoint} (hb : b.Symmetric) :
    Twins history (s.addBreakpoint b.first b.last b.flags).2
      (s.addBreakpoint b.last b.first b.flags).2 := by
  refine ⟨⟨_, _, follows_addBreakpoint h _ _ _, follows_addBreakpoint h _ _ _,
    l.twins_reversed hb⟩, ?_⟩
  rw [lastPc_addBreakpoint h, lastPc_addBreakpoint h]

variable [AttachedDevice X A]

/-- Every command keeps machines twins. -/
theorem Twins.perform (h : Twins history s t) {command : Command X A} (hf : command.Foreign) :
    Twins (history ++ command.mapping?.toList) (command.perform s) (command.perform t) := by
  rcases h with ⟨⟨l, l', hs, ht, htwins⟩, hpc⟩
  refine ⟨⟨_, _, follows_perform hs hf, follows_perform ht hf, ?_⟩, ?_⟩
  · rw [hpc]
    exact htwins.onRegistry _ command
  · rw [lastPc_perform hs, lastPc_perform ht, hpc]

theorem Twins.after (h : Twins history s t) {commands : List (Command X A)}
    (hf : ∀ command ∈ commands, command.Foreign) :
    ∃ history', Twins history' (s.after commands) (t.after commands) := by
  induction commands generalizing history s t with
  | nil => exact ⟨history, h⟩
  | cons command commands ih =>
      exact ih (h.perform (hf command List.mem_cons_self))
        fun c hc => hf c (List.mem_cons_of_mem command hc)

/-- Ordinary commands change the registry, and announce no program counter. -/
theorem follows_after (h : s.Follows history l) {commands : List (Command X A)}
    (hc : ∀ command ∈ commands, command.IsOrdinary) :
    (s.after commands).Follows history (l.afterCommands s.bus.lastPc commands) ∧
      (s.after commands).bus.lastPc = s.bus.lastPc := by
  induction commands generalizing s l with
  | nil => exact ⟨h, rfl⟩
  | cons command commands ih =>
      have hcommand : command.IsOrdinary := hc command List.mem_cons_self
      have hquiet : command.mapping? = none ∧ command.lastPc? = none := by
        cases command <;> first | exact ⟨rfl, rfl⟩ | cases hcommand
      have hpc := lastPc_perform h command
      rw [hquiet.2, Option.getD_none] at hpc
      rcases ih (follows_unmapping h hquiet.1)
        (fun c hc' => hc c (List.mem_cons_of_mem command hc')) with ⟨hfollows, hlast⟩
      rw [hpc] at hfollows hlast
      exact ⟨hfollows, hlast⟩

end Machine

namespace Breakpoints

variable (l : Breakpoints) (lastPc : UInt32)

theorem get?_afterCommands_remove (n i : Nat) :
    (l.afterCommands lastPc ((List.range n).map (Command.removeBreakpoint (X := X) (A := A)))).get?
      i = if i < n then none else l.get? i := by
  induction n with
  | zero => rfl
  | succ n ih =>
      rw [afterCommands] at ih ⊢
      rw [List.range_succ, List.map_append, List.foldl_append]
      refine (get?_remove _ n i).trans ?_
      rw [ih]
      by_cases hin : n = i
      · rw [if_pos hin, if_pos (by omega)]
      · rw [if_neg hin]
        by_cases hlt : i < n
        · rw [if_pos hlt, if_pos (by omega)]
        · rw [if_neg hlt, if_neg (by omega)]

/-- What is left is the new breakpoint, switched on, and no hits. -/
theorem isolated_iff (b : Breakpoint) :
    (∀ b', ((l.add b.first b.last b.flags).2.afterCommands lastPc
        (Command.isolate l.slots.size : List (Command X A))).Live b' ↔
      b' = { b with flags := b.flags.setEnabled true }) ∧
    ((l.add b.first b.last b.flags).2.afterCommands lastPc
      (Command.isolate l.slots.size : List (Command X A))).hits = #[] := by
  have hget : ∀ i, ((l.add b.first b.last b.flags).2.afterCommands lastPc
      (Command.isolate l.slots.size : List (Command X A))).get? i =
        if i = l.slots.size then some { b with flags := b.flags.setEnabled true } else none := by
    intro i
    have hremoved := (l.add b.first b.last b.flags).2.get?_afterCommands_remove (X := X) (A := A)
      lastPc l.slots.size
    rw [afterCommands] at hremoved ⊢
    rw [Command.isolate, List.foldl_append]
    refine (get?_setEnabled _ l.slots.size true i).trans ?_
    rw [hremoved, hremoved, get?_add, get?_add]
    by_cases hi : i = l.slots.size
    · rw [if_pos hi.symm, if_neg (Nat.lt_irrefl _), if_pos rfl, if_pos hi]
      rfl
    · rw [if_neg (Ne.symm hi), if_neg hi, if_neg hi]
      by_cases hlt : i < l.slots.size
      · rw [if_pos hlt]
      · -- Behind the new index nothing was given out.
        rw [if_neg hlt, l.get?_of_size_le (Nat.le_of_not_lt hlt)]
  refine ⟨fun b' => ?_, ?_⟩
  · simp only [Live, hget]
    constructor
    · rintro ⟨i, hi⟩
      split at hi
      · exact (Option.some.inj hi).symm
      · cases hi
    · rintro rfl
      exact ⟨_, if_pos rfl⟩
  · rw [afterCommands, Command.isolate, List.foldl_append]
    rfl

/-- An access is a hit iff a live breakpoint watches it. -/
theorem hits_hear_iff {l : Breakpoints} (hempty : l.hits = #[]) {x : Report}
    (hw : InWord x.address x.size) :
    (l.hear lastPc x).hits.toList ≠ [] ↔ ∃ b, l.Live b ∧
      b.overlaps x.address (x.address + (x.size - 1)) = true ∧
        b.flags.contains x.kind.watched = true := by
  rw [← isSome_find?_iff, hear, report_eq hw]
  cases l.find? x.address (x.address + (x.size - 1)) x.kind.watched with
  | none =>
      rw [hempty]
      exact iff_of_false (fun h => h rfl) Bool.false_ne_true
  | some i =>
      refine iff_of_true ?_ rfl
      have hmax : maxHits = maxHits - 1 + 1 := rfl
      rw [hits_record, hempty, hmax, List.rtake_concat_succ]
      exact List.append_ne_nil_of_right_ne_nil _ (List.cons_ne_nil _ _)

end Breakpoints

theorem Command.isOrdinary_tested (index : Nat) (a : UInt32) (k : AccessKind) :
    ∀ command ∈ (isolate index ++ [test a k] : List (Command X A)), command.IsOrdinary := by
  intro command hc
  rcases List.mem_append.mp hc with hc | hc
  · rcases List.mem_append.mp hc with hc | hc
    · rcases List.mem_map.mp hc with ⟨i, -, rfl⟩
      exact trivial
    · rcases List.mem_pair.mp hc with rfl | rfl
      · exact trivial
      · exact trivial
  · rw [List.mem_singleton.mp hc]
    cases k <;> exact trivial

/-- What a test reports. -/
theorem Command.inWord_tested (a : UInt32) (k : AccessKind) :
    InWord (tested a k).address (tested a k).size := by
  cases k with
  | read => exact inWord_of_aligned (aligned_word a)
  | write => exact Width.byte.inWord_stores (List.mem_singleton_self (a, 1))

/-- A breakpoint that passes the tests at its first bound in either order is symmetric. -/
theorem Breakpoint.symmetric_of_tested {b : Breakpoint}
    (h : ∀ k : AccessKind, b.flags.contains k.flag = true →
      (b.overlaps (Command.tested b.first k).address ((Command.tested b.first k).address +
          ((Command.tested b.first k).size - 1)) = true ↔
        b.reversed.overlaps (Command.tested b.first k).address
          ((Command.tested b.first k).address + ((Command.tested b.first k).size - 1)) = true)) :
    b.Symmetric := by
  rw [Symmetric]
  have htest : ∀ k, ((Command.tested b.first k).address +
      ((Command.tested b.first k).size - 1)).toNat = (Command.tested b.first k).address.toNat +
        ((Command.tested b.first k).size.toNat - 1) :=
    fun k => (Command.inWord_tested b.first k).toNat_end
  simp only [overlaps, reversed, Bool.and_eq_true, decide_eq_true_eq, UInt32.le_iff_toNat_le,
    htest] at h
  cases hwrite : b.flags.contains .write with
  | true =>
      -- The first byte alone is met only if the bounds are equal.
      have hbyte := h .write hwrite
      have h1 : (1 : UInt32).toNat = 1 := rfl
      simp only [Command.tested, h1] at hbyte
      left
      rw [← UInt32.toNat_inj]
      omega
  | false =>
      right
      refine ⟨rfl, ?_⟩
      cases hread : b.flags.contains .read with
      | false => exact Or.inl rfl
      | true =>
          -- The first word is met only if the last bound lies in it.
          have hword := h .read hread
          have h4 : (4 : UInt32).toNat = 4 := rfl
          simp only [Command.tested, h4, toNat_alignWord] at hword
          right
          omega

namespace Machine

variable [AttachedDevice X A] {history : List (Mapping (Device X))} {l : Breakpoints}
  {s : Machine X A}

/-- A breakpoint that is added, isolated and tested is hit iff it watches the kind and
    meets the range of the test. -/
theorem tested_iff (h : s.Follows history l) (b : Breakpoint) (a : UInt32) (k : AccessKind) :
    ((s.addBreakpoint b.first b.last b.flags).2.after
      (Command.isolate l.slots.size ++ [Command.test a k])).takeHits.1 ≠ [] ↔
        b.overlaps (Command.tested a k).address
            ((Command.tested a k).address + ((Command.tested a k).size - 1)) = true ∧
          b.flags.contains k.flag = true := by
  have hordinary := Command.isOrdinary_tested (X := X) (A := A) l.slots.size a k
  have hadd := follows_addBreakpoint h b.first b.last b.flags
  have hfollows := (follows_after hadd hordinary).1
  rcases l.isolated_iff (X := X) (A := A) (s.addBreakpoint b.first b.last b.flags).2.bus.lastPc b
    with ⟨hlive, hempty⟩
  -- The last command is the access, and it makes one report.
  have hlast : ∀ (l : Breakpoints) (lastPc : UInt32),
      (Command.test a k : Command X A).onRegistry lastPc l =
        l.hear lastPc (Command.tested a k) := by
    intro l lastPc
    cases k <;> rfl
  rw [takeHits_of_registry hfollows.registry, Breakpoints.afterCommands, List.foldl_append,
    List.foldl_cons, List.foldl_nil, hlast]
  rw [Breakpoints.afterCommands] at hlive hempty
  rw [Breakpoints.hits_hear_iff _ hempty (Command.inWord_tested a k)]
  have hkind : (Command.tested a k).kind = k := by cases k <;> rfl
  simp only [hlive, exists_eq_left, hkind, AccessKind.watched_eq, Flags.contains_union_iff,
    Flags.contains_enabled_setEnabled, Flags.contains_flag_setEnabled, true_and]
  rfl

/-- Machines that cannot be told apart by ordinary commands have a symmetric breakpoint. -/
theorem symmetric_of_alike (h : s.Follows history l) {b : Breakpoint}
    (halike : ∀ commands : List (Command X A), (∀ command ∈ commands, command.IsOrdinary) →
      Alike ((s.addBreakpoint b.first b.last b.flags).2.after commands)
        ((s.addBreakpoint b.last b.first b.flags).2.after commands)) : b.Symmetric := by
  refine Breakpoint.symmetric_of_tested fun k hk => ?_
  have hhits := (halike _ (Command.isOrdinary_tested l.slots.size b.first k)).hits
  have hforward := tested_iff h b b.first k
  have hbackward := tested_iff h b.reversed b.first k
  rw [hhits, and_iff_left hk] at hforward
  exact hforward.symm.trans (hbackward.trans (and_iff_left hk))

end Machine

/-- What the order of the bounds of a breakpoint means to a machine. -/
structure BoundsLaw [AttachedDevice X A] (s : Machine X A) (b : Breakpoint) : Prop where
  /-- The breakpoint gets the same index either way. -/
  index : (s.addBreakpoint b.first b.last b.flags).1 = (s.addBreakpoint b.last b.first b.flags).1
  /-- Commands about breakpoints and typed accesses make no difference between the two
      orders iff the breakpoint is symmetric. -/
  alike_iff : (∀ commands : List (Command X A), (∀ command ∈ commands, command.IsOrdinary) →
    Machine.Alike ((s.addBreakpoint b.first b.last b.flags).2.after commands)
      ((s.addBreakpoint b.last b.first b.flags).2.after commands)) ↔ b.Symmetric
  /-- If it is, then no other commands make a difference either. -/
  alike : b.Symmetric → ∀ commands : List (Command X A), (∀ command ∈ commands, command.Foreign) →
    Machine.Alike ((s.addBreakpoint b.first b.last b.flags).2.after commands)
      ((s.addBreakpoint b.last b.first b.flags).2.after commands)

/-- The order of the bounds of a breakpoint does not matter if it is symmetric, and does in
    any other case. -/
theorem bounds_law [AttachedDevice X A] {history : List (Mapping (Device X))}
    {s : Machine X A} (h : Machine.Reached history s) (b : Breakpoint) : BoundsLaw s b := by
  rcases Machine.follows_of_reached h with ⟨l, hl⟩
  have halike : b.Symmetric → ∀ commands : List (Command X A),
      (∀ command ∈ commands, command.Foreign) →
        Machine.Alike ((s.addBreakpoint b.first b.last b.flags).2.after commands)
          ((s.addBreakpoint b.last b.first b.flags).2.after commands) := by
    intro hb commands hf
    rcases (Machine.twins_addBreakpoint hl hb).after hf with ⟨_, htwins⟩
    exact htwins.alike
  constructor
  case index => rw [Machine.addBreakpoint_eq hl.registry, Machine.addBreakpoint_eq hl.registry]
  case alike_iff =>
    constructor
    · exact Machine.symmetric_of_alike hl
    · intro hb commands hc
      refine halike hb commands fun command hmem => ?_
      have hordinary := hc command hmem
      cases command <;> first | exact trivial | cases hordinary
  case alike => exact halike

/-- A breakpoint with its bounds in different words, given the wrong way round. -/
def Breakpoint.backward : Breakpoint := ⟨0x20000, 0x1FFFF, ⟨5⟩⟩

theorem bounds_law_backward : ∃ s : Machine Empty Unit,
    Machine.Reached (standardMap 0x800000) s ∧ BoundsLaw s .backward ∧
      ¬ Breakpoint.backward.Symmetric := by
  have hword : (Store.ofGrants 0x800000 []).dramWord = 0x800000 := by decide
  rcases Machine.exists_withStore_bare with ⟨s, hs⟩
  have h := Machine.Reached.start hs
  rw [hword] at h
  exact ⟨s, h, bounds_law h _, by decide⟩

/-- A store into the middle of a word with a breakpoint is a hit, and with the bounds the
    other way round it is none. So it is with a region next to the end of another one, which
    is watched or not. -/
theorem order_noticed : ∃ s : Machine Empty Unit, Machine.Reached (standardMap 0x800000) s ∧
    ((s.addBreakpoint 0x1000 0x1003 ⟨5⟩).2.after [.write .byte 0x1001 1]).takeHits.1 =
        [⟨0, 0xFFFFFFFC, 0x1001, 1, ⟨5⟩⟩] ∧
      ((s.addBreakpoint 0x1003 0x1000 ⟨5⟩).2.after [.write .byte 0x1001 1]).takeHits.1 = [] ∧
      ((s.addBreakpoint 0x1FFFF 0x20000 ⟨5⟩).2.bus.entryAt 0x20000).checks = ⟨false, true⟩ ∧
      ((s.addBreakpoint 0x20000 0x1FFFF ⟨5⟩).2.bus.entryAt 0x20000).checks = .none := by
  have hword : (Store.ofGrants 0x800000 []).dramWord = 0x800000 := by decide
  rcases Machine.exists_withStore_bare with ⟨s, hs⟩
  have h := Machine.Reached.start hs
  have hl := Machine.follows_withStore hs
  rw [hword] at h hl
  refine ⟨s, h, ?_⟩
  have hadd := fun first last => Machine.follows_addBreakpoint hl first last ⟨5⟩
  have hhits : ∀ first last, ((s.addBreakpoint first last ⟨5⟩).2.after
      [.write .byte 0x1001 1]).takeHits.1 =
        ((Breakpoints.empty.add first last ⟨5⟩).2.report (0 - 4) 0x1001 1
          AccessKind.write.watched).hits.toList := by
    intro first last
    have hpc : (s.addBreakpoint first last ⟨5⟩).2.bus.lastPc = 0 :=
      (Machine.lastPc_addBreakpoint hl first last ⟨5⟩).trans (Machine.lastPc_withStore hs)
    have haccess : (Command.write .byte 0x1001 1 : Command Empty Unit).IsAccess := trivial
    have hafter := Machine.follows_access (hadd first last) haccess
    rw [hpc] at hafter
    exact Machine.takeHits_of_registry hafter.registry
  have hchecks : ∀ first last, ((s.addBreakpoint first last ⟨5⟩).2.bus.entryAt 0x20000).checks =
      Bus.wantedChecks (some (Breakpoints.empty.add first last ⟨5⟩).2) (regionOf 0x20000) :=
    fun first last => ((hadd first last).bus.serves _).checks_eq
  have hinside : InWord 0x1001 1 := Command.inWord_tested 0x1001 .write
  have hfound : (Breakpoints.empty.add 0x1000 0x1003 ⟨5⟩).2.find? 0x1001 (0x1001 + (1 - 1))
      AccessKind.write.watched = some 0 := by
    rw [Breakpoints.find?_eq]
    decide
  have hmissed : (Breakpoints.empty.add 0x1003 0x1000 ⟨5⟩).2.find? 0x1001 (0x1001 + (1 - 1))
      AccessKind.write.watched = none := by
    rw [Breakpoints.find?_eq]
    decide
  rw [hhits, hhits, hchecks, hchecks]
  refine ⟨?_, ?_, ?_, ?_⟩
  · rw [Breakpoints.report_eq hinside, hfound, Breakpoints.hits_record]
    decide
  · rw [Breakpoints.report_eq hinside, hmissed]
    rfl
  · simp only [Bus.wantedChecks, Registry.lookup?, Breakpoints.lookup?_region,
      Breakpoints.find?_eq]
    decide
  · simp only [Bus.wantedChecks, Registry.lookup?, Breakpoints.lookup?_region,
      Breakpoints.find?_eq]
    decide

end RegionBus

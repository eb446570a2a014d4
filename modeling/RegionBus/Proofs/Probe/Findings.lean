import RegionBus.Probe.Report
import RegionBus.Proofs.Machine.Observer
import RegionBus.Proofs.StandardMap.Views

/-!
# What the Probe Finds

The probe looks at one address after the other, and each look is a read. On a machine
to which nothing is attached a read never fails, and it changes nothing but the
registry. So what is found at an address does not depend on the addresses before:
`takeFindings_eq` turns the loop into a map. The hits are those of an observer that is
told of every word, `hits_take`, and an observer's hits are one for each word that a
breakpoint watches, in the order of the words.

## Main definitions

* `Observer.hit?`: What an observer notes of an access.
* `Bus.BuiltIn`: Only memory of the machine lies behind a bus.
* `Finding.of`: What is found at an address.
* `wordRead`: The access that a look at an address makes.

## Theorems

* `Observer.foldl_hear`: An observer notes each access by itself.
* `takeFindings_eq`: What is found does not depend on what was looked at before.
* `findings_take`, `hits_take`: The two parts of a report.
-/

namespace RegionBus

namespace Observer

/-- What an observer notes of an access. -/
def hit? (o : Observer) (x : Report) : Option Hit :=
  (o.breakpoints.findIdx? fun slot => slot.any x.meets).map fun i =>
    ⟨i, o.lastPc - 4, x.address, x.size, .union .enabled x.kind.flag⟩

theorem hear_eq (o : Observer) (x : Report) :
    o.hear x = { o with hits := o.hits ++ (o.hit? x).toList } := by
  rw [hear, hit?]
  cases o.breakpoints.findIdx? fun slot => slot.any x.meets with
  | none =>
      rw [Option.map_none, Option.toList_none, List.append_nil]
  | some i => rfl

/-- An observer notes each access by itself, whatever it has noted before. -/
theorem foldl_hear (o : Observer) (reports : List Report) :
    reports.foldl hear o = { o with hits := o.hits ++ reports.filterMap o.hit? } := by
  induction reports generalizing o with
  | nil => rw [List.foldl_nil, List.filterMap_nil, List.append_nil]
  | cons x reports ih =>
      have hsame : ({ o with hits := o.hits ++ (o.hit? x).toList } : Observer).hit? = o.hit? := rfl
      rw [List.foldl_cons, hear_eq, ih, hsame, List.append_assoc]
      cases hx : o.hit? x with
      | none => rw [List.filterMap_cons_none hx, Option.toList_none, List.nil_append]
      | some hit => rw [List.filterMap_cons_some hx, Option.toList_some, List.singleton_append]

end Observer

/-- There is nothing behind a bus but what the machine is made of. -/
structure Bus.BuiltIn (bus : Bus (Device Empty)) : Prop where
  /-- The handlers of every region agree with its checks. -/
  settled : ∀ r, (bus.entry r).Settled
  /-- Every device is memory of the machine. -/
  builtIn : ∀ r, (bus.entry r).device.BuiltIn

/-- A bus with the standard map and nothing else is one. -/
theorem Bus.Reflects.builtIn {n : Nat} {bus : Bus (Device Empty)} (hn : ValidDramSize n)
    (hb : bus.Reflects (standardMap (UInt32.ofNat n))) : bus.BuiltIn where
  settled := hb.settled
  builtIn r := by
    have hdevice := device_standard hn hb r.base
    rw [entryAt, Region.regionOf_base] at hdevice
    rw [hdevice]
    exact builtIn_standardHandler n r.base

namespace Probe

/-- What is found at an address. -/
def Finding.of (bus : Bus (Device Empty)) (h : Hardware Unit) (a : UInt32) : Finding where
  address := a
  device := bus.kindAt a
  handler := (bus.entryAt a).live.name
  window := (Catalog.standard.windowFor? a).map Window.name
  value := ((bus.entryAt (a &&& ~~~3)).device.target.read (a &&& ~~~3) h).1

/-- The access that a look at an address makes. -/
def wordRead (a : UInt32) : RegionBus.Report :=
  ⟨.read, a &&& ~~~3, 4⟩

theorem inWord_wordRead (addresses : List UInt32) :
    ∀ x ∈ addresses.map wordRead, InWord x.address x.size := by
  intro x hx
  rcases List.mem_map.mp hx with ⟨a, -, rfl⟩
  exact inWord_of_aligned (aligned_word a)

variable {s : Machine Empty Unit}

/-- A look at an address changes the registry and nothing else. -/
theorem take_eq (hs : s.bus.BuiltIn) (a : UInt32) :
    Finding.take s a = (Finding.of s.bus s.memory.toHardware a,
      { s with registry := s.bus.told .read (a &&& ~~~3) 4 s.registry }) := by
  rcases s with ⟨⟨hardware, invalidator⟩, bus, registry⟩
  have hread := Bus.readWord_eq (hs.settled (regionOf (a &&& ~~~3))) ⟨registry, hardware⟩
  have hdevice := Handler.read_target (hs.builtIn (regionOf (a &&& ~~~3))) (a &&& ~~~3) hardware
  rw [Finding.take, Machine.access, Bus.read32, hread, Finding.of, Bus.entryAt, hdevice]
  rfl

/-- What is found at an address does not depend on the addresses before. -/
theorem takeFindings_eq (hs : s.bus.BuiltIn) (addresses : List UInt32) :
    takeFindings s addresses = (addresses.map (Finding.of s.bus s.memory.toHardware),
      { s with
        registry := (addresses.map wordRead).foldl
          (fun l x => s.bus.told x.kind x.address x.size l) s.registry }) := by
  induction addresses generalizing s with
  | nil => rfl
  | cons a addresses ih =>
      -- The next look finds the same bus and the same memory.
      have hrest := ih (s := { s with registry := s.bus.told .read (a &&& ~~~3) 4 s.registry }) hs
      rw [takeFindings, take_eq hs]
      simp only [hrest]
      rfl

/-- The findings of a report. -/
theorem findings_take (hs : s.bus.BuiltIn) (addresses : List UInt32) :
    (Report.take s addresses).findings =
      addresses.map (Finding.of s.bus s.memory.toHardware) := by
  rw [Report.take, takeFindings_eq hs]

/-- Without a registry there are no hits. -/
theorem hits_take_bare (hs : s.bus.BuiltIn) (hnone : s.registry = none)
    (addresses : List UInt32) : (Report.take s addresses).hits = [] := by
  have htold : (addresses.map wordRead).foldl
      (fun l x => s.bus.told x.kind x.address x.size l) s.registry = none := by
    rw [hnone]
    induction addresses.map wordRead with
    | nil => rfl
    | cons x reports ih =>
        have hx : s.bus.told x.kind x.address x.size (none : Option Breakpoints) = none := by
          rw [Bus.told]
          split <;> rfl
        rw [List.foldl_cons, hx, ih]
  rw [Report.take, takeFindings_eq hs, htold]
  rfl

/-- The hits of a report are those of an observer, who is told of every word. -/
theorem hits_take {history : List (Mapping (Device Empty))} {o : Observer} (hs : s.bus.BuiltIn)
    (h : o.Observes history s) (addresses : List UInt32) :
    (Report.take s addresses).hits =
      (o.hits ++ (addresses.map wordRead).filterMap o.hit?).rtake maxHits := by
  rcases h with ⟨⟨l, hl, hseen⟩, hpc⟩
  have htold := hl.bus.foldl_told (inWord_wordRead addresses)
  have hhits := (hseen.foldl_hear (inWord_wordRead addresses)).hits
  rw [← hpc, Observer.foldl_hear] at hhits
  rw [Report.take, takeFindings_eq hs, hl.registry, htold]
  exact hhits

end Probe

end RegionBus

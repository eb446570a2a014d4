import RegionBus.Proofs.Bus.History
import RegionBus.Proofs.Machine.Upkeep
import RegionBus.Proofs.StandardMap.Sizes

/-!
# How a Machine is Built

A machine is built in two halves that do not meet. Its memory is had from the host
and the images are loaded into it, and that takes no bus. Its bus is the standard
map, with a layer and a registry if there is a debugger, and that takes nothing of
memory but its size.

`build_eq` takes the two apart. Building can only fail in the first half, since the
standard map is in order for every size that settings can have. So a machine with a
debugger is had iff one without is, and both have the same memory.

## Main definitions

* `RawMemory.create`, `RawMemory.build`: The memory a machine is built with.
* `Breakpoints.initial`: The registry a machine is built with.
* `Machine.Fresh`: A machine as it was built.

## Theorems

* `RawMemory.valid_of_build`: Memory is only had for valid settings.
* `build_eq`: A machine is its memory and its bus.
* `fresh_of_build`, `exists_build`: A machine is had iff its memory is, and it is fresh.
-/

namespace RegionBus

variable {X A : Type}

/-- The registry a machine is built with. -/
def Breakpoints.initial (debugger : Bool) : Option Breakpoints :=
  if debugger then some empty else none

namespace RawMemory

/-- The memory without images, had from the host. -/
def create (c : Config) (attached : A) : Except MemoryError (RawMemory A) :=
  c.validate.bind fun _ => (Store.createOnHost c.dramSize).map fun store => ofStore store attached

/-- The memory after the file of a path was loaded, if there is a path. -/
def loadAt (onto : RawMemory A → Option Image → Except MemoryError (RawMemory A))
    (readFile : ImagePath → Option Image) (path : Option ImagePath) (memory : RawMemory A) :
    Except MemoryError (RawMemory A) :=
  match path with
  | some path => onto memory (readFile path)
  | none => .ok memory

/-- The memory a machine is built with. -/
def build (readFile : ImagePath → Option Image) (c : Config) (attached : A) :
    Except MemoryError (RawMemory A) :=
  ((create c attached).bind (loadAt loadPifFile readFile c.pifRom)).bind
    (loadAt loadCartridgeFile readFile c.cartRom)

/-- Memory is only had for settings that are in order. -/
theorem valid_of_build {readFile : ImagePath → Option Image} {c : Config} {attached : A}
    {memory : RawMemory A} (h : build readFile c attached = .ok memory) :
    ValidDramSize c.dramSize := by
  cases hvalid : c.validate with
  | error e =>
      rw [build, create, hvalid] at h
      cases h
  | ok _ => exact c.validate_eq_ok_iff.mp hvalid

end RawMemory

namespace Machine

/-- A file that is loaded while a machine is built, if there is a path and nothing has
    failed before. -/
def load (into : Machine X A → Option Image → Except MemoryError (Machine X A))
    (readFile : ImagePath → Option Image) (path : Option ImagePath)
    (s : Except MemoryError (Machine X A)) : Except MemoryError (Machine X A) :=
  match s, path with
  | .ok s, some path => into s (readFile path)
  | s, _ => s

variable {bus : Bus (Device X)} {registry : Option Breakpoints}
  {readFile : ImagePath → Option Image} {c : Config} {attached : A}

/-- What is loaded goes to memory, and the bus stays as it is. -/
theorem load_map {into : Machine X A → Option Image → Except MemoryError (Machine X A)}
    {onto : RawMemory A → Option Image → Except MemoryError (RawMemory A)}
    (hinto : ∀ memory file, into ⟨memory, bus, registry⟩ file =
      (onto memory file).map fun memory => ⟨memory, bus, registry⟩)
    (path : Option ImagePath) (memory : Except MemoryError (RawMemory A)) :
    load into readFile path (memory.map fun memory => ⟨memory, bus, registry⟩) =
      (memory.bind (RawMemory.loadAt onto readFile path)).map fun memory =>
        ⟨memory, bus, registry⟩ := by
  cases memory with
  | error e => rfl
  | ok memory =>
      cases path with
      | none => rfl
      | some path => exact hinto memory (readFile path)

/-- A machine before any image is loaded is its memory and its bus. -/
theorem create_eq (hbus : Bus.ofMappings c.debugger (Breakpoints.initial c.debugger)
    (standardMap (UInt32.ofNat c.dramSize)) = .ok bus) :
    create c attached = (RawMemory.create c attached).map fun memory =>
      ⟨memory, bus, Breakpoints.initial c.debugger⟩ := by
  rw [create, RawMemory.create]
  cases c.validate with
  | error e => rfl
  | ok _ =>
      cases hcreated : Store.create (Allocator.host Allocator.hostLimit) c.dramSize with
      | mk outcome events =>
          have hstore : Store.createOnHost c.dramSize = outcome := congrArg Prod.fst hcreated
          rw [hstore]
          cases outcome with
          | error e => rfl
          | ok store =>
              rw [← dramWord_of_create hcreated] at hbus
              refine (withStore_eq store c.debugger attached).trans ?_
              exact congrArg (Except.map _) hbus

/-- A machine is its memory and its bus, which are had apart from each other. -/
theorem build_eq (hbus : Bus.ofMappings c.debugger (Breakpoints.initial c.debugger)
    (standardMap (UInt32.ofNat c.dramSize)) = .ok bus) :
    build (m := Id) readFile c attached = (RawMemory.build readFile c attached).map fun memory =>
      ⟨memory, bus, Breakpoints.initial c.debugger⟩ := by
  -- The boot code is loaded first, and then the cartridge.
  have hload : (build (m := Id) readFile c attached : Except MemoryError (Machine X A)) =
      load loadCartridgeFile readFile c.cartRom
        (load loadPifFile readFile c.pifRom (create c attached)) := rfl
  rw [hload, create_eq hbus, load_map (fun _ _ => rfl), load_map (fun _ _ => rfl)]
  rfl

end Machine

/-- A machine as it was built: it has the memory that was had, and a bus with the
    standard map on which nothing is watched. -/
structure Machine.Fresh (c : Config) (memory : RawMemory A) (s : Machine X A) : Prop where
  /-- The memory. -/
  memory_eq : s.memory = memory
  /-- There is a registry if there is a debugger. -/
  registry_eq : s.registry = Breakpoints.initial c.debugger
  /-- The bus reflects the standard map. -/
  reflects : s.bus.Reflects (standardMap (UInt32.ofNat c.dramSize))
  /-- Nothing is watched. -/
  unwatched : ∀ r, (s.bus.entry r).checks = .none
  /-- No program counter was announced. -/
  lastPc_eq : s.bus.lastPc = 0
  /-- With a debugger, the bus is in line with the registry. -/
  follows : c.debugger = true → s.Follows (standardMap (UInt32.ofNat c.dramSize)) .empty

namespace Machine

variable {readFile : ImagePath → Option Image} {c : Config} {attached : A}
  {memory : RawMemory A} {bus : Bus (Device X)}

theorem fresh_mk (hbus : Bus.ofMappings c.debugger (Breakpoints.initial c.debugger)
    (standardMap (UInt32.ofNat c.dramSize)) = .ok bus) :
    Fresh c memory ⟨memory, bus, Breakpoints.initial c.debugger⟩ := by
  have hreflects := Bus.reflects_ofMappings (isDebug_standardMap _) hbus
  have hintercepting := Bus.intercepting_ofMappings hbus
  have hlastPc := Bus.lastPc_ofMappings hbus
  cases hd : c.debugger with
  | false =>
      rw [hd] at hintercepting
      refine ⟨rfl, ?_, hreflects, hreflects.unwatched hintercepting, hlastPc, ?_⟩
      · rw [hd]
      · rw [hd]
        exact fun hnot => Bool.noConfusion hnot
  | true =>
      rw [hd] at hbus
      -- Without breakpoints nothing is wanted, and so nothing is watched.
      have hfollows := Bus.follows_foldlM (isDebug_standardMap _) Bus.follows_unmapped hbus
      refine ⟨rfl, ?_, hreflects, fun r => ?_, hlastPc, fun _ => ⟨rfl, hfollows⟩⟩
      · rw [hd]
      · rw [(hfollows.serves r).checks_eq, Breakpoints.wantedChecks_empty]

/-- A machine that is built is fresh, with the memory that was had. -/
theorem fresh_of_build {s : Machine X A} (hs : build (m := Id) readFile c attached = .ok s) :
    ∃ memory, RawMemory.build readFile c attached = .ok memory ∧ s.Fresh c memory := by
  cases hvalid : c.validate with
  | error e =>
      have herror : (build (m := Id) readFile c attached : Except MemoryError (Machine X A)) =
          .error e := by
        change load loadCartridgeFile readFile c.cartRom
          (load loadPifFile readFile c.pifRom (create c attached)) = _
        rw [create, hvalid]
        rfl
      rw [herror] at hs
      cases hs
  | ok _ =>
      have hsize := c.validate_eq_ok_iff.mp hvalid
      rcases exists_standardBus (X := X) hsize c.debugger (Breakpoints.initial c.debugger) with
        ⟨bus, hbus, -⟩
      rw [build_eq hbus] at hs
      cases hmemory : RawMemory.build readFile c attached with
      | error e =>
          rw [hmemory] at hs
          cases hs
      | ok memory =>
          rw [hmemory] at hs
          rw [← Except.ok.inj hs]
          exact ⟨memory, rfl, fresh_mk hbus⟩

/-- Memory that was had can be put behind a bus, whether there is a debugger or not. -/
theorem exists_build (hmemory : RawMemory.build readFile c attached = .ok memory) :
    ∃ s : Machine X A, build (m := Id) readFile c attached = .ok s ∧ s.Fresh c memory := by
  have hsize := RawMemory.valid_of_build hmemory
  rcases exists_standardBus (X := X) hsize c.debugger (Breakpoints.initial c.debugger) with
    ⟨bus, hbus, -⟩
  refine ⟨_, ?_, fresh_mk hbus⟩
  rw [build_eq hbus, hmemory]
  rfl

end Machine

end RegionBus

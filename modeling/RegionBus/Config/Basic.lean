import RegionBus.Error

/-!
# Configuration

What a machine is built from: the size of main memory, whether it has a
debugger, and the image files to load. A path is a string of bytes, as file
systems have it, and need not be text.

## Main definitions

* `ImagePath`: The path of an image file.
* `Config`: The settings.
* `Config.fault?`: What is wrong with the settings.
* `Config.validate`: The same as an error.
-/

namespace RegionBus

/-- The path of an image file. -/
structure ImagePath where
  /-- The bytes of the path. -/
  bytes : ByteArray

/-- Paths are compared byte by byte. -/
instance : DecidableEq ImagePath := fun p q =>
  match ByteArray.decEq p.bytes q.bytes with
  | isTrue h => isTrue (congrArg ImagePath.mk h)
  | isFalse h => isFalse fun e => h (congrArg ImagePath.bytes e)

namespace ImagePath

/-- The path written as a text. -/
def ofString (s : String) : ImagePath := ⟨s.toUTF8⟩

/-- The text of a path, unless its bytes are no text. -/
def text? (p : ImagePath) : Option String := String.fromUTF8? p.bytes

end ImagePath

/-- The settings of a machine. -/
structure Config where
  /-- The size of main memory in bytes. -/
  dramSize : Nat
  /-- Whether breakpoints can be set. -/
  debugger : Bool
  /-- The cartridge image to load. -/
  cartRom : Option ImagePath
  /-- The boot code to load. -/
  pifRom : Option ImagePath
  deriving DecidableEq

namespace Config

/-- The settings where none are given. -/
def default : Config where
  dramSize := dramDefaultSize
  debugger := false
  cartRom := none
  pifRom := none

/-- What is wrong with the settings: main memory is a whole number of 64 KiB
    units, at least one, and fits its address windows. -/
def fault? (c : Config) : Option ConfigFault :=
  if c.dramSize = 0 ∨ c.dramSize % dramAlignment ≠ 0 then some (.dramUnaligned c.dramSize)
  else if dramMaxSize < c.dramSize then some (.dramTooLarge c.dramSize)
  else none

/-- Succeeds if nothing is wrong with the settings. -/
def validate (c : Config) : Except MemoryError Unit :=
  match c.fault? with
  | some fault => .error (.config fault)
  | none => .ok ()

theorem fault?_eq_none_iff (c : Config) :
    c.fault? = none ↔
      0 < c.dramSize ∧ c.dramSize % dramAlignment = 0 ∧ c.dramSize ≤ dramMaxSize := by
  unfold fault?
  split
  · next h => exact iff_of_false (Option.some_ne_none _) (by omega)
  · split
    · next hlarge => exact iff_of_false (Option.some_ne_none _) (by omega)
    · next h hlarge => exact iff_of_true rfl (by omega)

end Config

end RegionBus

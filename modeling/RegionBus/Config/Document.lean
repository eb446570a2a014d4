import RegionBus.Config.Basic
import RegionBus.Toml.Document
import RegionBus.Toml.Written

/-!
# Configuration Documents

A configuration is kept as a document with one key for each setting. Settings
that a document leaves out have their defaults, and keys that name no setting
are ignored, but a setting of the wrong type makes the document unreadable. A
document that can be read still has to hold a valid configuration.

## Main definitions

* `Config.ofTable?`: The settings in a document's table.
* `Config.parse`: The configuration of a text.
* `Config.load`: The configuration of a file.
* `Config.render`, `Config.save`: The text of a configuration, and a file with it.
-/

namespace RegionBus

namespace Config

/-- A setting of main memory's size: an integer that fits 64 bits. -/
def sizeSetting? : Option Toml.Value → Option Nat
  | none => some Config.default.dramSize
  | some (.integer n) => if 0 ≤ n ∧ n < 0x10000000000000000 then some n.toNat else none
  | some _ => none

/-- A setting that is on or off. -/
def switchSetting? : Option Toml.Value → Option Bool
  | none => some Config.default.debugger
  | some (.boolean b) => some b
  | some _ => none

/-- A setting that is a path, or left out. -/
def pathSetting? : Option Toml.Value → Option (Option ImagePath)
  | none => some none
  | some (.string s) => some (some (ImagePath.ofString s))
  | some _ => none

/-- The settings in a document's table, unless one has the wrong type. -/
def ofTable? (t : Toml.Table) : Option Config := do
  let dramSize ← sizeSetting? (t.find? "dram_size")
  let debugger ← switchSetting? (t.find? "debugger")
  let cartRom ← pathSetting? (t.find? "cart_rom")
  let pifRom ← pathSetting? (t.find? "pif_rom")
  return { dramSize, debugger, cartRom, pifRom }

/-- The configuration of a text. -/
def parse (text : String) : Except MemoryError Config :=
  match (Toml.readDocument text).bind ofTable? with
  | none => .error (.config .unreadable)
  | some c => c.validate.map fun _ => c

/-- The configuration of a file's bytes; `none` stands for a file that could not
    be read. Bytes that are no text cannot be read either. -/
def load (file : Option ByteArray) : Except MemoryError Config :=
  match file.bind String.fromUTF8? with
  | none => .error .file
  | some text => parse text

/-- A line for a path that is set. -/
def pathLine (key : String) : Option ImagePath → Option (List Char)
  | none => some []
  | some path => path.text?.map fun s =>
    key.toList ++ [' ', '=', ' '] ++ Toml.writeQuoted s.toList ++ ['\n']

/-- The text of a configuration. There is none if a path is no text, or if the
    size is too large for the integers of documents. -/
def render (c : Config) : Except MemoryError String :=
  let text? : Option (List Char) := do
    let size ← if c.dramSize < 0x8000000000000000 then some (Nat.toDigits 10 c.dramSize) else none
    let cartLine ← pathLine "cart_rom" c.cartRom
    let pifLine ← pathLine "pif_rom" c.pifRom
    return "dram_size = ".toList ++ size ++ "\ndebugger = ".toList ++
      (if c.debugger then "true" else "false").toList ++ ['\n'] ++ cartLine ++ pifLine
  match text? with
  | some text => .ok (String.ofList text)
  | none => .error (.config .unwritable)

/-- A configuration saved by `writeFile`, which tells whether the text could be
    written. A configuration without a text writes nothing. -/
def save {m : Type → Type} [Monad m] (writeFile : String → m Bool) (c : Config) :
    m (Except MemoryError Unit) :=
  match c.render with
  | .error e => return .error e
  | .ok text => do return if ← writeFile text then .ok () else .error .file

end Config

end RegionBus

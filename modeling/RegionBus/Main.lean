import RegionBus.Probe.Run

/-!
# The Probe Program

Shows how physical addresses are routed through the memory bus. This module only
reads files and variables and prints; what is done with them is decided by
`Probe.run`.

## Main definitions

* `main`: The program.
-/

namespace RegionBus

namespace Probe

/-- The bytes of a file, unless it cannot be read. -/
def readFileBytes (name : String) : IO (Option ByteArray) := do
  try
    return some (← IO.FS.readBinFile name)
  catch _ =>
    return none

/-- The contents of the file at a path. -/
def readPath (path : ImagePath) : IO (Option Image) :=
  match path.text? with
  | some name => return (← readFileBytes name).map Image.ofBytes
  | none => return none

/-- The variables of the environment that a variables file mentions, and the one
    that names the configuration file. -/
def readEnvironment (file : Option ByteArray) : IO Environment := do
  let mentioned := match file with
    | some file => (assignments file).flatMap Assignment.names
    | none => []
  let mut env : Environment := []
  for name in configVariableName :: mentioned do
    if let some value ← IO.getEnv name then
      env := (name, value) :: env
  return env

end Probe

end RegionBus

open RegionBus Probe in
/-- Probes the addresses on the command line. -/
def main (args : List String) : IO UInt32 := do
  let file ← readFileBytes variablesFile
  let env ← readEnvironment file
  match ← run readPath (configVariable env file) args with
  | .report text =>
    IO.print text
    return 0
  | .failure e =>
    IO.eprintln ("Error: " ++ e.message)
    return 1
  | .usage e =>
    IO.eprintln ("error: " ++ e.message)
    return 2

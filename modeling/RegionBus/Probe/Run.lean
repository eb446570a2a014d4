import RegionBus.Config.Document
import RegionBus.Probe.Arguments
import RegionBus.Probe.Report
import RegionBus.Probe.Variables

/-!
# Running the Probe

The probe builds a machine from its configuration and arguments, sets the
breakpoints asked for, looks at the addresses and reports. The configuration file
is the one named on the command line, else the one named by a variable, which may
come from a variables file; without any the defaults hold.

Files are read by a function that is passed in, so the same definition runs over
real files and over given ones.

## Main definitions

* `Outcome`: How a run ends.
* `configVariable`: The configuration file that the environment names.
* `configure`: The configuration that the arguments change.
* `setBreakpoints`: The breakpoints asked for.
* `run`: A run.
-/

namespace RegionBus

namespace Probe

/-- How a run ends. -/
inductive Outcome where
  /-- With a report. -/
  | report (text : String)
  /-- With an error of the machine. -/
  | failure (e : MemoryError)
  /-- With arguments that could not be used. -/
  | usage (e : UsageError)
  deriving DecidableEq, Repr

/-- The name of the variables file. -/
def variablesFile : String := ".env"

/-- The name of the variable that names the configuration file. -/
def configVariableName : String := "N64BUS_CONFIG"

/-- The configuration file that an environment names, together with a variables
    file if there is one. -/
def configVariable (env : Environment) (file : Option ByteArray) : Option String :=
  match file with
  | some file => (env.extend file).find? configVariableName
  | none => env.find? configVariableName

/-- The configuration with the changes that the arguments ask for. -/
def configure (args : Arguments) (c : Config) : Config :=
  let c := match args.rom with
    | some path => { c with cartRom := some (ImagePath.ofString path) }
    | none => c
  if args.breakReads = [] ∧ args.breakWrites = [] then c else { c with debugger := true }

/-- The machine with a breakpoint on the word of an address. -/
def breakOnWord {X A : Type} (k : AccessKind) (s : Machine X A) (a : UInt32) : Machine X A :=
  (s.addBreakpoint (a &&& ~~~3) (a ||| 3) k.watched).2

/-- The machine with the breakpoints that the arguments ask for, those on reads
    first. -/
def setBreakpoints {X A : Type} (args : Arguments) (s : Machine X A) : Machine X A :=
  args.breakWrites.foldl (breakOnWord .write) (args.breakReads.foldl (breakOnWord .read) s)

/-- The text of a report in the form that the arguments ask for. -/
def showReport (args : Arguments) (r : Report) : String :=
  if args.json then r.json.render ++ "\n" else r.text

variable {m : Type → Type} [Monad m]

/-- The configuration before the arguments change it: that of a file, or the
    defaults. -/
def loadConfig (readFile : ImagePath → m (Option Image)) (path : Option String) :
    m (Except MemoryError Config) :=
  match path with
  | some path => do
    return Config.load ((← readFile (ImagePath.ofString path)).map Image.toBytes)
  | none => return .ok Config.default

/-- The report for arguments that could be used, over the configuration before
    they change it. -/
def runWith (readFile : ImagePath → m (Option Image)) (args : Arguments) (c : Config) :
    m Outcome := do
  match ← Machine.build (X := Empty) readFile (configure args c) () with
  | .error e => return .failure e
  | .ok s => return .report (showReport args (Report.take (setBreakpoints args s) args.addresses))

/-- A run. Files are read by `readFile`, which gives nothing for one that cannot
    be read; `fromEnvironment` is the configuration file that the environment names. -/
def run (readFile : ImagePath → m (Option Image)) (fromEnvironment : Option String)
    (args : List String) : m Outcome := do
  match Arguments.parse args with
  | .error e => return .usage e
  | .ok args =>
    match ← loadConfig readFile (args.config <|> fromEnvironment) with
    | .error e => return .failure e
    | .ok c => runWith readFile args c

end Probe

end RegionBus

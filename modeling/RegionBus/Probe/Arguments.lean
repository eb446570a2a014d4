import RegionBus.Probe.Address

/-!
# Command Line Arguments

The arguments of the probe: options that begin with two hyphens, and addresses.
An option's value follows it, either behind an equals sign or as the next
argument, which must not look like an option itself. Behind a lone `--` every
argument is an address.

Arguments are read from left to right. The values of an option, or of a row of
addresses, are collected first and only looked at when the next option or
address list begins or the line ends. So an unknown option is reported before a
bad value directly in front of it.

## Main definitions

* `Arguments`: What the arguments ask for.
* `UsageError`: What is wrong with them.
* `Field`: Where a value belongs.
* `Reading`: What was read so far, and the values that are still to be looked at.
* `Reading.step`: One more argument.
* `Arguments.parse`: All arguments.
-/

namespace RegionBus

namespace Probe

/-- What the arguments ask for. -/
structure Arguments where
  /-- The addresses to probe. -/
  addresses : List UInt32
  /-- The configuration file. -/
  config : Option String
  /-- The cartridge image, in the place of the configured one. -/
  rom : Option String
  /-- Words whose reads are watched. -/
  breakReads : List UInt32
  /-- Words whose writes are watched. -/
  breakWrites : List UInt32
  /-- Whether the report is JSON. -/
  json : Bool
  deriving DecidableEq, Repr

/-- What is wrong with the arguments. -/
inductive UsageError where
  /-- An address cannot be read. -/
  | badAddress (text : String) (fault : NumberFault)
  /-- There is an option that nobody knows. -/
  | unknownOption (text : String)
  /-- An option has no value, or an empty path. -/
  | missingValue
  /-- An option without values has one. -/
  | unexpectedValue
  /-- An option that can be given once is given twice. -/
  | repeatedOption
  /-- There is no address. -/
  | noAddress
  deriving DecidableEq, Repr

/-- The text of an error. -/
def UsageError.message : UsageError → String
  | badAddress text fault => "invalid address '" ++ text ++ "': " ++ fault.message
  | unknownOption text => "unexpected argument '" ++ text ++ "'"
  | missingValue => "a value is required"
  | unexpectedValue => "unexpected value"
  | repeatedOption => "an option cannot be used multiple times"
  | noAddress => "an address is required"

/-- Where a value belongs. -/
inductive Field where
  | addresses
  | config
  | rom
  | breakReads
  | breakWrites
  deriving DecidableEq, Repr

/-- What was read so far, and the values that are still to be looked at. -/
structure Reading where
  /-- What was read. -/
  done : Arguments
  /-- Where the values that wait belong, and these values in order. -/
  waiting : Option (Field × List String)
  /-- Whether the option that waits takes the next argument as its value. -/
  wantsValue : Bool
  /-- Whether only addresses follow. -/
  onlyAddresses : Bool

namespace Reading

/-- Before the first argument. -/
def start : Reading where
  done := ⟨[], none, none, [], [], false⟩
  waiting := none
  wantsValue := false
  onlyAddresses := false

/-- An address, or what is wrong with it. -/
def address (text : String) : Except UsageError UInt32 :=
  (parseAddress text).mapError (UsageError.badAddress text)

/-- A path that is given for the first time. -/
def path (before : Option String) (values : List String) : Except UsageError String :=
  match values, before with
  | [], _ => .error .missingValue
  | _, some _ => .error .repeatedOption
  | text :: _, none => if text = "" then .error .missingValue else .ok text

/-- The arguments with the values of a field taken up. -/
def store (a : Arguments) (field : Field) (values : List String) :
    Except UsageError Arguments := do
  match field with
  | .addresses => return { a with addresses := a.addresses ++ (← values.mapM address) }
  | .config => return { a with config := some (← path a.config values) }
  | .rom => return { a with rom := some (← path a.rom values) }
  | .breakReads =>
    if values = [] then throw .missingValue
    return { a with breakReads := a.breakReads ++ (← values.mapM address) }
  | .breakWrites =>
    if values = [] then throw .missingValue
    return { a with breakWrites := a.breakWrites ++ (← values.mapM address) }

/-- What was read once the values that wait are taken up. -/
def settle (r : Reading) : Except UsageError Reading :=
  match r.waiting with
  | none => .ok r
  | some (field, values) =>
    (store r.done field values).map fun done =>
      { r with done, waiting := none, wantsValue := false }

/-- One more address in the row of those that wait. -/
def addAddress (r : Reading) (text : String) : Except UsageError Reading :=
  match r.waiting with
  | some (.addresses, values) => .ok { r with waiting := some (.addresses, values ++ [text]) }
  | _ => (r.settle).map fun r => { r with waiting := some (.addresses, [text]) }

/-- An option with values and the text behind its equals sign, if there is one. -/
def option (r : Reading) (field : Field) (value : Option String) : Except UsageError Reading := do
  let r ← r.settle
  match value with
  | none => return { r with waiting := some (field, []), wantsValue := true }
  | some value => return { r with done := ← store r.done field [value] }

/-- The option that asks for JSON. -/
def jsonOption (r : Reading) (value : Option String) : Except UsageError Reading :=
  if value.isSome then .error .unexpectedValue
  else do
    let r ← r.settle
    if r.done.json then throw .repeatedOption
    return { r with done := { r.done with json := true } }

/-- The name of an option and the text behind its equals sign. -/
def splitOption (cs : List Char) : String × Option String :=
  (String.ofList (cs.takeWhile (· ≠ '=')),
    match cs.dropWhile (· ≠ '=') with
    | [] => none
    | _ :: value => some (String.ofList value))

/-- One more argument that begins with two hyphens. -/
def long (r : Reading) (text : String) (cs : List Char) : Except UsageError Reading :=
  let (name, value) := splitOption cs
  if name = "config" then r.option .config value
  else if name = "rom" then r.option .rom value
  else if name = "break-read" then r.option .breakReads value
  else if name = "break-write" then r.option .breakWrites value
  else if name = "json" then r.jsonOption value
  else .error (.unknownOption text)

/-- One more argument. -/
def step (r : Reading) (text : String) : Except UsageError Reading :=
  if r.onlyAddresses then r.addAddress text
  else
    match text.toList with
    | ['-', '-'] => .ok { r with onlyAddresses := true }
    | '-' :: '-' :: cs => r.long text cs
    | '-' :: _ :: _ => .error (.unknownOption text)
    | _ =>
      -- An option that wants a value takes this one, and only this one.
      match r.waiting, r.wantsValue with
      | some (field, values), true =>
        .ok { r with waiting := some (field, values ++ [text]), wantsValue := false }
      | _, _ => r.addAddress text

end Reading

/-- What the arguments ask for. At least one address has to be among them. -/
def Arguments.parse (args : List String) : Except UsageError Arguments := do
  let r ← args.foldlM Reading.step .start
  let r ← r.settle
  if r.done.addresses = [] then throw .noAddress
  return r.done

end Probe

end RegionBus

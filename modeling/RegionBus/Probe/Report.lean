import RegionBus.Machine
import RegionBus.Text.Json

/-!
# Reports

What the probe finds out about an address: the kind of device mapped there, who
serves it, the window it can be reached through past the bus, and the word that
is read. Behind the addresses stand the hits of the breakpoints.

A report is shown as lines of text with columns, or as JSON.

## Main definitions

* `Finding`, `Report`: What was found out.
* `Finding.take`: One address looked at and read.
* `Report.take`: All addresses looked at in turn.
* `Report.text`, `Report.json`: The report shown.
-/

namespace RegionBus

namespace Probe

/-- What was found out about an address. -/
structure Finding where
  /-- The address. -/
  address : UInt32
  /-- The kind of device mapped there. -/
  device : DeviceKind
  /-- The name of the handler that serves it. -/
  handler : String
  /-- The window it lies in. -/
  window : Option String
  /-- The word that was read. -/
  value : UInt32
  deriving DecidableEq, Repr

/-- What was found out about some addresses, and the hits on the way. -/
structure Report where
  /-- The findings, in the order of the addresses. -/
  findings : List Finding
  /-- The hits, the oldest first. -/
  hits : List Hit
  deriving DecidableEq, Repr

variable {X A : Type} [AttachedDevice X A]

/-- An address looked at and read. -/
def Finding.take (s : Machine X A) (a : UInt32) : Finding × Machine X A :=
  let entry := s.bus.entryAt a
  let (value, s) := s.access fun bus p => bus.read32 a p
  ({ address := a
     device := entry.kind
     handler := entry.live.name
     window := (Catalog.standard.windowFor? a).map Window.name
     value := value }, s)

/-- Addresses looked at in turn. -/
def takeFindings (s : Machine X A) : List UInt32 → List Finding × Machine X A
  | [] => ([], s)
  | a :: rest =>
    let (finding, s) := Finding.take s a
    let (findings, s) := takeFindings s rest
    (finding :: findings, s)

/-- All addresses looked at in turn, and the hits that made. -/
def Report.take (s : Machine X A) (addresses : List UInt32) : Report :=
  let (findings, s) := takeFindings s addresses
  ⟨findings, (s.takeHits).1⟩

/-- The kind of access of a hit. -/
def hitKind (h : Hit) : String :=
  if h.flags.contains Flags.write then "write" else "read"

/-- A text with blanks behind it up to a width. -/
def column (width : Nat) (s : String) : String :=
  s ++ String.ofList (List.replicate (width - s.length) ' ')

/-- A finding as a line of text. -/
def Finding.text (f : Finding) : String :=
  Text.hexWord f.address ++ "  " ++ column 14 f.device.name ++ " " ++ column 16 f.handler ++
    " " ++ column 20 (f.window.getD "-") ++ " " ++ Text.hexWord f.value ++ "\n"

/-- A hit as a line of text. -/
def hitText (h : Hit) : String :=
  "breakpoint " ++ h.index.repr ++ " hit: " ++ hitKind h ++ " at " ++ Text.hexWord h.address ++
    "\n"

/-- A report as lines of text. -/
def Report.text (r : Report) : String :=
  String.join (r.findings.map Finding.text ++ r.hits.map hitText)

/-- A finding as JSON. -/
def Finding.json (f : Finding) : Text.Json :=
  .object [
    ("address", .string (Text.hexWord f.address)),
    ("device", .string f.device.name),
    ("handler", .string f.handler),
    ("window", match f.window with
      | some name => .string name
      | none => .null),
    ("value", .string (Text.hexWord f.value))]

/-- A hit as JSON. -/
def hitJson (h : Hit) : Text.Json :=
  .object [
    ("index", .number h.index),
    ("address", .string (Text.hexWord h.address)),
    ("kind", .string (hitKind h))]

/-- A report as JSON. -/
def Report.json (r : Report) : Text.Json :=
  .object [
    ("probes", .array (r.findings.map Finding.json)),
    ("hits", .array (r.hits.map hitJson))]

end Probe

end RegionBus

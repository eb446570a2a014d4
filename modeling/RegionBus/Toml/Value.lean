/-!
# Values and Tables

A document is a table of named values, which may hold further tables. A table
can be written in pieces: under a header of its own, by headers of tables inside
of it, or by dotted keys. What may still be added to a table depends on how it
came to be.

* A table with a header is complete when the next header comes.
* A table implied by the header of an inner one may still get a header.
* A table made by dotted keys takes more dotted keys of the same section, and
  headers of tables inside of it, but no header.
* An inline table is complete at once.

A header in double brackets adds a table to an array of tables. Headers and
dotted keys that lead through such an array mean its last table.

## Main definitions

* `Origin`: How a table came to be.
* `Value`, `Table`: Values, and named values in order.
* `Table.find?`: The value of a key.
* `insert`: A value under a dotted key.
* `addSection`, `addElement`: A section with its header.
-/

namespace RegionBus

namespace Toml

/-- How a table came to be. -/
inductive Origin where
  /-- By a header. -/
  | header
  /-- By a header of a table inside of it. -/
  | implied
  /-- By a dotted key. -/
  | dotted
  /-- Between braces. -/
  | inline
  deriving DecidableEq, Repr

/-- A value. Nothing is kept of a floating point number or a date but that it
    is one. -/
inductive Value where
  | string (s : String)
  | integer (n : Int)
  | float
  | boolean (b : Bool)
  | dateTime
  | array (items : List Value)
  | table (origin : Origin) (entries : List (String × Value))
  | tables (elements : List (List (String × Value)))

/-- Named values, in the order of their first mention. -/
abbrev Table := List (String × Value)

namespace Table

/-- The value of a key. -/
def find? (t : Table) (key : String) : Option Value :=
  (List.find? (fun e => e.1 = key) t).map Prod.snd

/-- The table with the value of a key put in its place, or added. -/
def put (t : Table) (key : String) (v : Value) : Table :=
  if t.any fun e => e.1 = key then t.map fun e => if e.1 = key then (key, v) else e
  else t ++ [(key, v)]

/-- The table with the value of a key made by `f` from the one before. -/
def alter? (t : Table) (key : String) (f : Option Value → Option Value) : Option Table :=
  (f (t.find? key)).map (t.put key)

end Table

/-- The elements of an array of tables with the last one changed by `f`. -/
def changeLast (f : Table → Option Table) : List Table → Option (List Table)
  | [] => none
  | [t] => (f t).map fun t => [t]
  | t :: rest => (changeLast f rest).map fun rest => t :: rest

/-- A table with one more value under a key that dotted keys lead to. `dotted`
    says whether the table itself was made by dotted keys. -/
def insertAt (key : String) (v : Value) (isDotted : Bool) : List String → Bool → Table →
    Option Table
  | [], nested, t =>
    -- A dotted key adds only to tables that dotted keys have made.
    if nested == isDotted then
      t.alter? key fun
        | none => some v
        | some _ => none
    else none
  | k :: path, _, t =>
    t.alter? k fun
      | none => (insertAt key v true path true []).map (.table .dotted)
      | some (.table .dotted inner) =>
        (insertAt key v true path true inner).map (.table .dotted)
      | some (.table .implied inner) =>
        (insertAt key v false path true inner).map (.table .implied)
      | some (.tables elements) =>
        (changeLast (insertAt key v false path true) elements).map .tables
      | some _ => none

/-- A table with one more value under a dotted key. -/
def insert (t : Table) (path : List String) (key : String) (v : Value) : Option Table :=
  insertAt key v false path false t

/-- A table with the value under a header's key made by `f` from the one before.
    The keys in front of it name tables, which are implied if they do not exist. -/
def atHeader (key : String) (f : Option Value → Option Value) : List String → Table →
    Option Table
  | [], t => t.alter? key f
  | k :: path, t =>
    t.alter? k fun
      | none => (atHeader key f path []).map (.table .implied)
      | some (.table .inline _) => none
      | some (.table origin inner) => (atHeader key f path inner).map (.table origin)
      | some (.tables elements) => (changeLast (atHeader key f path) elements).map .tables
      | some _ => none

/-- A table with a section added under a header. `body` makes the section's
    table from what headers inside of it have already put there. -/
def addSection (t : Table) (path : List String) (key : String)
    (body : Table → Option Table) : Option Table :=
  atHeader key (fun
    | none => (body []).map (.table .header)
    | some (.table .implied inner) => (body inner).map (.table .header)
    | some _ => none) path t

/-- A table with a section added as the last element of an array of tables. -/
def addElement (t : Table) (path : List String) (key : String)
    (body : Table → Option Table) : Option Table :=
  atHeader key (fun
    | none => (body []).map fun element => .tables [element]
    | some (.tables elements) => (body []).map fun element => .tables (elements ++ [element])
    | some _ => none) path t

end Toml

end RegionBus

import RegionBus.Toml.Reader

/-!
# Documents

A document is a sequence of lines: values under dotted keys, and headers that
open a section. The values up to the next header belong to the section; those in
front of the first header belong to the document itself.

Reading has two stages. The lines become sections, which is a matter of grammar.
The sections then become one table, which is where keys can clash.

## Main definitions

* `Header`, `Section`: A header, and the values below it.
* `readLines`: The sections of a text.
* `Table.ofSections`: The table that sections make.
* `readDocument`: The table of a text.
-/

namespace RegionBus

namespace Toml

/-- A header. -/
structure Header where
  /-- The keys of the tables around the section. -/
  path : List String
  /-- The key of the section. -/
  key : String
  /-- Whether the section is an element of an array of tables. -/
  isElement : Bool
  deriving DecidableEq, Repr

/-- A value under a dotted key. -/
structure Entry where
  /-- The keys of the tables around the value. -/
  path : List String
  /-- The key of the value. -/
  key : String
  /-- The value. -/
  value : Value

/-- A line of a document. -/
inductive Line where
  | header (h : Header)
  | entry (e : Entry)

/-- What is left at the end of a line, the line end in front: blanks and a comment
    may stand there. -/
def endLine (cs : List Char) : Option (List Char) :=
  match skipComment (skipBlanks cs) with
  | some [] => some []
  | some cs => lineEnd? cs
  | none => none

/-- A header behind its opening brackets, closed by the given ones. -/
def readHeader (isElement : Bool) (cs : List Char) : Option (Line × List Char) :=
  match readKey cs with
  | some ((path, key), ']' :: rest) =>
    if isElement then
      match rest with
      | ']' :: rest => some (.header ⟨path, key, true⟩, rest)
      | _ => none
    else some (.header ⟨path, key, false⟩, rest)
  | _ => none

/-- A line that is not empty, up to its end. -/
def readLine : List Char → Option (Line × List Char)
  | '[' :: '[' :: rest => readHeader true rest
  | '[' :: rest => readHeader false rest
  | cs =>
    match readKey cs with
    | some ((path, key), '=' :: rest) =>
      (readValue (skipBlanks rest)).map fun (v, rest) => (.entry ⟨path, key, v⟩, rest)
    | _ => none

/-- The lines of a document. Every line takes a character, so as many steps as
    there are characters will do. -/
def readLinesIn : Nat → List Char → Option (List Line)
  | 0, _ => none
  | fuel + 1, cs =>
    match skipFiller false cs with
    | some [] => some []
    | some cs =>
      match readLine cs with
      | some (line, rest) =>
        match endLine rest with
        | some rest => (readLinesIn fuel rest).map fun lines => line :: lines
        | none => none
      | none => none
    | none => none

/-- The lines of a document. -/
def readLines (cs : List Char) : Option (List Line) :=
  readLinesIn (cs.length + 1) cs

/-- The values below a header, and the sections that follow. -/
structure Sections where
  /-- The values up to the first header. -/
  entries : List Entry
  /-- The headers with the values below them. -/
  rest : List (Header × List Entry)

/-- Lines grouped by the headers they stand below. -/
def Sections.ofLines : List Line → Sections
  | [] => ⟨[], []⟩
  | .entry e :: lines =>
    let s := Sections.ofLines lines
    ⟨e :: s.entries, s.rest⟩
  | .header h :: lines =>
    let s := Sections.ofLines lines
    ⟨[], (h, s.entries) :: s.rest⟩

/-- A table with values added in order. -/
def Table.addEntries (t : Table) (entries : List Entry) : Option Table :=
  entries.foldlM (fun t e => insert t e.path e.key e.value) t

/-- A table with a section added. -/
def Table.addHeader (t : Table) (h : Header) (entries : List Entry) : Option Table :=
  if h.isElement then addElement t h.path h.key fun t => Table.addEntries t entries
  else addSection t h.path h.key fun t => Table.addEntries t entries

/-- The table that sections make. -/
def Table.ofSections (s : Sections) : Option Table := do
  let t ← Table.addEntries [] s.entries
  s.rest.foldlM (fun t (h, entries) => Table.addHeader t h entries) t

/-- The characters of a text without a byte order mark in front. -/
def dropByteOrderMark : List Char → List Char
  | '\uFEFF' :: cs => cs
  | cs => cs

/-- The table of a text, unless the text is no document. -/
def readDocument (text : String) : Option Table :=
  (readLines (dropByteOrderMark text.toList)).bind fun lines =>
    Table.ofSections (Sections.ofLines lines)

end Toml

end RegionBus

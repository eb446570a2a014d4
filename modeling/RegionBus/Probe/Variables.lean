import RegionBus.Text.Classes

/-!
# Variables Files

A variables file sets environment variables, one `NAME=value` to a line. It never
replaces a variable that the environment has already, and the first line that is
not well formed ends it.

A value may be quoted. Between single quotes every character stands for itself.
Elsewhere a backslash takes the next character as it is, and a dollar sign stands
for a variable, whose name may be put in braces. A line goes on behind its end as
long as a quote or an escape is open. Blanks behind a value may be followed by a
comment.

A name without braces ends at the first character that is neither letter nor
number. That character belongs to the value as it is, even if it is a quote.

## Main definitions

* `Piece`, `Assignment`: A value made of text and variables, and its name.
* `physicalLines`, `logicalLines`: The lines of a file, and lines that go on joined.
* `readPieces`, `readAssignment`: The value and the whole of a line.
* `assignments`: The assignments of a file up to the first fault.
* `Environment`: Variables with their values.
* `Environment.extend`: The environment with a file's variables.
-/

namespace RegionBus

namespace Probe

open Text (isWhiteSpace isAlphanumeric)

/-- A piece of a value. -/
inductive Piece where
  /-- A character that stands for itself. -/
  | char (c : Char)
  /-- The value of a variable. -/
  | variable (name : String)
  deriving DecidableEq, Repr

/-- A name and the value it is set to. -/
structure Assignment where
  name : String
  value : List Piece
  deriving DecidableEq, Repr

/-- What is open at a point of a line. -/
inductive LineState where
  /-- Nothing. -/
  | complete
  /-- Nothing, behind a blank. -/
  | blank
  /-- An escape. -/
  | escape
  /-- A single quote. -/
  | strong
  /-- An escape behind a single quote. -/
  | strongEscape
  /-- A double quote. -/
  | weak
  /-- An escape behind a double quote. -/
  | weakEscape
  deriving DecidableEq, Repr

/-- What is open behind a character. -/
def LineState.next (s : LineState) (c : Char) : LineState :=
  match s with
  | complete =>
    if isWhiteSpace c && c ≠ '\n' && c ≠ '\r' then blank
    else if c = '\\' then escape
    else if c = '"' then weak
    else if c = '\'' then strong
    else complete
  | blank =>
    if c = '\\' then escape
    else if c = '"' then weak
    else if c = '\'' then strong
    else complete
  | escape => complete
  | weak => if c = '\\' then weakEscape else if c = '"' then complete else weak
  | weakEscape => weak
  | strong => if c = '\\' then strongEscape else if c = '\'' then complete else strong
  | strongEscape => strong

/-- What is open at the end of a line, or the part in front of a comment. -/
def scanLine (s : LineState) : List Char → LineState ⊕ List Char
  | [] => .inl s
  | c :: rest =>
    if s = .blank ∧ c = '#' then .inr []
    else
      match scanLine (s.next c) rest with
      | .inl s => .inl s
      | .inr front => .inr (c :: front)

/-- A line without the line end behind it. -/
def dropLastLineEnd (line : List Char) : List Char :=
  if line.getLast? = some '\n' then
    let line := line.dropLast
    if line.getLast? = some '\r' then line.dropLast else line
  else line

/-- The bytes of a file cut behind every line feed. -/
def physicalLines : List UInt8 → List (List UInt8)
  | [] => []
  | b :: rest =>
    if b = 10 then [b] :: physicalLines rest
    else
      match physicalLines rest with
      | [] => [[b]]
      | line :: lines => (b :: line) :: lines

/-- The characters of a line, unless its bytes are no text. -/
def lineText (line : List UInt8) : Option (List Char) :=
  (String.fromUTF8? ⟨line.toArray⟩).map String.toList

/-- Lines joined as long as something is open, without comments and line ends.
    `front` is what is open so far. The last one is missing if it cannot be read. -/
def logicalLines (front : List Char) (s : LineState) :
    List (Option (List Char)) → List (Option (List Char))
  | [] => if s = .complete then [] else [none]
  | none :: _ => [none]
  | some line :: lines =>
    -- Whatever is open, a line of comment closes it.
    if ((front ++ line).dropWhile isWhiteSpace).head? = some '#' then
      some [] :: logicalLines [] .complete lines
    else
      match scanLine s line with
      | .inr code => some (front ++ code) :: logicalLines [] .complete lines
      | .inl .complete => some (dropLastLineEnd (front ++ line)) :: logicalLines [] .complete lines
      | .inl s => logicalLines (front ++ line) s lines

/-- Where a reader stands inside a value. `weak` says whether a double quote is
    open. -/
inductive ValuePlace where
  /-- Between two pieces. -/
  | between (weak : Bool)
  /-- Behind a single quote. -/
  | strong
  /-- Behind a backslash. -/
  | escape (weak : Bool)
  /-- Behind a dollar sign and the start of a name. -/
  | name (weak : Bool) (soFar : List Char)
  /-- The same with the name in braces. -/
  | braced (weak : Bool) (soFar : List Char)
  /-- Behind the value. -/
  | behind

/-- The characters that a backslash takes as they are. -/
def takesEscape (c : Char) : Bool :=
  c = '\\' || c = '\'' || c = '"' || c = '$' || c = ' '

/-- The pieces of a value, unless it is not well formed. -/
def readPieces : ValuePlace → List Char → Option (List Piece)
  | .between weak, [] => if weak then none else some []
  | .strong, [] => none
  | .escape weak, [] => if weak then none else some []
  | .name weak soFar, [] => if weak then none else some [.variable (String.ofList soFar)]
  | .braced _ _, [] => none
  | .behind, [] => some []
  | .behind, c :: rest =>
    if c = ' ' || c = '\t' then readPieces .behind rest
    else if c = '#' then some []
    else none
  | .escape weak, c :: rest =>
    if takesEscape c then (readPieces (.between weak) rest).map (.char c :: ·)
    else if c = 'n' then (readPieces (.between weak) rest).map (.char '\n' :: ·)
    else none
  | .strong, c :: rest =>
    if c = '\'' then readPieces (.between false) rest
    else (readPieces .strong rest).map (.char c :: ·)
  | .name weak soFar, c :: rest =>
    if isAlphanumeric c then readPieces (.name weak (soFar ++ [c])) rest
    else if c = '\x7b' && soFar.isEmpty then readPieces (.braced weak []) rest
    else if c = '$' then
      (readPieces (.name weak []) rest).map (.variable (String.ofList soFar) :: ·)
    else
      -- The character behind the name is taken as it is.
      (readPieces (.between weak) rest).map
        (.variable (String.ofList soFar) :: .char c :: ·)
  | .braced weak soFar, c :: rest =>
    if c = '\x7d' then
      (readPieces (.between weak) rest).map (.variable (String.ofList soFar) :: ·)
    else readPieces (.braced weak (soFar ++ [c])) rest
  | .between weak, c :: rest =>
    if c = '$' then readPieces (.name weak []) rest
    else if c = '\\' then readPieces (.escape weak) rest
    else if weak then
      if c = '"' then readPieces (.between false) rest
      else (readPieces (.between true) rest).map (.char c :: ·)
    else if c = '\'' then readPieces .strong rest
    else if c = '"' then readPieces (.between true) rest
    else if c = ' ' || c = '\t' then readPieces .behind rest
    else (readPieces (.between false) rest).map (.char c :: ·)

/-- What a name can start with. -/
def startsName (c : Char) : Bool :=
  c.isAlpha || c = '_'

/-- What a name is made of. -/
def inName (c : Char) : Bool :=
  c.isAlphanum || c = '_' || c = '.'

/-- A name, and what is left behind it and white space. -/
def readName (cs : List Char) : Option (String × List Char) :=
  if cs.head?.any startsName then
    some (String.ofList (cs.takeWhile inName), (cs.dropWhile inName).dropWhile isWhiteSpace)
  else none

/-- The assignment of a name whose equals sign comes next. -/
def readValueOf (name : String) : List Char → Option Assignment
  | '=' :: rest =>
    match rest.dropWhile isWhiteSpace with
    | [] => some ⟨name, []⟩
    | '#' :: _ => some ⟨name, []⟩
    | cs => (readPieces (.between false) cs).map fun value => ⟨name, value⟩
  | _ => none

/-- The assignment of a line, which may have the word `export` in front. -/
def readAssignment (cs : List Char) : Option Assignment := do
  let (name, rest) ← readName cs
  -- A variable may itself be called `export`.
  if name = "export" ∧ rest.head? ≠ some '=' then
    let (name, rest) ← readName rest
    readValueOf name rest
  else
    readValueOf name rest

/-- A line without white space around it. -/
def trimLine (cs : List Char) : List Char :=
  ((cs.reverse.dropWhile isWhiteSpace).reverse).dropWhile isWhiteSpace

/-- The assignments of lines up to the first fault. Empty lines and comments say
    nothing. -/
def assignmentsOf : List (Option (List Char)) → List Assignment
  | some line :: lines =>
    match trimLine line with
    | [] => assignmentsOf lines
    | '#' :: _ => assignmentsOf lines
    | cs =>
      match readAssignment cs with
      | some a => a :: assignmentsOf lines
      | none => []
  | _ => []

/-- The bytes of a file without a byte order mark in front. -/
def dropMark : List UInt8 → List UInt8
  | 0xEF :: 0xBB :: 0xBF :: rest => rest
  | bytes => bytes

/-- The assignments of a file up to the first fault. -/
def assignments (file : ByteArray) : List Assignment :=
  assignmentsOf (logicalLines [] .complete
    ((physicalLines (dropMark file.data.toList)).map lineText))

/-- The names an assignment mentions: its own and those in its value. -/
def Assignment.names (a : Assignment) : List String :=
  a.name :: a.value.filterMap fun
    | .variable name => some name
    | .char _ => none

/-- Variables with their values. -/
abbrev Environment := List (String × String)

namespace Environment

/-- The value of a variable. -/
def find? (env : Environment) (name : String) : Option String :=
  env.lookup name

/-- The text of a piece; a variable that is not set has none. -/
def expandPiece (env : Environment) : Piece → List Char
  | .char c => [c]
  | .variable name => ((env.find? name).getD "").toList

/-- The text of a value. -/
def expand (env : Environment) (value : List Piece) : String :=
  String.ofList (value.flatMap env.expandPiece)

/-- The environment with an assignment carried out, unless the name is set. -/
def assign (env : Environment) (a : Assignment) : Environment :=
  if (env.find? a.name).isSome then env else (a.name, env.expand a.value) :: env

/-- The environment with a file's variables. -/
def extend (env : Environment) (file : ByteArray) : Environment :=
  (assignments file).foldl assign env

end Environment

end Probe

end RegionBus

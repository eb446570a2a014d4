import RegionBus.Toml.DateTime
import RegionBus.Toml.Number
import RegionBus.Toml.Quoted
import RegionBus.Toml.Value

/-!
# Reading Values

The grammar of keys and values. Every reader takes the characters that are left
and gives what it read and what is left behind it, or nothing if the grammar
does not allow what stands there.

Arrays and inline tables may spread over several lines, with comments between
their parts, and may end in a comma. They may be nested in each other up to a
fixed depth.

## Main definitions

* `readKey`: A dotted key.
* `skipComment`, `skipFiller`: What stands between the parts.
* `scalar?`: The value of a text without quotes or brackets.
* `readValue`: Any value.
-/

namespace RegionBus

namespace Toml

/-- What is left behind a comment, the line end in front. Without a comment
    nothing is skipped. -/
def skipComment : List Char → Option (List Char)
  | '#' :: rest =>
    let left := rest.dropWhile isText
    if left = [] ∨ (lineEnd? left).isSome then some left else none
  | cs => some cs

/-- What is left behind blanks, line ends and comments. `inComment` says whether
    a comment has begun. -/
def skipFiller : Bool → List Char → Option (List Char)
  | _, [] => some []
  | true, c :: rest =>
    if c = '\n' then skipFiller false rest
    else if isText c || (c = '\r' && lineFeedNext rest) then skipFiller true rest
    else none
  | false, c :: rest =>
    if c = '#' then skipFiller true rest
    else if isBlank c || c = '\n' || (c = '\r' && lineFeedNext rest) then
      skipFiller false rest
    else some (c :: rest)

/-- A key without dots: bare, or a one-line string. -/
def readSimpleKey (cs : List Char) : Option (String × List Char) :=
  if cs.head?.any isBareKey then
    some (String.ofList (cs.takeWhile isBareKey), cs.dropWhile isBareKey)
  else
    (readOneLine cs).map fun (s, rest) => (String.ofList s, rest)

/-- The rest of a dotted key behind its first part, with blanks around the dots.
    Every part takes a character, so as many steps as there are characters will do. -/
def readKeyRest : Nat → List Char → Option (List String × List Char)
  | 0, _ => none
  | fuel + 1, cs =>
    match skipBlanks cs with
    | '.' :: rest =>
      match readSimpleKey (skipBlanks rest) with
      | some (part, rest) =>
        (readKeyRest fuel rest).map fun (parts, rest) => (part :: parts, rest)
      | none => none
    | rest => some ([], rest)

/-- A dotted key: its first parts, its last part, and what is left behind blanks. -/
def readKey (cs : List Char) : Option ((List String × String) × List Char) :=
  match readSimpleKey (skipBlanks cs) with
  | some (part, rest) =>
    (readKeyRest (rest.length + 1) rest).map fun (parts, rest) =>
      (((part :: parts).dropLast, parts.getLastD part), rest)
  | none => none

/-- The characters that end a text without quotes. -/
def endsScalar (c : Char) : Bool :=
  isBlank c || c = '\n' || c = '\r' || c = '#' || c = ',' || c = ']' || c = '\x7d'

/-- The value of a text without quotes or brackets. -/
def scalar? (cs : List Char) : Option Value :=
  if cs = ['t', 'r', 'u', 'e'] then some (.boolean true)
  else if cs = ['f', 'a', 'l', 's', 'e'] then some (.boolean false)
  else
    match integer? cs with
    | some n => some (.integer n)
    | none =>
      if isFloat cs then some .float
      else if isDateTime cs then some .dateTime
      else none

/-- The text of a value without quotes or brackets, and what is left behind it.
    A date and a time may be parted by a space. -/
def splitScalar (cs : List Char) : List Char × List Char :=
  let text := cs.takeWhile fun c => !endsScalar c
  let rest := cs.dropWhile fun c => !endsScalar c
  -- The space ends the text unless a date stands in front and a digit behind.
  match rest with
  | ' ' :: c :: left =>
    if isDate text && isDigit c then
      (text ++ ' ' :: (c :: left).takeWhile fun c => !endsScalar c,
        (c :: left).dropWhile fun c => !endsScalar c)
    else (text, rest)
  | _ => (text, rest)

/-- A value without quotes or brackets. -/
def readScalar (cs : List Char) : Option (Value × List Char) :=
  let (text, rest) := splitScalar cs
  (scalar? text).map fun v => (v, rest)

/-- How deeply arrays and inline tables may be nested in each other. -/
def maxNesting : Nat := 80

mutual

/-- A value, inside of which arrays and inline tables may be nested `depth` deep.
    The first argument bounds the number of steps. -/
def readValueIn : Nat → Nat → List Char → Option (Value × List Char)
  | 0, _, _ => none
  | fuel + 1, depth, cs =>
    match cs with
    | '"' :: _ => (readQuoted cs).map fun (s, rest) => (.string (String.ofList s), rest)
    | '\'' :: _ => (readQuoted cs).map fun (s, rest) => (.string (String.ofList s), rest)
    | '[' :: rest =>
      if depth = 0 then none
      else (readItems fuel (depth - 1) rest).map fun (items, rest) => (.array items, rest)
    | '\x7b' :: rest =>
      if depth = 0 then none
      else
        (readMembers fuel (depth - 1) [] rest).map fun (t, rest) => (.table .inline t, rest)
    | _ => readScalar cs

/-- The items of an array, behind its opening bracket or a comma. -/
def readItems : Nat → Nat → List Char → Option (List Value × List Char)
  | 0, _, _ => none
  | fuel + 1, depth, cs =>
    match skipFiller false cs with
    | some (']' :: rest) => some ([], rest)
    | some cs =>
      match readValueIn fuel depth cs with
      | some (v, rest) =>
        match skipFiller false rest with
        | some (',' :: rest) =>
          (readItems fuel depth rest).map fun (items, rest) => (v :: items, rest)
        | some (']' :: rest) => some ([v], rest)
        | _ => none
      | none => none
    | none => none

/-- The members of an inline table, behind its opening brace or a comma, added to
    those in `t`. -/
def readMembers : Nat → Nat → Table → List Char → Option (Table × List Char)
  | 0, _, _, _ => none
  | fuel + 1, depth, t, cs =>
    match skipFiller false cs with
    | some ('\x7d' :: rest) => some (t, rest)
    | some cs =>
      match readKey cs with
      | some ((path, key), '=' :: rest) =>
        match readValueIn fuel depth (skipBlanks rest) with
        | some (v, rest) =>
          match insert t path key v, skipFiller false rest with
          | some t, some (',' :: rest) => readMembers fuel depth t rest
          | some t, some ('\x7d' :: rest) => some (t, rest)
          | _, _ => none
        | none => none
      | _ => none
    | none => none

end

/-- A value of any kind. Every step but two in a row takes a character. -/
def readValue (cs : List Char) : Option (Value × List Char) :=
  readValueIn (2 * cs.length + 2) maxNesting cs

end Toml

end RegionBus

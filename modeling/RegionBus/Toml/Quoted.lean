import RegionBus.Toml.Chars

/-!
# Quoted Strings

The four ways a document writes a string. Between double quotes backslashes
introduce escapes; between single quotes every character stands for itself.
Three quotes instead of one open a string of several lines. It ends at the next
three quotes; one or two quotes right behind them still belong to it. A line end
directly behind the opening quotes is dropped. A backslash at the end of a line
of such a string drops everything up to the next character that is not blank.

Every reader takes what stands behind the opening quotes and gives the string
and what is left behind the closing ones.

## Main definitions

* `readBasic`, `readLiteral`: One-line strings.
* `readBasicLines`, `readLiteralLines`: Strings of several lines.
* `readQuoted`: A string of any kind, its opening quotes included.
-/

namespace RegionBus

namespace Toml

/-- What stands behind a backslash: the character meant, or how many hexadecimal
    digits of its code point follow. -/
inductive Escape where
  | char (c : Char)
  | codePoint (digits : Nat)
  deriving DecidableEq, Repr

/-- The escape that a character behind a backslash introduces. -/
def escape? : Char → Option Escape
  | 'b' => some (.char '\x08')
  | 't' => some (.char '\t')
  | 'n' => some (.char '\n')
  | 'f' => some (.char '\x0c')
  | 'r' => some (.char '\r')
  | 'e' => some (.char '\x1b')
  | '"' => some (.char '"')
  | '\\' => some (.char '\\')
  | 'x' => some (.codePoint 2)
  | 'u' => some (.codePoint 4)
  | 'U' => some (.codePoint 8)
  | _ => none

/-- The character of a code point, unless it is none. -/
def character? (n : Nat) : Option Char :=
  if n.isValidChar then some (Char.ofNat n) else none

/-- Where a reader stands inside a string with escapes. -/
inductive Place where
  /-- Between two characters. -/
  | plain
  /-- Behind a backslash. -/
  | escape
  /-- Inside a code point, with `left + 1` digits to come and `value` read. -/
  | codePoint (left value : Nat)
  /-- Behind a backslash at the end of a line, before that end. -/
  | lineTail
  /-- Behind such a line end, before the next character that is not blank. -/
  | indent
  deriving DecidableEq, Repr

/-- A character put in front of the string that was read. -/
def emit (c : Char) (read : Option (List Char × List Char)) : Option (List Char × List Char) :=
  read.map fun (s, rest) => (c :: s, rest)

/-- A one-line string with escapes. -/
def readBasic : Place → List Char → Option (List Char × List Char)
  | _, [] => none
  | .plain, c :: rest =>
    if c = '"' then some ([], rest)
    else if c = '\\' then readBasic .escape rest
    else if isText c then emit c (readBasic .plain rest)
    else none
  | .escape, c :: rest =>
    match escape? c with
    | some (.char c) => emit c (readBasic .plain rest)
    | some (.codePoint digits) => readBasic (.codePoint (digits - 1) 0) rest
    | none => none
  | .codePoint left value, c :: rest =>
    match digit? 16 c, left with
    | some d, 0 =>
      match character? (value * 16 + d) with
      | some c => emit c (readBasic .plain rest)
      | none => none
    | some d, left + 1 => readBasic (.codePoint left (value * 16 + d)) rest
    | none, _ => none
  | .lineTail, _ :: _ => none
  | .indent, _ :: _ => none

/-- A one-line string without escapes. -/
def readLiteral : List Char → Option (List Char × List Char)
  | [] => none
  | c :: rest =>
    if c = '\'' then some ([], rest)
    else if isText c then emit c (readLiteral rest)
    else none

/-- How many of the next four characters, from the first on, are the quote. -/
def moreQuotes (quote : Char) (rest : List Char) : Nat :=
  ((rest.take 4).takeWhile (· = quote)).length

/-- The end of a string of several lines behind its first closing quote, `more`
    further quotes following: all but three of the quotes belong to the string. -/
def closeLines (quote : Char) (more : Nat) (rest : List Char) : List Char × List Char :=
  (List.replicate (more - 2) quote, rest.drop more)

/-- Whether a line end or blanks come next. -/
def blankNext (rest : List Char) : Bool :=
  rest.head?.any fun c => isBlank c || c = '\n' || c = '\r'

/-- Whether a line feed comes next. -/
def lineFeedNext (rest : List Char) : Bool :=
  rest.head? == some '\n'

/-- A string of several lines with escapes. -/
def readBasicLines : Place → List Char → Option (List Char × List Char)
  | _, [] => none
  | .plain, c :: rest =>
    -- A single quote, or two of them, are part of the string.
    if c = '"' then
      if 2 ≤ moreQuotes '"' rest then some (closeLines '"' (moreQuotes '"' rest) rest)
      else emit c (readBasicLines .plain rest)
    else if c = '\\' then
      if blankNext rest then readBasicLines .lineTail rest else readBasicLines .escape rest
    else if isText c || c = '\n' || (c = '\r' && lineFeedNext rest) then
      emit c (readBasicLines .plain rest)
    else none
  | .escape, c :: rest =>
    match escape? c with
    | some (.char c) => emit c (readBasicLines .plain rest)
    | some (.codePoint digits) => readBasicLines (.codePoint (digits - 1) 0) rest
    | none => none
  | .codePoint left value, c :: rest =>
    match digit? 16 c, left with
    | some d, 0 =>
      match character? (value * 16 + d) with
      | some c => emit c (readBasicLines .plain rest)
      | none => none
    | some d, left + 1 => readBasicLines (.codePoint left (value * 16 + d)) rest
    | none, _ => none
  -- Only blanks may stand between the backslash and the end of its line.
  | .lineTail, c :: rest =>
    if isBlank c || (c = '\r' && lineFeedNext rest) then readBasicLines .lineTail rest
    else if c = '\n' then
      readBasicLines (if blankNext rest then .indent else .plain) rest
    else none
  | .indent, c :: rest =>
    if isBlank c || c = '\n' || (c = '\r' && lineFeedNext rest) then
      readBasicLines (if blankNext rest then .indent else .plain) rest
    else none

/-- A string of several lines without escapes. -/
def readLiteralLines : List Char → Option (List Char × List Char)
  | [] => none
  | c :: rest =>
    if c = '\'' then
      if 2 ≤ moreQuotes '\'' rest then some (closeLines '\'' (moreQuotes '\'' rest) rest)
      else emit c (readLiteralLines rest)
    else if isText c || c = '\n' || (c = '\r' && lineFeedNext rest) then
      emit c (readLiteralLines rest)
    else none

/-- What is left behind the line end that may follow opening quotes. -/
def dropLineEnd (cs : List Char) : List Char :=
  (lineEnd? cs).getD cs

/-- A one-line string of either kind, its opening quote included. -/
def readOneLine : List Char → Option (List Char × List Char)
  | '"' :: rest => readBasic .plain rest
  | '\'' :: rest => readLiteral rest
  | _ => none

/-- A string of any kind, its opening quotes included. -/
def readQuoted : List Char → Option (List Char × List Char)
  | '"' :: '"' :: '"' :: rest => readBasicLines .plain (dropLineEnd rest)
  | '\'' :: '\'' :: '\'' :: rest => readLiteralLines (dropLineEnd rest)
  | cs => readOneLine cs

end Toml

end RegionBus

import RegionBus.Toml.Chars

/-!
# How Strings Are Written

A string is written in the plainest of four styles that can hold it: between
double quotes, between single quotes, or over several lines in either kind of
quotes. Only a string that none of these can hold as it is gets escapes.

## Main definitions

* `Style`: The four styles.
* `styleOf`: The style of a string.
* `escaped`: A string with escapes.
* `writeQuoted`: A string with its quotes.
-/

namespace RegionBus

namespace Toml

/-- A way to write a string. -/
inductive Style where
  /-- Between double quotes. -/
  | basic
  /-- Between single quotes. -/
  | literal
  /-- Over several lines, between double quotes. -/
  | basicLines
  /-- Over several lines, between single quotes. -/
  | literalLines
  deriving DecidableEq, Repr

/-- Whether a character can be written only as an escape. -/
def needsEscape (c : Char) : Bool :=
  c ≠ '\t' && c ≠ '\n' && (c.toNat < 0x20 || c.toNat = 0x7F)

/-- The length of the longest run of a character, `run` of them standing in front
    already. -/
def longestRun (c : Char) (run : Nat) : List Char → Nat
  | [] => run
  | d :: rest => if d = c then longestRun c (run + 1) rest else max run (longestRun c 0 rest)

/-- The style of a string. -/
def styleOf (cs : List Char) : Style :=
  let plain := !cs.any needsEscape
  let doubles := longestRun '"' 0 cs
  let singles := longestRun '\'' 0 cs
  let backslash := cs.contains '\\'
  let lines := cs.contains '\n'
  if plain && !backslash && doubles = 0 && !lines then .basic
  else if plain && singles = 0 && !lines then .literal
  else if plain && !backslash && doubles ≤ 2 then .basicLines
  else if plain && singles ≤ 2 then .literalLines
  else if lines then .basicLines
  else .basic

/-- A code point in four hexadecimal digits. -/
def fourDigits (n : Nat) : List Char :=
  ((Nat.toDigits 16 n).map Char.toUpper).leftpad 4 '0'

/-- How a character other than a quote is written between double quotes. Line
    ends stay as they are in a string of several lines. -/
def escapedChar (lines : Bool) (c : Char) : List Char :=
  if c = '\x08' then ['\\', 'b']
  else if c = '\t' then ['\\', 't']
  else if c = '\n' then if lines then ['\n'] else ['\\', 'n']
  else if c = '\x0c' then ['\\', 'f']
  else if c = '\r' then ['\\', 'r']
  else if c = '\\' then ['\\', '\\']
  else if c.toNat < 0x20 || c.toNat = 0x7F then ['\\', 'u'] ++ fourDigits c.toNat
  else [c]

/-- A string as it stands between double quotes. Over several lines, two quotes
    in a row may stay, `run` of them standing in front already. -/
def escaped (lines : Bool) (run : Nat) : List Char → List Char
  | [] => []
  | c :: rest =>
    if c = '"' then
      if run < (if lines then 2 else 0) then c :: escaped lines (run + 1) rest
      else '\\' :: '"' :: escaped lines 0 rest
    else escapedChar lines c ++ escaped lines 0 rest

/-- The line end that opens a string that has one. -/
def openingLineEnd (cs : List Char) : List Char :=
  if cs.contains '\n' then ['\n'] else []

/-- A string with its quotes, in a given style. -/
def writeIn (style : Style) (cs : List Char) : List Char :=
  match style with
  | .basic => ['"'] ++ escaped false 0 cs ++ ['"']
  | .literal => ['\''] ++ cs ++ ['\'']
  | .basicLines => ['"', '"', '"'] ++ openingLineEnd cs ++ escaped true 0 cs ++ ['"', '"', '"']
  | .literalLines => ['\'', '\'', '\''] ++ openingLineEnd cs ++ cs ++ ['\'', '\'', '\'']

/-- A string with its quotes. -/
def writeQuoted (cs : List Char) : List Char :=
  writeIn (styleOf cs) cs

end Toml

end RegionBus

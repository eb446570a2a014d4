/-!
# Characters of a Document

The classes of characters that the grammar of configuration documents is made
of. Controls other than tabs and line ends appear nowhere in a document, not
even in comments and strings; characters outside of ASCII appear in those alone.

## Main definitions

* `isBlank`: Space and tab.
* `isText`: What may stand in a comment or a one-line string.
* `isBareKey`: What a key without quotes is made of.
* `digit?`, `hexDigit?`: The value of a digit.
* `lineEnd?`: What is left behind a line end.
-/

namespace RegionBus

namespace Toml

/-- Space and tab. -/
def isBlank (c : Char) : Bool :=
  c = ' ' || c = '\t'

/-- What may stand in a comment or a one-line string: tabs, and everything but
    controls. -/
def isText (c : Char) : Bool :=
  c = '\t' || (0x20 ≤ c.toNat && c.toNat ≠ 0x7F)

/-- The value of a digit in a base up to sixteen, letters in either case. -/
def digit? (base : Nat) (c : Char) : Option Nat :=
  let value :=
    if '0' ≤ c ∧ c ≤ '9' then c.toNat - '0'.toNat
    else if 'a' ≤ c ∧ c ≤ 'f' then c.toNat - 'a'.toNat + 10
    else if 'A' ≤ c ∧ c ≤ 'F' then c.toNat - 'A'.toNat + 10
    else 16
  if value < base then some value else none

/-- Decimal digits. -/
def isDigit (c : Char) : Bool :=
  (digit? 10 c).isSome

/-- What a key without quotes is made of. -/
def isBareKey (c : Char) : Bool :=
  isDigit c || ('a' ≤ c && c ≤ 'z') || ('A' ≤ c && c ≤ 'Z') || c = '_' || c = '-'

/-- What is left behind a line end, if there is one. -/
def lineEnd? : List Char → Option (List Char)
  | '\n' :: rest => some rest
  | '\r' :: '\n' :: rest => some rest
  | _ => none

/-- What is left behind blanks. -/
def skipBlanks (cs : List Char) : List Char :=
  cs.dropWhile isBlank

end Toml

end RegionBus

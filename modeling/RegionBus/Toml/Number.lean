import RegionBus.Toml.Chars

/-!
# Numbers

Integers are written in decimal, with or without a sign, or in hexadecimal,
octal or binary without one. Floating point numbers have a fraction, an exponent
or both. Underscores may stand between two digits. Decimal numbers have no
leading zeros.

An integer is taken if 128 bits can hold it, signed or unsigned. A floating
point number is taken unless it would round to infinity in double precision.

## Main definitions

* `readNumber`: The value of digits with underscores between them.
* `integer?`: The value of an integer.
* `isFloat`: Whether a text is a floating point number.
-/

namespace RegionBus

namespace Toml

/-- The value of digits in a base, with single underscores between them allowed.
    `digitBefore` says whether a digit stands in front. -/
def readNumber (base value : Nat) (digitBefore : Bool) : List Char → Option Nat
  | [] => if digitBefore then some value else none
  | c :: rest =>
    if c = '_' then
      if digitBefore then readNumber base value false rest else none
    else
      match digit? base c with
      | some d => readNumber base (value * base + d) true rest
      | none => none

/-- The value of a decimal number without a sign. -/
def readDecimal (cs : List Char) : Option Nat :=
  match cs with
  | '0' :: _ :: _ => none
  | cs => readNumber 10 0 false cs

/-- The value of an integer, whatever its size. -/
def readInteger : List Char → Option Int
  | '+' :: cs => (readDecimal cs).map fun n => (n : Int)
  | '-' :: cs => (readDecimal cs).map fun n => -(n : Int)
  | '0' :: 'x' :: cs => (readNumber 16 0 false cs).map fun n => (n : Int)
  | '0' :: 'o' :: cs => (readNumber 8 0 false cs).map fun n => (n : Int)
  | '0' :: 'b' :: cs => (readNumber 2 0 false cs).map fun n => (n : Int)
  | cs => (readDecimal cs).map fun n => (n : Int)

/-- The value of an integer that 128 bits can hold. -/
def integer? (cs : List Char) : Option Int :=
  (readInteger cs).filter fun n =>
    -0x80000000000000000000000000000000 ≤ n ∧ n < 0x100000000000000000000000000000000

/-- The smallest number that rounds to infinity in double precision: halfway
    between the largest finite one and the next power of two. -/
def overflowBound : Nat :=
  0x3FFFFFFFFFFFFF <<< 970

/-- Whether `m * 10 ^ e` rounds to infinity in double precision. Decimals far from
    the bound are told by their number of digits. -/
def overflows (m : Nat) (e : Int) : Bool :=
  -- The number lies between the powers of ten `magnitude - 1` and `magnitude`.
  let magnitude := (Nat.toDigits 10 m).length + e
  if m = 0 || magnitude ≤ 308 then false
  else if 309 < magnitude then true
  else if 0 ≤ e then overflowBound ≤ m * Nat.pow 10 e.toNat
  else overflowBound * Nat.pow 10 (-e).toNat ≤ m

/-- The value of an exponent, behind its letter. -/
def readExponent : List Char → Option Int
  | '+' :: cs => (readNumber 10 0 false cs).map fun n => (n : Int)
  | '-' :: cs => (readNumber 10 0 false cs).map fun n => -(n : Int)
  | cs => (readNumber 10 0 false cs).map fun n => (n : Int)

/-- Digits and the underscores between them. -/
def isDigitOrMark (c : Char) : Bool :=
  isDigit c || c = '_'

/-- The number of digits among digits and underscores. -/
def countDigits (cs : List Char) : Nat :=
  cs.countP isDigit

/-- Whether a text without a sign is a finite floating point number. -/
def isFiniteFloat (cs : List Char) : Bool :=
  let whole := cs.takeWhile isDigitOrMark
  let rest := cs.dropWhile isDigitOrMark
  match readDecimal whole, rest with
  | some w, '.' :: rest =>
    let part := rest.takeWhile isDigitOrMark
    match readNumber 10 0 false part, rest.dropWhile isDigitOrMark with
    | some _, [] => !overflows ((readNumber 10 w true part).getD 0) (-(countDigits part : Int))
    | some _, c :: rest =>
      (c = 'e' || c = 'E') && match readExponent rest with
        | some e => !overflows ((readNumber 10 w true part).getD 0) (e - countDigits part)
        | none => false
    | none, _ => false
  | some w, c :: rest =>
    (c = 'e' || c = 'E') && match readExponent rest with
      | some e => !overflows w e
      | none => false
  | _, _ => false

/-- A text without its sign. -/
def dropSign : List Char → List Char
  | '+' :: cs => cs
  | '-' :: cs => cs
  | cs => cs

/-- Whether a text is a floating point number, infinity or not a number. -/
def isFloat (cs : List Char) : Bool :=
  let cs := dropSign cs
  cs = ['i', 'n', 'f'] || cs = ['n', 'a', 'n'] || isFiniteFloat cs

end Toml

end RegionBus

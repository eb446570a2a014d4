import RegionBus.Toml.Chars

/-!
# Addresses on the Command Line

An address is written in decimal, or in hexadecimal behind `0x`. In hexadecimal
underscores may stand anywhere behind `0x` and say nothing. A plus sign may stand
in front of the digits. Digits are read from left to right, and the first one
that is no digit or takes the value past 32 bits decides what is wrong.

## Main definitions

* `NumberFault`: What is wrong with a number.
* `readDigits`, `readNumber?`: The value of digits, and of a number with its sign.
* `parseAddress`: The value of an address.
-/

namespace RegionBus

namespace Probe

/-- What is wrong with a number. -/
inductive NumberFault where
  /-- There is nothing. -/
  | empty
  /-- There is something that is no digit. -/
  | notDigit
  /-- It does not fit 32 bits. -/
  | tooLarge
  deriving DecidableEq, Repr

/-- The text of a fault. -/
def NumberFault.message : NumberFault → String
  | empty => "cannot parse integer from empty string"
  | notDigit => "invalid digit found in string"
  | tooLarge => "number too large to fit in target type"

/-- The value of digits that follow those of `value`. -/
def readDigits (base value : Nat) : List Char → Except NumberFault Nat
  | [] => .ok value
  | c :: rest =>
    match Toml.digit? base c with
    | none => .error .notDigit
    | some d =>
      if value * base + d < 0x100000000 then readDigits base (value * base + d) rest
      else .error .tooLarge

/-- The value of a number that may have a plus sign. -/
def readNumber (base : Nat) : List Char → Except NumberFault Nat
  | [] => .error .empty
  | ['+'] => .error .notDigit
  | '+' :: rest => readDigits base 0 rest
  | cs => readDigits base 0 cs

/-- The value of an address. -/
def parseAddress (text : String) : Except NumberFault UInt32 :=
  let number :=
    match text.toList with
    | '0' :: 'x' :: rest => readNumber 16 (rest.filter (· ≠ '_'))
    | '0' :: 'X' :: rest => readNumber 16 (rest.filter (· ≠ '_'))
    | cs => readNumber 10 cs
  number.map UInt32.ofNat

end Probe

end RegionBus

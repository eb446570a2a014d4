/-!
# Hexadecimal Numerals

How numbers are written in messages and reports: upper case digits, without a
`0x` in front, padded with zeros on the left to a given width. A number that
needs more digits than the width keeps all of them.

## Main definitions

* `hexNumeral`: The digits of a number, most significant first.
* `hexPadded`: The digits padded to a width.
* `hexWord`: A 32-bit word as `0x` and eight digits.
-/

namespace RegionBus

namespace Text

/-- The upper case hexadecimal digits of a number, most significant first. -/
def hexNumeral (n : Nat) : List Char :=
  (Nat.toDigits 16 n).map Char.toUpper

/-- The hexadecimal digits of a number, with zeros in front up to `width`. -/
def hexPadded (width n : Nat) : String :=
  String.ofList ((hexNumeral n).leftpad width '0')

/-- A 32-bit word the way addresses are written: `0x` and eight digits. -/
def hexWord (w : UInt32) : String :=
  "0x" ++ hexPadded 8 w.toNat

end Text

end RegionBus

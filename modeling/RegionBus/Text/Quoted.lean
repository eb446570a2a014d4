import RegionBus.Text.Unprintable

/-!
# Quoted Text

How a name is shown inside a description: between double quotes, with quotes and
backslashes escaped, and with characters that could not be seen written by name
or by number.

## Main definitions

* `escapeChar`: How one character is written.
* `quoted`: A text between quotes.
-/

namespace RegionBus

namespace Text

/-- How one character is written between quotes. -/
def escapeChar (c : Char) : List Char :=
  if c = '\x00' then ['\\', '0']
  else if c = '\t' then ['\\', 't']
  else if c = '\r' then ['\\', 'r']
  else if c = '\n' then ['\\', 'n']
  else if c = '"' then ['\\', '"']
  else if c = '\\' then ['\\', '\\']
  else if isUnprintable c then
    ['\\', 'u', '\x7b'] ++ Nat.toDigits 16 c.toNat ++ ['\x7d']
  else [c]

/-- A text between double quotes. -/
def quoted (s : String) : String :=
  String.ofList ('"' :: s.toList.flatMap escapeChar ++ ['"'])

end Text

end RegionBus

/-!
# JSON Text

How reports are written as JSON, with two spaces for each level and one member
or item on a line. Empty arrays stay on one line.

## Main definitions

* `Json`: The values that reports are made of.
* `jsonString`: A string with its quotes and escapes.
* `Json.render`: The text of a value.
-/

namespace RegionBus

namespace Text

/-- The values that reports are made of. -/
inductive Json where
  | null
  | number (n : Nat)
  | string (s : String)
  | array (items : List Json)
  | object (members : List (String × Json))

/-- How one character is written in a string. -/
def jsonChar (c : Char) : List Char :=
  if c = '"' then ['\\', '"']
  else if c = '\\' then ['\\', '\\']
  else if c = '\x08' then ['\\', 'b']
  else if c = '\t' then ['\\', 't']
  else if c = '\n' then ['\\', 'n']
  else if c = '\x0c' then ['\\', 'f']
  else if c = '\r' then ['\\', 'r']
  else if c.toNat < 0x20 then ['\\', 'u'] ++ (Nat.toDigits 16 c.toNat).leftpad 4 '0'
  else [c]

/-- A string with its quotes and escapes. -/
def jsonString (s : String) : String :=
  String.ofList ('"' :: s.toList.flatMap jsonChar ++ ['"'])

/-- A line end, and the spaces that open a line at a level. -/
def jsonLine (level : Nat) : String :=
  String.ofList ('\n' :: List.replicate (2 * level) ' ')

namespace Json

mutual

/-- The text of a value at a level. -/
def renderAt (level : Nat) : Json → String
  | null => "null"
  | number n => n.repr
  | string s => jsonString s
  | array [] => "[]"
  | array (item :: items) =>
    "[" ++ jsonLine (level + 1) ++ renderAt (level + 1) item ++ renderItems (level + 1) items ++
      jsonLine level ++ "]"
  | object [] => "\x7b\x7d"
  | object ((key, v) :: members) =>
    "\x7b" ++ jsonLine (level + 1) ++ jsonString key ++ ": " ++ renderAt (level + 1) v ++
      renderMembers (level + 1) members ++ jsonLine level ++ "\x7d"

/-- The text of the items behind the first one. -/
def renderItems (level : Nat) : List Json → String
  | [] => ""
  | item :: items => "," ++ jsonLine level ++ renderAt level item ++ renderItems level items

/-- The text of the members behind the first one. -/
def renderMembers (level : Nat) : List (String × Json) → String
  | [] => ""
  | (key, v) :: members =>
    "," ++ jsonLine level ++ jsonString key ++ ": " ++ renderAt level v ++
      renderMembers level members

end

/-- The text of a value. -/
def render (j : Json) : String :=
  renderAt 0 j

end Json

end Text

end RegionBus

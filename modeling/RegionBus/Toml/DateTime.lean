import RegionBus.Toml.Chars

/-!
# Dates and Times

A document can hold dates, times of day, and both together with or without an
offset from universal time. Nothing here makes use of their values, but a
document with one that does not exist is refused: months have their days, leap
years are observed, a minute may have a leap second. Seconds may be left out.

## Main definitions

* `isDateTime`: Whether a text is a date, a time, or both.
-/

namespace RegionBus

namespace Toml

/-- A number of exactly `n` digits, and what is left behind it. -/
def readDigits (n : Nat) (cs : List Char) : Option (Nat × List Char) :=
  let digits := cs.take n
  if digits.length = n ∧ digits.all isDigit then
    some (digits.foldl (fun v c => v * 10 + (c.toNat - '0'.toNat)) 0, cs.drop n)
  else
    none

/-- What is left behind a given character. -/
def readChar (c : Char) : List Char → Option (List Char)
  | d :: rest => if d = c then some rest else none
  | [] => none

/-- The number of days of a month. -/
def daysIn (year month : Nat) : Nat :=
  if month = 2 then
    if year % 4 = 0 ∧ (year % 100 ≠ 0 ∨ year % 400 = 0) then 29 else 28
  else if month = 4 ∨ month = 6 ∨ month = 9 ∨ month = 11 then 30
  else 31

/-- What is left behind a date. -/
def readDate (cs : List Char) : Option (List Char) := do
  let (year, cs) ← readDigits 4 cs
  let cs ← readChar '-' cs
  let (month, cs) ← readDigits 2 cs
  let cs ← readChar '-' cs
  let (day, cs) ← readDigits 2 cs
  if 1 ≤ month ∧ month ≤ 12 ∧ 1 ≤ day ∧ day ≤ daysIn year month then some cs else none

/-- What is left behind a fraction of a second, if one is there. -/
def readFraction : List Char → Option (List Char)
  | '.' :: cs => if cs.head?.any isDigit then some (cs.dropWhile isDigit) else none
  | cs => some cs

/-- What is left behind the seconds, if they are there. -/
def readSeconds : List Char → Option (List Char)
  | ':' :: cs => do
    let (second, cs) ← readDigits 2 cs
    if second ≤ 60 then readFraction cs else none
  | cs => some cs

/-- What is left behind hours and minutes. -/
def readHourMinute (cs : List Char) : Option (List Char) := do
  let (hour, cs) ← readDigits 2 cs
  let cs ← readChar ':' cs
  let (minute, cs) ← readDigits 2 cs
  if hour ≤ 23 ∧ minute ≤ 59 then some cs else none

/-- What is left behind a time of day. -/
def readTime (cs : List Char) : Option (List Char) :=
  (readHourMinute cs).bind readSeconds

/-- What is left behind an offset from universal time, if one is there. -/
def readOffset : List Char → Option (List Char)
  | 'Z' :: cs => some cs
  | 'z' :: cs => some cs
  | '+' :: cs => readHourMinute cs
  | '-' :: cs => readHourMinute cs
  | cs => some cs

/-- What is left behind the time that may follow a date. -/
def readTimeOfDate : List Char → Option (List Char)
  | [] => some []
  | c :: cs =>
    if c = 'T' ∨ c = 't' ∨ c = ' ' then (readTime cs).bind readOffset else none

/-- Whether a text is a date and nothing else. -/
def isDate (cs : List Char) : Bool :=
  readDate cs == some []

/-- Whether a text is a date, a time, or both. -/
def isDateTime (cs : List Char) : Bool :=
  (readDate cs).bind readTimeOfDate == some [] || readTime cs == some []

end Toml

end RegionBus

import RegionBus.Probe.Arguments
import RegionBus.Proofs.Probe.Numerals

/-!
# Addresses Read and Written

An address is a hexadecimal number behind `0x` or `0X`, or else a decimal number. It is taken
iff its number is one and is in the range of words, and then it is that word. Anything else is
refused, and the message has the text as it was given.

Behind the prefix underscores do not count, wherever they stand, and as many as there are.
`Marked` puts them in one by one, so nothing has to be said about where they may be. In a
decimal number an underscore is no digit and does count.

The reports of the probe write addresses with a prefix and eight digits. What they write can
be given back to the probe, with underscores between the digits if that is easier to read.

## Main definitions

* `HexBehind`: A text begins with the prefix of hexadecimal numbers.
* `ReadAs`: A text is read as a number in a base.
* `Marked`: Characters with underscores put in.
* `AddressLaw`, `WrittenLaw`: How addresses are read, and read back.

## Theorems

* `address_eq_ok_iff`, `address_eq_error_iff`: What reading an address owes to its number.
* `readAs_of_eq`: A text is read as the number that is found in it.
* `Marked.filter_eq`: Underscores do not count.
* `address_law`: Every text is read as it should be, and every word is read back.
-/

namespace RegionBus

namespace Probe

variable {text : String} {base : Nat} {cs : List Char}

/-- A text begins with the prefix of hexadecimal numbers, and has some characters behind it. -/
def HexBehind (text : String) (rest : List Char) : Prop :=
  text.toList = '0' :: 'x' :: rest ∨ text.toList = '0' :: 'X' :: rest

/-- A text is read as the number that some characters spell in a base. -/
structure ReadAs (text : String) (base : Nat) (cs : List Char) : Prop where
  /-- It is taken as a word iff the characters are a number with the value of the word. -/
  accepted_iff : ∀ a, Reading.address text = .ok a ↔ SignedNumeral base cs a.toNat
  /-- If there is no such word, it is refused with a message that quotes it. -/
  refused : (¬ ∃ a : UInt32, SignedNumeral base cs a.toNat) →
    ∃ fault, Reading.address text = .error (.badAddress text fault) ∧
      (UsageError.badAddress text fault).message =
        "invalid address '" ++ text ++ "': " ++ fault.message
  /-- It is found to be empty iff there are no characters. -/
  empty_iff : Reading.address text = .error (.badAddress text .empty) ↔ cs = []
  /-- It is found to be too large iff the characters begin with a number that is no word. -/
  tooLarge_iff : Reading.address text = .error (.badAddress text .tooLarge) ↔
    ∃ front v, front <+: cs ∧ SignedNumeral base front v ∧ 0x100000000 ≤ v

/-- Characters with underscores put in. -/
inductive Marked : List Char → List Char → Prop
  /-- There are no more. -/
  | nil : Marked [] []
  /-- A character is kept. -/
  | keep (c : Char) {plain marked : List Char} :
      Marked plain marked → Marked (c :: plain) (c :: marked)
  /-- An underscore is put in. -/
  | mark {plain marked : List Char} : Marked plain marked → Marked plain ('_' :: marked)

/-- How a text is read as an address. -/
structure AddressLaw (text : String) : Prop where
  /-- Behind the prefix it is a hexadecimal number, and underscores do not count. -/
  hexadecimal : ∀ rest, HexBehind text rest → ReadAs text 16 (rest.filter (· ≠ '_'))
  /-- Without the prefix it is a decimal number. -/
  decimal : (∀ rest, ¬ HexBehind text rest) → ReadAs text 10 text.toList
  /-- Underscores can be put in anywhere behind the prefix. -/
  marks : ∀ marked plain other, HexBehind text plain → HexBehind other marked →
    Marked plain marked → parseAddress other = parseAddress text

/-- How a word that was written is read back. -/
structure WrittenLaw (a : UInt32) : Prop where
  /-- It is read back as it was written. -/
  plain : Reading.address (Text.hexWord a) = .ok a
  /-- It is read back with underscores among its digits. -/
  marked : ∀ marked, Marked (Text.hexPadded 8 a.toNat).toList marked →
    Reading.address (String.ofList ('0' :: 'x' :: marked)) = .ok a

theorem parseAddress_of_hexBehind {rest : List Char} (h : HexBehind text rest) :
    parseAddress text = (readNumber 16 (rest.filter (· ≠ '_'))).map UInt32.ofNat := by
  rcases h with h | h
  all_goals
    rw [parseAddress, h]
    rfl

theorem parseAddress_of_not_hexBehind (h : ∀ rest, ¬ HexBehind text rest) :
    parseAddress text = (readNumber 10 text.toList).map UInt32.ofNat := by
  unfold parseAddress
  split
  · next rest heq => exact absurd (.inl heq) (h rest)
  · next rest heq => exact absurd (.inr heq) (h rest)
  · rfl

section Reading

variable (h : parseAddress text = (readNumber base cs).map UInt32.ofNat)
include h

/-- What is read is the number as a word, and it is never cut. -/
theorem address_eq_ok_iff (hpos : 0 < base) (hbase : base ≤ 16) (a : UInt32) :
    Reading.address text = .ok a ↔ readNumber base cs = .ok a.toNat := by
  rw [Reading.address, h]
  cases hread : readNumber base cs with
  | error fault => simp only [Except.map, Except.mapError, reduceCtorEq]
  | ok v =>
      have hv := ((readNumber_eq_ok_iff hpos hbase).mp hread).1
      simp only [Except.map, Except.mapError, Except.ok.injEq, ← UInt32.toNat_inj,
        UInt32.toNat_ofNat_of_lt' hv]

theorem address_eq_error_iff (fault : NumberFault) :
    Reading.address text = .error (.badAddress text fault) ↔
      readNumber base cs = .error fault := by
  rw [Reading.address, h]
  cases readNumber base cs with
  | error other =>
      simp only [Except.map, Except.mapError, Except.error.injEq, UsageError.badAddress.injEq,
        true_and]
  | ok v => simp only [Except.map, Except.mapError, reduceCtorEq]

/-- A text is read as the number that is found in it. -/
theorem readAs_of_eq (hpos : 0 < base) (hbase : base ≤ 16) : ReadAs text base cs := by
  have haccepted : ∀ a, Reading.address text = .ok a ↔ SignedNumeral base cs a.toNat := by
    intro a
    rw [address_eq_ok_iff h hpos hbase, readNumber_eq_ok_iff hpos hbase]
    exact and_iff_right a.toNat_lt
  constructor
  case accepted_iff => exact haccepted
  case refused =>
    intro hnone
    cases hread : readNumber base cs with
    | error fault => exact ⟨fault, (address_eq_error_iff h fault).mpr hread, rfl⟩
    | ok v =>
        rcases (readNumber_eq_ok_iff hpos hbase).mp hread with ⟨hlt, hv⟩
        refine absurd ⟨UInt32.ofNat v, ?_⟩ hnone
        rwa [UInt32.toNat_ofNat_of_lt' hlt]
  case empty_iff => rw [address_eq_error_iff h, readNumber_eq_empty_iff]
  case tooLarge_iff => rw [address_eq_error_iff h, readNumber_eq_tooLarge_iff hbase]

end Reading

/-- Underscores do not count. -/
theorem Marked.filter_eq {plain marked : List Char} (h : Marked plain marked) :
    marked.filter (· ≠ '_') = plain.filter (· ≠ '_') := by
  induction h with
  | nil => rfl
  | keep c _ ih => rw [List.filter_cons, List.filter_cons, ih]
  | mark _ ih =>
      rw [List.filter_cons, if_neg (by decide)]
      exact ih

/-- There are no underscores in a number to begin with. -/
theorem Numeral.filter_eq {v : Nat} (hbase : base ≤ 16) (h : Numeral base cs v) :
    cs.filter (· ≠ '_') = cs := by
  rcases h with ⟨-, ds, hds, -⟩
  induction hds with
  | nil => rfl
  | cons hd _ ih => rw [List.filter_cons, if_pos (decide_eq_true (hd.ne_mark hbase).2), ih]

theorem hexBehind_ofList (rest : List Char) : HexBehind (String.ofList ('0' :: 'x' :: rest)) rest :=
  .inl String.toList_ofList

theorem hexBehind_hexWord (a : UInt32) :
    HexBehind (Text.hexWord a) (Text.hexPadded 8 a.toNat).toList := by
  rw [HexBehind, Text.hexWord, String.toList_append]
  exact .inl rfl

/-- How a text is read as an address, for every text. -/
theorem addressLaw (text : String) : AddressLaw text := by
  constructor
  case hexadecimal =>
    intro rest hrest
    exact readAs_of_eq (parseAddress_of_hexBehind hrest) (by decide) (by decide)
  case decimal =>
    intro hnone
    exact readAs_of_eq (parseAddress_of_not_hexBehind hnone) (by decide) (by decide)
  case marks =>
    intro marked plain other hplain hmarked hmarks
    rw [parseAddress_of_hexBehind hplain, parseAddress_of_hexBehind hmarked, hmarks.filter_eq]

/-- How a word that was written is read back, for every word. -/
theorem writtenLaw (a : UInt32) : WrittenLaw a := by
  have hnumeral := numeral_hexPadded 8 a.toNat
  have hfilter := hnumeral.filter_eq (by decide)
  constructor
  case plain =>
    refine (((addressLaw _).hexadecimal _ (hexBehind_hexWord a)).accepted_iff a).mpr ?_
    rw [hfilter]
    exact .plain hnumeral
  case marked =>
    intro marked hmarked
    refine (((addressLaw _).hexadecimal _ (hexBehind_ofList marked)).accepted_iff a).mpr ?_
    rw [hmarked.filter_eq, hfilter]
    exact .plain hnumeral

/-- Every text is read as the address that its number says, and every word that was written is
    read back. -/
theorem address_law (text : String) (a : UInt32) : AddressLaw text ∧ WrittenLaw a :=
  ⟨addressLaw text, writtenLaw a⟩

end Probe

end RegionBus

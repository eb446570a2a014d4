import Mathlib.Data.List.Forall2
import Mathlib.Data.Nat.Digits.Lemmas
import Mathlib.Tactic.Ring
import RegionBus.Probe.Address
import RegionBus.Text.Hex

/-!
# Numbers on the Command Line

A number is one digit or more, with a plus sign in front if one likes. Its value is the sum
of its digits at their places, and `Numeral` says just that. It has no bound, and it does
not care about zeros in front.

Numbers are read from the left, and what was read so far is multiplied by the base for every
further digit. So what a reader carries is the value of the digits behind it, with the
digits before it still to come: `readDigits_eq_ok_iff` has both. As soon as the value leaves
the range of words, reading ends. Further digits would only make it larger, so no number is
refused that has its value in range, and none is taken that has not.

Of the two things that can be wrong, the one that is met first is told. That is a matter of
the beginning of the text alone. A number is too large iff it begins with digits whose value
is out of range already, whatever follows them.

## Main definitions

* `DigitOf`: The characters that are digits of a base, with their values.
* `Numeral`, `SignedNumeral`: Numbers without a sign, and with a plus sign or without.
* `valueBehind`: The value of digits with others before them.
* `digitsPart`: The characters behind the sign.

## Theorems

* `digit?_eq_some_iff`: The digits that a reader knows.
* `readDigits_eq_ok_iff`, `readDigits_eq_tooLarge_iff`: Digits read behind others.
* `readNumber_eq_ok_iff`, `readNumber_eq_tooLarge_iff`: Numbers read.
* `numeral_hexPadded`: A number that was written is a numeral of its value.
-/

namespace RegionBus

namespace Probe

/-- A character is a digit of a base and has a value: one of `0` to `9` and `a` to `f`, with
    the letters in either case. -/
def DigitOf (base : Nat) (c : Char) (d : Nat) : Prop :=
  d < base ∧ (c = Nat.digitChar d ∨ c = (Nat.digitChar d).toUpper)

/-- Characters spell a number in a base: one digit or more, the last one for the ones. -/
def Numeral (base : Nat) (cs : List Char) (v : Nat) : Prop :=
  cs ≠ [] ∧ ∃ ds, List.Forall₂ (DigitOf base) cs ds ∧ v = Nat.ofDigits base ds.reverse

/-- Characters spell a number in a base, with a plus sign or without. -/
inductive SignedNumeral (base : Nat) : List Char → Nat → Prop
  /-- There is no sign. -/
  | plain {cs : List Char} {v : Nat} : Numeral base cs v → SignedNumeral base cs v
  /-- There is a plus sign. -/
  | plus {cs : List Char} {v : Nat} : Numeral base cs v → SignedNumeral base ('+' :: cs) v

/-- The value of some digits that stand behind those of a number. -/
def valueBehind (base value : Nat) (ds : List Nat) : Nat :=
  value * base ^ ds.length + Nat.ofDigits base ds.reverse

section Digits

variable {base d : Nat} {c : Char}

/-- The digits of a smaller base are those of the base sixteen whose value is small enough. -/
theorem digit?_eq_some_iff_sixteen (hbase : base ≤ 16) :
    Toml.digit? base c = some d ↔ Toml.digit? 16 c = some d ∧ d < base := by
  simp only [Toml.digit?, Option.ite_none_right_eq_some, Option.some.injEq]
  generalize (if '0' ≤ c ∧ c ≤ '9' then _ else _) = value
  omega

/-- No character behind the letters is a digit. -/
theorem toNat_lt_of_digit? (h : Toml.digit? 16 c = some d) : c.toNat < 0x67 := by
  by_contra hlarge
  have hbehind : ∀ last : Char, last.toNat < 0x67 → ¬ c ≤ last := by
    intro last hlast hle
    have hnat : c.toNat ≤ last.toNat := hle
    omega
  simp only [Toml.digit?, hbehind '9' (by decide), hbehind 'f' (by decide), hbehind 'F' (by decide),
    and_false, if_false] at h
  cases h

/-- The digits that a reader knows are those of the base. -/
theorem digit?_eq_some_iff (hbase : base ≤ 16) :
    Toml.digit? base c = some d ↔ DigitOf base c d := by
  have hlower : ∀ d < 16, Toml.digit? 16 (Nat.digitChar d) = some d := by decide
  have hupper : ∀ d < 16, Toml.digit? 16 (Nat.digitChar d).toUpper = some d := by decide
  -- Up to the letters there are few enough characters to go through them all.
  have hread : ∀ n < 0x67, ∀ d < 16, Toml.digit? 16 (Char.ofNat n) = some d →
      Char.ofNat n = Nat.digitChar d ∨ Char.ofNat n = (Nat.digitChar d).toUpper := by decide
  rw [digit?_eq_some_iff_sixteen hbase, DigitOf, and_comm]
  refine and_congr_right fun hd => ⟨fun h => ?_, ?_⟩
  · have hchar := hread c.toNat (toNat_lt_of_digit? h) d (by omega)
    rw [Char.ofNat_toNat] at hchar
    exact hchar h
  · rintro (rfl | rfl)
    · exact hlower d (by omega)
    · exact hupper d (by omega)

/-- Neither the sign nor the mark is a digit of any base. -/
theorem DigitOf.ne_mark (hbase : base ≤ 16) (h : DigitOf base c d) : c ≠ '+' ∧ c ≠ '_' := by
  have hlower : ∀ d < 16, Nat.digitChar d ≠ '+' ∧ Nat.digitChar d ≠ '_' := by decide
  have hupper : ∀ d < 16, (Nat.digitChar d).toUpper ≠ '+' ∧ (Nat.digitChar d).toUpper ≠ '_' := by
    decide
  rcases h with ⟨hd, rfl | rfl⟩
  · exact hlower d (by omega)
  · exact hupper d (by omega)

end Digits

section Reading

variable {base value v : Nat} {c : Char} {cs : List Char}

@[simp]
theorem valueBehind_nil (base value : Nat) : valueBehind base value [] = value := by
  rw [valueBehind, List.length_nil, pow_zero, Nat.mul_one, List.reverse_nil, Nat.ofDigits_nil,
    Nat.add_zero]

@[simp]
theorem valueBehind_zero (base : Nat) (ds : List Nat) :
    valueBehind base 0 ds = Nat.ofDigits base ds.reverse := by
  rw [valueBehind, Nat.zero_mul, Nat.zero_add]

/-- The first one of some digits can as well be counted to those before it. -/
theorem valueBehind_cons (base value d : Nat) (ds : List Nat) :
    valueBehind base value (d :: ds) = valueBehind base (value * base + d) ds := by
  rw [valueBehind, valueBehind, Nat.ofDigits_reverse_cons, List.length_cons, pow_succ]
  ring

/-- A value does not get smaller by digits behind it. -/
theorem le_valueBehind (hpos : 0 < base) (value : Nat) (ds : List Nat) :
    value ≤ valueBehind base value ds :=
  Nat.le_add_right_of_le (Nat.le_mul_of_pos_right value (Nat.pow_pos hpos))

/-- The digits of some characters are those of the first one and of the others. -/
theorem exists_digits_cons (hbase : base ≤ 16) {P : List Nat → Prop} :
    (∃ ds, List.Forall₂ (DigitOf base) (c :: cs) ds ∧ P ds) ↔ ∃ d, Toml.digit? base c = some d ∧
      ∃ ds, List.Forall₂ (DigitOf base) cs ds ∧ P (d :: ds) := by
  constructor
  · rintro ⟨ds, hds, h⟩
    rcases List.forall₂_cons_left_iff.mp hds with ⟨d, ds, hd, hrest, rfl⟩
    exact ⟨d, (digit?_eq_some_iff hbase).mpr hd, ds, hrest, h⟩
  · rintro ⟨d, hd, ds, hds, h⟩
    exact ⟨d :: ds, .cons ((digit?_eq_some_iff hbase).mp hd) hds, h⟩

/-- Digits behind others are taken iff the value of all of them together is in range, and
    that is what is read. -/
theorem readDigits_eq_ok_iff (hpos : 0 < base) (hbase : base ≤ 16) (hvalue : value < 0x100000000) :
    readDigits base value cs = .ok v ↔ v < 0x100000000 ∧
      ∃ ds, List.Forall₂ (DigitOf base) cs ds ∧ v = valueBehind base value ds := by
  induction cs generalizing value with
  | nil =>
      simp only [readDigits, List.forall₂_nil_left_iff, exists_eq_left, valueBehind_nil,
        Except.ok.injEq]
      omega
  | cons c cs ih =>
      rw [readDigits, exists_digits_cons hbase]
      cases Toml.digit? base c with
      | none => simp only [reduceCtorEq, false_and, exists_false, and_false]
      | some d =>
          simp only [Option.some.injEq, exists_eq_left', valueBehind_cons]
          by_cases hlt : value * base + d < 0x100000000
          · rw [if_pos hlt, ih hlt]
          · -- The value is out of range, and stays so with further digits.
            rw [if_neg hlt]
            refine iff_of_false (by simp only [reduceCtorEq, not_false_eq_true]) ?_
            rintro ⟨hv, ds, -, rfl⟩
            exact hlt (Nat.lt_of_le_of_lt (le_valueBehind hpos _ ds) hv)

/-- Some digits at the beginning bring a value out of range iff the first one does, with some
    of those behind it or with none. -/
theorem exists_front_cons (hbase : base ≤ 16) (hvalue : value < 0x100000000) :
    (∃ front, front <+: c :: cs ∧ ∃ ds, List.Forall₂ (DigitOf base) front ds ∧
      0x100000000 ≤ valueBehind base value ds) ↔
    ∃ d, Toml.digit? base c = some d ∧ ∃ front, front <+: cs ∧
      ∃ ds, List.Forall₂ (DigitOf base) front ds ∧
        0x100000000 ≤ valueBehind base (value * base + d) ds := by
  constructor
  · rintro ⟨front, hfront, hdigits⟩
    rcases List.prefix_cons_iff.mp hfront with rfl | ⟨front, rfl, hrest⟩
    · -- Without any digit the value is the one before, which is in range.
      rcases hdigits with ⟨ds, hds, hle⟩
      rw [List.forall₂_nil_left_iff.mp hds, valueBehind_nil] at hle
      omega
    · rcases (exists_digits_cons hbase).mp hdigits with ⟨d, hd, ds, hds, hle⟩
      rw [valueBehind_cons] at hle
      exact ⟨d, hd, front, hrest, ds, hds, hle⟩
  · rintro ⟨d, hd, front, hfront, ds, hds, hle⟩
    refine ⟨c :: front, List.prefix_cons_iff.mpr (.inr ⟨front, rfl, hfront⟩), ?_⟩
    exact (exists_digits_cons hbase).mpr ⟨d, hd, ds, hds, by rwa [valueBehind_cons]⟩

/-- Digits behind others are too many iff some of them, from the first one on, bring the value
    out of range. -/
theorem readDigits_eq_tooLarge_iff (hbase : base ≤ 16) (hvalue : value < 0x100000000) :
    readDigits base value cs = .error .tooLarge ↔ ∃ front, front <+: cs ∧
      ∃ ds, List.Forall₂ (DigitOf base) front ds ∧ 0x100000000 ≤ valueBehind base value ds := by
  induction cs generalizing value with
  | nil =>
      simp only [List.prefix_nil, exists_eq_left, List.forall₂_nil_left_iff, valueBehind_nil,
        readDigits, reduceCtorEq, false_iff]
      omega
  | cons c cs ih =>
      rw [readDigits, exists_front_cons hbase hvalue]
      cases Toml.digit? base c with
      | none => simp only [reduceCtorEq, Except.error.injEq, false_and, exists_false]
      | some d =>
          simp only [Option.some.injEq, exists_eq_left']
          by_cases hlt : value * base + d < 0x100000000
          · rw [if_pos hlt, ih hlt]
          · rw [if_neg hlt]
            refine iff_of_true rfl ⟨[], List.nil_prefix, [], .nil, ?_⟩
            rw [valueBehind_nil]
            exact Nat.le_of_not_lt hlt

/-- Reading digits never finds that there is nothing. -/
theorem readDigits_ne_empty (base value : Nat) (cs : List Char) :
    readDigits base value cs ≠ .error .empty := by
  induction cs generalizing value with
  | nil => simp only [readDigits, ne_eq, reduceCtorEq, not_false_eq_true]
  | cons c cs ih =>
      rw [readDigits]
      split
      · simp only [ne_eq, Except.error.injEq, reduceCtorEq, not_false_eq_true]
      · split
        · exact ih _
        · simp only [ne_eq, Except.error.injEq, reduceCtorEq, not_false_eq_true]

/-- What is left of a number without its plus sign. -/
def digitsPart : List Char → List Char
  | '+' :: cs => cs
  | cs => cs

theorem readNumber_of_digits (h : digitsPart cs ≠ []) :
    readNumber base cs = readDigits base 0 (digitsPart cs) := by
  unfold readNumber
  split
  · exact absurd rfl h
  · exact absurd rfl h
  · rfl
  · next hplus => rw [digitsPart.eq_2 cs fun rest => hplus rest]

theorem readNumber_of_no_digits (h : digitsPart cs = []) :
    readNumber base cs = .error (if cs = [] then .empty else .notDigit) := by
  unfold digitsPart at h
  split at h
  · rw [h]
    rfl
  · rw [h]
    rfl

theorem not_numeral_nil : ¬ Numeral base [] v :=
  fun h => h.1 rfl

/-- A number without a sign, and what stands behind it, does not begin with a sign. -/
theorem Numeral.digitsPart_append (hbase : base ≤ 16) (h : Numeral base cs v) (rest : List Char) :
    digitsPart (cs ++ rest) = cs ++ rest := by
  rcases h with ⟨hne, ds, hds, -⟩
  cases hds with
  | nil => exact absurd rfl hne
  | cons hd hrest =>
      exact digitsPart.eq_2 _ fun _ heq => (hd.ne_mark hbase).1 (List.cons.inj heq).1

/-- A plus sign does not belong to the digits. -/
theorem signedNumeral_iff (hbase : base ≤ 16) :
    SignedNumeral base cs v ↔ Numeral base (digitsPart cs) v := by
  constructor
  · rintro (h | h)
    · have hpart := h.digitsPart_append hbase []
      rw [List.append_nil] at hpart
      rwa [hpart]
    · exact h
  · intro h
    unfold digitsPart at h
    split at h
    · exact .plus h
    · exact .plain h

/-- The numbers that some characters begin with are those that the digits begin with. -/
theorem exists_signedFront_iff (hbase : base ≤ 16) {P : Nat → Prop} :
    (∃ front v, front <+: cs ∧ SignedNumeral base front v ∧ P v) ↔
      ∃ front v, front <+: digitsPart cs ∧ Numeral base front v ∧ P v := by
  constructor
  · rintro ⟨front, v, ⟨rest, rfl⟩, h | @⟨front, v, h⟩, hv⟩
    · exact ⟨front, v, ⟨rest, (h.digitsPart_append hbase rest).symm⟩, h, hv⟩
    · exact ⟨front, v, ⟨rest, rfl⟩, h, hv⟩
  · rintro ⟨front, v, ⟨rest, hrest⟩, h, hv⟩
    unfold digitsPart at hrest
    split at hrest
    · exact ⟨'+' :: front, v, ⟨rest, by rw [List.cons_append, hrest]⟩, .plus h, hv⟩
    · exact ⟨front, v, ⟨rest, hrest⟩, .plain h, hv⟩

/-- Numbers are read iff they are numbers in range, and as what they are. -/
theorem readNumber_eq_ok_iff (hpos : 0 < base) (hbase : base ≤ 16) :
    readNumber base cs = .ok v ↔ v < 0x100000000 ∧ SignedNumeral base cs v := by
  rw [signedNumeral_iff hbase]
  by_cases h : digitsPart cs = []
  · rw [readNumber_of_no_digits h, h]
    simp only [reduceCtorEq, not_numeral_nil, and_false]
  · rw [readNumber_of_digits h, readDigits_eq_ok_iff hpos hbase (by decide)]
    simp only [valueBehind_zero, Numeral, ne_eq, h, not_false_eq_true, true_and]

/-- Numbers are too large iff they begin with a number that is out of range. -/
theorem readNumber_eq_tooLarge_iff (hbase : base ≤ 16) :
    readNumber base cs = .error .tooLarge ↔
      ∃ front v, front <+: cs ∧ SignedNumeral base front v ∧ 0x100000000 ≤ v := by
  rw [exists_signedFront_iff hbase]
  by_cases h : digitsPart cs = []
  · rw [readNumber_of_no_digits h, h]
    refine iff_of_false ?_ ?_
    · split <;> simp only [Except.error.injEq, reduceCtorEq, not_false_eq_true]
    rintro ⟨front, v, hfront, hv, -⟩
    rw [List.prefix_nil.mp hfront] at hv
    exact not_numeral_nil hv
  · rw [readNumber_of_digits h, readDigits_eq_tooLarge_iff hbase (by decide)]
    constructor
    · rintro ⟨front, hfront, ds, hds, hle⟩
      rw [valueBehind_zero] at hle
      refine ⟨front, _, hfront, ⟨?_, ds, hds, rfl⟩, hle⟩
      -- Without any digit the value would be zero.
      rintro rfl
      rw [List.forall₂_nil_left_iff.mp hds, List.reverse_nil, Nat.ofDigits_nil] at hle
      exact absurd hle (by decide)
    · rintro ⟨front, v, hfront, ⟨-, ds, hds, rfl⟩, hle⟩
      rw [← valueBehind_zero] at hle
      exact ⟨front, hfront, ds, hds, hle⟩

theorem readNumber_eq_empty_iff : readNumber base cs = .error .empty ↔ cs = [] := by
  by_cases h : digitsPart cs = []
  · rw [readNumber_of_no_digits h]
    by_cases hcs : cs = []
    · simp only [hcs, if_true]
    · simp only [hcs, if_false, Except.error.injEq, reduceCtorEq]
  · rw [readNumber_of_digits h]
    refine iff_of_false (readDigits_ne_empty _ _ _) ?_
    rintro rfl
    exact h rfl

end Reading

section Writing

variable {base v d : Nat} {c : Char} {cs : List Char}

theorem numeral_digit (h : DigitOf base c d) : Numeral base [c] d := by
  refine ⟨List.cons_ne_nil c [], [d], .cons h .nil, ?_⟩
  rw [List.reverse_singleton, Nat.ofDigits_singleton]

/-- One more digit at the end. -/
theorem Numeral.concat (h : Numeral base cs v) (hd : DigitOf base c d) :
    Numeral base (cs ++ [c]) (v * base + d) := by
  rcases h with ⟨-, ds, hds, rfl⟩
  refine ⟨List.append_ne_nil_of_right_ne_nil cs (List.cons_ne_nil c []), ds ++ [d],
    List.rel_append hds (.cons hd .nil), ?_⟩
  rw [List.reverse_concat, Nat.ofDigits_cons, Nat.mul_comm, Nat.add_comm]

/-- Zeros in front do not count. -/
theorem Numeral.zeros (h : Numeral base cs v) (hpos : 0 < base) (n : Nat) :
    Numeral base (List.replicate n '0' ++ cs) v := by
  induction n with
  | zero => exact h
  | succ n ih =>
      rcases ih with ⟨-, ds, hds, hv⟩
      refine ⟨List.cons_ne_nil _ _, 0 :: ds, .cons ⟨hpos, .inl rfl⟩ hds, ?_⟩
      rw [Nat.ofDigits_reverse_cons, Nat.mul_zero, Nat.add_zero, hv]

theorem numeral_hexNumeral (n : Nat) : Numeral 16 (Text.hexNumeral n) n := by
  induction n using Nat.strongRecOn with
  | _ n ih =>
      rw [Text.hexNumeral, Nat.toDigits_eq_if (by decide)]
      by_cases hn : n < 16
      · rw [if_pos hn]
        exact numeral_digit ⟨hn, .inr rfl⟩
      · rw [if_neg hn, List.map_append]
        have hconcat := (ih (n / 16) (by omega)).concat (d := n % 16) ⟨by omega, .inr rfl⟩
        rwa [Nat.div_add_mod'] at hconcat

/-- A number that was written is a numeral of its value. -/
theorem numeral_hexPadded (width n : Nat) : Numeral 16 (Text.hexPadded width n).toList n := by
  rw [Text.hexPadded, String.toList_ofList, List.leftpad]
  exact (numeral_hexNumeral n).zeros (by decide) _

end Writing

end Probe

end RegionBus

import Mathlib.Algebra.Group.Nat.Defs
import RegionBus.Toml.Number

/-!
# Numerals Read Back

A numeral is written with its last digit behind the digits of a tenth of it, and is read
from left to right. So reading is followed from the back: one more digit makes ten times
the number that was read so far, and that digit.

No numeral but that of zero begins with a zero, so none is taken for a number in another
base, and none is refused for its leading zero.

## Theorems

* `readNumber_concat`: One more digit.
* `readNumber_toDigits`: The digits of a number read in its base.
* `integer?_toDigits`: A numeral is the integer it was written for.
-/

namespace RegionBus

namespace Toml

/-- A digit has the value that it was written for. -/
theorem digit?_digitChar : ∀ d < 10, digit? 10 (Nat.digitChar d) = some d := by
  decide

theorem isDigit_of_mem_toDigits {n : Nat} {c : Char} (hc : c ∈ Nat.toDigits 10 n) :
    isDigit c = true := by
  induction n using Nat.strongRecOn with
  | _ n ih =>
      rw [Nat.toDigits_eq_if (by decide)] at hc
      by_cases hn : n < 10
      · rw [if_pos hn] at hc
        rw [List.mem_singleton.mp hc, isDigit, digit?_digitChar n hn]
        rfl
      · rw [if_neg hn] at hc
        rcases List.mem_append.mp hc with hc | hc
        · exact ih (n / 10) (by omega) hc
        · rw [List.mem_singleton.mp hc, isDigit, digit?_digitChar _ (by omega)]
          rfl

theorem exists_toDigits_cons (n : Nat) :
    ∃ c cs, Nat.toDigits 10 n = c :: cs ∧ isDigit c = true := by
  cases h : Nat.toDigits 10 n with
  | nil => exact absurd h Nat.toDigits_ne_nil
  | cons c cs => exact ⟨c, cs, rfl, isDigit_of_mem_toDigits (h ▸ List.mem_cons_self)⟩

/-- One more digit makes ten times as much, and that digit. -/
theorem readNumber_concat {base value n d : Nat} {digitBefore : Bool} {cs : List Char} {c : Char}
    (hcs : readNumber base value digitBefore cs = some n) (hmark : c ≠ '_')
    (hc : digit? base c = some d) :
    readNumber base value digitBefore (cs ++ [c]) = some (n * base + d) := by
  induction cs generalizing value digitBefore with
  | nil =>
      -- What was read is what stood in front.
      cases digitBefore with
      | false => cases hcs
      | true =>
          rw [← Option.some.inj hcs, List.nil_append, readNumber, if_neg hmark, hc]
          rfl
  | cons e cs ih =>
      rw [List.cons_append, readNumber]
      rw [readNumber] at hcs
      by_cases he : e = '_'
      · rw [if_pos he] at hcs ⊢
        cases digitBefore with
        | false => cases hcs
        | true => exact ih hcs
      · rw [if_neg he] at hcs ⊢
        cases hdigit : digit? base e with
        | none =>
            rw [hdigit] at hcs
            cases hcs
        | some k =>
            rw [hdigit] at hcs
            exact ih hcs

theorem readNumber_toDigits (n : Nat) : readNumber 10 0 false (Nat.toDigits 10 n) = some n := by
  have hmark : ∀ d < 10, Nat.digitChar d ≠ '_' := by decide
  induction n using Nat.strongRecOn with
  | _ n ih =>
      rw [Nat.toDigits_eq_if (by decide)]
      by_cases hn : n < 10
      · rw [if_pos hn, readNumber, if_neg (hmark n hn), digit?_digitChar n hn]
        change some (0 * 10 + n) = some n
        rw [Nat.zero_mul, Nat.zero_add]
      · have hlast : n % 10 < 10 := by omega
        rw [if_neg hn, readNumber_concat (ih (n / 10) (by omega)) (hmark _ hlast)
          (digit?_digitChar _ hlast), Nat.div_add_mod']

/-- Only the numeral of zero begins with a zero. -/
theorem eq_zero_of_toDigits {n : Nat} {cs : List Char} (h : Nat.toDigits 10 n = '0' :: cs) :
    n = 0 := by
  have hzero : ∀ d < 10, Nat.digitChar d = '0' → d = 0 := by decide
  induction n using Nat.strongRecOn generalizing cs with
  | _ n ih =>
      rw [Nat.toDigits_eq_if (by decide)] at h
      by_cases hn : n < 10
      · rw [if_pos hn, List.cons.injEq] at h
        exact hzero n hn h.1
      · rw [if_neg hn] at h
        rcases exists_toDigits_cons (n / 10) with ⟨c, front, hfront, -⟩
        rw [hfront, List.cons_append, List.cons.injEq] at h
        rw [h.1] at hfront
        have htenth := ih (n / 10) (by omega) hfront
        omega

theorem readDecimal_toDigits (n : Nat) : readDecimal (Nat.toDigits 10 n) = some n := by
  have hnumber := readNumber_toDigits n
  unfold readDecimal
  split
  · next c cs h =>
    rw [eq_zero_of_toDigits h] at h
    cases h
  · exact hnumber

/-- Digits alone have no sign and no base, so they are read as a decimal number. -/
theorem readInteger_of_digits {cs : List Char} (h : ∀ c ∈ cs, isDigit c = true) :
    readInteger cs = (readDecimal cs).map fun n : Nat => (n : Int) := by
  unfold readInteger
  split
  · exact absurd (h '+' List.mem_cons_self) (by decide)
  · exact absurd (h '-' List.mem_cons_self) (by decide)
  · exact absurd (h 'x' (List.mem_cons_of_mem _ List.mem_cons_self)) (by decide)
  · exact absurd (h 'o' (List.mem_cons_of_mem _ List.mem_cons_self)) (by decide)
  · exact absurd (h 'b' (List.mem_cons_of_mem _ List.mem_cons_self)) (by decide)
  · cases readDecimal cs <;> rfl

/-- A numeral is the integer it was written for, if 128 bits can hold it. -/
theorem integer?_toDigits {n : Nat} (hn : n < 2 ^ 128) :
    integer? (Nat.toDigits 10 n) = some (n : Int) := by
  rw [integer?, readInteger_of_digits fun c hc => isDigit_of_mem_toDigits hc,
    readDecimal_toDigits, Option.map_some, Option.filter_some, if_pos]
  rw [decide_eq_true_eq]
  omega

end Toml

end RegionBus

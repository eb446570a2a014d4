import RegionBus.Toml.Quoted
import RegionBus.Toml.Written

/-!
# Strings Read Back

A string is written in one of four styles, and the reader tells them apart by the opening
quotes. Within the quotes reading follows writing character by character: `Written` lists
the ways a character can stand between double quotes, and a reader that finds one of them
gives the character back, whatever stands behind.

The quotes of a string over several lines need more care. Up to two of them in a row are
written as they are, and where the string ends with them the closing quotes stand right
behind. So the induction is not on the characters that are left alone. The quotes that
were passed since the last other character are still in front of them, and no more than
two are ever waiting there.

## Main definitions

* `Written`: The ways a character can stand between double quotes.
* `Style.Suits`: A style can show a string.
* `ClosesLines`: What a reader of several lines does with a quote.

## Theorems

* `written_escapedChar`: How a character is written.
* `readBasic_written`, `readBasicLines_written`: A character that was written is read back.
* `read_quotes`, `read_closing`: Quotes inside of a string, and at its end.
* `readBasic_escaped`, `readBasicLines_escaped`: Strings between double quotes.
* `readLiteral_append`, `readLiteralLines_append`: Strings between single quotes.
* `suits_styleOf`: The style of a string can show it.
* `readQuoted_writeQuoted`: A string is read back.
-/

namespace RegionBus

namespace Toml

/-- The ways a character can stand between double quotes. -/
inductive Written (lines : Bool) : Char → List Char → Prop
  /-- As it is. -/
  | plain {c : Char} (htext : isText c = true) (hquote : c ≠ '"') (hmark : c ≠ '\\') :
      Written lines c [c]
  /-- As a line end of a string of several lines. -/
  | lineEnd (hlines : lines = true) : Written lines '\n' ['\n']
  /-- As a letter or mark behind a backslash. -/
  | escape {c d : Char} (hd : escape? d = some (.char c)) : Written lines c ['\\', d]
  /-- As the digits of its code point. -/
  | codePoint {c d₃ d₂ d₁ d₀ : Char} {n₃ n₂ n₁ n₀ : Nat} (h₃ : digit? 16 d₃ = some n₃)
      (h₂ : digit? 16 d₂ = some n₂) (h₁ : digit? 16 d₁ = some n₁) (h₀ : digit? 16 d₀ = some n₀)
      (hvalue : ((n₃ * 16 + n₂) * 16 + n₁) * 16 + n₀ = c.toNat) :
      Written lines c ['\\', 'u', d₃, d₂, d₁, d₀]

/-- A style can show a string. Between double quotes every string can be shown. -/
def Style.Suits (cs : List Char) : Style → Prop
  | .basic | .basicLines => True
  | .literal => ∀ c ∈ cs, isText c = true ∧ c ≠ '\''
  | .literalLines => longestRun '\'' 0 cs ≤ 2 ∧ ∀ c ∈ cs, isText c = true ∨ c = '\n'

/-- What a reader of several lines does with a quote. -/
def ClosesLines (quote : Char) (read : List Char → Option (List Char × List Char)) : Prop :=
  ∀ rest, read (quote :: rest) =
    if 2 ≤ moreQuotes quote rest then some (closeLines quote (moreQuotes quote rest) rest)
    else emit quote (read rest)

section Writing

theorem digit?_upper : ∀ d < 16, digit? 16 (Nat.digitChar d).toUpper = some d := by
  decide

/-- The code point of a control is written with two leading zeros. -/
theorem fourDigits_eq : ∀ n < 128, fourDigits n =
    ['0', '0', (Nat.digitChar (n / 16)).toUpper, (Nat.digitChar (n % 16)).toUpper] := by
  decide

/-- What need not be escaped may stand in a string of one line, unless it is a line end. -/
theorem isText_of_plain {c : Char} (h : needsEscape c = false) (hline : c ≠ '\n') :
    isText c = true := by
  rw [isText, Bool.or_eq_true, decide_eq_true_eq]
  by_cases htab : c = '\t'
  · exact Or.inl htab
  · simp only [needsEscape, ne_eq, htab, hline, not_false_eq_true, decide_true, Bool.true_and,
      Bool.or_eq_false_iff, decide_eq_false_iff_not] at h
    simp only [Bool.and_eq_true, decide_eq_true_eq]
    omega

theorem written_fourDigits {lines : Bool} {c : Char} (hc : c.toNat < 128) :
    Written lines c (['\\', 'u'] ++ fourDigits c.toNat) := by
  rw [fourDigits_eq _ hc]
  have hzero : digit? 16 '0' = some 0 := by decide
  refine .codePoint hzero hzero (digit?_upper _ (by omega)) (digit?_upper _ (by omega)) ?_
  omega

/-- How a character is written that is no quote. -/
theorem written_escapedChar (lines : Bool) {c : Char} (hquote : c ≠ '"') :
    Written lines c (escapedChar lines c) := by
  unfold escapedChar
  split
  · next h => subst h; exact .escape rfl
  split
  · next h => subst h; exact .escape rfl
  split
  · next h =>
    subst h
    cases lines with
    | true => exact .lineEnd rfl
    | false => exact .escape rfl
  split
  · next h => subst h; exact .escape rfl
  split
  · next h => subst h; exact .escape rfl
  split
  · next h => subst h; exact .escape rfl
  split
  · next h =>
    rw [Bool.or_eq_true, decide_eq_true_eq, decide_eq_true_eq] at h
    exact written_fourDigits (by omega)
  · next hmark h =>
    refine .plain ?_ hquote hmark
    rw [Bool.or_eq_true, decide_eq_true_eq, decide_eq_true_eq] at h
    rw [isText, Bool.or_eq_true, Bool.and_eq_true, decide_eq_true_eq, decide_eq_true_eq,
      decide_eq_true_eq]
    omega

end Writing

section Reading

theorem character?_toNat (c : Char) : character? c.toNat = some c := by
  have hvalid : c.toNat.isValidChar := c.valid
  rw [character?, if_pos hvalid, Char.ofNat_toNat]

/-- What introduces an escape is not blank. -/
theorem blankNext_eq_false {d : Char} {e : Escape} (h : escape? d = some e)
    (rest : List Char) : blankNext (d :: rest) = false := by
  unfold escape? at h
  split at h
  case h_12 => cases h
  all_goals rfl

/-- A character that was written is read back between double quotes. -/
theorem readBasic_written {c : Char} {cs : List Char} (h : Written false c cs)
    (rest : List Char) : readBasic .plain (cs ++ rest) = emit c (readBasic .plain rest) := by
  have hbackslash : '\\' ≠ '"' := by decide
  cases h with
  | plain htext hquote hmark =>
      rw [List.singleton_append, readBasic, if_neg hquote, if_neg hmark, if_pos htext]
  | lineEnd hlines => cases hlines
  | escape hd =>
      rw [List.cons_append, List.cons_append, List.nil_append, readBasic, if_neg hbackslash,
        if_pos rfl, readBasic, hd]
  | codePoint h₃ h₂ h₁ h₀ hvalue =>
      have hu : escape? 'u' = some (.codePoint 4) := rfl
      simp only [List.cons_append, List.nil_append, readBasic, if_neg hbackslash, if_pos, hu, h₃,
        h₂, h₁, h₀, Nat.zero_mul, Nat.zero_add, hvalue, character?_toNat, Nat.add_one_sub_one]

/-- So it is in a string of several lines. -/
theorem readBasicLines_written {c : Char} {cs : List Char} (h : Written true c cs)
    (rest : List Char) :
    readBasicLines .plain (cs ++ rest) = emit c (readBasicLines .plain rest) := by
  have hbackslash : '\\' ≠ '"' := by decide
  cases h with
  | plain htext hquote hmark =>
      rw [List.singleton_append, readBasicLines, if_neg hquote, if_neg hmark, htext,
        Bool.true_or, Bool.true_or, if_pos rfl]
  | lineEnd hlines =>
      rw [List.singleton_append, readBasicLines]
      rfl
  | escape hd =>
      rw [List.cons_append, List.cons_append, List.nil_append, readBasicLines,
        if_neg hbackslash, if_pos rfl, blankNext_eq_false hd, if_neg Bool.false_ne_true,
        readBasicLines, hd]
  | codePoint h₃ h₂ h₁ h₀ hvalue =>
      have hu : escape? 'u' = some (.codePoint 4) := rfl
      simp only [List.cons_append, List.nil_append, readBasicLines, if_neg hbackslash, if_pos,
        blankNext_eq_false hu, Bool.false_eq_true, if_false, hu, h₃, h₂, h₁, h₀, Nat.zero_mul,
        Nat.zero_add, hvalue, character?_toNat, Nat.add_one_sub_one]

end Reading

section Quotes

variable {quote : Char} {read : List Char → Option (List Char × List Char)}
  {rest s : List Char}

/-- Quotes are counted up to four. -/
theorem moreQuotes_replicate {k : Nat} (hk : k ≤ 4) (hrest : rest.head? ≠ some quote) :
    moreQuotes quote (List.replicate k quote ++ rest) = k := by
  have hall : ∀ c ∈ List.replicate k quote, decide (c = quote) = true := fun c hc =>
    decide_eq_true (List.eq_of_mem_replicate hc)
  have hstop : (rest.take (4 - k)).takeWhile (fun c => decide (c = quote)) = [] := by
    cases rest with
    | nil => rw [List.take_nil, List.takeWhile_nil]
    | cons d rest =>
        have hd : ¬ decide (d = quote) = true := fun h =>
          hrest (congrArg some (of_decide_eq_true h))
        cases 4 - k with
        | zero => rfl
        | succ n =>
            rw [List.take_succ_cons,
              List.takeWhile_cons_of_neg (p := fun c => decide (c = quote)) hd]
  rw [moreQuotes, List.take_append, List.length_replicate, List.take_of_length_le
    (by rw [List.length_replicate]; exact hk), List.takeWhile_append_of_pos hall, hstop,
    List.append_nil, List.length_replicate]

/-- Up to two quotes in front of another character belong to the string. -/
theorem read_quotes (hread : ClosesLines quote read) {k : Nat} (hk : k ≤ 2) {c : Char}
    (hc : c ≠ quote) {t : List Char} (h : read (c :: t) = some (s, rest)) :
    read (List.replicate k quote ++ c :: t) = some (List.replicate k quote ++ s, rest) := by
  induction k with
  | zero => exact h
  | succ k ih =>
      have hmore : moreQuotes quote (List.replicate k quote ++ c :: t) = k :=
        moreQuotes_replicate (by omega) fun heq => hc (Option.some.inj heq)
      rw [List.replicate_succ, List.cons_append, hread, hmore, if_neg (by omega),
        ih (by omega)]
      rfl

/-- All but the last three quotes at the end belong to the string. -/
theorem read_closing (hread : ClosesLines quote read) {k : Nat} (hk : k ≤ 2)
    (hrest : rest.head? ≠ some quote) :
    read (List.replicate k quote ++ quote :: quote :: quote :: rest) =
      some (List.replicate k quote, rest) := by
  have hjoin : List.replicate k quote ++ quote :: quote :: quote :: rest =
      quote :: (List.replicate (k + 2) quote ++ rest) := by
    calc List.replicate k quote ++ quote :: quote :: quote :: rest
        = List.replicate k quote ++ List.replicate 3 quote ++ rest :=
          (List.append_assoc _ (List.replicate 3 quote) rest).symm
      _ = List.replicate (k + 3) quote ++ rest := by rw [List.replicate_append_replicate]
      _ = quote :: (List.replicate (k + 2) quote ++ rest) := rfl
  rw [hjoin, hread, moreQuotes_replicate (by omega) hrest, if_pos (by omega), closeLines,
    Nat.add_sub_cancel, List.drop_left' List.length_replicate]

theorem closesLines_readBasicLines : ClosesLines '"' (readBasicLines .plain) := by
  intro rest
  rw [readBasicLines, if_pos rfl]

theorem closesLines_readLiteralLines : ClosesLines '\'' readLiteralLines := by
  intro rest
  rw [readLiteralLines, if_pos rfl]

theorem replicate_append_cons (k : Nat) (t : List Char) :
    List.replicate k quote ++ quote :: t = List.replicate (k + 1) quote ++ t := by
  rw [List.replicate_succ', List.append_assoc, List.singleton_append]

end Quotes

section Bodies

variable {rest : List Char}

/-- What a character begins with that is written between double quotes. -/
theorem Written.exists_cons {lines : Bool} {c : Char} {cs : List Char}
    (h : Written lines c cs) :
    ∃ d ds, cs = d :: ds ∧ d ≠ '"' ∧ d ≠ '\r' ∧ (c ≠ '\n' → d ≠ '\n') := by
  have hbackslash : '\\' ≠ '"' ∧ '\\' ≠ '\r' ∧ '\\' ≠ '\n' := by decide
  cases h with
  | plain htext hquote hmark =>
      refine ⟨c, [], rfl, hquote, ?_, id⟩
      rintro rfl
      exact absurd htext (by decide)
  | lineEnd hlines => exact ⟨'\n', [], rfl, by decide, by decide, id⟩
  | escape hd => exact ⟨'\\', _, rfl, hbackslash.1, hbackslash.2.1, fun _ => hbackslash.2.2⟩
  | codePoint h₃ h₂ h₁ h₀ hvalue =>
      exact ⟨'\\', _, rfl, hbackslash.1, hbackslash.2.1, fun _ => hbackslash.2.2⟩

/-- What a string begins with that is written between double quotes. -/
theorem exists_escaped_cons (lines : Bool) (c : Char) (cs : List Char) :
    ∃ d t, escaped lines 0 (c :: cs) = d :: t ∧ d ≠ '\r' ∧ (c ≠ '\n' → d ≠ '\n') ∧
      (lines = false → d ≠ '"') := by
  rw [escaped]
  by_cases hc : c = '"'
  · subst hc
    cases lines with
    | true => exact ⟨'"', _, rfl, by decide, fun _ => by decide, fun h => Bool.noConfusion h⟩
    | false => exact ⟨'\\', _, rfl, by decide, fun _ => by decide, fun _ => by decide⟩
  · rcases (written_escapedChar lines hc).exists_cons with ⟨d, ds, hds, hquote, hreturn, hline⟩
    refine ⟨d, ds ++ escaped lines 0 cs, ?_, hreturn, hline, fun _ => hquote⟩
    rw [if_neg hc, hds, List.cons_append]

/-- A string between double quotes is read back. -/
theorem readBasic_escaped (cs : List Char) :
    readBasic .plain (escaped false 0 cs ++ '"' :: rest) = some (cs, rest) := by
  induction cs with
  | nil => rw [escaped, List.nil_append, readBasic, if_pos rfl]
  | cons c cs ih =>
      rw [escaped]
      by_cases hc : c = '"'
      · have hquote : Written false '"' ['\\', '"'] := .escape rfl
        have hread := readBasic_written hquote (escaped false 0 cs ++ '"' :: rest)
        rw [ih] at hread
        rw [if_pos hc, hc]
        exact hread
      · rw [if_neg hc, List.append_assoc, readBasic_written (written_escapedChar false hc), ih]
        rfl

/-- A string over several lines between double quotes is read back, with the quotes that
    wait in front of it. -/
theorem readBasicLines_escaped (hrest : rest.head? ≠ some '"') {run : Nat} (hrun : run ≤ 2)
    (cs : List Char) :
    readBasicLines .plain (List.replicate run '"' ++
      (escaped true run cs ++ '"' :: '"' :: '"' :: rest)) =
        some (List.replicate run '"' ++ cs, rest) := by
  induction cs generalizing run with
  | nil =>
      rw [escaped, List.nil_append, List.append_nil]
      exact read_closing closesLines_readBasicLines hrun hrest
  | cons c cs ih =>
      have hnext := ih (Nat.zero_le 2)
      rw [List.replicate_zero, List.nil_append, List.nil_append] at hnext
      rw [escaped]
      by_cases hc : c = '"'
      · have htwo : (if true = true then 2 else 0) = 2 := rfl
        rw [if_pos hc, hc, htwo]
        by_cases hroom : run < 2
        · -- One more quote waits.
          rw [if_pos hroom, List.cons_append, replicate_append_cons, replicate_append_cons]
          exact ih hroom
        · -- No other quote may wait, so this one has a backslash.
          have hquote : Written true '"' ['\\', '"'] := .escape rfl
          have hread := readBasicLines_written hquote
            (escaped true 0 cs ++ '"' :: '"' :: '"' :: rest)
          rw [hnext] at hread
          rw [if_neg hroom]
          exact read_quotes closesLines_readBasicLines hrun (by decide) hread
      · -- The quotes that wait are part of the string, and none waits any more.
        have hwritten := written_escapedChar true hc
        have hread := readBasicLines_written hwritten
          (escaped true 0 cs ++ '"' :: '"' :: '"' :: rest)
        rcases hwritten.exists_cons with ⟨d, ds, hds, hd, -⟩
        rw [hnext, hds] at hread
        rw [if_neg hc, List.append_assoc, hds]
        exact read_quotes closesLines_readBasicLines hrun hd hread

/-- A string between single quotes is read back. -/
theorem readLiteral_append {cs : List Char} (hcs : ∀ c ∈ cs, isText c = true ∧ c ≠ '\'') :
    readLiteral (cs ++ '\'' :: rest) = some (cs, rest) := by
  induction cs with
  | nil => rw [List.nil_append, readLiteral, if_pos rfl]
  | cons c cs ih =>
      rw [List.forall_mem_cons] at hcs
      rw [List.cons_append, readLiteral, if_neg hcs.1.2, if_pos hcs.1.1, ih hcs.2]
      rfl

theorem le_longestRun (quote : Char) (run : Nat) (cs : List Char) :
    run ≤ longestRun quote run cs := by
  induction cs generalizing run with
  | nil => exact Nat.le_refl run
  | cons c cs ih =>
      rw [longestRun]
      by_cases hc : c = quote
      · rw [if_pos hc]
        exact Nat.le_of_succ_le (ih (run + 1))
      · rw [if_neg hc]
        exact Nat.le_max_left _ _

/-- A string over several lines between single quotes is read back if no more than two of
    them follow each other in it, those that wait in front included. -/
theorem readLiteralLines_append (hrest : rest.head? ≠ some '\'') {run : Nat} {cs : List Char}
    (hrun : longestRun '\'' run cs ≤ 2) (hcs : ∀ c ∈ cs, isText c = true ∨ c = '\n') :
    readLiteralLines (List.replicate run '\'' ++ (cs ++ '\'' :: '\'' :: '\'' :: rest)) =
      some (List.replicate run '\'' ++ cs, rest) := by
  induction cs generalizing run with
  | nil =>
      rw [List.nil_append, List.append_nil]
      exact read_closing closesLines_readLiteralLines hrun hrest
  | cons c cs ih =>
      rw [List.forall_mem_cons] at hcs
      rw [longestRun] at hrun
      by_cases hc : c = '\''
      · rw [if_pos hc] at hrun
        rw [hc, List.cons_append, replicate_append_cons, replicate_append_cons]
        exact ih hrun hcs.2
      · rw [if_neg hc] at hrun
        have hnext := ih (Nat.le_trans (Nat.le_max_right _ _) hrun) hcs.2
        rw [List.replicate_zero, List.nil_append, List.nil_append] at hnext
        have hread : readLiteralLines (c :: (cs ++ '\'' :: '\'' :: '\'' :: rest)) =
            some (c :: cs, rest) := by
          have htext : (isText c || c = '\n' || (c = '\r' &&
              lineFeedNext (cs ++ '\'' :: '\'' :: '\'' :: rest))) = true := by
            rw [Bool.or_eq_true, Bool.or_eq_true, decide_eq_true_eq]
            exact Or.inl hcs.1
          rw [readLiteralLines, if_neg hc, if_pos htext, hnext]
          rfl
        exact read_quotes closesLines_readLiteralLines
          (Nat.le_trans (Nat.le_max_left _ _) hrun) hc hread

end Bodies

section Styles

variable {cs rest : List Char}

theorem forall_ne_of_longestRun {quote : Char} (h : longestRun quote 0 cs = 0) :
    ∀ c ∈ cs, c ≠ quote := by
  induction cs with
  | nil => exact fun c hc => absurd hc List.not_mem_nil
  | cons c cs ih =>
      rw [longestRun] at h
      by_cases hc : c = quote
      · rw [if_pos hc] at h
        have hle := le_longestRun quote (0 + 1) cs
        omega
      · rw [if_neg hc] at h
        exact List.forall_mem_cons.mpr ⟨hc, ih (by omega)⟩

/-- The style of a string can show it. -/
theorem suits_styleOf (cs : List Char) : (styleOf cs).Suits cs := by
  have hplain (h : cs.any needsEscape = false) : ∀ c ∈ cs, c ≠ '\n' → isText c = true := by
    intro c hc hline
    rw [List.any_eq_false] at h
    exact isText_of_plain (Bool.eq_false_iff.mpr (h c hc)) hline
  simp only [styleOf]
  split
  · trivial
  split
  · next h =>
    simp only [Bool.and_eq_true, Bool.not_eq_true', decide_eq_true_eq, List.contains_eq_mem,
      decide_eq_false_iff_not] at h
    intro c hc
    have hline : c ≠ '\n' := fun heq => h.2 (heq ▸ hc)
    exact ⟨hplain h.1.1 c hc hline, forall_ne_of_longestRun h.1.2 c hc⟩
  split
  · trivial
  split
  · next h =>
    simp only [Bool.and_eq_true, Bool.not_eq_true', decide_eq_true_eq] at h
    refine ⟨h.2, fun c hc => ?_⟩
    by_cases hline : c = '\n'
    · exact Or.inr hline
    · exact Or.inl (hplain h.1 c hc hline)
  split <;> trivial

/-- A line end is dropped behind opening quotes, and nothing else. -/
theorem dropLineEnd_cons {c : Char} (hline : c ≠ '\n') (hreturn : c ≠ '\r') (cs : List Char) :
    dropLineEnd (c :: cs) = c :: cs := by
  have hnone : lineEnd? (c :: cs) = none := by
    unfold lineEnd?
    split
    · next h => exact absurd (List.cons.inj h).1 hline
    · next h => exact absurd (List.cons.inj h).1 hreturn
    · rfl
  rw [dropLineEnd, hnone, Option.getD_none]

/-- Behind the opening quotes a string of several lines is found as it was written. -/
theorem dropLineEnd_opening {body : List Char}
    (h : '\n' ∉ cs → ∃ c t, body = c :: t ∧ c ≠ '\n' ∧ c ≠ '\r') :
    dropLineEnd (openingLineEnd cs ++ body) = body := by
  rw [openingLineEnd, List.contains_eq_mem]
  by_cases hlines : '\n' ∈ cs
  · rw [if_pos (decide_eq_true hlines)]
    rfl
  · rw [if_neg (by rw [decide_eq_true_eq]; exact hlines), List.nil_append]
    rcases h hlines with ⟨c, t, rfl, hline, hreturn⟩
    exact dropLineEnd_cons hline hreturn t

theorem readQuoted_basic {t : List Char} (ht : ∀ u, t ≠ '"' :: '"' :: u) :
    readQuoted ('"' :: t) = readBasic .plain t := by
  unfold readQuoted
  split
  · next u h => exact absurd (List.cons.inj h).2 (ht u)
  · next h => exact absurd (List.cons.inj h).1 (by decide)
  · rfl

theorem readQuoted_literal {t : List Char} (ht : ∀ u, t ≠ '\'' :: '\'' :: u) :
    readQuoted ('\'' :: t) = readLiteral t := by
  unfold readQuoted
  split
  · next h => exact absurd (List.cons.inj h).1 (by decide)
  · next u h => exact absurd (List.cons.inj h).2 (ht u)
  · rfl

/-- An empty string of one line does not open one of several lines. -/
theorem quote_ne_quotes {quote : Char} (hrest : rest.head? ≠ some quote) (u : List Char) :
    quote :: rest ≠ quote :: quote :: u := by
  intro h
  rw [(List.cons.inj h).2] at hrest
  exact hrest rfl

/-- A string is read back from any style that can show it, if no quote stands behind it. -/
theorem readQuoted_writeIn {style : Style} (h : style.Suits cs)
    (hdouble : rest.head? ≠ some '"') (hsingle : rest.head? ≠ some '\'') :
    readQuoted (writeIn style cs ++ rest) = some (cs, rest) := by
  cases style with
  | basic =>
      have hone : ∀ u, escaped false 0 cs ++ '"' :: rest ≠ '"' :: '"' :: u := by
        cases cs with
        | nil => exact quote_ne_quotes hdouble
        | cons c cs =>
            rcases exists_escaped_cons false c cs with ⟨d, t, ht, -, -, hd⟩
            rw [ht]
            exact fun u heq => hd rfl (List.cons.inj heq).1
      have hread : readBasic .plain (escaped false 0 cs ++ '"' :: rest) = some (cs, rest) :=
        readBasic_escaped cs
      rw [← hread, ← readQuoted_basic hone, writeIn]
      simp only [List.append_assoc, List.cons_append, List.nil_append]
  | literal =>
      have hone : ∀ u, cs ++ '\'' :: rest ≠ '\'' :: '\'' :: u := by
        cases cs with
        | nil => exact quote_ne_quotes hsingle
        | cons c cs => exact fun u heq => (h c List.mem_cons_self).2 (List.cons.inj heq).1
      have hread : readLiteral (cs ++ '\'' :: rest) = some (cs, rest) := readLiteral_append h
      rw [← hread, ← readQuoted_literal hone, writeIn]
      simp only [List.append_assoc, List.cons_append, List.nil_append]
  | basicLines =>
      have hbody : '\n' ∉ cs → ∃ c t,
          escaped true 0 cs ++ '"' :: '"' :: '"' :: rest = c :: t ∧ c ≠ '\n' ∧ c ≠ '\r' := by
        intro hlines
        cases cs with
        | nil => exact ⟨'"', _, rfl, by decide, by decide⟩
        | cons c cs =>
            rcases exists_escaped_cons true c cs with ⟨d, t, ht, hreturn, hline, -⟩
            rw [ht]
            exact ⟨d, _, rfl, hline fun hc => hlines (hc ▸ List.mem_cons_self), hreturn⟩
      have hread := readBasicLines_escaped hdouble (Nat.zero_le 2) cs
      rw [List.replicate_zero, List.nil_append, List.nil_append] at hread
      rw [← hread, ← dropLineEnd_opening hbody, writeIn]
      simp only [List.append_assoc, List.cons_append, List.nil_append, readQuoted]
  | literalLines =>
      have hbody : '\n' ∉ cs → ∃ c t,
          cs ++ '\'' :: '\'' :: '\'' :: rest = c :: t ∧ c ≠ '\n' ∧ c ≠ '\r' := by
        intro hlines
        cases cs with
        | nil => exact ⟨'\'', _, rfl, by decide, by decide⟩
        | cons c cs =>
            refine ⟨c, _, rfl, fun hc => hlines (hc ▸ List.mem_cons_self), ?_⟩
            rintro rfl
            exact absurd (h.2 '\r' List.mem_cons_self) (by decide)
      have hread := readLiteralLines_append hsingle h.1 h.2
      rw [List.replicate_zero, List.nil_append, List.nil_append] at hread
      rw [← hread, ← dropLineEnd_opening hbody, writeIn]
      simp only [List.append_assoc, List.cons_append, List.nil_append, readQuoted]

/-- A string that was written is read back, if no quote stands behind it. -/
theorem readQuoted_writeQuoted (cs : List Char) (hdouble : rest.head? ≠ some '"')
    (hsingle : rest.head? ≠ some '\'') :
    readQuoted (writeQuoted cs ++ rest) = some (cs, rest) :=
  readQuoted_writeIn (suits_styleOf cs) hdouble hsingle

-- Of the five quotes at the end only the last three close the string.
example : writeQuoted ['\\', '\'', '\''] =
    ['\'', '\'', '\'', '\\', '\'', '\'', '\'', '\'', '\''] := by
  decide

end Styles

end Toml

end RegionBus

import RegionBus.Proofs.Toml.Numerals
import RegionBus.Proofs.Toml.Strings
import RegionBus.Toml.Document

/-!
# Settings Read Back

A document of settings has one line for each, with a bare key, an equals sign and a value.
Such a line is read by itself, whatever lines follow, so a document is read one line after
the other: the table that it makes has the settings in their order, if no key comes twice.

What a value has to do for this is in `Setting.Readable`: to be read back in front of a
line end. Numerals, switches and strings do so.

## Main definitions

* `Setting`: A key, the text of a value, and the value.
* `Setting.line`: The line of a setting.
* `Setting.Readable`: A setting that can be read back from its line.

## Theorems

* `readValue_numeral`, `readValue_switch`, `readValue_string`: The values.
* `readLine_line`: One line.
* `readLinesIn_lines`: All lines of a document.
* `addEntries_fresh`: The table that settings make.
* `readDocument_settings`: A document of settings.
-/

namespace RegionBus

namespace Toml

section Values

variable {rest : List Char}

/-- A text without quotes or brackets ends with its line. -/
theorem splitScalar_line {cs : List Char} (hcs : ∀ c ∈ cs, (!endsScalar c) = true) :
    splitScalar (cs ++ '\n' :: rest) = (cs, '\n' :: rest) := by
  have hend : ¬ (!endsScalar '\n') = true := by decide
  rw [splitScalar, List.takeWhile_append_of_pos hcs, List.dropWhile_append_of_pos hcs,
    List.takeWhile_cons_of_neg (p := fun c => !endsScalar c) hend,
    List.dropWhile_cons_of_neg (p := fun c => !endsScalar c) hend, List.append_nil]
  rfl

/-- What begins with no quote or bracket is read as a value without them. -/
theorem readValue_scalar {c : Char} (hc : c ∉ ['"', '\'', '[', '\x7b']) (cs : List Char) :
    readValue (c :: cs) = readScalar (c :: cs) := by
  simp only [List.mem_cons, List.not_mem_nil, or_false, not_or] at hc
  rw [readValue, readValueIn]
  · exact fun _ h => hc.1 (List.cons.inj h).1
  · exact fun _ h => hc.2.1 (List.cons.inj h).1
  · exact fun _ h => hc.2.2.1 (List.cons.inj h).1
  · exact fun _ h => hc.2.2.2 (List.cons.inj h).1

/-- What begins with a quote is read as a string. -/
theorem readValue_quoted {c : Char} (hc : c = '"' ∨ c = '\'') (cs : List Char) :
    readValue (c :: cs) =
      (readQuoted (c :: cs)).map fun (s, rest) => (.string (String.ofList s), rest) := by
  rcases hc with rfl | rfl
  · rw [readValue, readValueIn]
  · rw [readValue, readValueIn]

/-- A text without quotes or brackets is read up to the end of its line. -/
theorem readScalar_line {cs : List Char} (hcs : ∀ c ∈ cs, (!endsScalar c) = true) {v : Value}
    (hv : scalar? cs = some v) : readScalar (cs ++ '\n' :: rest) = some (v, '\n' :: rest) := by
  rw [readScalar, splitScalar_line hcs]
  simp only [hv, Option.map_some]

theorem endsScalar_of_isDigit {c : Char} (hc : isDigit c = true) : (!endsScalar c) = true := by
  rw [Bool.not_eq_true', Bool.eq_false_iff]
  intro hends
  simp only [endsScalar, isBlank, Bool.or_eq_true, decide_eq_true_eq] at hends
  rcases hends with (((((((rfl | rfl) | rfl) | rfl) | rfl) | rfl) | rfl) | rfl) <;>
    exact absurd hc (by decide)

/-- A numeral is no word, so it is an integer. -/
theorem scalar?_toDigits {n : Nat} (hn : n < 2 ^ 128) :
    scalar? (Nat.toDigits 10 n) = some (.integer n) := by
  rcases exists_toDigits_cons n with ⟨c, cs, hcs, hdigit⟩
  have htrue : Nat.toDigits 10 n ≠ ['t', 'r', 'u', 'e'] := by
    rw [hcs]
    rintro ⟨⟩
    exact absurd hdigit (by decide)
  have hfalse : Nat.toDigits 10 n ≠ ['f', 'a', 'l', 's', 'e'] := by
    rw [hcs]
    rintro ⟨⟩
    exact absurd hdigit (by decide)
  rw [scalar?, if_neg htrue, if_neg hfalse, integer?_toDigits hn]

/-- A numeral is read back as its number. -/
theorem readValue_numeral {n : Nat} (hn : n < 2 ^ 128) :
    readValue (Nat.toDigits 10 n ++ '\n' :: rest) = some (.integer n, '\n' :: rest) := by
  have hends : ∀ c ∈ Nat.toDigits 10 n, (!endsScalar c) = true := fun c hc =>
    endsScalar_of_isDigit (isDigit_of_mem_toDigits hc)
  have hread : readScalar (Nat.toDigits 10 n ++ '\n' :: rest) =
      some (.integer n, '\n' :: rest) := readScalar_line hends (scalar?_toDigits hn)
  rcases exists_toDigits_cons n with ⟨c, cs, hcs, hdigit⟩
  have hc : c ∉ ['"', '\'', '[', '\x7b'] := by
    intro hmem
    have hnot : ['"', '\'', '[', '\x7b'].all (fun d => !isDigit d) = true := by decide
    have hc := List.all_eq_true.mp hnot c hmem
    rw [hdigit] at hc
    cases hc
  rw [hcs] at hread ⊢
  exact (readValue_scalar hc _).trans hread

/-- So is a switch. -/
theorem readValue_switch (b : Bool) :
    readValue ((if b then "true" else "false").toList ++ '\n' :: rest) =
      some (.boolean b, '\n' :: rest) := by
  cases b with
  | true =>
      have hends : ['t', 'r', 'u', 'e'].all (fun c => !endsScalar c) = true := by decide
      exact (readValue_scalar (by decide) _).trans
        (readScalar_line (List.all_eq_true.mp hends) rfl)
  | false =>
      have hends : ['f', 'a', 'l', 's', 'e'].all (fun c => !endsScalar c) = true := by decide
      exact (readValue_scalar (by decide) _).trans
        (readScalar_line (List.all_eq_true.mp hends) rfl)

/-- A string begins with a quote. -/
theorem exists_writeQuoted_cons (cs : List Char) :
    ∃ c t, writeQuoted cs = c :: t ∧ (c = '"' ∨ c = '\'') := by
  rw [writeQuoted]
  cases styleOf cs with
  | basic | basicLines => exact ⟨'"', _, rfl, Or.inl rfl⟩
  | literal | literalLines => exact ⟨'\'', _, rfl, Or.inr rfl⟩

/-- And a string. -/
theorem readValue_string (s : String) :
    readValue (writeQuoted s.toList ++ '\n' :: rest) = some (.string s, '\n' :: rest) := by
  have hread : readQuoted (writeQuoted s.toList ++ '\n' :: rest) =
      some (s.toList, '\n' :: rest) :=
    readQuoted_writeQuoted s.toList (fun h => absurd (Option.some.inj h) (by decide))
      fun h => absurd (Option.some.inj h) (by decide)
  rcases exists_writeQuoted_cons s.toList with ⟨c, t, ht, hc⟩
  rw [ht] at hread ⊢
  rw [List.cons_append, readValue_quoted hc, ← List.cons_append, hread, Option.map_some]
  simp only [String.ofList_toList]

end Values

/-- A key, the text of a value, and the value that the text stands for. -/
structure Setting where
  /-- The key. -/
  key : String
  /-- The text of the value. -/
  text : List Char
  /-- The value. -/
  value : Value

namespace Setting

/-- The line of a setting. -/
def line (s : Setting) : List Char :=
  s.key.toList ++ [' ', '=', ' '] ++ s.text ++ ['\n']

/-- The line as it is read. -/
def entry (s : Setting) : Line :=
  .entry ⟨[], s.key, s.value⟩

/-- A setting that can be read back from its line. -/
structure Readable (s : Setting) : Prop where
  /-- The key is not empty. -/
  key_ne : s.key.toList ≠ []
  /-- The key needs no quotes. -/
  bare : s.key.toList.all isBareKey = true
  /-- There is a text, and no blank in front of it. -/
  unindented : ∃ c cs, s.text = c :: cs ∧ isBlank c = false
  /-- The text is read back in front of a line end. -/
  reads : ∀ rest, readValue (s.text ++ '\n' :: rest) = some (s.value, '\n' :: rest)

end Setting

section Lines

variable {rest : List Char}

/-- What a bare key is made of is no other mark. -/
theorem ne_of_isBareKey {c d : Char} (hc : isBareKey c = true) (hd : isBareKey d = false) :
    c ≠ d := by
  rintro rfl
  exact Bool.false_ne_true (hd.symm.trans hc)

theorem isBareKey_of_isDigit {c : Char} (h : isDigit c = true) : isBareKey c = true := by
  simp only [isBareKey, h, Bool.true_or]

theorem isBlank_of_isBareKey {c : Char} (h : isBareKey c = true) : isBlank c = false := by
  have hspace : c ≠ ' ' := ne_of_isBareKey h (by decide)
  have htab : c ≠ '\t' := ne_of_isBareKey h (by decide)
  rw [isBlank, decide_eq_false hspace, decide_eq_false htab, Bool.or_self]

theorem skipBlanks_cons {c : Char} (hc : isBlank c = false) (cs : List Char) :
    skipBlanks (c :: cs) = c :: cs := by
  rw [skipBlanks, List.dropWhile_cons_of_neg (by rw [hc]; exact Bool.false_ne_true)]

/-- A bare key is read up to the equals sign behind it. -/
theorem readKey_bare {c : Char} {cs : List Char} (hbare : ∀ d ∈ c :: cs, isBareKey d = true) :
    readKey (c :: cs ++ ' ' :: '=' :: rest) =
      some (([], String.ofList (c :: cs)), '=' :: rest) := by
  have hstop : ¬ isBareKey ' ' = true := by decide
  have htake : (c :: cs ++ ' ' :: '=' :: rest).takeWhile isBareKey = c :: cs := by
    rw [List.takeWhile_append_of_pos hbare, List.takeWhile_cons_of_neg hstop, List.append_nil]
  have hdrop : (c :: cs ++ ' ' :: '=' :: rest).dropWhile isBareKey = ' ' :: '=' :: rest := by
    rw [List.dropWhile_append_of_pos hbare, List.dropWhile_cons_of_neg hstop]
  have hhead : (c :: cs ++ ' ' :: '=' :: rest).head?.any isBareKey = true :=
    hbare c List.mem_cons_self
  have hskip : skipBlanks (c :: cs ++ ' ' :: '=' :: rest) = c :: cs ++ ' ' :: '=' :: rest :=
    skipBlanks_cons (isBlank_of_isBareKey (hbare c List.mem_cons_self)) _
  rw [readKey, hskip, readSimpleKey, if_pos hhead, htake, hdrop]
  rfl

variable {s : Setting}

theorem line_append (s : Setting) (rest : List Char) : s.line ++ rest =
    s.key.toList ++ ' ' :: '=' :: ' ' :: (s.text ++ '\n' :: rest) := by
  simp only [Setting.line, List.append_assoc, List.cons_append, List.nil_append]

/-- The line of a setting is read up to its end. -/
theorem readLine_line (h : s.Readable) :
    readLine (s.line ++ rest) = some (s.entry, '\n' :: rest) := by
  rcases List.exists_cons_of_ne_nil h.key_ne with ⟨c, cs, hkey⟩
  rcases h.unindented with ⟨d, t, htext, hblank⟩
  have hbare := List.all_eq_true.mp h.bare
  rw [hkey] at hbare
  have hbracket : c ≠ '[' := ne_of_isBareKey (hbare c List.mem_cons_self) (by decide)
  have hname : String.ofList (c :: cs) = s.key := by rw [← hkey, String.ofList_toList]
  have hkeyRead : readKey (c :: cs ++ ' ' :: '=' :: ' ' :: (s.text ++ '\n' :: rest)) =
      some (([], s.key), '=' :: ' ' :: (s.text ++ '\n' :: rest)) := by
    rw [readKey_bare hbare, hname]
  have hskip : skipBlanks (' ' :: (s.text ++ '\n' :: rest)) = s.text ++ '\n' :: rest := by
    rw [htext]
    exact skipBlanks_cons hblank _
  rw [line_append, hkey, List.cons_append, readLine, ← List.cons_append, hkeyRead]
  · simp only [hskip, h.reads, Option.map_some]
    rfl
  · exact fun _ heq => hbracket (List.cons.inj heq).1
  · exact fun _ heq => hbracket (List.cons.inj heq).1

/-- The line end behind a value is all that is left of its line. -/
theorem endLine_lineEnd (rest : List Char) : endLine ('\n' :: rest) = some rest := rfl

/-- A line begins with its key. -/
theorem exists_line_cons (h : s.Readable) (rest : List Char) :
    ∃ c t, s.line ++ rest = c :: t ∧ isBareKey c = true := by
  rcases List.exists_cons_of_ne_nil h.key_ne with ⟨c, cs, hkey⟩
  have hbare := List.all_eq_true.mp h.bare
  rw [hkey] at hbare
  exact ⟨c, _, by rw [line_append, hkey, List.cons_append], hbare c List.mem_cons_self⟩

/-- Nothing is skipped in front of a key. -/
theorem skipFiller_cons {c : Char} (h : isBareKey c = true) (t : List Char) :
    skipFiller false (c :: t) = some (c :: t) := by
  have hcomment : c ≠ '#' := ne_of_isBareKey h (by decide)
  have hline : c ≠ '\n' := ne_of_isBareKey h (by decide)
  have hreturn : c ≠ '\r' := ne_of_isBareKey h (by decide)
  rw [skipFiller, if_neg hcomment, isBlank_of_isBareKey h, decide_eq_false hline,
    decide_eq_false hreturn]
  rfl

/-- A document of settings is read line by line. -/
theorem readLinesIn_lines {settings : List Setting} (h : ∀ s ∈ settings, s.Readable)
    {fuel : Nat} (hfuel : settings.length < fuel) :
    readLinesIn fuel (settings.flatMap Setting.line) = some (settings.map Setting.entry) := by
  induction settings generalizing fuel with
  | nil =>
      rcases Nat.exists_eq_add_one_of_ne_zero (Nat.ne_zero_of_lt hfuel) with ⟨n, rfl⟩
      rfl
  | cons s settings ih =>
      rcases Nat.exists_eq_add_one_of_ne_zero (Nat.ne_zero_of_lt hfuel) with ⟨n, rfl⟩
      rw [List.forall_mem_cons] at h
      rw [List.length_cons, Nat.add_lt_add_iff_right] at hfuel
      have hline : readLine (s.line ++ settings.flatMap Setting.line) =
          some (s.entry, '\n' :: settings.flatMap Setting.line) := readLine_line h.1
      rcases exists_line_cons h.1 (settings.flatMap Setting.line) with ⟨c, t, hcons, hbare⟩
      rw [hcons] at hline
      rw [List.flatMap_cons, hcons, readLinesIn, skipFiller_cons hbare]
      simp only [hline, endLine_lineEnd, ih h.2 hfuel, Option.map_some, List.map_cons]

/-- Every line has a character. -/
theorem length_le_lines (settings : List Setting) :
    settings.length ≤ (settings.flatMap Setting.line).length := by
  induction settings with
  | nil => exact Nat.le_refl 0
  | cons s settings ih =>
      have hline : 0 < s.line.length := by
        rw [Setting.line, List.length_append]
        exact Nat.succ_pos _
      rw [List.flatMap_cons, List.length_append, List.length_cons]
      omega

end Lines

section Tables

/-- Lines without headers are the values of the document itself. -/
theorem ofLines_entries (settings : List Setting) :
    Sections.ofLines (settings.map Setting.entry) =
      ⟨settings.map fun s => ⟨[], s.key, s.value⟩, []⟩ := by
  induction settings with
  | nil => rfl
  | cons s settings ih =>
      rw [List.map_cons, Setting.entry, Sections.ofLines, ih]
      rfl

/-- The name and the value of a setting. -/
def Setting.named (s : Setting) : String × Value := (s.key, s.value)

/-- A value under a key that the table does not have is put behind the others. -/
theorem insert_fresh {t : Table} {key : String} (h : key ∉ t.map Prod.fst) (v : Value) :
    insert t [] key v = some (t ++ [(key, v)]) := by
  have hnot : ∀ e ∈ t, ¬ decide (e.1 = key) = true := by
    intro e he hkey
    exact h (List.mem_map.mpr ⟨e, he, of_decide_eq_true hkey⟩)
  have hfind : t.find? key = none := by
    rw [Table.find?, List.find?_eq_none.mpr hnot, Option.map_none]
  have hany : (t.any fun e => e.1 = key) = false := List.any_eq_false.mpr hnot
  rw [insert, insertAt, if_pos (beq_self_eq_true false), Table.alter?, hfind, Option.map_some,
    Table.put, hany]
  rfl

/-- Settings with different keys make a table in their order. -/
theorem addEntries_fresh {t : Table} {settings : List Setting}
    (h : (t.map Prod.fst ++ settings.map Setting.key).Nodup) :
    t.addEntries (settings.map fun s => ⟨[], s.key, s.value⟩) =
      some (t ++ settings.map Setting.named) := by
  induction settings generalizing t with
  | nil => rw [List.map_nil, List.map_nil, List.append_nil]; rfl
  | cons s settings ih =>
      have hfresh : s.key ∉ t.map Prod.fst := fun hmem =>
        (List.nodup_append.mp h).2.2 _ hmem _ List.mem_cons_self rfl
      have hnext : ((t ++ [s.named]).map Prod.fst ++ settings.map Setting.key).Nodup := by
        rw [List.map_append, List.append_assoc]
        exact h
      have hrest := ih hnext
      rw [List.append_assoc] at hrest
      rw [Table.addEntries, List.map_cons, List.foldlM_cons, insert_fresh hfresh]
      exact hrest

end Tables

/-- A document of settings has no byte order mark. -/
theorem dropByteOrderMark_lines {settings : List Setting} (h : ∀ s ∈ settings, s.Readable) :
    dropByteOrderMark (settings.flatMap Setting.line) = settings.flatMap Setting.line := by
  cases settings with
  | nil => rfl
  | cons s settings =>
      rcases exists_line_cons (h s List.mem_cons_self) (settings.flatMap Setting.line) with
        ⟨c, t, hcons, hbare⟩
      have hmark : c ≠ '\uFEFF' := ne_of_isBareKey hbare (by decide)
      rw [List.flatMap_cons, hcons, dropByteOrderMark]
      exact fun _ heq => hmark (List.cons.inj heq).1

/-- A document of settings is the table of their values, if no key comes twice. -/
theorem readDocument_settings {settings : List Setting} (h : ∀ s ∈ settings, s.Readable)
    (hkeys : (settings.map Setting.key).Nodup) :
    readDocument (String.ofList (settings.flatMap Setting.line)) =
      some (settings.map Setting.named) := by
  have hlines : readLines (settings.flatMap Setting.line) = some (settings.map Setting.entry) :=
    readLinesIn_lines h (Nat.lt_succ_of_le (length_le_lines settings))
  have htable : Table.addEntries [] (settings.map fun s => ⟨[], s.key, s.value⟩) =
      some (settings.map Setting.named) := addEntries_fresh hkeys
  rw [readDocument, String.toList_ofList, dropByteOrderMark_lines h, hlines,
    Option.bind_some, ofLines_entries, Table.ofSections]
  simp only [htable]
  rfl

end Toml

end RegionBus

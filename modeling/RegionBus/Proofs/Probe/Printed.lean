import Mathlib.Data.List.DropRight
import RegionBus.Probe.Run
import RegionBus.Proofs.Probe.Addresses
import RegionBus.Proofs.Text.Json

/-!
# Reports as they are Printed

What a report says has to be found again in what is printed. `Report.Printed` says how it
is found by somebody who knows the layout and nothing else. Text is taken apart into
lines, a line about an address into columns, and a line about a hit into words. JSON is
read by a reader of JSON. Either way there is one row for each finding and behind them
one for each hit, in the same order. An address or a value in a row is one that the
probe itself would read as the word it was printed for.

Columns begin at fixed positions, counted from either end of the line, since the name of
a window can be longer than its column. The other names have to fit theirs, which is
asked of a report in `Finding.Tidy`. JSON asks for nothing.

## Main definitions

* `Unbroken`, `Finding.Tidy`: Names that can stand in a column.
* `cell`: What stands in a column of a line.
* `Finding.InLine`, `HitInLine`: A row of text.
* `Finding.InObject`, `HitInObject`: A row of JSON.
* `Report.Printed`: What was printed says what is in a report.

## Theorems

* `cell_column`: What was put into a column is found there.
* `inLine_line`, `hitInLine_hitLine`: The lines of a report.
* `printed_showReport`: A report is printed.
-/

namespace RegionBus

namespace Probe

/-- A text stays on one line, and can be told from blanks behind it. -/
def Unbroken (s : String) : Prop :=
  '\n' ∉ s.toList ∧ s.toList.getLast? ≠ some ' '

instance (s : String) : Decidable (Unbroken s) :=
  inferInstanceAs (Decidable (_ ∧ _))

/-- What is printed of a finding can stand in columns. -/
structure Finding.Tidy (f : Finding) : Prop where
  /-- The name of the handler fits its column. -/
  length_le : f.handler.length ≤ 16
  /-- It can be told from what is behind it. -/
  handler : Unbroken f.handler
  /-- So can that of the window. -/
  window : Unbroken (f.window.getD "-")

/-- What stands in a column of a line, without the blanks that fill it up. -/
def cell (first width : Nat) (line : List Char) : String :=
  String.ofList (((line.drop first).take width).rdropWhile (· == ' '))

/-- A line of text says what was found. -/
structure Finding.InLine (f : Finding) (line : List Char) : Prop where
  /-- The first column is the address. -/
  address : Reading.address (cell 0 10 line) = .ok f.address
  /-- The next one is the kind of device. -/
  device : cell 12 14 line = f.device.name
  /-- The next one is the name of the handler. -/
  handler : cell 27 16 line = f.handler
  /-- The next one is the window, or a dash, up to the last column. -/
  window : cell 44 (line.length - 55) line = f.window.getD "-"
  /-- The last column is the word that was read. -/
  value : Reading.address (cell (line.length - 10) 10 line) = .ok f.value

/-- A line of text says which breakpoint was hit, by what, and where. -/
def HitInLine (hit : Hit) (line : List Char) : Prop :=
  ∃ address, (line.splitOn ' ').map String.ofList =
      ["breakpoint", hit.index.repr, "hit:", hitKind hit, "at", address] ∧
    Reading.address address = .ok hit.address

/-- An object of JSON says what was found. -/
def Finding.InObject (f : Finding) (row : Text.Json) : Prop :=
  ∃ address value, row = .object [
      ("address", .string address),
      ("device", .string f.device.name),
      ("handler", .string f.handler),
      ("window", f.window.elim .null .string),
      ("value", .string value)] ∧
    Reading.address address = .ok f.address ∧ Reading.address value = .ok f.value

/-- An object of JSON says which breakpoint was hit, where, and by what. -/
def HitInObject (hit : Hit) (row : Text.Json) : Prop :=
  ∃ address, row = .object [
      ("index", .number hit.index),
      ("address", .string address),
      ("kind", .string (hitKind hit))] ∧
    Reading.address address = .ok hit.address

/-- What was printed, as JSON or not, says what is in a report and nothing else. -/
structure Report.Printed (r : Report) (json : Bool) (text : String) : Prop where
  /-- There is a line for each finding, and behind them one for each hit. -/
  lines : json = false → ∃ rows hits, text.toList.splitOn '\n' = rows ++ hits ++ [[]] ∧
    List.Forall₂ Finding.InLine r.findings rows ∧ List.Forall₂ HitInLine r.hits hits
  /-- There is an array with an object for each finding, and one for the hits. -/
  members : json = true → ∃ rows hits, Text.Json.read? text =
      some (.object [("probes", .array rows), ("hits", .array hits)]) ∧
    List.Forall₂ Finding.InObject r.findings rows ∧ List.Forall₂ HitInObject r.hits hits

section Columns

/-- A column in front of others. -/
theorem cell_append {before text after : List Char} {first width : Nat}
    (hbefore : before.length = first) (htext : text.length = width) :
    cell first width (before ++ (text ++ after)) =
      String.ofList (text.rdropWhile (· == ' ')) := by
  rw [cell, List.drop_left' hbefore, List.take_left' htext]

theorem rdropWhile_replicate (chars : List Char) (n : Nat) :
    (chars ++ List.replicate n ' ').rdropWhile (· == ' ') = chars.rdropWhile (· == ' ') := by
  induction n with
  | zero => rw [List.replicate_zero, List.append_nil]
  | succ n ih =>
      rw [List.replicate_succ', ← List.append_assoc, List.rdropWhile_concat_pos _ _ _ rfl, ih]

/-- What does not end with a blank has none to lose. -/
theorem rdropWhile_eq_self {chars : List Char} (h : chars.getLast? ≠ some ' ') :
    chars.rdropWhile (· == ' ') = chars := by
  rw [List.rdropWhile_eq_self_iff]
  intro hne hlast
  rw [List.getLast?_eq_some_getLast hne, eq_of_beq hlast] at h
  exact h rfl

theorem length_column (width : Nat) (s : String) :
    (column width s).toList.length = max width s.length := by
  rw [column, String.toList_append, String.toList_ofList, List.length_append,
    List.length_replicate, String.length_toList]
  omega

theorem length_column_of_le {width : Nat} {s : String} (h : s.length ≤ width) :
    (column width s).toList.length = width := by
  rw [length_column]
  omega

/-- What was put into a column is found there. -/
theorem cell_column {s : String} (h : Unbroken s) {width first size : Nat}
    {before after : List Char} (hbefore : before.length = first)
    (hsize : (column width s).toList.length = size) :
    cell first size (before ++ ((column width s).toList ++ after)) = s := by
  rw [cell_append hbefore hsize, column, String.toList_append, String.toList_ofList,
    rdropWhile_replicate, rdropWhile_eq_self h.2, String.ofList_toList]

theorem not_mem_column {s : String} (h : Unbroken s) (width : Nat) :
    '\n' ∉ (column width s).toList := by
  rw [column, String.toList_append, String.toList_ofList, List.mem_append]
  rintro (hmem | hmem)
  · exact h.1 hmem
  · exact absurd (List.eq_of_mem_replicate hmem) (by decide)

end Columns

section Words

theorem length_hexWord (a : UInt32) : (Text.hexWord a).toList.length = 10 := by
  have hlt := a.toNat_lt
  have hdigits : (Nat.toDigits 16 a.toNat).length ≤ 8 :=
    (Nat.length_toDigits_le_iff (by decide) (by decide)).mpr hlt
  have hpadded : (Text.hexPadded 8 a.toNat).toList.length = 8 := by
    rw [Text.hexPadded, String.toList_ofList, List.length_leftpad, Text.hexNumeral, List.length_map]
    omega
  rw [Text.hexWord, String.toList_append, List.length_append, hpadded]
  rfl

/-- No digit is a blank or ends a line. -/
theorem DigitOf.ne_blank {c : Char} {d : Nat} (h : DigitOf 16 c d) : c ≠ ' ' ∧ c ≠ '\n' := by
  have hlower : ∀ d < 16, Nat.digitChar d ≠ ' ' ∧ Nat.digitChar d ≠ '\n' := by decide
  have hupper : ∀ d < 16, (Nat.digitChar d).toUpper ≠ ' ' ∧
      (Nat.digitChar d).toUpper ≠ '\n' := by
    decide
  rcases h with ⟨hd, rfl | rfl⟩
  · exact hlower d hd
  · exact hupper d hd

/-- A text can be looked through for blanks and line ends. -/
theorem ne_blank_of_mem_all {cs : List Char} {c : Char} (hc : c ∈ cs)
    (hall : cs.all (fun c => c != ' ' && c != '\n') = true) : c ≠ ' ' ∧ c ≠ '\n' := by
  have hboth := List.all_eq_true.mp hall c hc
  rw [Bool.and_eq_true, bne_iff_ne, bne_iff_ne] at hboth
  exact hboth

theorem ne_blank_of_mem_hexWord {a : UInt32} {c : Char} (hc : c ∈ (Text.hexWord a).toList) :
    c ≠ ' ' ∧ c ≠ '\n' := by
  rcases numeral_hexPadded 8 a.toNat with ⟨-, ds, hds, -⟩
  rw [Text.hexWord, String.toList_append, List.mem_append] at hc
  rcases hc with hc | hc
  · exact ne_blank_of_mem_all hc rfl
  · rcases List.mem_iff_getElem.mp hc with ⟨i, hi, rfl⟩
    exact (hds.get hi (hds.length_eq ▸ hi)).ne_blank

/-- An address fills its column. -/
theorem cell_hexWord (a : UInt32) {before after : List Char} {first : Nat}
    (hbefore : before.length = first) :
    Reading.address (cell first 10 (before ++ ((Text.hexWord a).toList ++ after))) = .ok a := by
  have hlast : (Text.hexWord a).toList.getLast? ≠ some ' ' := fun hlast =>
    (ne_blank_of_mem_hexWord (List.mem_of_getLast? hlast)).1 rfl
  rw [cell_append hbefore (length_hexWord a), rdropWhile_eq_self hlast, String.ofList_toList]
  exact (writtenLaw a).plain

theorem ne_blank_of_mem_repr {n : Nat} {c : Char} (hc : c ∈ n.repr.toList) :
    c ≠ ' ' ∧ c ≠ '\n' := by
  rw [Nat.toList_repr] at hc
  have hdigit : c.isDigit = true := Nat.isDigit_of_mem_toDigits (by decide) (by decide) hc
  constructor
  · rintro rfl
    cases hdigit
  · rintro rfl
    cases hdigit

end Words

section Lines

/-- The line of a finding, without its end. Every column stands between what is in front
    of it and what is behind it. -/
def Finding.line (f : Finding) : List Char :=
  [] ++ ((Text.hexWord f.address).toList ++ ([' ', ' '] ++ ((column 14 f.device.name).toList ++
    ([' '] ++ ((column 16 f.handler).toList ++ ([' '] ++
      ((column 20 (f.window.getD "-")).toList ++ ([' '] ++ ((Text.hexWord f.value).toList ++
        [])))))))))

theorem toList_text (f : Finding) : f.text.toList = f.line ++ ['\n'] := by
  rw [Finding.text, Finding.line]
  simp only [String.toList_append, List.append_assoc, List.nil_append]
  rfl

theorem device_name (kind : DeviceKind) : kind.name.length ≤ 14 ∧ Unbroken kind.name := by
  cases kind <;> decide

theorem not_mem_line {f : Finding} (h : f.Tidy) : '\n' ∉ f.line := by
  have hword : ∀ a, '\n' ∉ (Text.hexWord a).toList := fun a hmem =>
    (ne_blank_of_mem_hexWord hmem).2 rfl
  have hblank : '\n' ∉ [' '] ∧ '\n' ∉ [' ', ' '] := by decide
  simp only [Finding.line, List.mem_append, not_or]
  exact ⟨List.not_mem_nil, hword f.address, hblank.2, not_mem_column (device_name f.device).2 14,
    hblank.1, not_mem_column h.handler 16, hblank.1, not_mem_column h.window 20, hblank.1,
    hword f.value, List.not_mem_nil⟩

/-- The columns of a finding begin where they should. -/
theorem inLine_line {f : Finding} (h : f.Tidy) : f.InLine f.line := by
  have haddress := length_hexWord f.address
  have hvalue := length_hexWord f.value
  have hdevice := length_column_of_le (device_name f.device).1
  have hhandler := length_column_of_le h.length_le
  have hlength : f.line.length = 55 + (column 20 (f.window.getD "-")).toList.length := by
    simp only [Finding.line, List.length_append, List.length_cons, List.length_nil, haddress,
      hdevice, hhandler, hvalue]
    omega
  -- Each column is split from all that is in front of it, whose length is where it begins.
  constructor
  case address =>
    rw [Finding.line]
    exact cell_hexWord f.address List.length_nil
  case device =>
    rw [Finding.line]
    iterate 2 rw [← List.append_assoc]
    refine cell_column (device_name f.device).2 ?_ hdevice
    simp only [List.length_append, List.length_cons, List.length_nil, haddress]
  case handler =>
    rw [Finding.line]
    iterate 4 rw [← List.append_assoc]
    refine cell_column h.handler ?_ hhandler
    simp only [List.length_append, List.length_cons, List.length_nil, haddress, hdevice]
  case window =>
    rw [hlength, Nat.add_sub_cancel_left, Finding.line]
    iterate 6 rw [← List.append_assoc]
    refine cell_column h.window ?_ rfl
    simp only [List.length_append, List.length_cons, List.length_nil, haddress, hdevice, hhandler]
  case value =>
    rw [hlength, Finding.line]
    iterate 8 rw [← List.append_assoc]
    refine cell_hexWord f.value ?_
    simp only [List.length_append, List.length_cons, List.length_nil, haddress, hdevice, hhandler]
    omega

/-- The words of a hit. -/
def hitWords (hit : Hit) : List (List Char) :=
  ["breakpoint", hit.index.repr, "hit:", hitKind hit, "at", Text.hexWord hit.address].map
    String.toList

/-- The line of a hit, without its end. -/
def hitLine (hit : Hit) : List Char :=
  [' '].intercalate (hitWords hit)

theorem toList_hitText (hit : Hit) : (hitText hit).toList = hitLine hit ++ ['\n'] := by
  rw [hitText, hitLine, hitWords]
  simp only [String.toList_append, List.append_assoc, List.map_cons, List.map_nil,
    List.intercalate_cons_cons, List.intercalate_singleton]
  rfl

/-- No word of a hit has a blank or a line end in it. -/
theorem ne_blank_of_mem_hitWords {hit : Hit} {word : List Char} (hword : word ∈ hitWords hit)
    {c : Char} (hc : c ∈ word) : c ≠ ' ' ∧ c ≠ '\n' := by
  have hkind : ∀ c ∈ (hitKind hit).toList, c ≠ ' ' ∧ c ≠ '\n' := by
    rw [hitKind]
    split <;> exact fun c hc => ne_blank_of_mem_all hc rfl
  rw [hitWords] at hword
  simp only [List.map_cons, List.map_nil, List.mem_cons, List.not_mem_nil, or_false] at hword
  rcases hword with rfl | rfl | rfl | rfl | rfl | rfl
  · exact ne_blank_of_mem_all hc rfl
  · exact ne_blank_of_mem_repr hc
  · exact ne_blank_of_mem_all hc rfl
  · exact hkind c hc
  · exact ne_blank_of_mem_all hc rfl
  · exact ne_blank_of_mem_hexWord hc

theorem not_mem_intercalate {words : List (List Char)} (h : ∀ word ∈ words, '\n' ∉ word) :
    '\n' ∉ [' '].intercalate words := by
  induction words with
  | nil => exact List.not_mem_nil
  | cons word words ih =>
      rw [List.forall_mem_cons] at h
      cases words with
      | nil =>
          rw [List.intercalate_singleton]
          exact h.1
      | cons next words =>
          simp only [List.intercalate_cons_cons, List.mem_append, List.mem_singleton, not_or]
          exact ⟨⟨h.1, by decide⟩, ih h.2⟩

theorem not_mem_hitLine (hit : Hit) : '\n' ∉ hitLine hit :=
  not_mem_intercalate fun _ hword hmem => (ne_blank_of_mem_hitWords hword hmem).2 rfl

/-- The words of a hit are told apart by the blanks. -/
theorem hitInLine_hitLine (hit : Hit) : HitInLine hit (hitLine hit) := by
  have hblank : ∀ word ∈ hitWords hit, ' ' ∉ word := fun word hword hmem =>
    (ne_blank_of_mem_hitWords hword hmem).1 rfl
  refine ⟨Text.hexWord hit.address, ?_, (writtenLaw hit.address).plain⟩
  -- Splitting undoes the joining, since no word has a blank.
  rw [hitLine, List.splitOn_intercalate ' ' hblank (List.cons_ne_nil _ _), hitWords]
  simp only [List.map_cons, List.map_nil, String.ofList_toList]

/-- Lines that stand one behind the other are told apart by their ends. -/
theorem splitOn_lines {lines : List (List Char)} (h : ∀ line ∈ lines, '\n' ∉ line) :
    (lines.flatMap fun line => line ++ ['\n']).splitOn '\n' = lines ++ [[]] := by
  -- A line end behind each is one between any two, and an empty line last.
  have hjoin : ['\n'].intercalate (lines ++ [[]]) = lines.flatMap fun line => line ++ ['\n'] := by
    clear h
    induction lines with
    | nil => rfl
    | cons line lines ih =>
        have hne : lines ++ [[]] ≠ [] := List.append_ne_nil_of_right_ne_nil lines (by decide)
        rw [List.cons_append, List.intercalate_cons_of_ne_nil hne, ih, List.flatMap_cons]
  rw [← hjoin]
  refine List.splitOn_intercalate '\n' ?_ (List.append_ne_nil_of_right_ne_nil lines (by decide))
  exact List.forall_mem_append.mpr ⟨h, by decide⟩

end Lines

/-- What is printed says what is in the report. -/
theorem printed_showReport (args : Arguments) {r : Report} (h : ∀ f ∈ r.findings, f.Tidy) :
    r.Printed args.json (showReport args r) := by
  constructor
  case lines =>
    intro hjson
    have hall : ∀ line ∈ r.findings.map Finding.line ++ r.hits.map hitLine, '\n' ∉ line := by
      refine List.forall_mem_append.mpr
        ⟨List.forall_mem_map.mpr fun f hf => not_mem_line (h f hf), ?_⟩
      exact List.forall_mem_map.mpr fun hit _ => not_mem_hitLine hit
    refine ⟨r.findings.map Finding.line, r.hits.map hitLine, ?_, ?_, ?_⟩
    · rw [← splitOn_lines hall, showReport, hjson, if_neg Bool.false_ne_true, Report.text,
        String.toList_join]
      simp only [List.flatMap_append, List.flatMap_map, toList_text, toList_hitText]
    · rw [List.forall₂_map_right_iff, List.forall₂_same]
      exact fun f hf => inLine_line (h f hf)
    · rw [List.forall₂_map_right_iff, List.forall₂_same]
      exact fun hit _ => hitInLine_hitLine hit
  case members =>
    intro hjson
    -- The reader gives back the value that was rendered, so its rows are known.
    refine ⟨r.findings.map Finding.json, r.hits.map hitJson, ?_, ?_, ?_⟩
    · rw [showReport, hjson, if_pos rfl, Text.Json.read?_render]
      rfl
    · rw [List.forall₂_map_right_iff, List.forall₂_same]
      refine fun f _ => ⟨_, _, ?_, (writtenLaw f.address).plain, (writtenLaw f.value).plain⟩
      rw [Finding.json]
      cases f.window <;> rfl
    · rw [List.forall₂_map_right_iff, List.forall₂_same]
      exact fun hit _ => ⟨_, rfl, (writtenLaw hit.address).plain⟩

end Probe

end RegionBus

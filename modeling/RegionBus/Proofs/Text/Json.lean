import Mathlib.Data.List.Basic
import RegionBus.Text.Json
import RegionBus.Toml.Quoted

/-!
# JSON Read Back

A reader of JSON that knows nothing of how a text is laid out: between the parts of a
text there may be any blanks and line ends, a character of a string may be escaped in
any way, and what a part is shows in its first character. A rendered value is read back
by it, `read?_render`, so its text determines the value.

The reader descends into a value, and how far is bounded by fuel. A text is at least as
long as its value is deep, so its length is enough. The induction is on the value, and
its three parts are those of the renderer: a value, the items behind the first one, and
the members behind the first one. Each is read together with what follows it, since a
numeral only ends where something else begins.

## Main definitions

* `Json.readString`: The characters of a string.
* `Json.readValue`, `readItems`, `readMembers`: A value and what it is made of.
* `Json.read?`: The value of a whole text.

## Theorems

* `readString_jsonChar`, `readString_jsonString`: Characters and strings are read back.
* `readValue_renderAt`, `readItems_renderItems`, `readMembers_renderMembers`: So are
  values, items and members.
* `read?_render`: A value is read from its text.
-/

namespace RegionBus

namespace Text

namespace Json

/-- A character that may stand between the parts of a text. -/
def isBlank (c : Char) : Bool :=
  c = ' ' || c = '\n' || c = '\t' || c = '\r'

/-- A text without the blanks in front of it. -/
def skipBlanks (text : List Char) : List Char :=
  text.dropWhile isBlank

/-- What a letter or mark behind a backslash stands for. -/
def escaped? : Char → Option Char
  | '"' => some '"'
  | '\\' => some '\\'
  | '/' => some '/'
  | 'b' => some '\x08'
  | 't' => some '\t'
  | 'n' => some '\n'
  | 'f' => some '\x0c'
  | 'r' => some '\r'
  | _ => none

/-- The character whose code is spelled by four hexadecimal digits. -/
def coded? (d₃ d₂ d₁ d₀ : Char) : Option Char := do
  let n₃ ← Toml.digit? 16 d₃
  let n₂ ← Toml.digit? 16 d₂
  let n₁ ← Toml.digit? 16 d₁
  let n₀ ← Toml.digit? 16 d₀
  Toml.character? (((n₃ * 16 + n₂) * 16 + n₁) * 16 + n₀)

/-- The characters of a string up to its closing quote, and what stands behind it. -/
def readString : List Char → Option (List Char × List Char)
  | [] => none
  | '"' :: text => some ([], text)
  | '\\' :: 'u' :: d₃ :: d₂ :: d₁ :: d₀ :: text =>
    (coded? d₃ d₂ d₁ d₀).bind fun c => Toml.emit c (readString text)
  | '\\' :: c :: text => (escaped? c).bind fun c => Toml.emit c (readString text)
  | c :: text => if c.toNat < 0x20 then none else Toml.emit c (readString text)

/-- The key of a member, and what stands behind the colon. -/
def readKey (text : List Char) : Option (String × List Char) :=
  match skipBlanks text with
  | '"' :: text =>
    match readString text with
    | some (key, text) =>
      match skipBlanks text with
      | ':' :: text => some (String.ofList key, text)
      | _ => none
    | none => none
  | _ => none

mutual

/-- The value that a text begins with, and what stands behind it. What is first in an
    array or object is read as if there were a comma in front of it as well. -/
def readValue : (fuel : Nat) → List Char → Option (Json × List Char)
  | 0, _ => none
  | fuel + 1, text =>
    match skipBlanks text with
    | 'n' :: 'u' :: 'l' :: 'l' :: text => some (null, text)
    | '"' :: text => do
      let (chars, text) ← readString text
      return (string (String.ofList chars), text)
    | '[' :: text =>
      match skipBlanks text with
      | ']' :: text => some (array [], text)
      | _ => do
        let (items, text) ← readItems fuel (',' :: text)
        return (array items, text)
    | '\x7b' :: text =>
      match skipBlanks text with
      | '\x7d' :: text => some (object [], text)
      | _ => do
        let (members, text) ← readMembers fuel (',' :: text)
        return (object members, text)
    | text =>
      let digits := text.takeWhile Char.isDigit
      if digits = [] then none
      else some (number (Nat.ofDigitChars 10 digits 0), text.dropWhile Char.isDigit)

/-- Items with a comma in front of each, and what stands behind the closing bracket. -/
def readItems : (fuel : Nat) → List Char → Option (List Json × List Char)
  | 0, _ => none
  | fuel + 1, text =>
    match skipBlanks text with
    | ']' :: text => some ([], text)
    | ',' :: text => do
      let (item, text) ← readValue fuel text
      let (items, text) ← readItems fuel text
      return (item :: items, text)
    | _ => none

/-- Members with a comma in front of each, and what stands behind the closing brace. -/
def readMembers : (fuel : Nat) → List Char → Option (List (String × Json) × List Char)
  | 0, _ => none
  | fuel + 1, text =>
    match skipBlanks text with
    | '\x7d' :: text => some ([], text)
    | ',' :: text => do
      let (key, text) ← readKey text
      let (value, text) ← readValue fuel text
      let (members, text) ← readMembers fuel text
      return ((key, value) :: members, text)
    | _ => none

end

/-- The value of a text that has nothing but blanks around it. -/
def read? (text : String) : Option Json := do
  let (value, rest) ← readValue text.length text.toList
  if skipBlanks rest = [] then some value else none

section Characters

/-- The escape of a character in front of the printable ones spells its code. -/
theorem coded?_control : ∀ n < 0x20, ∃ d₁ d₀, (Nat.toDigits 16 n).leftpad 4 '0' =
    ['0', '0', d₁, d₀] ∧ coded? '0' '0' d₁ d₀ = some (Char.ofNat n) := by
  intro n hn
  refine ⟨Nat.digitChar (n / 16), Nat.digitChar (n % 16), ?_⟩
  revert n
  decide

/-- A character that was written is read back. -/
theorem readString_jsonChar (c : Char) (text : List Char) :
    readString (jsonChar c ++ text) = Toml.emit c (readString text) := by
  unfold jsonChar
  -- Seven characters have an escape of their own, the other controls are spelled out, and
  -- the rest stand for themselves.
  split_ifs with hquote hmark hb ht hn hf hr hcontrol
  · rw [hquote]
    rfl
  · rw [hmark]
    rfl
  · rw [hb]
    rfl
  · rw [ht]
    rfl
  · rw [hn]
    rfl
  · rw [hf]
    rfl
  · rw [hr]
    rfl
  · rcases coded?_control c.toNat hcontrol with ⟨d₁, d₀, hpad, hcode⟩
    rw [hpad]
    change (coded? '0' '0' d₁ d₀).bind _ = _
    rw [hcode, Char.ofNat_toNat, Option.bind_some]
    rfl
  · rw [List.singleton_append, readString.eq_5 _ _ hquote, if_neg hcontrol]
    · exact fun _ _ _ _ _ h => absurd h hmark
    · exact fun _ _ h => absurd h hmark

/-- A string is read back behind its opening quote. -/
theorem readString_flatMap (chars text : List Char) :
    readString (chars.flatMap jsonChar ++ '"' :: text) = some (chars, text) := by
  induction chars with
  | nil => rfl
  | cons c chars ih =>
      rw [List.flatMap_cons, List.append_assoc, readString_jsonChar, ih]
      rfl

theorem toList_jsonString (s : String) :
    (jsonString s).toList = '"' :: (s.toList.flatMap jsonChar ++ ['"']) :=
  String.toList_ofList

end Characters

section Blanks

variable {blanks : List Char}

theorem skipBlanks_append (h : ∀ c ∈ blanks, isBlank c = true) (text : List Char) :
    skipBlanks (blanks ++ text) = skipBlanks text :=
  List.dropWhile_append_of_pos h

theorem skipBlanks_cons {c : Char} (h : isBlank c = false) (text : List Char) :
    skipBlanks (c :: text) = c :: text :=
  List.dropWhile_cons_of_neg (by rw [h]; exact Bool.false_ne_true)

/-- Blanks in front of a value do not matter. -/
theorem readValue_append (h : ∀ c ∈ blanks, isBlank c = true) (fuel : Nat) (text : List Char) :
    readValue fuel (blanks ++ text) = readValue fuel text := by
  cases fuel with
  | zero => rfl
  | succ fuel => rw [readValue, skipBlanks_append h, readValue]

/-- The end of a line and the spaces behind it are blanks. -/
theorem isBlank_of_mem_jsonLine (level : Nat) :
    ∀ c ∈ (jsonLine level).toList, isBlank c = true := by
  intro c hc
  rw [jsonLine, String.toList_ofList] at hc
  rcases List.mem_cons.mp hc with rfl | hc
  · rfl
  · rw [List.eq_of_mem_replicate hc]
    rfl

theorem readValue_space (fuel : Nat) (text : List Char) :
    readValue fuel (' ' :: text) = readValue fuel text :=
  readValue_append (List.forall_mem_singleton.mpr rfl) fuel text

/-- A key is read together with its colon, behind the end of a line. -/
theorem readKey_jsonString (level : Nat) (key : String) (text : List Char) :
    readKey ((jsonLine level).toList ++ ((jsonString key).toList ++ (':' :: text))) =
      some (key, text) := by
  rw [readKey, skipBlanks_append (isBlank_of_mem_jsonLine level), toList_jsonString,
    List.cons_append, skipBlanks_cons rfl, List.append_assoc, List.singleton_append]
  simp only [readString_flatMap, skipBlanks_cons (c := ':') rfl, String.ofList_toList]

end Blanks

section Layout

variable (level : Nat)

theorem toList_items (item : Json) (items : List Json) :
    (renderItems level (item :: items)).toList = ',' :: ((jsonLine level).toList ++
      ((renderAt level item).toList ++ (renderItems level items).toList)) := by
  rw [renderItems]
  simp only [String.toList_append, List.append_assoc]
  rfl

theorem toList_members (key : String) (value : Json) (members : List (String × Json)) :
    (renderMembers level ((key, value) :: members)).toList = ',' :: ((jsonLine level).toList ++
      ((jsonString key).toList ++ (':' :: ' ' :: ((renderAt level value).toList ++
        (renderMembers level members).toList)))) := by
  rw [renderMembers]
  simp only [String.toList_append, List.append_assoc]
  rfl

/-- An array looks like its items, with a bracket in the place of the first comma. -/
theorem exists_array (item : Json) (items : List Json) : ∃ text,
    (renderItems (level + 1) (item :: items)).toList = ',' :: text ∧
      (renderAt level (array (item :: items))).toList =
        '[' :: (text ++ ((jsonLine level).toList ++ [']'])) := by
  refine ⟨_, toList_items (level + 1) item items, ?_⟩
  rw [renderAt]
  simp only [String.toList_append, List.append_assoc]
  rfl

/-- So does an object. -/
theorem exists_object (key : String) (value : Json) (members : List (String × Json)) : ∃ text,
    (renderMembers (level + 1) ((key, value) :: members)).toList = ',' :: text ∧
      (renderAt level (object ((key, value) :: members))).toList =
        '\x7b' :: (text ++ ((jsonLine level).toList ++ ['\x7d'])) := by
  refine ⟨_, toList_members (level + 1) key value members, ?_⟩
  rw [renderAt]
  simp only [String.toList_append, List.append_assoc, List.cons_append]
  rfl

end Layout

section Heads

/-- A character is not a blank and closes nothing. -/
structure Opens (c : Char) : Prop where
  /-- It is not skipped. -/
  not_blank : isBlank c = false
  /-- It does not close an array. -/
  ne_bracket : c ≠ ']'

theorem opens_of_isDigit {c : Char} (h : c.isDigit = true) : Opens c := by
  constructor
  case not_blank =>
    rw [← Bool.not_eq_true, isBlank]
    simp only [Bool.or_eq_true, decide_eq_true_eq]
    rintro (((rfl | rfl) | rfl) | rfl)
    all_goals cases h
  case ne_bracket =>
    rintro rfl
    cases h

theorem exists_toDigits_cons (n : Nat) :
    ∃ c digits, Nat.toDigits 10 n = c :: digits ∧ c.isDigit = true := by
  cases h : Nat.toDigits 10 n with
  | nil => exact absurd h Nat.toDigits_ne_nil
  | cons c digits =>
      have hmem : c ∈ Nat.toDigits 10 n := h ▸ List.mem_cons_self
      exact ⟨c, digits, rfl, Nat.isDigit_of_mem_toDigits (by decide) (by decide) hmem⟩

/-- What a value begins with. -/
theorem exists_renderAt_cons (level : Nat) (j : Json) :
    ∃ c text, (renderAt level j).toList = c :: text ∧ Opens c := by
  cases j with
  | null => exact ⟨'n', _, by rw [renderAt]; rfl, rfl, by decide⟩
  | number n =>
      rcases exists_toDigits_cons n with ⟨c, digits, hdigits, hc⟩
      refine ⟨c, digits, ?_, opens_of_isDigit hc⟩
      rw [renderAt, Nat.toList_repr, hdigits]
  | string s =>
      exact ⟨'"', _, by rw [renderAt, toList_jsonString], rfl, by decide⟩
  | array items =>
      cases items with
      | nil => exact ⟨'[', _, by rw [renderAt]; rfl, rfl, by decide⟩
      | cons item items =>
          rcases exists_array level item items with ⟨text, -, harray⟩
          exact ⟨'[', _, harray, rfl, by decide⟩
  | object members =>
      cases members with
      | nil => exact ⟨'\x7b', _, by rw [renderAt]; rfl, rfl, by decide⟩
      | cons member members =>
          rcases exists_object level member.1 member.2 members with ⟨text, -, hobject⟩
          exact ⟨'\x7b', _, hobject, rfl, by decide⟩

end Heads

section Values

/-- A text does not go on with a digit. -/
def NoDigit (text : List Char) : Prop :=
  ∀ c ∈ text.head?, c.isDigit = false

/-- The digits of a number are read up to the first character that is none. -/
theorem readValue_toDigits (fuel n : Nat) {text : List Char} (h : NoDigit text) :
    readValue (fuel + 1) (Nat.toDigits 10 n ++ text) = some (number n, text) := by
  have hall : ∀ c ∈ Nat.toDigits 10 n, c.isDigit = true := fun c hc =>
    Nat.isDigit_of_mem_toDigits (by decide) (by decide) hc
  have hend : text.takeWhile Char.isDigit = [] ∧ text.dropWhile Char.isDigit = text := by
    cases text with
    | nil => exact ⟨rfl, rfl⟩
    | cons c text =>
        have hc : ¬ c.isDigit = true := by rw [h c rfl]; exact Bool.false_ne_true
        exact ⟨List.takeWhile_cons_of_neg hc, List.dropWhile_cons_of_neg hc⟩
  have htake : (Nat.toDigits 10 n ++ text).takeWhile Char.isDigit = Nat.toDigits 10 n := by
    rw [List.takeWhile_append_of_pos hall, hend.1, List.append_nil]
  have hdrop : (Nat.toDigits 10 n ++ text).dropWhile Char.isDigit = text := by
    rw [List.dropWhile_append_of_pos hall, hend.2]
  rcases exists_toDigits_cons n with ⟨c, digits, hdigits, hc⟩
  have hskip : skipBlanks (Nat.toDigits 10 n ++ text) = Nat.toDigits 10 n ++ text := by
    rw [hdigits, List.cons_append, skipBlanks_cons (opens_of_isDigit hc).not_blank]
  have hother : ∀ d rest, Nat.toDigits 10 n ++ text = d :: rest → d.isDigit = true := by
    intro d rest heq
    rw [hdigits, List.cons_append, List.cons.injEq] at heq
    rwa [heq.1] at hc
  rw [readValue, hskip]
  -- No digit is one of the characters that another kind of value begins with.
  split
  · next heq => cases hother _ _ heq
  · next heq => cases hother _ _ heq
  · next heq => cases hother _ _ heq
  · next heq => cases hother _ _ heq
  · dsimp only
    rw [htake, hdrop, if_neg Nat.toDigits_ne_nil,
      Nat.ofDigitChars_toDigits (by decide) (by decide)]

theorem toList_jsonLine (level : Nat) :
    (jsonLine level).toList = '\n' :: List.replicate (2 * level) ' ' :=
  String.toList_ofList

/-- What stands behind a value inside of another one does not go on with a digit. -/
theorem noDigit_renderItems (items : List Json) (level close : Nat) (text : List Char) :
    NoDigit ((renderItems level items).toList ++ ((jsonLine close).toList ++ text)) := by
  cases items with
  | nil =>
      rw [renderItems, toList_jsonLine]
      rintro c ⟨⟩
      rfl
  | cons item items =>
      rw [toList_items]
      rintro c ⟨⟩
      rfl

theorem noDigit_renderMembers (members : List (String × Json)) (level close : Nat)
    (text : List Char) :
    NoDigit ((renderMembers level members).toList ++ ((jsonLine close).toList ++ text)) := by
  cases members with
  | nil =>
      rw [renderMembers, toList_jsonLine]
      rintro c ⟨⟩
      rfl
  | cons member members =>
      rw [toList_members]
      rintro c ⟨⟩
      rfl

/-- What follows the comma in front of an item closes no array. -/
theorem ne_close_of_items {item : Json} {items : List Json} {level : Nat}
    {text behind rest : List Char}
    (h : (renderItems level (item :: items)).toList = ',' :: text) :
    skipBlanks (text ++ behind) ≠ ']' :: rest := by
  rcases exists_renderAt_cons level item with ⟨c, tail, hitem, hc⟩
  rw [toList_items, List.cons.injEq] at h
  rw [← h.2, List.append_assoc, skipBlanks_append (isBlank_of_mem_jsonLine level), hitem,
    List.cons_append, List.cons_append, skipBlanks_cons hc.not_blank]
  exact fun heq => hc.ne_bracket (List.cons.inj heq).1

/-- What follows the comma in front of a member closes no object. -/
theorem ne_close_of_members {key : String} {value : Json} {members : List (String × Json)}
    {level : Nat} {text behind rest : List Char}
    (h : (renderMembers level ((key, value) :: members)).toList = ',' :: text) :
    skipBlanks (text ++ behind) ≠ '\x7d' :: rest := by
  rw [toList_members, List.cons.injEq] at h
  rw [← h.2, List.append_assoc, skipBlanks_append (isBlank_of_mem_jsonLine level),
    toList_jsonString, List.cons_append, List.cons_append, skipBlanks_cons rfl]
  exact fun heq => absurd (List.cons.inj heq).1 (by decide)

mutual

/-- A value is read back together with what stands behind it. -/
theorem readValue_renderAt (j : Json) (level fuel : Nat) (text : List Char)
    (hfuel : (renderAt level j).toList.length ≤ fuel) (htext : NoDigit text) :
    readValue fuel ((renderAt level j).toList ++ text) = some (j, text) := by
  rcases exists_renderAt_cons level j with ⟨c, rest, hcons, -⟩
  -- The recursion is on the value. Fuel only has to last as long as its text, which is
  -- longer than that of anything inside of it.
  cases fuel with
  | zero =>
      rw [hcons] at hfuel
      cases hfuel
  | succ fuel =>
      cases j with
      | null => rw [renderAt]; rfl
      | number n => rw [renderAt, Nat.toList_repr, readValue_toDigits fuel n htext]
      | string s =>
          rw [renderAt, toList_jsonString, List.cons_append, readValue, skipBlanks_cons rfl,
            List.append_assoc, List.singleton_append]
          simp only [readString_flatMap, Option.bind_eq_bind, Option.bind_some,
            String.ofList_toList, Option.pure_def]
      | array items =>
          cases items with
          | nil => rw [renderAt]; rfl
          | cons item items =>
              rcases exists_array level item items with ⟨inner, hitems, harray⟩
              have hlength := congrArg List.length hitems
              have hline := congrArg List.length (toList_jsonLine level)
              have hread := readItems_renderItems (item :: items) (level + 1) level fuel text
              rw [harray] at hfuel ⊢
              simp only [List.length_cons, List.length_append] at hfuel hlength hline
              rw [hitems, List.cons_append] at hread
              rw [List.cons_append, List.append_assoc, List.append_assoc, List.singleton_append,
                readValue, skipBlanks_cons rfl]
              simp only
              -- With an item in it, the array does not close at once.
              split
              · next heq => exact absurd heq (ne_close_of_items hitems)
              · rw [hread (by rw [List.length_cons]; omega)]
                rfl
      | object members =>
          cases members with
          | nil => rw [renderAt]; rfl
          | cons member members =>
              rcases exists_object level member.1 member.2 members with ⟨inner, hmembers, hobject⟩
              have hlength := congrArg List.length hmembers
              have hline := congrArg List.length (toList_jsonLine level)
              have hread :=
                readMembers_renderMembers (member :: members) (level + 1) level fuel text
              rw [hobject] at hfuel ⊢
              simp only [List.length_cons, List.length_append] at hfuel hlength hline
              rw [hmembers, List.cons_append] at hread
              rw [List.cons_append, List.append_assoc, List.append_assoc, List.singleton_append,
                readValue, skipBlanks_cons rfl]
              simp only
              split
              · next heq => exact absurd heq (ne_close_of_members hmembers)
              · rw [hread (by rw [List.length_cons]; omega)]
                rfl

/-- Items are read back up to the end of their array. -/
theorem readItems_renderItems (items : List Json) (level close fuel : Nat) (text : List Char)
    (hfuel : (renderItems level items).toList.length < fuel) :
    readItems fuel ((renderItems level items).toList ++ ((jsonLine close).toList ++ ']' :: text)) =
      some (items, text) := by
  cases fuel with
  | zero => cases hfuel
  | succ fuel =>
      cases items with
      | nil =>
          have hnil : (renderItems level []).toList = [] := by rw [renderItems]; rfl
          rw [hnil, List.nil_append, readItems, skipBlanks_append (isBlank_of_mem_jsonLine _),
            skipBlanks_cons rfl]
          rfl
      | cons item items =>
          rw [toList_items] at hfuel ⊢
          simp only [List.length_cons, List.length_append] at hfuel
          rw [List.cons_append, List.append_assoc, List.append_assoc, readItems,
            skipBlanks_cons rfl]
          simp only [Option.bind_eq_bind]
          -- The comma costs one of the fuel, and so there is enough for both parts.
          rw [readValue_append (isBlank_of_mem_jsonLine level),
            readValue_renderAt item level fuel _ (by omega)
              (noDigit_renderItems items level close _), Option.bind_some]
          dsimp only
          rw [readItems_renderItems items level close fuel text (by omega)]
          rfl

/-- So are the members of an object. -/
theorem readMembers_renderMembers (members : List (String × Json)) (level close fuel : Nat)
    (text : List Char) (hfuel : (renderMembers level members).toList.length < fuel) :
    readMembers fuel ((renderMembers level members).toList ++
      ((jsonLine close).toList ++ '\x7d' :: text)) = some (members, text) := by
  cases fuel with
  | zero => cases hfuel
  | succ fuel =>
      cases members with
      | nil =>
          have hnil : (renderMembers level []).toList = [] := by rw [renderMembers]; rfl
          rw [hnil, List.nil_append, readMembers, skipBlanks_append (isBlank_of_mem_jsonLine _),
            skipBlanks_cons rfl]
          rfl
      | cons member members =>
          rcases member with ⟨key, value⟩
          rw [toList_members] at hfuel ⊢
          simp only [List.length_cons, List.length_append] at hfuel
          simp only [List.cons_append, List.append_assoc]
          rw [readMembers, skipBlanks_cons rfl]
          simp only [Option.bind_eq_bind]
          rw [readKey_jsonString, Option.bind_some]
          dsimp only
          rw [readValue_space, readValue_renderAt value level fuel _ (by omega)
            (noDigit_renderMembers members level close _), Option.bind_some]
          dsimp only
          rw [readMembers_renderMembers members level close fuel text (by omega)]
          rfl

end

end Values

/-- A value is read from its text, and from the line that it ends. -/
theorem read?_render (j : Json) : read? (j.render ++ "\n") = some j := by
  have hline : NoDigit ['\n'] := by
    rintro c ⟨⟩
    rfl
  have hlist : (j.render ++ "\n").toList = (renderAt 0 j).toList ++ ['\n'] := by
    rw [render, String.toList_append]
    rfl
  have hfuel : (renderAt 0 j).toList.length ≤ (j.render ++ "\n").length := by
    rw [← String.length_toList, hlist, List.length_append]
    omega
  rw [read?, hlist, readValue_renderAt j 0 _ ['\n'] hfuel hline]
  rfl

end Json

end Text

end RegionBus

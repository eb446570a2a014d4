import RegionBus.Config.Document
import RegionBus.Proofs.Toml.Settings

/-!
# A Configuration Saved and Loaded

A configuration is saved as a document of settings, with a line for each path that is set.
Reading such a document gives the settings back, whatever their order, and a path that has
no line is not set. So what a configuration is loaded as does not depend on how its paths
are quoted, and whether it is valid matters only after it was read.

A path that is no text has no line, and neither has a size that is too large for the
integers of a document. Then there is nothing to write, and the file is not touched.

## Main definitions

* `Config.settings`: The settings of a configuration.
* `Config.Textual`: The paths of a configuration are texts.
* `Stores`, `Writable`: A file holds what is reported as written, and can be written.
* `PersistenceLaw`: What holds of a configuration that is saved.

## Theorems

* `render_eq`: A document is written line by line.
* `ofTable?_settings`: The settings of a table.
* `parse_render`: A document that was written is read back.
* `persistence_law`: What holds of every configuration that is saved.
-/

namespace RegionBus

theorem fromUTF8?_toUTF8 (s : String) : String.fromUTF8? s.toUTF8 = some s := by
  rw [String.fromUTF8?, String.toUTF8_eq_toByteArray, dif_pos s.isValidUTF8]
  rfl

theorem ImagePath.ofString_of_text? {path : ImagePath} {s : String} (h : path.text? = some s) :
    ofString s = path := by
  rw [text?, String.fromUTF8?] at h
  split at h
  · rw [← Option.some.inj h]
    rfl
  · cases h

theorem ImagePath.text?_ofString (s : String) : (ofString s).text? = some s :=
  fromUTF8?_toUTF8 s

namespace Config

/-- The setting of a path. -/
def pathSetting (key s : String) : Toml.Setting :=
  ⟨key, Toml.writeQuoted s.toList, .string s⟩

/-- The settings of a configuration whose paths are given as texts. -/
def settings (dramSize : Nat) (debugger : Bool) (cartRom pifRom : Option String) :
    List Toml.Setting :=
  ⟨"dram_size", Nat.toDigits 10 dramSize, .integer dramSize⟩ ::
    ⟨"debugger", (if debugger then "true" else "false").toList, .boolean debugger⟩ ::
      ((cartRom.map (pathSetting "cart_rom")).toList ++
        (pifRom.map (pathSetting "pif_rom")).toList)

/-- The configuration with paths that are given as texts. -/
def ofTexts (dramSize : Nat) (debugger : Bool) (cartRom pifRom : Option String) : Config where
  dramSize := dramSize
  debugger := debugger
  cartRom := cartRom.map ImagePath.ofString
  pifRom := pifRom.map ImagePath.ofString

variable {dramSize : Nat} {debugger : Bool} {cartRom pifRom : Option String}

theorem pathLine_ofString (key : String) (path : Option String) :
    pathLine key (path.map ImagePath.ofString) =
      some ((path.map (pathSetting key)).toList.flatMap Toml.Setting.line) := by
  cases path with
  | none => rfl
  | some s =>
      rw [Option.map_some, pathLine, ImagePath.text?_ofString, Option.map_some, Option.map_some,
        Option.toList_some, List.flatMap_singleton]
      rfl

/-- A document is written line by line. -/
theorem render_eq (hsize : dramSize < 2 ^ 63) :
    (ofTexts dramSize debugger cartRom pifRom).render =
      .ok (String.ofList ((settings dramSize debugger cartRom pifRom).flatMap
        Toml.Setting.line)) := by
  have hmax : dramSize < 0x8000000000000000 := hsize
  rw [render]
  simp only [ofTexts, pathLine_ofString, if_pos hmax, Option.bind_eq_bind, Option.bind_some,
    Option.pure_def]
  have hfirst : "dram_size = ".toList = "dram_size".toList ++ [' ', '=', ' '] := by decide
  have hsecond : "\ndebugger = ".toList = ['\n'] ++ "debugger".toList ++ [' ', '=', ' '] := by
    decide
  rw [hfirst, hsecond, settings, List.flatMap_cons, List.flatMap_cons, List.flatMap_append]
  simp only [Toml.Setting.line, List.append_assoc]
  rfl

theorem readable_pathSetting {key : String} (hne : key.toList ≠ [])
    (hbare : key.toList.all Toml.isBareKey = true) (path : Option String) :
    ∀ s ∈ (path.map (pathSetting key)).toList, s.Readable := by
  intro s hs
  rcases Option.map_eq_some_iff.mp (Option.mem_toList.mp hs) with ⟨text, -, rfl⟩
  rcases Toml.exists_writeQuoted_cons text.toList with ⟨c, cs, htext, hc⟩
  refine ⟨hne, hbare, ⟨c, cs, htext, ?_⟩, fun rest => Toml.readValue_string text⟩
  rcases hc with rfl | rfl <;> rfl

theorem readable_settings (hsize : dramSize < 2 ^ 63) :
    ∀ s ∈ settings dramSize debugger cartRom pifRom, s.Readable := by
  refine List.forall_mem_cons.mpr ⟨?_, List.forall_mem_cons.mpr ⟨?_,
    List.forall_mem_append.mpr ⟨?_, ?_⟩⟩⟩
  · rcases Toml.exists_toDigits_cons dramSize with ⟨c, cs, hcs, hdigit⟩
    have hblank : Toml.isBlank c = false :=
      Toml.isBlank_of_isBareKey (Toml.isBareKey_of_isDigit hdigit)
    exact ⟨(by decide : "dram_size".toList ≠ []),
      (by decide : "dram_size".toList.all Toml.isBareKey = true), ⟨c, cs, hcs, hblank⟩,
      fun rest => Toml.readValue_numeral (by omega)⟩
  · have hunindented : ∃ c cs, (if debugger then "true" else "false").toList = c :: cs ∧
        Toml.isBlank c = false := by
      cases debugger with
      | true => exact ⟨'t', _, rfl, rfl⟩
      | false => exact ⟨'f', _, rfl, rfl⟩
    exact ⟨(by decide : "debugger".toList ≠ []),
      (by decide : "debugger".toList.all Toml.isBareKey = true), hunindented,
      fun rest => Toml.readValue_switch debugger⟩
  · exact readable_pathSetting (by decide) (by decide) cartRom
  · exact readable_pathSetting (by decide) (by decide) pifRom

theorem nodup_settings : ((settings dramSize debugger cartRom pifRom).map
    Toml.Setting.key).Nodup := by
  cases cartRom <;> cases pifRom
  · exact (by decide : ["dram_size", "debugger"].Nodup)
  · exact (by decide : ["dram_size", "debugger", "pif_rom"].Nodup)
  · exact (by decide : ["dram_size", "debugger", "cart_rom"].Nodup)
  · exact (by decide : ["dram_size", "debugger", "cart_rom", "pif_rom"].Nodup)

theorem pathSetting?_string (path : Option String) :
    pathSetting? (path.map .string) = some (path.map ImagePath.ofString) := by
  cases path <;> rfl

/-- The settings of a table. -/
theorem ofTable?_settings (hsize : dramSize < 2 ^ 63) :
    ofTable? ((settings dramSize debugger cartRom pifRom).map Toml.Setting.named) =
      some (ofTexts dramSize debugger cartRom pifRom) := by
  generalize htable : (settings dramSize debugger cartRom pifRom).map Toml.Setting.named = t
  have hdram : Toml.Table.find? t "dram_size" = some (.integer dramSize) := by
    rw [← htable]
    rfl
  have hdebugger : Toml.Table.find? t "debugger" = some (.boolean debugger) := by
    rw [← htable]
    rfl
  have hcart : Toml.Table.find? t "cart_rom" = cartRom.map .string := by
    rw [← htable]
    cases cartRom <;> cases pifRom <;> rfl
  have hpif : Toml.Table.find? t "pif_rom" = pifRom.map .string := by
    rw [← htable]
    cases cartRom <;> cases pifRom <;> rfl
  have hsetting : sizeSetting? (some (.integer dramSize)) = some dramSize := by
    rw [sizeSetting?, if_pos (by omega), Int.toNat_natCast]
  rw [ofTable?, hdram, hdebugger, hcart, hpif, hsetting, pathSetting?_string,
    pathSetting?_string]
  rfl

/-- The paths of a configuration are texts. -/
def Textual (c : Config) : Prop :=
  ∀ path ∈ c.cartRom.toList ++ c.pifRom.toList, path.text?.isSome

theorem exists_map_ofString {path : Option ImagePath} (h : ∀ p ∈ path.toList, p.text?.isSome) :
    ∃ s : Option String, path = s.map ImagePath.ofString := by
  cases path with
  | none => exact ⟨none, rfl⟩
  | some p =>
      rcases Option.isSome_iff_exists.mp (h p (Option.mem_toList.mpr rfl)) with ⟨s, hs⟩
      exact ⟨some s, congrArg some (ImagePath.ofString_of_text? hs).symm⟩

theorem isSome_text?_of_mem (path : Option String) :
    ∀ p ∈ (path.map ImagePath.ofString).toList, p.text?.isSome := by
  intro p hp
  rcases Option.map_eq_some_iff.mp (Option.mem_toList.mp hp) with ⟨s, -, rfl⟩
  rw [ImagePath.text?_ofString, Option.isSome_some]

theorem textual_ofTexts : (ofTexts dramSize debugger cartRom pifRom).Textual :=
  List.forall_mem_append.mpr ⟨isSome_text?_of_mem cartRom, isSome_text?_of_mem pifRom⟩

theorem Textual.exists_ofTexts {c : Config} (h : c.Textual) :
    ∃ cartRom pifRom, c = ofTexts c.dramSize c.debugger cartRom pifRom := by
  rcases List.forall_mem_append.mp h with ⟨hcart, hpif⟩
  rcases exists_map_ofString hcart with ⟨cartRom, hcart⟩
  rcases exists_map_ofString hpif with ⟨pifRom, hpif⟩
  refine ⟨cartRom, pifRom, ?_⟩
  rw [ofTexts, ← hcart, ← hpif]

theorem pathLine_eq_none {path : Option ImagePath} (h : ¬ ∀ p ∈ path.toList, p.text?.isSome)
    (key : String) : pathLine key path = none := by
  cases path with
  | none => exact absurd (fun p hp => absurd hp List.not_mem_nil) h
  | some p =>
      cases hp : p.text? with
      | none => rw [pathLine, hp, Option.map_none]
      | some s =>
          refine absurd (fun q hq => ?_) h
          rw [List.mem_singleton.mp hq, hp, Option.isSome_some]

/-- A configuration has a text if its paths are texts and its size is not too large. -/
theorem render_eq_error {c : Config} (h : ¬ (c.Textual ∧ c.dramSize < 2 ^ 63)) :
    c.render = .error (.config .unwritable) := by
  by_cases hsize : c.dramSize < 0x8000000000000000
  · have htextual : ¬ c.Textual := fun htextual => h ⟨htextual, hsize⟩
    rw [Textual, List.forall_mem_append, Classical.not_and_iff_not_or_not] at htextual
    rw [render]
    simp only [if_pos hsize, Option.bind_eq_bind, Option.bind_some]
    rcases htextual with hcart | hpif
    · rw [pathLine_eq_none hcart, Option.bind_none]
    · rw [pathLine_eq_none hpif]
      simp only [Option.bind_none, Option.bind_fun_none]
  · rw [render]
    simp only [if_neg hsize, Option.bind_eq_bind, Option.bind_none]

variable {c : Config} {text : String}

/-- Otherwise it has one, which is read back and is as valid as the configuration. -/
theorem exists_render (htextual : c.Textual) (hsize : c.dramSize < 2 ^ 63) :
    ∃ text, c.render = .ok text ∧ parse text = c.validate.map fun _ => c := by
  rcases htextual.exists_ofTexts with ⟨cartRom, pifRom, hc⟩
  generalize c.dramSize = dramSize at hc hsize
  generalize c.debugger = debugger at hc
  subst hc
  refine ⟨_, render_eq hsize, ?_⟩
  rw [parse, Toml.readDocument_settings (readable_settings hsize) nodup_settings,
    Option.bind_some, ofTable?_settings hsize]

/-- A document that was written is read back. -/
theorem parse_render (h : c.render = .ok text) : parse text = c.validate.map fun _ => c := by
  by_cases hwritable : c.Textual ∧ c.dramSize < 2 ^ 63
  · rcases exists_render hwritable.1 hwritable.2 with ⟨text', htext', hparse⟩
    rw [Except.ok.inj (h.symm.trans htext')]
    exact hparse
  · rw [render_eq_error hwritable] at h
    cases h

theorem dramSize_lt_of_valid (h : c.validate = .ok ()) : c.dramSize < 2 ^ 63 := by
  have hnone : c.fault? = none := by
    rw [validate] at h
    cases hfault : c.fault? with
    | none => rfl
    | some fault =>
        rw [hfault] at h
        cases h
  have hmax := (c.fault?_eq_none_iff.mp hnone).2.2
  simp only [dramMaxSize] at hmax
  omega

end Config

/-- What is reported as written is in the file. A file that is not there has no bytes. -/
def Stores (writeFile : String → StateM (Option ByteArray) Bool) : Prop :=
  ∀ text file, ((writeFile text).run file).1 = true →
    ((writeFile text).run file).2 = some text.toUTF8

/-- Every text can be written to the file. -/
def Writable (writeFile : String → StateM (Option ByteArray) Bool) : Prop :=
  ∀ text file, ((writeFile text).run file).1 = true

/-- What holds of a configuration that is saved and loaded. -/
structure PersistenceLaw (writeFile : String → StateM (Option ByteArray) Bool) (c : Config) :
    Prop where
  /-- A valid configuration whose paths are texts is saved, if its file can be written, and
      then loaded as it was. -/
  loaded : c.validate = .ok () → c.Textual → Writable writeFile → ∀ file, ∃ file',
    (c.save writeFile).run file = (.ok (), file') ∧ Config.load file' = .ok c
  /-- A configuration is saved whether it is valid or not. -/
  saved : c.Textual → c.dramSize < 2 ^ 63 → Writable writeFile → ∀ file,
    ((c.save writeFile).run file).1 = .ok ()
  /-- If it is not valid, then it is refused when it is loaded, with the same error. -/
  refused : ∀ e, c.validate = .error e → ∀ file file',
    (c.save writeFile).run file = (.ok (), file') → Config.load file' = .error e
  /-- If a path is no text, or the size is too large for a document, then the file stays as
      it was. -/
  untouched : ¬ (c.Textual ∧ c.dramSize < 2 ^ 63) → ∀ file,
    (c.save writeFile).run file = (.error (.config .unwritable), file)

section Saved

variable {writeFile : String → StateM (Option ByteArray) Bool} {c : Config} {text : String}

theorem Config.load_text (text : String) : load (some text.toUTF8) = parse text := by
  rw [load, Option.bind_some, fromUTF8?_toUTF8]

/-- A configuration with a text is written, and any other leaves the file as it was. -/
theorem Config.run_save (file : Option ByteArray) : (c.save writeFile).run file =
    match c.render with
    | .ok text => (if ((writeFile text).run file).1 then .ok () else .error .file,
        ((writeFile text).run file).2)
    | .error e => (.error e, file) := by
  rw [save]
  cases c.render <;> rfl

/-- What is saved is loaded again. -/
theorem persistence_law (hstores : Stores writeFile) (c : Config) :
    PersistenceLaw writeFile c := by
  constructor
  case loaded =>
    intro hvalid htextual hwritable file
    rcases Config.exists_render htextual (Config.dramSize_lt_of_valid hvalid) with
      ⟨text, hrender, hparse⟩
    refine ⟨((writeFile text).run file).2, ?_, ?_⟩
    · rw [Config.run_save, hrender]
      simp only [hwritable text file, if_true]
    · rw [hstores text file (hwritable text file), Config.load_text, hparse, hvalid]
      rfl
  case saved =>
    intro htextual hsize hwritable file
    rcases Config.exists_render htextual hsize with ⟨text, hrender, -⟩
    rw [Config.run_save, hrender]
    simp only [hwritable text file, if_true]
  case refused =>
    intro e hinvalid file file' hsaved
    rw [Config.run_save] at hsaved
    cases hrender : c.render with
    | error e =>
        rw [hrender] at hsaved
        cases (Prod.mk.inj hsaved).1
    | ok text =>
        rw [hrender] at hsaved
        rcases Prod.mk.inj hsaved with ⟨hsuccess, rfl⟩
        have hwrites : ((writeFile text).run file).1 = true := by
          cases houtcome : ((writeFile text).run file).1 with
          | true => rfl
          | false =>
              rw [houtcome, if_neg Bool.false_ne_true] at hsuccess
              cases hsuccess
        rw [hstores text file hwrites, Config.load_text, Config.parse_render hrender, hinvalid]
        rfl
  case untouched =>
    intro hunwritable file
    rw [Config.run_save, Config.render_eq_error hunwritable]

/-- A file that can always be written. -/
def overwrite (text : String) : StateM (Option ByteArray) Bool := do
  set (some text.toUTF8)
  return true

/-- A configuration with a path that has quotes of both kinds, a backslash, a line end and a
    control in it, and with one that is empty. -/
def Config.quoted : Config :=
  ofTexts dramDefaultSize true (some "\"\"\"it's\"\"\"\\\r\n\x01é") (some "")

theorem persistence_law_quoted : ∃ file,
    (Config.quoted.save overwrite).run none = (.ok (), file) ∧
      Config.load file = .ok .quoted := by
  have hstores : Stores overwrite := fun text file _ => rfl
  exact (persistence_law hstores .quoted).loaded rfl Config.textual_ofTexts (fun _ _ => rfl) none

end Saved

end RegionBus

import Mathlib
import SqlTriage.Program

/-!
# Where settings come from

There are settings exactly if the one source that counts gives some, these pass the check, and the
delimiter that is in force in the end passes it too.  An override then stands before the source
(`load_eq_ok_iff`), and an error of the source stays as it is (`load_of_error`).  None of this
depends on what the reader of documents makes of a text.  Overrides act on settings: one after the
other they do what one set of them does (`override_override`), so that after any number of them each
setting has the last value that was given for it (`foldl_override`).
-/

namespace SqlTriage

open SqlTriage.Text SqlTriage.Lexical

variable {lib : Libraries} {s base : Settings} {o : Overrides} {source : SettingsSource}

/-- The delimiters that pass the check. -/
structure IsDelimiter (delimiter : String) : Prop where
  one_le_length : 1 ≤ delimiter.toList.length
  length_le : delimiter.toList.length ≤ 16
  exists_not_space : ∃ c ∈ delimiter.toList, isSpace c = false
  no_quote : ∀ c ∈ delimiter.toList, isQuote c = false

/-! ## The check -/

theorem delimiterFaults_eq_nil_iff {delimiter : String} :
    delimiterFaults delimiter = [] ↔ IsDelimiter delimiter := by
  have hspace : ¬ delimiter.toList.all isSpace = true ↔
      ∃ c ∈ delimiter.toList, isSpace c = false := by simp
  have hquote : ¬ delimiter.toList.any isQuote = true ↔
      ∀ c ∈ delimiter.toList, isQuote c = false := by simp
  rw [delimiterFaults, List.append_eq_nil_iff]
  constructor
  · rintro ⟨hlength, hcontent⟩
    split at hlength
    case isFalse => cases hlength
    case isTrue hin =>
      split_ifs at hcontent with hall hany
      exact ⟨hin.1, hin.2, hspace.1 hall, hquote.1 hany⟩
  · rintro ⟨hpos, hle, hsome, hnone⟩
    exact ⟨if_pos ⟨hpos, hle⟩, by rw [if_neg (hspace.2 hsome), if_neg (hquote.2 hnone)]⟩

instance : DecidablePred IsDelimiter := fun _ =>
  decidable_of_iff _ delimiterFaults_eq_nil_iff

namespace Settings

theorem checked_of_isDelimiter (h : IsDelimiter s.delimiter) : s.checked = .ok s := by
  rw [checked, delimiterFaults_eq_nil_iff.2 h]

theorem checked_of_not_isDelimiter (h : ¬ IsDelimiter s.delimiter) :
    s.checked = .error (.delimiter s.delimiter (delimiterFaults s.delimiter)) := by
  rw [← delimiterFaults_eq_nil_iff] at h
  unfold checked
  split
  · contradiction
  · rfl

theorem checked_eq_ok_iff {t : Settings} : s.checked = .ok t ↔ IsDelimiter s.delimiter ∧ s = t := by
  by_cases h : IsDelimiter s.delimiter
  · rw [checked_of_isDelimiter h, Except.ok.injEq, and_iff_right h]
  · simp [checked_of_not_isDelimiter h, h]

end Settings

/-! ## Sources -/

theorem except_bind_eq_ok_iff {ε α β : Type} {x : Except ε α} {f : α → Except ε β} {b : β} :
    x >>= f = .ok b ↔ ∃ a, x = .ok a ∧ f a = .ok b := by
  cases x with
  | error e => simp [bind, Except.bind]
  | ok a => simp [bind, Except.bind]

theorem except_mapError_eq_ok_iff {ε ε' α : Type} {x : Except ε α} {f : ε → ε'} {a : α} :
    x.mapError f = .ok a ↔ x = .ok a := by
  cases x with
  | error e => simp [Except.mapError]
  | ok a => simp [Except.mapError]

theorem readText_eq_ok_iff {content : Content} {text : String} :
    readText content = .ok text ↔ ∃ bytes, content = .ok bytes ∧ decode? bytes = some text := by
  cases content with
  | error reason => simp [readText]
  | ok bytes => cases h : decode? bytes <;> simp [readText, h]

/-- What a source says about the settings, before any check: a file whose bytes are the text of a
document that gives them, or a variable for each setting, of which those that are not set leave the
default. -/
def SettingsSource.Gives (lib : Libraries) : SettingsSource → Settings → Prop
  | .file content, s =>
    ∃ bytes text, content = .ok bytes ∧ decode? bytes = some text ∧ lib.readDocument text = .ok s
  | .environment env, s =>
    env.read .dialect .mySql (fun v => (Dialect.ofName v).mapError .unknownName) = .ok s.dialect ∧
      env.read .output .text (fun v => (OutputFormat.ofName v).mapError .unknownName) =
        .ok s.format ∧
      env.read .delimiter ";" .ok = .ok s.delimiter ∧
      env.read .failFast false booleanNamed = .ok s.failFast

namespace Settings

theorem ofFile_eq_ok_iff {content : Content} :
    ofFile lib content = .ok s ↔
      (SettingsSource.file content).Gives lib s ∧ IsDelimiter s.delimiter := by
  simp only [ofFile, except_bind_eq_ok_iff, except_mapError_eq_ok_iff, checked_eq_ok_iff,
    readText_eq_ok_iff]
  constructor
  · rintro ⟨text, ⟨bytes, hbytes, htext⟩, t, ht, hvalid, rfl⟩
    exact ⟨⟨bytes, text, hbytes, htext, ht⟩, hvalid⟩
  · rintro ⟨⟨bytes, text, hbytes, htext, ht⟩, hvalid⟩
    exact ⟨text, ⟨bytes, hbytes, htext⟩, s, ht, hvalid, rfl⟩

theorem ofEnvironment_eq_ok_iff {env : Environment} :
    ofEnvironment env = .ok s ↔
      (SettingsSource.environment env).Gives lib s ∧ IsDelimiter s.delimiter := by
  simp only [ofEnvironment, except_bind_eq_ok_iff, checked_eq_ok_iff]
  constructor
  · rintro ⟨dialect, hdialect, format, hformat, delimiter, hdelimiter, failFast, hfailFast, hvalid,
      rfl⟩
    exact ⟨⟨hdialect, hformat, hdelimiter, hfailFast⟩, hvalid⟩
  · rintro ⟨⟨hdialect, hformat, hdelimiter, hfailFast⟩, hvalid⟩
    exact ⟨_, hdialect, _, hformat, _, hdelimiter, _, hfailFast, hvalid, rfl⟩

/-- A source is good for settings that it gives and that pass the check. -/
theorem ofSource_eq_ok_iff :
    ofSource lib source = .ok s ↔ source.Gives lib s ∧ IsDelimiter s.delimiter := by
  cases source with
  | file content => exact ofFile_eq_ok_iff
  | environment env => exact ofEnvironment_eq_ok_iff

/-! ## Overrides before sources -/

theorem load_of_error {e : SettingsError} (h : ofSource lib source = .error e) (o : Overrides) :
    load lib source o = .error e := by
  rw [load, h]
  rfl

theorem load_of_ok (h : ofSource lib source = .ok base) (o : Overrides) :
    load lib source o = (base.override o).checked := by
  rw [load, h]
  rfl

theorem load_eq_ok_iff : load lib source o = .ok s ↔
    ∃ base, source.Gives lib base ∧ IsDelimiter base.delimiter ∧
      IsDelimiter (o.delimiter.getD base.delimiter) ∧ base.override o = s := by
  simp only [load, except_bind_eq_ok_iff, ofSource_eq_ok_iff, checked_eq_ok_iff, and_assoc]
  rfl

theorem eq_override_iff : base.override o = s ↔
    s.dialect = o.dialect.getD base.dialect ∧ s.format = o.format.getD base.format ∧
      s.delimiter = o.delimiter.getD base.delimiter ∧
      s.failFast = (base.failFast || o.failFast) := by
  constructor
  · rintro rfl
    exact ⟨rfl, rfl, rfl, rfl⟩
  · obtain ⟨dialect, format, delimiter, failFast⟩ := s
    rintro ⟨rfl, rfl, rfl, rfl⟩
    rfl

end Settings

/-! ## Overrides after overrides -/

/-- The overrides that do what the first and then the second do. -/
def Overrides.andThen (first second : Overrides) : Overrides where
  dialect := second.dialect.or first.dialect
  format := second.format.or first.format
  delimiter := second.delimiter.or first.delimiter
  failFast := first.failFast || second.failFast

/-- The value that the last of a list gives, if one does. -/
theorem getLastD_filterMap_cons {α β : Type} (f : α → Option β) (a : α) (as : List α) (b : β) :
    ((a :: as).filterMap f).getLastD b = (as.filterMap f).getLastD ((f a).getD b) := by
  rw [List.filterMap_cons]
  cases f a with
  | none => rfl
  | some b' => exact List.getLastD_cons

namespace Settings

theorem override_override (s : Settings) (first second : Overrides) :
    (s.override first).override second = s.override (first.andThen second) := by
  simp [override, Overrides.andThen, Option.getD_or, Bool.or_assoc]

theorem override_empty (s : Settings) : s.override {} = s := by
  simp [override]

/-- After any number of overrides each setting has the value that was given last. -/
theorem foldl_override (os : List Overrides) (s : Settings) :
    os.foldl override s =
      { dialect := (os.filterMap Overrides.dialect).getLastD s.dialect
        format := (os.filterMap Overrides.format).getLastD s.format
        delimiter := (os.filterMap Overrides.delimiter).getLastD s.delimiter
        failFast := s.failFast || os.any Overrides.failFast } := by
  induction os generalizing s with
  | nil => simp
  | cons o os ih =>
    rw [List.foldl_cons, ih]
    simp only [getLastD_filterMap_cons, List.any_cons, ← Bool.or_assoc]
    rfl

/-- **Overrides before a file, a file before the environment.** Whatever settings the reader of
documents finds in a text, there are settings exactly if the source gives some with a delimiter and
the delimiter in force is one; each setting is the override where there is one and that of the
source otherwise, and one of the two is enough to stop at the first failure.  An error of the source
is passed on, and where a file is named the environment plays no part.  Overrides after overrides
are overrides, and the last value counts. -/
theorem load_precedence (lib : Libraries) (c : Command) (around : Surroundings) :
    (∀ s, load lib (c.settingsSource around) c.overrides = .ok s ↔
      ∃ base, (c.settingsSource around).Gives lib base ∧ IsDelimiter base.delimiter ∧
        IsDelimiter (c.overrides.delimiter.getD base.delimiter) ∧
        s.dialect = c.overrides.dialect.getD base.dialect ∧
        s.format = c.overrides.format.getD base.format ∧
        s.delimiter = c.overrides.delimiter.getD base.delimiter ∧
        s.failFast = (base.failFast || c.overrides.failFast)) ∧
      (∀ s, load lib (c.settingsSource around) c.overrides = .ok s → IsDelimiter s.delimiter) ∧
      (∀ e, ofSource lib (c.settingsSource around) = .error e →
        load lib (c.settingsSource around) c.overrides = .error e) ∧
      (∀ base, ofSource lib (c.settingsSource around) = .ok base →
        ¬ IsDelimiter (c.overrides.delimiter.getD base.delimiter) →
        load lib (c.settingsSource around) c.overrides =
          .error (.delimiter (c.overrides.delimiter.getD base.delimiter)
            (delimiterFaults (c.overrides.delimiter.getD base.delimiter)))) ∧
      (∀ path env, c.settings = some path →
        c.settingsSource { around with environment := env } = .file (around.file path)) ∧
      (c.settings = none → c.settingsSource around = .environment around.environment) ∧
      (∀ s : Settings, s.override {} = s) ∧
      (∀ (s : Settings) first second,
        (s.override first).override second = s.override (first.andThen second)) ∧
      ∀ (s : Settings) (os : List Overrides), os.foldl override s =
        { dialect := (os.filterMap Overrides.dialect).getLastD s.dialect
          format := (os.filterMap Overrides.format).getLastD s.format
          delimiter := (os.filterMap Overrides.delimiter).getLastD s.delimiter
          failFast := s.failFast || os.any Overrides.failFast } := by
  refine ⟨fun s => ?_, fun s h => ?_, fun e h => load_of_error h _, fun base h hnot => ?_,
    fun path env h => ?_, fun h => ?_, override_empty, override_override,
    fun s os => foldl_override os s⟩
  · simp only [load_eq_ok_iff, eq_override_iff]
  · obtain ⟨base, -, -, hvalid, rfl⟩ := load_eq_ok_iff.1 h
    exact hvalid
  · rw [load_of_ok h]
    exact checked_of_not_isDelimiter hnot
  · rw [Command.settingsSource, h]
  · rw [Command.settingsSource, h]

/-- Overrides replace the delimiter of a file, and that of the environment where no file is named.
The dialect of the environment does not count beside a file, and no override mends a missing one. -/
theorem load_precedence_sources :
    let document := "dialect: postgresql\ndelimiter: go\n"
    let missing := "No such file or directory (os error 2)"
    let lib : Libraries :=
      { readDocument := fun text =>
          if text = document then .ok { dialect := .postgreSql, delimiter := "go" }
          else .error "unknown document"
        showFaults := fun delimiter _ => delimiter }
    let values : Variable → Option Bytes
      | .dialect => some " SQL92 ".toUTF8.toList
      | .delimiter => some "//".toUTF8.toList
      | _ => none
    let around : Surroundings :=
      { environment := values
        file := fun path =>
          if path = "a.yaml".toUTF8.toList then .ok document.toUTF8.toList else .error missing
        input := .ok [] }
    let overrides : Overrides := { delimiter := "$$", failFast := true }
    let named (path : String) : Command := { settings := path.toUTF8.toList, overrides }
    let unnamed : Command := { overrides }
    load lib ((named "a.yaml").settingsSource around) overrides =
        .ok { dialect := .postgreSql, delimiter := "$$", failFast := true } ∧
      load lib ((named "b.yaml").settingsSource around) overrides =
        .error (.unreadable (.system missing)) ∧
      load lib (unnamed.settingsSource around) overrides =
        .ok { dialect := .sql92, delimiter := "$$", failFast := true } := by
  intro document missing lib values around overrides named unnamed
  obtain ⟨hfile, -⟩ := load_precedence lib (named "a.yaml") around
  obtain ⟨-, -, herror, -⟩ := load_precedence lib (named "b.yaml") around
  obtain ⟨henvironment, -⟩ := load_precedence lib unnamed around
  have hdocument : ((named "a.yaml").settingsSource around).Gives lib
      { dialect := .postgreSql, delimiter := "go" } :=
    ⟨document.toUTF8.toList, document, by cbv, by cbv, by cbv⟩
  have hvalues : (unnamed.settingsSource around).Gives lib
      { dialect := .sql92, delimiter := "//" } :=
    ⟨by cbv, by cbv, by cbv, by cbv⟩
  exact ⟨(hfile _).2 ⟨_, hdocument, by decide, by decide, rfl, rfl, rfl, rfl⟩,
    herror _ (by cbv),
    (henvironment _).2 ⟨_, hvalues, by decide, by decide, rfl, rfl, rfl, rfl⟩⟩

end Settings

end SqlTriage

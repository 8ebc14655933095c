import Mathlib
import SqlTriage.Program
import SqlTriage.Proofs.Report.TextLine

/-!
# Stopping at the first failure

A run that stops at the first statement which cannot be classified prints the first lines of the
run that does not stop, up to the line of that statement, and both come to the same result: whether
all statements, also those that one of them never looks at, are classified (`run_failFast`).  A
command therefore ends with the same exit code whether it stops or not, and wherever that is set: in
the environment, in a file or by an option (`exitCode_perform`, `perform_failFast`).
-/

namespace SqlTriage

variable {s : Settings} {sql : String} {sqls : List String}

/-- The settings with the given choice whether to stop at the first failure. -/
def Settings.withFailFast (s : Settings) (failFast : Bool) : Settings :=
  { s with failFast := failFast }

/-- The command with the given choice whether to stop at the first failure. -/
def Command.withFailFast (c : Command) (failFast : Bool) : Command :=
  { c with overrides := { c.overrides with failFast := failFast } }

namespace Settings

/-- The line that is printed for a statement. -/
def line (s : Settings) (sql : String) : String :=
  (s.dialect.report sql).render s.format

/-- Whether a statement is classified. -/
def classifies (s : Settings) (sql : String) : Bool :=
  (s.dialect.report sql).isClassified

/-- The number of the first statement that is not classified, counted from one.  If there is none,
it is greater than that of every statement. -/
def firstFailure (s : Settings) (sqls : List String) : Nat :=
  sqls.findIdx (fun sql => !s.classifies sql) + 1

theorem classifies_iff : s.classifies sql = true ↔ ∃ st, s.dialect.classify sql = .ok st := by
  show (s.dialect.classify sql).toBool = true ↔ _
  cases s.dialect.classify sql with
  | ok st => simp [Except.toBool]
  | error e => simp [Except.toBool]

/-! ## One statement -/

theorem run_cons_of_classifies (h : s.classifies sql = true) :
    s.run (sql :: sqls) = ⟨s.line sql :: (s.run sqls).lines, (s.run sqls).allClassified⟩ := by
  rw [run]
  exact if_pos h

theorem run_cons_of_not_classifies (h : s.classifies sql = false) :
    s.run (sql :: sqls) =
      if s.failFast then ⟨[s.line sql], false⟩ else ⟨s.line sql :: (s.run sqls).lines, false⟩ := by
  rw [run]
  exact if_neg (Bool.not_eq_true _ ▸ h)

/-! ## Whole runs -/

/-- The result is about all statements, wherever the run stops. -/
theorem allClassified_run (s : Settings) (sqls : List String) :
    (s.run sqls).allClassified = sqls.all s.classifies := by
  induction sqls with
  | nil => rfl
  | cons sql sqls ih =>
    rw [List.all_cons]
    cases h : s.classifies sql with
    | true => rw [run_cons_of_classifies h, ih, Bool.true_and]
    | false =>
      rw [run_cons_of_not_classifies h, Bool.false_and]
      split <;> rfl

theorem lines_run_of_not_failFast (hs : s.failFast = false) (sqls : List String) :
    (s.run sqls).lines = sqls.map s.line := by
  induction sqls with
  | nil => rfl
  | cons sql sqls ih =>
    rw [List.map_cons, ← ih]
    cases h : s.classifies sql with
    | true => rw [run_cons_of_classifies h]
    | false => rw [run_cons_of_not_classifies h, hs, if_neg Bool.false_ne_true]

theorem lines_run_of_failFast (hs : s.failFast = true) (sqls : List String) :
    (s.run sqls).lines = (sqls.map s.line).take (s.firstFailure sqls) := by
  induction sqls with
  | nil => rfl
  | cons sql sqls ih =>
    rw [List.map_cons, firstFailure, List.take_succ_cons, List.findIdx_cons]
    cases h : s.classifies sql with
    | true => rw [run_cons_of_classifies h, ih]; rfl
    | false => rw [run_cons_of_not_classifies h, if_pos hs]; rfl

/-- The lines of a run that stops are the first lines of any run. -/
theorem lines_run_withFailFast_prefix (s : Settings) (sqls : List String) :
    ((s.withFailFast true).run sqls).lines <+: (s.run sqls).lines := by
  cases hs : s.failFast with
  | true =>
    have hsame : s.withFailFast true = s := by rw [withFailFast, ← hs]
    rw [hsame]
  | false =>
    rw [lines_run_of_not_failFast hs, lines_run_of_failFast rfl]
    exact List.take_prefix _ _

/-! ## Loading -/

theorem checked_withFailFast (s : Settings) (failFast : Bool) :
    (s.withFailFast failFast).checked = s.checked.map (withFailFast · failFast) := by
  have hdelimiter : (s.withFailFast failFast).delimiter = s.delimiter := rfl
  rw [checked, checked, hdelimiter]
  cases delimiterFaults s.delimiter with
  | nil => rfl
  | cons fault faults => rfl

/-- The option changes nothing else about the settings, nor whether there are any. -/
theorem load_failFast (lib : Libraries) (source : SettingsSource) (o : Overrides) :
    load lib source { o with failFast := true } =
      (load lib source { o with failFast := false }).map (withFailFast · true) := by
  unfold load
  cases ofSource lib source with
  | error e => rfl
  | ok base =>
    have hoverride : base.override { o with failFast := true } =
        (base.override { o with failFast := false }).withFailFast true := by
      simp [override, withFailFast]
    show (base.override { o with failFast := true }).checked = _
    rw [hoverride, checked_withFailFast]
    rfl

end Settings

/-! ## Commands -/

namespace Command

variable {lib : Libraries} {c : Command} {around : Surroundings} {statements : List String}

theorem performUnder_of_error {message : String} (h : c.statementsUnder s around = .error message) :
    c.performUnder s around = { complaint := some ("Error: " ++ message), exitCode := 2 } := by
  rw [performUnder, h]

theorem performUnder_of_ok (h : c.statementsUnder s around = .ok statements) :
    c.performUnder s around =
      { output := (s.run statements).lines
        exitCode := if statements.all s.classifies then 0 else 1 } := by
  rw [performUnder, h, ← Settings.allClassified_run]

/-- The statements are read without a look at the choice. -/
theorem statementsUnder_withFailFast (c : Command) (s : Settings) (failFast : Bool)
    (around : Surroundings) :
    c.statementsUnder (s.withFailFast failFast) around = c.statementsUnder s around :=
  rfl

/-- Under either choice a command ends alike, and the one that stops prints the first lines of what
the other prints. -/
theorem performUnder_withFailFast (c : Command) (s : Settings) (around : Surroundings) :
    (c.performUnder (s.withFailFast true) around).exitCode = (c.performUnder s around).exitCode ∧
      (c.performUnder (s.withFailFast true) around).complaint =
        (c.performUnder s around).complaint ∧
      (c.performUnder (s.withFailFast true) around).output <+:
        (c.performUnder s around).output := by
  have hsame := c.statementsUnder_withFailFast s true around
  cases h : c.statementsUnder s around with
  | error message =>
    rw [h] at hsame
    rw [performUnder_of_error h, performUnder_of_error hsame]
    exact ⟨rfl, rfl, List.prefix_rfl⟩
  | ok statements =>
    rw [h] at hsame
    rw [performUnder_of_ok h, performUnder_of_ok hsame]
    exact ⟨rfl, rfl, s.lines_run_withFailFast_prefix statements⟩

theorem perform_of_load_error {e : SettingsError}
    (h : Settings.load lib (c.settingsSource around) c.overrides = .error e) :
    c.perform lib around =
      { complaint := some ("Configuration error: " ++ e.message lib), exitCode := 2 } := by
  rw [perform, h]

theorem perform_of_load (h : Settings.load lib (c.settingsSource around) c.overrides = .ok s) :
    c.perform lib around = c.performUnder s around := by
  rw [perform, h]

/-- With and without the option a command ends alike, and with it it prints the first lines of what
it prints without. -/
theorem perform_failFast (lib : Libraries) (c : Command) (around : Surroundings) :
    ((c.withFailFast true).perform lib around).exitCode =
        ((c.withFailFast false).perform lib around).exitCode ∧
      ((c.withFailFast true).perform lib around).complaint =
        ((c.withFailFast false).perform lib around).complaint ∧
      ((c.withFailFast true).perform lib around).output <+:
        ((c.withFailFast false).perform lib around).output := by
  have hfast := Settings.load_failFast lib (c.settingsSource around) c.overrides
  cases hload : Settings.load lib (c.settingsSource around)
      { c.overrides with failFast := false } with
  | error e =>
    rw [hload] at hfast
    rw [perform_of_load_error (c := c.withFailFast true) hfast,
      perform_of_load_error (c := c.withFailFast false) hload]
    exact ⟨rfl, rfl, List.prefix_rfl⟩
  | ok s =>
    rw [hload] at hfast
    rw [perform_of_load (c := c.withFailFast true) hfast,
      perform_of_load (c := c.withFailFast false) hload]
    exact performUnder_withFailFast c s around

/-- The exit code tells whether all statements are classified, or that there are none to run over.
It does not depend on the choice, wherever the loaded settings have it from. -/
theorem exitCode_perform {failFast : Bool}
    (h : Settings.load lib (c.settingsSource around) c.overrides = .ok (s.withFailFast failFast)) :
    (∀ message, c.statementsUnder s around = .error message →
      (c.perform lib around).exitCode = 2) ∧
    ∀ statements, c.statementsUnder s around = .ok statements →
      (c.perform lib around).exitCode = if statements.all s.classifies then 0 else 1 := by
  rw [perform_of_load h]
  constructor
  · intro message hmessage
    rw [performUnder_of_error (s := s.withFailFast failFast) hmessage]
  · intro statements hstatements
    rw [performUnder_of_ok (s := s.withFailFast failFast) hstatements]
    rfl

end Command

/-- **Stopping at the first failure changes no result.** The lines are those of the full run up to
and including the first statement that is not classified, and all of them if there is none.  In both
modes the result is whether all statements of the list are classified.  The statements of a script
are the same in both modes, and so is the exit code of a command: 0 if all its statements are
classified, 1 if not, 2 if they cannot be read, wherever the mode was set. -/
theorem Settings.run_failFast (s : Settings) (sqls : List String) :
    ((s.withFailFast false).run sqls).lines = sqls.map s.line ∧
      ((s.withFailFast true).run sqls).lines =
        ((s.withFailFast false).run sqls).lines.take (s.firstFailure sqls) ∧
      (∀ failFast, ((s.withFailFast failFast).run sqls).allClassified = true ↔
        ∀ sql ∈ sqls, ∃ st, s.dialect.classify sql = .ok st) ∧
      (∀ failFast script, (s.withFailFast failFast).statements script = s.statements script) ∧
      (∀ (lib : Libraries) (c : Command) (around : Surroundings) failFast,
        load lib (c.settingsSource around) c.overrides = .ok (s.withFailFast failFast) →
          (∀ message, c.statementsUnder s around = .error message →
            (c.perform lib around).exitCode = 2) ∧
          ∀ statements, c.statementsUnder s around = .ok statements →
            (c.perform lib around).exitCode = if statements.all s.classifies then 0 else 1) ∧
      ∀ (lib : Libraries) (c : Command) (around : Surroundings),
        ((c.withFailFast true).perform lib around).exitCode =
          ((c.withFailFast false).perform lib around).exitCode := by
  have hfull : ((s.withFailFast false).run sqls).lines = sqls.map s.line :=
    lines_run_of_not_failFast rfl sqls
  refine ⟨hfull, ?_, fun failFast => ?_, fun _ _ => rfl, fun lib c around failFast h => ?_,
    fun lib c around => ?_⟩
  · rw [hfull]
    exact lines_run_of_failFast rfl sqls
  · rw [allClassified_run, List.all_eq_true]
    exact forall₂_congr fun sql _ => classifies_iff
  · exact Command.exitCode_perform h
  · exact (c.perform_failFast lib around).1

/-- The mode is set in the environment, and the second of three statements is not classified. -/
theorem Settings.run_failFast_environment :
    let sqls := ["commit", "drop table t", "select 1"]
    let c : Command := { statements := sqls }
    let around : Surroundings :=
      { environment := fun v => if v = .failFast then some "true".toUTF8.toList else none
        file := fun _ => .error "No such file or directory (os error 2)"
        input := .ok [] }
    (({ failFast := true } : Settings).run sqls).lines =
        ["TransactionControl\tcommit", "ERROR\tUnsupported SQL statement: [drop table t]"] ∧
      ∀ lib : Libraries,
        load lib (c.settingsSource around) c.overrides = .ok { failFast := true } ∧
          (c.perform lib around).exitCode = 1 := by
  intro sqls c around
  obtain ⟨hfull, hlines, -, -, hexit, -⟩ := run_failFast {} sqls
  have hfirst : ({} : Settings).firstFailure sqls = 2 := by cbv
  have hcommit : ({} : Settings).line "commit" = "TransactionControl\tcommit" := by
    have h : Dialect.mySql.classify "commit" = .ok .transactionControl := by cbv
    exact (Dialect.render_text_of_ok h).trans (by decide)
  have hdrop : ({} : Settings).line "drop table t" =
      "ERROR\tUnsupported SQL statement: [drop table t]" := by
    have h : Dialect.mySql.classify "drop table t" = .error ⟨"drop table t"⟩ := by
      cbv
    exact (Dialect.render_text_of_error h).trans (by decide)
  refine ⟨?_, fun lib => ?_⟩
  · rw [hfull, hfirst] at hlines
    have htake : (sqls.map ({} : Settings).line).take 2 =
        [({} : Settings).line "commit", ({} : Settings).line "drop table t"] := rfl
    exact hlines.trans (htake.trans (by rw [hcommit, hdrop]))
  · have hload : load lib (c.settingsSource around) c.overrides = .ok { failFast := true } := by
      cbv
    refine ⟨hload, ?_⟩
    have hcode := (hexit lib c around true hload).2 sqls rfl
    have hall : sqls.all ({} : Settings).classifies = false := by cbv
    rw [hcode, hall]
    rfl

end SqlTriage

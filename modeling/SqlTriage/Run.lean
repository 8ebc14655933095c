import SqlTriage.Script
import SqlTriage.Settings.Basic

/-!
# Runs

A run classifies statements in order and prints a report for each. With the setting `failFast` it
stops after the first statement that cannot be classified.
-/

namespace SqlTriage

/-- The outcome of a run. -/
structure Run where
  /-- The reports, one line each. -/
  lines : List String
  /-- Whether every statement was classified. -/
  allClassified : Bool
deriving DecidableEq, Repr

/-- Runs over a list of statements. -/
def Settings.run (s : Settings) : List String → Run
  | [] => ⟨[], true⟩
  | sql :: rest =>
    let report := s.dialect.report sql
    let line := report.render s.format
    if report.isClassified then
      let more := s.run rest
      ⟨line :: more.lines, more.allClassified⟩
    else if s.failFast then ⟨[line], false⟩
    else ⟨line :: (s.run rest).lines, false⟩

/-- The statements of a script under the given settings. -/
def Settings.statements (s : Settings) (script : String) : List String :=
  Script.statements s.dialect.lexicalRules s.delimiter script

/-- Runs over the statements of a script. -/
def Settings.runScript (s : Settings) (script : String) : Run :=
  s.run (s.statements script)

end SqlTriage

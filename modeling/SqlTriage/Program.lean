import SqlTriage.Run
import SqlTriage.Settings.Load

/-!
# The program

From a command, environment, files and standard input to what is printed and the exit code. The
exit code is 0 if every statement was classified, 1 if one was not, and 2 if there was nothing to
run: bad settings or a script that cannot be read.
-/

namespace SqlTriage

open SqlTriage.Text

/-- A command as the arguments give it. -/
structure Command where
  /-- The statements among the arguments. -/
  statements : List String := []
  /-- The path of the script to read if there are no statements. -/
  script : Option Bytes := none
  /-- The path of the settings document. -/
  settings : Option Bytes := none
  /-- The settings among the arguments. -/
  overrides : Overrides := {}
deriving DecidableEq, Repr

/-- What a program finds around it. -/
structure Surroundings where
  /-- The environment variables. -/
  environment : Environment
  /-- What the system gives of the file at a path. -/
  file : Bytes → Content
  /-- What the system gives of standard input. -/
  input : Content

/-- What a program leaves behind. -/
structure Result where
  /-- The lines on standard output. -/
  output : List String := []
  /-- The message on standard error. -/
  complaint : Option String := none
  /-- The exit code. -/
  exitCode : Nat
deriving DecidableEq, Repr

namespace Command

/-- Where a command takes its settings from. -/
def settingsSource (c : Command) (around : Surroundings) : SettingsSource :=
  match c.settings with
  | some path => .file (around.file path)
  | none => .environment around.environment

/-- The statements that a command runs over: those among the arguments, or else those of the
script, which is read from standard input if no file is named. -/
def statementsUnder (c : Command) (s : Settings) (around : Surroundings) :
    Except String (List String) :=
  if !c.statements.isEmpty then .ok c.statements
  else
    match c.script with
    | some path =>
      match readText (around.file path) with
      | .ok script => .ok (s.statements script)
      | .error fault =>
        .error ("Failed to read script " ++ decodeLossy path ++ ": " ++ fault.message)
    | none =>
      match readText around.input with
      | .ok script => .ok (s.statements script)
      | .error fault => .error ("Failed to read statements from stdin: " ++ fault.message)

/-- Runs over the statements of a command. -/
def performUnder (c : Command) (s : Settings) (around : Surroundings) : Result :=
  match c.statementsUnder s around with
  | .error message => { complaint := some ("Error: " ++ message), exitCode := 2 }
  | .ok statements =>
    let run := s.run statements
    { output := run.lines, exitCode := if run.allClassified then 0 else 1 }

/-- Carries out a command: loads its settings and runs over its statements. -/
def perform (lib : Libraries) (c : Command) (around : Surroundings) : Result :=
  match Settings.load lib (c.settingsSource around) c.overrides with
  | .error e => { complaint := some ("Configuration error: " ++ e.message lib), exitCode := 2 }
  | .ok s => c.performUnder s around

end Command

end SqlTriage

import SqlTriage.Settings.Basic

/-!
# Settings from the environment

Each setting has a variable. A variable that is not set leaves the default; one that is set and
cannot be understood is an error, and of several such the first in the order of the settings.
-/

namespace SqlTriage

open SqlTriage.Text

/-- The values of the environment variables that are set. -/
abbrev Environment := Variable → Option Bytes

/-- The value of a variable, or the default if it is not set. -/
def Environment.read {α : Type} (env : Environment) (v : Variable) (default : α)
    (parse : String → Except ValueFault α) : Except SettingsError α :=
  match env v with
  | none => .ok default
  | some bytes =>
    match decode? bytes with
    | none => .error (.variableNotText v bytes)
    | some value => (parse value).mapError (.variableValue v value)

/-- The truth value that a text spells out. -/
def booleanNamed (value : String) : Except ValueFault Bool :=
  if value == "true" then .ok true
  else if value == "false" then .ok false
  else .error .notBoolean

/-- The settings that the environment gives. -/
def Settings.ofEnvironment (env : Environment) : Except SettingsError Settings := do
  let defaults : Settings := {}
  let dialect ← env.read .dialect defaults.dialect fun v =>
    (Dialect.ofName v).mapError .unknownName
  let format ← env.read .output defaults.format fun v =>
    (OutputFormat.ofName v).mapError .unknownName
  let delimiter ← env.read .delimiter defaults.delimiter .ok
  let failFast ← env.read .failFast defaults.failFast booleanNamed
  Settings.checked { dialect, format, delimiter, failFast }

end SqlTriage

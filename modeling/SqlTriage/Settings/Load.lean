import SqlTriage.Settings.Environment

/-!
# Loading settings

Settings come from one source, a file if one is named and the environment otherwise. The source
must give settings that pass the check on their own; the overrides of the command line follow, and
the result is checked again. How the text of a file gives settings is left to a library.
-/

namespace SqlTriage

open SqlTriage.Text

/-- Where settings come from. -/
inductive SettingsSource where
  /-- A file with what the system gives of it. -/
  | file (content : Content)
  | environment (env : Environment)

/-- The settings that a file gives. -/
def Settings.ofFile (lib : Libraries) (content : Content) : Except SettingsError Settings := do
  let text ← (readText content).mapError .unreadable
  let s ← (lib.readDocument text).mapError (.document text)
  s.checked

/-- The settings that a source gives. -/
def Settings.ofSource (lib : Libraries) : SettingsSource → Except SettingsError Settings
  | .file content => Settings.ofFile lib content
  | .environment env => Settings.ofEnvironment env

/-- The settings of a source with overrides. -/
def Settings.load (lib : Libraries) (source : SettingsSource) (o : Overrides) :
    Except SettingsError Settings := do
  let base ← Settings.ofSource lib source
  (base.override o).checked

end SqlTriage

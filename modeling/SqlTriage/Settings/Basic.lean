import SqlTriage.Report
import SqlTriage.Source

/-!
# Settings

The settings of a run, the check that every complete set of settings has to pass, and the
overrides of the command line. The delimiter is the only setting that a check restricts: a blank
one or one with a quote in it could never be found in a script.
-/

namespace SqlTriage

open SqlTriage.Text SqlTriage.Lexical

/-- The settings of a run. -/
structure Settings where
  /-- The dialect whose rules apply. -/
  dialect : Dialect := .mySql
  /-- The format of reports. -/
  format : OutputFormat := .text
  /-- What stands between the statements of a script. -/
  delimiter : String := ";"
  /-- Whether to stop after the first statement that cannot be classified. -/
  failFast : Bool := false
deriving DecidableEq, Repr

/-! ## The check -/

/-- What is wrong with a delimiter. -/
inductive DelimiterFault where
  /-- It is empty or too long. -/
  | length
  /-- It holds nothing but white space. -/
  | blank
  /-- It holds a quote. -/
  | quote
deriving DecidableEq, Repr

/-- The greatest number of characters of a delimiter. -/
def maxDelimiterLength : Nat := 16

/-- The faults of a delimiter. The length is checked on its own; of the two faults of content the
first is reported. -/
def delimiterFaults (delimiter : String) : List DelimiterFault :=
  let chars := delimiter.toList
  (if 1 ≤ chars.length ∧ chars.length ≤ maxDelimiterLength then [] else [.length]) ++
    if chars.all isSpace then [.blank] else if chars.any isQuote then [.quote] else []

/-! ## Errors -/

/-- The environment variables that hold settings. -/
inductive Variable where
  | dialect
  | output
  | delimiter
  | failFast
deriving DecidableEq, Repr

/-- The name of a variable in the environment. -/
def Variable.name : Variable → String
  | .dialect => "SQLJUDGE_DIALECT"
  | .output => "SQLJUDGE_OUTPUT"
  | .delimiter => "SQLJUDGE_DELIMITER"
  | .failFast => "SQLJUDGE_FAIL_FAST"

/-- Why the text of a variable is no value for it. -/
inductive ValueFault where
  | unknownName (e : UnknownName)
  /-- The text is neither `true` nor `false`. -/
  | notBoolean
deriving DecidableEq, Repr

/-- The message that reports a value fault. -/
def ValueFault.message : ValueFault → String
  | .unknownName e => e.message
  | .notBoolean => "provided string was not `true` or `false`"

/-- Why there are no settings. -/
inductive SettingsError where
  /-- A variable holds bytes that are no text. -/
  | variableNotText (source : Variable) (value : Bytes)
  /-- A variable holds a text that is no value for it. -/
  | variableValue (source : Variable) (value : String) (fault : ValueFault)
  /-- The settings document cannot be read. -/
  | unreadable (fault : ReadFault)
  /-- The settings document has the given text, which gives no settings for the given cause. -/
  | document (content cause : String)
  /-- The delimiter does not pass the check. -/
  | delimiter (value : String) (faults : List DelimiterFault)
deriving DecidableEq, Repr

/-- The message of a failed check, where it has one. -/
def DelimiterFault.message? : DelimiterFault → Option String
  | .length => some "Delimiter must be 1 to 16 characters"
  | .blank | .quote => none

/-- The code of a failed check. -/
def DelimiterFault.code : DelimiterFault → String
  | .length => "length"
  | .blank => "blank_delimiter"
  | .quote => "quote_in_delimiter"

/-- The message that reports a value which cannot be understood. -/
def parseMessage (field value cause : String) : String :=
  "Parse error for " ++ field ++ ": " ++ value ++ " - " ++ cause

/-- What the program leaves to libraries. -/
structure Libraries where
  /-- Reads a settings document: the settings that its text gives, or why it gives none. -/
  readDocument : String → Except String Settings
  /-- Shows a delimiter with its faults. -/
  showFaults : String → List DelimiterFault → String

/-- The message that reports a settings error. -/
def SettingsError.message (lib : Libraries) : SettingsError → String
  | .variableNotText v value =>
    "Environment variable error for " ++ v.name ++
      ": environment variable was not valid unicode: " ++ shownBytes value
  | .variableValue v value fault => parseMessage v.name value fault.message
  | .unreadable fault => parseMessage "yaml_file" "file read failed" fault.message
  | .document content cause => parseMessage "yaml_content" content cause
  | .delimiter value faults => "Validation error: " ++ lib.showFaults value faults

/-- Passes settings on if their delimiter has no fault. -/
def Settings.checked (s : Settings) : Except SettingsError Settings :=
  match delimiterFaults s.delimiter with
  | [] => .ok s
  | faults => .error (.delimiter s.delimiter faults)

/-! ## Overrides -/

/-- The settings that the command line gives. -/
structure Overrides where
  /-- A dialect in place of that of the settings. -/
  dialect : Option Dialect := none
  /-- A format in place of that of the settings. -/
  format : Option OutputFormat := none
  /-- A delimiter in place of that of the settings. -/
  delimiter : Option String := none
  /-- Whether to stop after the first failure in any case. -/
  failFast : Bool := false
deriving DecidableEq, Repr

/-- The settings with what is overridden. -/
def Settings.override (s : Settings) (o : Overrides) : Settings where
  dialect := o.dialect.getD s.dialect
  format := o.format.getD s.format
  delimiter := o.delimiter.getD s.delimiter
  failFast := s.failFast || o.failFast

end SqlTriage

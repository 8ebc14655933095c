import SqlTriage.Text.Blank

/-!
# Names of choices

Options and variables choose a dialect or an output format by name. Such a name may stand between
white space and in any ASCII case.
-/

namespace SqlTriage

/-- What a name chooses. -/
inductive Choice where
  | dialect
  | outputFormat
deriving DecidableEq, Repr

/-- What is chosen, in words. -/
def Choice.words : Choice → String
  | .dialect => "dialect"
  | .outputFormat => "output format"

/-- A name that chooses nothing. -/
structure UnknownName where
  /-- What it should have chosen. -/
  choice : Choice
  /-- The name as it was given. -/
  value : String
deriving DecidableEq, Repr

/-- The message that reports an unknown name. -/
def UnknownName.message (e : UnknownName) : String :=
  "Unknown " ++ e.choice.words ++ ": '" ++ e.value ++ "'"

/-- A name without white space at its ends and in lower case. -/
def plainName (value : String) : String :=
  (Text.trimSpace value).toLower

end SqlTriage

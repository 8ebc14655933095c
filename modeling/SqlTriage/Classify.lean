import SqlTriage.Dialect
import SqlTriage.Lexical.Stripped
import SqlTriage.Statement.OfMatch
import SqlTriage.Text.Quotation

/-!
# Classification

A statement is stripped of comments, cut into tokens and matched against the rule table of its
dialect, from the first token on that can open a statement. `Dialect.examine` keeps what is found
on the way; the classification and the log records are both read off it. A statement that no rule
matches, or whose captured name is missing, is unclassifiable, and nothing else fails.
-/

namespace SqlTriage

open SqlTriage.Text SqlTriage.Lexical

/-- The failure of classification. It carries the statement exactly as received. -/
structure Unclassifiable where
  /-- The statement. -/
  sql : String
deriving DecidableEq, Repr

/-- The message that reports an unclassifiable statement. -/
def Unclassifiable.message (e : Unclassifiable) : String :=
  "Unsupported SQL statement: [" ++ e.sql ++ "]"

/-- What is found out about a statement. -/
structure Examination where
  /-- The dialect whose rules apply. -/
  dialect : Dialect
  /-- The statement as received. -/
  sql : String
  /-- The statement without comments. -/
  stripped : String
  /-- The tokens that the rules see. -/
  window : List Token
  /-- The rule that matched. -/
  matched : Option RuleMatch
  /-- The statement that the match gives. -/
  statement : Option Statement
deriving DecidableEq, Repr

namespace Dialect

/-- Examines a statement under the rules of a dialect. -/
def examine (d : Dialect) (sql : String) : Examination :=
  let stripped := d.lexicalRules.stripped sql
  let window := d.table.window (d.lexicalRules.tokens stripped)
  let matched := d.table.find? window
  { dialect := d, sql, stripped, window, matched
    statement := matched.bind fun m => m.statement? stripped window }

/-- Classifies a statement under the rules of a dialect. -/
def classify (d : Dialect) (sql : String) : Except Unclassifiable Statement :=
  match (d.examine sql).statement with
  | some statement => .ok statement
  | none => .error ⟨sql⟩

end Dialect

/-! ## Log records -/

/-- The levels of log records. -/
inductive LogLevel where
  | trace
  | debug
deriving DecidableEq, Repr

/-- The name of a level in log records. -/
def LogLevel.name : LogLevel → String
  | .trace => "TRACE"
  | .debug => "DEBUG"

/-- A log record. -/
structure LogRecord where
  /-- How much detail it belongs to. -/
  level : LogLevel
  /-- What it says. -/
  text : String
deriving DecidableEq, Repr

/-- The channel to which classification writes its log records. -/
def LogRecord.channel : String := "sqljudge::sql_judge"

/-- The log records of an examination, in order. -/
def Examination.log (e : Examination) : List LogRecord :=
  let tokens := shownList (e.window.map Token.text)
  ⟨.trace, "Judging [" ++ e.stripped ++ "] with keywords " ++ tokens⟩ ::
    match e.matched with
    | none => [⟨.debug, "No " ++ e.dialect.name ++ " rule matches: " ++ e.sql⟩]
    | some m =>
      let family := m.rule.family.name
      ⟨.debug, "Matched " ++ family ++ " rule (" ++ toString m.consumed ++ " keywords)"⟩ ::
        match e.statement with
        | some _ => []
        | none => [⟨.debug, "Missing identifier for " ++ family ++ " rule: " ++ e.sql⟩]

end SqlTriage

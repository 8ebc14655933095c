import SqlTriage.Lexical.Token

/-!
# Rules

A rule recognises one family of statements by its first tokens. Its steps are matched from left
to right without going back: an optional word is taken whenever it is there. Behind the steps a
rule may capture a name.
-/

namespace SqlTriage

open SqlTriage.Lexical

/-- One position of a rule. Words are in upper case. -/
inductive Step where
  /-- The token must be one of the words. -/
  | keyword (words : List String)
  /-- The token is consumed if it is one of the words, and left alone otherwise. -/
  | optional (words : List String)
  /-- There must be a token. -/
  | any
deriving DecidableEq, Repr

/-- What a rule captures behind its steps. -/
inductive Capture where
  | nothing
  /-- The next token. -/
  | identifier
  /-- `FROM` or `IN`, then the token behind it. -/
  | fromIdentifier
  /-- The same clause, which may also be absent. -/
  | optionalFromIdentifier
  /-- The next token, as a reference located in the text. -/
  | tableReference
deriving DecidableEq, Repr

/-- The number of tokens a capture looks at. -/
def Capture.width : Capture → Nat
  | .nothing => 0
  | .identifier | .tableReference => 1
  | .fromIdentifier | .optionalFromIdentifier => 2

/-- The families of statements that rules tell apart. -/
inductive Family where
  | query
  | insert
  | replace
  | update
  | delete
  | transactionControl
  | sessionSet
  | useSchema
  | describe
  | showDatabases
  | showTableStatus
  | showTables
  | showColumns
  | showIndex
  | showCreateTable
  | showOther
deriving DecidableEq, Repr

/-- All families, in the order of declaration. -/
def Family.all : List Family :=
  [.query, .insert, .replace, .update, .delete, .transactionControl, .sessionSet, .useSchema,
   .describe, .showDatabases, .showTableStatus, .showTables, .showColumns, .showIndex,
   .showCreateTable, .showOther]

/-- The name of a family in log records. -/
def Family.name : Family → String
  | .query => "Query"
  | .insert => "Insert"
  | .replace => "Replace"
  | .update => "Update"
  | .delete => "Delete"
  | .transactionControl => "TransactionControl"
  | .sessionSet => "SessionSet"
  | .useSchema => "UseSchema"
  | .describe => "Describe"
  | .showDatabases => "ShowDatabases"
  | .showTableStatus => "ShowTableStatus"
  | .showTables => "ShowTables"
  | .showColumns => "ShowColumns"
  | .showIndex => "ShowIndex"
  | .showCreateTable => "ShowCreateTable"
  | .showOther => "ShowOther"

/-- A pattern over the first tokens of a statement. -/
structure Rule where
  /-- The family of the statements that match. -/
  family : Family
  /-- The pattern, one step after the other. -/
  steps : List Step
  /-- The name behind the pattern. -/
  capture : Capture := .nothing
deriving DecidableEq, Repr

/-! ## Matching -/

/-- The number of tokens that a list of steps consumes, if every step matches. -/
def consumedBy? : List Step → List Token → Option Nat
  | [], _ => some 0
  | .keyword words :: steps, t :: ts =>
    if t.isOneOf words then (consumedBy? steps ts).map (· + 1) else none
  | .keyword _ :: _, [] => none
  | .optional words :: steps, t :: ts =>
    if t.isOneOf words then (consumedBy? steps ts).map (· + 1) else consumedBy? steps (t :: ts)
  | .optional _ :: steps, [] => consumedBy? steps []
  | .any :: steps, _ :: ts => (consumedBy? steps ts).map (· + 1)
  | .any :: _, [] => none

/-- The number of tokens that the rule's steps consume, if they match. -/
def Rule.consumed? (r : Rule) (tokens : List Token) : Option Nat :=
  consumedBy? r.steps tokens

/-- The number of tokens that the rule may look at, its capture included. -/
def Rule.depth (r : Rule) : Nat :=
  r.steps.length + r.capture.width

/-- Whether a statement of the rule can begin with the token: the first step requires it. -/
def Rule.startsWith (r : Rule) (t : Token) : Bool :=
  match r.steps.head? with
  | some (.keyword words) => t.isOneOf words
  | _ => false

end SqlTriage

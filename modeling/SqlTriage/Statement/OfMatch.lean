import SqlTriage.Rule.Table
import SqlTriage.Statement.Basic

/-!
# From a match to a statement

A matched rule becomes a statement once the name that it captures is there. A rule whose capture
is missing gives no statement, as in a `USE` with nothing behind it.
-/

namespace SqlTriage

open SqlTriage.Text SqlTriage.Lexical

namespace RuleMatch

/-- Whether the token begins the clause that names a table or database. -/
def isFromWord (t : Token) : Bool :=
  t.isOneOf ["FROM", "IN"]

/-- The identifier at a position. -/
def identifierAt? (tokens : List Token) (i : Nat) : Option Token :=
  tokens[i]?.filter Token.isIdentifier

/-- The token that the rule captures: `none` if one is required and missing, `some none` if the
statement goes without. -/
def captured? (m : RuleMatch) (tokens : List Token) : Option (Option Token) :=
  match m.rule.capture with
  | .nothing => some none
  | .identifier | .tableReference => (identifierAt? tokens m.consumed).map some
  | .fromIdentifier =>
    if tokens[m.consumed]?.any isFromWord then (identifierAt? tokens (m.consumed + 1)).map some
    else none
  | .optionalFromIdentifier =>
    if tokens[m.consumed]?.any isFromWord then (identifierAt? tokens (m.consumed + 1)).map some
    else some none

/-- The modifiers that stand among the tokens the steps consumed. -/
def modifiers (m : RuleMatch) (tokens : List Token) : InsertModifiers where
  replaces := m.rule.family == .replace
  ignores := (tokens.take m.consumed).any fun t => t.isOneOf ["IGNORE"]

/-- The reference that a token makes to a table: the part of the stripped text in its place. -/
def reference? (stripped : String) (t : Token) : Option TableReference :=
  (byteSlice? t.offset (byteLength t.text.toList) stripped.toList).map fun name =>
    .ofName t.offset (String.ofList name)

/-- The statement of a matched rule, given the stripped text and its tokens from the one on at
which the match began. -/
def statement? (m : RuleMatch) (stripped : String) (tokens : List Token) : Option Statement := do
  let target ← m.captured? tokens
  let name := target.map Token.text
  match m.rule.family with
  | .query => return .query
  | .insert | .replace => return .mutation (.insert (m.modifiers tokens))
  | .update => return .mutation .update
  | .delete => return .mutation .delete
  | .transactionControl => return .transactionControl
  | .sessionSet => return .sessionSet
  | .useSchema => return .useSchema (← name)
  | .describe => return .describe (← name)
  | .showDatabases => return .showDatabases
  | .showTableStatus => return .showTableStatus name
  | .showTables => return .showTables
  | .showColumns => return .showColumns (← name)
  | .showIndex => return .showIndex (← name)
  | .showCreateTable => return .showCreateTable (← reference? stripped (← target))
  | .showOther => return .showOther

end RuleMatch

end SqlTriage

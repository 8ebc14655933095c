import SqlTriage.Rule.Basic

/-!
# Rule tables

A table is an ordered list of rules, and the first rule whose steps match wins. Tables are put
together from layers, the layer of a dialect in front of the layer that all dialects share, so
that a dialect overrides a shared rule by matching the same words earlier.
-/

namespace SqlTriage

open SqlTriage.Lexical

/-- An ordered list of rules. -/
structure RuleTable where
  /-- The rules, those that win first. -/
  rules : List Rule
deriving DecidableEq, Repr

/-- A rule whose steps matched, with the number of tokens they consumed. -/
structure RuleMatch where
  /-- The rule. -/
  rule : Rule
  /-- How many tokens its steps consumed. -/
  consumed : Nat
deriving DecidableEq, Repr

namespace RuleTable

/-- The table of the given layers, in order of priority. -/
def ofLayers (layers : List (List Rule)) : RuleTable :=
  ⟨layers.flatten⟩

/-- The number of tokens that suffices to decide: the greatest depth of a rule. -/
def lookahead (table : RuleTable) : Nat :=
  (table.rules.map Rule.depth).foldr max 0

/-- The first rule whose steps match. -/
def find? (table : RuleTable) (tokens : List Token) : Option RuleMatch :=
  table.rules.findSome? fun r => (r.consumed? tokens).map fun n => ⟨r, n⟩

/-- The words that begin a statement of no family. A search for the beginning of a statement
stops at them, so that a `SET` or `SELECT` further on is not taken for the beginning. -/
def foreignOpeners : List String :=
  ["CREATE", "ALTER", "DROP", "TRUNCATE", "RENAME", "GRANT", "REVOKE", "LOAD", "EXPLAIN"]

/-- Whether a statement can begin with the token: some rule starts with it, or no rule could. -/
def opens (table : RuleTable) (t : Token) : Bool :=
  t.isOneOf foreignOpeners || table.rules.any fun r => r.startsWith t

/-- The tokens by which a statement is judged: from the first that opens a statement on, as many
as the table looks at. What stands before is noise. -/
def window (table : RuleTable) (tokens : List Token) : List Token :=
  (tokens.dropWhile fun t => !table.opens t).take table.lookahead

end RuleTable

end SqlTriage

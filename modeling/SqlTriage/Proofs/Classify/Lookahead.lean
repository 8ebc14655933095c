import Mathlib
import SqlTriage.Proofs.Classify.Verdict

/-!
# How far a table looks

The lookahead of a table is the depth of its deepest rule, and no rule reads a token behind it:
neither its steps, of which each consumes one token at most, nor its capture, nor the search for
the modifiers of an insert among the tokens consumed.  A table of any rules therefore makes the
same of a list of tokens and of any front part of it that is no shorter than the lookahead
(`classify_eq_classifyUnbounded`), and a statement may be classified by its first tokens.
-/

namespace SqlTriage

open SqlTriage.Lexical

namespace Dialect

/-- Classifies a statement by all of its tokens from the opener on, however many the table looks
at. -/
def classifyUnbounded (d : Dialect) (sql : String) : Except Unclassifiable Statement :=
  let tokens := d.table.fromOpener (d.tokens sql)
  let found := d.table.find? tokens
  match found.bind fun m => m.statement? (d.lexicalRules.stripped sql) tokens with
  | some statement => .ok statement
  | none => .error ⟨sql⟩

/-- **The lookahead loses nothing.** Whatever the rules of a table, the rule that matches and the
statement made of the match, or its absence, are the same for all tokens as for the first ones, if
these are no fewer than the lookahead.  So the classification is that of all tokens. -/
theorem classify_eq_classifyUnbounded :
    (∀ (layers : List (List Rule)) (stripped : String) (tokens : List Token) (n : Nat),
      (RuleTable.ofLayers layers).lookahead ≤ n →
        (RuleTable.ofLayers layers).find? (tokens.take n) =
            (RuleTable.ofLayers layers).find? tokens ∧
          ∀ m, (RuleTable.ofLayers layers).find? tokens = some m →
            m.statement? stripped (tokens.take n) = m.statement? stripped tokens) ∧
      ∀ (d : Dialect) (sql : String), d.classify sql = d.classifyUnbounded sql := by
  constructor
  · intro layers stripped tokens n hn
    refine ⟨RuleTable.find?_take hn tokens, fun m hm => ?_⟩
    exact RuleMatch.statement?_take hm hn stripped
  · intro d sql
    have hall := statement_examine_fromOpener d sql
    unfold classify classifyUnbounded
    rewrite [hall]
    rfl

/-- The deepest rule of MySQL finds its name in the fifth token, and four tokens would not do. -/
theorem statement?_take_five :
    (RuleTable.ofLayers [mySqlRules, sharedRules]).lookahead = 5 ∧
      RuleMatch.statement?
        ⟨⟨.showColumns, [showStep, .optional ["FULL"], .keyword ["COLUMNS", "FIELDS"]],
          .fromIdentifier⟩, 3⟩ ""
        ((mySql.tokens "(show full columns from t like 'a'").tail.take 5) =
          some (.showColumns "t") ∧
      RuleMatch.statement?
        ⟨⟨.showColumns, [showStep, .optional ["FULL"], .keyword ["COLUMNS", "FIELDS"]],
          .fromIdentifier⟩, 3⟩ ""
        ((mySql.tokens "(show full columns from t like 'a'").tail.take 4) = none := by
  have hfind : (RuleTable.ofLayers [mySqlRules, sharedRules]).find?
      (mySql.tokens "(show full columns from t like 'a'").tail =
        some ⟨⟨.showColumns, [showStep, .optional ["FULL"], .keyword ["COLUMNS", "FIELDS"]],
          .fromIdentifier⟩, 3⟩ := by cbv
  have hlook : (RuleTable.ofLayers [mySqlRules, sharedRules]).lookahead = 5 := by decide
  refine ⟨hlook, ?_, by cbv⟩
  rw [(classify_eq_classifyUnbounded.1 _ "" _ 5 (Nat.le_of_eq hlook)).2 _ hfind]
  cbv

end Dialect

end SqlTriage

import Mathlib
import SqlTriage.Proofs.Classify.KeywordTable
import SqlTriage.Proofs.Lexical.Terminator
import SqlTriage.Proofs.Rule.Terminator

/-!
# The first of several statements

A semicolon behind a text that ends at top level is a token of its own (`tokens_semicolon`), and
no dialect has a rule that looks past it (`terminatedBy_semicolon`).  Of several statements in a
text the first one is classified therefore, where it is a statement at all
(`classify_first_statement`).
-/

namespace SqlTriage

open SqlTriage.Text SqlTriage.Lexical

namespace Dialect

theorem terminatedBy_semicolon (d : Dialect) : d.table.TerminatedBy ";" where
  not_mem := by cases d <;> decide
  clause := by decide
  opened := d.steps_eq_cons
  leavesTo := by cases d <;> decide

theorem tokens_semicolon {d : Dialect} {s₁ : String}
    (h : EndsAtTopLevel d.lexicalRules s₁.toList) (s₂ : String) :
    ∃ o us, d.tokens (s₁ ++ ";" ++ s₂) = d.tokens s₁ ++ ⟨";", o⟩ :: us := by
  have htext : (s₁ ++ ";" ++ s₂).toList = s₁.toList ++ ';' :: s₂.toList := by simp
  unfold tokens LexicalRules.tokens
  rw [toList_stripped, toList_stripped, htext]
  exact exists_tokens_semicolon h s₂.toList

/-- **The first statement decides.** If a text ends at top level and is classified, it is
classified the same, with the same names at the same places, whatever follows behind a
semicolon. -/
theorem classify_first_statement (d : Dialect) {s₁ : String}
    (h : EndsAtTopLevel d.lexicalRules s₁.toList) {st : Statement}
    (hst : d.classify s₁ = .ok st) (s₂ : String) : d.classify (s₁ ++ ";" ++ s₂) = .ok st := by
  rw [classify_eq_ok_iff] at hst ⊢
  obtain ⟨v, hv, hst⟩ := Option.bind_eq_some_iff.1 hst
  obtain ⟨o, us, htokens⟩ := tokens_semicolon h s₂
  have hfolded : Token.folded ⟨";", o⟩ = ";" := by
    rw [Token.folded]
    cbv
  have hend : d.table.TerminatedBy (Token.folded ⟨";", o⟩) := by
    rw [hfolded]
    exact d.terminatedBy_semicolon
  rw [htokens, RuleTable.verdict?_append_terminator hend hv]
  exact hst

/-- The name behind the semicolon is not the database whose status is shown, and the quote before
it, which nothing closes, does no harm. -/
theorem classify_first_statement_show :
    mySql.classify ("SHOW TABLE STATUS /* ; */" ++ ";" ++ " FROM 'db") =
      .ok (.showTableStatus none) := by
  have htop : EndsAtTopLevel mySql.lexicalRules "SHOW TABLE STATUS /* ; */".toList := by
    have hscan : scan mySql.lexicalRules "SHOW TABLE STATUS /* ; */".toList =
        "SHOW TABLE STATUS ".toList.map .plain ++ [.comment "/* ; */".toList true] := by cbv
    intro g hg
    rw [hscan, List.mem_append, List.mem_map, List.mem_singleton] at hg
    rcases hg with ⟨c, -, rfl⟩ | rfl <;> rfl
  exact classify_first_statement mySql htop (by cbv) " FROM 'db"

end Dialect

end SqlTriage

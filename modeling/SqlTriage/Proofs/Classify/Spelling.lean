import Mathlib
import SqlTriage.Proofs.Classify.Gap
import SqlTriage.Proofs.Lexical.Spelling

/-!
# Statements in their canonical spelling

The tokens of a statement, written with one space between neighbours, are a stripped text with the
same tokens, so that the statement can be classified by that text as well (`classify_canonical`).
-/

namespace SqlTriage

open SqlTriage.Lexical

namespace Dialect

/-- **A statement is its tokens.** The canonical text of any statement is a stripped text, it is
cut into the tokens from which it was written, and it is classified like the statement, up to the
place of the table reference. -/
theorem classify_canonical (d : Dialect) (sql : String) :
    d.lexicalRules.stripped (d.lexicalRules.canonical sql) = d.lexicalRules.canonical sql ∧
      (d.lexicalRules.tokens (d.lexicalRules.canonical sql)).map Token.text =
        (d.tokens sql).map Token.text ∧
      (d.classify (d.lexicalRules.canonical sql)).toOption.map Statement.unlocated =
        (d.classify sql).toOption.map Statement.unlocated := by
  have hstripped := stripped_canonical d.lexicalRules sql
  have htokens := map_text_tokens_canonical d.lexicalRules sql
  refine ⟨hstripped, htokens, classify_unlocated_of_texts ?_⟩
  rw [tokens, hstripped]
  exact htokens

/-- Dashes keep apart that would open a comment, and the last quote stays open. -/
theorem classify_canonical_dashes :
    let sql := "select-/* - */-a.`b  c` ,'it\\'s  "
    let spelled := "select - - a.`b  c` , 'it\\'s"
    mySql.lexicalRules.canonical sql = spelled ∧
      mySql.lexicalRules.stripped spelled = spelled ∧
      (mySql.lexicalRules.tokens spelled).map Token.text =
        ["select", "-", "-", "a.`b  c`", ",", "'it\\'s"] ∧
      (mySql.classify spelled).toOption.map Statement.unlocated = some .query := by
  intro sql spelled
  obtain ⟨hstripped, htokens, hclassify⟩ := classify_canonical mySql sql
  have hspelled : mySql.lexicalRules.canonical sql = spelled := by cbv
  have htexts : (mySql.tokens sql).map Token.text =
      ["select", "-", "-", "a.`b  c`", ",", "'it\\'s"] := by cbv
  have hquery : mySql.classify sql = .ok .query := by cbv
  rw [hspelled] at hstripped htokens hclassify
  rw [htexts] at htokens
  rw [hquery] at hclassify
  exact ⟨hspelled, hstripped, htokens, hclassify⟩

end Dialect

end SqlTriage

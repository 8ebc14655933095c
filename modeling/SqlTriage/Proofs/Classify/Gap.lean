import Mathlib
import SqlTriage.Proofs.Lexical.Gap
import SqlTriage.Proofs.Rule.Alike

/-!
# Statements with gaps

A classification reads the texts of the tokens only, up to the place of a table reference
(`classify_unlocated_of_texts`).  Blanks and closed comments at the front of a statement or behind
a blank of it therefore change nothing else (`classify_gap`).
-/

namespace SqlTriage

open SqlTriage.Text SqlTriage.Lexical

/-- The statement without the place of its table reference. -/
def Statement.unlocated : Statement → Statement
  | .showCreateTable r => .showCreateTable { r with start := 0 }
  | s => s

/-- Verdicts whose captured tokens have the same text give the same statement, up to its place. -/
theorem Verdict.Rel.unlocated {v w : Verdict} (h : v.Rel (fun t u => t.text = u.text) w) :
    v.statement?.map Statement.unlocated = w.statement?.map Statement.unlocated := by
  obtain ⟨family, modifiers, target⟩ := v
  obtain ⟨family', modifiers', target'⟩ := w
  obtain ⟨rfl, rfl, htarget⟩ := h
  cases htarget with
  | none => rfl
  | some htext =>
    cases family <;>
      simp [Verdict.statement?, Statement.unlocated, htext]

namespace Dialect

/-- Texts with the same token texts are classified alike, up to the place of a reference. -/
theorem classify_unlocated_of_texts {d : Dialect} {s t : String}
    (h : (d.tokens s).map Token.text = (d.tokens t).map Token.text) :
    (d.classify s).toOption.map Statement.unlocated =
      (d.classify t).toOption.map Statement.unlocated := by
  have hrel : List.Forall₂ (fun t u : Token => t.text = u.text) (d.tokens s) (d.tokens t) := by
    rwa [← List.forall₂_eq_eq_eq, List.forall₂_map_left_iff, List.forall₂_map_right_iff] at h
  have hverdict := RuleTable.verdict?_rel d.quoteFree_table
    (fun _ _ => Token.alike_of_text_eq) hrel
  rw [toOption_classify, toOption_classify]
  generalize d.table.verdict? (d.tokens s) = v at hverdict ⊢
  generalize d.table.verdict? (d.tokens t) = w at hverdict ⊢
  cases hverdict with
  | none => rfl
  | some hvw => exact hvw.unlocated

/-- **Gaps do not matter**: a sequence of blanks and closed comments put in front of a statement
changes nothing, and behind a blank outside comments and quoted runs it changes at most the place
of the table reference. -/
theorem classify_gap (d : Dialect) {g : List Char} (hg : Gap d.lexicalRules g) :
    (∀ s, (d.classify (String.ofList (g ++ s))).toOption =
      (d.classify (String.ofList s)).toOption) ∧
    ∀ a w b, isBlank w = true → TopLevel d.lexicalRules a (w :: b) →
      (d.classify (String.ofList (a ++ w :: (g ++ b)))).toOption.map Statement.unlocated =
        (d.classify (String.ofList (a ++ w :: b))).toOption.map Statement.unlocated := by
  constructor
  · intro s
    have htokens : d.tokens (String.ofList (g ++ s)) = d.tokens (String.ofList s) := by
      unfold tokens LexicalRules.stripped
      rw [String.toList_ofList, String.toList_ofList, strip_gap_append hg]
    rw [toOption_classify, toOption_classify, htokens]
  · intro a w b hw h
    refine classify_unlocated_of_texts ?_
    unfold tokens LexicalRules.tokens
    rw [toList_stripped, toList_stripped, String.toList_ofList, String.toList_ofList]
    exact map_text_tokens_insert hw hg h

/-- A hint that holds a quote and a line comment that holds a statement, behind `USE`. -/
theorem classify_gap_use :
    (mySql.classify (String.ofList ("USE".toList ++ ' ' ::
        ("/*+'*/ # USE `x`\n".toList ++ "db".toList)))).toOption.map Statement.unlocated =
      some (.useSchema "db") := by
  have hblock : ClosedComment mySql.lexicalRules (['/', '*'] ++ (['+', '\''] ++ ['*', '/'])) :=
    .block ['+', '\''] (by decide)
  have hline : ClosedComment mySql.lexicalRules (['#'] ++ (" USE `x`".toList ++ ['\n'])) :=
    .line ['#'] " USE `x`".toList '\n' (by decide) (by simp [isLineEnd]) rfl
  have hg : Gap mySql.lexicalRules "/*+'*/ # USE `x`\n".toList := by
    have h : Gap mySql.lexicalRules _ :=
      .comment hblock (.blank (c := ' ') rfl (.comment hline .nil))
    simpa using h
  have htop : TopLevel mySql.lexicalRules "USE".toList (' ' :: "db".toList) :=
    ⟨"USE".toList.map .plain, " db".toList.map .plain, by cbv, by cbv⟩
  rw [(classify_gap mySql hg).2 _ _ _ rfl htop]
  cbv

end Dialect

end SqlTriage

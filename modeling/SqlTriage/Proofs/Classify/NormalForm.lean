import Mathlib
import SqlTriage.Proofs.Classify.Verdict
import SqlTriage.Proofs.Lexical.NormalForm

/-!
# Classification of stripped texts

Stripping puts a text into normal form, which a second stripping and blanks around the text do not
change.  A text is therefore classified as its stripped form is, with the same names at the same
places (`stripped_normalForm`).
-/

namespace SqlTriage

open SqlTriage.Text SqlTriage.Lexical

variable (rules : LexicalRules)

theorem isNormal_stripped (text : String) : IsNormal rules (rules.stripped text).toList := by
  rw [toList_stripped]
  exact isNormal_strip text.toList

theorem stripped_of_isNormal {text : String} (h : IsNormal rules text.toList) :
    rules.stripped text = text := by
  rw [← String.toList_inj, toList_stripped, strip_eq_self_iff_isNormal]
  exact h

theorem stripped_stripped (text : String) :
    rules.stripped (rules.stripped text) = rules.stripped text :=
  stripped_of_isNormal rules (isNormal_stripped rules text)

theorem stripped_append_blanks {front back : String}
    (hf : ∀ c ∈ front.toList, isBlank c = true) (hb : ∀ c ∈ back.toList, isBlank c = true)
    (text : String) : rules.stripped (front ++ text ++ back) = rules.stripped text := by
  rw [← String.toList_inj, toList_stripped, toList_stripped, String.toList_append,
    String.toList_append, strip_append_right hb, strip_append_left hf]

theorem Dialect.toOption_classify_stripped (d : Dialect) (sql : String) :
    (d.classify (d.lexicalRules.stripped sql)).toOption = (d.classify sql).toOption := by
  have htokens : d.tokens (d.lexicalRules.stripped sql) = d.tokens sql := by
    unfold tokens
    rw [stripped_stripped]
  rw [toOption_classify, toOption_classify, htokens]

/-- **Stripping gives the normal form of a text.** The stripped text is normal: it has no blank at
its ends and no comment opener outside its quoted runs.  Normal texts, and so stripped texts, are
left as they are; blanks around a text do not change its stripped form, whatever the text leaves
open; and a statement is classified as its stripped form is. -/
theorem stripped_normalForm (text : String) :
    IsNormal rules (rules.stripped text).toList ∧
      (IsNormal rules text.toList → rules.stripped text = text) ∧
      rules.stripped (rules.stripped text) = rules.stripped text ∧
      (∀ front back : String, (∀ c ∈ front.toList, isBlank c = true) →
        (∀ c ∈ back.toList, isBlank c = true) →
          rules.stripped (front ++ text ++ back) = rules.stripped text) ∧
      ∀ d : Dialect,
        (d.classify (d.lexicalRules.stripped text)).toOption = (d.classify text).toOption := by
  refine ⟨isNormal_stripped rules text, stripped_of_isNormal rules, stripped_stripped rules text,
    fun front back hf hb => stripped_append_blanks rules hf hb text,
    fun d => d.toOption_classify_stripped text⟩

/-- Blanks behind a backslash in an open quoted run, which escapes one of them, and behind a
comment that nothing closes. -/
theorem stripped_normalForm_open :
    let rules := Dialect.mySql.lexicalRules
    rules.stripped ("\n" ++ "use 'a\\" ++ " \t") = "use 'a\\" ∧
      rules.stripped ("" ++ "use a /* b" ++ " \t") = "use a" := by
  intro rules
  have hblank : ∀ c ∈ " \t".toList, isBlank c = true := by
    intro c hc
    rcases List.mem_pair.1 hc with rfl | rfl <;> decide
  have hline : ∀ c ∈ "\n".toList, isBlank c = true := by
    intro c hc
    obtain rfl : c = '\n' := List.mem_singleton.1 hc
    decide
  have hempty : ∀ c ∈ "".toList, isBlank c = true := by simp
  constructor
  · rw [(stripped_normalForm rules "use 'a\\").2.2.2.1 "\n" " \t" hline hblank]
    cbv
  · rw [(stripped_normalForm rules "use a /* b").2.2.2.1 "" " \t" hempty hblank]
    cbv

end SqlTriage

import Mathlib
import SqlTriage.Proofs.Lexical.QuotedRun
import SqlTriage.Proofs.Rule.Alike

/-!
# Data between quotes

What stands between quotes does not decide what a statement is (`classify_quoted`): where the body
of a quoted run is replaced, the statement stays the same up to the token that it captures, and
that token changes only if it holds the run, and then only by the replacement.  No rule can tell
the tokens around the two runs apart, because both hold a quote and begin alike
(`Token.Replaced.alike`).
-/

namespace SqlTriage

open SqlTriage.Text SqlTriage.Lexical

/-! ## Tokens around a quoted run -/

theorem Lexical.Token.quote_mem_folded {q : Char} (hq : isQuote q = true) {t : Token}
    (h : q ∈ t.text.toList) : q ∈ t.folded.toList := by
  have hupper : q.toUpper = q := by
    simp only [isQuote, Bool.or_eq_true, beq_iff_eq] at hq
    rcases hq with (rfl | rfl) | rfl <;> decide
  unfold folded String.toUpper
  rw [String.toList_map, List.mem_map]
  exact ⟨q, h, hupper⟩

/-- Two tokens that hold a quote and begin alike are the same to all rules. -/
theorem Lexical.Token.alike_of_quote {q : Char} (hq : isQuote q = true) {t u : Token}
    (ht : q ∈ t.text.toList) (hu : q ∈ u.text.toList)
    (hhead : t.text.toList.head? = u.text.toList.head?) : t.Alike u := by
  refine ⟨fun w hw => ?_, ?_⟩
  · have hne : ∀ v : Token, q ∈ v.text.toList → v.folded ≠ w := by
      rintro v hv rfl
      rw [List.any_eq_true.2 ⟨q, quote_mem_folded hq hv, hq⟩] at hw
      cases hw
    exact ⟨fun h => absurd h (hne t ht), fun h => absurd h (hne u hu)⟩
  · rw [isIdentifier, isIdentifier, hhead]

theorem Lexical.Token.Replaced.alike {q : Char} (hq : isQuote q = true)
    {front body body₂ : List Char} {t u : Token}
    (h : Token.Replaced front (inQuotes q body) (inQuotes q body₂) t u) :
    t.Alike u := by
  cases h with
  | before => exact alike_of_text_eq rfl
  | around l r o ho =>
    apply alike_of_quote hq
    · simp [inQuotes]
    · simp [inQuotes]
    · simp [inQuotes]
  | behind => exact alike_of_text_eq rfl

/-! ## Statements and their captured tokens -/

/-- The statement with its names taken from another captured token. -/
def Statement.recapture : Statement → Option Token → Statement
  | .useSchema _, some t => .useSchema t.text
  | .describe _, some t => .describe t.text
  | .showTableStatus _, target => .showTableStatus (target.map Token.text)
  | .showColumns _, some t => .showColumns t.text
  | .showIndex _, some t => .showIndex t.text
  | .showCreateTable _, some t => .showCreateTable (.ofName t.offset t.text)
  | statement, _ => statement

/-- Verdicts with related captured tokens give statements that differ in the captured names. -/
theorem Verdict.Rel.recapture {R : Token → Token → Prop} {v w : Verdict} (h : v.Rel R w) :
    w.statement? = v.statement?.map fun s => s.recapture w.target := by
  obtain ⟨family, modifiers, target⟩ := v
  obtain ⟨family', modifiers', target'⟩ := w
  obtain ⟨rfl, rfl, htarget⟩ := h
  cases htarget <;> cases family <;> rfl

/-- A statement has its names from the token that it captured. -/
theorem Verdict.recapture_self (v : Verdict) :
    v.statement?.map (fun s => s.recapture v.target) = v.statement? := by
  obtain ⟨family, modifiers, target⟩ := v
  cases target <;> cases family <;> rfl

/-! ## Classification -/

namespace Dialect

/-- A classified statement has its names from the token that the examination captured. -/
theorem recapture_classify (d : Dialect) (sql : String) :
    (d.classify sql).toOption.map (fun s => s.recapture (d.examine sql).captured) =
      (d.classify sql).toOption := by
  rw [toOption_classify, captured_examine]
  cases d.table.verdict? (d.tokens sql) with
  | none => rfl
  | some v => exact v.recapture_self

/-- Texts with tokens that are alike are classified alike, up to the captured token. -/
theorem classify_recapture {d : Dialect} {s t : String} {R : Token → Token → Prop}
    (hR : ∀ t u, R t u → t.Alike u) (h : List.Forall₂ R (d.tokens s) (d.tokens t)) :
    Option.Rel R (d.examine s).captured (d.examine t).captured ∧
      (d.classify t).toOption =
        (d.classify s).toOption.map fun st => st.recapture (d.examine t).captured := by
  have hverdict := RuleTable.verdict?_rel d.quoteFree_table hR h
  rw [toOption_classify, toOption_classify, captured_examine, captured_examine]
  generalize d.table.verdict? (d.tokens s) = v at hverdict ⊢
  generalize d.table.verdict? (d.tokens t) = w at hverdict ⊢
  cases hverdict with
  | none => exact ⟨.none, rfl⟩
  | some hvw => exact ⟨hvw.target, hvw.recapture⟩

/-- **Data between quotes does not decide what a statement is.** Let a quoted run with the given
body stand at top level between `a` and `b`, and let another body take its place. Then the two
stripped texts differ in the run only, the captured tokens correspond, and the two statements are
the same up to the names that they have from their captured tokens. -/
theorem classify_quoted (d : Dialect) {a b body body₂ : List Char} {q : Char}
    (hq : isQuote q = true) (hbody : IsBody q body) (hbody₂ : IsBody q body₂)
    (hb : b.head? ≠ some q) (h : TopLevel d.lexicalRules a (inQuotes q body ++ b)) :
    let sql := String.ofList (a ++ (inQuotes q body ++ b))
    let sql₂ := String.ofList (a ++ (inQuotes q body₂ ++ b))
    let front := (spaceComments d.lexicalRules a).dropWhile isBlank
    let back := (spaceComments d.lexicalRules b).rdropWhile isBlank
    (d.lexicalRules.stripped sql).toList = front ++ (inQuotes q body ++ back) ∧
    (d.lexicalRules.stripped sql₂).toList = front ++ (inQuotes q body₂ ++ back) ∧
    Option.Rel (Token.Replaced front (inQuotes q body) (inQuotes q body₂))
      (d.examine sql).captured (d.examine sql₂).captured ∧
    (d.classify sql).toOption =
      (d.classify sql).toOption.map (fun s => s.recapture (d.examine sql).captured) ∧
    (d.classify sql₂).toOption =
      (d.classify sql).toOption.map fun s => s.recapture (d.examine sql₂).captured := by
  intro sql sql₂ front back
  have hstrip : ∀ body, IsBody q body →
      (d.lexicalRules.stripped (String.ofList (a ++ (inQuotes q body ++ b)))).toList =
        front ++ (inQuotes q body ++ back) := by
    intro body hbody
    rw [toList_stripped, String.toList_ofList]
    exact strip_inQuotes hq h hbody hb
  obtain ⟨fs, hfs, hscan⟩ := exists_scan_stripped hq h hb
  have htokens : ∀ body, IsBody q body →
      d.tokens (String.ofList (a ++ (inQuotes q body ++ b))) =
        tokensOf 0 (fs ++ .quoted (inQuotes q body) true :: scan d.lexicalRules back) := by
    intro body hbody
    have hcom : IsUncommented d.lexicalRules (front ++ (inQuotes q body ++ back)) := by
      rw [← strip_inQuotes hq h hbody hb]
      exact isUncommented_strip _
    unfold tokens LexicalRules.tokens
    rw [hstrip body hbody, tokensFrom_eq hcom, hscan body hbody]
  have hrel : List.Forall₂ (Token.Replaced front (inQuotes q body) (inQuotes q body₂))
      (d.tokens sql) (d.tokens sql₂) := by
    rw [htokens body hbody, htokens body₂ hbody₂, show front = textOf fs from hfs.symm]
    exact forall₂_replaced _ _ _ _ _
  obtain ⟨hcaptured, hclassify⟩ := classify_recapture (fun _ _ ht => ht.alike hq) hrel
  exact ⟨hstrip body hbody, hstrip body₂ hbody₂, hcaptured, (recapture_classify d sql).symm,
    hclassify⟩

/-- A quoted schema name gives way to the opening of a comment. -/
theorem classify_quoted_use :
    (mySql.classify (String.ofList
        ("USE ".toList ++ (inQuotes '\x60' "/* x".toList ++ [])))).toOption =
      some (.useSchema "`/* x`") := by
  have hbody : IsBody '\x60' "db".toList := ⟨by decide, by decide⟩
  have hbody₂ : IsBody '\x60' "/* x".toList := ⟨by decide, by decide⟩
  have htop : TopLevel mySql.lexicalRules "USE ".toList (inQuotes '\x60' "db".toList ++ []) :=
    ⟨"USE ".toList.map .plain, [.quoted (inQuotes '\x60' "db".toList) true], by cbv, by cbv⟩
  have h := classify_quoted mySql (by decide) hbody hbody₂ (by decide) htop
  rw [h.2.2.2.2]
  cbv

end Dialect

end SqlTriage

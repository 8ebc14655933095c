import Mathlib
import SqlTriage.Proofs.Classify.KeywordTable
import SqlTriage.Proofs.Lexical.Portable
import SqlTriage.Proofs.Script.Stripping

/-!
# Where dialects agree

Dialects read a portable text alike: they strip it, cut it into tokens and split it into statements
in the same way.  They also agree on the statements that the shared rules cover, since no layer of
a dialect captures one of their openers but `SET`, and `SET` only in front of words of its own
(`classify_portable`).
-/

namespace SqlTriage

open SqlTriage.Text SqlTriage.Lexical

/-! ## Scripts -/

namespace Script

variable (rules rules' : LexicalRules)

theorem cut_agree (delimiter : List Char) {s : List Char} (h : IsPortable s) :
    cut rules delimiter s = cut rules' delimiter s := by
  by_cases hd : delimiter = []
  · rw [hd, cut_empty, cut_empty]
  have hnot {t : List Char} (hp : ¬ (delimiter ≠ [] ∧ delimiter.isPrefixOf t = true)) :
      ¬ delimiter <+: t := fun ht => hp ⟨hd, List.isPrefixOf_iff_prefix.2 ht⟩
  fun_induction cut rules delimiter s with
  | case1 => rw [cut]
  | case2 c t hp more ih =>
    obtain ⟨u, hu⟩ := List.isPrefixOf_iff_prefix.1 hp.2
    have hdrop : (c :: t).drop delimiter.length = u := by rw [← hu, List.drop_left]
    simp only [more]
    rw [hdrop] at ih ⊢
    rw [← hu] at h ⊢
    rw [cut_delimiter hd, ih h.of_append_right]
  | case3 c t hp l hc more ih =>
    have hc' := hc
    rw [comment?_agree rules rules' h] at hc'
    simp only [cut_comment (hnot hp) hc', more, ih (h.of_comment? hc)]
  | case4 c t hp hc l hq more ih =>
    have hq' := hq
    rw [quotedRun?_agree rules rules' h] at hq'
    simp only [cut_quoted (hnot hp) hq', more, ih (h.of_quotedRun? hq)]
  | case5 c t hp hc hq more ih =>
    have hc := comment?_eq_none_iff.1 hc
    rw [opensComment_agree rules rules' h] at hc
    simp only [cut_plain (hnot hp) hc (quotedRun?_eq_none_iff.1 hq), more, ih h.of_cons]

theorem subset_of_mem_pieces {delimiter s p : List Char} (h : p ∈ pieces rules delimiter s) :
    p ⊆ s := by
  intro c hc
  rw [← cut_append rules delimiter s]
  rcases List.mem_cons.1 h with rfl | hp
  · exact List.mem_append_left _ hc
  · exact List.mem_append_right _ (List.mem_flatMap.2 ⟨p, hp, List.mem_append_right _ hc⟩)

theorem statements_agree (delimiter : String) {script : String} (h : IsPortable script.toList) :
    statements rules delimiter script = statements rules' delimiter script := by
  have hpieces : pieces rules delimiter.toList script.toList =
      pieces rules' delimiter.toList script.toList := by
    rw [pieces, pieces, cut_agree rules rules' _ h]
  have hholds : ∀ p ∈ (pieces rules' delimiter.toList script.toList).map (trim isSpace),
      holdsStatement rules p = holdsStatement rules' p := by
    intro p hp
    obtain ⟨piece, hpiece, rfl⟩ := List.mem_map.1 hp
    have hportable := (h.subset (subset_of_mem_pieces rules' hpiece)).subset (trim_subset isSpace _)
    rw [holdsStatement, holdsStatement, strip_agree rules rules' hportable]
  rw [statements, statements, hpieces, List.filter_congr hholds]

end Script

/-! ## Statements -/

namespace Dialect

variable {sql : String}

theorem tokens_agree (h : IsPortable sql.toList) (d d' : Dialect) :
    d.tokens sql = d'.tokens sql := by
  unfold tokens LexicalRules.tokens
  rw [toList_stripped, toList_stripped, strip_agree d'.lexicalRules d.lexicalRules h]
  exact tokensFrom_agree _ _ (isPortable_strip _ h) 0

/-- The classification is settled by the keyword table. -/
theorem classify_eq_of_keywordStatement? {d : Dialect} {result : Option Statement}
    (h : d.keywordStatement? (d.tokens sql) = result) :
    d.classify sql = result.elim (.error ⟨sql⟩) .ok := by
  rw [← h, ← verdict?_eq_keywordStatement?, ← statement_examine, classify]
  cases (d.examine sql).statement <;> rfl

theorem keywordStatement?_cons {d : Dialect} {t : Token} (h : t.folded ∈ d.openers)
    (ts : List Token) : d.keywordStatement? (t :: ts) = d.openedStatement? t.folded ts := by
  rw [keywordStatement?, List.dropWhile_cons_of_neg (by simp [h])]

theorem mem_openers_of_shared {opener : String} (h : opener ∈ sharedOpeners) (d : Dialect) :
    opener ∈ d.openers := by
  cases d with
  | mySql => exact List.mem_append_left _ h
  | postgreSql => exact List.mem_append_left _ h
  | sql92 => exact h

/-- The words that open a statement in every dialect, but for `SET`. -/
def commonOpeners : List String :=
  ["SELECT", "CALL", "INSERT", "UPDATE", "DELETE", "COMMIT", "ROLLBACK", "SAVEPOINT", "BEGIN"] ++
    RuleTable.foreignOpeners

/-- Only what stands behind `SET` and `SHOW` is read differently. -/
theorem openedStatement?_agree {opener : String} (hset : opener ≠ "SET") (hshow : opener ≠ "SHOW")
    (d d' : Dialect) (ts : List Token) :
    d.openedStatement? opener ts = d'.openedStatement? opener ts := by
  simp only [openedStatement?, if_neg hset, if_neg hshow]

theorem keywordStatement?_agree {t : Token} (h : t.folded ∈ commonOpeners) (d d' : Dialect)
    (ts : List Token) : d.keywordStatement? (t :: ts) = d'.keywordStatement? (t :: ts) := by
  have hcommon : ∀ w ∈ commonOpeners, w ∈ sharedOpeners ∧ w ≠ "SET" ∧ w ≠ "SHOW" := by decide
  obtain ⟨hshared, hset, hshow⟩ := hcommon _ h
  rw [keywordStatement?_cons (mem_openers_of_shared hshared d),
    keywordStatement?_cons (mem_openers_of_shared hshared d'), openedStatement?_agree hset hshow]

theorem keywordStatement?_set {t : Token} (h : t.folded = "SET") (d : Dialect) (u : Token)
    (us : List Token) :
    d.keywordStatement? (t :: u :: us) =
      if d.setsTransaction (u :: us) then some .transactionControl else some .sessionSet := by
  have hopener : t.folded ∈ d.openers := mem_openers_of_shared (by rw [h]; decide) d
  rw [keywordStatement?_cons hopener, h]
  rfl

theorem setsTransaction_of_shared {u : Token} (h : u.folded ∈ ["TRANSACTION", "AUTOCOMMIT"])
    (d : Dialect) (us : List Token) : d.setsTransaction (u :: us) = true := by
  have hu : wordAt (u :: us) 0 ["TRANSACTION", "AUTOCOMMIT"] = true := List.contains_iff_mem.2 h
  cases d with
  | mySql => exact Bool.or_eq_true_iff.2 (Or.inl (wordAt_mono hu (by decide)))
  | postgreSql => exact Bool.or_eq_true_iff.2 (Or.inl hu)
  | sql92 => exact hu

theorem not_setsTransaction_sql92 {u : Token} (h : u.folded ∉ ["TRANSACTION", "AUTOCOMMIT"])
    (us : List Token) : sql92.setsTransaction (u :: us) = false := by
  rw [← Bool.not_eq_true]
  exact fun hu => h (List.contains_iff_mem.1 hu)

/-- **Dialects agree on the shared statements.** A text with neither a number sign nor a backslash
is stripped, cut into tokens and split in the same way in all dialects.  If its first token is an
opener that they share, or `SET` in front of `TRANSACTION` or `AUTOCOMMIT`, they classify it alike.
`SET` in front of another token sets the session in SQL-92, and in the others it does so or
controls transactions. -/
theorem classify_portable (h : IsPortable sql.toList) (d d' : Dialect) :
    d.lexicalRules.stripped sql = d'.lexicalRules.stripped sql ∧
      d.lexicalRules.tokens sql = d'.lexicalRules.tokens sql ∧
      d.tokens sql = d'.tokens sql ∧
      (∀ delimiter, Script.statements d.lexicalRules delimiter sql =
        Script.statements d'.lexicalRules delimiter sql) ∧
      (∀ t ts, d.tokens sql = t :: ts → t.folded ∈ commonOpeners →
        d.classify sql = d'.classify sql) ∧
      ∀ t u us, d.tokens sql = t :: u :: us → t.folded = "SET" →
        (u.folded ∈ ["TRANSACTION", "AUTOCOMMIT"] → d.classify sql = d'.classify sql) ∧
        (u.folded ∉ ["TRANSACTION", "AUTOCOMMIT"] → sql92.classify sql = .ok .sessionSet ∧
          (d.classify sql = .ok .sessionSet ∨ d.classify sql = .ok .transactionControl)) := by
  have htokens := tokens_agree h
  refine ⟨?_, tokensFrom_agree _ _ h 0, htokens d d',
    fun delimiter => Script.statements_agree _ _ delimiter h, ?_, ?_⟩
  · rw [LexicalRules.stripped, LexicalRules.stripped, strip_agree _ d'.lexicalRules h]
  · intro t ts ht hopener
    have hagree := keywordStatement?_agree hopener d d' ts
    rw [← ht] at hagree
    rw [classify_eq_of_keywordStatement? hagree, htokens d d',
      ← classify_eq_of_keywordStatement? rfl]
  · intro t u us ht hset
    have hclassify (e : Dialect) : e.classify sql =
        .ok (if e.setsTransaction (u :: us) then .transactionControl else .sessionSet) := by
      have hword := keywordStatement?_set hset e u us
      rw [← ht, htokens d e] at hword
      rw [classify_eq_of_keywordStatement? hword]
      split <;> rfl
    refine ⟨fun hu => ?_, fun hu => ⟨?_, ?_⟩⟩
    · rw [hclassify, hclassify, setsTransaction_of_shared hu, setsTransaction_of_shared hu]
    · rw [hclassify, not_setsTransaction_sql92 hu, if_neg Bool.false_ne_true]
    · rw [hclassify]
      by_cases hd : d.setsTransaction (u :: us) = true
      · rw [if_pos hd]
        exact Or.inr rfl
      · rw [if_neg hd]
        exact Or.inl rfl

/-- What MySQL makes of an insert and of a `SET`, by what SQL-92 makes of them. -/
theorem classify_portable_insert :
    IsPortable "insert /* ' */ Ignore t".toList ∧ IsPortable "Set autocommit = 1".toList ∧
      mySql.classify "insert /* ' */ Ignore t" = .ok (.mutation (.insert ⟨false, true⟩)) ∧
      mySql.classify "Set autocommit = 1" = .ok .transactionControl := by
  have hinsert : IsPortable "insert /* ' */ Ignore t".toList := ⟨by decide, by decide⟩
  have hset : IsPortable "Set autocommit = 1".toList := ⟨by decide, by decide⟩
  have hopener : Token.folded ⟨"insert", 0⟩ = "INSERT" := by cbv
  have hword : Token.folded ⟨"autocommit", 4⟩ = "AUTOCOMMIT" := by cbv
  obtain ⟨-, -, -, -, hcommon, -⟩ := classify_portable hinsert mySql sql92
  obtain ⟨-, -, -, -, -, hsets⟩ := classify_portable hset mySql sql92
  have hmySql := hcommon ⟨"insert", 0⟩ [⟨"Ignore", 9⟩, ⟨"t", 16⟩] (by cbv)
    (by rw [hopener]; decide)
  have hmySql' := (hsets ⟨"Set", 0⟩ ⟨"autocommit", 4⟩ [⟨"=", 15⟩, ⟨"1", 17⟩] (by cbv) (by cbv)).1
    (by rw [hword]; decide)
  refine ⟨hinsert, hset, ?_, ?_⟩
  · rw [hmySql]
    cbv
  · rw [hmySql']
    cbv

end Dialect

end SqlTriage

import Mathlib
import SqlTriage.Proofs.Lexical.Separated
import SqlTriage.Proofs.Rule.Alike

/-!
# Noise in front of a statement

Tokens that open no statement are skipped (`RuleTable.verdict?_noise_append`), and a verdict moves
with its tokens (`RuleTable.verdict?_shift`).  Since the tokens of two texts with a blank between
them are those of the one and those of the other, moved, a text of such tokens in front of a
statement changes nothing but the place of its table reference (`classify_noise`).
-/

namespace SqlTriage

open SqlTriage.Text SqlTriage.Lexical

/-- The statement with its table reference further on in the text. -/
def Statement.shift (k : Nat) : Statement → Statement
  | .showCreateTable r => .showCreateTable { r with start := r.start + k }
  | s => s

namespace Verdict

/-- The verdict with its captured token further on in the text. -/
def shift (k : Nat) (v : Verdict) : Verdict :=
  { v with target := v.target.map (Token.shift k) }

theorem statement?_shift (k : Nat) (v : Verdict) :
    (v.shift k).statement? = v.statement?.map (Statement.shift k) := by
  obtain ⟨family, modifiers, target⟩ := v
  cases target <;> cases family <;> rfl

theorem Rel.eq_shift {k : Nat} {v w : Verdict} (h : v.Rel (fun t u => u = t.shift k) w) :
    w = v.shift k := by
  obtain ⟨family, modifiers, target⟩ := v
  obtain ⟨family', modifiers', target'⟩ := w
  obtain ⟨rfl, rfl, htarget⟩ := h
  cases htarget with
  | none => rfl
  | some ht =>
    subst ht
    rfl

end Verdict

namespace RuleTable

variable {table : RuleTable}

/-- Tokens that open no statement are skipped. -/
theorem verdict?_noise_append {noise : List Token} (h : ∀ t ∈ noise, table.opens t = false)
    (ts : List Token) : table.verdict? (noise ++ ts) = table.verdict? ts := by
  have hskip : table.fromOpener (noise ++ ts) = table.fromOpener ts := by
    apply List.dropWhile_append_of_pos
    intro t ht
    rw [h t ht, Bool.not_false]
  rw [verdict?, hskip, verdict?]

/-- A table does not look at the places of tokens. -/
theorem verdict?_shift (htable : table.QuoteFree) (k : Nat) (ts : List Token) :
    table.verdict? (ts.map (Token.shift k)) = (table.verdict? ts).map (Verdict.shift k) := by
  have hrel : List.Forall₂ (fun t u : Token => u = t.shift k) ts (ts.map (Token.shift k)) := by
    rw [List.forall₂_map_right_iff]
    exact List.forall₂_same.2 fun t _ => rfl
  have halike : ∀ t u : Token, u = t.shift k → t.Alike u := by
    rintro t u rfl
    exact Token.alike_of_text_eq rfl
  have hverdict := verdict?_rel htable halike hrel
  generalize table.verdict? ts = v at hverdict ⊢
  generalize table.verdict? (ts.map (Token.shift k)) = w at hverdict ⊢
  cases hverdict with
  | none => rfl
  | some hvw => rw [hvw.eq_shift, Option.map_some]

end RuleTable

namespace Dialect

/-- The tokens of a text, a space and another text: the first text ends at top level. -/
theorem tokens_append_space {d : Dialect} {n : String}
    (hn : EndsAtTopLevel d.lexicalRules n.toList) (sql : String) :
    ∃ k, (d.lexicalRules.stripped (n ++ " " ++ sql)).utf8ByteSize =
        (d.lexicalRules.stripped sql).utf8ByteSize + k ∧
      d.tokens (n ++ " " ++ sql) = d.tokens n ++ (d.tokens sql).map (Token.shift k) := by
  have hspace : isBlank ' ' = true := by decide
  have htext : (n ++ " " ++ sql).toList = n.toList ++ ([' '] ++ sql.toList) := by simp
  have hseam : ¬ (n.toList.getLast? = some '-' ∧ [' '].head? = some '-') := by simp
  unfold tokens LexicalRules.tokens
  simp only [← byteLength_toList, toList_stripped, htext]
  exact tokensFrom_gap hn (.blank hspace .nil) (List.cons_ne_nil _ _) hseam sql.toList

/-- **Leading noise is transparent**: behind a text that ends at top level and opens no statement, a
text is classified as it is alone.  Only the place of a table reference moves, by as many bytes as
the stripped text grows. -/
theorem classify_noise (d : Dialect) {n : String} (hn : EndsAtTopLevel d.lexicalRules n.toList)
    (hnoise : ∀ t ∈ d.tokens n, d.table.opens t = false) (sql : String) :
    ∃ k, (d.lexicalRules.stripped (n ++ " " ++ sql)).utf8ByteSize =
        (d.lexicalRules.stripped sql).utf8ByteSize + k ∧
      (d.classify (n ++ " " ++ sql)).toOption =
        (d.classify sql).toOption.map (Statement.shift k) := by
  obtain ⟨k, hk, htokens⟩ := tokens_append_space hn sql
  refine ⟨k, hk, ?_⟩
  rw [toOption_classify, toOption_classify, htokens, RuleTable.verdict?_noise_append hnoise,
    RuleTable.verdict?_shift d.quoteFree_table]
  cases d.table.verdict? (d.tokens sql) with
  | none => rfl
  | some v => exact v.statement?_shift k

/-- Noise of a quoted run, a comment, punctuation and words that open statements of PostgreSQL. -/
theorem classify_noise_showCreateTable :
    (mySql.classify ("'use' /* ' */ (END; Abort -" ++ " " ++ "show create table `é`.t")).toOption =
      some (.showCreateTable ⟨40, 6, "`é`.t"⟩) := by
  have hn : EndsAtTopLevel mySql.lexicalRules "'use' /* ' */ (END; Abort -".toList :=
    endsAtTopLevel_iff_all.2 (by cbv)
  have hskipped : ((mySql.tokens "'use' /* ' */ (END; Abort -").all
      fun t => !mySql.table.opens t) = true := by cbv
  have hnoise : ∀ t ∈ mySql.tokens "'use' /* ' */ (END; Abort -", mySql.table.opens t = false := by
    intro t ht
    simpa using List.all_eq_true.1 hskipped t ht
  have hlong : (mySql.lexicalRules.stripped
      ("'use' /* ' */ (END; Abort -" ++ " " ++ "show create table `é`.t")).utf8ByteSize = 46 := by
    cbv
  have hshort : (mySql.lexicalRules.stripped "show create table `é`.t").utf8ByteSize = 24 := by cbv
  obtain ⟨k, hk, hclassify⟩ := classify_noise mySql hn hnoise "show create table `é`.t"
  rw [hlong, hshort] at hk
  obtain rfl : k = 22 := by omega
  rw [hclassify]
  cbv

end Dialect

end SqlTriage

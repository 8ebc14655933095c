import Mathlib
import SqlTriage.Classify
import SqlTriage.Proofs.Lexical.TokenStream

/-!
# Parts of a name

Where the lexer delimits the quoted runs of a name, `splitName?` cuts the name at its first dot
outside them.  The accessors of a table reference keep track of one open quote instead, and that is
the lexer without backslash escapes (`splitAtDot_eq_splitName?`).  So they give the parts that MySQL
sees, unless the name holds a quote that a backslash escapes (`parts_agree`).  Such a quote ends the
run for them, and a dot behind it splits the name (`escaped_quote_splits_name`).
-/

namespace SqlTriage

open SqlTriage.Text SqlTriage.Lexical

/-- Splits a name at its first dot outside the quoted runs that the rules delimit. -/
def splitName? (rules : LexicalRules) (s : List Char) : Option (List Char × List Char) :=
  match s with
  | [] => none
  | c :: t =>
    match _ : quotedRun? rules (c :: t) with
    | some l => (splitName? rules l.rest).map fun p => (l.text ++ p.1, p.2)
    | none =>
      if c = '.' then some ([], t)
      else (splitName? rules t).map fun p => (c :: p.1, p.2)
termination_by s.length
decreasing_by
  · exact quotedRun?_length_lt ‹_›
  · exact Nat.lt_succ_self _

/-- A backslash stands directly before a quote that it would escape. -/
def HasEscapedQuote (s : List Char) : Prop :=
  ['\\', '\x27'] <:+: s ∨ ['\\', '\x22'] <:+: s

instance : DecidablePred HasEscapedQuote := fun s =>
  inferInstanceAs (Decidable (['\\', '\x27'] <:+: s ∨ ['\\', '\x22'] <:+: s))

/-- The accessors of the reference are the parts of its name under the rules, each without one
surrounding pair of identifier quotes; a name that does not split is the table. -/
structure TableReference.AgreesWith (r : TableReference) (rules : LexicalRules) : Prop where
  schema : r.schema =
    (splitName? rules r.name.toList).map fun p => String.ofList (unquoted p.1)
  table : r.table =
    String.ofList (unquoted (((splitName? rules r.name.toList).map Prod.snd).getD r.name.toList))

/-! ## Steps of the split -/

section Steps

variable {rules : LexicalRules}

theorem splitName?_nil : splitName? rules [] = none := by
  rw [splitName?]

theorem splitName?_quoted {s : List Char} {l : Lexeme} (h : quotedRun? rules s = some l) :
    splitName? rules s = (splitName? rules l.rest).map fun p => (l.text ++ p.1, p.2) := by
  obtain ⟨q, t, -, rfl, -⟩ := exists_quote_of_quotedRun? h
  rw [splitName?]
  split
  · rename_i l' h'
    obtain rfl : l' = l := Option.some.inj (h'.symm.trans h)
    rfl
  · rename_i h'
    cases h'.symm.trans h

theorem splitName?_plain {c : Char} (hq : isQuote c = false) (t : List Char) :
    splitName? rules (c :: t) =
      if c = '.' then some ([], t) else (splitName? rules t).map fun p => (c :: p.1, p.2) := by
  have hnone : quotedRun? rules (c :: t) = none := quotedRun?_eq_none_iff.2 hq
  rw [splitName?]
  split
  · rename_i l h
    cases hnone.symm.trans h
  · rfl

/-- The split is at the first dot that the lexer scans as a character of its own. -/
theorem splitName?_of_scan {s : List Char} {gs hs : List Segment}
    (h : scan rules s = gs ++ .plain '.' :: hs) (hcom : ∀ g ∈ gs, g.isComment = false)
    (hdot : .plain '.' ∉ gs) : splitName? rules s = some (textOf gs, textOf hs) := by
  induction gs generalizing s with
  | nil =>
    rcases scan_eq_cons_cases h with ⟨l, -, hg, -⟩ | ⟨l, -, hg, -⟩ | ⟨c, t, rfl, -, -, hg, rfl⟩
    · cases hg
    · cases hg
    · cases hg
      rw [splitName?_plain (by decide), if_pos rfl, textOf_scan]
      rfl
  | cons g gs ih =>
    rw [List.forall_mem_cons] at hcom
    rw [List.mem_cons, not_or] at hdot
    rcases scan_eq_cons_cases h with
      ⟨l, -, rfl, -⟩ | ⟨l, hl, rfl, hrest⟩ | ⟨c, t, rfl, -, hq, rfl, hrest⟩
    · cases hcom.1
    · rw [splitName?_quoted hl, ih hrest.symm hcom.2 hdot.2]
      rfl
    · have hc : c ≠ '.' := fun hc => hdot.1 (by rw [hc])
      rw [splitName?_plain hq, if_neg hc, ih hrest.symm hcom.2 hdot.2]
      rfl

end Steps

/-! ## One open quote -/

/-- With a quote open, the split goes on behind the end of the run. -/
theorem splitAtDot_quotedTail {q : Char} (hq : isQuote q = true) (s : List Char) :
    splitAtDot (some q) s =
      (splitAtDot none (quotedTail false q s).rest).map fun p =>
        ((quotedTail false q s).text ++ p.1, p.2) := by
  fun_induction quotedTail false q s with
  | case1 => rfl
  | case2 c => by_cases hc : c = q <;> simp [splitAtDot, hc]
  | case3 s ih =>
    -- the first of two quotes closes the part, and the second opens another one
    simp [splitAtDot, hq, ih, Function.comp_def]
  | case4 d s hd => simp [splitAtDot]
  | case5 c d s hc he ih => cases he
  | case6 c d s hc he ih =>
    rw [splitAtDot, if_neg hc, ih]
    simp [Function.comp_def]

/-- One open quote is all that the lexer without escapes needs. -/
theorem splitAtDot_eq_splitName? (s : List Char) : splitAtDot none s = splitName? {} s := by
  fun_induction splitName? {} s with
  | case1 => rfl
  | case2 c t l hl ih =>
    obtain ⟨q, t, hq, hs, rfl⟩ := exists_quote_of_quotedRun? hl
    obtain ⟨rfl, rfl⟩ := List.cons.inj hs
    have hnone : ({} : LexicalRules).escapesIn c = false := rfl
    rw [hnone, Lexeme.rest_after] at ih
    rw [splitAtDot, if_pos hq, hnone, splitAtDot_quotedTail hq, ih]
    simp [Function.comp_def]
  | case3 t hl => rw [splitAtDot, if_neg (by decide), if_pos rfl]
  | case4 c t hl hc ih =>
    have hq : ¬ isQuote c = true := by rw [quotedRun?_eq_none_iff.1 hl]; exact Bool.false_ne_true
    rw [splitAtDot, if_neg hq, if_neg hc, ih]

/-! ## Escapes -/

/-- Escapes that concern no quote do not change where a run ends. -/
theorem quotedRun?_eq_of_not_escaped {rules : LexicalRules} {s : List Char}
    (h : ¬ HasEscapedQuote s) : quotedRun? rules s = quotedRun? {} s := by
  cases s with
  | nil => rfl
  | cons q t =>
    by_cases hq : isQuote q = true
    · have htail : quotedTail (rules.escapesIn q) q t = quotedTail false q t := by
        by_cases hback : q = '\x60'
        · subst hback
          rw [escapesIn_backtick]
        · refine quotedTail_eq_of_not_escaped _ fun ht => h ?_
          simp only [isQuote, Bool.or_eq_true, beq_iff_eq, hback, or_false] at hq
          rcases hq with rfl | rfl
          · exact Or.inl (List.infix_cons ht)
          · exact Or.inr (List.infix_cons ht)
      have hnone : ({} : LexicalRules).escapesIn q = false := rfl
      rw [quotedRun?, quotedRun?, htail, hnone]
    · rw [quotedRun?, quotedRun?, if_neg hq, if_neg hq]

theorem HasEscapedQuote.of_suffix {s t : List Char} (h : HasEscapedQuote t) (ht : t <:+ s) :
    HasEscapedQuote s :=
  h.imp (fun hq => hq.trans ht.isInfix) fun hq => hq.trans ht.isInfix

theorem splitName?_eq_of_not_escaped {rules : LexicalRules} {s : List Char}
    (h : ¬ HasEscapedQuote s) : splitName? rules s = splitName? {} s := by
  fun_induction splitName? {} s with
  | case1 => exact splitName?_nil
  | case2 c t l hl ih =>
    have hrest : l.rest <:+ c :: t := ⟨l.text, quotedRun?_append hl⟩
    rw [splitName?_quoted ((quotedRun?_eq_of_not_escaped h).trans hl),
      ih fun hs => h (hs.of_suffix hrest)]
  | case3 t hl => rw [splitName?_plain (by decide), if_pos rfl]
  | case4 c t hl hc ih =>
    rw [splitName?_plain (quotedRun?_eq_none_iff.1 hl), if_neg hc,
      ih fun hs => h (hs.of_suffix (List.suffix_cons c t))]

/-! ## The accessors -/

namespace TableReference

theorem agreesWith_of_splitName? {r : TableReference} {rules : LexicalRules}
    (h : splitName? rules r.name.toList = splitAtDot none r.name.toList) : r.AgreesWith rules := by
  constructor
  · rw [schema, h]
  · rw [table, h]
    cases splitAtDot none r.name.toList with
    | none => rfl
    | some p => rfl

/-- **The accessors read a name like the lexer without escapes.** They read it like the lexer of
MySQL, if no backslash escapes a quote in it. -/
theorem parts_agree (r : TableReference) :
    r.AgreesWith {} ∧
      (¬ HasEscapedQuote r.name.toList → r.AgreesWith Dialect.mySql.lexicalRules) := by
  have hsplit := splitAtDot_eq_splitName? r.name.toList
  refine ⟨agreesWith_of_splitName? hsplit.symm, fun h => ?_⟩
  exact agreesWith_of_splitName? ((splitName?_eq_of_not_escaped h).trans hsplit.symm)

/-- Dots in quotes, a doubled quote and an escaped letter. -/
theorem parts_agree_doubled :
    Dialect.mySql.classify "show create table `a.``b`.\"c\\d.\"" =
        .ok (.showCreateTable ⟨18, 14, "`a.``b`.\"c\\d.\""⟩) ∧
      AgreesWith ⟨18, 14, "`a.``b`.\"c\\d.\""⟩ Dialect.mySql.lexicalRules ∧
      schema ⟨18, 14, "`a.``b`.\"c\\d.\""⟩ = some "a.``b" ∧
      table ⟨18, 14, "`a.``b`.\"c\\d.\""⟩ = "c\\d." :=
  ⟨by cbv, (parts_agree _).2 (by decide), by decide, by decide⟩

/-- An escaped quote ends the run for the accessors, and they split the name in the middle of it. -/
theorem escaped_quote_splits_name :
    Dialect.mySql.classify "SHOW CREATE TABLE \"a\\\".b\"" =
        .ok (.showCreateTable ⟨18, 7, "\"a\\\".b\""⟩) ∧
      splitName? Dialect.mySql.lexicalRules "\"a\\\".b\"".toList = none ∧
      schema ⟨18, 7, "\"a\\\".b\""⟩ = some "a\\" ∧ table ⟨18, 7, "\"a\\\".b\""⟩ = "b\"" ∧
      ¬ ∀ (sql : String) (r : TableReference),
        Dialect.mySql.classify sql = .ok (.showCreateTable r) →
          r.AgreesWith Dialect.mySql.lexicalRules := by
  have hclassify : Dialect.mySql.classify "SHOW CREATE TABLE \"a\\\".b\"" =
      .ok (.showCreateTable ⟨18, 7, "\"a\\\".b\""⟩) := by cbv
  have hsplit : splitName? Dialect.mySql.lexicalRules "\"a\\\".b\"".toList = none := by cbv
  have hschema : schema ⟨18, 7, "\"a\\\".b\""⟩ = some "a\\" := by decide
  refine ⟨hclassify, hsplit, hschema, by decide, fun hall => ?_⟩
  -- the lexer sees one quoted run and no schema
  have hagrees := (hall _ _ hclassify).schema
  rw [hschema, hsplit] at hagrees
  cases hagrees

end TableReference

end SqlTriage

import Mathlib
import SqlTriage.Proofs.Classify.Names
import SqlTriage.Proofs.Lexical.LetterCase
import SqlTriage.Proofs.Rule.Alike

/-!
# Statements in another letter case

Rules compare tokens in upper case, so that they cannot tell a token from the same token in lower
case (`SameUpToCase.alike`).  Two texts that differ in the case of ASCII letters are therefore
classified alike, with captured tokens in the same place, and each statement has its names as they
are spelled in its own text (`classify_letterCase`).  Characters outside ASCII have no other case:
no keyword holds one (`keywords_ascii`), and where captured names differ, they differ in ASCII
letters only.
-/

namespace SqlTriage

open SqlTriage.Text SqlTriage.Lexical

/-! ## Tokens in another letter case -/

namespace Lexical.Token

theorem folded_lowered (t : Token) : t.lowered.folded = t.folded := by
  unfold folded lowered String.toUpper String.toLower
  rw [← String.toList_inj]
  simp [Function.comp_def]

theorem isIdentifier_lowered (t : Token) : t.lowered.isIdentifier = t.isIdentifier := by
  unfold isIdentifier lowered String.toLower
  rw [String.toList_map, List.head?_map]
  cases t.text.toList.head? <;> simp

/-- The tokens stand in the same place and differ in the case of ASCII letters only. -/
structure SameUpToCase (t u : Token) : Prop where
  offset : t.offset = u.offset
  length : byteLength t.text.toList = byteLength u.text.toList
  text : t.text.toLower = u.text.toLower
  letters : List.Forall₂ (fun c d => c = d ∨ c.isAlpha = true ∧ d.isAlpha = true)
    t.text.toList u.text.toList

theorem SameUpToCase.lowered_eq {t u : Token} (h : t.SameUpToCase u) : t.lowered = u.lowered := by
  rw [lowered, lowered, h.offset, h.text]

theorem SameUpToCase.alike {t u : Token} (h : t.SameUpToCase u) : t.Alike u := by
  refine ⟨fun w _ => ?_, ?_⟩
  · rw [← t.folded_lowered, h.lowered_eq, u.folded_lowered]
  · rw [← t.isIdentifier_lowered, h.lowered_eq, u.isIdentifier_lowered]

end Lexical.Token

theorem eq_or_isAlpha_of_toLower_eq {c d : Char} (h : c.toLower = d.toLower) :
    c = d ∨ c.isAlpha = true ∧ d.isAlpha = true := by
  have hletter : c.isAlpha = d.isAlpha := by
    rw [← Char.isAlpha_toLower_eq_isAlpha c, h, Char.isAlpha_toLower_eq_isAlpha]
  by_cases hd : d.isAlpha = true
  · exact Or.inr ⟨hletter.trans hd, hd⟩
  · left
    rw [Bool.not_eq_true] at hd
    have hself : d.toLower = d := (toLower_eq_iff hd).2 rfl
    rwa [hself, toLower_eq_iff hd] at h

theorem toLower_eq_iff_map {s t : String} :
    s.toLower = t.toLower ↔ s.toList.map Char.toLower = t.toList.map Char.toLower := by
  rw [← String.toList_inj, String.toLower, String.toLower, String.toList_map, String.toList_map]

theorem length_eq_of_toLower_eq {s t : String} (h : s.toLower = t.toLower) :
    byteLength s.toList = byteLength t.toList := by
  rw [← byteLength_lower, toLower_eq_iff_map.1 h, byteLength_lower]

theorem Lexical.Token.sameUpToCase_of_lowered {t u : Token} (h : t.lowered = u.lowered) :
    t.SameUpToCase u := by
  have htext : t.text.toLower = u.text.toLower := congrArg Token.text h
  have hoffset : t.lowered.offset = u.lowered.offset := congrArg Token.offset h
  refine ⟨hoffset, length_eq_of_toLower_eq htext, htext, ?_⟩
  have hchars := toLower_eq_iff_map.1 htext
  rw [← List.forall₂_eq_eq_eq, List.forall₂_map_left_iff, List.forall₂_map_right_iff] at hchars
  exact hchars.imp fun _ _ => eq_or_isAlpha_of_toLower_eq

/-! ## Keywords -/

/-- The words with which tokens are compared in a dialect. -/
def Dialect.keywords (d : Dialect) : List String :=
  RuleTable.foreignOpeners ++ ["FROM", "IN", "IGNORE"] ++
    d.table.rules.flatMap fun r => r.steps.flatMap Step.words

theorem Dialect.keywords_ascii (d : Dialect) :
    ∀ w ∈ d.keywords, (w.toList.all fun c => c.toNat < 128) = true := by
  cases d <;> decide

theorem toUpper_of_not_ascii {c : Char} (h : 128 ≤ c.toNat) : c.toUpper = c := by
  apply Char.toUpper_eq_of_not_isLower
  intro hlower
  have := toNat_of_isAlpha (c := c) (by rw [Char.isAlpha, hlower, Bool.or_true])
  omega

/-- A character outside ASCII is never folded into a letter of a keyword. -/
theorem Dialect.isOneOf_keywords_of_not_ascii (d : Dialect) {t : Token} {c : Char}
    (hc : c ∈ t.text.toList) (h : 128 ≤ c.toNat) : t.isOneOf d.keywords = false := by
  by_contra ht
  rw [Bool.not_eq_false] at ht
  have hw : t.folded ∈ d.keywords := List.contains_iff_mem.1 ht
  have hmem : c ∈ t.folded.toList := by
    rw [Token.folded, String.toUpper, String.toList_map, List.mem_map]
    exact ⟨c, hc, toUpper_of_not_ascii h⟩
  have hall := List.all_eq_true.1 (d.keywords_ascii _ hw) c hmem
  rw [decide_eq_true_eq] at hall
  omega

/-! ## Classification -/

/-- The statement with its names in lower case. -/
def Statement.lowered : Statement → Statement
  | .useSchema name => .useSchema name.toLower
  | .describe name => .describe name.toLower
  | .showTableStatus name => .showTableStatus (name.map String.toLower)
  | .showColumns name => .showColumns name.toLower
  | .showIndex name => .showIndex name.toLower
  | .showCreateTable r => .showCreateTable { r with name := r.name.toLower }
  | s => s

theorem Verdict.Rel.lowered {v w : Verdict} (h : v.Rel Token.SameUpToCase w) :
    v.statement?.map Statement.lowered = w.statement?.map Statement.lowered := by
  obtain ⟨family, modifiers, target⟩ := v
  obtain ⟨family', modifiers', target'⟩ := w
  obtain ⟨rfl, rfl, htarget⟩ := h
  cases htarget with
  | none => rfl
  | some ht =>
    cases family <;>
      simp [Verdict.statement?, Statement.lowered, ht.text, ht.offset, ht.length]

namespace Dialect

theorem tokens_toLower (d : Dialect) (sql : String) :
    d.tokens sql.toLower = (d.tokens sql).map Token.lowered := by
  unfold tokens LexicalRules.tokens
  rw [toList_stripped, toList_stripped, String.toLower, String.toList_map]
  exact tokensFrom_strip_lower sql.toList

theorem verdict?_letterCase (d : Dialect) {s t : String} (h : s.toLower = t.toLower) :
    Option.Rel (Verdict.Rel Token.SameUpToCase) (d.table.verdict? (d.tokens s))
      (d.table.verdict? (d.tokens t)) := by
  have htokens : (d.tokens s).map Token.lowered = (d.tokens t).map Token.lowered := by
    rw [← tokens_toLower, h, tokens_toLower]
  rw [← List.forall₂_eq_eq_eq, List.forall₂_map_left_iff, List.forall₂_map_right_iff] at htokens
  exact RuleTable.verdict?_rel d.quoteFree_table (fun _ _ => Token.SameUpToCase.alike)
    (htokens.imp fun _ _ => Token.sameUpToCase_of_lowered)

/-- **Letter case does not matter, and is kept.** Two texts that are equal in ASCII lower case are
classified alike up to the case of the names, or neither is classified.  Their captured tokens
stand in the same place and differ in the case of ASCII letters only, so that references have the
same start and length.  In every text the names are spelled as in its captured token, and a token
with a character outside ASCII is no keyword. -/
theorem classify_letterCase (d : Dialect) {s t : String} (h : s.toLower = t.toLower) :
    (d.classify s).toOption.map Statement.lowered =
        (d.classify t).toOption.map Statement.lowered ∧
      Option.Rel Token.SameUpToCase (d.examine s).captured (d.examine t).captured ∧
      (∀ r r', d.classify s = .ok (.showCreateTable r) → d.classify t = .ok (.showCreateTable r') →
        r.start = r'.start ∧ r.length = r'.length) ∧
      (∀ sql st, d.classify sql = .ok st → ∀ name ∈ st.names, ∃ u,
        (d.examine sql).captured = some u ∧ u.text = name ∧
          u.StandsIn 0 (d.lexicalRules.stripped sql).toList) ∧
      ∀ sql, ∀ u ∈ d.tokens sql, ∀ c ∈ u.text.toList, 128 ≤ c.toNat →
        u.isOneOf d.keywords = false := by
  have hverdict := d.verdict?_letterCase h
  have hstatement : (d.classify s).toOption.map Statement.lowered =
      (d.classify t).toOption.map Statement.lowered := by
    rw [toOption_classify, toOption_classify]
    generalize d.table.verdict? (d.tokens s) = v at hverdict ⊢
    generalize d.table.verdict? (d.tokens t) = w at hverdict ⊢
    cases hverdict with
    | none => rfl
    | some hvw => exact hvw.lowered
  refine ⟨hstatement, ?_, ?_, ?_, ?_⟩
  · rw [captured_examine, captured_examine]
    generalize d.table.verdict? (d.tokens s) = v at hverdict ⊢
    generalize d.table.verdict? (d.tokens t) = w at hverdict ⊢
    cases hverdict with
    | none => exact .none
    | some hvw => exact hvw.target
  · intro r r' hr hr'
    rw [hr, hr'] at hstatement
    have hlowered : Statement.lowered (.showCreateTable r) =
        Statement.lowered (.showCreateTable r') := Option.some.inj hstatement
    injection hlowered with hlowered
    injection hlowered with hstart hlength
    exact ⟨hstart, hlength⟩
  · intro sql st hst name hname
    rw [classify_eq_ok_iff] at hst
    obtain ⟨v, hv, hst⟩ := Option.bind_eq_some_iff.1 hst
    obtain ⟨u, hu, htext⟩ := v.exists_target_of_mem_names hst hname
    refine ⟨u, ?_, htext, standsIn_of_mem_tokens (RuleTable.mem_of_verdict? hv hu).1⟩
    rw [captured_examine, hv]
    exact hu
  · intro sql u _ c hc hascii
    exact d.isOneOf_keywords_of_not_ascii hc hascii

/-- Keywords, a comment and a quoted name with a letter outside ASCII in two cases. -/
theorem classify_letterCase_show :
    "sHoW CrEaTe/*x*/ tAbLe `Ä`.Tab".toLower = "SHOW create/*X*/ TABLE `Ä`.tAB".toLower ∧
      mySql.classify "sHoW CrEaTe/*x*/ tAbLe `Ä`.Tab" = .ok (.showCreateTable ⟨19, 8, "`Ä`.Tab"⟩) ∧
      (mySql.classify "SHOW create/*X*/ TABLE `Ä`.tAB").toOption.map Statement.lowered =
        some (.showCreateTable ⟨19, 8, "`Ä`.tab"⟩) := by
  have hcase : "sHoW CrEaTe/*x*/ tAbLe `Ä`.Tab".toLower =
      "SHOW create/*X*/ TABLE `Ä`.tAB".toLower := by cbv
  have hshow : mySql.classify "sHoW CrEaTe/*x*/ tAbLe `Ä`.Tab" =
      .ok (.showCreateTable ⟨19, 8, "`Ä`.Tab"⟩) := by cbv
  refine ⟨hcase, hshow, ?_⟩
  rw [← (classify_letterCase mySql hcase).1, hshow]
  cbv

end Dialect

end SqlTriage

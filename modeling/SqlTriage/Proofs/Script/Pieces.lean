import Mathlib
import SqlTriage.Proofs.Script.Stripping

/-!
# Pieces on their own

Splitting a script loses nothing: its pieces with the delimiter between them are the script
(`intercalate_pieces`).  Splitting is also stable, whatever the delimiter.  A piece begins and ends
at top level or with the script, so that the scan of the piece alone meets the same comments,
quoted runs and characters, and no delimiter (`isUncut_of_mem_pieces`); and blanks at its ends do
not matter (`IsUncut.trim`).
-/

namespace SqlTriage.Script

open SqlTriage.Text SqlTriage.Lexical

variable {rules : LexicalRules} {delimiter s : List Char}

/-! ## Nothing is lost -/

theorem intercalate_cons (p : List Char) (ps : List (List Char)) :
    delimiter.intercalate (p :: ps) = p ++ ps.flatMap (delimiter ++ ·) := by
  induction ps generalizing p with
  | nil => rw [List.intercalate_singleton, List.flatMap_nil, List.append_nil]
  | cons q ps ih => rw [List.intercalate_cons_cons, ih, List.flatMap_cons, List.append_assoc,
      List.append_assoc]

theorem intercalate_pieces (rules : LexicalRules) (delimiter s : List Char) :
    delimiter.intercalate (pieces rules delimiter s) = s := by
  rw [pieces, intercalate_cons, cut_append]

theorem pieces_empty (rules : LexicalRules) (s : List Char) : pieces rules [] s = [s] := by
  rw [pieces, cut_empty]

/-! ## Texts in one piece -/

/-- Cutting finds no delimiter in the text. -/
def IsUncut (rules : LexicalRules) (delimiter s : List Char) : Prop :=
  cut rules delimiter s = (s, [])

theorem isUncut_nil : IsUncut rules delimiter [] := by rw [IsUncut, cut]

theorem isUncut_empty (rules : LexicalRules) (s : List Char) : IsUncut rules [] s :=
  cut_empty rules s

theorem IsUncut.not_prefix (hd : delimiter ≠ []) (h : IsUncut rules delimiter s) :
    ¬ delimiter <+: s := by
  rintro ⟨u, rfl⟩
  rw [IsUncut, cut_delimiter hd] at h
  cases (Prod.ext_iff.1 h).2

theorem isUncut_append_iff {t r : List Char} (h : cut rules delimiter (t ++ r) =
      (t ++ (cut rules delimiter r).1, (cut rules delimiter r).2)) :
    IsUncut rules delimiter (t ++ r) ↔ IsUncut rules delimiter r := by
  rw [IsUncut, h, IsUncut, Prod.ext_iff, Prod.ext_iff]
  simp only [List.append_cancel_left_eq]

theorem isUncut_comment_iff {l : Lexeme} (hd : ¬ delimiter <+: s)
    (hc : comment? rules s = some l) :
    IsUncut rules delimiter s ↔ IsUncut rules delimiter l.rest := by
  have hcut := cut_comment hd hc
  rw [← comment?_append hc] at hcut ⊢
  exact isUncut_append_iff hcut

theorem isUncut_quoted_iff {l : Lexeme} (hd : ¬ delimiter <+: s)
    (hq : quotedRun? rules s = some l) :
    IsUncut rules delimiter s ↔ IsUncut rules delimiter l.rest := by
  have hcut := cut_quoted hd hq
  rw [← quotedRun?_append hq] at hcut ⊢
  exact isUncut_append_iff hcut

theorem isUncut_plain_iff {c : Char} (hd : ¬ delimiter <+: c :: s)
    (hc : opensComment rules c s.head? = false) (hq : isQuote c = false) :
    IsUncut rules delimiter (c :: s) ↔ IsUncut rules delimiter s :=
  isUncut_append_iff (t := [c]) (cut_plain hd hc hq)

/-- The delimiter stands nowhere in the text at top level. -/
def IsFreeOf (rules : LexicalRules) (delimiter s : List Char) : Prop :=
  ∀ u v, s = u ++ (delimiter ++ v) → ¬ TopLevel rules u (delimiter ++ v)

/-- Cutting finds the delimiters that stand at top level in the scan of the text. -/
theorem IsUncut.isFreeOf (hd : delimiter ≠ []) (h : IsUncut rules delimiter s) :
    IsFreeOf rules delimiter s := by
  rintro u v rfl ⟨gs, hs, hscan, rfl⟩
  -- on the segments before the delimiter: behind each of them the text is uncut too
  generalize hw : textOf gs ++ (delimiter ++ v) = w at h hscan
  induction gs generalizing w with
  | nil => exact h.not_prefix hd ⟨v, hw⟩
  | cons g gs ih =>
    obtain ⟨r, hr, hrest, -⟩ := scan_eq_cons hscan
    rw [textOf_cons, List.append_assoc] at hw
    have hrw : textOf gs ++ (delimiter ++ v) = r := List.append_cancel_left (hw.trans hr)
    refine ih r hrw ?_ hrest.symm
    rcases scan_eq_cons_cases hscan with
      ⟨l, hl, rfl, hgs⟩ | ⟨l, hl, rfl, hgs⟩ | ⟨c, t, rfl, hc, hq, rfl, hgs⟩
    · obtain rfl : l.rest = r := List.append_cancel_left ((comment?_append hl).trans hr)
      exact (isUncut_comment_iff (h.not_prefix hd) hl).1 h
    · obtain rfl : l.rest = r := List.append_cancel_left ((quotedRun?_append hl).trans hr)
      exact (isUncut_quoted_iff (h.not_prefix hd) hl).1 h
    · obtain rfl : t = r := (List.cons.inj hr).2
      exact (isUncut_plain_iff (h.not_prefix hd) hc hq).1 h

theorem prefix_append_cut (rules : LexicalRules) (delimiter : List Char) {t r : List Char}
    (h : t ++ r = s) : t ++ (cut rules delimiter r).1 <+: s := by
  rw [← h, List.prefix_append_right_inj]
  exact cut_fst_prefix rules delimiter r

/-- A piece of a script is one piece by itself. -/
theorem isUncut_of_mem_pieces (s : List Char) :
    ∀ p ∈ pieces rules delimiter s, IsUncut rules delimiter p := by
  by_cases hd : delimiter = []
  · subst hd
    exact fun p _ => isUncut_empty rules p
  change ∀ p ∈ (cut rules delimiter s).1 :: (cut rules delimiter s).2, IsUncut rules delimiter p
  -- on the cuts of the script: what is cut off behind a lexeme leaves the lexeme as it is
  have hnot {t u : List Char} (hp : ¬ (delimiter ≠ [] ∧ delimiter.isPrefixOf t = true))
      (hu : u <+: t) : ¬ delimiter <+: u :=
    fun h => hp ⟨hd, List.isPrefixOf_iff_prefix.2 (h.trans hu)⟩
  fun_induction cut rules delimiter s with
  | case1 => simpa using isUncut_nil
  | case2 c t hp more ih => exact List.forall_mem_cons.2 ⟨isUncut_nil, ih⟩
  | case3 c t hp l hc more ih =>
    obtain ⟨hmore, hrest⟩ := List.forall_mem_cons.1 ih
    have hd := hnot hp (prefix_append_cut rules delimiter (comment?_append hc))
    obtain ⟨closed, hc'⟩ := comment?_front hc (cut_fst_eq_nil_or_head? rules delimiter l.rest)
    exact List.forall_mem_cons.2 ⟨(isUncut_comment_iff hd hc').2 hmore, hrest⟩
  | case4 c t hp hc l hq more ih =>
    obtain ⟨hmore, hrest⟩ := List.forall_mem_cons.1 ih
    have hd := hnot hp (prefix_append_cut rules delimiter (quotedRun?_append hq))
    have hq' := quotedRun?_front hq (cut_fst_eq_nil_or_head? rules delimiter l.rest)
    exact List.forall_mem_cons.2 ⟨(isUncut_quoted_iff hd hq').2 hmore, hrest⟩
  | case5 c t hp hc hq more ih =>
    obtain ⟨hmore, hrest⟩ := List.forall_mem_cons.1 ih
    have hd := hnot hp (prefix_append_cut rules delimiter (t := [c]) rfl)
    have hc' := opensComment_front (comment?_eq_none_iff.1 hc)
      (cut_fst_eq_nil_or_head? rules delimiter t)
    have hq := quotedRun?_eq_none_iff.1 hq
    exact List.forall_mem_cons.2 ⟨(isUncut_plain_iff hd hc' hq).2 hmore, hrest⟩

/-! ## Blanks at the ends -/

variable {blanks : List Char}

theorem IsUncut.of_blanks_append (hb : ∀ c ∈ blanks, isBlank c = true)
    (h : IsUncut rules delimiter (blanks ++ s)) : IsUncut rules delimiter s := by
  by_cases hd : delimiter = []
  · subst hd
    exact isUncut_empty rules s
  induction blanks with
  | nil => exact h
  | cons c blanks ih =>
    have hc : isBlank c = true := hb c List.mem_cons_self
    refine ih (fun d hm => hb d (List.mem_cons_of_mem c hm)) ?_
    exact (isUncut_plain_iff (h.not_prefix hd) (opensComment_eq_false_of_isBlank hc _)
      (isQuote_eq_false_of_isBlank hc)).1 h

theorem IsUncut.of_append_blanks (hb : ∀ c ∈ blanks, isBlank c = true)
    (h : IsUncut rules delimiter (s ++ blanks)) : IsUncut rules delimiter s := by
  by_cases hd : delimiter = []
  · subst hd
    exact isUncut_empty rules s
  have hp {t : List Char} (h : IsUncut rules delimiter (t ++ blanks)) : ¬ delimiter <+: t :=
    fun ht => h.not_prefix hd (ht.trans (List.prefix_append t blanks))
  fun_induction scan rules s with
  | case1 => exact isUncut_nil
  | case2 c t l hc ih =>
    rw [isUncut_comment_iff (hp h) hc]
    obtain ⟨l', hl', rfl | ⟨hr, -⟩⟩ := exists_comment?_append hb hc
    · exact ih ((isUncut_comment_iff (h.not_prefix hd) hl').1 h)
    · -- the comment is open, and the blanks belong to it
      rw [hr]
      exact isUncut_nil
  | case3 c t hc l hq ih =>
    rw [isUncut_quoted_iff (hp h) hq]
    obtain ⟨l', hl', rfl | ⟨hr, -⟩⟩ := exists_quotedRun?_append hb hq
    · exact ih ((isUncut_quoted_iff (h.not_prefix hd) hl').1 h)
    · rw [hr]
      exact isUncut_nil
  | case4 c t hc hq ih =>
    have hc := comment?_eq_none_iff.1 hc
    have hq := quotedRun?_eq_none_iff.1 hq
    rw [isUncut_plain_iff (hp h) hc hq]
    exact ih ((isUncut_plain_iff (h.not_prefix hd) (opensComment_append_blanks hb hc) hq).1 h)

theorem IsUncut.trim {p : Char → Bool} (hp : ∀ c, p c = true → isBlank c = true)
    (h : IsUncut rules delimiter s) : IsUncut rules delimiter (trim p s) := by
  obtain ⟨t, u, ht, hu, hs⟩ := exists_trim p s
  rw [hs] at h
  exact (h.of_blanks_append fun c hc => hp c (ht c hc)).of_append_blanks
    fun c hc => hp c (hu c hc)

/-! ## Statements -/

theorem holdsStatement_trim (p : List Char) :
    holdsStatement rules (trim isSpace p) = holdsStatement rules p := by
  rw [holdsStatement, holdsStatement, strip_trim fun _ h => isBlank_of_isSpace h]

/-- The statements are the pieces that hold more than comments and blanks, each of them trimmed. -/
theorem statements_eq (rules : LexicalRules) (delimiter script : String) :
    statements rules delimiter script =
      (((pieces rules delimiter.toList script.toList).map String.ofList).filter
        fun r => rules.stripped r ≠ "").map trimSpace := by
  have hholds (p : List Char) :
      decide (rules.stripped (String.ofList p) ≠ "") = holdsStatement rules p := by
    rw [Bool.eq_iff_iff]
    simp [LexicalRules.stripped, holdsStatement]
  unfold statements
  rw [List.filter_map, List.filter_map, List.map_map, List.map_map]
  simp only [Function.comp_def, holdsStatement_trim, hholds, trimSpace, String.toList_ofList]

theorem exists_of_mem_statements {delimiter script sql : String}
    (h : sql ∈ statements rules delimiter script) :
    ∃ p ∈ pieces rules delimiter.toList script.toList,
      holdsStatement rules p = true ∧ sql.toList = trim isSpace p := by
  obtain ⟨t, ht, rfl⟩ := List.mem_map.1 h
  obtain ⟨ht, hholds⟩ := List.mem_filter.1 ht
  obtain ⟨p, hp, rfl⟩ := List.mem_map.1 ht
  rw [holdsStatement_trim] at hholds
  exact ⟨p, hp, hholds, String.toList_ofList⟩

/-- A statement alone is a script of one statement. -/
theorem statements_of_mem {delimiter script sql : String}
    (h : sql ∈ statements rules delimiter script) : statements rules delimiter sql = [sql] := by
  obtain ⟨p, hp, hholds, hsql⟩ := exists_of_mem_statements h
  have huncut : IsUncut rules delimiter.toList (trim isSpace p) :=
    (isUncut_of_mem_pieces _ p hp).trim fun _ hc => isBlank_of_isSpace hc
  have htrim : trim isSpace (trim isSpace p) = trim isSpace p :=
    trim_eq_self (any_head?_trim isSpace p) (any_getLast?_trim isSpace p)
  rw [statements, hsql, pieces, huncut, List.map_singleton, htrim, List.filter_cons_of_pos,
    List.filter_nil, List.map_singleton, ← hsql, String.ofList_toList]
  rwa [holdsStatement_trim]

/-- **Splitting loses nothing and is stable**, whatever the delimiter: the statements are the
trimmed parts of the script between the delimiters at top level, those left out that hold comments
and blanks only, and each statement alone is split into itself. -/
theorem statements_stable (rules : LexicalRules) (delimiter script : String) :
    (∃ r rs, delimiter.intercalate (r :: rs) = script ∧ (delimiter = "" → rs = []) ∧
      (delimiter ≠ "" → ∀ p ∈ r :: rs, IsFreeOf rules delimiter.toList p.toList) ∧
      statements rules delimiter script =
        ((r :: rs).filter fun p => rules.stripped p ≠ "").map trimSpace) ∧
    ∀ sql ∈ statements rules delimiter script, statements rules delimiter sql = [sql] := by
  refine ⟨?_, fun sql => statements_of_mem⟩
  obtain ⟨p, ps, hps⟩ : ∃ p ps, pieces rules delimiter.toList script.toList = p :: ps :=
    ⟨_, _, rfl⟩
  refine ⟨String.ofList p, ps.map String.ofList, ?_, ?_, ?_, ?_⟩
  · have hjoin := intercalate_pieces rules delimiter.toList script.toList
    rw [← String.toList_inj, String.toList_intercalate, ← List.map_cons, ← hps, List.map_map]
    simpa [Function.comp_def] using hjoin
  · rintro rfl
    have hone := pieces_empty rules script.toList
    rw [String.toList_empty, hone] at hps
    rw [← (List.cons.inj hps).2, List.map_nil]
  · intro hd q hq
    rw [← List.map_cons, ← hps] at hq
    obtain ⟨raw, hraw, rfl⟩ := List.mem_map.1 hq
    rw [String.toList_ofList]
    exact (isUncut_of_mem_pieces _ raw hraw).isFreeOf (by simpa using hd)
  · rw [statements_eq, hps, List.map_cons]

/-- A dash as the delimiter cuts dash comments apart.  The quoted run in which the script ends stays
open in the last statement, and keeps its dashes. -/
theorem statements_stable_dash :
    let rules : LexicalRules := { hashComments := true, backslashEscapes := true }
    statements rules "-" "use a/--# b\n-*c- '-\\' - " = ["use a/", "*c", "'-\\' -"] ∧
      statements rules "-" "'-\\' -" = ["'-\\' -"] := by
  intro rules
  have hsplit : statements rules "-" "use a/--# b\n-*c- '-\\' - " =
      ["use a/", "*c", "'-\\' -"] := by cbv
  refine ⟨hsplit, (statements_stable rules "-" "use a/--# b\n-*c- '-\\' - ").2 _ ?_⟩
  rw [hsplit]
  simp

end SqlTriage.Script

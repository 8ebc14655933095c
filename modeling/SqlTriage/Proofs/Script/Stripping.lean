import Mathlib
import SqlTriage.Script
import SqlTriage.Proofs.Lexical.Trim

/-!
# Cutting and stripping

The scan that cuts a script at its delimiters and the scan that strips comments see the same
comments and quoted runs.  For a delimiter that shares no character with comment openers, quotes
and blanks, cutting therefore commutes with writing spaces for comments (`cut_spaceComments`), and
a stripped script holds the same statements as the script, up to stripping each of them.
-/

namespace SqlTriage.Script

open SqlTriage.Text SqlTriage.Lexical

variable {rules : LexicalRules} {delimiter : List Char}

/-! ## One step -/

theorem cut_delimiter (hd : delimiter ≠ []) (s : List Char) :
    cut rules delimiter (delimiter ++ s) =
      ([], (cut rules delimiter s).1 :: (cut rules delimiter s).2) := by
  obtain ⟨c, t, rfl⟩ := List.exists_cons_of_ne_nil hd
  rw [List.cons_append, cut, dif_pos ⟨hd, by simp⟩]
  simp

theorem cut_comment {s : List Char} {l : Lexeme} (hd : ¬ delimiter <+: s)
    (h : comment? rules s = some l) :
    cut rules delimiter s =
      (l.text ++ (cut rules delimiter l.rest).1, (cut rules delimiter l.rest).2) := by
  cases s with
  | nil => simp [comment?] at h
  | cons c t =>
    rw [cut, dif_neg fun hp => hd (List.isPrefixOf_iff_prefix.1 hp.2)]
    split
    · rename_i l' h'
      obtain rfl : l' = l := Option.some.inj (h'.symm.trans h)
      rfl
    · simp_all

theorem cut_quoted {s : List Char} {l : Lexeme} (hd : ¬ delimiter <+: s)
    (h : quotedRun? rules s = some l) :
    cut rules delimiter s =
      (l.text ++ (cut rules delimiter l.rest).1, (cut rules delimiter l.rest).2) := by
  obtain ⟨q, t, hq, rfl, -⟩ := exists_quote_of_quotedRun? h
  rw [cut, dif_neg fun hp => hd (List.isPrefixOf_iff_prefix.1 hp.2)]
  split
  · simp_all [comment?_eq_none_of_isQuote hq]
  · split
    · rename_i l' h'
      obtain rfl : l' = l := Option.some.inj (h'.symm.trans h)
      rfl
    · simp_all

theorem cut_plain {c : Char} {t : List Char} (hd : ¬ delimiter <+: c :: t)
    (hc : opensComment rules c t.head? = false) (hq : isQuote c = false) :
    cut rules delimiter (c :: t) =
      (c :: (cut rules delimiter t).1, (cut rules delimiter t).2) := by
  have h₁ := comment?_eq_none_iff.2 hc
  have h₂ : quotedRun? rules (c :: t) = none := quotedRun?_eq_none_iff.2 hq
  rw [cut, dif_neg fun hp => hd (List.isPrefixOf_iff_prefix.1 hp.2)]
  split
  · simp_all
  · split
    · simp_all
    · rfl

/-- An empty delimiter never cuts. -/
theorem cut_empty (rules : LexicalRules) (s : List Char) : cut rules [] s = (s, []) := by
  fun_induction cut rules [] s with
  | case1 => rfl
  | case2 c t hp more ih => exact absurd rfl hp.1
  | case3 c t hp l hc more ih => simp only [more, ih, comment?_append hc]
  | case4 c t hp hc l hq more ih => simp only [more, ih, quotedRun?_append hq]
  | case5 c t hp hc hq more ih => simp only [more, ih]

theorem cut_fst_prefix (rules : LexicalRules) (delimiter s : List Char) :
    (cut rules delimiter s).1 <+: s :=
  ⟨_, cut_append rules delimiter s⟩

theorem cut_fst_eq_nil_or_head? (rules : LexicalRules) (delimiter s : List Char) :
    (cut rules delimiter s).1 = [] ∨ (cut rules delimiter s).1.head? = s.head? := by
  have hs := cut_append rules delimiter s
  cases h : (cut rules delimiter s).1 with
  | nil => exact Or.inl rfl
  | cons c t =>
    rw [h] at hs
    rw [← hs]
    exact Or.inr rfl

/-! ## Delimiters that stripping leaves alone -/

/-- A character that is no blank, opens no comment and opens no quoted run. -/
def IsNeutral (c : Char) : Prop :=
  isBlank c = false ∧ isQuote c = false ∧ c ∉ ['-', '/', '#']

theorem IsNeutral.opensComment {c : Char} (h : IsNeutral c) (next : Option Char) :
    opensComment rules c next = false := by
  obtain ⟨-, -, hc⟩ := h
  simp only [List.mem_cons, List.not_mem_nil, or_false, not_or] at hc
  exact opensComment_eq_false hc.2.1 hc.1 hc.2.2 next

theorem spaceComments_neutral_append (hn : ∀ c ∈ delimiter, IsNeutral c) (s : List Char) :
    spaceComments rules (delimiter ++ s) = delimiter ++ spaceComments rules s := by
  induction delimiter with
  | nil => rfl
  | cons c d ih =>
    have hc := hn c List.mem_cons_self
    rw [List.cons_append, spaceComments_plain (hc.opensComment _) hc.2.1,
      ih fun e he => hn e (List.mem_cons_of_mem c he)]
    rfl

/-- A neutral text stands at the front of a text with or without its comments. -/
theorem prefix_spaceComments_iff (hn : ∀ c ∈ delimiter, IsNeutral c) {s : List Char} :
    delimiter <+: spaceComments rules s ↔ delimiter <+: s := by
  induction delimiter generalizing s with
  | nil => simp
  | cons c d ih =>
    have hc := hn c List.mem_cons_self
    have ih := @ih fun e he => hn e (List.mem_cons_of_mem c he)
    cases s with
    | nil => simp
    | cons x t =>
      cases hx : comment? rules (x :: t) with
      | some l =>
        have hxc : c ≠ x := by
          rintro rfl
          rw [comment?_eq_none_iff.2 (hc.opensComment _)] at hx
          cases hx
        have hsp : c ≠ ' ' := by
          rintro rfl
          exact absurd hc.1 (by decide)
        simp [spaceComments_comment hx, hxc, hsp]
      | none =>
        cases hq : quotedRun? rules (x :: t) with
        | some l =>
          obtain ⟨q, t', hq', ht, rfl⟩ := exists_quote_of_quotedRun? hq
          obtain ⟨rfl, rfl⟩ := List.cons.inj ht
          have hxc : c ≠ x := by
            rintro rfl
            rw [hc.2.1] at hq'
            cases hq'
          rw [spaceComments_quoted hq]
          simp [hxc]
        | none =>
          rw [spaceComments_plain (comment?_eq_none_iff.1 hx) (quotedRun?_eq_none_iff.1 hq),
            List.cons_prefix_cons, List.cons_prefix_cons, ih]

/-- Where cutting finds no delimiter, it finds none once the comments are spaces. -/
theorem not_prefix_spaceComments (hd : delimiter ≠ []) (hn : ∀ c ∈ delimiter, IsNeutral c)
    {s : List Char} (h : ¬ (delimiter ≠ [] ∧ delimiter.isPrefixOf s = true)) :
    ¬ delimiter <+: spaceComments rules s := by
  rw [prefix_spaceComments_iff hn]
  exact fun hp => h ⟨hd, List.isPrefixOf_iff_prefix.2 hp⟩

/-! ## Pieces of the text behind a lexeme -/

theorem spaceComments_comment_append {s v : List Char} {l : Lexeme} (h : comment? rules s = some l)
    (hv : v = [] ∨ v.head? = l.rest.head?) :
    spaceComments rules (l.text ++ v) = ' ' :: spaceComments rules v := by
  obtain ⟨closed, hc⟩ := comment?_front h hv
  exact spaceComments_comment hc

theorem spaceComments_quoted_append {s v : List Char} {l : Lexeme} (h : quotedRun? rules s = some l)
    (hv : v = [] ∨ v.head? = l.rest.head?) :
    spaceComments rules (l.text ++ v) = l.text ++ spaceComments rules v :=
  spaceComments_quoted (quotedRun?_front h hv)

theorem spaceComments_plain_append {c : Char} {t v : List Char}
    (hc : opensComment rules c t.head? = false) (hq : isQuote c = false)
    (hv : v = [] ∨ v.head? = t.head?) :
    spaceComments rules (c :: v) = c :: spaceComments rules v :=
  spaceComments_plain (opensComment_front hc hv) hq

/-! ## Cutting a text without comments -/

/-- Cutting commutes with writing spaces for comments. -/
theorem cut_spaceComments (hd : delimiter ≠ []) (hn : ∀ c ∈ delimiter, IsNeutral c)
    (s : List Char) :
    cut rules delimiter (spaceComments rules s) =
      (spaceComments rules (cut rules delimiter s).1,
        (cut rules delimiter s).2.map (spaceComments rules)) := by
  -- on the cuts of the text: its comments and quoted runs stand in front of the same rest
  fun_induction cut rules delimiter s with
  | case1 => simp [cut]
  | case2 c t hp more ih =>
    obtain ⟨u, hu⟩ := List.isPrefixOf_iff_prefix.1 hp.2
    have hdrop : (c :: t).drop delimiter.length = u := by rw [← hu, List.drop_left]
    simp only [more]
    rw [hdrop] at ih ⊢
    rw [← hu, spaceComments_neutral_append hn, cut_delimiter hd, ih]
    simp
  | case3 c t hp l hc more ih =>
    have hsp : ¬ delimiter <+: spaceComments rules (c :: t) :=
      not_prefix_spaceComments hd hn hp
    rw [spaceComments_comment hc] at hsp ⊢
    rw [cut_plain hsp (opensComment_eq_false_of_isBlank (by decide) _) (by decide), ih,
      spaceComments_comment_append hc (cut_fst_eq_nil_or_head? rules delimiter l.rest)]
  | case4 c t hp hc l hq more ih =>
    have hsp : ¬ delimiter <+: spaceComments rules (c :: t) :=
      not_prefix_spaceComments hd hn hp
    rw [spaceComments_quoted hq] at hsp ⊢
    rw [cut_quoted hsp (quotedRun?_spaceComments hq), ih,
      spaceComments_quoted_append hq (cut_fst_eq_nil_or_head? rules delimiter l.rest)]
  | case5 c t hp hc hq more ih =>
    have hsp : ¬ delimiter <+: spaceComments rules (c :: t) :=
      not_prefix_spaceComments hd hn hp
    have hc := comment?_eq_none_iff.1 hc
    have hq := quotedRun?_eq_none_iff.1 hq
    rw [spaceComments_plain hc hq] at hsp ⊢
    rw [cut_plain hsp (opensComment_spaceComments hc) hq, ih,
      spaceComments_plain_append hc hq (cut_fst_eq_nil_or_head? rules delimiter t)]

theorem pieces_spaceComments (hd : delimiter ≠ []) (hn : ∀ c ∈ delimiter, IsNeutral c)
    (s : List Char) :
    pieces rules delimiter (spaceComments rules s) =
      (pieces rules delimiter s).map (spaceComments rules) := by
  unfold pieces
  rw [cut_spaceComments hd hn]
  rfl

/-! ## Blanks at the ends of a script -/

variable {blanks : List Char}

theorem prefix_of_prefix_append_blanks (hn : ∀ c ∈ delimiter, IsNeutral c)
    (hb : ∀ c ∈ blanks, isBlank c = true) {s : List Char} (h : delimiter <+: s ++ blanks) :
    delimiter <+: s := by
  rcases List.prefix_or_prefix_of_prefix h (List.prefix_append s blanks) with hs | ⟨t, rfl⟩
  · exact hs
  · cases t with
    | nil => simp
    | cons c t =>
      have ht : c :: t <+: blanks := (List.prefix_append_right_inj s).1 h
      have hc := hb c (ht.subset List.mem_cons_self)
      rw [(hn c (by simp)).1] at hc
      cases hc

theorem not_prefix_append_blanks (hd : delimiter ≠ []) (hn : ∀ c ∈ delimiter, IsNeutral c)
    (hb : ∀ c ∈ blanks, isBlank c = true) {s : List Char}
    (h : ¬ (delimiter ≠ [] ∧ delimiter.isPrefixOf s = true)) : ¬ delimiter <+: s ++ blanks :=
  fun hp => h ⟨hd, List.isPrefixOf_iff_prefix.2 (prefix_of_prefix_append_blanks hn hb hp)⟩

theorem cut_blanks_append (hd : delimiter ≠ []) (hn : ∀ c ∈ delimiter, IsNeutral c)
    (hb : ∀ c ∈ blanks, isBlank c = true) (s : List Char) :
    cut rules delimiter (blanks ++ s) =
      (blanks ++ (cut rules delimiter s).1, (cut rules delimiter s).2) := by
  induction blanks with
  | nil => rfl
  | cons c blanks ih =>
    have hc : isBlank c = true := hb c List.mem_cons_self
    have hp : ¬ delimiter <+: c :: (blanks ++ s) := by
      obtain ⟨x, d, rfl⟩ := List.exists_cons_of_ne_nil hd
      rw [List.cons_prefix_cons]
      rintro ⟨rfl, -⟩
      rw [(hn x List.mem_cons_self).1] at hc
      cases hc
    rw [List.cons_append, cut_plain hp (opensComment_eq_false_of_isBlank hc _)
      (isQuote_eq_false_of_isBlank hc), ih fun e he => hb e (List.mem_cons_of_mem c he)]
    rfl

/-- The two lists of pieces are the same but for `t` behind the last piece of the second. -/
def ExtendsLast (t : List Char) (ps qs : List (List Char)) : Prop :=
  ∃ front last, ps = front ++ [last] ∧ qs = front ++ [last ++ t]

theorem ExtendsLast.cons {t p : List Char} {ps qs : List (List Char)} (h : ExtendsLast t ps qs) :
    ExtendsLast t (p :: ps) (p :: qs) := by
  obtain ⟨front, last, rfl, rfl⟩ := h
  exact ⟨p :: front, last, rfl, rfl⟩

theorem extendsLast_singleton (t p : List Char) : ExtendsLast t [p] [p ++ t] :=
  ⟨[], p, rfl, rfl⟩

theorem ExtendsLast.append_left {t p q : List Char} {ps qs : List (List Char)}
    (h : ExtendsLast t (p :: ps) (q :: qs)) (u : List Char) :
    ExtendsLast t ((u ++ p) :: ps) ((u ++ q) :: qs) := by
  obtain ⟨front, last, hp, hq⟩ := h
  cases front with
  | nil =>
    simp only [List.nil_append, List.cons.injEq] at hp hq
    obtain ⟨rfl, rfl⟩ := hp
    obtain ⟨rfl, rfl⟩ := hq
    exact ⟨[], u ++ p, rfl, by simp⟩
  | cons r front =>
    simp only [List.cons_append, List.cons.injEq] at hp hq
    obtain ⟨rfl, rfl⟩ := hp
    obtain ⟨rfl, rfl⟩ := hq
    exact ⟨_ :: front, last, rfl, rfl⟩

/-- Blanks behind a script belong to its last piece. -/
theorem extendsLast_pieces (hd : delimiter ≠ []) (hn : ∀ c ∈ delimiter, IsNeutral c)
    (hb : ∀ c ∈ blanks, isBlank c = true) (s : List Char) :
    ExtendsLast blanks (pieces rules delimiter s) (pieces rules delimiter (s ++ blanks)) := by
  have hblanks : ∀ {t : List Char}, (∀ c ∈ t, isBlank c = true) →
      cut rules delimiter t = (t, []) := by
    intro t ht
    have h : cut rules delimiter (t ++ []) = _ := cut_blanks_append hd hn ht []
    simpa [cut] using h
  unfold pieces
  fun_induction cut rules delimiter s with
  | case1 => exact ⟨[], [], by simp, by simp [hblanks hb]⟩
  | case2 c t hp more ih =>
    obtain ⟨u, hu⟩ := List.isPrefixOf_iff_prefix.1 hp.2
    have hdrop : (c :: t).drop delimiter.length = u := by rw [← hu, List.drop_left]
    simp only [more]
    rw [hdrop] at ih ⊢
    rw [← hu, List.append_assoc, cut_delimiter hd]
    exact ih.cons
  | case3 c t hp l hc more ih =>
    have hp := not_prefix_append_blanks hd hn hb hp
    obtain ⟨l', hl', rfl | ⟨hr, hrest⟩⟩ := exists_comment?_append hb hc
    · rw [cut_comment hp hl']
      exact ih.append_left l.text
    · -- the comment ends the script, and takes the blanks in where it is open
      have ht := comment?_append hc
      rw [hr, List.append_nil] at ht
      simp only [more, hr, cut, List.append_nil]
      rw [cut_comment hp hl', hblanks hrest, comment?_append hl', ht]
      exact extendsLast_singleton _ _
  | case4 c t hp hc l hq more ih =>
    have hp := not_prefix_append_blanks hd hn hb hp
    obtain ⟨l', hl', rfl | ⟨hr, hrest⟩⟩ := exists_quotedRun?_append hb hq
    · rw [cut_quoted hp hl']
      exact ih.append_left l.text
    · have ht := quotedRun?_append hq
      rw [hr, List.append_nil] at ht
      simp only [more, hr, cut, List.append_nil]
      rw [cut_quoted hp hl', hblanks hrest, quotedRun?_append hl', ht]
      exact extendsLast_singleton _ _
  | case5 c t hp hc hq more ih =>
    have hp : ¬ delimiter <+: c :: (t ++ blanks) := not_prefix_append_blanks hd hn hb hp
    have hc := opensComment_append_blanks hb (comment?_eq_none_iff.1 hc)
    rw [List.cons_append, cut_plain hp hc (quotedRun?_eq_none_iff.1 hq)]
    exact ih.append_left [c]

/-! ## Statements -/

theorem ExtendsLast.map_strip (hb : ∀ c ∈ blanks, isBlank c = true) {ps qs : List (List Char)}
    (h : ExtendsLast blanks ps qs) : qs.map (strip rules) = ps.map (strip rules) := by
  obtain ⟨front, last, rfl, rfl⟩ := h
  simp [strip_append_right hb]

/-- The stripped pieces of a text without blanks at its ends are those of the text. -/
theorem map_strip_pieces_trim (hd : delimiter ≠ []) (hn : ∀ c ∈ delimiter, IsNeutral c)
    (s : List Char) :
    (pieces rules delimiter (trim isBlank s)).map (strip rules) =
      (pieces rules delimiter s).map (strip rules) := by
  obtain ⟨t, u, ht, hu, hs⟩ := exists_trim isBlank s
  conv_rhs => rw [hs, pieces, cut_blanks_append hd hn ht]
  rw [List.map_cons, strip_append_left ht, ← List.map_cons]
  exact ((extendsLast_pieces hd hn hu _).map_strip hu).symm

/-- The stripped pieces of a stripped script are those of the script. -/
theorem map_strip_pieces_strip (hd : delimiter ≠ []) (hn : ∀ c ∈ delimiter, IsNeutral c)
    (s : List Char) :
    (pieces rules delimiter (strip rules s)).map (strip rules) =
      (pieces rules delimiter s).map (strip rules) := by
  rw [strip, map_strip_pieces_trim hd hn, pieces_spaceComments hd hn, List.map_map]
  exact List.map_congr_left fun p _ => strip_spaceComments p

/-- The stripped statements of a script are its stripped pieces, those that are empty left out. -/
theorem map_stripped_statements (delimiter script : String) :
    (statements rules delimiter script).map rules.stripped =
      (((pieces rules delimiter.toList script.toList).map (strip rules)).filter
        fun p => !p.isEmpty).map String.ofList := by
  have hstrip : ∀ p, strip rules (trim isSpace p) = strip rules p :=
    fun p => strip_trim (fun _ h => isBlank_of_isSpace h) p
  unfold statements LexicalRules.stripped
  rw [List.filter_map, List.filter_map, List.map_map, List.map_map, List.map_map]
  simp only [Function.comp_def, holdsStatement, hstrip, String.toList_ofList]

/-- Splitting commutes with the removal of comments: a stripped script holds the same statements
as the script, in the same order, once each of them is stripped. -/
theorem statements_stripped (rules : LexicalRules) (delimiter script : String)
    (hd : delimiter ≠ "") (hn : ∀ c ∈ delimiter.toList, IsNeutral c) :
    (statements rules delimiter (rules.stripped script)).map rules.stripped =
      (statements rules delimiter script).map rules.stripped := by
  have hd : delimiter.toList ≠ [] := by simpa using hd
  rw [map_stripped_statements, map_stripped_statements, toList_stripped,
    map_strip_pieces_strip hd hn]

/-- Delimiters in a comment and in a quoted run, on either side of one that splits. -/
theorem statements_stripped_dollars :
    (statements {} "$$" (LexicalRules.stripped {} "/* $$ */ use a $$ select '$$'")).map
      (LexicalRules.stripped {}) = ["use a", "select '$$'"] := by
  have hn : ∀ c ∈ "$$".toList, IsNeutral c := by
    intro c hc
    obtain rfl : c = '$' := by simpa using hc
    exact ⟨by decide, by decide, by decide⟩
  rw [statements_stripped {} "$$" _ (by decide) hn]
  cbv

end SqlTriage.Script

import SqlTriage.Proofs.Lexical.TokenStream

/-!
# Gaps between tokens

A gap is any sequence of blanks and closed comments.  Stripping turns it into blanks
(`exists_spaceComments_gap`), whatever its comments hold, so that a gap at the front of a text is
lost (`strip_gap_append`), and behind a blank at top level it separates only what was separated
already (`map_text_tokens_insert`).
-/

namespace SqlTriage.Lexical

open SqlTriage.Text

variable {rules : LexicalRules}

/-! ## Closed comments -/

/-- A comment together with what ends it: a block comment up to its first `*/`, or a line comment
with the character that ends its line. -/
inductive ClosedComment (rules : LexicalRules) : List Char → Prop
  | block (body : List Char) (h : ¬ ['*', '/'] <:+: body ++ ['*']) :
    ClosedComment rules (['/', '*'] ++ (body ++ ['*', '/']))
  | line (opener body : List Char) (stop : Char) (ho : opener ∈ rules.lineOpeners)
    (hb : ∀ c ∈ body, isLineEnd c = false) (hs : isLineEnd stop = true) :
    ClosedComment rules (opener ++ (body ++ [stop]))

/-- A sequence of blanks and closed comments. -/
inductive Gap (rules : LexicalRules) : List Char → Prop
  | nil : Gap rules []
  | blank {c : Char} {g : List Char} (hc : isBlank c = true) (hg : Gap rules g) :
    Gap rules (c :: g)
  | comment {t g : List Char} (ht : ClosedComment rules t) (hg : Gap rules g) :
    Gap rules (t ++ g)

theorem blockTail_body {body : List Char} (h : ¬ ['*', '/'] <:+: body ++ ['*'])
    (v : List Char) : blockTail (body ++ '*' :: '/' :: v) = ⟨body ++ ['*', '/'], true, v⟩ := by
  induction body with
  | nil => simp [blockTail]
  | cons c body ih =>
    have hbody : ¬ ['*', '/'] <:+: body ++ ['*'] := by
      intro hi
      apply h
      exact hi.trans (List.suffix_cons c _).isInfix
    obtain ⟨d, s, hds⟩ : ∃ d s, body ++ '*' :: '/' :: v = d :: s :=
      List.exists_cons_of_ne_nil (by simp)
    have hc : ¬ (c = '*' ∧ d = '/') := by
      rintro ⟨rfl, rfl⟩
      apply h
      cases body with
      | nil => simp at hds
      | cons d body =>
        obtain rfl : d = '/' := (List.cons.inj hds).1
        exact ⟨[], body ++ ['*'], by simp⟩
    have ih := ih hbody
    rw [hds] at ih
    rw [List.cons_append, hds, blockTail, if_neg hc, ih]
    rfl

/-- Stripping turns a closed comment into blanks, whatever follows it. -/
theorem exists_spaceComments_closedComment {t : List Char} (ht : ClosedComment rules t) :
    ∃ blanks, (∀ c ∈ blanks, isBlank c = true) ∧
      ∀ v, spaceComments rules (t ++ v) = blanks ++ spaceComments rules v := by
  cases ht with
  | block body h =>
    have hspace : isBlank ' ' = true := by decide
    refine ⟨[' '], by simpa using hspace, ?_⟩
    intro v
    have hcom : comment? rules ('/' :: '*' :: (body ++ '*' :: '/' :: v)) =
        some ⟨'/' :: '*' :: (body ++ ['*', '/']), true, v⟩ := by
      rw [comment?_block, blockTail_body h]
      rfl
    have htext : ['/', '*'] ++ (body ++ ['*', '/']) ++ v =
        '/' :: '*' :: (body ++ '*' :: '/' :: v) := by simp
    rw [htext, spaceComments_comment hcom]
    rfl
  | line opener body stop ho hb hs =>
    have hstop : isBlank stop = true := isBlank_of_isLineEnd hs
    refine ⟨[' ', stop], by simpa using ⟨by decide, hstop⟩, ?_⟩
    intro v
    have hhead : ∀ c, (stop :: v).head? = some c → isLineEnd c = true := by
      intro c hc
      cases hc
      exact hs
    have hcom : comment? rules (opener ++ (body ++ stop :: v)) =
        some ⟨opener ++ body, true, stop :: v⟩ := by
      rw [comment?_line ho, lineTail_replace hb hhead]
      rfl
    have htext : opener ++ (body ++ [stop]) ++ v = opener ++ (body ++ stop :: v) := by simp
    rw [htext, spaceComments_comment hcom]
    change ' ' :: spaceComments rules ([stop] ++ v) = _
    rw [spaceComments_blanks_append (by simpa using hstop)]
    rfl

/-- Stripping turns a gap into blanks, whatever follows it. -/
theorem exists_spaceComments_gap {g : List Char} (hg : Gap rules g) :
    ∃ blanks, (∀ c ∈ blanks, isBlank c = true) ∧
      ∀ v, spaceComments rules (g ++ v) = blanks ++ spaceComments rules v := by
  induction hg with
  | nil => exact ⟨[], by simp, fun v => rfl⟩
  | @blank c g hc hg ih =>
    obtain ⟨blanks, hb, ih⟩ := ih
    refine ⟨c :: blanks, by simpa [hc] using hb, fun v => ?_⟩
    change spaceComments rules ([c] ++ (g ++ v)) = _
    rw [spaceComments_blanks_append (by simpa using hc), ih]
    rfl
  | @comment t g ht hg ih =>
    obtain ⟨front, hf, ht⟩ := exists_spaceComments_closedComment ht
    obtain ⟨blanks, hb, ih⟩ := ih
    refine ⟨front ++ blanks, ?_, fun v => ?_⟩
    · exact List.forall_mem_append.2 ⟨hf, hb⟩
    · rw [List.append_assoc, ht, ih, List.append_assoc]

/-- A gap in front of a text does not change its stripped form. -/
theorem strip_gap_append {g : List Char} (hg : Gap rules g) (s : List Char) :
    strip rules (g ++ s) = strip rules s := by
  obtain ⟨blanks, hb, h⟩ := exists_spaceComments_gap hg
  rw [strip, h, trim_append_left hb, strip]

/-! ## Gaps behind a blank -/

theorem map_text_tokensOf_blanks {blanks : List Char} (hb : ∀ c ∈ blanks, isBlank c = true)
    (o o' : Nat) (gs : List Segment) :
    (tokensOf o (blanks.map Segment.plain ++ gs)).map Token.text =
      (tokensOf o' gs).map Token.text := by
  rw [tokensOf_blanks_append hb]
  exact map_text_tokensOf _ _ gs

/-- Blanks behind a blank do not change the texts of the tokens. -/
theorem map_text_tokensOf_insert {w : Char} (hw : isBlank w = true) {blanks : List Char}
    (hb : ∀ c ∈ blanks, isBlank c = true) (gs : List Segment) (v : List Char) :
    (tokensOf 0 (gs ++ scan rules (w :: (blanks ++ v)))).map Token.text =
      (tokensOf 0 (gs ++ scan rules (w :: v))).map Token.text := by
  rw [scan_plain_of_isBlank hw, scan_plain_of_isBlank hw, scan_blanks_append hb,
    tokensOf_append_blank hw, tokensOf_append_blank hw, List.map_append, List.map_append]
  exact congrArg _ (map_text_tokensOf_blanks hb _ _ _)

/-- A gap behind a blank at top level does not change the texts of the tokens. -/
theorem map_text_tokens_insert {a b g : List Char} {w : Char} (hw : isBlank w = true)
    (hg : Gap rules g) (h : TopLevel rules a (w :: b)) :
    (tokensFrom rules 0 (strip rules (a ++ w :: (g ++ b)))).map Token.text =
      (tokensFrom rules 0 (strip rules (a ++ w :: b))).map Token.text := by
  obtain ⟨blanks, hb, hgap⟩ := exists_spaceComments_gap hg
  obtain ⟨gs, rfl, hgs⟩ := topLevel_iff.1 h
  have hw' : ∀ c ∈ [w], isBlank c = true := by simpa using hw
  have hspace : ∀ v, spaceComments rules (textOf gs ++ w :: v) =
      textOf (gs.map Segment.blanked) ++ w :: spaceComments rules v := by
    intro v
    rw [spaceComments_replace hgs (v := w :: v) rfl]
    exact congrArg _ (spaceComments_blanks_append hw' v)
  have hscan : ∀ v, scan rules (textOf (gs.map Segment.blanked) ++ w :: v) =
      gs.map Segment.blanked ++ scan rules (w :: v) := by
    intro v
    refine scan_replace (scan_blanked hgs) ?_
    rw [show spaceComments rules (w :: b) = w :: spaceComments rules b from
      spaceComments_blanks_append hw' b]
    rfl
  rw [map_text_tokensFrom_strip, map_text_tokensFrom_strip, hspace, hspace, hgap]
  by_cases hend : (spaceComments rules b).rdropWhile isBlank = []
  · -- what stands behind the place is blank, so that both texts are cut off before it
    have hblank := List.rdropWhile_eq_nil_iff.1 hend
    have hleft : ∀ c ∈ w :: (blanks ++ spaceComments rules b), isBlank c = true :=
      List.forall_mem_cons.2 ⟨hw, List.forall_mem_append.2 ⟨hb, hblank⟩⟩
    have hright : ∀ c ∈ w :: spaceComments rules b, isBlank c = true :=
      List.forall_mem_cons.2 ⟨hw, hblank⟩
    rw [rdropWhile_append_of_pos hleft, rdropWhile_append_of_pos hright]
  · have hcut : ∀ u,
        (textOf (gs.map Segment.blanked) ++ w :: (u ++ spaceComments rules b)).rdropWhile isBlank =
        textOf (gs.map Segment.blanked) ++
          w :: (u ++ (spaceComments rules b).rdropWhile isBlank) := by
      intro u
      have hcut := rdropWhile_append_of_ne hend (textOf (gs.map Segment.blanked) ++ w :: u)
      simpa using hcut
    have hcut₀ := hcut []
    rw [List.nil_append, List.nil_append] at hcut₀
    rw [hcut, hcut₀, hscan, hscan]
    exact map_text_tokensOf_insert hw hb _ _

end SqlTriage.Lexical

import SqlTriage.Lexical.Token
import SqlTriage.Proofs.Lexical.Trim

/-!
# Tokens as a function of segments

The tokens of a text without comments depend on its segments only (`tokensFrom_eq`), and stripped
texts hold no comments (`isUncommented_strip`).  On segments there is no lookahead, so the
tokens of a text are those of its parts wherever no word runs across the seam
(`tokensOf_append`).  Every token stands in the text at its offset (`standsIn_of_mem_tokensOf`).
-/

namespace SqlTriage.Lexical

open SqlTriage.Text

variable {rules : LexicalRules}

/-- Whether a segment is a comment. -/
def Segment.isComment : Segment → Bool
  | comment _ _ => true
  | _ => false

/-- Whether a segment belongs to a word. -/
def Segment.inWord : Segment → Bool
  | comment _ _ => false
  | quoted _ _ => true
  | plain c => !(isBlank c || isPunctuation c)

/-- Whether a segment is a token of one character. -/
def Segment.isMark : Segment → Bool
  | plain c => !isBlank c && isPunctuation c
  | _ => false

/-- The tokens of segments of which the first stands at the given byte offset. -/
def tokensOf (offset : Nat) (gs : List Segment) : List Token :=
  match gs with
  | [] => []
  | g :: gs =>
    if g.inWord then
      let w := g.text ++ textOf (gs.takeWhile Segment.inWord)
      ⟨String.ofList w, offset⟩ :: tokensOf (offset + byteLength w) (gs.dropWhile Segment.inWord)
    else if g.isMark then
      ⟨String.ofList g.text, offset⟩ :: tokensOf (offset + byteLength g.text) gs
    else tokensOf (offset + byteLength g.text) gs
termination_by gs.length
decreasing_by
  · exact Nat.lt_succ_of_le (List.dropWhile_sublist _).length_le
  · exact Nat.lt_succ_self _
  · exact Nat.lt_succ_self _

/-- The token at another place. -/
def Token.shift (n : Nat) (t : Token) : Token :=
  { t with offset := t.offset + n }

/-! ## Texts without comments -/

/-- The text is scanned into quoted runs and characters. -/
def IsUncommented (rules : LexicalRules) (s : List Char) : Prop :=
  ∀ g ∈ scan rules s, g.isComment = false

theorem isComment_blanked (g : Segment) : g.blanked.isComment = false := by
  cases g <;> rfl

theorem isUncommented_spaceComments (s : List Char) :
    IsUncommented rules (spaceComments rules s) := by
  intro g hg
  rw [scan_spaceComments] at hg
  obtain ⟨g, -, rfl⟩ := List.mem_map.1 hg
  exact isComment_blanked g

theorem IsUncommented.comment?_eq_none {s : List Char} (h : IsUncommented rules s) :
    comment? rules s = none := by
  cases hc : comment? rules s with
  | none => rfl
  | some l =>
    rw [IsUncommented, scan_comment hc] at h
    exact absurd (h _ List.mem_cons_self) (by simp [Segment.isComment])

theorem IsUncommented.of_scan_cons {s t : List Char} {g : Segment} (h : IsUncommented rules s)
    (hs : scan rules s = g :: scan rules t) : IsUncommented rules t := by
  rw [IsUncommented, hs] at h
  exact fun g' hg => h g' (List.mem_cons_of_mem g hg)

theorem IsUncommented.of_blanks_append {blanks s : List Char} (hb : ∀ c ∈ blanks, isBlank c = true)
    (h : IsUncommented rules (blanks ++ s)) : IsUncommented rules s := by
  rw [IsUncommented, scan_blanks_append hb] at h
  exact fun g hg => h g (List.mem_append_right _ hg)

theorem IsUncommented.of_append_blanks {blanks : List Char} (hb : ∀ c ∈ blanks, isBlank c = true)
    {s : List Char} (h : IsUncommented rules (s ++ blanks)) : IsUncommented rules s := by
  unfold IsUncommented at h ⊢
  fun_induction scan rules s with
  | case1 => simp
  | case2 c t l hc ih =>
    obtain ⟨l', hl', -⟩ := exists_comment?_append hb hc
    rw [IsUncommented.comment?_eq_none h] at hl'
    cases hl'
  | case3 c t hc l hq ih =>
    obtain ⟨l', hl', rfl | ⟨hr, -⟩⟩ := exists_quotedRun?_append hb hq
    · rw [scan_quoted hl'] at h
      simp only [List.mem_cons, forall_eq_or_imp] at h ⊢
      exact ⟨rfl, ih h.2⟩
    · simp [hr, Segment.isComment]
  | case4 c t hc hq ih =>
    have hc := opensComment_append_blanks hb (comment?_eq_none_iff.1 hc)
    rw [List.cons_append, scan_plain hc (quotedRun?_eq_none_iff.1 hq)] at h
    simp only [List.mem_cons, forall_eq_or_imp] at h ⊢
    exact ⟨rfl, ih h.2⟩

/-- A stripped text holds no comments. -/
theorem isUncommented_strip (s : List Char) : IsUncommented rules (strip rules s) := by
  obtain ⟨t, u, ht, hu, hs⟩ := exists_trim isBlank (spaceComments rules s)
  have h : IsUncommented rules (spaceComments rules s) := isUncommented_spaceComments s
  rw [hs] at h
  exact (h.of_blanks_append ht).of_append_blanks hu

theorem IsUncommented.spaceComments {s : List Char} (h : IsUncommented rules s) :
    spaceComments rules s = s := by
  have hblanked : ∀ g ∈ scan rules s, g.blanked = g := by
    intro g hg
    have hcom := h g hg
    cases g with
    | comment t closed => cases hcom
    | quoted t closed => rfl
    | plain c => rfl
  rw [spaceComments_eq, List.map_congr_left hblanked, List.map_id', textOf_scan]

/-- The stripped texts are those without comments and without blanks at their ends. -/
theorem strip_eq_self_iff {s : List Char} :
    strip rules s = s ↔ IsUncommented rules s ∧ s.head?.any isBlank = false ∧
      s.getLast?.any isBlank = false := by
  constructor
  · intro h
    rw [← h]
    exact ⟨isUncommented_strip s, any_head?_trim isBlank _, any_getLast?_trim isBlank _⟩
  · rintro ⟨hcom, hhead, hlast⟩
    rw [strip, hcom.spaceComments, trim_eq_self hhead hlast]

/-- A segment that is no comment is scanned as it is where it stands alone. -/
theorem scan_text_of_mem {s : List Char} {g : Segment} (h : g ∈ scan rules s)
    (hg : g.isComment = false) : scan rules g.text = [g] := by
  obtain ⟨t, gs, ht⟩ := exists_scan_eq_cons_of_mem h
  rcases scan_eq_cons_cases ht with ⟨l, -, rfl, -⟩ | ⟨l, hl, rfl, -⟩ | ⟨c, u, -, hc, hq, rfl, -⟩
  · cases hg
  · have halone := quotedRun?_front hl (Or.inl rfl)
    rw [List.append_nil] at halone
    show scan rules l.text = _
    rw [scan_quoted halone, scan_nil]
  · show scan rules [c] = _
    rw [scan_plain (opensComment_eq_false_of_next hc (by decide) (by decide)) hq, scan_nil]

/-- Neighbouring segments without comments are scanned as they are where they stand alone. -/
theorem scan_textOf_of_uncommented {s : List Char} {ks gs hs : List Segment}
    (h : scan rules s = ks ++ (gs ++ hs)) (hcom : ∀ g ∈ gs, g.isComment = false) :
    scan rules (textOf gs) = gs := by
  refine scan_textOf_of_last (scan_textOf_of_append h) fun ls g hg => ?_
  subst hg
  exact scan_text_of_mem (s := s) (by rw [h]; simp) (hcom g (by simp))

/-! ## The tokens of a scan -/

theorem word_quoted {s : List Char} {l : Lexeme} (h : quotedRun? rules s = some l) :
    word rules s = (l.text ++ (word rules l.rest).1, (word rules l.rest).2) := by
  cases s with
  | nil => simp [quotedRun?] at h
  | cons c t =>
    rw [word]
    split
    · rename_i l' hl
      obtain rfl : l' = l := Option.some.inj (hl.symm.trans h)
      rfl
    · simp_all

theorem word_plain {c : Char} (hq : isQuote c = false) (t : List Char) :
    word rules (c :: t) =
      if isBlank c || isPunctuation c then ([], c :: t)
      else (c :: (word rules t).1, (word rules t).2) := by
  have hnone : quotedRun? rules (c :: t) = none := quotedRun?_eq_none_iff.2 hq
  rw [word]
  split
  · simp_all
  · rfl

theorem word_eq {s : List Char} (h : IsUncommented rules s) :
    (word rules s).1 = textOf ((scan rules s).takeWhile Segment.inWord) ∧
      scan rules (word rules s).2 = (scan rules s).dropWhile Segment.inWord := by
  fun_induction word rules s with
  | case1 => simp
  | case2 c t l hq more ih =>
    obtain ⟨h₁, h₂⟩ := ih (h.of_scan_cons (scan_quoted hq))
    rw [scan_quoted hq]
    simp [more, h₁, h₂, List.takeWhile_cons, List.dropWhile_cons, Segment.inWord, Segment.text]
  | case3 c t hq hc =>
    have hcom := comment?_eq_none_iff.1 h.comment?_eq_none
    rw [scan_plain hcom (quotedRun?_eq_none_iff.1 hq)]
    have hw : (Segment.plain c).inWord = false := by rw [Segment.inWord, hc, Bool.not_true]
    simp [hw]
  | case4 c t hq hc more ih =>
    have hcom := comment?_eq_none_iff.1 h.comment?_eq_none
    have hscan := scan_plain hcom (quotedRun?_eq_none_iff.1 hq)
    obtain ⟨h₁, h₂⟩ := ih (h.of_scan_cons hscan)
    rw [hscan]
    have hw : (Segment.plain c).inWord = true := by simpa [Segment.inWord] using hc
    simp [more, h₁, h₂, hw, Segment.text]

theorem isQuote_eq_false_of_isPunctuation {c : Char} (h : isPunctuation c = true) :
    isQuote c = false := by
  have hall : (punctuation.all fun d => !isQuote d) = true := by decide
  have hc : c ∈ punctuation := List.contains_iff_mem.1 h
  simpa using List.all_eq_true.1 hall c hc

/-- What begins with neither a blank nor punctuation begins with a part of a word. -/
theorem exists_inWord_of_scan {c : Char} {t : List Char} (hb : isBlank c = false)
    (hp : isPunctuation c = false) (h : IsUncommented rules (c :: t)) :
    ∃ g gs, scan rules (c :: t) = g :: gs ∧ g.inWord = true := by
  have hc := comment?_eq_none_iff.1 h.comment?_eq_none
  cases hq : quotedRun? rules (c :: t) with
  | some l => exact ⟨_, _, scan_quoted hq, rfl⟩
  | none =>
    refine ⟨_, _, scan_plain hc (quotedRun?_eq_none_iff.1 hq), ?_⟩
    simp [Segment.inWord, hb, hp]

/-- The tokens of a text without comments are read off its segments. -/
theorem tokensFrom_eq {s : List Char} (h : IsUncommented rules s) (o : Nat) :
    tokensFrom rules o s = tokensOf o (scan rules s) := by
  fun_induction tokensFrom rules o s with
  | case1 => simp [tokensOf]
  | case2 o c t hb ih =>
    have hscan : scan rules (c :: t) = .plain c :: scan rules t := scan_plain_of_isBlank hb t
    rw [hscan, tokensOf, ih (h.of_scan_cons hscan)]
    simp [Segment.inWord, Segment.isMark, Segment.text, hb, byteLength]
  | case3 o c t hb hp ih =>
    have hcom := comment?_eq_none_iff.1 h.comment?_eq_none
    have hscan := scan_plain hcom (isQuote_eq_false_of_isPunctuation hp)
    rw [hscan, tokensOf, ih (h.of_scan_cons hscan)]
    simp [Segment.inWord, Segment.isMark, Segment.text, hb, hp, byteLength]
  | case4 o c t hb hp w ih =>
    obtain ⟨g, gs, hscan, hg⟩ := exists_inWord_of_scan (by simpa using hb) (by simpa using hp) h
    obtain ⟨h₁, h₂⟩ := word_eq h
    have hrest : IsUncommented rules w.2 := by
      intro g hg
      rw [h₂] at hg
      exact h g ((List.dropWhile_sublist _).subset hg)
    rw [ih hrest, h₂, h₁, hscan, tokensOf, if_pos hg, List.takeWhile_cons_of_pos hg,
      List.dropWhile_cons_of_pos hg, textOf_cons]

/-! ## Parts and places -/

@[simp] theorem tokensOf_nil (o : Nat) : tokensOf o [] = [] := by rw [tokensOf]

theorem tokensOf_word {g : Segment} (hg : g.inWord = true) (o : Nat) (gs : List Segment) :
    tokensOf o (g :: gs) =
      ⟨String.ofList (g.text ++ textOf (gs.takeWhile Segment.inWord)), o⟩ ::
        tokensOf (o + byteLength (g.text ++ textOf (gs.takeWhile Segment.inWord)))
          (gs.dropWhile Segment.inWord) := by
  rw [tokensOf, if_pos hg]

theorem tokensOf_mark {g : Segment} (hg : g.inWord = false) (hm : g.isMark = true) (o : Nat)
    (gs : List Segment) :
    tokensOf o (g :: gs) = ⟨String.ofList g.text, o⟩ :: tokensOf (o + byteLength g.text) gs := by
  rw [tokensOf, if_neg (by simp [hg]), if_pos hm]

theorem tokensOf_skip {g : Segment} (hg : g.inWord = false) (hm : g.isMark = false) (o : Nat)
    (gs : List Segment) : tokensOf o (g :: gs) = tokensOf (o + byteLength g.text) gs := by
  rw [tokensOf, if_neg (by simp [hg]), if_neg (by simp [hm])]

/-- Tokens further on in a text are the same tokens, shifted. -/
theorem tokensOf_add (o n : Nat) (gs : List Segment) :
    tokensOf (o + n) gs = (tokensOf o gs).map (Token.shift n) := by
  fun_induction tokensOf o gs with
  | case1 => simp
  | case2 o g gs hg w ih =>
    rw [tokensOf_word hg, List.map_cons, ← ih, Nat.add_right_comm]
    rfl
  | case3 o g gs hg hm ih =>
    rw [tokensOf_mark (by simpa using hg) hm, List.map_cons, ← ih, Nat.add_right_comm]
    rfl
  | case4 o g gs hg hm ih =>
    rw [tokensOf_skip (by simpa using hg) (by simpa using hm), ← ih, Nat.add_right_comm]

/-- Whether a word may run across the seam between two lists of segments. -/
def Fuses (gs hs : List Segment) : Prop :=
  gs.getLast?.any Segment.inWord = true ∧ hs.head?.any Segment.inWord = true

theorem Fuses.of_cons {g : Segment} {gs hs : List Segment} (h : Fuses gs hs) :
    Fuses (g :: gs) hs := by
  refine ⟨?_, h.2⟩
  have h₁ := h.1
  cases gs with
  | nil => simp at h₁
  | cons g' gs => rwa [List.getLast?_cons_cons]

theorem Fuses.of_append {gs gs' hs : List Segment} (h : Fuses gs' hs) : Fuses (gs ++ gs') hs := by
  induction gs with
  | nil => exact h
  | cons g gs ih => exact ih.of_cons

theorem word_append_of_not_fuses {g : Segment} {gs hs : List Segment} (hg : g.inWord = true)
    (h : ¬ Fuses (g :: gs) hs) :
    (gs ++ hs).takeWhile Segment.inWord = gs.takeWhile Segment.inWord ∧
      (gs ++ hs).dropWhile Segment.inWord = gs.dropWhile Segment.inWord ++ hs := by
  induction gs generalizing g with
  | nil =>
    cases hs with
    | nil => simp
    | cons g' hs =>
      have hg' : ¬ g'.inWord = true := fun hg' => h ⟨by simpa using hg, by simpa using hg'⟩
      simp [hg']
  | cons g' gs ih =>
    by_cases hg' : g'.inWord = true
    · obtain ⟨h₁, h₂⟩ := ih hg' fun hf => h hf.of_cons
      simp [hg', h₁, h₂]
    · simp [hg']

/-- Where no word runs across the seam, the tokens are those of the two parts. -/
theorem tokensOf_append {gs hs : List Segment} (h : ¬ Fuses gs hs) (o : Nat) :
    tokensOf o (gs ++ hs) = tokensOf o gs ++ tokensOf (o + byteLength (textOf gs)) hs := by
  fun_induction tokensOf o gs with
  | case1 => simp [byteLength]
  | case2 o g gs hg w ih =>
    obtain ⟨h₁, h₂⟩ := word_append_of_not_fuses hg h
    have hsplit : gs.takeWhile Segment.inWord ++ gs.dropWhile Segment.inWord = gs :=
      List.takeWhile_append_dropWhile
    -- the seam behind the first word is the same seam
    have hseam : ¬ Fuses (gs.dropWhile Segment.inWord) hs := by
      intro hf
      have hf : Fuses gs hs := hsplit ▸ hf.of_append
      exact h hf.of_cons
    have hlen : byteLength (textOf (g :: gs)) =
        byteLength w + byteLength (textOf (gs.dropWhile Segment.inWord)) := by
      rw [← byteLength_append, List.append_assoc, ← textOf_append, hsplit, textOf_cons]
    rw [List.cons_append, tokensOf_word hg, h₁, h₂, ih hseam, hlen, ← Nat.add_assoc]
    rfl
  | case3 o g gs hg hm ih =>
    rw [List.cons_append, tokensOf_mark (by simpa using hg) hm,
      ih fun hf => h hf.of_cons, textOf_cons, byteLength_append, Nat.add_assoc]
    rfl
  | case4 o g gs hg hm ih =>
    rw [List.cons_append, tokensOf_skip (by simpa using hg) (by simpa using hm),
      ih fun hf => h hf.of_cons, textOf_cons, byteLength_append, Nat.add_assoc]

/-- The token is a part of the text, whose first character has the given offset. -/
def Token.StandsIn (t : Token) (o : Nat) (s : List Char) : Prop :=
  ∃ a b, s = a ++ (t.text.toList ++ b) ∧ t.offset = o + byteLength a

theorem Token.standsIn_front (o : Nat) (w s : List Char) :
    Token.StandsIn ⟨String.ofList w, o⟩ o (w ++ s) :=
  ⟨[], s, by simp, rfl⟩

theorem Token.StandsIn.after {t : Token} {o : Nat} {front s : List Char}
    (h : t.StandsIn (o + byteLength front) s) : t.StandsIn o (front ++ s) := by
  obtain ⟨a, b, rfl, ho⟩ := h
  refine ⟨front ++ a, b, by simp, ?_⟩
  rw [ho, byteLength_append, Nat.add_assoc]

theorem standsIn_of_mem_tokensOf {o : Nat} {gs : List Segment} {t : Token}
    (h : t ∈ tokensOf o gs) : t.StandsIn o (textOf gs) := by
  fun_induction tokensOf o gs with
  | case1 => simp at h
  | case2 o g gs hg w ih =>
    have hsplit : textOf (g :: gs) = w ++ textOf (gs.dropWhile Segment.inWord) := by
      rw [List.append_assoc, ← textOf_append, List.takeWhile_append_dropWhile, textOf_cons]
    rw [hsplit]
    rcases List.mem_cons.1 h with rfl | h
    · exact Token.standsIn_front o w _
    · exact (ih h).after
  | case3 o g gs hg hm ih =>
    rcases List.mem_cons.1 h with rfl | h
    · exact Token.standsIn_front o g.text _
    · exact (ih h).after
  | case4 o g gs hg hm ih => exact (ih h).after

/-! ## Blanks -/

theorem tokensFrom_blanks_append {blanks : List Char} (hb : ∀ c ∈ blanks, isBlank c = true)
    (o : Nat) (s : List Char) :
    tokensFrom rules o (blanks ++ s) = tokensFrom rules (o + byteLength blanks) s := by
  induction blanks generalizing o with
  | nil => rfl
  | cons c blanks ih =>
    have hc : isBlank c = true := hb c List.mem_cons_self
    rw [List.cons_append, tokensFrom, dif_pos hc, ih (fun d hd => hb d (List.mem_cons_of_mem c hd)),
      byteLength, Nat.add_assoc]

/-- A blank separates the tokens before it from those behind it. -/
theorem tokensOf_append_blank {w : Char} (hw : isBlank w = true) (o : Nat)
    (gs hs : List Segment) :
    tokensOf o (gs ++ .plain w :: hs) =
      tokensOf o gs ++ tokensOf (o + byteLength (textOf gs) + w.utf8Size) hs := by
  have hword : (Segment.plain w).inWord = false := by simp [Segment.inWord, hw]
  have hmark : (Segment.plain w).isMark = false := by simp [Segment.isMark, hw]
  have hseam : ¬ Fuses gs (.plain w :: hs) := by
    intro h
    simp [Fuses, hword] at h
  rw [tokensOf_append hseam, tokensOf_skip hword hmark]
  rfl

theorem tokensOf_blanks_append {blanks : List Char} (hb : ∀ c ∈ blanks, isBlank c = true) (o : Nat)
    (gs : List Segment) :
    tokensOf o (blanks.map Segment.plain ++ gs) = tokensOf (o + byteLength blanks) gs := by
  induction blanks generalizing o with
  | nil => rfl
  | cons c blanks ih =>
    have hc : isBlank c = true := hb c List.mem_cons_self
    have hsplit := tokensOf_append_blank hc o [] (blanks.map Segment.plain ++ gs)
    rw [List.nil_append, tokensOf_nil, List.nil_append] at hsplit
    rw [List.map_cons, List.cons_append, hsplit, ih fun d hd => hb d (List.mem_cons_of_mem c hd),
      byteLength, ← Nat.add_assoc]
    rfl

theorem map_text_tokensOf (o o' : Nat) (gs : List Segment) :
    (tokensOf o gs).map Token.text = (tokensOf o' gs).map Token.text := by
  have h : ∀ n, (tokensOf n gs).map Token.text = (tokensOf 0 gs).map Token.text := by
    intro n
    rw [← Nat.zero_add n, tokensOf_add, List.map_map]
    rfl
  rw [h o, h o']

/-- The texts of the tokens of a stripped text, read off the text before its front is trimmed. -/
theorem map_text_tokensFrom_strip (s : List Char) :
    (tokensFrom rules 0 (strip rules s)).map Token.text =
      (tokensOf 0 (scan rules ((spaceComments rules s).rdropWhile isBlank))).map Token.text := by
  obtain ⟨t, ht, hs⟩ := exists_rdropWhile_eq_append_trim isBlank (spaceComments rules s)
  obtain ⟨u, hu, hsu⟩ := exists_rdropWhile isBlank (spaceComments rules s)
  have hcom : IsUncommented rules ((spaceComments rules s).rdropWhile isBlank) := by
    have h : IsUncommented rules (spaceComments rules s) := isUncommented_spaceComments s
    rw [hsu] at h
    exact h.of_append_blanks hu
  rw [← tokensFrom_eq hcom, hs, tokensFrom_blanks_append ht]
  change _ = (tokensFrom rules _ (strip rules s)).map Token.text
  rw [tokensFrom_eq (isUncommented_strip s), tokensFrom_eq (isUncommented_strip s)]
  exact map_text_tokensOf _ _ _

end SqlTriage.Lexical

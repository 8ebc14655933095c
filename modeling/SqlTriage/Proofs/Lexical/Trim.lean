import Mathlib.Data.List.DropRight
import SqlTriage.Proofs.Lexical.Scan

/-!
# Blanks at the ends of a text

Blanks in front of a text and behind it do not change its stripped form
(`strip_append_left`, `strip_append_right`), also where the text ends in an open quoted run, in a
dangling backslash or in an open comment.  Stripping is therefore the same for a text that has
been trimmed, of blanks or of white space only (`strip_trim`).
-/

namespace SqlTriage.Text

/-! ## Trimming -/

theorem trim_eq (p : Char → Bool) (s : List Char) : trim p s = (s.dropWhile p).rdropWhile p :=
  rfl

theorem rdropWhile_append_of_pos {p : Char → Bool} {t : List Char} (ht : ∀ c ∈ t, p c = true)
    (s : List Char) : (s ++ t).rdropWhile p = s.rdropWhile p := by
  unfold List.rdropWhile
  rw [List.reverse_append, List.dropWhile_append_of_pos (by simpa using ht)]

theorem rdropWhile_append_of_ne {p : Char → Bool} {t : List Char} (ht : t.rdropWhile p ≠ [])
    (s : List Char) : (s ++ t).rdropWhile p = s ++ t.rdropWhile p := by
  have hne : (t.reverse.dropWhile p).isEmpty = false := by
    simpa [List.rdropWhile] using ht
  unfold List.rdropWhile
  rw [List.reverse_append, List.dropWhile_append, hne]
  simp

theorem dropWhile_append_of_neg {p : Char → Bool} {c : Char} (hc : p c = false) (s t : List Char) :
    (s ++ c :: t).dropWhile p = s.dropWhile p ++ c :: t := by
  induction s with
  | nil => simp [hc]
  | cons d s ih =>
    rw [List.cons_append, List.dropWhile_cons, List.dropWhile_cons, ih]
    split <;> rfl

theorem rdropWhile_append_of_neg {p : Char → Bool} {c : Char} (hc : p c = false)
    (s t : List Char) :
    (s ++ c :: t).rdropWhile p = s ++ c :: t.rdropWhile p := by
  unfold List.rdropWhile
  rw [List.reverse_append, List.reverse_cons, List.append_assoc, List.singleton_append,
    dropWhile_append_of_neg hc]
  simp

/-- What is dropped at the end. -/
theorem exists_rdropWhile (p : Char → Bool) (s : List Char) :
    ∃ t, (∀ c ∈ t, p c = true) ∧ s = s.rdropWhile p ++ t :=
  ⟨s.rtakeWhile p, fun _ => List.mem_rtakeWhile_imp, List.rdropWhile_append_rtakeWhile.symm⟩

theorem trim_append_left {p : Char → Bool} {t : List Char} (ht : ∀ c ∈ t, p c = true)
    (s : List Char) : trim p (t ++ s) = trim p s := by
  unfold trim
  rw [List.dropWhile_append_of_pos ht]

theorem trim_append_right {p : Char → Bool} {t : List Char} (ht : ∀ c ∈ t, p c = true)
    (s : List Char) : trim p (s ++ t) = trim p s := by
  unfold trim
  rw [List.dropWhile_append]
  split
  · rename_i h
    rw [List.isEmpty_iff.1 h, List.dropWhile_eq_nil_iff.2 ht]
  · exact rdropWhile_append_of_pos ht _

/-- Behind another text only the end is trimmed of a text that is not all dropped. -/
theorem trim_append_of_ne {p : Char → Bool} {t : List Char} (ht : trim p t ≠ []) (s : List Char) :
    trim p (s ++ t) = (s ++ t.takeWhile p).dropWhile p ++ trim p t := by
  have hne : t.dropWhile p ≠ [] := by
    intro h
    exact ht (by rw [trim, h]; rfl)
  obtain ⟨c, u, hu⟩ := List.exists_cons_of_ne_nil hne
  have hc : p c = false := by
    have hnot := List.head?_dropWhile_not p t
    rw [hu] at hnot
    exact hnot
  have hfront : (s ++ t).dropWhile p = (s ++ t.takeWhile p).dropWhile p ++ t.dropWhile p := by
    conv_lhs => rw [← List.takeWhile_append_dropWhile (p := p) (l := t)]
    rw [hu, ← List.append_assoc, dropWhile_append_of_neg hc]
  rw [trim_eq, hfront, rdropWhile_append_of_ne ht]
  rfl

/-- What trimming drops. -/
theorem exists_trim (p : Char → Bool) (s : List Char) :
    ∃ t u, (∀ c ∈ t, p c = true) ∧ (∀ c ∈ u, p c = true) ∧ s = t ++ (trim p s ++ u) := by
  obtain ⟨u, hu, hs⟩ := exists_rdropWhile p (s.dropWhile p)
  refine ⟨s.takeWhile p, u, fun c => List.mem_takeWhile_imp, hu, ?_⟩
  rw [trim_eq, ← hs, List.takeWhile_append_dropWhile]

theorem trim_eq_nil_iff {p : Char → Bool} {s : List Char} :
    trim p s = [] ↔ ∀ c ∈ s, p c = true := by
  constructor
  · intro h
    obtain ⟨t, u, ht, hu, hs⟩ := exists_trim p s
    rw [hs, h, List.nil_append]
    exact fun c hc => (List.mem_append.1 hc).elim (ht c) (hu c)
  · intro h
    rw [← List.append_nil s, trim_append_left h]
    rfl

theorem trim_subset (p : Char → Bool) (s : List Char) : trim p s ⊆ s := by
  obtain ⟨t, u, -, -, hs⟩ := exists_trim p s
  intro c hc
  rw [hs]
  exact List.mem_append_right t (List.mem_append_left u hc)

/-- What trimming at both ends drops besides what it drops at the end. -/
theorem exists_rdropWhile_eq_append_trim (p : Char → Bool) (s : List Char) :
    ∃ t, (∀ c ∈ t, p c = true) ∧ s.rdropWhile p = t ++ trim p s := by
  have hs : s.rdropWhile p = (s.takeWhile p ++ s.dropWhile p).rdropWhile p := by
    rw [List.takeWhile_append_dropWhile]
  have ht : ∀ c ∈ s.takeWhile p, p c = true := fun c => List.mem_takeWhile_imp
  by_cases h : trim p s = []
  · have hall := List.rdropWhile_eq_nil_iff.1 h
    refine ⟨[], by simp, ?_⟩
    rw [hs, rdropWhile_append_of_pos hall, List.rdropWhile_eq_nil_iff.2 ht, h]
    rfl
  · exact ⟨s.takeWhile p, ht, by rw [hs, rdropWhile_append_of_ne h]; rfl⟩

/-! ## What trimming leaves -/

theorem any_head?_dropWhile {α : Type} (p : α → Bool) (l : List α) :
    (l.dropWhile p).head?.any p = false := by
  have hnot := List.head?_dropWhile_not p l
  cases h : (l.dropWhile p).head? with
  | none => rfl
  | some a => simpa [h] using hnot

theorem any_getLast?_trim (p : Char → Bool) (s : List Char) :
    (trim p s).getLast?.any p = false := by
  unfold trim
  rw [List.getLast?_reverse]
  exact any_head?_dropWhile p _

theorem any_head?_trim (p : Char → Bool) (s : List Char) : (trim p s).head?.any p = false := by
  obtain ⟨u, -, hu⟩ := exists_rdropWhile p (s.dropWhile p)
  have hfront := any_head?_dropWhile p s
  rw [hu] at hfront
  rw [trim_eq]
  cases h : (s.dropWhile p).rdropWhile p with
  | nil => rfl
  | cons c t => rwa [h] at hfront

theorem trim_eq_self {p : Char → Bool} {s : List Char} (hhead : s.head?.any p = false)
    (hlast : s.getLast?.any p = false) : trim p s = s := by
  have hfront : s.dropWhile p = s := List.dropWhile_eq_self_iff.2 fun hl => by
    rw [List.head?_eq_getElem?, List.getElem?_eq_getElem hl] at hhead
    exact Bool.eq_false_iff.1 hhead
  have hback : s.rdropWhile p = s := List.rdropWhile_eq_self_iff.2 fun hl => by
    rw [List.getLast?_eq_some_getLast hl] at hlast
    exact Bool.eq_false_iff.1 hlast
  rw [trim_eq, hfront, hback]

theorem isBlank_of_isSpace {c : Char} (h : isSpace c = true) : isBlank c = true := by
  rw [isBlank, h, Bool.true_or]

end SqlTriage.Text

namespace SqlTriage.Lexical

open SqlTriage.Text

variable {rules : LexicalRules} {blanks : List Char}

/-! ## Blanks behind an open lexeme -/

theorem quotedTail_of_notMem {escapes : Bool} {q : Char} {s : List Char} (h : q ∉ s) :
    quotedTail escapes q s = ⟨s, false, []⟩ := by
  fun_induction quotedTail escapes q s with
  | case1 => rfl
  | case2 c => simp_all [Ne.symm]
  | case3 s ih => simp at h
  | case4 d s hd => simp at h
  | case5 c d s hc he ih => rw [ih (by simp_all)]; rfl
  | case6 c d s hc he ih => rw [ih (by simp_all)]; rfl

/-- An open run goes on through everything that does not close it. -/
theorem quotedTail_append_open {escapes : Bool} {q : Char} {s t : List Char}
    (h : (quotedTail escapes q s).closed = false) (ht : q ∉ t) :
    quotedTail escapes q (s ++ t) = ⟨s ++ t, false, []⟩ := by
  fun_induction quotedTail escapes q s with
  | case1 => exact quotedTail_of_notMem ht
  | case2 c =>
    have hc : c ≠ q := by simpa using h
    exact quotedTail_of_notMem (by simpa using ⟨hc.symm, ht⟩)
  | case3 s ih => simp_all [quotedTail, Lexeme.after]
  | case4 => cases h
  | case5 c d s hc he ih => simp_all [quotedTail, Lexeme.after]
  | case6 c d s hc he ih =>
    rw [List.cons_append, quotedTail_cons hc (by simpa using he), ih h]
    rfl

theorem blockTail_cons_of_notMem {s : List Char} (h : '/' ∉ s) (c : Char) :
    blockTail (c :: s) = ⟨c :: s, false, []⟩ := by
  induction s generalizing c with
  | nil => rfl
  | cons d s ih =>
    have hd : ¬ (c = '*' ∧ d = '/') := by
      rintro ⟨-, rfl⟩
      simp at h
    rw [blockTail, if_neg hd, ih (by simp_all) d]
    rfl

/-- An open comment goes on through everything that holds no slash. -/
theorem blockTail_append_open {s t : List Char} (h : (blockTail s).closed = false) (ht : '/' ∉ t) :
    blockTail (s ++ t) = ⟨s ++ t, false, []⟩ := by
  fun_induction blockTail s with
  | case1 =>
    cases t with
    | nil => rfl
    | cons c t => exact blockTail_cons_of_notMem (by simp_all) c
  | case2 c => exact blockTail_cons_of_notMem ht c
  | case3 => cases h
  | case4 c d s hc ih =>
    have ih := ih h
    rw [List.cons_append] at ih
    rw [List.cons_append, List.cons_append, blockTail, if_neg hc, ih]
    rfl

/-! ## Blanks at the ends -/

theorem spaceComments_blanks_append (hb : ∀ c ∈ blanks, isBlank c = true) (s : List Char) :
    spaceComments rules (blanks ++ s) = blanks ++ spaceComments rules s := by
  induction blanks with
  | nil => rfl
  | cons c blanks ih =>
    have hc : isBlank c = true := hb c List.mem_cons_self
    rw [List.cons_append, spaceComments_plain (opensComment_eq_false_of_isBlank hc _)
      (isQuote_eq_false_of_isBlank hc), ih fun d hd => hb d (List.mem_cons_of_mem c hd)]
    rfl

theorem spaceComments_blanks (hb : ∀ c ∈ blanks, isBlank c = true) :
    spaceComments rules blanks = blanks := by
  have h : spaceComments rules (blanks ++ []) = _ := spaceComments_blanks_append hb []
  rwa [List.append_nil, spaceComments_nil, List.append_nil] at h

/-- An open run goes on through blanks. -/
theorem quotedRun?_append_open (hb : ∀ c ∈ blanks, isBlank c = true) {s : List Char} {l : Lexeme}
    (h : quotedRun? rules s = some l) (hl : l.closed = false) :
    quotedRun? rules (s ++ blanks) = some ⟨s ++ blanks, false, []⟩ := by
  obtain ⟨q, t, hq, rfl, rfl⟩ := exists_quote_of_quotedRun? h
  have hqb : q ∉ blanks := by
    intro hm
    rw [isQuote_eq_false_of_isBlank (hb q hm)] at hq
    cases hq
  rw [List.cons_append, quotedRun?, if_pos hq, quotedTail_append_open hl hqb]
  rfl

/-- Blanks do not double the quote of a run. -/
theorem head?_blanks_ne (hb : ∀ c ∈ blanks, isBlank c = true) {s : List Char} {l : Lexeme}
    (h : quotedRun? rules s = some l) : blanks.head? ≠ l.text.head? := by
  obtain ⟨q, t, hq, rfl, rfl⟩ := exists_quote_of_quotedRun? h
  intro he
  rw [isQuote_eq_false_of_isBlank (hb q (List.mem_of_head? he))] at hq
  cases hq

/-- Blanks behind a text that begins with a quoted run stand behind the run, or they belong to the
run or follow it where nothing else does. -/
theorem exists_quotedRun?_append (hb : ∀ c ∈ blanks, isBlank c = true) {s : List Char} {l : Lexeme}
    (h : quotedRun? rules s = some l) :
    ∃ l', quotedRun? rules (s ++ blanks) = some l' ∧
      (l' = { l with rest := l.rest ++ blanks } ∨
        l.rest = [] ∧ ∀ c ∈ l'.rest, isBlank c = true) := by
  by_cases hl : l.closed = true
  · exact ⟨_, quotedRun?_append_closed h hl fun _ => head?_blanks_ne hb h, Or.inl rfl⟩
  · rw [Bool.not_eq_true] at hl
    exact ⟨_, quotedRun?_append_open hb h hl, Or.inr ⟨quotedRun?_rest_of_open h hl, by simp⟩⟩

/-- Blanks behind a text that begins with a comment stand behind the comment, or they belong to
the comment or follow it where nothing else does. -/
theorem exists_comment?_append (hb : ∀ c ∈ blanks, isBlank c = true) {s : List Char} {l : Lexeme}
    (h : comment? rules s = some l) :
    ∃ l', comment? rules (s ++ blanks) = some l' ∧
      (l' = { l with rest := l.rest ++ blanks } ∨
        l.rest = [] ∧ ∀ c ∈ l'.rest, isBlank c = true) := by
  by_cases hl : l.closed = true
  · exact ⟨_, comment?_append_closed h hl blanks, Or.inl rfl⟩
  rw [Bool.not_eq_true] at hl
  rcases comment?_eq_some_cases h with ⟨t, rfl, rfl⟩ | ⟨opener, ho, t, rfl, rfl⟩
  · have hslash : '/' ∉ blanks := by
      intro hm
      exact absurd (hb _ hm) (by decide)
    refine ⟨_, comment?_block rules (t ++ blanks), Or.inr ⟨blockTail_rest_of_open hl, ?_⟩⟩
    rw [blockTail_append_open hl hslash]
    simp
  · have hr : (lineTail t).rest = [] := by
      rw [Lexeme.closed_after, lineTail_closed] at hl
      simpa using hl
    refine ⟨(lineTail (t ++ blanks)).after opener, ?_, Or.inr ⟨hr, ?_⟩⟩
    · rw [List.append_assoc, comment?_line ho]
    · have ht := lineTail_append t
      rw [hr, List.append_nil] at ht
      have hp : ∀ c ∈ t, (!isLineEnd c) = true := by
        intro c hc
        rw [← ht] at hc
        simp [isLineEnd_of_mem_lineTail hc]
      have hrest : (lineTail (t ++ blanks)).rest = (lineTail blanks).rest :=
        List.dropWhile_append_of_pos hp
      intro c hc
      rw [Lexeme.rest_after, hrest] at hc
      exact hb c ((List.dropWhile_sublist _).subset hc)

theorem opensComment_append_blanks (hb : ∀ c ∈ blanks, isBlank c = true) {c : Char}
    {t : List Char} (h : opensComment rules c t.head? = false) :
    opensComment rules c (t ++ blanks).head? = false := by
  cases t with
  | cons d t => exact h
  | nil =>
    refine opensComment_eq_false_of_next h ?_ ?_ <;>
      exact fun he => absurd (hb _ (List.mem_of_head? he)) (by decide)

/-- Blanks behind a text only add blanks behind the text without comments. -/
theorem exists_spaceComments_append (hb : ∀ c ∈ blanks, isBlank c = true) (s : List Char) :
    ∃ more, (∀ c ∈ more, isBlank c = true) ∧
      spaceComments rules (s ++ blanks) = spaceComments rules s ++ more := by
  fun_induction scan rules s with
  | case1 => exact ⟨blanks, hb, by simp [spaceComments_blanks hb]⟩
  | case2 c t l hc ih =>
    obtain ⟨l', hl', rfl | ⟨hr, hrest⟩⟩ := exists_comment?_append hb hc
    · obtain ⟨more, hm, ih⟩ := ih
      refine ⟨more, hm, ?_⟩
      rw [spaceComments_comment hc, spaceComments_comment hl', ih]
      rfl
    · refine ⟨l'.rest, hrest, ?_⟩
      rw [spaceComments_comment hc, hr, spaceComments_nil, spaceComments_comment hl',
        spaceComments_blanks hrest]
      rfl
  | case3 c t hc l hq ih =>
    obtain ⟨l', hl', rfl | ⟨hr, hrest⟩⟩ := exists_quotedRun?_append hb hq
    · obtain ⟨more, hm, ih⟩ := ih
      refine ⟨more, hm, ?_⟩
      rw [spaceComments_quoted hq, spaceComments_quoted hl', ih, List.append_assoc]
    · refine ⟨blanks, hb, ?_⟩
      have ht := quotedRun?_append hq
      rw [hr, List.append_nil] at ht
      rw [spaceComments_quoted hq, hr, spaceComments_nil, List.append_nil, spaceComments_quoted hl',
        spaceComments_blanks hrest, quotedRun?_append hl', ht]
  | case4 c t hc hq ih =>
    obtain ⟨more, hm, ih⟩ := ih
    have hc := comment?_eq_none_iff.1 hc
    have hq := quotedRun?_eq_none_iff.1 hq
    refine ⟨more, hm, ?_⟩
    rw [List.cons_append, spaceComments_plain hc hq,
      spaceComments_plain (opensComment_append_blanks hb hc) hq, ih]
    rfl

theorem strip_append_left (hb : ∀ c ∈ blanks, isBlank c = true) (s : List Char) :
    strip rules (blanks ++ s) = strip rules s := by
  unfold strip
  rw [spaceComments_blanks_append hb, trim_append_left hb]

theorem strip_append_right (hb : ∀ c ∈ blanks, isBlank c = true) (s : List Char) :
    strip rules (s ++ blanks) = strip rules s := by
  obtain ⟨more, hm, h⟩ : ∃ more, _ ∧ spaceComments rules (s ++ blanks) = _ :=
    exists_spaceComments_append hb s
  unfold strip
  rw [h, trim_append_right hm]

/-- Trimming a text first, of blanks or of fewer characters, does not change what is left. -/
theorem strip_trim {p : Char → Bool} (hp : ∀ c, p c = true → isBlank c = true) (s : List Char) :
    strip rules (trim p s) = strip rules s := by
  obtain ⟨t, u, ht, hu, hs⟩ := exists_trim p s
  calc strip rules (trim p s)
      = strip rules (trim p s ++ u) := (strip_append_right (fun c hc => hp c (hu c hc)) _).symm
    _ = strip rules (t ++ (trim p s ++ u)) :=
        (strip_append_left (fun c hc => hp c (ht c hc)) _).symm
    _ = strip rules s := by rw [← hs]

theorem strip_spaceComments (s : List Char) :
    strip rules (spaceComments rules s) = strip rules s := by
  unfold strip
  rw [spaceComments_spaceComments]

/-- Stripping a text twice is stripping it once. -/
theorem strip_strip (s : List Char) : strip rules (strip rules s) = strip rules s := by
  calc strip rules (strip rules s)
      = strip rules (spaceComments rules s) := strip_trim (fun _ h => h) _
    _ = strip rules s := strip_spaceComments s

end SqlTriage.Lexical

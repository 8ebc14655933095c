import SqlTriage.Lexical.Stripped
import SqlTriage.Proofs.Lexical.Lookahead

/-!
# The scan of a text

`scan` reads a text from left to right into comments, quoted runs and single characters, a comment
before a quoted run before a character.  Stripping writes a space for every comment
(`spaceComments_eq`), and the text with spaces for comments is scanned into the same quoted runs
and characters (`scan_spaceComments`).  A place between two segments is at top level
(`TopLevel`), and what is scanned before it depends on the rest of the text through one character
at most (`scan_replace`).
-/

namespace SqlTriage.Lexical

open SqlTriage.Text

/-- A part of a text as the scan finds it. -/
inductive Segment where
  | comment (text : List Char) (closed : Bool)
  | quoted (text : List Char) (closed : Bool)
  | plain (c : Char)
deriving DecidableEq, Repr

namespace Segment

/-- The characters of a segment. -/
def text : Segment → List Char
  | comment t _ | quoted t _ => t
  | plain c => [c]

/-- The segment in the stripped text: a space stands for a comment. -/
def blanked : Segment → Segment
  | comment _ _ => plain ' '
  | g => g

end Segment

/-- The characters of segments. -/
def textOf (gs : List Segment) : List Char :=
  gs.flatMap Segment.text

/-- The segments of a text, from left to right. -/
def scan (rules : LexicalRules) (s : List Char) : List Segment :=
  match s with
  | [] => []
  | c :: t =>
    match _ : comment? rules (c :: t) with
    | some l => .comment l.text l.closed :: scan rules l.rest
    | none =>
      match _ : quotedRun? rules (c :: t) with
      | some l => .quoted l.text l.closed :: scan rules l.rest
      | none => .plain c :: scan rules t
termination_by s.length
decreasing_by
  · exact comment?_length_lt ‹_›
  · exact quotedRun?_length_lt ‹_›
  · exact Nat.lt_succ_self _

/-! ## One step -/

variable {rules : LexicalRules}

@[simp] theorem textOf_nil : textOf [] = [] := rfl

@[simp] theorem textOf_cons (g : Segment) (gs : List Segment) :
    textOf (g :: gs) = g.text ++ textOf gs := rfl

@[simp] theorem textOf_append (gs hs : List Segment) :
    textOf (gs ++ hs) = textOf gs ++ textOf hs :=
  List.flatMap_append

@[simp] theorem scan_nil : scan rules [] = [] := by rw [scan]

theorem scan_comment {s : List Char} {l : Lexeme} (h : comment? rules s = some l) :
    scan rules s = .comment l.text l.closed :: scan rules l.rest := by
  cases s with
  | nil => simp [comment?] at h
  | cons c t =>
    rw [scan]
    split
    · rename_i l' h'
      obtain rfl : l' = l := Option.some.inj (h'.symm.trans h)
      rfl
    · simp_all

theorem scan_quoted {s : List Char} {l : Lexeme} (h : quotedRun? rules s = some l) :
    scan rules s = .quoted l.text l.closed :: scan rules l.rest := by
  obtain ⟨q, t, hq, rfl, -⟩ := exists_quote_of_quotedRun? h
  rw [scan]
  split
  · simp_all [comment?_eq_none_of_isQuote hq]
  · split
    · rename_i l' h'
      obtain rfl : l' = l := Option.some.inj (h'.symm.trans h)
      rfl
    · simp_all

theorem scan_plain {c : Char} {t : List Char} (hc : opensComment rules c t.head? = false)
    (hq : isQuote c = false) : scan rules (c :: t) = .plain c :: scan rules t := by
  have h₁ := comment?_eq_none_iff.2 hc
  have h₂ : quotedRun? rules (c :: t) = none := quotedRun?_eq_none_iff.2 hq
  rw [scan]
  split
  · simp_all
  · split
    · simp_all
    · rfl

/-- A character that opens nothing is scanned alone. -/
theorem scan_plain_of_isBlank {c : Char} (h : isBlank c = true) (t : List Char) :
    scan rules (c :: t) = .plain c :: scan rules t :=
  scan_plain (opensComment_eq_false_of_isBlank h _) (isQuote_eq_false_of_isBlank h)

theorem scan_blanks_append {blanks : List Char} (hb : ∀ c ∈ blanks, isBlank c = true)
    (s : List Char) : scan rules (blanks ++ s) = blanks.map Segment.plain ++ scan rules s := by
  induction blanks with
  | nil => rfl
  | cons c blanks ih =>
    rw [List.cons_append, scan_plain_of_isBlank (hb c List.mem_cons_self),
      ih fun d hd => hb d (List.mem_cons_of_mem c hd)]
    rfl

/-- The segments of a text are its parts. -/
theorem textOf_scan (rules : LexicalRules) (s : List Char) : textOf (scan rules s) = s := by
  fun_induction scan rules s with
  | case1 => rfl
  | case2 c t l hc ih => rw [textOf_cons, ih]; exact comment?_append hc
  | case3 c t hc l hq ih => rw [textOf_cons, ih]; exact quotedRun?_append hq
  | case4 c t hc hq ih => rw [textOf_cons, ih]; rfl

/-- Behind some of the segments of a text, the others are those of what is left. -/
theorem scan_textOf_of_append {s : List Char} {gs hs : List Segment}
    (h : scan rules s = gs ++ hs) : scan rules (textOf hs) = hs := by
  induction gs generalizing s with
  | nil =>
    obtain rfl : scan rules s = hs := h
    rw [textOf_scan]
  | cons g gs ih =>
    cases s with
    | nil => simp at h
    | cons c t =>
      rw [scan] at h
      split at h
      · exact ih (List.cons.inj h).2
      · split at h
        · exact ih (List.cons.inj h).2
        · exact ih (List.cons.inj h).2

/-- What the first segment of a text can be. -/
theorem scan_eq_cons_cases {s : List Char} {g : Segment} {gs : List Segment}
    (h : scan rules s = g :: gs) :
    (∃ l, comment? rules s = some l ∧ g = .comment l.text l.closed ∧ gs = scan rules l.rest) ∨
    (∃ l, quotedRun? rules s = some l ∧ g = .quoted l.text l.closed ∧ gs = scan rules l.rest) ∨
    ∃ c t, s = c :: t ∧ opensComment rules c t.head? = false ∧ isQuote c = false ∧
      g = .plain c ∧ gs = scan rules t := by
  cases s with
  | nil => simp at h
  | cons c t =>
    cases hc : comment? rules (c :: t) with
    | some l =>
      rw [scan_comment hc, List.cons.injEq] at h
      exact Or.inl ⟨l, rfl, h.1.symm, h.2.symm⟩
    | none =>
      cases hq : quotedRun? rules (c :: t) with
      | some l =>
        rw [scan_quoted hq, List.cons.injEq] at h
        exact Or.inr (Or.inl ⟨l, rfl, h.1.symm, h.2.symm⟩)
      | none =>
        have hc := comment?_eq_none_iff.1 hc
        have hq := quotedRun?_eq_none_iff.1 hq
        rw [scan_plain hc hq, List.cons.injEq] at h
        exact Or.inr (Or.inr ⟨c, t, rfl, hc, hq, h.1.symm, h.2.symm⟩)

theorem exists_scan_eq_cons_of_mem {s : List Char} {g : Segment} (h : g ∈ scan rules s) :
    ∃ t gs, scan rules t = g :: gs := by
  obtain ⟨ks, gs, hs⟩ := List.append_of_mem h
  exact ⟨_, gs, scan_textOf_of_append hs⟩

theorem text_ne_nil_of_mem_scan {s : List Char} {g : Segment} (h : g ∈ scan rules s) :
    g.text ≠ [] := by
  obtain ⟨t, gs, ht⟩ := exists_scan_eq_cons_of_mem h
  rcases scan_eq_cons_cases ht with ⟨l, hl, rfl, -⟩ | ⟨l, hl, rfl, -⟩ | ⟨c, t, -, -, -, rfl, -⟩
  · exact comment?_text_ne_nil hl
  · exact quotedRun?_text_ne_nil hl
  · exact List.cons_ne_nil c []

/-! ## Stripping as a scan -/

theorem scan_takeWhile_isPlain (s : List Char) :
    scan rules s = (s.takeWhile (isPlain rules)).map Segment.plain ++
      scan rules (s.dropWhile (isPlain rules)) := by
  induction s with
  | nil => simp
  | cons c s ih =>
    cases hp : isPlain rules c with
    | false => simp [hp]
    | true =>
      simp only [isPlain, Bool.not_eq_true', Bool.or_eq_false_iff] at hp
      have hc : opensComment rules c s.head? = false := by
        simp only [opensComment, hp.1.1.2, hp.1.2, Bool.false_and, Bool.false_or]
        rw [Bool.and_comm]
        exact hp.2
      rw [scan_plain hc hp.1.1.1, ih]
      simp [isPlain, hp]

/-- Stripping copies the segments one by one and writes a space for each comment. -/
theorem spaceComments_eq (s : List Char) :
    spaceComments rules s = textOf ((scan rules s).map Segment.blanked) := by
  fun_induction spaceComments rules s with
  | case1 => simp
  | case2 c t l hc ih =>
    rw [scan_comment hc, List.map_cons, textOf_cons, ← ih]
    rfl
  | case3 c t hc l hq ih =>
    rw [scan_quoted hq, List.map_cons, textOf_cons, ← ih]
    rfl
  | case4 c t hc hq ih =>
    rw [scan_plain (comment?_eq_none_iff.1 hc) (quotedRun?_eq_none_iff.1 hq),
      scan_takeWhile_isPlain t, List.map_cons, textOf_cons, List.map_append, textOf_append, ← ih]
    simp [textOf, Segment.text, Segment.blanked, List.flatMap_map]

@[simp] theorem spaceComments_nil : spaceComments rules [] = [] := by simp [spaceComments_eq]

theorem spaceComments_comment {s : List Char} {l : Lexeme} (h : comment? rules s = some l) :
    spaceComments rules s = ' ' :: spaceComments rules l.rest := by
  simp [spaceComments_eq, scan_comment h, Segment.blanked, Segment.text]

theorem spaceComments_quoted {s : List Char} {l : Lexeme} (h : quotedRun? rules s = some l) :
    spaceComments rules s = l.text ++ spaceComments rules l.rest := by
  simp [spaceComments_eq, scan_quoted h, Segment.blanked, Segment.text]

theorem spaceComments_plain {c : Char} {t : List Char}
    (hc : opensComment rules c t.head? = false) (hq : isQuote c = false) :
    spaceComments rules (c :: t) = c :: spaceComments rules t := by
  simp [spaceComments_eq, scan_plain hc hq, Segment.blanked, Segment.text]

theorem mem_spaceComments {s : List Char} {c : Char} (h : c ∈ spaceComments rules s) :
    c = ' ' ∨ c ∈ s := by
  rw [spaceComments_eq, textOf, List.flatMap_map, List.mem_flatMap] at h
  obtain ⟨g, hg, hc⟩ := h
  have htext : c ∈ g.text → c ∈ s := by
    intro hc
    rw [← textOf_scan rules s]
    exact List.mem_flatMap.2 ⟨g, hg, hc⟩
  cases g with
  | comment t closed => exact Or.inl (List.mem_singleton.1 hc)
  | quoted t closed => exact Or.inr (htext hc)
  | plain d => exact Or.inr (htext hc)

/-- A text without comments begins as the text does, or with the space for a comment. -/
theorem head?_spaceComments (rules : LexicalRules) (s : List Char) :
    (spaceComments rules s).head? = s.head? ∨
      (spaceComments rules s).head? = some ' ' ∧ (comment? rules s).isSome = true := by
  cases s with
  | nil => simp
  | cons c t =>
    cases hc : comment? rules (c :: t) with
    | some l => simp [spaceComments_comment hc]
    | none =>
      left
      cases hq : quotedRun? rules (c :: t) with
      | some l =>
        obtain ⟨q, t', -, ht, rfl⟩ := exists_quote_of_quotedRun? hq
        rw [spaceComments_quoted hq]
        simp [(List.cons.inj ht).1]
      | none =>
        simp [spaceComments_plain (comment?_eq_none_iff.1 hc) (quotedRun?_eq_none_iff.1 hq)]

theorem spaceComments_ne_nil {s : List Char} (h : s ≠ []) : spaceComments rules s ≠ [] := by
  intro he
  rcases head?_spaceComments rules s with hs | ⟨hs, -⟩
  · rw [he] at hs
    exact h (List.head?_eq_none_iff.1 hs.symm)
  · rw [he] at hs
    cases hs

theorem head?_spaceComments_ne {s : List Char} {c : Char} (hs : s.head? ≠ some c)
    (hc : c ≠ ' ') : (spaceComments rules s).head? ≠ some c := by
  rcases head?_spaceComments rules s with h | ⟨h, -⟩
  · rwa [h]
  · rw [h]
    simpa using hc.symm

theorem opensComment_spaceComments {c : Char} {t : List Char}
    (h : opensComment rules c t.head? = false) :
    opensComment rules c (spaceComments rules t).head? = false := by
  rcases head?_spaceComments rules t with ht | ⟨ht, -⟩
  · rwa [ht]
  · rw [ht]
    exact opensComment_eq_false_of_next h (by decide) (by decide)

theorem quotedRun?_spaceComments {s : List Char} {l : Lexeme} (h : quotedRun? rules s = some l) :
    quotedRun? rules (l.text ++ spaceComments rules l.rest) =
      some { l with rest := spaceComments rules l.rest } := by
  obtain ⟨q, t, hq, -, rfl⟩ := exists_quote_of_quotedRun? h
  refine quotedRun?_replace h (head?_spaceComments_ne (quotedRun?_rest_head? h) ?_) ?_
  · rintro rfl
    revert hq
    decide
  · intro hr
    rw [hr, spaceComments_nil]

/-- Spaces for comments make no new comment and no new quoted run. -/
theorem scan_spaceComments (s : List Char) :
    scan rules (spaceComments rules s) = (scan rules s).map Segment.blanked := by
  fun_induction scan rules s with
  | case1 => simp
  | case2 c t l hc ih =>
    rw [spaceComments_comment hc, scan_plain_of_isBlank (by decide), ih]
    rfl
  | case3 c t hc l hq ih =>
    rw [spaceComments_quoted hq, scan_quoted (quotedRun?_spaceComments hq), ih]
    rfl
  | case4 c t hc hq ih =>
    have hc := comment?_eq_none_iff.1 hc
    have hq := quotedRun?_eq_none_iff.1 hq
    rw [spaceComments_plain hc hq, scan_plain (opensComment_spaceComments hc) hq, ih]
    rfl

/-- A second stripping finds no comments. -/
theorem spaceComments_spaceComments (s : List Char) :
    spaceComments rules (spaceComments rules s) = spaceComments rules s := by
  have hb : ∀ g : Segment, g.blanked.blanked = g.blanked := by
    intro g
    cases g <;> rfl
  rw [spaceComments_eq (spaceComments rules s), scan_spaceComments, List.map_map,
    spaceComments_eq s]
  exact congrArg textOf (List.map_congr_left fun g _ => hb g)

/-! ## Places at top level -/

/-- The scan of `a` followed by `b` passes from the one to the other between two segments. -/
def TopLevel (rules : LexicalRules) (a b : List Char) : Prop :=
  ∃ gs hs, scan rules (a ++ b) = gs ++ hs ∧ textOf gs = a

theorem topLevel_iff {a b : List Char} :
    TopLevel rules a b ↔ ∃ gs, textOf gs = a ∧ scan rules (a ++ b) = gs ++ scan rules b := by
  constructor
  · rintro ⟨gs, hs, h, rfl⟩
    refine ⟨gs, rfl, ?_⟩
    have ht := textOf_scan rules (textOf gs ++ b)
    rw [h, textOf_append, List.append_cancel_left_eq] at ht
    rw [h, ← ht, scan_textOf_of_append h]
  · rintro ⟨gs, rfl, h⟩
    exact ⟨gs, _, h, rfl⟩

/-- The first segment stays the first when the rest begins with the same character. -/
theorem scan_eq_cons {s : List Char} {g : Segment} {gs : List Segment}
    (h : scan rules s = g :: gs) :
    ∃ r, s = g.text ++ r ∧ gs = scan rules r ∧
      ∀ v : List Char, v.head? = r.head? → scan rules (g.text ++ v) = g :: scan rules v := by
  rcases scan_eq_cons_cases h with
    ⟨l, hc, rfl, rfl⟩ | ⟨l, hq, rfl, rfl⟩ | ⟨c, t, rfl, hc, hq, rfl, rfl⟩
  · refine ⟨l.rest, (comment?_append hc).symm, rfl, fun v hv => ?_⟩
    exact scan_comment (comment?_replace hc hv)
  · refine ⟨l.rest, (quotedRun?_append hq).symm, rfl, fun v hv => ?_⟩
    have hne : v.head? ≠ l.text.head? := hv ▸ quotedRun?_rest_head? hq
    have hnil : l.rest = [] → v = [] := fun hr => by simpa [hr] using hv
    exact scan_quoted (quotedRun?_replace hq hne hnil)
  · exact ⟨t, rfl, rfl, fun v hv => scan_plain (hv ▸ hc) hq⟩

/-- The segments before a place at top level do not change when the rest of the text is replaced
by one that begins with the same character. -/
theorem scan_replace {gs : List Segment} {b v : List Char}
    (h : scan rules (textOf gs ++ b) = gs ++ scan rules b) (hv : v.head? = b.head?) :
    scan rules (textOf gs ++ v) = gs ++ scan rules v := by
  induction gs with
  | nil => rfl
  | cons g gs ih =>
    obtain ⟨r, hr, hgs, hrep⟩ := scan_eq_cons h
    rw [textOf_cons, List.append_assoc, List.append_cancel_left_eq] at hr
    subst hr
    rw [textOf_cons, List.append_assoc, hrep, ih hgs.symm, List.cons_append]
    cases htext : textOf gs <;> simp [hv]

/-- What stands before a place at top level is scanned alone as it is there, if its last segment
is. -/
theorem scan_textOf_of_last {gs hs : List Segment} {s : List Char} (h : scan rules s = gs ++ hs)
    (hlast : ∀ ks g, gs = ks ++ [g] → scan rules g.text = [g]) : scan rules (textOf gs) = gs := by
  induction gs generalizing s with
  | nil => exact scan_nil
  | cons g gs ih =>
    obtain ⟨r, -, hgs, hrep⟩ := scan_eq_cons h
    have ih := ih hgs.symm fun ks g' hk => hlast (g :: ks) g' (by rw [hk]; rfl)
    rw [textOf_cons]
    cases htext : textOf gs with
    | nil =>
      obtain rfl : gs = [] := by rw [← ih, htext, scan_nil]
      rw [List.append_nil]
      exact hlast [] g rfl
    | cons c t =>
      -- the character behind the first segment is the same as in the whole text
      have hr : textOf (gs ++ hs) = r := (congrArg textOf hgs).trans (textOf_scan rules r)
      rw [textOf_append, htext] at hr
      rw [← htext, hrep _ (by rw [← hr, htext]; rfl), ih]

/-- What is stripped before a place at top level does not change either. -/
theorem spaceComments_replace {gs : List Segment} {b v : List Char}
    (h : scan rules (textOf gs ++ b) = gs ++ scan rules b) (hv : v.head? = b.head?) :
    spaceComments rules (textOf gs ++ v) =
      textOf (gs.map Segment.blanked) ++ spaceComments rules v := by
  rw [spaceComments_eq, scan_replace h hv, List.map_append, textOf_append, ← spaceComments_eq]

/-- A place at top level is one in the stripped text too. -/
theorem scan_blanked {gs : List Segment} {b : List Char}
    (h : scan rules (textOf gs ++ b) = gs ++ scan rules b) :
    scan rules (textOf (gs.map Segment.blanked) ++ spaceComments rules b) =
      gs.map Segment.blanked ++ scan rules (spaceComments rules b) := by
  rw [← spaceComments_replace h rfl, scan_spaceComments, h, List.map_append, scan_spaceComments]

end SqlTriage.Lexical

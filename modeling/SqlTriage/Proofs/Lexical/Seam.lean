import SqlTriage.Proofs.Lexical.TokenStream

/-!
# Texts that end at top level

A text ends at top level if its scan leaves nothing open (`EndsAtTopLevel`).  Behind such a text
another one is scanned as if it stood alone, unless it goes on with the last segment
(`scan_append`).
-/

namespace SqlTriage.Lexical

open SqlTriage.Text

variable {rules : LexicalRules}

/-- Whether the text shows where the segment ends. -/
def Segment.isClosed : Segment → Bool
  | comment _ closed | quoted _ closed => closed
  | plain _ => true

/-- The scan of the text leaves no quoted run and no block comment open, and the text does not end
in a line comment. -/
def EndsAtTopLevel (rules : LexicalRules) (s : List Char) : Prop :=
  ∀ g ∈ scan rules s, g.isClosed = true

theorem endsAtTopLevel_iff_all {s : List Char} :
    EndsAtTopLevel rules s ↔ (scan rules s).all Segment.isClosed = true :=
  List.all_eq_true.symm

/-- The segment, if it is closed, ends in front of the given character: a quoted run is not gone
on with by its quote, nor a character by another that makes it open a comment. -/
def Segment.EndsBefore (rules : LexicalRules) (next : Option Char) : Segment → Prop
  | comment _ _ => True
  | quoted t _ => next ≠ t.head?
  | plain c => opensComment rules c next = false

/-! ## The last segment -/

theorem head?_of_scan_quoted {s t : List Char} {closed : Bool} {gs : List Segment}
    (h : scan rules s = .quoted t closed :: gs) : ∃ q, isQuote q = true ∧ t.head? = some q := by
  rcases scan_eq_cons_cases h with ⟨l, -, hg, -⟩ | ⟨l, hl, hg, -⟩ | ⟨c, u, -, -, -, hg, -⟩
  · cases hg
  · cases hg
    obtain ⟨q, u, hq, -, rfl⟩ := exists_quote_of_quotedRun? hl
    exact ⟨q, hq, rfl⟩
  · cases hg

theorem opensComment_of_scan_plain {c : Char} {gs : List Segment} {s : List Char}
    (h : scan rules s = .plain c :: gs) : opensComment rules c (textOf gs).head? = false := by
  rcases scan_eq_cons_cases h with ⟨l, -, hg, -⟩ | ⟨l, -, hg, -⟩ | ⟨d, t, -, hc, -, hg, hgs⟩
  · cases hg
  · cases hg
  · cases hg
    rwa [hgs, textOf_scan]

theorem endsBefore_of_scan {s : List Char} {gs : List Segment} {g : Segment}
    (h : scan rules s = gs ++ [g]) {next : Option Char} (hq : next.any isQuote = false)
    (hplain : ∀ c, g = .plain c → opensComment rules c none = false →
      opensComment rules c next = false) : g.EndsBefore rules next := by
  have hlast := scan_textOf_of_append h
  cases g with
  | comment t closed => trivial
  | quoted t closed =>
    obtain ⟨q, hquote, ht⟩ := head?_of_scan_quoted hlast
    show next ≠ t.head?
    rintro rfl
    rw [ht] at hq
    exact Bool.false_ne_true (hq.symm.trans hquote)
  | plain c => exact hplain c rfl (opensComment_of_scan_plain hlast)

/-- The scan comes to an end in an open segment. -/
theorem isClosed_of_scan_append {s : List Char} {gs hs : List Segment}
    (h : scan rules s = gs ++ hs) (hne : hs ≠ []) : ∀ g ∈ gs, g.isClosed = true := by
  intro g hg
  obtain ⟨ks, ls, rfl⟩ := List.append_of_mem hg
  have hsplit : scan rules s = ks ++ g :: (ls ++ hs) := by
    rw [h]
    simp
  have hscan := scan_textOf_of_append hsplit
  have hrest : ls ++ hs ≠ [] := by simp [hne]
  rcases scan_eq_cons_cases hscan with
    ⟨l, hl, rfl, hgs⟩ | ⟨l, hl, rfl, hgs⟩ | ⟨c, t, -, -, -, rfl, -⟩
  · show l.closed = true
    by_contra hopen
    rw [comment?_rest_of_open hl (by simpa using hopen), scan_nil] at hgs
    exact hrest hgs
  · show l.closed = true
    by_contra hopen
    rw [quotedRun?_rest_of_open hl (by simpa using hopen), scan_nil] at hgs
    exact hrest hgs
  · rfl

/-! ## Seams -/

/-- Behind a text that ends at top level the scan begins anew. -/
theorem scan_append {a v : List Char} (h : EndsAtTopLevel rules a)
    (hv : ∀ gs g, scan rules a = gs ++ [g] → g.EndsBefore rules v.head?) :
    scan rules (a ++ v) = scan rules a ++ scan rules v := by
  unfold EndsAtTopLevel at h
  -- on the segments of the first text: only the last of them sees the second text
  fun_induction scan rules a with
  | case1 => rfl
  | case2 c t l hc ih =>
    rw [List.forall_mem_cons] at h
    have hrest := ih h.2 fun gs g hg => hv (.comment l.text l.closed :: gs) g (by rw [hg]; rfl)
    rw [scan_comment (comment?_append_closed hc h.1 v), hrest]
    rfl
  | case3 c t hc l hq ih =>
    rw [List.forall_mem_cons] at h
    have hrest := ih h.2 fun gs g hg => hv (.quoted l.text l.closed :: gs) g (by rw [hg]; rfl)
    have hnext : l.rest = [] → v.head? ≠ l.text.head? := by
      intro hr
      exact hv [] (.quoted l.text l.closed) (by rw [hr, scan_nil]; rfl)
    rw [scan_quoted (quotedRun?_append_closed hq h.1 hnext), hrest]
    rfl
  | case4 c t hc hq ih =>
    rw [List.forall_mem_cons] at h
    have hrest := ih h.2 fun gs g hg => hv (.plain c :: gs) g (by rw [hg]; rfl)
    have hnext : opensComment rules c (t ++ v).head? = false := by
      cases t with
      | nil => exact hv [] (.plain c) (by rw [scan_nil]; rfl)
      | cons d t =>
        have hsame : opensComment rules c (d :: t).head? = false := comment?_eq_none_iff.1 hc
        exact hsame
    rw [List.cons_append, scan_plain hnext (quotedRun?_eq_none_iff.1 hq), hrest]
    rfl

theorem getLast?_of_scan_plain {s : List Char} {gs : List Segment} {c : Char}
    (h : scan rules s = gs ++ [.plain c]) : s.getLast? = some c := by
  rw [← textOf_scan rules s, h, textOf_append]
  exact List.getLast?_concat

/-- The second text may begin with anything that neither doubles a quote nor makes a comment opener
of the last character of the first. -/
theorem scan_append_of_head {a v : List Char} (h : EndsAtTopLevel rules a)
    (hq : v.head?.any isQuote = false) (hstar : v.head? ≠ some '*')
    (hdash : v.head? = some '-' → a.getLast? ≠ some '-') :
    scan rules (a ++ v) = scan rules a ++ scan rules v := by
  refine scan_append h fun gs g hg => endsBefore_of_scan hg hq fun c hc hnone => ?_
  by_cases hv : v.head? = some '-'
  · have hlast : c ≠ '-' := by
      rintro rfl
      exact hdash hv (getLast?_of_scan_plain (hc ▸ hg))
    rw [hv]
    simpa [opensComment, hlast] using hnone
  · exact opensComment_eq_false_of_next hnone hstar hv

theorem spaceComments_append {a v : List Char}
    (h : scan rules (a ++ v) = scan rules a ++ scan rules v) :
    spaceComments rules (a ++ v) = spaceComments rules a ++ spaceComments rules v := by
  rw [spaceComments_eq, h, List.map_append, textOf_append, ← spaceComments_eq, ← spaceComments_eq]

theorem EndsAtTopLevel.spaceComments {s : List Char} (h : EndsAtTopLevel rules s) :
    EndsAtTopLevel rules (spaceComments rules s) := by
  intro g hg
  rw [scan_spaceComments] at hg
  obtain ⟨g', hg', rfl⟩ := List.mem_map.1 hg
  have hclosed := h g' hg'
  cases g' with
  | comment t closed => rfl
  | quoted t closed => exact hclosed
  | plain c => rfl

/-! ## Blanks at the ends -/

theorem EndsAtTopLevel.of_blanks_append {blanks s : List Char}
    (hb : ∀ c ∈ blanks, isBlank c = true) (h : EndsAtTopLevel rules (blanks ++ s)) :
    EndsAtTopLevel rules s := by
  rw [EndsAtTopLevel, scan_blanks_append hb] at h
  exact fun g hg => h g (List.mem_append_right _ hg)

/-- Blanks behind a text without comments are scanned one by one, or they belong to an open quoted
run at its end. -/
theorem scan_append_blanks {blanks s : List Char} (hb : ∀ c ∈ blanks, isBlank c = true)
    (h : IsUncommented rules (s ++ blanks)) :
    scan rules (s ++ blanks) = scan rules s ++ blanks.map Segment.plain ∨
    ∃ gs t, scan rules s = gs ++ [.quoted t false] ∧
      scan rules (s ++ blanks) = gs ++ [.quoted (t ++ blanks) false] := by
  fun_induction scan rules s with
  | case1 =>
    left
    have hscan : scan rules (blanks ++ []) = _ := scan_blanks_append hb []
    rwa [List.append_nil, scan_nil, List.append_nil] at hscan
  | case2 c t l hc ih =>
    obtain ⟨l', hl', -⟩ := exists_comment?_append hb hc
    rw [h.comment?_eq_none] at hl'
    cases hl'
  | case3 c t hc l hq ih =>
    cases hl : l.closed with
    | true =>
      have hscan := scan_quoted (quotedRun?_append_closed hq hl fun _ => head?_blanks_ne hb hq)
      rcases ih (h.of_scan_cons hscan) with hs | ⟨gs, u, hs, hsb⟩
      · left
        rw [hscan, hs, hl]
        rfl
      · right
        refine ⟨.quoted l.text true :: gs, u, ?_, ?_⟩
        · rw [hs]
          rfl
        · rw [hscan, hsb, hl]
          rfl
    | false =>
      right
      have hs := quotedRun?_append hq
      have hr := quotedRun?_rest_of_open hq hl
      rw [hr, List.append_nil] at hs
      refine ⟨[], l.text, ?_, ?_⟩
      · rw [hr, scan_nil]
        rfl
      · rw [scan_quoted (quotedRun?_append_open hb hq hl), scan_nil, hs]
        rfl
  | case4 c t hc hq ih =>
    have hc := opensComment_append_blanks hb (comment?_eq_none_iff.1 hc)
    have hscan := scan_plain hc (quotedRun?_eq_none_iff.1 hq)
    rcases ih (h.of_scan_cons hscan) with hs | ⟨gs, u, hs, hsb⟩
    · left
      rw [List.cons_append, hscan, hs]
      rfl
    · right
      refine ⟨.plain c :: gs, u, ?_, ?_⟩
      · rw [hs]
        rfl
      · rw [List.cons_append, hscan, hsb]
        rfl

theorem EndsAtTopLevel.scan_append_blanks {blanks s : List Char}
    (hb : ∀ c ∈ blanks, isBlank c = true) (h : EndsAtTopLevel rules (s ++ blanks))
    (hcom : IsUncommented rules (s ++ blanks)) :
    scan rules (s ++ blanks) = scan rules s ++ blanks.map Segment.plain := by
  rcases Lexical.scan_append_blanks hb hcom with hs | ⟨gs, t, -, hs⟩
  · exact hs
  · rw [EndsAtTopLevel, hs] at h
    have := h _ (List.mem_append_right gs List.mem_cons_self)
    cases this

theorem tokensOf_blanks {blanks : List Char} (hb : ∀ c ∈ blanks, isBlank c = true) (o : Nat) :
    tokensOf o (blanks.map Segment.plain) = [] := by
  rw [← List.append_nil (blanks.map Segment.plain), tokensOf_blanks_append hb, tokensOf_nil]

theorem tokensOf_append_blanks {blanks : List Char} (hb : ∀ c ∈ blanks, isBlank c = true)
    (o : Nat) (gs : List Segment) :
    tokensOf o (gs ++ blanks.map Segment.plain) = tokensOf o gs := by
  cases blanks with
  | nil => rw [List.map_nil, List.append_nil]
  | cons c blanks =>
    rw [List.map_cons, tokensOf_append_blank (hb c List.mem_cons_self),
      tokensOf_blanks fun d hd => hb d (List.mem_cons_of_mem c hd), List.append_nil]

/-- Blanks at the end of a text at top level are no part of a token. -/
theorem tokensOf_scan_rdropWhile {a : List Char} (h : EndsAtTopLevel rules a)
    (hcom : IsUncommented rules a) (o : Nat) :
    tokensOf o (scan rules (a.rdropWhile isBlank)) = tokensOf o (scan rules a) := by
  obtain ⟨u, hu, ha⟩ := exists_rdropWhile isBlank a
  have hscan := EndsAtTopLevel.scan_append_blanks hu (ha ▸ h) (ha ▸ hcom)
  rw [← ha] at hscan
  rw [hscan, tokensOf_append_blanks hu]

/-! ## Stripped texts -/

variable {s : List Char}

/-- The front of a text at top level may be trimmed. -/
theorem EndsAtTopLevel.dropWhile_isBlank (h : EndsAtTopLevel rules s) :
    EndsAtTopLevel rules (s.dropWhile isBlank) := by
  rw [← List.takeWhile_append_dropWhile (p := isBlank) (l := s)] at h
  exact h.of_blanks_append fun c => List.mem_takeWhile_imp

theorem IsUncommented.dropWhile_isBlank (h : IsUncommented rules s) :
    IsUncommented rules (s.dropWhile isBlank) := by
  rw [← List.takeWhile_append_dropWhile (p := isBlank) (l := s)] at h
  exact h.of_blanks_append fun c => List.mem_takeWhile_imp

/-- The tokens of a text that ends at top level are not those of its last word cut short: nothing
but blanks is trimmed behind it. -/
theorem tokensOf_dropWhile_spaceComments (h : EndsAtTopLevel rules s) :
    tokensOf 0 (scan rules ((spaceComments rules s).dropWhile isBlank)) =
      tokensFrom rules 0 (strip rules s) := by
  rw [tokensFrom_eq (isUncommented_strip s), strip, trim_eq,
    tokensOf_scan_rdropWhile h.spaceComments.dropWhile_isBlank
      (isUncommented_spaceComments s).dropWhile_isBlank]

end SqlTriage.Lexical

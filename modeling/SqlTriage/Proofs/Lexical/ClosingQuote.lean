import Mathlib.Order.Bounds.Defs
import Mathlib.Tactic.SplitIfs
import SqlTriage.Proofs.Lexical.Lookahead

/-!
# Where a quoted run closes

Behind its opening quote a run is read in units, from left to right: a backslash with the character
that it escapes, a doubled quote, or else one character (`IsUnitStart`).  A quote closes the run if
it is no part of such a pair (`IsClosing`).  The run ends with the first quote that does, or with
the text if there is none (`quotedRun?_endsAtClosing`).  As an expression it is a choice of three
items, repeated for as long as one of them fits, and a quote behind them if there is one
(`quotedTail_eq_itemwise`).
-/

namespace SqlTriage.Lexical

variable {escapes : Bool} {q : Char} {s : List Char} {i j n : Nat}

/-! ## Pairs -/

/-- At this place stands a backslash with a character that it escapes. -/
def EscapesAt (escapes : Bool) (s : List Char) (i : Nat) : Prop :=
  escapes = true ∧ s[i]? = some '\\' ∧ i + 1 < s.length

/-- At this place stand two quotes. -/
def DoublesAt (q : Char) (s : List Char) (i : Nat) : Prop :=
  s[i]? = some q ∧ s[i + 1]? = some q

instance : Decidable (EscapesAt escapes s i) :=
  inferInstanceAs (Decidable (_ ∧ _ ∧ _))

instance : Decidable (DoublesAt q s i) :=
  inferInstanceAs (Decidable (_ ∧ _))

/-- The number of characters of the unit at a place. -/
def unitLength (escapes : Bool) (q : Char) (s : List Char) (i : Nat) : Nat :=
  if EscapesAt escapes s i ∨ DoublesAt q s i then 2 else 1

/-- The places at which a unit begins when a text is read in units from its front. -/
inductive IsUnitStart (escapes : Bool) (q : Char) (s : List Char) : Nat → Prop
  | front : IsUnitStart escapes q s 0
  | next {i : Nat} (h : IsUnitStart escapes q s i) (hi : i < s.length) :
    IsUnitStart escapes q s (i + unitLength escapes q s i)

/-- A quote that is neither escaped nor one of two that stand for one. -/
structure IsClosing (escapes : Bool) (q : Char) (s : List Char) (i : Nat) : Prop where
  isQuote : s[i]? = some q
  notEscaped : ∀ j, IsUnitStart escapes q s j → EscapesAt escapes s j → i ≠ j + 1
  notDoubled : ∀ j, IsUnitStart escapes q s j → DoublesAt q s j → i ≠ j ∧ i ≠ j + 1

/-! ## Behind the first unit -/

theorem escapesAt_drop : EscapesAt escapes (s.drop n) i ↔ EscapesAt escapes s (n + i) := by
  have hlength : i + 1 < s.length - n ↔ n + i + 1 < s.length := by omega
  rw [EscapesAt, EscapesAt, List.getElem?_drop, List.length_drop, hlength]

theorem doublesAt_drop : DoublesAt q (s.drop n) i ↔ DoublesAt q s (n + i) := by
  rw [DoublesAt, DoublesAt, List.getElem?_drop, List.getElem?_drop, Nat.add_assoc]

theorem unitLength_drop : unitLength escapes q (s.drop n) i = unitLength escapes q s (n + i) := by
  simp only [unitLength, escapesAt_drop, doublesAt_drop]

theorem unitLength_of_escapesAt (h : EscapesAt escapes s i) : unitLength escapes q s i = 2 :=
  if_pos (Or.inl h)

theorem unitLength_of_doublesAt (h : DoublesAt q s i) : unitLength escapes q s i = 2 :=
  if_pos (Or.inr h)

/-- Behind the first unit the units are those of the text that is left. -/
theorem isUnitStart_iff (hs : s ≠ []) (hn : unitLength escapes q s 0 = n) :
    IsUnitStart escapes q s i ↔ i = 0 ∨ ∃ j, i = n + j ∧ IsUnitStart escapes q (s.drop n) j := by
  constructor
  · intro h
    induction h with
    | front => exact Or.inl rfl
    | @next i h hi ih =>
      refine Or.inr ?_
      rcases ih with rfl | ⟨j, rfl, hj⟩
      · exact ⟨0, by omega, .front⟩
      · have hnext := hj.next (by rw [List.length_drop]; omega)
        rw [unitLength_drop] at hnext
        exact ⟨_, Nat.add_assoc n j _, hnext⟩
  · rintro (rfl | ⟨j, rfl, h⟩)
    · exact .front
    · induction h with
      | front =>
        have hfirst := (@IsUnitStart.front escapes q s).next (List.length_pos_iff.2 hs)
        rwa [hn, Nat.add_comm] at hfirst
      | @next j h hj ih =>
        rw [List.length_drop] at hj
        rw [unitLength_drop, ← Nat.add_assoc]
        exact ih.next (by omega)

/-- Behind the first unit the same quotes close the run of the text that is left. -/
theorem isClosing_drop_iff (hs : s ≠ []) (hn : unitLength escapes q s 0 = n) :
    IsClosing escapes q (s.drop n) i ↔ IsClosing escapes q s (n + i) := by
  constructor
  · rintro ⟨hquote, hescaped, hdoubled⟩
    rw [List.getElem?_drop] at hquote
    refine ⟨hquote, fun j hj he => ?_, fun j hj hd => ?_⟩
    · rcases (isUnitStart_iff hs hn).1 hj with rfl | ⟨k, rfl, hk⟩
      · rw [unitLength_of_escapesAt he] at hn
        omega
      · have := hescaped k hk (escapesAt_drop.2 he)
        omega
    · rcases (isUnitStart_iff hs hn).1 hj with rfl | ⟨k, rfl, hk⟩
      · rw [unitLength_of_doublesAt hd] at hn
        omega
      · have := hdoubled k hk (doublesAt_drop.2 hd)
        omega
  · rintro ⟨hquote, hescaped, hdoubled⟩
    have hstart {j : Nat} (hj : IsUnitStart escapes q (s.drop n) j) :
        IsUnitStart escapes q s (n + j) :=
      (isUnitStart_iff hs hn).2 (Or.inr ⟨j, rfl, hj⟩)
    refine ⟨by rwa [List.getElem?_drop], fun j hj he => ?_, fun j hj hd => ?_⟩
    · have := hescaped (n + j) (hstart hj) (escapesAt_drop.1 he)
      omega
    · have := hdoubled (n + j) (hstart hj) (doublesAt_drop.1 hd)
      omega

/-! ## The first closing quote -/

/-- The lexeme goes up to the first closing quote, or takes all of a text without one. -/
def EndsAtClosing (escapes : Bool) (q : Char) (s : List Char) (l : Lexeme) : Prop :=
  (∃ i, IsLeast {i | IsClosing escapes q s i} i ∧ l = ⟨s.take (i + 1), true, s.drop (i + 1)⟩) ∨
    (∀ i, ¬ IsClosing escapes q s i) ∧ l = ⟨s, false, []⟩

/-- A unit without a closing quote can be put in front. -/
theorem EndsAtClosing.after {l : Lexeme} (h : EndsAtClosing escapes q (s.drop n) l) (hs : s ≠ [])
    (hn : unitLength escapes q s 0 = n) (hnone : ∀ i < n, ¬ IsClosing escapes q s i) :
    EndsAtClosing escapes q s (l.after (s.take n)) := by
  have hbehind {j : Nat} (hj : IsClosing escapes q s j) :
      ∃ k, j = n + k ∧ IsClosing escapes q (s.drop n) k := by
    have hle : n ≤ j := Nat.le_of_not_lt fun hlt => hnone j hlt hj
    obtain ⟨k, rfl⟩ := Nat.exists_eq_add_of_le hle
    exact ⟨k, rfl, (isClosing_drop_iff hs hn).2 hj⟩
  rcases h with ⟨i, ⟨hi, hleast⟩, rfl⟩ | ⟨hnot, rfl⟩
  · refine Or.inl ⟨n + i, ⟨(isClosing_drop_iff hs hn).1 hi, fun j hj => ?_⟩, ?_⟩
    · obtain ⟨k, rfl, hk⟩ := hbehind hj
      exact Nat.add_le_add_left (hleast hk) n
    · rw [Lexeme.after, Nat.add_assoc, List.take_add (i := n), List.drop_drop]
  · refine Or.inr ⟨fun j hj => ?_, ?_⟩
    · obtain ⟨k, -, hk⟩ := hbehind hj
      exact hnot k hk
    · rw [Lexeme.after, List.take_append_drop]

theorem endsAtClosing_nil : EndsAtClosing escapes q [] ⟨[], false, []⟩ :=
  Or.inr ⟨fun i h => by simpa using h.isQuote, rfl⟩

/-- A quote that no quote follows closes the run at once. -/
theorem endsAtClosing_quote (hs : s.head? ≠ some q) :
    EndsAtClosing escapes q (q :: s) ⟨[q], true, s⟩ := by
  refine Or.inl ⟨0, ⟨⟨rfl, fun j _ _ => by omega, fun j _ hd => ?_⟩, fun j _ => j.zero_le⟩, rfl⟩
  refine ⟨?_, by omega⟩
  rintro rfl
  exact hs (by simpa [List.head?_eq_getElem?] using hd.2)

/-- A character other than the quote that begins no pair. -/
theorem EndsAtClosing.cons {c : Char} {l : Lexeme} (h : EndsAtClosing escapes q s l) (hc : c ≠ q)
    (he : ¬ EscapesAt escapes (c :: s) 0) : EndsAtClosing escapes q (c :: s) (l.after [c]) := by
  have hd : ¬ DoublesAt q (c :: s) 0 := fun hd => hc (by simpa using hd.1)
  refine EndsAtClosing.after (n := 1) (s := c :: s) h (List.cons_ne_nil c s) (if_neg ?_)
    fun i hi hclosing => ?_
  · rintro (h | h)
    · exact he h
    · exact hd h
  · obtain rfl : i = 0 := by omega
    exact hc (by simpa using hclosing.isQuote)

/-- Two quotes that stand for one. -/
theorem EndsAtClosing.cons_doubled {l : Lexeme} (h : EndsAtClosing escapes q s l) :
    EndsAtClosing escapes q (q :: q :: s) (l.after [q, q]) := by
  have hd : DoublesAt q (q :: q :: s) 0 := ⟨rfl, rfl⟩
  refine EndsAtClosing.after (n := 2) (s := q :: q :: s) h (List.cons_ne_nil _ _)
    (unitLength_of_doublesAt hd) fun i hi hclosing => ?_
  have := hclosing.notDoubled 0 .front hd
  omega

/-- A backslash with a character that it escapes. -/
theorem EndsAtClosing.cons_escaped {c : Char} {l : Lexeme} (h : EndsAtClosing true q s l)
    (hq : q ≠ '\\') : EndsAtClosing true q ('\\' :: c :: s) (l.after ['\\', c]) := by
  have he : EscapesAt true ('\\' :: c :: s) 0 := ⟨rfl, rfl, by simp⟩
  refine EndsAtClosing.after (n := 2) (s := '\\' :: c :: s) h (List.cons_ne_nil _ _)
    (unitLength_of_escapesAt he) fun i hi hclosing => ?_
  have hne := hclosing.notEscaped 0 .front he
  obtain rfl : i = 0 := by omega
  exact hq (by simpa using hclosing.isQuote.symm)

theorem quotedTail_endsAtClosing (escapes : Bool) (hq : q ≠ '\\') (s : List Char) :
    EndsAtClosing escapes q s (quotedTail escapes q s) := by
  fun_induction quotedTail escapes q s with
  | case1 => exact endsAtClosing_nil
  | case2 c =>
    by_cases hc : c = q
    · subst hc
      rw [beq_self_eq_true]
      exact endsAtClosing_quote (by simp)
    · rw [beq_false_of_ne hc]
      -- a lone backslash at the end escapes nothing
      exact endsAtClosing_nil.cons hc fun he => absurd he.2.2 (by simp)
  | case3 s ih => exact ih.cons_doubled
  | case4 d s hd => exact endsAtClosing_quote (by simpa using hd)
  | case5 c d s hc he ih =>
    obtain ⟨rfl, rfl⟩ : escapes = true ∧ c = '\\' := by simpa using he
    exact ih.cons_escaped hq
  | case6 c d s hc he ih =>
    refine ih.cons hc fun hat => he ?_
    have hc : c = '\\' := by simpa using hat.2.1
    simp [hat.1, hc]

/-- **A quoted run ends with the first quote that closes it**, or with the text if none does.  A
backslash escapes where the rules have it and the quote is no backtick.  What follows a closed run
may be replaced by anything that does not begin with the quote.  Only a quote opens a run. -/
theorem quotedRun?_endsAtClosing (rules : LexicalRules) (s : List Char) :
    (quotedRun? rules s = none ↔ s.head?.any isQuote = false) ∧
      ∀ q t, s = q :: t → isQuote q = true → ∃ l, quotedRun? rules s = some (l.after [q]) ∧
        EndsAtClosing (rules.backslashEscapes && q != '\x60') q t l ∧
        (l.closed = true → ∀ v, v.head? ≠ some q →
          quotedRun? rules (q :: l.text ++ v) = some ⟨q :: l.text, true, v⟩) := by
  refine ⟨?_, ?_⟩
  · cases s with
    | nil => simp [quotedRun?]
    | cons c t => exact quotedRun?_eq_none_iff
  · rintro q t rfl hq
    have hbackslash : q ≠ '\\' := by
      rintro rfl
      revert hq
      decide
    have hrun : quotedRun? rules (q :: t) =
        some ((quotedTail (rules.escapesIn q) q t).after [q]) := if_pos hq
    refine ⟨_, hrun, quotedTail_endsAtClosing _ hbackslash t, fun hclosed v hv => ?_⟩
    have hreplace := quotedRun?_replace_closed hrun hclosed (v := v) hv
    rw [Lexeme.after, hclosed] at hreplace
    exact hreplace

/-- A doubled and an escaped quote, then the one that closes the run. -/
theorem quotedRun?_endsAtClosing_pairs :
    isQuote '\x27' = true ∧
      quotedRun? { backslashEscapes := true } "'a''b\\'c' d".toList =
        some ⟨"'a''b\\'c'".toList, true, " d".toList⟩ ∧
      quotedRun? { backslashEscapes := true } "'a''b\\'c';".toList =
        some ⟨"'a''b\\'c'".toList, true, ";".toList⟩ := by
  have hvalue : quotedRun? { backslashEscapes := true } "'a''b\\'c' d".toList =
      some ⟨"'a''b\\'c'".toList, true, " d".toList⟩ := by decide
  obtain ⟨l, hrun, -, hreplace⟩ := (quotedRun?_endsAtClosing { backslashEscapes := true }
    "'a''b\\'c' d".toList).2 '\x27' _ rfl rfl
  rw [hvalue, Option.some_inj] at hrun
  obtain ⟨htext, hclosed, -⟩ := Lexeme.mk.inj hrun
  have htext : '\x27' :: l.text = "'a''b\\'c'".toList := htext.symm
  have hbehind := hreplace hclosed.symm [';'] (by decide)
  rw [htext] at hbehind
  exact ⟨rfl, hvalue, hbehind⟩

/-! ## One item at a time -/

/-- A character that is an item of no other kind. -/
def isOrdinary (escapes : Bool) (q c : Char) : Bool :=
  c != q && !(escapes && c == '\\')

/-- The item at the front of a text and what follows it.  The first of three kinds that fits is
taken: ordinary characters, as many as there are, a doubled quote, or a backslash with the character
behind it. -/
def item? (escapes : Bool) (q : Char) (s : List Char) : Option (List Char × List Char) :=
  if s.head?.any (isOrdinary escapes q) then
    some (s.takeWhile (isOrdinary escapes q), s.dropWhile (isOrdinary escapes q))
  else if [q, q] <+: s then some (s.take 2, s.drop 2)
  else if s.head? = some '\\' then some (s.take 2, s.drop 2)
  else none

theorem item?_append {item : List Char × List Char} (h : item? escapes q s = some item) :
    item.1 ++ item.2 = s := by
  unfold item? at h
  split at h
  · cases h
    exact List.takeWhile_append_dropWhile
  · split at h
    · cases h
      exact List.take_append_drop 2 s
    · split at h <;> cases h
      exact List.take_append_drop 2 s

theorem item?_length_lt {item : List Char × List Char} (h : item? escapes q s = some item) :
    item.2.length < s.length := by
  refine length_rest_lt (item?_append h) ?_
  cases s with
  | nil => simp [item?] at h
  | cons c t =>
    unfold item? at h
    split at h
    · rename_i hc
      cases h
      have hc : isOrdinary escapes q c = true := hc
      simp [hc]
    · split at h
      · cases h
        simp
      · split at h <;> cases h
        simp

/-- The part of a quoted run behind its opening quote, as items for as long as one fits and a quote
behind them, if there is one. -/
def itemwise (escapes : Bool) (q : Char) (s : List Char) : Lexeme :=
  match _ : item? escapes q s with
  | some item => (itemwise escapes q item.2).after item.1
  | none => if s.head? = some q then ⟨[q], true, s.tail⟩ else ⟨[], false, s⟩
termination_by s.length
decreasing_by exact item?_length_lt ‹_›

theorem quotedTail_ordinary {front : List Char} (h : ∀ c ∈ front, isOrdinary escapes q c = true)
    (s : List Char) : quotedTail escapes q (front ++ s) = (quotedTail escapes q s).after front := by
  induction front with
  | nil => rfl
  | cons c front ih =>
    obtain ⟨hc, hfront⟩ := List.forall_mem_cons.1 h
    rw [isOrdinary, Bool.and_eq_true, bne_iff_ne, Bool.not_eq_true'] at hc
    rw [List.cons_append, quotedTail_cons hc.1 hc.2, ih hfront]
    rfl

theorem quotedTail_item (hq : q ≠ '\\') {item : List Char × List Char}
    (h : item? escapes q s = some item) :
    quotedTail escapes q s = (quotedTail escapes q item.2).after item.1 := by
  unfold item? at h
  split at h
  · cases h
    rw [← quotedTail_ordinary fun c => List.mem_takeWhile_imp, List.takeWhile_append_dropWhile]
  · rename_i hordinary
    split at h
    · rename_i hdoubled
      obtain ⟨t, rfl⟩ := hdoubled
      cases h
      simp [quotedTail]
    · split at h <;> cases h
      rename_i hbackslash
      obtain ⟨t, rfl⟩ := List.head?_eq_some_iff.1 hbackslash
      have hescapes : escapes = true := by simpa [isOrdinary, hq.symm] using hordinary
      cases t with
      | nil => simp [quotedTail, Lexeme.after, hq.symm]
      | cons d t => simp [quotedTail, hq.symm, hescapes]

theorem of_item?_eq_none (h : item? escapes q s = none) :
    s.head?.any (isOrdinary escapes q) = false ∧ ¬ [q, q] <+: s ∧ s.head? ≠ some '\\' := by
  unfold item? at h
  split_ifs at h with hordinary hdoubled hbackslash
  exact ⟨by simpa using hordinary, hdoubled, hbackslash⟩

/-- No item fits at a quote that no quote follows, nor at the end. -/
theorem quotedTail_of_item?_eq_none (h : item? escapes q s = none) :
    quotedTail escapes q s = if s.head? = some q then ⟨[q], true, s.tail⟩ else ⟨[], false, s⟩ := by
  obtain ⟨hordinary, hdoubled, hbackslash⟩ := of_item?_eq_none h
  cases s with
  | nil => rfl
  | cons c t =>
    have hne : c ≠ '\\' := by simpa using hbackslash
    obtain rfl : c = q := by simpa [isOrdinary, hne] using hordinary
    have ht : t.head? ≠ some c := by
      intro ht
      obtain ⟨u, rfl⟩ := List.head?_eq_some_iff.1 ht
      exact hdoubled ⟨u, rfl⟩
    rw [quotedTail_closing ht, List.head?_cons, if_pos rfl, List.tail_cons]

/-- The choice of items takes what the run takes. -/
theorem quotedTail_eq_itemwise (escapes : Bool) (hq : q ≠ '\\') (s : List Char) :
    quotedTail escapes q s = itemwise escapes q s := by
  fun_induction itemwise escapes q s with
  | case1 s item h ih => rw [quotedTail_item hq h, ih]
  | case2 s h hs => rw [quotedTail_of_item?_eq_none h, if_pos hs]
  | case3 s h hs => rw [quotedTail_of_item?_eq_none h, if_neg hs]

end SqlTriage.Lexical

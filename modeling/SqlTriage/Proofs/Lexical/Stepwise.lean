import Mathlib
import SqlTriage.Proofs.Lexical.Scan

/-!
# Stripping step by step

Stripping copies runs of plain characters at once.  Here is the scanner that decides at every
position anew (`stepwise`): it writes a space and goes behind the comment that begins there, or
copies the quoted run that begins there, or copies one character.  Where a comment ends is read off
the text by a search of its own (`behindComment?`).  A stripped text is what that scanner writes,
without the blanks at its ends (`stripped_eq_stepwise`).
-/

namespace SqlTriage.Lexical

open SqlTriage.Text

variable {rules : LexicalRules}

/-! ## Behind a comment -/

/-- What is left of a text behind the first place where `part` stands in it. -/
def behindFirst? (part s : List Char) : Option (List Char) :=
  (s.tails.find? part.isPrefixOf).map (List.drop part.length)

/-- What is left of a text behind the comment at its front.  A block comment goes up to the first
`*/` that begins behind its `/*`, or to the end of the text; a line comment goes up to the first
line end. -/
def behindComment? (rules : LexicalRules) (s : List Char) : Option (List Char) :=
  if ['/', '*'] <+: s then some ((behindFirst? ['*', '/'] (s.drop 2)).getD [])
  else if ∃ opener ∈ rules.lineOpeners, opener <+: s then some (s.dropWhile fun c => !isLineEnd c)
  else none

theorem behindFirst?_cons (part : List Char) (c : Char) (s : List Char) :
    behindFirst? part (c :: s) =
      if part.isPrefixOf (c :: s) then some ((c :: s).drop part.length)
      else behindFirst? part s := by
  unfold behindFirst?
  rw [List.tails_cons, List.find?_cons]
  cases part.isPrefixOf (c :: s) <;> rfl

theorem blockTail_rest (s : List Char) :
    (blockTail s).rest = (behindFirst? ['*', '/'] s).getD [] := by
  fun_induction blockTail s with
  | case1 => rfl
  | case2 c => rw [behindFirst?_cons]; simp [behindFirst?]
  | case3 c d s h =>
    obtain ⟨rfl, rfl⟩ := h
    rw [behindFirst?_cons]
    simp
  | case4 c d s h ih =>
    have hp : ['*', '/'].isPrefixOf (c :: d :: s) = false := by
      rw [Bool.eq_false_iff, Ne, List.isPrefixOf_iff_prefix]
      simpa [List.cons_prefix_cons, eq_comm] using h
    rw [behindFirst?_cons, hp, Lexeme.rest_after, ih]
    rfl

theorem behindComment?_line {opener : List Char} (h : opener ∈ rules.lineOpeners)
    (s : List Char) : behindComment? rules (opener ++ s) = some (lineTail s).rest := by
  have hblock : ¬ ['/', '*'] <+: opener ++ s := by
    rcases mem_lineOpeners h with rfl | ⟨-, rfl⟩ <;> simp [List.cons_prefix_cons]
  have hline : ∀ c ∈ opener, (!isLineEnd c) = true := by
    rcases mem_lineOpeners h with rfl | ⟨-, rfl⟩ <;> simp [isLineEnd]
  rw [behindComment?, if_neg hblock, if_pos ⟨opener, h, List.prefix_append opener s⟩,
    List.dropWhile_append_of_pos hline]
  rfl

/-- The search finds the same comments, with the same ends. -/
theorem behindComment?_eq (rules : LexicalRules) (s : List Char) :
    behindComment? rules s = (comment? rules s).map Lexeme.rest := by
  cases h : comment? rules s with
  | some l =>
    rcases comment?_eq_some_cases h with ⟨t, rfl, rfl⟩ | ⟨opener, ho, t, rfl, rfl⟩
    · simp [behindComment?, blockTail_rest]
    · exact behindComment?_line ho t
  | none =>
    have hopen : ∀ opener ∈ rules.commentOpeners, ¬ opener <+: s := by
      cases s with
      | nil => exact fun o ho hp => ne_nil_of_mem_commentOpeners ho (List.prefix_nil.1 hp)
      | cons c t => exact opensComment_eq_false_iff.1 (comment?_eq_none_iff.1 h)
    obtain ⟨hblock, hline⟩ := List.forall_mem_cons.1 hopen
    rw [behindComment?, if_neg hblock, if_neg fun ⟨o, ho, hp⟩ => hline o ho hp]
    rfl

theorem exists_comment?_of_behindComment? {s rest : List Char}
    (h : behindComment? rules s = some rest) :
    ∃ l, comment? rules s = some l ∧ l.rest = rest := by
  rw [behindComment?_eq] at h
  exact Option.map_eq_some_iff.1 h

theorem comment?_eq_none_of_behindComment? {s : List Char}
    (h : behindComment? rules s = none) : comment? rules s = none := by
  rw [behindComment?_eq] at h
  exact Option.map_eq_none_iff.1 h

theorem behindComment?_length_lt {s rest : List Char} (h : behindComment? rules s = some rest) :
    rest.length < s.length := by
  obtain ⟨l, hl, rfl⟩ := exists_comment?_of_behindComment? h
  exact comment?_length_lt hl

/-! ## The scanner -/

/-- The text with a space in place of each comment, one comment, quoted run or character at a
time. -/
def stepwise (rules : LexicalRules) (s : List Char) : List Char :=
  match s with
  | [] => []
  | c :: t =>
    match _ : behindComment? rules (c :: t) with
    | some rest => ' ' :: stepwise rules rest
    | none =>
      match _ : quotedRun? rules (c :: t) with
      | some l => l.text ++ stepwise rules l.rest
      | none => c :: stepwise rules t
termination_by s.length
decreasing_by
  · exact behindComment?_length_lt ‹_›
  · exact quotedRun?_length_lt ‹_›
  · exact Nat.lt_succ_self _

/-- Copying runs of plain characters at once passes over nothing that opens. -/
theorem spaceComments_eq_stepwise (rules : LexicalRules) (s : List Char) :
    spaceComments rules s = stepwise rules s := by
  fun_induction stepwise rules s with
  | case1 => exact spaceComments_nil
  | case2 c t rest hc ih =>
    obtain ⟨l, hl, rfl⟩ := exists_comment?_of_behindComment? hc
    rw [spaceComments_comment hl, ih]
  | case3 c t hc l hq ih => rw [spaceComments_quoted hq, ih]
  | case4 c t hc hq ih =>
    have hc := comment?_eq_none_iff.1 (comment?_eq_none_of_behindComment? hc)
    rw [spaceComments_plain hc (quotedRun?_eq_none_iff.1 hq), ih]

/-- **A stripped text is what the scanner writes that decides at every position anew**, without the
blanks at its ends.  The text is made of comments, quoted runs and single characters, and all but
the comments are written as they are, in order. -/
theorem stripped_eq_stepwise (rules : LexicalRules) (text : String) :
    rules.stripped text = String.ofList (trim isBlank (stepwise rules text.toList)) ∧
      textOf (scan rules text.toList) = text.toList ∧
      stepwise rules text.toList = textOf ((scan rules text.toList).map Segment.blanked) := by
  refine ⟨?_, textOf_scan rules text.toList, ?_⟩
  · rw [LexicalRules.stripped, strip, spaceComments_eq_stepwise]
  · rw [← spaceComments_eq_stepwise, spaceComments_eq]

/-- The slash behind `/*` does not close the comment, and dashes between quotes open none. -/
theorem stripped_eq_stepwise_open :
    stepwise {} " a-/*/b*/'--' -- c".toList = " a- '--'  ".toList ∧
      ({} : LexicalRules).stripped " a-/*/b*/'--' -- c" = "a- '--'" := by
  have hstepwise : stepwise {} " a-/*/b*/'--' -- c".toList = " a- '--'  ".toList := by cbv
  refine ⟨hstepwise, ?_⟩
  rw [(stripped_eq_stepwise {} " a-/*/b*/'--' -- c").1, hstepwise]
  decide

end SqlTriage.Lexical

import Mathlib.Data.List.Chain
import SqlTriage.Text.Blank

/-!
# Words on one line

The words of a text are non-empty and hold no white space (`of_mem_words`).  Written with one space
between neighbours they are read back (`words_intercalate`), and there is no other white space in
such a line (`isSqueezed_intercalate`).  So a text on one line is the text with its white space
squeezed (`isSqueezed_singleLine`).
-/

namespace SqlTriage.Text

/-- The white space in the text is single spaces, each with something else on both sides. -/
structure IsSqueezed (s : List Char) : Prop where
  eq_space : ∀ c ∈ s, isSpace c = true → c = ' '
  single : s.IsChain fun c d => isSpace c = false ∨ isSpace d = false
  head : s.head?.any isSpace = false
  last : s.getLast?.any isSpace = false

/-! ## Words -/

theorem isSpace_of_mem_splitOnP {s w : List Char} (h : w ∈ s.splitOnP isSpace) :
    ∀ c ∈ w, isSpace c = false := by
  induction s generalizing w with
  | nil =>
    rw [List.splitOnP_nil, List.mem_singleton] at h
    simp [h]
  | cons d s ih =>
    rw [List.splitOnP_cons_eq_if_modifyHead] at h
    cases hs : s.splitOnP isSpace with
    | nil => exact absurd hs (List.splitOnP_ne_nil isSpace s)
    | cons v vs =>
      rw [hs] at h ih
      by_cases hd : isSpace d = true
      · rw [if_pos hd] at h
        rcases List.mem_cons.1 h with rfl | h
        · simp
        · exact ih h
      · -- the character belongs to the first piece
        rw [if_neg hd, List.modifyHead_cons] at h
        rcases List.mem_cons.1 h with rfl | h
        · exact List.forall_mem_cons.2 ⟨by simpa using hd, ih List.mem_cons_self⟩
        · exact ih (List.mem_cons_of_mem v h)

theorem of_mem_words {s w : List Char} (h : w ∈ words s) :
    w ≠ [] ∧ ∀ c ∈ w, isSpace c = false := by
  obtain ⟨hw, hne⟩ := List.mem_filter.1 h
  exact ⟨by simpa using hne, isSpace_of_mem_splitOnP hw⟩

theorem words_append_space {c : Char} (hc : isSpace c = true) (s t : List Char) :
    words (s ++ c :: t) = words s ++ words t := by
  rw [words, List.splitOnP_append_cons s t hc, List.filter_append]
  rfl

theorem words_eq_singleton {w : List Char} (hne : w ≠ []) (hw : ∀ c ∈ w, isSpace c = false) :
    words w = [w] := by
  rw [words, List.splitOnP_eq_singleton hw]
  simp [hne]

/-! ## Words with spaces between them -/

variable {ws : List (List Char)}

theorem intercalate_cons_cons (w v : List Char) (ws : List (List Char)) :
    [' '].intercalate (w :: v :: ws) = w ++ ' ' :: [' '].intercalate (v :: ws) := by
  rw [List.intercalate_cons_cons, List.append_assoc]
  rfl

theorem head?_intercalate {w : List Char} (hne : w ≠ []) (ws : List (List Char)) :
    ([' '].intercalate (w :: ws)).head? = w.head? := by
  cases ws with
  | nil => rw [List.intercalate_singleton]
  | cons v ws => rw [intercalate_cons_cons, List.head?_append_of_ne_nil w hne]

/-- The words are read back from the line. -/
theorem words_intercalate (h : ∀ w ∈ ws, w ≠ [] ∧ ∀ c ∈ w, isSpace c = false) :
    words ([' '].intercalate ws) = ws := by
  induction ws with
  | nil => rfl
  | cons w ws ih =>
    rw [List.forall_mem_cons] at h
    have hw := words_eq_singleton h.1.1 h.1.2
    cases ws with
    | nil => rw [List.intercalate_singleton, hw]
    | cons v ws => rw [intercalate_cons_cons, words_append_space (by decide), hw, ih h.2]; rfl

namespace IsSqueezed

theorem of_word {w : List Char} (hw : ∀ c ∈ w, isSpace c = false) : IsSqueezed w where
  eq_space c hc hspace := by
    rw [hw c hc] at hspace
    cases hspace
  single := (List.pairwise_of_forall_mem_list fun c hc _ _ => Or.inl (hw c hc)).isChain
  head := (Option.any_eq_false _ _).2 fun _ hc => hw _ (List.mem_of_mem_head? hc)
  last := (Option.any_eq_false _ _).2 fun _ hc => hw _ (List.mem_of_getLast? hc)

/-- A space goes between two squeezed texts. -/
theorem append_space {s t : List Char} (hs : IsSqueezed s) (ht : IsSqueezed t) (hne : s ≠ [])
    (hne' : t ≠ []) : IsSqueezed (s ++ ' ' :: t) where
  eq_space c hc hspace := by
    rcases List.mem_append.1 hc with hc | hc
    · exact hs.eq_space c hc hspace
    · rcases List.mem_cons.1 hc with hc | hc
      · exact hc
      · exact ht.eq_space c hc hspace
  single := by
    rw [List.isChain_append, List.isChain_cons]
    refine ⟨hs.single, ⟨fun d hd => Or.inr ?_, ht.single⟩, fun c hc _ _ => Or.inl ?_⟩
    · exact (Option.any_eq_false _ _).1 ht.head d hd
    · exact (Option.any_eq_false _ _).1 hs.last c hc
  head := by rw [List.head?_append_of_ne_nil s hne, hs.head]
  last := by
    rw [List.getLast?_append_of_ne_nil s (List.cons_ne_nil ' ' t), ← List.singleton_append,
      List.getLast?_append_of_ne_nil [' '] hne', ht.last]

/-- No tab and no line end is left. -/
theorem notMem {s : List Char} (h : IsSqueezed s) {c : Char} (hc : isSpace c = true)
    (hne : c ≠ ' ') : c ∉ s :=
  fun hm => hne (h.eq_space c hm hc)

end IsSqueezed

theorem isSqueezed_intercalate (h : ∀ w ∈ ws, w ≠ [] ∧ ∀ c ∈ w, isSpace c = false) :
    IsSqueezed ([' '].intercalate ws) := by
  induction ws with
  | nil => exact IsSqueezed.of_word (by simp)
  | cons w ws ih =>
    rw [List.forall_mem_cons] at h
    have hw := IsSqueezed.of_word h.1.2
    cases ws with
    | nil => rwa [List.intercalate_singleton]
    | cons v ws =>
      have hv : v ≠ [] := (h.2 v List.mem_cons_self).1
      have hrest : [' '].intercalate (v :: ws) ≠ [] := by
        intro hnil
        have hhead := head?_intercalate hv ws
        rw [hnil] at hhead
        exact hv (List.head?_eq_none_iff.1 hhead.symm)
      rw [intercalate_cons_cons]
      exact hw.append_space (ih h.2) h.1.1 hrest

/-- A text on one line has the same words, and its white space is squeezed. -/
theorem isSqueezed_singleLine (s : String) :
    words (singleLine s).toList = words s.toList ∧ IsSqueezed (singleLine s).toList := by
  have h : ∀ w ∈ words s.toList, w ≠ [] ∧ ∀ c ∈ w, isSpace c = false := fun _ => of_mem_words
  rw [singleLine, String.toList_ofList]
  exact ⟨words_intercalate h, isSqueezed_intercalate h⟩

end SqlTriage.Text

import SqlTriage.Proofs.Lexical.TokenStream

/-!
# Portable texts

Lexical rules differ in what they make of a number sign and of a backslash.  A text that holds
neither (`IsPortable`) is scanned, stripped and cut into tokens in the same way under all rules.
What stands behind a lexeme of a portable text is portable again, so that each of these functions
takes the same steps under both rules.
-/

namespace SqlTriage.Lexical

open SqlTriage.Text

/-- The text holds none of the characters on which lexical rules differ. -/
def IsPortable (s : List Char) : Prop :=
  '#' ∉ s ∧ '\\' ∉ s

theorem IsPortable.subset {s t : List Char} (h : IsPortable s) (ht : t ⊆ s) : IsPortable t :=
  ⟨fun hm => h.1 (ht hm), fun hm => h.2 (ht hm)⟩

theorem IsPortable.of_append_right {s t : List Char} (h : IsPortable (s ++ t)) : IsPortable t :=
  h.subset (List.subset_append_right s t)

theorem IsPortable.of_cons {c : Char} {s : List Char} (h : IsPortable (c :: s)) : IsPortable s :=
  h.subset (List.subset_cons_self c s)

theorem IsPortable.ne_hash {c : Char} {s : List Char} (h : IsPortable (c :: s)) : c ≠ '#' := by
  rintro rfl
  exact h.1 List.mem_cons_self

/-! ## Lexemes -/

theorem IsPortable.of_comment? {rules : LexicalRules} {s : List Char} {l : Lexeme}
    (h : IsPortable s) (hc : comment? rules s = some l) : IsPortable l.rest := by
  rw [← comment?_append hc] at h
  exact h.of_append_right

theorem IsPortable.of_quotedRun? {rules : LexicalRules} {s : List Char} {l : Lexeme}
    (h : IsPortable s) (hq : quotedRun? rules s = some l) : IsPortable l.rest := by
  rw [← quotedRun?_append hq] at h
  exact h.of_append_right

variable (rules rules' : LexicalRules)

theorem comment?_agree {s : List Char} (h : IsPortable s) :
    comment? rules s = comment? rules' s := by
  cases s with
  | nil => rfl
  | cons c t =>
    have hc := h.ne_hash
    cases t with
    | nil => simp [comment?, hc]
    | cons d t => simp [comment?, hc]

theorem opensComment_agree {c : Char} {s : List Char} (h : IsPortable (c :: s)) :
    opensComment rules c s.head? = opensComment rules' c s.head? := by
  have hc : (c == '#') = false := beq_eq_false_iff_ne.2 h.ne_hash
  rw [opensComment, opensComment, hc, Bool.false_and, Bool.false_and]

theorem quotedRun?_agree {s : List Char} (h : IsPortable s) :
    quotedRun? rules s = quotedRun? rules' s := by
  cases s with
  | nil => rfl
  | cons q t =>
    have hnone : ¬ ['\\', q] <:+: t := fun ht => h.of_cons.2 (ht.subset List.mem_cons_self)
    rw [quotedRun?, quotedRun?, quotedTail_eq_of_not_escaped (rules.escapesIn q) hnone,
      quotedTail_eq_of_not_escaped (rules'.escapesIn q) hnone]

/-! ## Stripping -/

theorem scan_agree {s : List Char} (h : IsPortable s) : scan rules s = scan rules' s := by
  fun_induction scan rules s with
  | case1 => rw [scan_nil]
  | case2 c t l hc ih =>
    have hc' := hc
    rw [comment?_agree rules rules' h] at hc'
    rw [scan_comment hc', ih (h.of_comment? hc)]
  | case3 c t hc l hq ih =>
    have hq' := hq
    rw [quotedRun?_agree rules rules' h] at hq'
    rw [scan_quoted hq', ih (h.of_quotedRun? hq)]
  | case4 c t hc hq ih =>
    have hc := comment?_eq_none_iff.1 hc
    rw [opensComment_agree rules rules' h] at hc
    rw [scan_plain hc (quotedRun?_eq_none_iff.1 hq), ih h.of_cons]

theorem strip_agree {s : List Char} (h : IsPortable s) : strip rules s = strip rules' s := by
  rw [strip, strip, spaceComments_eq, spaceComments_eq, scan_agree rules rules' h]

theorem isPortable_strip {s : List Char} (h : IsPortable s) : IsPortable (strip rules s) := by
  have hspace : IsPortable (' ' :: s) := by
    refine ⟨?_, ?_⟩
    · simpa using h.1
    · simpa using h.2
  exact hspace.subset fun c hc => List.mem_cons.2 (mem_spaceComments (trim_subset isBlank _ hc))

/-! ## Tokens -/

theorem word_agree {s : List Char} (h : IsPortable s) : word rules s = word rules' s := by
  fun_induction word rules s with
  | case1 => rw [word]
  | case2 c t l hq more ih =>
    have hagree := quotedRun?_agree rules rules' h
    rw [word_quoted (hagree ▸ hq), ← ih (h.of_quotedRun? hq)]
  | case3 c t hq hc => rw [word_plain (quotedRun?_eq_none_iff.1 hq), if_pos hc]
  | case4 c t hq hc more ih =>
    rw [word_plain (quotedRun?_eq_none_iff.1 hq), if_neg hc, ← ih h.of_cons]

theorem tokensFrom_agree {s : List Char} (h : IsPortable s) (o : Nat) :
    tokensFrom rules o s = tokensFrom rules' o s := by
  fun_induction tokensFrom rules o s with
  | case1 => rw [tokensFrom]
  | case2 o c t hb ih => rw [tokensFrom, dif_pos hb, ih h.of_cons]
  | case3 o c t hb hp ih => rw [tokensFrom, dif_neg hb, dif_pos hp, ih h.of_cons]
  | case4 o c t hb hp w ih =>
    have hrest : IsPortable (word rules (c :: t)).2 := by
      rw [← word_append rules (c :: t)] at h
      exact h.of_append_right
    rw [tokensFrom, dif_neg hb, dif_neg hp, ← word_agree rules rules' h, ih hrest]

end SqlTriage.Lexical

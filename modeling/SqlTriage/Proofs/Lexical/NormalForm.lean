import Mathlib.Data.List.Infix
import SqlTriage.Proofs.Lexical.TokenStream

/-!
# The normal form of a text

A text is normal if it has no blank at its ends and no comment opener outside its quoted runs
(`IsNormal`).  The quoted runs are read here without regard to comments (`outsideQuotes`), which
makes no difference exactly in the texts without comments (`isUncommented_iff`).  The stripped
texts are the normal ones (`strip_eq_self_iff_isNormal`).
-/

namespace SqlTriage.Lexical

open SqlTriage.Text

variable {rules : LexicalRules}

/-! ## Outside quoted runs -/

/-- The parts of a text before, between and behind its quoted runs.  A quote outside a run opens
one, whatever stands before it. -/
def outsideQuotes (rules : LexicalRules) (s : List Char) : List (List Char) :=
  match s with
  | [] => [[]]
  | c :: t =>
    match _ : quotedRun? rules (c :: t) with
    | some l => [] :: outsideQuotes rules l.rest
    | none => (outsideQuotes rules t).modifyHead (c :: ·)
termination_by s.length
decreasing_by
  · exact quotedRun?_length_lt ‹_›
  · exact Nat.lt_succ_self _

/-- The text has no blank at its ends and no comment opener outside its quoted runs. -/
structure IsNormal (rules : LexicalRules) (s : List Char) : Prop where
  head : s.head?.any isBlank = false
  last : s.getLast?.any isBlank = false
  opener : ∀ part ∈ outsideQuotes rules s, ∀ o ∈ rules.commentOpeners, ¬ o <:+: part

/-! ## Comment openers -/

theorem forall_not_infix_nil : ∀ o ∈ rules.commentOpeners, ¬ o <:+: [] :=
  fun _ ho h => ne_nil_of_mem_commentOpeners ho (List.infix_nil.1 h)

theorem forall_not_infix_cons_iff {c : Char} {s : List Char} :
    (∀ o ∈ rules.commentOpeners, ¬ o <:+: c :: s) ↔
      opensComment rules c s.head? = false ∧ ∀ o ∈ rules.commentOpeners, ¬ o <:+: s := by
  simp only [opensComment_eq_false_iff, List.infix_cons_iff, not_or, forall_and]

/-! ## Texts without comments -/

/-- The first part goes up to the first quoted run, whose quote opens no comment together with
the character before it. -/
theorem exists_outsideQuotes (rules : LexicalRules) (s : List Char) :
    ∃ part parts, outsideQuotes rules s = part :: parts ∧
      ∀ c, opensComment rules c part.head? = opensComment rules c s.head? := by
  fun_induction outsideQuotes rules s with
  | case1 => exact ⟨[], [], rfl, fun c => rfl⟩
  | case2 c t l hq ih =>
    refine ⟨[], _, rfl, fun d => ?_⟩
    have hquote : isQuote c = true := by
      by_contra hn
      rw [quotedRun?_eq_none_iff.2 (by simpa using hn)] at hq
      cases hq
    have hstar : c ≠ '*' := by
      rintro rfl
      revert hquote
      decide
    have hdash : c ≠ '-' := by
      rintro rfl
      revert hquote
      decide
    simp [opensComment, hstar, hdash]
  | case3 c t hq ih =>
    obtain ⟨part, parts, hparts, -⟩ := ih
    exact ⟨c :: part, parts, by rw [hparts]; rfl, fun d => rfl⟩

theorem isUncommented_nil : IsUncommented rules [] := by
  intro g hg
  rw [scan_nil] at hg
  cases hg

theorem isUncommented_quoted_iff {s : List Char} {l : Lexeme} (h : quotedRun? rules s = some l) :
    IsUncommented rules s ↔ IsUncommented rules l.rest := by
  rw [IsUncommented, scan_quoted h, List.forall_mem_cons]
  exact and_iff_right rfl

theorem isUncommented_plain_iff {c : Char} {t : List Char} (hq : isQuote c = false) :
    IsUncommented rules (c :: t) ↔
      opensComment rules c t.head? = false ∧ IsUncommented rules t := by
  constructor
  · intro h
    have hc := comment?_eq_none_iff.1 h.comment?_eq_none
    exact ⟨hc, h.of_scan_cons (scan_plain hc hq)⟩
  · rintro ⟨hc, ht⟩
    rw [IsUncommented, scan_plain hc hq]
    exact List.forall_mem_cons.2 ⟨rfl, ht⟩

/-- A text holds no comment exactly if no comment opener stands outside its quoted runs. -/
theorem isUncommented_iff (rules : LexicalRules) (s : List Char) :
    IsUncommented rules s ↔
      ∀ part ∈ outsideQuotes rules s, ∀ o ∈ rules.commentOpeners, ¬ o <:+: part := by
  fun_induction outsideQuotes rules s with
  | case1 => exact iff_of_true isUncommented_nil (by simpa using forall_not_infix_nil)
  | case2 c t l hq ih =>
    rw [isUncommented_quoted_iff hq, ih, List.forall_mem_cons]
    exact (and_iff_right forall_not_infix_nil).symm
  | case3 c t hq ih =>
    obtain ⟨part, parts, hparts, hhead⟩ := exists_outsideQuotes rules t
    rw [isUncommented_plain_iff (quotedRun?_eq_none_iff.1 hq), ih, hparts, List.modifyHead_cons,
      List.forall_mem_cons, List.forall_mem_cons, forall_not_infix_cons_iff, hhead, and_assoc]

/-- Stripping leaves exactly the normal texts as they are. -/
theorem strip_eq_self_iff_isNormal {s : List Char} : strip rules s = s ↔ IsNormal rules s := by
  rw [strip_eq_self_iff, isUncommented_iff]
  exact ⟨fun ⟨ho, hh, hl⟩ => ⟨hh, hl, ho⟩, fun h => ⟨h.opener, h.head, h.last⟩⟩

theorem isNormal_strip (s : List Char) : IsNormal rules (strip rules s) :=
  strip_eq_self_iff_isNormal.1 (strip_strip s)

end SqlTriage.Lexical

import Mathlib
import SqlTriage.Proofs.Lexical.Gap
import SqlTriage.Proofs.Lexical.Seam

/-!
# Texts apart

Behind a text that ends at top level a gap keeps the tokens before it and those behind it apart:
none is lost, none runs across, and those behind it are moved by as many bytes as the stripped form
grows (`tokensFrom_gap`).  The one exception is a dash at the end of the text with a dash comment
behind it, since the comment then begins at the first dash.
-/

namespace SqlTriage.Lexical

open SqlTriage.Text

variable {rules : LexicalRules} {a g : List Char}

/-! ## Where a gap begins -/

theorem head?_closedComment {t : List Char} (ht : ClosedComment rules t) :
    t.head?.any isQuote = false ∧ t.head? ≠ some '*' := by
  cases ht with
  | block body h => exact ⟨rfl, by simp⟩
  | line opener body stop ho hb hs =>
    rcases mem_lineOpeners ho with rfl | ⟨-, rfl⟩ <;> exact ⟨rfl, by simp⟩

theorem closedComment_ne_nil {t : List Char} (ht : ClosedComment rules t) : t ≠ [] := by
  cases ht with
  | block body h => simp
  | line opener body stop ho hb hs => simp

/-- A gap neither doubles a quote nor makes a comment opener of a slash. -/
theorem head?_gap (hg : Gap rules g) : g.head?.any isQuote = false ∧ g.head? ≠ some '*' := by
  cases hg with
  | nil => exact ⟨rfl, by simp⟩
  | @blank c g hc hg =>
    refine ⟨isQuote_eq_false_of_isBlank hc, ?_⟩
    rintro ⟨⟩
    exact absurd hc (by decide)
  | comment ht hg =>
    rw [List.head?_append_of_ne_nil _ (closedComment_ne_nil ht)]
    exact head?_closedComment ht

theorem scan_append_gap (ha : EndsAtTopLevel rules a) (hg : Gap rules g) (hne : g ≠ [])
    (hseam : ¬ (a.getLast? = some '-' ∧ g.head? = some '-')) (b : List Char) :
    scan rules (a ++ (g ++ b)) = scan rules a ++ scan rules (g ++ b) := by
  have hhead : (g ++ b).head? = g.head? := List.head?_append_of_ne_nil g hne
  obtain ⟨hquote, hstar⟩ := head?_gap hg
  refine scan_append_of_head ha ?_ ?_ ?_
  · rwa [hhead]
  · rwa [hhead]
  · rw [hhead]
    exact fun hdash hlast => hseam ⟨hlast, hdash⟩

/-- Without comments the text has blanks in place of the gap. -/
theorem exists_spaceComments_append_gap (ha : EndsAtTopLevel rules a) (hg : Gap rules g)
    (hne : g ≠ []) (hseam : ¬ (a.getLast? = some '-' ∧ g.head? = some '-')) :
    ∃ w blanks, isBlank w = true ∧ (∀ c ∈ blanks, isBlank c = true) ∧
      ∀ b, spaceComments rules (a ++ (g ++ b)) =
        spaceComments rules a ++ w :: (blanks ++ spaceComments rules b) := by
  obtain ⟨blanks, hb, hgap⟩ := exists_spaceComments_gap hg
  have hnil := hgap []
  rw [List.append_nil, spaceComments_nil, List.append_nil] at hnil
  obtain ⟨w, blanks, rfl⟩ := List.exists_cons_of_ne_nil (hnil ▸ spaceComments_ne_nil hne)
  obtain ⟨hw, hb⟩ := List.forall_mem_cons.1 hb
  refine ⟨w, blanks, hw, hb, fun b => ?_⟩
  rw [spaceComments_append (scan_append_gap ha hg hne hseam b), hgap]
  rfl

/-! ## Tokens on either side -/

theorem scan_append_blank (ha : EndsAtTopLevel rules a) {w : Char} (hw : isBlank w = true)
    (v : List Char) : scan rules (a ++ w :: v) = scan rules a ++ .plain w :: scan rules v := by
  have hstar : w ≠ '*' := by
    rintro rfl
    exact absurd hw (by decide)
  have hdash : w ≠ '-' := by
    rintro rfl
    exact absurd hw (by decide)
  have hseam : scan rules (a ++ w :: v) = scan rules a ++ scan rules (w :: v) :=
    scan_append_of_head ha (isQuote_eq_false_of_isBlank hw) (by simpa using hstar)
      (by simpa using fun h => absurd h hdash)
  rw [hseam, scan_plain_of_isBlank hw]

/-- What is left of a text and blanks behind it when the front is trimmed stands in front of another
text: its tokens are those of the first text, and those of the other are shifted by its length. -/
theorem tokensOf_scan_dropWhile_append {s : List Char} (hs : EndsAtTopLevel rules s) {w : Char}
    (hw : isBlank w = true) {blanks : List Char} (hb : ∀ c ∈ blanks, isBlank c = true)
    (v : List Char) :
    tokensOf 0 (scan rules ((s ++ w :: blanks).dropWhile isBlank ++ v)) =
      tokensOf 0 (scan rules (s.dropWhile isBlank)) ++ (tokensOf 0 (scan rules v)).map
        (Token.shift (byteLength ((s ++ w :: blanks).dropWhile isBlank))) := by
  by_cases hall : s.dropWhile isBlank = []
  · -- all of the front is blank, so that nothing is left of it
    have hnil : (s ++ w :: blanks).dropWhile isBlank = [] := by
      rw [List.dropWhile_eq_nil_iff] at hall ⊢
      exact List.forall_mem_append.2 ⟨hall, List.forall_mem_cons.2 ⟨hw, hb⟩⟩
    rw [hnil, hall, List.nil_append, scan_nil, tokensOf_nil, List.nil_append, ← tokensOf_add]
    rfl
  · have hfront : (s ++ w :: blanks).dropWhile isBlank = s.dropWhile isBlank ++ w :: blanks := by
      rw [List.dropWhile_append, List.isEmpty_eq_false_iff.2 hall]
      rfl
    rw [hfront, List.append_assoc, List.cons_append, scan_append_blank hs.dropWhile_isBlank hw,
      scan_blanks_append hb, tokensOf_append_blank hw, tokensOf_blanks_append hb, ← tokensOf_add,
      textOf_scan, byteLength_append, byteLength, Nat.add_assoc, Nat.add_assoc]

/-- The tokens of two texts with a gap between them are those of the one and those of the other,
shifted by as many bytes as the stripped form is longer than that of the other. -/
theorem tokensFrom_gap (ha : EndsAtTopLevel rules a) (hg : Gap rules g) (hne : g ≠ [])
    (hseam : ¬ (a.getLast? = some '-' ∧ g.head? = some '-')) (b : List Char) :
    ∃ k, byteLength (strip rules (a ++ (g ++ b))) = byteLength (strip rules b) + k ∧
      tokensFrom rules 0 (strip rules (a ++ (g ++ b))) =
        tokensFrom rules 0 (strip rules a) ++
          (tokensFrom rules 0 (strip rules b)).map (Token.shift k) := by
  obtain ⟨w, blanks, hw, hb, hspace⟩ := exists_spaceComments_append_gap ha hg hne hseam
  have hstrip : strip rules (a ++ (g ++ b)) =
      trim isBlank ((spaceComments rules a ++ w :: blanks) ++ spaceComments rules b) := by
    rw [strip, hspace, List.append_assoc, List.cons_append]
  by_cases hend : strip rules b = []
  · -- nothing but blanks stands behind the first text, and they are trimmed with those of its own
    have hblank : ∀ c ∈ w :: (blanks ++ spaceComments rules b), isBlank c = true :=
      List.forall_mem_cons.2 ⟨hw, List.forall_mem_append.2 ⟨hb, trim_eq_nil_iff.1 hend⟩⟩
    have hfirst : strip rules (a ++ (g ++ b)) = strip rules a := by
      rw [strip, hspace, trim_append_right hblank, strip]
    refine ⟨byteLength (strip rules a), ?_, ?_⟩
    · rw [hfirst, hend, byteLength, Nat.zero_add]
    · rw [hfirst, hend, tokensFrom, List.map_nil, List.append_nil]
  · have hx : ∀ c ∈ blanks ++ (spaceComments rules b).takeWhile isBlank, isBlank c = true :=
      List.forall_mem_append.2 ⟨hb, fun c => List.mem_takeWhile_imp⟩
    rw [trim_append_of_ne hend, List.append_assoc, List.cons_append] at hstrip
    change _ = _ ++ strip rules b at hstrip
    refine ⟨byteLength ((spaceComments rules a ++
      w :: (blanks ++ (spaceComments rules b).takeWhile isBlank)).dropWhile isBlank), ?_, ?_⟩
    · rw [hstrip, byteLength_append, Nat.add_comm]
    · rw [tokensFrom_eq (isUncommented_strip _), hstrip,
        tokensOf_scan_dropWhile_append ha.spaceComments hw hx, tokensOf_dropWhile_spaceComments ha,
        tokensFrom_eq (isUncommented_strip b)]

theorem map_text_tokensFrom_gap (ha : EndsAtTopLevel rules a) (hg : Gap rules g) (hne : g ≠ [])
    (hseam : ¬ (a.getLast? = some '-' ∧ g.head? = some '-')) (b : List Char) :
    (tokensFrom rules 0 (strip rules (a ++ (g ++ b)))).map Token.text =
      (tokensFrom rules 0 (strip rules a)).map Token.text ++
        (tokensFrom rules 0 (strip rules b)).map Token.text := by
  obtain ⟨k, -, htokens⟩ := tokensFrom_gap ha hg hne hseam b
  rw [htokens, List.map_append, List.map_map]
  rfl

/-- **Tokens neither fuse nor get lost** where a blank or a closed comment separates a text that
ends at top level from another text, whatever that holds. -/
theorem tokens_separated (rules : LexicalRules) {a c : String}
    (ha : EndsAtTopLevel rules a.toList)
    (hc : (∃ w, isBlank w = true ∧ c.toList = [w]) ∨ ClosedComment rules c.toList)
    (hseam : ¬ (a.toList.getLast? = some '-' ∧ c.toList.head? = some '-')) (b : String) :
    (rules.tokens (rules.stripped (a ++ c ++ b))).map Token.text =
      (rules.tokens (rules.stripped a)).map Token.text ++
        (rules.tokens (rules.stripped b)).map Token.text := by
  obtain ⟨hgap, hne⟩ : Gap rules c.toList ∧ c.toList ≠ [] := by
    rcases hc with ⟨w, hw, hc⟩ | hc
    · rw [hc]
      exact ⟨.blank hw .nil, List.cons_ne_nil w []⟩
    · have hgap := Gap.comment hc .nil
      rw [List.append_nil] at hgap
      exact ⟨hgap, closedComment_ne_nil hc⟩
  unfold LexicalRules.tokens
  rw [toList_stripped, toList_stripped, toList_stripped, String.toList_append,
    String.toList_append, List.append_assoc]
  exact map_text_tokensFrom_gap ha hgap hne hseam b.toList

/-- A slash in front of a comment that holds a quote, and an open quoted run behind it. -/
theorem tokens_separated_slash :
    (LexicalRules.tokens {} (LexicalRules.stripped {} ("a/" ++ "/* ' */" ++ "b'-- "))).map
      Token.text = ["a", "/", "b'--"] := by
  have ha : EndsAtTopLevel {} "a/".toList := endsAtTopLevel_iff_all.2 (by cbv)
  have hc : ClosedComment {} "/* ' */".toList := .block " ' ".toList (by decide)
  rw [tokens_separated {} ha (Or.inr hc) (by simp) "b'-- "]
  cbv

end SqlTriage.Lexical

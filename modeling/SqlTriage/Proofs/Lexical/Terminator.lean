import SqlTriage.Proofs.Lexical.Seam

/-!
# Tokens around a semicolon

Behind a text that ends at top level a semicolon is a token of its own, whatever follows it.  The
tokens before it are those of the text alone, at the same places (`tokensFrom_semicolon`).
-/

namespace SqlTriage.Lexical

open SqlTriage.Text

variable {rules : LexicalRules} {a : List Char}

theorem opensComment_semicolon (next : Option Char) : opensComment rules ';' next = false :=
  opensComment_eq_false (by decide) (by decide) (by decide) next

theorem scan_append_semicolon (h : EndsAtTopLevel rules a) (v : List Char) :
    scan rules (a ++ ';' :: v) = scan rules a ++ scan rules (';' :: v) :=
  scan_append_of_head h rfl (by simp) (by simp)

theorem scan_semicolon (h : EndsAtTopLevel rules a) (v : List Char) :
    scan rules (a ++ ';' :: v) = scan rules a ++ .plain ';' :: scan rules v := by
  rw [scan_append_semicolon h, scan_plain (opensComment_semicolon _) (by decide)]

theorem spaceComments_semicolon (h : EndsAtTopLevel rules a) (v : List Char) :
    spaceComments rules (a ++ ';' :: v) =
      spaceComments rules a ++ ';' :: spaceComments rules v := by
  rw [spaceComments_append (scan_append_semicolon h v),
    spaceComments_plain (opensComment_semicolon _) (by decide)]

/-- Trimming reaches the text before the semicolon from the front and the text behind it from the
end. -/
theorem strip_semicolon (h : EndsAtTopLevel rules a) (v : List Char) :
    strip rules (a ++ ';' :: v) =
      (spaceComments rules a).dropWhile isBlank ++
        ';' :: (spaceComments rules v).rdropWhile isBlank := by
  rw [strip, spaceComments_semicolon h, trim_eq, dropWhile_append_of_neg (by decide),
    rdropWhile_append_of_neg (by decide)]

/-- A semicolon behind a text at top level is a token behind the tokens of the text, and the tokens
behind it are those of the text that follows. -/
theorem tokensFrom_semicolon (h : EndsAtTopLevel rules a) (v : List Char) :
    ∃ o o', tokensFrom rules 0 (strip rules (a ++ ';' :: v)) =
      tokensFrom rules 0 (strip rules a) ++ ⟨";", o⟩ ::
        tokensOf o' (scan rules ((spaceComments rules v).rdropWhile isBlank)) := by
  have hmark : (Segment.plain ';').isMark = true := by decide
  have hword : (Segment.plain ';').inWord = false := by decide
  have hseam (gs hs : List Segment) : ¬ Fuses gs (.plain ';' :: hs) :=
    fun hf => Bool.false_ne_true hf.2
  rw [tokensFrom_eq (isUncommented_strip _), strip_semicolon h,
    scan_semicolon h.spaceComments.dropWhile_isBlank, tokensOf_append (hseam _ _),
    tokensOf_mark hword hmark, tokensOf_dropWhile_spaceComments h]
  exact ⟨_, _, rfl⟩

theorem exists_tokens_semicolon (h : EndsAtTopLevel rules a) (v : List Char) :
    ∃ o us, tokensFrom rules 0 (strip rules (a ++ ';' :: v)) =
      tokensFrom rules 0 (strip rules a) ++ ⟨";", o⟩ :: us := by
  obtain ⟨o, o', htokens⟩ := tokensFrom_semicolon h v
  exact ⟨o, _, htokens⟩

/-- At the end of a text the semicolon is the last token. -/
theorem exists_tokens_last_semicolon (h : EndsAtTopLevel rules a) :
    ∃ o, tokensFrom rules 0 (strip rules (a ++ [';'])) =
      tokensFrom rules 0 (strip rules a) ++ [⟨";", o⟩] := by
  obtain ⟨o, o', htokens⟩ := tokensFrom_semicolon h []
  rw [spaceComments_nil] at htokens
  exact ⟨o, by rw [htokens]; simp⟩

end SqlTriage.Lexical

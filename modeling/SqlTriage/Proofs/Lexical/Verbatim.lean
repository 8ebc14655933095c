import SqlTriage.Proofs.Lexical.Seam
import SqlTriage.Proofs.Lexical.Word

/-!
# Words as they were written

A word of the stripped text is copied from one part of the raw text, in which there is no comment
(`copiedFrom_of_wordBetween`).  Spaces for comments are no part of a word, so that the segments
of the word are segments of the raw text.  Only the last of them can be shorter than it was: an
open quoted run at the end of the text, whose last blanks are trimmed.
-/

namespace SqlTriage.Lexical

open SqlTriage.Text

variable {rules : LexicalRules}

/-- Some neighbouring segments of the text, none of which is a comment, read `w` with nothing but
blanks behind it. -/
def CopiedFrom (rules : LexicalRules) (s w : List Char) : Prop :=
  ∃ gs rs hs blanks, scan rules s = gs ++ (rs ++ hs) ∧ (∀ g ∈ rs, g.isComment = false) ∧
    textOf rs = w ++ blanks ∧ ∀ c ∈ blanks, isBlank c = true

theorem CopiedFrom.isInfix {s w : List Char} (h : CopiedFrom rules s w) : w <:+: s := by
  obtain ⟨gs, rs, hs, blanks, hscan, -, htext, -⟩ := h
  refine ⟨textOf gs, blanks ++ textOf hs, ?_⟩
  rw [← textOf_scan rules s, hscan, textOf_append, textOf_append, htext]
  simp only [List.append_assoc]

theorem Segment.blanked_eq_self_of_inWord {g : Segment} (h : g.blanked.inWord = true) :
    g.isComment = false ∧ g.blanked = g := by
  cases g with
  | comment t closed =>
    have hspace : (Segment.plain ' ').inWord = true := h
    exact absurd hspace (by decide)
  | quoted t closed => exact ⟨rfl, rfl⟩
  | plain c => exact ⟨rfl, rfl⟩

/-- Blanks behind a text lengthen a word of it at most, at its end. -/
theorem exists_run_append_blanks {blanks s : List Char} (hb : ∀ c ∈ blanks, isBlank c = true)
    (hcom : IsUncommented rules (s ++ blanks)) {pre run post : List Segment}
    (hs : scan rules s = pre ++ (run ++ post)) (hw : WordBetween pre run post) :
    ∃ run' post' more, scan rules (s ++ blanks) = pre ++ (run' ++ post') ∧
      (∀ g ∈ run', g.inWord = true) ∧ textOf run' = textOf run ++ more ∧
        ∀ c ∈ more, isBlank c = true := by
  rcases scan_append_blanks hb hcom with hplain | ⟨gs, t, hopen, hlonger⟩
  · refine ⟨run, post ++ blanks.map Segment.plain, [], ?_, hw.inWord, by simp, by simp⟩
    rw [hplain, hs]
    simp only [List.append_assoc]
  rw [hs] at hopen
  rcases List.eq_nil_or_concat post with rfl | ⟨post, g, rfl⟩
  · -- the open run is the end of the word
    obtain ⟨run, g, rfl⟩ := (List.eq_nil_or_concat run).resolve_left hw.ne_nil
    rw [List.append_nil, List.concat_eq_append, ← List.append_assoc] at hopen
    obtain ⟨rfl, hg⟩ := List.append_inj' hopen rfl
    obtain rfl : g = .quoted t false := List.singleton_inj.1 hg
    refine ⟨run ++ [.quoted (t ++ blanks) false], [], blanks, ?_, ?_, ?_, hb⟩
    · rw [hlonger]
      simp only [List.append_assoc, List.append_nil]
    · intro g hg
      rcases List.mem_append.1 hg with hg | hg
      · exact hw.inWord g (by simp [hg])
      · rw [List.mem_singleton.1 hg]
        rfl
    · simp [Segment.text]
  · -- the open run stands behind the word
    rw [List.concat_eq_append, ← List.append_assoc, ← List.append_assoc] at hopen
    obtain ⟨rfl, -⟩ := List.append_inj' hopen rfl
    refine ⟨run, post ++ [.quoted (t ++ blanks) false], [], ?_, hw.inWord, by simp, by simp⟩
    rw [hlonger]
    simp only [List.append_assoc]

/-- The segments of a word of the stripped text are neighbours in the raw text, where blanks may
follow at the end of the last one. -/
theorem exists_run_of_wordBetween {s : List Char} {pre run post : List Segment}
    (h : scan rules (strip rules s) = pre ++ (run ++ post)) (hw : WordBetween pre run post) :
    ∃ gs rs hs blanks, scan rules s = gs ++ (rs ++ hs) ∧
      (∀ g ∈ rs, g.isComment = false ∧ g.inWord = true) ∧ textOf rs = textOf run ++ blanks ∧
        ∀ c ∈ blanks, isBlank c = true := by
  obtain ⟨t, u, ht, hu, hs⟩ := exists_trim isBlank (spaceComments rules s)
  change spaceComments rules s = t ++ (strip rules s ++ u) at hs
  have hcom : IsUncommented rules (spaceComments rules s) := isUncommented_spaceComments s
  rw [hs] at hcom
  obtain ⟨run', post', more, hscan, hrun, htext, hmore⟩ :=
    exists_run_append_blanks hu (hcom.of_blanks_append ht) h hw
  have hmap : (scan rules s).map Segment.blanked =
      (t.map Segment.plain ++ pre) ++ (run' ++ post') := by
    rw [← scan_spaceComments, hs, scan_blanks_append ht, hscan, List.append_assoc]
  -- the same cut of the raw segments
  obtain ⟨gs, ls, hgs, -, hls⟩ := List.map_eq_append_iff.1 hmap
  obtain ⟨rs, hs', rfl, hrs, -⟩ := List.map_eq_append_iff.1 hls
  -- the segments of the word stand in the raw text as they are
  have hword : ∀ g ∈ rs, g.blanked.inWord = true := by
    intro g hg
    apply hrun
    rw [← hrs]
    exact List.mem_map_of_mem hg
  have hself : ∀ g ∈ rs, g.isComment = false ∧ g.blanked = g :=
    fun g hg => Segment.blanked_eq_self_of_inWord (hword g hg)
  have hsame : rs.map Segment.blanked = rs := by
    rw [List.map_congr_left fun g hg => (hself g hg).2, List.map_id']
  refine ⟨gs, rs, hs', more, hgs, fun g hg => ⟨(hself g hg).1, ?_⟩, ?_, hmore⟩
  · rw [← (hself g hg).2]
    exact hword g hg
  · rw [← htext, ← hrs, hsame]

/-- A word of the stripped text is copied from the raw text. -/
theorem copiedFrom_of_wordBetween {s : List Char} {pre run post : List Segment}
    (h : scan rules (strip rules s) = pre ++ (run ++ post)) (hw : WordBetween pre run post) :
    CopiedFrom rules s (textOf run) := by
  obtain ⟨gs, rs, hs, blanks, hscan, hrs, htext, hblanks⟩ := exists_run_of_wordBetween h hw
  exact ⟨gs, rs, hs, blanks, hscan, fun g hg => (hrs g hg).1, htext, hblanks⟩

end SqlTriage.Lexical

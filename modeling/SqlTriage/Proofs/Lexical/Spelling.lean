import Mathlib.Data.List.Basic
import SqlTriage.Proofs.Lexical.Seam
import SqlTriage.Proofs.Lexical.Word

/-!
# Tokens written with one space between them

The segments of a stripped text fall into runs, one for each token (`tokenRuns`).  Each run is
scanned as it is where it stands alone, and only the last can hold a quoted run that nothing closes
(`spelling_tokenRuns`).  Written with one space between neighbours, the runs are therefore scanned
as they are (`Spelling.scan`), and they make the same tokens (`Spelling.map_text_tokensOf`).  The
text that is written so is the canonical form of a text (`LexicalRules.canonical`).
-/

namespace SqlTriage.Lexical

open SqlTriage.Text

variable {rules : LexicalRules}

/-! ## Runs -/

/-- The segments of each token. -/
def tokenRuns (gs : List Segment) : List (List Segment) :=
  match gs with
  | [] => []
  | g :: gs =>
    if g.inWord then
      (g :: gs.takeWhile Segment.inWord) :: tokenRuns (gs.dropWhile Segment.inWord)
    else if g.isMark then [g] :: tokenRuns gs
    else tokenRuns gs
termination_by gs.length
decreasing_by
  · exact Nat.lt_succ_of_le (List.dropWhile_sublist _).length_le
  · exact Nat.lt_succ_self _
  · exact Nat.lt_succ_self _

theorem map_text_tokensOf_eq (o : Nat) (gs : List Segment) :
    (tokensOf o gs).map Token.text = (tokenRuns gs).map fun run => String.ofList (textOf run) := by
  fun_induction tokensOf o gs with
  | case1 => rw [tokenRuns]; rfl
  | case2 o g gs hg w ih => rw [tokenRuns, if_pos hg, List.map_cons, List.map_cons, ih]; rfl
  | case3 o g gs hg hm ih =>
    rw [tokenRuns, if_neg hg, if_pos hm, List.map_cons, List.map_cons, ih, textOf_cons, textOf_nil,
      List.append_nil]
  | case4 o g gs hg hm ih => rw [tokenRuns, if_neg hg, if_neg hm, ih]

/-- The segments are one token, and they are scanned as they are where they stand alone. -/
structure IsTokenRun (rules : LexicalRules) (run : List Segment) : Prop where
  scan : scan rules (textOf run) = run
  isComment : ∀ g ∈ run, g.isComment = false
  tokens : ∀ o, tokensOf o run = [⟨String.ofList (textOf run), o⟩]
  head : (textOf run).head?.any isBlank = false
  last : (textOf run).getLast?.any isBlank = false

/-- Runs that can be written one after the other: only the last may be open. -/
inductive Spelling (rules : LexicalRules) : List (List Segment) → Prop
  | nil : Spelling rules []
  | last {run : List Segment} (h : IsTokenRun rules run) : Spelling rules [run]
  | cons {run next : List Segment} {runs : List (List Segment)} (h : IsTokenRun rules run)
    (hclosed : ∀ g ∈ run, g.isClosed = true) (hs : Spelling rules (next :: runs)) :
    Spelling rules (run :: next :: runs)

/-- The segments of runs with a space between neighbours. -/
def spelled (runs : List (List Segment)) : List Segment :=
  [.plain ' '].intercalate runs

theorem spelled_cons_cons (run next : List Segment) (runs : List (List Segment)) :
    spelled (run :: next :: runs) = run ++ .plain ' ' :: spelled (next :: runs) := by
  rw [spelled, List.intercalate_cons_cons, List.append_assoc]
  rfl

theorem textOf_spelled (runs : List (List Segment)) :
    textOf (spelled runs) = [' '].intercalate (runs.map textOf) := by
  induction runs with
  | nil => rfl
  | cons run runs ih =>
    cases runs with
    | nil => simp [spelled]
    | cons next runs =>
      have hright : [' '].intercalate ((run :: next :: runs).map textOf) =
          textOf run ++ ([' '] ++ [' '].intercalate ((next :: runs).map textOf)) := by
        rw [List.map_cons, List.map_cons, List.intercalate_cons_cons, List.append_assoc]
      rw [spelled_cons_cons, textOf_append, textOf_cons, ih, hright]
      rfl

/-! ## Runs one after the other -/

namespace IsTokenRun

variable {run : List Segment}

theorem textOf_ne_nil (h : IsTokenRun rules run) : textOf run ≠ [] := by
  intro hnil
  have hrun := h.scan
  rw [hnil, scan_nil] at hrun
  have htokens := h.tokens 0
  rw [← hrun, tokensOf_nil] at htokens
  cases htokens

end IsTokenRun

namespace Spelling

variable {runs : List (List Segment)}

theorem isUncommented_segments (h : Spelling rules runs) :
    ∀ g ∈ spelled runs, g.isComment = false := by
  induction h with
  | nil => simp [spelled]
  | last h => simpa [spelled] using h.isComment
  | cons h hclosed hs ih =>
    intro g hg
    rw [spelled_cons_cons, List.mem_append, List.mem_cons] at hg
    rcases hg with hg | rfl | hg
    · exact h.isComment g hg
    · rfl
    · exact ih g hg

/-- A space ends every closed run. -/
theorem scan (h : Spelling rules runs) :
    scan rules (textOf (spelled runs)) = spelled runs := by
  induction h with
  | nil => exact scan_nil
  | last h => simpa [spelled] using h.scan
  | @cons run next runs h hclosed hs ih =>
    have htop : EndsAtTopLevel rules (textOf run) := by
      rw [EndsAtTopLevel, h.scan]
      exact hclosed
    have hends (ks : List Segment) (g : Segment)
        (hg : Lexical.scan rules (textOf run) = ks ++ [g]) : g.EndsBefore rules (some ' ') :=
      endsBefore_of_scan hg (by decide) fun c _ hc =>
        opensComment_eq_false_of_next hc (by decide) (by decide)
    have hseam : Lexical.scan rules (textOf run ++ ' ' :: textOf (spelled (next :: runs))) =
        Lexical.scan rules (textOf run) ++
          Lexical.scan rules (' ' :: textOf (spelled (next :: runs))) :=
      scan_append htop hends
    rw [h.scan, scan_plain_of_isBlank (by decide), ih] at hseam
    rwa [spelled_cons_cons, textOf_append]

theorem isUncommented (h : Spelling rules runs) : IsUncommented rules (textOf (spelled runs)) := by
  rw [IsUncommented, h.scan]
  exact h.isUncommented_segments

theorem map_text_tokensOf (h : Spelling rules runs) (o : Nat) :
    (tokensOf o (spelled runs)).map Token.text =
      runs.map fun run => String.ofList (textOf run) := by
  induction h generalizing o with
  | nil => simp [spelled]
  | last h => simp [spelled, h.tokens]
  | cons h hclosed hs ih =>
    rw [spelled_cons_cons, tokensOf_append_blank (by decide), List.map_append, h.tokens, ih]
    rfl

theorem textOf_spelled_ne_nil (h : Spelling rules runs) (hne : runs ≠ []) :
    textOf (spelled runs) ≠ [] := by
  cases h with
  | nil => exact absurd rfl hne
  | last h => simpa [spelled] using h.textOf_ne_nil
  | cons h hclosed hs => simp [spelled_cons_cons, h.textOf_ne_nil]

theorem any_head? (h : Spelling rules runs) :
    (textOf (spelled runs)).head?.any isBlank = false := by
  cases h with
  | nil => rfl
  | last h => simpa [spelled] using h.head
  | cons h hclosed hs =>
    rw [spelled_cons_cons, textOf_append, List.head?_append_of_ne_nil _ h.textOf_ne_nil]
    exact h.head

theorem any_getLast? (h : Spelling rules runs) :
    (textOf (spelled runs)).getLast?.any isBlank = false := by
  induction h with
  | nil => rfl
  | last h => simpa [spelled] using h.last
  | @cons run next runs h hclosed hs ih =>
    have hne := hs.textOf_spelled_ne_nil (List.cons_ne_nil next runs)
    rw [spelled_cons_cons, textOf_append, textOf_cons, ← List.append_assoc,
      List.getLast?_append_of_ne_nil _ hne]
    exact ih

end Spelling

/-! ## The runs of a stripped text -/

/-- No blank stands at the front of a part of a token, and none behind it where it is closed. -/
theorem any_ends_of_mem_scan {s : List Char} {g : Segment} (h : g ∈ scan rules s)
    (hg : g.inWord = true ∨ g.isMark = true) :
    g.text.head?.any isBlank = false ∧
      (g.isClosed = true → g.text.getLast?.any isBlank = false) := by
  obtain ⟨t, gs, ht⟩ := exists_scan_eq_cons_of_mem h
  rcases scan_eq_cons_cases ht with ⟨l, -, rfl, -⟩ | ⟨l, hl, rfl, -⟩ | ⟨c, u, -, -, -, rfl, -⟩
  · rcases hg with hg | hg <;> cases hg
  · obtain ⟨q, hq, hhead, hlast⟩ := exists_quote_ends hl
    have hblank := isBlank_eq_false_of_isQuote hq
    simp only [Segment.text, hhead, Option.any_some, hblank, true_and]
    intro hclosed
    rw [hlast hclosed, Option.any_some, hblank]
  · have hblank : isBlank c = false := by
      rcases hg with hg | hg
      · simp only [Segment.inWord, Bool.not_eq_true', Bool.or_eq_false_iff] at hg
        exact hg.1
      · simp only [Segment.isMark, Bool.and_eq_true, Bool.not_eq_true'] at hg
        exact hg.1
    exact ⟨hblank, fun _ => hblank⟩

/-- The segments of a text without comments that ends in no blank. -/
structure IsStrippedScan (rules : LexicalRules) (gs : List Segment) : Prop where
  scan : scan rules (textOf gs) = gs
  isComment : ∀ g ∈ gs, g.isComment = false
  last : (textOf gs).getLast?.any isBlank = false

theorem IsStrippedScan.of_append {run rest : List Segment}
    (h : IsStrippedScan rules (run ++ rest)) : IsStrippedScan rules rest := by
  refine ⟨scan_textOf_of_append h.scan, fun g hg => h.isComment g (List.mem_append_right _ hg), ?_⟩
  have hlast := h.last
  rw [textOf_append] at hlast
  by_cases hrest : textOf rest = []
  · rw [hrest]
    rfl
  · rwa [List.getLast?_append_of_ne_nil _ hrest] at hlast

/-- The first token can be written before the others: it is closed, or there are no others. -/
theorem spelling_cons {run rest : List Segment} (h : IsStrippedScan rules (run ++ rest))
    (hne : run ≠ []) (hrun : ∀ g ∈ run, g.inWord = true ∨ g.isMark = true)
    (htokens : ∀ o, tokensOf o run = [⟨String.ofList (textOf run), o⟩])
    (hrest : Spelling rules (tokenRuns rest)) : Spelling rules (run :: tokenRuns rest) := by
  have hclosed : rest ≠ [] → ∀ g ∈ run, g.isClosed = true := isClosed_of_scan_append h.scan
  have hmem : ∀ g ∈ run, g ∈ scan rules (textOf (run ++ rest)) := by
    intro g hg
    rw [h.scan]
    exact List.mem_append_left _ hg
  have hcom : ∀ g ∈ run, g.isComment = false :=
    fun g hg => h.isComment g (List.mem_append_left _ hg)
  have hfront : scan rules (textOf (run ++ rest)) = [] ++ (run ++ rest) := h.scan
  have htoken : IsTokenRun rules run := by
    refine ⟨scan_textOf_of_uncommented hfront hcom, hcom, htokens, ?_, ?_⟩
    · obtain ⟨g, run, rfl⟩ := List.exists_cons_of_ne_nil hne
      have hg := hmem g List.mem_cons_self
      rw [textOf_cons, List.head?_append_of_ne_nil _ (text_ne_nil_of_mem_scan hg)]
      exact (any_ends_of_mem_scan hg (hrun g List.mem_cons_self)).1
    · by_cases hnil : rest = []
      · have hlast := h.last
        rwa [hnil, List.append_nil] at hlast
      · obtain ⟨front, g, rfl⟩ := (List.eq_nil_or_concat run).resolve_left hne
        have hg : g ∈ front.concat g := by simp
        have hlast := (any_ends_of_mem_scan (hmem g hg) (hrun g hg)).2 (hclosed hnil g hg)
        rw [List.concat_eq_append, textOf_append, textOf_cons, textOf_nil, List.append_nil,
          List.getLast?_append_of_ne_nil _ (text_ne_nil_of_mem_scan (hmem g hg))]
        exact hlast
  cases hruns : tokenRuns rest with
  | nil => exact .last htoken
  | cons next runs =>
    rw [hruns] at hrest
    refine .cons htoken (hclosed ?_) hrest
    rintro rfl
    rw [tokenRuns] at hruns
    cases hruns

/-- The tokens of a text without comments that ends in no blank can be written one after the
other. -/
theorem spelling_tokenRuns {gs : List Segment} (h : IsStrippedScan rules gs) :
    Spelling rules (tokenRuns gs) := by
  fun_induction tokenRuns gs with
  | case1 => exact .nil
  | case2 g gs hg ih =>
    have hsplit : g :: gs = (g :: gs.takeWhile Segment.inWord) ++ gs.dropWhile Segment.inWord := by
      rw [List.cons_append, List.takeWhile_append_dropWhile]
    have hword : ∀ g' ∈ g :: gs.takeWhile Segment.inWord, g'.inWord = true :=
      List.forall_mem_cons.2 ⟨hg, fun g' => List.mem_takeWhile_imp⟩
    rw [hsplit] at h
    exact spelling_cons h (List.cons_ne_nil _ _) (fun g' hg' => Or.inl (hword g' hg'))
      (tokensOf_run (List.cons_ne_nil _ _) hword) (ih h.of_append)
  | case3 g gs hg hm ih =>
    have h : IsStrippedScan rules ([g] ++ gs) := h
    have htokens (o : Nat) : tokensOf o [g] = [⟨String.ofList (textOf [g]), o⟩] := by
      rw [tokensOf_mark (by simpa using hg) hm, tokensOf_nil, textOf_cons, textOf_nil,
        List.append_nil]
    exact spelling_cons h (List.cons_ne_nil _ _) (by simpa using Or.inr hm) htokens
      (ih h.of_append)
  | case4 g gs hg hm ih =>
    have h : IsStrippedScan rules ([g] ++ gs) := h
    exact ih h.of_append

theorem isStrippedScan_strip (s : List Char) :
    IsStrippedScan rules (scan rules (strip rules s)) := by
  refine ⟨by rw [textOf_scan], isUncommented_strip s, ?_⟩
  rw [textOf_scan]
  exact any_getLast?_trim isBlank _

/-! ## The canonical text -/

/-- The tokens of the stripped text with one space between neighbours. -/
def LexicalRules.canonical (rules : LexicalRules) (text : String) : String :=
  " ".intercalate ((rules.tokens (rules.stripped text)).map Token.text)

theorem exists_spelling_canonical (rules : LexicalRules) (text : String) :
    ∃ runs, Spelling rules runs ∧ (rules.canonical text).toList = textOf (spelled runs) ∧
      (rules.tokens (rules.stripped text)).map Token.text =
        runs.map fun run => String.ofList (textOf run) := by
  have htokens : (rules.tokens (rules.stripped text)).map Token.text =
      (tokenRuns (scan rules (strip rules text.toList))).map
        fun run => String.ofList (textOf run) := by
    rw [LexicalRules.tokens, toList_stripped, tokensFrom_eq (isUncommented_strip _),
      map_text_tokensOf_eq]
  refine ⟨_, spelling_tokenRuns (isStrippedScan_strip text.toList), ?_, htokens⟩
  rw [LexicalRules.canonical, htokens, String.toList_intercalate, List.map_map, textOf_spelled]
  simp [Function.comp_def]

theorem stripped_canonical (rules : LexicalRules) (text : String) :
    rules.stripped (rules.canonical text) = rules.canonical text := by
  obtain ⟨runs, hruns, htext, -⟩ := exists_spelling_canonical rules text
  rw [← String.toList_inj, toList_stripped, htext, strip_eq_self_iff]
  exact ⟨hruns.isUncommented, hruns.any_head?, hruns.any_getLast?⟩

theorem map_text_tokens_canonical (rules : LexicalRules) (text : String) :
    (rules.tokens (rules.canonical text)).map Token.text =
      (rules.tokens (rules.stripped text)).map Token.text := by
  obtain ⟨runs, hruns, htext, htokens⟩ := exists_spelling_canonical rules text
  rw [htokens, LexicalRules.tokens, htext, tokensFrom_eq hruns.isUncommented, hruns.scan,
    hruns.map_text_tokensOf]

end SqlTriage.Lexical

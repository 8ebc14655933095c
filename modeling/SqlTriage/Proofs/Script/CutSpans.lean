import Mathlib
import SqlTriage.Settings.Basic
import SqlTriage.Proofs.Script.Stripping

/-!
# Cuts and lexemes

Cutting looks for the delimiter before it looks for a comment or a quoted run.  The places of the
cuts (`cutSpans`) are compared here with the places of the comments and quoted runs that the scan
of the whole script finds (`lexemeSpans`).  In every script the two are apart exactly if nothing
opens inside the delimiter (`not_overlaps_iff`).  The check of the settings lets other delimiters
through, and with them a script is cut inside its comments (`slash_cuts_comment`).
-/

namespace SqlTriage.Script

open SqlTriage.Text SqlTriage.Lexical

variable {rules : LexicalRules} {delimiter : List Char}

/-! ## Places -/

/-- A range of characters: the position of the first and the position behind the last. -/
structure Span where
  start : Nat
  stop : Nat
deriving DecidableEq, Repr

def Span.Overlaps (a b : Span) : Prop :=
  a.start < b.stop ∧ b.start < a.stop

/-- The places of the delimiters between pieces, the first of which begins at position `i`. -/
def spansBetween (delimiter : List Char) (i : Nat) : List (List Char) → List Span
  | [] => []
  | [_] => []
  | p :: q :: ps =>
    ⟨i + p.length, i + p.length + delimiter.length⟩ ::
      spansBetween delimiter (i + p.length + delimiter.length) (q :: ps)

/-- The places of the delimiters at which a script is cut. -/
def cutSpans (rules : LexicalRules) (delimiter script : List Char) : List Span :=
  spansBetween delimiter 0 (pieces rules delimiter script)

/-- Whether a segment is a comment or a quoted run. -/
def isLexeme : Segment → Bool
  | .plain _ => false
  | _ => true

/-- The places of comments and quoted runs among segments, the first of which begins at `i`. -/
def spansOf (i : Nat) : List Segment → List Span
  | [] => []
  | g :: gs =>
    if isLexeme g then ⟨i, i + g.text.length⟩ :: spansOf (i + g.text.length) gs
    else spansOf (i + g.text.length) gs

/-- The places of the comments and quoted runs of a text. -/
def lexemeSpans (rules : LexicalRules) (s : List Char) : List Span :=
  spansOf 0 (scan rules s)

theorem le_start_of_mem_spansBetween {i : Nat} {ps : List (List Char)} {a : Span}
    (h : a ∈ spansBetween delimiter i ps) : i ≤ a.start := by
  fun_induction spansBetween delimiter i ps with
  | case1 => simp at h
  | case2 => simp at h
  | case3 i p q ps ih =>
    rcases List.mem_cons.1 h with rfl | h
    · show i ≤ i + p.length
      omega
    · have := ih h
      omega

theorem le_start_of_mem_spansOf {i : Nat} {gs : List Segment} {b : Span}
    (h : b ∈ spansOf i gs) : i ≤ b.start := by
  fun_induction spansOf i gs with
  | case1 => simp at h
  | case2 i g gs hg ih =>
    rcases List.mem_cons.1 h with rfl | h
    · exact Nat.le_refl i
    · have := ih h
      omega
  | case3 i g gs hg ih =>
    have := ih h
    omega

theorem start_lt_stop_of_mem_spansOf {i : Nat} {gs : List Segment} {b : Span}
    (hgs : ∀ g ∈ gs, g.text ≠ []) (h : b ∈ spansOf i gs) : b.start < b.stop := by
  fun_induction spansOf i gs with
  | case1 => simp at h
  | case2 i g gs hg ih =>
    rcases List.mem_cons.1 h with rfl | h
    · exact Nat.lt_add_of_pos_right (List.length_pos_iff.2 (hgs g List.mem_cons_self))
    · exact ih (fun g' hm => hgs g' (List.mem_cons_of_mem g hm)) h
  | case3 i g gs hg ih => exact ih (fun g' hm => hgs g' (List.mem_cons_of_mem g hm)) h

theorem spansBetween_append (t p : List Char) (ps : List (List Char)) (i : Nat) :
    spansBetween delimiter i ((t ++ p) :: ps) =
      spansBetween delimiter (i + t.length) (p :: ps) := by
  cases ps with
  | nil => rfl
  | cons q ps => simp only [spansBetween, List.length_append, Nat.add_assoc]

theorem spansOf_plain (cs : List Char) (gs : List Segment) (i : Nat) :
    spansOf i (cs.map Segment.plain ++ gs) = spansOf (i + cs.length) gs := by
  induction cs generalizing i with
  | nil => rfl
  | cons c cs ih =>
    rw [List.map_cons, List.cons_append, spansOf, if_neg (by simp [isLexeme]), ih]
    show spansOf (i + 1 + cs.length) gs = spansOf (i + (cs.length + 1)) gs
    rw [Nat.add_assoc, Nat.add_comm 1]

/-! ## Delimiters in which nothing opens -/

/-- No comment and no quoted run begins in the text, whatever stands behind it. -/
structure OpensNothing (rules : LexicalRules) (s : List Char) : Prop where
  quote : ∀ c ∈ s, isQuote c = false
  dashes : ¬ ['-', '-'] <:+: s
  slashStar : ¬ ['/', '*'] <:+: s
  hash : rules.hashComments = true → '#' ∉ s
  /-- The last character does not open a comment together with the next one. -/
  last : s.getLast? ≠ some '-' ∧ s.getLast? ≠ some '/'

/-- The delimiter of the default settings is one of them. -/
example : OpensNothing rules [';'] :=
  ⟨by simp [isQuote], by decide, by decide, by simp, by simp⟩

theorem forall_opensComment_iff {c : Char} {s : List Char} :
    (∀ v : List Char, opensComment rules c (s ++ v).head? = false) ↔
      ¬ ['-', '-'] <+: c :: s ∧ ¬ ['/', '*'] <+: c :: s ∧ (rules.hashComments = true → '#' ≠ c) ∧
        (s = [] → c ≠ '-' ∧ c ≠ '/') := by
  cases s with
  | nil =>
    constructor
    · intro h
      have hdash := h ['-']
      have hstar := h ['*']
      simp only [opensComment] at hdash hstar
      grind
    · rintro ⟨-, -, hhash, hlast⟩ v
      obtain ⟨hd, hs⟩ := hlast rfl
      simp only [opensComment]
      grind
  | cons d s =>
    simp only [opensComment, List.cons_append, List.head?_cons, List.cons_prefix_cons,
      forall_const]
    grind

theorem opensNothing_nil : OpensNothing rules [] :=
  ⟨by simp, by simp, by simp, by simp, by simp⟩

theorem opensNothing_cons {c : Char} {s : List Char} :
    OpensNothing rules (c :: s) ↔ isQuote c = false ∧
      (∀ v : List Char, opensComment rules c (s ++ v).head? = false) ∧ OpensNothing rules s := by
  rw [forall_opensComment_iff]
  constructor
  · rintro ⟨hq, hd, hs, hh, hl⟩
    refine ⟨hq c List.mem_cons_self, ⟨fun hp => hd hp.isInfix, fun hp => hs hp.isInfix, ?_, ?_⟩,
      fun d hm => hq d (List.mem_cons_of_mem c hm), fun hi => hd (List.infix_cons hi),
      fun hi => hs (List.infix_cons hi), fun hr hm => hh hr (List.mem_cons_of_mem c hm), ?_⟩
    · rintro hr rfl
      exact hh hr List.mem_cons_self
    · rintro rfl
      simpa using hl
    · cases s with
      | nil => simp
      | cons d s => rwa [List.getLast?_cons_cons] at hl
  · rintro ⟨hqc, ⟨hdc, hsc, hhc, hlc⟩, hq, hd, hs, hh, hl⟩
    refine ⟨List.forall_mem_cons.2 ⟨hqc, hq⟩, ?_, ?_, ?_, ?_⟩
    · rw [List.infix_cons_iff]
      exact fun h => h.elim hdc hd
    · rw [List.infix_cons_iff]
      exact fun h => h.elim hsc hs
    · intro hr hm
      exact (List.mem_cons.1 hm).elim (hhc hr) (hh hr)
    · cases s with
      | nil => simpa using hlc rfl
      | cons d s => rwa [List.getLast?_cons_cons]

/-- A text in which nothing opens is scanned character by character. -/
theorem scan_opensNothing_append {s : List Char} (h : OpensNothing rules s) (v : List Char) :
    scan rules (s ++ v) = s.map Segment.plain ++ scan rules v := by
  induction s with
  | nil => rfl
  | cons c s ih =>
    obtain ⟨hq, hc, hs⟩ := opensNothing_cons.1 h
    rw [List.cons_append, scan_plain (hc v) hq, ih hs]
    rfl

theorem isLexeme_eq_false_of_lt_start {g : Segment} {gs : List Segment} {i : Nat}
    (h : ∀ b ∈ spansOf i (g :: gs), i < b.start) : isLexeme g = false := by
  by_contra hg
  rw [spansOf, if_pos (by simpa using hg)] at h
  exact Nat.lt_irrefl i (h _ List.mem_cons_self)

/-- A text at which no comment and no quoted run begins, whatever stands behind it, opens
nothing. -/
theorem opensNothing_of_le_start {s : List Char} {i : Nat}
    (h : ∀ v, ∀ b ∈ spansOf i (scan rules (s ++ v)), i + s.length ≤ b.start) :
    OpensNothing rules s := by
  induction s generalizing i with
  | nil => exact opensNothing_nil
  | cons c s ih =>
    have hplain : ∀ v : List Char, opensComment rules c (s ++ v).head? = false ∧
        isQuote c = false := by
      intro v
      have hv : ∀ b ∈ spansOf i (scan rules (c :: (s ++ v))), i < b.start := by
        intro b hb
        have hle := h v b hb
        rw [List.length_cons] at hle
        omega
      cases hc : comment? rules (c :: (s ++ v)) with
      | some l =>
        rw [scan_comment hc] at hv
        cases isLexeme_eq_false_of_lt_start hv
      | none =>
        cases hq : quotedRun? rules (c :: (s ++ v)) with
        | some l =>
          rw [scan_quoted hq] at hv
          cases isLexeme_eq_false_of_lt_start hv
        | none => exact ⟨comment?_eq_none_iff.1 hc, quotedRun?_eq_none_iff.1 hq⟩
    refine opensNothing_cons.2 ⟨(hplain []).2, fun v => (hplain v).1, ih (i := i + 1) ?_⟩
    intro v b hb
    have hle := h v b
    rw [List.cons_append, scan_plain (hplain v).1 (hplain v).2, List.length_cons] at hle
    have := hle hb
    omega

/-! ## Cuts between lexemes -/

theorem not_overlaps_of_stop_le {a b : Span} (h : a.stop ≤ b.start) : ¬ a.Overlaps b := by
  rintro ⟨-, hb⟩
  omega

/-- A piece that begins with a segment is cut behind the segment. -/
theorem not_overlaps_cons {g : Segment} {gs : List Segment} {p : List Char}
    {ps : List (List Char)} {i : Nat}
    (h : ∀ a ∈ spansBetween delimiter (i + g.text.length) (p :: ps),
      ∀ b ∈ spansOf (i + g.text.length) gs, ¬ a.Overlaps b) :
    ∀ a ∈ spansBetween delimiter i ((g.text ++ p) :: ps), ∀ b ∈ spansOf i (g :: gs),
      ¬ a.Overlaps b := by
  rw [spansBetween_append]
  intro a ha b hb
  rw [spansOf] at hb
  split at hb
  · rcases List.mem_cons.1 hb with rfl | hb
    · have hle := le_start_of_mem_spansBetween ha
      rintro ⟨hlt, -⟩
      exact absurd hlt (Nat.not_lt.2 hle)
    · exact h a ha b hb
  · exact h a ha b hb

/-- Where nothing opens in the delimiter, no cut overlaps a comment or a quoted run. -/
theorem OpensNothing.not_overlaps (h : OpensNothing rules delimiter) (s : List Char) (i : Nat) :
    ∀ a ∈ spansBetween delimiter i (pieces rules delimiter s), ∀ b ∈ spansOf i (scan rules s),
      ¬ a.Overlaps b := by
  unfold pieces
  fun_induction cut rules delimiter s generalizing i with
  | case1 => simp [spansBetween]
  | case2 c t hp more ih =>
    obtain ⟨u, hu⟩ := List.isPrefixOf_iff_prefix.1 hp.2
    have hdrop : (c :: t).drop delimiter.length = u := by rw [← hu, List.drop_left]
    simp only [more]
    rw [hdrop] at ih ⊢
    rw [← hu, scan_opensNothing_append h, spansOf_plain, spansBetween]
    intro a ha b hb
    rcases List.mem_cons.1 ha with rfl | ha
    · exact not_overlaps_of_stop_le (le_start_of_mem_spansOf hb)
    · exact ih _ a ha b hb
  | case3 c t hp l hc more ih =>
    rw [scan_comment hc]
    exact not_overlaps_cons (g := .comment l.text l.closed) (ih _)
  | case4 c t hp hc l hq more ih =>
    rw [scan_quoted hq]
    exact not_overlaps_cons (g := .quoted l.text l.closed) (ih _)
  | case5 c t hp hc hq more ih =>
    rw [scan_plain (comment?_eq_none_iff.1 hc) (quotedRun?_eq_none_iff.1 hq)]
    exact not_overlaps_cons (g := .plain c) (ih _)

/-- A delimiter at the front of a script is cut there. -/
theorem mem_cutSpans (hd : delimiter ≠ []) (s : List Char) :
    ⟨0, delimiter.length⟩ ∈ cutSpans rules delimiter (delimiter ++ s) := by
  rw [cutSpans, pieces, cut_delimiter hd, spansBetween]
  simp

/-- **No comment and no quoted run is cut**, whatever the script, exactly if none can begin inside
the delimiter: otherwise some script is cut where its scan has a comment or a quoted run. -/
theorem not_overlaps_iff (rules : LexicalRules) (delimiter : String) :
    (∀ script : String, ∀ a ∈ cutSpans rules delimiter.toList script.toList,
      ∀ b ∈ lexemeSpans rules script.toList, ¬ a.Overlaps b) ↔
    OpensNothing rules delimiter.toList := by
  constructor
  · intro h
    by_cases hd : delimiter.toList = []
    · rw [hd]
      exact opensNothing_nil
    refine opensNothing_of_le_start (i := 0) fun v b hb => ?_
    have hscript := h (String.ofList (delimiter.toList ++ v))
    rw [String.toList_ofList] at hscript
    have hab := hscript _ (mem_cutSpans hd v) b hb
    have hpos : b.start < b.stop :=
      start_lt_stop_of_mem_spansOf (fun g hg => text_ne_nil_of_mem_scan hg) hb
    have hnot : ¬ (0 < b.stop ∧ b.start < delimiter.toList.length) := hab
    omega
  · intro h script
    exact h.not_overlaps script.toList 0

/-- A slash passes the check of the settings, but it opens a comment together with a star, so that
a script is cut at the beginning of a comment, inside it and at its end. -/
theorem slash_cuts_comment :
    delimiterFaults "/" = [] ∧
      statements {} "/" "select 1 /* a / b */" = ["select 1", "* a", "b *"] ∧
      cutSpans {} ['/'] "select 1 /* a / b */".toList = [⟨9, 10⟩, ⟨14, 15⟩, ⟨19, 20⟩] ∧
      lexemeSpans {} "select 1 /* a / b */".toList = [⟨9, 20⟩] ∧
      ¬ ∀ a ∈ cutSpans {} ['/'] "select 1 /* a / b */".toList,
        ∀ b ∈ lexemeSpans {} "select 1 /* a / b */".toList, ¬ a.Overlaps b := by
  have hcut : cutSpans {} ['/'] "select 1 /* a / b */".toList = [⟨9, 10⟩, ⟨14, 15⟩, ⟨19, 20⟩] := by
    cbv
  have hlex : lexemeSpans {} "select 1 /* a / b */".toList = [⟨9, 20⟩] := by cbv
  refine ⟨by cbv, by cbv, hcut, hlex, ?_⟩
  rw [hcut, hlex]
  simp [Span.Overlaps]

end SqlTriage.Script

import Mathlib.Data.List.Basic
import Mathlib.Data.List.TakeWhile
import SqlTriage.Lexical.Lexeme

/-!
# What may follow a lexeme

A lexeme is settled by its own characters and the one behind it.  Another text may therefore take
the place of the rest behind a lexeme if it begins with the same character
(`comment?_replace`, `quotedRun?_replace`).  The rest may also be cut off (`comment?_cut`), and
behind a quoted run anything may stand that does not double its closing quote.  Whether a comment
begins at a character is settled by that character and the next (`comment?_eq_none_iff`).
-/

namespace SqlTriage.Lexical

open SqlTriage.Text

/-! ## Character classes -/

theorem isBlank_of_isLineEnd {c : Char} (h : isLineEnd c = true) : isBlank c = true := by
  simp only [isLineEnd, Bool.or_eq_true, beq_iff_eq] at h
  rcases h with rfl | rfl <;> decide

theorem isQuote_eq_false_of_isBlank {c : Char} (h : isBlank c = true) : isQuote c = false := by
  by_contra hq
  simp only [Bool.not_eq_false, isQuote, Bool.or_eq_true, beq_iff_eq] at hq
  rcases hq with (rfl | rfl) | rfl <;> revert h <;> decide

theorem isBlank_eq_false_of_isQuote {c : Char} (h : isQuote c = true) : isBlank c = false := by
  by_contra hb
  rw [Bool.not_eq_false] at hb
  rw [isQuote_eq_false_of_isBlank hb] at h
  cases h

/-! ## Where a comment begins -/

/-- Whether a comment begins at the character `c` with `next` behind it. -/
def opensComment (rules : LexicalRules) (c : Char) (next : Option Char) : Bool :=
  (c == '/' && next == some '*') || (c == '-' && next == some '-') ||
    (c == '#' && rules.hashComments)

theorem comment?_eq_none_iff {rules : LexicalRules} {c : Char} {s : List Char} :
    comment? rules (c :: s) = none ↔ opensComment rules c s.head? = false := by
  cases s with
  | nil => simp [comment?, opensComment]
  | cons d s =>
    rw [comment?, opensComment]
    by_cases h₁ : c = '/' ∧ d = '*'
    · simp [h₁]
    · by_cases h₂ : c = '-' ∧ d = '-'
      · simp [h₂]
      · by_cases h₃ : c = '#' ∧ rules.hashComments = true
        · simp [h₃]
        · rw [if_neg h₁, if_neg h₂, if_neg h₃]
          simp_all

theorem opensComment_eq_false {rules : LexicalRules} {c : Char} (h₁ : c ≠ '/') (h₂ : c ≠ '-')
    (h₃ : c ≠ '#') (next : Option Char) : opensComment rules c next = false := by
  simp [opensComment, h₁, h₂, h₃]

theorem opensComment_eq_false_of_isBlank {rules : LexicalRules} {c : Char} (h : isBlank c = true)
    (next : Option Char) : opensComment rules c next = false := by
  apply opensComment_eq_false <;> rintro rfl <;> revert h <;> decide

theorem opensComment_eq_false_of_isQuote {rules : LexicalRules} {c : Char} (h : isQuote c = true)
    (next : Option Char) : opensComment rules c next = false := by
  apply opensComment_eq_false <;> rintro rfl <;> revert h <;> decide

theorem opensComment_eq_false_of_next {rules : LexicalRules} {c : Char} {next next' : Option Char}
    (h : opensComment rules c next = false) (hs : next' ≠ some '*') (hd : next' ≠ some '-') :
    opensComment rules c next' = false := by
  simp_all [opensComment]

theorem comment?_eq_none_of_isQuote {rules : LexicalRules} {c : Char} (h : isQuote c = true)
    (s : List Char) : comment? rules (c :: s) = none :=
  comment?_eq_none_iff.2 (opensComment_eq_false_of_isQuote h _)

/-! ## Where a quoted run begins and ends -/

theorem quotedRun?_eq_none_iff {rules : LexicalRules} {c : Char} {s : List Char} :
    quotedRun? rules (c :: s) = none ↔ isQuote c = false := by
  simp [quotedRun?]

/-- The opening quote of a run. -/
theorem exists_quote_of_quotedRun? {rules : LexicalRules} {s : List Char} {l : Lexeme}
    (h : quotedRun? rules s = some l) :
    ∃ q t, isQuote q = true ∧ s = q :: t ∧ l = (quotedTail (rules.escapesIn q) q t).after [q] := by
  cases s with
  | nil => simp [quotedRun?] at h
  | cons q t =>
    simp only [quotedRun?, Option.ite_none_right_eq_some, Option.some.injEq] at h
    exact ⟨q, t, h.1, rfl, h.2.symm⟩

theorem quotedTail_cons {escapes : Bool} {q c : Char} (hq : c ≠ q)
    (he : (escapes && c == '\\') = false) (s : List Char) :
    quotedTail escapes q (c :: s) = (quotedTail escapes q s).after [c] := by
  cases s with
  | nil => simp [quotedTail, Lexeme.after, hq]
  | cons d s => simp [quotedTail, hq, he]

theorem quotedTail_closing {escapes : Bool} {q : Char} {v : List Char} (hv : v.head? ≠ some q) :
    quotedTail escapes q (q :: v) = ⟨[q], true, v⟩ := by
  cases v with
  | nil => simp [quotedTail]
  | cons d v =>
    have hd : d ≠ q := by simpa using hv
    simp [quotedTail, hd]

theorem escapesIn_backtick (rules : LexicalRules) : rules.escapesIn '\x60' = false := by
  rw [LexicalRules.escapesIn, bne_self_eq_false, Bool.and_false]

/-- A backslash changes where a run ends only if the next character is its quote. -/
theorem quotedTail_eq_of_not_escaped (escapes : Bool) {q : Char} {s : List Char}
    (h : ¬ ['\\', q] <:+: s) : quotedTail escapes q s = quotedTail false q s := by
  have hnone (c : Char) : (false && c == '\\') = false := rfl
  fun_induction quotedTail escapes q s with
  | case1 => rfl
  | case2 c => rfl
  | case3 s ih =>
    rw [quotedTail, if_pos rfl, if_pos rfl, ih fun hs => h (List.infix_cons (List.infix_cons hs))]
  | case4 d s hd => rw [quotedTail, if_pos rfl, if_neg hd]
  | case5 c d s hc he ih =>
    -- the escaped character is not the quote, so that the run goes on behind it in any case
    obtain rfl : c = '\\' := by simpa using (Bool.and_eq_true_iff.1 he).2
    have hd : d ≠ q := by
      rintro rfl
      exact h ⟨[], s, rfl⟩
    rw [quotedTail_cons hc (hnone _), quotedTail_cons hd (hnone d),
      ih fun hs => h (List.infix_cons (List.infix_cons hs))]
    rfl
  | case6 c d s hc he ih =>
    rw [quotedTail_cons hc (hnone c), ih fun hs => h (List.infix_cons hs)]

theorem quotedTail_rest_of_open {escapes : Bool} {q : Char} {s : List Char}
    (h : (quotedTail escapes q s).closed = false) : (quotedTail escapes q s).rest = [] := by
  fun_induction quotedTail escapes q s <;> simp_all

theorem quotedTail_rest_head? {escapes : Bool} {q : Char} {s : List Char} :
    (quotedTail escapes q s).rest.head? ≠ some q := by
  fun_induction quotedTail escapes q s <;> simp_all

theorem quotedTail_getLast? {escapes : Bool} {q : Char} {s : List Char}
    (h : (quotedTail escapes q s).closed = true) :
    (quotedTail escapes q s).text.getLast? = some q := by
  fun_induction quotedTail escapes q s <;> simp_all [List.getLast?_cons]

/-- A run begins with its quote, and it ends with it if it is closed. -/
theorem exists_quote_ends {rules : LexicalRules} {s : List Char} {l : Lexeme}
    (h : quotedRun? rules s = some l) :
    ∃ q, isQuote q = true ∧ l.text.head? = some q ∧
      (l.closed = true → l.text.getLast? = some q) := by
  obtain ⟨q, t, hq, -, rfl⟩ := exists_quote_of_quotedRun? h
  refine ⟨q, hq, rfl, fun hclosed => ?_⟩
  simp [List.getLast?_cons, quotedTail_getLast? hclosed]

/-- What follows a closed run matters only in that it must not double the closing quote. -/
theorem quotedTail_replace {escapes : Bool} {q : Char} {s v : List Char}
    (h : (quotedTail escapes q s).closed = true) (hv : v.head? ≠ some q) :
    quotedTail escapes q ((quotedTail escapes q s).text ++ v) =
      { quotedTail escapes q s with rest := v } := by
  fun_induction quotedTail escapes q s with
  | case1 => cases h
  | case2 c =>
    obtain rfl : c = q := by simpa using h
    simp [quotedTail_closing hv]
  | case3 s ih =>
    simp only [Lexeme.text_after, Lexeme.closed_after, List.cons_append, List.nil_append] at h ⊢
    rw [quotedTail, if_pos rfl, if_pos rfl, ih h]
    rfl
  | case4 d s hd => simp [quotedTail_closing hv]
  | case5 c d s hc he ih =>
    simp only [Lexeme.text_after, Lexeme.closed_after, List.cons_append, List.nil_append] at h ⊢
    rw [quotedTail, if_neg hc, if_pos he, ih h]
    rfl
  | case6 c d s hc he ih =>
    simp only [Lexeme.text_after, Lexeme.closed_after, List.cons_append, List.nil_append] at h ⊢
    rw [quotedTail_cons hc (by simpa using he), ih h]
    rfl

/-- Any text that does not double the closing quote may follow a closed run. -/
theorem quotedRun?_replace_closed {rules : LexicalRules} {s v : List Char} {l : Lexeme}
    (h : quotedRun? rules s = some l) (hl : l.closed = true) (hv : v.head? ≠ l.text.head?) :
    quotedRun? rules (l.text ++ v) = some { l with rest := v } := by
  obtain ⟨q, t, hq, rfl, rfl⟩ := exists_quote_of_quotedRun? h
  simp only [Lexeme.text_after, List.cons_append, List.nil_append, List.head?_cons] at hv ⊢
  rw [quotedRun?, if_pos hq, quotedTail_replace hl hv]
  rfl

theorem quotedRun?_rest_of_open {rules : LexicalRules} {s : List Char} {l : Lexeme}
    (h : quotedRun? rules s = some l) (hl : l.closed = false) : l.rest = [] := by
  obtain ⟨q, t, -, rfl, rfl⟩ := exists_quote_of_quotedRun? h
  exact quotedTail_rest_of_open hl

theorem quotedRun?_rest_head? {rules : LexicalRules} {s : List Char} {l : Lexeme}
    (h : quotedRun? rules s = some l) : l.rest.head? ≠ l.text.head? := by
  obtain ⟨q, t, -, rfl, rfl⟩ := exists_quote_of_quotedRun? h
  exact quotedTail_rest_head?

/-- A text that does not double the closing quote may take the place of the rest behind a run;
behind a run that nothing ends there is no rest. -/
theorem quotedRun?_replace {rules : LexicalRules} {s v : List Char} {l : Lexeme}
    (h : quotedRun? rules s = some l) (hv : v.head? ≠ l.text.head?) (hr : l.rest = [] → v = []) :
    quotedRun? rules (l.text ++ v) = some { l with rest := v } := by
  by_cases hl : l.closed = true
  · exact quotedRun?_replace_closed h hl hv
  · have hrest := quotedRun?_rest_of_open h (by simpa using hl)
    obtain rfl := hr hrest
    have hs := quotedRun?_append h
    rw [hrest] at hs
    rw [hs, h, ← hrest]

/-- Text may be put behind a closed run and its rest, as long as nothing doubles the closing
quote. -/
theorem quotedRun?_append_closed {rules : LexicalRules} {s v : List Char} {l : Lexeme}
    (h : quotedRun? rules s = some l) (hl : l.closed = true)
    (hv : l.rest = [] → v.head? ≠ l.text.head?) :
    quotedRun? rules (s ++ v) = some { l with rest := l.rest ++ v } := by
  have hhead : (l.rest ++ v).head? ≠ l.text.head? := by
    by_cases hr : l.rest = []
    · rw [hr]
      exact hv hr
    · rw [List.head?_append_of_ne_nil _ hr]
      exact quotedRun?_rest_head? h
  have hrep := quotedRun?_replace_closed h hl hhead
  rwa [← List.append_assoc, quotedRun?_append h] at hrep

/-! ## Where a comment ends -/

/-- What opens a comment that runs to the end of its line. -/
def LexicalRules.lineOpeners (rules : LexicalRules) : List (List Char) :=
  ['-', '-'] :: if rules.hashComments then [['#']] else []

theorem mem_lineOpeners {rules : LexicalRules} {opener : List Char}
    (h : opener ∈ rules.lineOpeners) :
    opener = ['-', '-'] ∨ rules.hashComments = true ∧ opener = ['#'] := by
  unfold LexicalRules.lineOpeners at h
  rcases List.mem_cons.1 h with rfl | h
  · exact Or.inl rfl
  · exact Or.inr (by simpa using h)

/-- What opens a comment. -/
def LexicalRules.commentOpeners (rules : LexicalRules) : List (List Char) :=
  ['/', '*'] :: rules.lineOpeners

theorem pair_prefix_iff {a b c : Char} {s : List Char} :
    [a, b] <+: c :: s ↔ c = a ∧ s.head? = some b := by
  constructor
  · rintro ⟨u, hu⟩
    cases hu
    exact ⟨rfl, rfl⟩
  · rintro ⟨rfl, hs⟩
    obtain ⟨t, rfl⟩ := List.head?_eq_some_iff.1 hs
    exact ⟨t, rfl⟩

theorem opensComment_eq_false_iff {rules : LexicalRules} {c : Char} {s : List Char} :
    opensComment rules c s.head? = false ↔ ∀ o ∈ rules.commentOpeners, ¬ o <+: c :: s := by
  have hhash : ['#'] <+: c :: s ↔ c = '#' := by
    rw [List.cons_prefix_cons, and_iff_left List.nil_prefix, eq_comm]
  unfold LexicalRules.commentOpeners LexicalRules.lineOpeners opensComment
  rw [List.forall_mem_cons, List.forall_mem_cons, pair_prefix_iff, pair_prefix_iff]
  cases rules.hashComments with
  | false => simp
  | true =>
    simp only [if_true, List.forall_mem_singleton, hhash]
    simp [and_assoc]

theorem ne_nil_of_mem_commentOpeners {rules : LexicalRules} {opener : List Char}
    (h : opener ∈ rules.commentOpeners) : opener ≠ [] := by
  rcases List.mem_cons.1 h with rfl | h
  · simp
  · rcases mem_lineOpeners h with rfl | ⟨-, rfl⟩ <;> simp

theorem comment?_block (rules : LexicalRules) (s : List Char) :
    comment? rules ('/' :: '*' :: s) = some ((blockTail s).after ['/', '*']) := by
  simp [comment?]

theorem comment?_line {rules : LexicalRules} {opener : List Char}
    (h : opener ∈ rules.lineOpeners) (s : List Char) :
    comment? rules (opener ++ s) = some ((lineTail s).after opener) := by
  rcases mem_lineOpeners h with rfl | ⟨hr, rfl⟩
  · simp [comment?]
  · cases s with
    | nil => simp [comment?, hr, lineTail, Lexeme.after]
    | cons d s => simp [comment?, hr]

/-- A comment is a block comment or a line comment. -/
theorem comment?_eq_some_cases {rules : LexicalRules} {s : List Char} {l : Lexeme}
    (h : comment? rules s = some l) :
    (∃ t, s = '/' :: '*' :: t ∧ l = (blockTail t).after ['/', '*']) ∨
      ∃ opener ∈ rules.lineOpeners, ∃ t, s = opener ++ t ∧ l = (lineTail t).after opener := by
  cases s with
  | nil => simp [comment?] at h
  | cons c s =>
    have ho : opensComment rules c s.head? = true := by
      by_contra hn
      rw [comment?_eq_none_iff.2 (by simpa using hn)] at h
      cases h
    simp only [opensComment, Bool.or_eq_true, Bool.and_eq_true, beq_iff_eq] at ho
    rcases ho with (⟨rfl, hs⟩ | ⟨rfl, hs⟩) | ⟨rfl, hr⟩
    · obtain ⟨t, rfl⟩ := List.head?_eq_some_iff.1 hs
      rw [comment?_block, Option.some.injEq] at h
      exact Or.inl ⟨t, rfl, h.symm⟩
    · obtain ⟨t, rfl⟩ := List.head?_eq_some_iff.1 hs
      have hm : ['-', '-'] ∈ rules.lineOpeners := List.mem_cons_self
      refine Or.inr ⟨_, hm, t, rfl, ?_⟩
      exact (Option.some.inj ((comment?_line hm t).symm.trans h)).symm
    · have hm : ['#'] ∈ rules.lineOpeners := by simp [LexicalRules.lineOpeners, hr]
      refine Or.inr ⟨_, hm, s, rfl, ?_⟩
      exact (Option.some.inj ((comment?_line hm s).symm.trans h)).symm

theorem blockTail_rest_of_open {s : List Char} (h : (blockTail s).closed = false) :
    (blockTail s).rest = [] := by
  fun_induction blockTail s <;> simp_all

/-- Any text may follow a closed block comment. -/
theorem blockTail_replace {s : List Char} (h : (blockTail s).closed = true) (v : List Char) :
    blockTail ((blockTail s).text ++ v) = { blockTail s with rest := v } := by
  fun_induction blockTail s with
  | case1 => cases h
  | case2 => cases h
  | case3 c d s hc => simp [blockTail, hc]
  | case4 c d s hc ih =>
    simp only [Lexeme.text_after, Lexeme.closed_after, List.cons_append, List.nil_append] at h ⊢
    -- the rest of the comment begins with `d`, so the second character is the same
    obtain ⟨t, ht⟩ : ∃ t, (blockTail (d :: s)).text = d :: t := by
      cases s with
      | nil => cases h
      | cons e s => rw [blockTail]; split_ifs <;> exact ⟨_, rfl⟩
    have ih := ih h
    rw [ht, List.cons_append] at ih ⊢
    rw [blockTail, if_neg hc, ih]
    simp [Lexeme.after, ht]

theorem isLineEnd_of_mem_lineTail {s : List Char} {c : Char} (h : c ∈ (lineTail s).text) :
    isLineEnd c = false := by
  simpa using List.mem_takeWhile_imp h

theorem isLineEnd_of_lineTail_rest {s : List Char} {c : Char}
    (h : (lineTail s).rest.head? = some c) : isLineEnd c = true := by
  have := List.head?_dropWhile_not (fun c => !isLineEnd c) s
  unfold lineTail at h
  simp_all

theorem lineTail_closed (s : List Char) :
    (lineTail s).closed = (lineTail s).rest.head?.isSome := by
  unfold lineTail
  cases s.dropWhile fun c => !isLineEnd c <;> rfl

/-- Nothing or a line end may follow a line comment. -/
theorem lineTail_replace {t v : List Char} (ht : ∀ c ∈ t, isLineEnd c = false)
    (hv : ∀ c, v.head? = some c → isLineEnd c = true) :
    lineTail (t ++ v) = ⟨t, v.head?.isSome, v⟩ := by
  have hp : ∀ c ∈ t, (!isLineEnd c) = true := fun c hc => by simp [ht c hc]
  unfold lineTail
  rw [List.takeWhile_append_of_pos hp, List.dropWhile_append_of_pos hp]
  cases v with
  | nil => simp
  | cons c v => simp [hv c rfl]

/-- A text that begins like the rest behind a comment may take its place. -/
theorem comment?_replace {rules : LexicalRules} {s v : List Char} {l : Lexeme}
    (h : comment? rules s = some l) (hv : v.head? = l.rest.head?) :
    comment? rules (l.text ++ v) = some { l with rest := v } := by
  rcases comment?_eq_some_cases h with ⟨t, rfl, rfl⟩ | ⟨opener, ho, t, rfl, rfl⟩
  · simp only [Lexeme.text_after, List.cons_append, List.nil_append, comment?_block]
    cases hc : (blockTail t).closed with
    | true => rw [blockTail_replace hc]; rfl
    | false =>
      have hr : (blockTail t).rest = [] := blockTail_rest_of_open hc
      obtain rfl : v = [] := by simpa [hr] using hv
      have ht := blockTail_append t
      rw [hr] at ht
      rw [ht]
      simp [Lexeme.after, hr]
  · have hend : ∀ c, v.head? = some c → isLineEnd c = true :=
      fun c hc => isLineEnd_of_lineTail_rest (hv ▸ hc)
    rw [Lexeme.text_after, List.append_assoc, comment?_line ho,
      lineTail_replace (fun c => isLineEnd_of_mem_lineTail) hend]
    simp only [Lexeme.rest_after] at hv
    simp [Lexeme.after, lineTail_closed, hv]

/-- Any text may be put behind a closed comment and its rest. -/
theorem comment?_append_closed {rules : LexicalRules} {s : List Char} {l : Lexeme}
    (h : comment? rules s = some l) (hl : l.closed = true) (v : List Char) :
    comment? rules (s ++ v) = some { l with rest := l.rest ++ v } := by
  rcases comment?_eq_some_cases h with ⟨t, rfl, rfl⟩ | ⟨opener, ho, t, rfl, rfl⟩
  · have hrep := blockTail_replace hl ((blockTail t).rest ++ v)
    rw [← List.append_assoc, blockTail_append] at hrep
    rw [List.cons_append, List.cons_append, comment?_block, hrep]
    rfl
  · -- a line comment is closed by the line end in front of its rest
    have hr : (lineTail t).rest ≠ [] := by
      intro he
      rw [Lexeme.closed_after, lineTail_closed, he] at hl
      cases hl
    have hrep := comment?_replace h (v := (lineTail t).rest ++ v) (List.head?_append_of_ne_nil _ hr)
    rwa [Lexeme.text_after, ← List.append_assoc, List.append_assoc opener, lineTail_append] at hrep

theorem comment?_rest_of_open {rules : LexicalRules} {s : List Char} {l : Lexeme}
    (h : comment? rules s = some l) (hl : l.closed = false) : l.rest = [] := by
  rcases comment?_eq_some_cases h with ⟨t, rfl, rfl⟩ | ⟨opener, ho, t, rfl, rfl⟩
  · exact blockTail_rest_of_open hl
  · rw [Lexeme.closed_after, lineTail_closed] at hl
    simpa using hl

/-- A comment stands also where nothing follows it. -/
theorem comment?_cut {rules : LexicalRules} {s : List Char} {l : Lexeme}
    (h : comment? rules s = some l) :
    ∃ closed, comment? rules l.text = some ⟨l.text, closed, []⟩ := by
  rcases comment?_eq_some_cases h with ⟨t, rfl, rfl⟩ | ⟨opener, ho, t, rfl, rfl⟩
  · cases hc : (blockTail t).closed with
    | true =>
      have := blockTail_replace hc []
      rw [List.append_nil] at this
      refine ⟨true, ?_⟩
      simp [comment?_block, this, Lexeme.after, hc]
    | false =>
      have := comment?_replace h (v := []) (by simp [blockTail_rest_of_open hc])
      rw [List.append_nil] at this
      exact ⟨_, this⟩
  · have := lineTail_replace (v := []) (fun c => isLineEnd_of_mem_lineTail (s := t)) (by simp)
    rw [List.append_nil] at this
    refine ⟨false, ?_⟩
    rw [Lexeme.text_after, comment?_line ho, this]
    rfl

/-! ## Where the rest is cut short -/

section Front

variable {rules : LexicalRules} {s v : List Char} {l : Lexeme}

theorem comment?_front (h : comment? rules s = some l) (hv : v = [] ∨ v.head? = l.rest.head?) :
    ∃ closed, comment? rules (l.text ++ v) = some ⟨l.text, closed, v⟩ := by
  rcases hv with rfl | hv
  · rw [List.append_nil]
    exact comment?_cut h
  · exact ⟨_, comment?_replace h hv⟩

theorem quotedRun?_front (h : quotedRun? rules s = some l)
    (hv : v = [] ∨ v.head? = l.rest.head?) :
    quotedRun? rules (l.text ++ v) = some { l with rest := v } := by
  rcases hv with rfl | hv
  · refine quotedRun?_replace h ?_ fun _ => rfl
    intro he
    exact quotedRun?_text_ne_nil h (List.head?_eq_none_iff.1 he.symm)
  · exact quotedRun?_replace h (hv ▸ quotedRun?_rest_head? h) fun hr => by simpa [hr] using hv

theorem opensComment_front {c : Char} {t : List Char}
    (h : opensComment rules c t.head? = false) (hv : v = [] ∨ v.head? = t.head?) :
    opensComment rules c v.head? = false := by
  rcases hv with rfl | hv
  · exact opensComment_eq_false_of_next h (by simp) (by simp)
  · rwa [hv]

end Front

end SqlTriage.Lexical

import Mathlib
import SqlTriage.Proofs.Lexical.TokenStream

/-!
# Letter case

Only ASCII letters have another case, and to the lexical rules they are all alike: no letter is
blank, quotes, punctuates, escapes or opens a comment.  Scanning a text in lower case is therefore
scanning the text and writing its segments in lower case (`scan_lower`).  The same holds of
stripping (`strip_lower`) and of the tokens, which stay in their places (`tokensFrom_strip_lower`).
-/

namespace SqlTriage.Lexical

open SqlTriage.Text

variable {rules : LexicalRules}

/-! ## Letters -/

theorem toLower_eq_self_or_isAlpha (c : Char) : c.toLower = c ∨ c.isAlpha = true := by
  by_cases h : c.isUpper = true
  · right
    rw [Char.isAlpha, h, Bool.true_or]
  · left
    exact Char.toLower_eq_of_not_isUpper h

/-- Lower case turns no letter into another character and no other character into a letter. -/
theorem toLower_eq_iff {c d : Char} (hd : d.isAlpha = false) : c.toLower = d ↔ c = d := by
  rcases toLower_eq_self_or_isAlpha c with h | h
  · rw [h]
  · constructor
    · rintro rfl
      rw [Char.isAlpha_toLower_eq_isAlpha, h] at hd
      cases hd
    · rintro rfl
      rw [h] at hd
      cases hd

/-- A class without letters does not see their case. -/
theorem apply_toLower {p : Char → Bool} (hp : ∀ c, p c = true → c.isAlpha = false) (c : Char) :
    p c.toLower = p c := by
  rcases toLower_eq_self_or_isAlpha c with h | h
  · rw [h]
  · have hnot : ∀ d : Char, d.isAlpha = true → p d = false := by
      intro d hd
      by_contra hpd
      rw [hp d (by simpa using hpd)] at hd
      cases hd
    rw [hnot c h, hnot c.toLower (by rwa [Char.isAlpha_toLower_eq_isAlpha])]

theorem toNat_of_isAlpha {c : Char} (h : c.isAlpha = true) :
    65 ≤ c.toNat ∧ c.toNat ≤ 90 ∨ 97 ≤ c.toNat ∧ c.toNat ≤ 122 := by
  simpa [Char.isAlpha, Char.isUpper, Char.isLower, UInt32.le_iff_toNat_le] using h

@[simp] theorem isBlank_toLower (c : Char) : isBlank c.toLower = isBlank c := by
  refine apply_toLower (fun c hc => ?_) c
  by_contra hletter
  have := toNat_of_isAlpha (by simpa using hletter)
  simp only [isBlank, isSpace, isControl, spaceRanges, List.any_cons, List.any_nil,
    Bool.or_eq_true, Bool.and_eq_true, decide_eq_true_eq, Bool.false_eq_true, or_false] at hc
  omega

@[simp] theorem isLineEnd_toLower (c : Char) : isLineEnd c.toLower = isLineEnd c := by
  refine apply_toLower (fun c hc => ?_) c
  simp only [isLineEnd, Bool.or_eq_true, beq_iff_eq] at hc
  rcases hc with rfl | rfl <;> decide

theorem isAlpha_of_isQuote {c : Char} (h : isQuote c = true) : c.isAlpha = false := by
  simp only [isQuote, Bool.or_eq_true, beq_iff_eq] at h
  rcases h with (rfl | rfl) | rfl <;> decide

@[simp] theorem isQuote_toLower (c : Char) : isQuote c.toLower = isQuote c :=
  apply_toLower (fun _ => isAlpha_of_isQuote) c

@[simp] theorem isPunctuation_toLower (c : Char) : isPunctuation c.toLower = isPunctuation c := by
  have hall : (punctuation.all fun d => !d.isAlpha) = true := by decide
  refine apply_toLower (fun c hc => ?_) c
  have hc : c ∈ punctuation := List.contains_iff_mem.1 hc
  simpa using List.all_eq_true.1 hall c hc

@[simp] theorem utf8Size_toLower (c : Char) : c.toLower.utf8Size = c.utf8Size := by
  rcases toLower_eq_self_or_isAlpha c with h | h
  · rw [h]
  · have hsize : ∀ d : Char, d.isAlpha = true → d.utf8Size = 1 := by
      intro d hd
      have := toNat_of_isAlpha hd
      rw [Char.utf8Size_eq_one_iff, UInt32.le_iff_toNat_le]
      show d.toNat ≤ 127
      omega
    rw [hsize c h, hsize c.toLower (by rwa [Char.isAlpha_toLower_eq_isAlpha])]

@[simp] theorem byteLength_lower (s : List Char) :
    byteLength (s.map Char.toLower) = byteLength s := by
  induction s with
  | nil => rfl
  | cons c s ih => simp only [List.map_cons, byteLength, utf8Size_toLower, ih]

/-! ## Lexemes -/

/-- The lexeme in lower case. -/
def Lexeme.lowered (l : Lexeme) : Lexeme :=
  ⟨l.text.map Char.toLower, l.closed, l.rest.map Char.toLower⟩

theorem Lexeme.lowered_after (front : List Char) (l : Lexeme) :
    (l.after front).lowered = l.lowered.after (front.map Char.toLower) := by
  simp [Lexeme.lowered, Lexeme.after]

theorem beq_toLower {d : Char} (hd : d.isAlpha = false) (c : Char) :
    (c.toLower == d) = (c == d) := by
  rw [Bool.eq_iff_iff, beq_iff_eq, beq_iff_eq, toLower_eq_iff hd]

theorem opensComment_lower (c : Char) (next : Option Char) :
    opensComment rules c.toLower (next.map Char.toLower) = opensComment rules c next := by
  have hnext (d : Char) (hd : d.isAlpha = false) :
      (next.map Char.toLower == some d) = (next == some d) := by
    cases next with
    | none => rfl
    | some e => simp [toLower_eq_iff hd]
  rw [opensComment, opensComment, beq_toLower (by decide), beq_toLower (by decide),
    beq_toLower (by decide), hnext _ (by decide), hnext _ (by decide)]

theorem quotedTail_lower {escapes : Bool} {q : Char} (hq : q.isAlpha = false) (s : List Char) :
    quotedTail escapes q (s.map Char.toLower) = (quotedTail escapes q s).lowered := by
  have heq (c : Char) : c.toLower = q ↔ c = q := toLower_eq_iff hq
  have hback (c : Char) : (c.toLower == '\\') = (c == '\\') := beq_toLower (by decide) c
  have hself : q.toLower = q := (heq q).2 rfl
  fun_induction quotedTail escapes q s with
  | case1 => rfl
  | case2 c => simp [quotedTail, Lexeme.lowered, heq]
  | case3 s ih => simp [quotedTail, hself, ih, Lexeme.lowered_after]
  | case4 d s hd => simp [quotedTail, hself, heq, hd, Lexeme.lowered]
  | case5 c d s hc he ih =>
    have hc' : c.toLower ≠ q := fun h => hc ((heq c).1 h)
    rw [List.map_cons, List.map_cons, quotedTail, if_neg hc', hback, if_pos he, ih,
      Lexeme.lowered_after]
    rfl
  | case6 c d s hc he ih =>
    have hc' : c.toLower ≠ q := fun h => hc ((heq c).1 h)
    have he' : (escapes && c.toLower == '\\') = false := by
      rw [hback]
      simpa using he
    rw [List.map_cons, quotedTail_cons hc' he', ih, Lexeme.lowered_after]
    rfl

theorem quotedRun?_lower (s : List Char) :
    quotedRun? rules (s.map Char.toLower) = (quotedRun? rules s).map Lexeme.lowered := by
  cases s with
  | nil => rfl
  | cons q s =>
    rw [List.map_cons, quotedRun?, quotedRun?, isQuote_toLower]
    by_cases hq : isQuote q = true
    · have hletter := isAlpha_of_isQuote hq
      have hself : q.toLower = q := (toLower_eq_iff hletter).2 rfl
      rw [if_pos hq, if_pos hq, hself, quotedTail_lower hletter, Option.map_some,
        Lexeme.lowered_after, List.map_singleton, hself]
    · rw [if_neg hq, if_neg hq, Option.map_none]

theorem blockTail_lower (s : List Char) :
    blockTail (s.map Char.toLower) = (blockTail s).lowered := by
  have hend (c d : Char) : c.toLower = '*' ∧ d.toLower = '/' ↔ c = '*' ∧ d = '/' := by
    rw [toLower_eq_iff (by decide), toLower_eq_iff (by decide)]
  fun_induction blockTail s with
  | case1 => rfl
  | case2 c => rfl
  | case3 c d s hc =>
    rw [List.map_cons, List.map_cons, blockTail, if_pos ((hend c d).2 hc)]
    rfl
  | case4 c d s hc ih =>
    rw [List.map_cons] at ih
    rw [List.map_cons, List.map_cons, blockTail, if_neg (mt (hend c d).1 hc), ih,
      Lexeme.lowered_after]
    rfl

theorem lineTail_lower (s : List Char) : lineTail (s.map Char.toLower) = (lineTail s).lowered := by
  have hp : (fun c => !isLineEnd c) ∘ Char.toLower = fun c => !isLineEnd c :=
    funext fun c => by rw [Function.comp_apply, isLineEnd_toLower]
  simp only [lineTail, List.takeWhile_map, List.dropWhile_map, hp, Lexeme.lowered, List.isEmpty_map]

theorem comment?_lower (s : List Char) :
    comment? rules (s.map Char.toLower) = (comment? rules s).map Lexeme.lowered := by
  cases hc : comment? rules s with
  | some l =>
    rcases comment?_eq_some_cases hc with ⟨t, rfl, rfl⟩ | ⟨opener, ho, t, rfl, rfl⟩
    · rw [Option.map_some, Lexeme.lowered_after, ← blockTail_lower]
      exact comment?_block rules _
    · have hself : opener.map Char.toLower = opener := by
        rcases mem_lineOpeners ho with rfl | ⟨-, rfl⟩ <;> rfl
      rw [List.map_append, hself, comment?_line ho, lineTail_lower, Option.map_some,
        Lexeme.lowered_after, hself]
  | none =>
    cases s with
    | nil => rfl
    | cons c t =>
      have hopen := comment?_eq_none_iff.1 hc
      rw [List.map_cons, Option.map_none, comment?_eq_none_iff, List.head?_map, opensComment_lower,
        hopen]

/-! ## Segments -/

/-- The segment in lower case. -/
def Segment.lowered : Segment → Segment
  | comment t closed => comment (t.map Char.toLower) closed
  | quoted t closed => quoted (t.map Char.toLower) closed
  | plain c => plain c.toLower

theorem scan_lower (s : List Char) :
    scan rules (s.map Char.toLower) = (scan rules s).map Segment.lowered := by
  fun_induction scan rules s with
  | case1 => exact scan_nil
  | case2 c t l hc ih =>
    have hlower := @comment?_lower rules (c :: t)
    rw [hc] at hlower
    rw [scan_comment hlower, List.map_cons, ← ih]
    rfl
  | case3 c t hc l hq ih =>
    have hlower := @quotedRun?_lower rules (c :: t)
    rw [hq] at hlower
    rw [scan_quoted hlower, List.map_cons, ← ih]
    rfl
  | case4 c t hc hq ih =>
    have hopen : opensComment rules c.toLower (t.map Char.toLower).head? = false := by
      rw [List.head?_map, opensComment_lower, comment?_eq_none_iff.1 hc]
    have hquote : isQuote c.toLower = false := by
      rw [isQuote_toLower, quotedRun?_eq_none_iff.1 hq]
    rw [List.map_cons, scan_plain hopen hquote, List.map_cons, ih]
    rfl

@[simp] theorem Segment.text_lowered (g : Segment) :
    g.lowered.text = g.text.map Char.toLower := by
  cases g <;> rfl

@[simp] theorem Segment.inWord_lowered (g : Segment) : g.lowered.inWord = g.inWord := by
  cases g <;> simp [lowered, inWord]

@[simp] theorem Segment.isMark_lowered (g : Segment) : g.lowered.isMark = g.isMark := by
  cases g <;> simp [lowered, isMark]

theorem Segment.blanked_lowered (g : Segment) : g.lowered.blanked = g.blanked.lowered := by
  cases g <;> rfl

theorem textOf_lower (gs : List Segment) :
    textOf (gs.map Segment.lowered) = (textOf gs).map Char.toLower := by
  induction gs with
  | nil => rfl
  | cons g gs ih =>
    rw [List.map_cons, textOf_cons, textOf_cons, ih, Segment.text_lowered, List.map_append]

/-! ## Stripping -/

theorem spaceComments_lower (s : List Char) :
    spaceComments rules (s.map Char.toLower) = (spaceComments rules s).map Char.toLower := by
  have hblanked : Segment.blanked ∘ Segment.lowered = Segment.lowered ∘ Segment.blanked :=
    funext Segment.blanked_lowered
  rw [spaceComments_eq, spaceComments_eq, scan_lower, List.map_map, hblanked, ← List.map_map,
    textOf_lower]

theorem trim_lower {p : Char → Bool} (hp : ∀ c : Char, p c.toLower = p c) (s : List Char) :
    trim p (s.map Char.toLower) = (trim p s).map Char.toLower := by
  have hcomp : p ∘ Char.toLower = p := funext hp
  simp only [trim, List.dropWhile_map, ← List.map_reverse, hcomp]

theorem strip_lower (s : List Char) :
    strip rules (s.map Char.toLower) = (strip rules s).map Char.toLower := by
  rw [strip, strip, spaceComments_lower, trim_lower isBlank_toLower]

/-! ## Tokens -/

/-- The token in lower case, in its place. -/
def Token.lowered (t : Token) : Token :=
  { t with text := t.text.toLower }

theorem toLower_ofList (s : List Char) :
    (String.ofList s).toLower = String.ofList (s.map Char.toLower) := by
  rw [← String.toList_inj, String.toLower, String.toList_map, String.toList_ofList,
    String.toList_ofList]

theorem tokensOf_lower (o : Nat) (gs : List Segment) :
    tokensOf o (gs.map Segment.lowered) = (tokensOf o gs).map Token.lowered := by
  have hword : Segment.inWord ∘ Segment.lowered = Segment.inWord :=
    funext Segment.inWord_lowered
  fun_induction tokensOf o gs with
  | case1 => exact tokensOf_nil _
  | case2 o g gs hg w ih =>
    have hw : g.lowered.text ++ textOf ((gs.map Segment.lowered).takeWhile Segment.inWord) =
        w.map Char.toLower := by
      rw [List.takeWhile_map, hword, textOf_lower, Segment.text_lowered, List.map_append]
    rw [List.map_cons, tokensOf_word (by rwa [Segment.inWord_lowered]), hw, byteLength_lower,
      List.dropWhile_map, hword, ih, List.map_cons, Token.lowered, toLower_ofList]
  | case3 o g gs hg hm ih =>
    rw [List.map_cons, tokensOf_mark (by simpa using hg) (by rwa [Segment.isMark_lowered]),
      Segment.text_lowered, byteLength_lower, ih, List.map_cons, Token.lowered, toLower_ofList]
  | case4 o g gs hg hm ih =>
    rw [List.map_cons, tokensOf_skip (by simpa using hg) (by simpa using hm),
      Segment.text_lowered, byteLength_lower, ih]

/-- A text in lower case has the tokens of the text, in lower case and at the same places. -/
theorem tokensFrom_strip_lower (s : List Char) :
    tokensFrom rules 0 (strip rules (s.map Char.toLower)) =
      (tokensFrom rules 0 (strip rules s)).map Token.lowered := by
  rw [tokensFrom_eq (isUncommented_strip _), tokensFrom_eq (isUncommented_strip _), strip_lower,
    scan_lower, tokensOf_lower]

end SqlTriage.Lexical

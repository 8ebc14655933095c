import Mathlib.Data.List.Infix
import SqlTriage.Proofs.Lexical.TokenStream

/-!
# Tokens tile the text

Cut into tokens, a text falls into blanks, punctuation and words, of which a word goes on as far as
it can (`Tiles`), and there is only one way to cut it so (`tiles_iff`).  Read off for the tokens as
a whole: they are parts of the text in ascending order, what stands in none of them is blank, two
words never touch, and nothing follows an open quoted run (`tokens_isTiling`).  None of this asks
for a stripped text: a comment is cut into tokens like anything else.
-/

namespace SqlTriage.Lexical

open SqlTriage.Text

variable {rules : LexicalRules}

/-! ## Quoted runs in any text -/

/-- The text as quoted runs and single characters.  Comments are not looked for: a quote outside a
run opens one, whatever stands before it. -/
def quoteScan (rules : LexicalRules) (s : List Char) : List Segment :=
  match s with
  | [] => []
  | c :: t =>
    match _ : quotedRun? rules (c :: t) with
    | some l => .quoted l.text l.closed :: quoteScan rules l.rest
    | none => .plain c :: quoteScan rules t
termination_by s.length
decreasing_by
  · exact quotedRun?_length_lt ‹_›
  · exact Nat.lt_succ_self _

/-- Nothing ends a quoted run of the text. -/
def HasOpenRun (rules : LexicalRules) (s : List Char) : Prop :=
  ∃ run, .quoted run false ∈ quoteScan rules s

theorem quoteScan_nil : quoteScan rules [] = [] := by rw [quoteScan]

theorem quoteScan_quoted {s : List Char} {l : Lexeme} (h : quotedRun? rules s = some l) :
    quoteScan rules s = .quoted l.text l.closed :: quoteScan rules l.rest := by
  cases s with
  | nil => simp [quotedRun?] at h
  | cons c t =>
    rw [quoteScan]
    split
    · rename_i l' hl
      obtain rfl : l' = l := Option.some.inj (hl.symm.trans h)
      rfl
    · simp_all

theorem quoteScan_plain {c : Char} (hc : isQuote c = false) (t : List Char) :
    quoteScan rules (c :: t) = .plain c :: quoteScan rules t := by
  rw [quoteScan]
  split
  · simp_all [quotedRun?_eq_none_iff.2 hc]
  · rfl

/-! ## Words and marks -/

namespace Token

/-- The offset of the first byte behind the token. -/
def stop (t : Token) : Nat :=
  t.offset + byteLength t.text.toList

theorem offset_lt_stop {t : Token} (h : t.text ≠ "") : t.offset < t.stop := by
  obtain ⟨c, s, hs⟩ : ∃ c s, t.text.toList = c :: s := List.exists_cons_of_ne_nil (by simpa using h)
  have hpos := c.utf8Size_pos
  rw [stop, hs, byteLength]
  omega

/-- The token is one character of punctuation. -/
def IsMark (t : Token) : Prop :=
  ∃ c, isPunctuation c = true ∧ t.text.toList = [c]

end Token

/-- A word begins with no punctuation, and blanks and punctuation stand in its quoted runs only. -/
structure IsWord (rules : LexicalRules) (w : List Char) : Prop where
  ne_nil : w ≠ []
  head : w.head?.any isPunctuation = false
  outside : ∀ c, .plain c ∈ quoteScan rules w → isBlank c = false ∧ isPunctuation c = false

/-- A character that ends a word outside its quoted runs. -/
def EndsWord (c : Char) : Prop :=
  isBlank c = true ∨ isPunctuation c = true

theorem EndsWord.isQuote_eq_false {c : Char} (h : EndsWord c) : isQuote c = false :=
  h.elim isQuote_eq_false_of_isBlank isQuote_eq_false_of_isPunctuation

theorem isBlank_eq_false_of_isPunctuation {c : Char} (h : isPunctuation c = true) :
    isBlank c = false := by
  have hall : (punctuation.all fun d => !isBlank d) = true := by decide
  have hc : c ∈ punctuation := List.contains_iff_mem.1 h
  simpa using List.all_eq_true.1 hall c hc

/-! ## The word at the front of a text -/

theorem head?_word (rules : LexicalRules) (s : List Char) :
    (word rules s).1 = [] ∨ (word rules s).1.head? = s.head? := by
  have happend := word_append rules s
  cases hw : (word rules s).1 with
  | nil => exact Or.inl rfl
  | cons c w =>
    rw [hw] at happend
    rw [← happend]
    exact Or.inr rfl

/-- Read alone, a word has the quoted runs that it has in its place. -/
theorem quoteScan_word_quoted {s : List Char} {l : Lexeme} (h : quotedRun? rules s = some l) :
    quoteScan rules (l.text ++ (word rules l.rest).1) =
      .quoted l.text l.closed :: quoteScan rules (word rules l.rest).1 :=
  quoteScan_quoted (quotedRun?_front h (head?_word rules l.rest))

theorem mem_quoteScan_word (s : List Char) {c : Char}
    (h : .plain c ∈ quoteScan rules (word rules s).1) : ¬ EndsWord c := by
  fun_induction word rules s with
  | case1 => simp [quoteScan_nil] at h
  | case2 d t l hq more ih =>
    rw [quoteScan_word_quoted hq] at h
    exact ih (by simpa using h)
  | case3 d t hq hd => simp [quoteScan_nil] at h
  | case4 d t hq hd more ih =>
    rw [quoteScan_plain (quotedRun?_eq_none_iff.1 hq)] at h
    rcases List.mem_cons.1 h with h | h
    · cases h
      simpa [EndsWord] using hd
    · exact ih h

/-- A word stops only where it has to. -/
theorem endsWord_of_word (s : List Char) {c : Char} (h : (word rules s).2.head? = some c) :
    EndsWord c := by
  fun_induction word rules s with
  | case1 => cases h
  | case2 d t l hq more ih => exact ih h
  | case3 d t hq hd =>
    cases h
    simpa [EndsWord] using hd
  | case4 d t hq hd more ih => exact ih h

/-- An open quoted run goes to the end of the text. -/
theorem word_rest_of_hasOpenRun (s : List Char) (h : HasOpenRun rules (word rules s).1) :
    (word rules s).2 = [] := by
  obtain ⟨run, h⟩ := h
  fun_induction word rules s with
  | case1 => rfl
  | case2 d t l hq more ih =>
    rw [quoteScan_word_quoted hq] at h
    rcases List.mem_cons.1 h with h | h
    · have hopen : l.closed = false := (Segment.quoted.inj h).2.symm
      show (word rules l.rest).2 = []
      rw [quotedRun?_rest_of_open hq hopen, word]
    · exact ih h
  | case3 d t hq hd => simp [quoteScan_nil] at h
  | case4 d t hq hd more ih =>
    rw [quoteScan_plain (quotedRun?_eq_none_iff.1 hq)] at h
    exact ih (by simpa using h)

theorem isWord_word {c : Char} {t : List Char} (hb : isBlank c = false)
    (hp : isPunctuation c = false) : IsWord rules (word rules (c :: t)).1 where
  ne_nil := word_ne_nil hb hp
  head := by
    rcases head?_word rules (c :: t) with h | h
    · exact absurd h (word_ne_nil hb hp)
    · rw [h]
      exact hp
  outside d hd := by simpa [EndsWord] using mem_quoteScan_word _ hd

theorem IsWord.exists_cons {w : List Char} (h : IsWord rules w) :
    ∃ c t, w = c :: t ∧ ¬ EndsWord c := by
  obtain ⟨c, t, rfl⟩ := List.exists_cons_of_ne_nil h.ne_nil
  refine ⟨c, t, rfl, ?_⟩
  have hp : isPunctuation c = false := h.head
  have hb : isBlank c = false := by
    cases hq : isQuote c with
    | true => exact isBlank_eq_false_of_isQuote hq
    | false =>
      refine (h.outside c ?_).1
      rw [quoteScan_plain hq]
      exact List.mem_cons_self
  simp [EndsWord, hb, hp]

/-- What ends a word does not double the closing quote of a run. -/
theorem quotedRun?_append_endsWord {v s : List Char} {l : Lexeme} (h : quotedRun? rules v = some l)
    (hopen : l.closed = false → s = []) (hend : ∀ c, s.head? = some c → EndsWord c) :
    quotedRun? rules (v ++ s) = some { l with rest := l.rest ++ s } := by
  by_cases hl : l.closed = true
  · refine quotedRun?_append_closed h hl fun _ he => ?_
    obtain ⟨q, t, hq, rfl, rfl⟩ := exists_quote_of_quotedRun? h
    rw [(hend q he).isQuote_eq_false] at hq
    cases hq
  · rw [hopen (by simpa using hl), List.append_nil, List.append_nil, h]

/-- A word that can go no further is the word read in its place. -/
theorem word_eq_of_outside {w s : List Char}
    (hw : ∀ c, .plain c ∈ quoteScan rules w → isBlank c = false ∧ isPunctuation c = false)
    (hopen : HasOpenRun rules w → s = []) (hend : ∀ c, s.head? = some c → EndsWord c) :
    word rules (w ++ s) = (w, s) := by
  fun_induction quoteScan rules w with
  | case1 =>
    cases s with
    | nil => rw [List.nil_append, word]
    | cons c s =>
      have hc : EndsWord c := hend c rfl
      rw [List.nil_append, word_plain hc.isQuote_eq_false, if_pos (by simpa [EndsWord] using hc)]
  | case2 c t l hq ih =>
    have hscan : quoteScan rules (c :: t) = .quoted l.text l.closed :: quoteScan rules l.rest :=
      quoteScan_quoted hq
    have hrun : quotedRun? rules (c :: t ++ s) = some { l with rest := l.rest ++ s } := by
      refine quotedRun?_append_endsWord hq (fun hl => hopen ⟨l.text, ?_⟩) hend
      rw [hscan, hl]
      exact List.mem_cons_self
    have hrest : word rules (l.rest ++ s) = (l.rest, s) := by
      refine ih (fun d hd => hw d (List.mem_cons_of_mem _ hd)) ?_
      rintro ⟨run, hmem⟩
      exact hopen ⟨run, hscan ▸ List.mem_cons_of_mem _ hmem⟩
    rw [word_quoted hrun]
    show (l.text ++ (word rules (l.rest ++ s)).1, (word rules (l.rest ++ s)).2) = _
    rw [hrest, quotedRun?_append hq]
  | case3 c t hq ih =>
    have hquote : isQuote c = false := quotedRun?_eq_none_iff.1 hq
    have hscan : quoteScan rules (c :: t) = .plain c :: quoteScan rules t :=
      quoteScan_plain hquote t
    obtain ⟨hb, hp⟩ := hw c List.mem_cons_self
    have hrest : word rules (t ++ s) = (t, s) := by
      refine ih (fun d hd => hw d (List.mem_cons_of_mem _ hd)) ?_
      rintro ⟨run, hmem⟩
      exact hopen ⟨run, hscan ▸ List.mem_cons_of_mem _ hmem⟩
    rw [List.cons_append, word_plain hquote, if_neg (by simp [hb, hp]), hrest]

/-! ## Tilings -/

/-- The tokens, in order, with what stands in none of them, are the text, whose first character has
the given offset.  A word goes on to the end of the text or up to a character that ends it. -/
inductive Tiles (rules : LexicalRules) : Nat → List Char → List Token → Prop
  | nil (o : Nat) : Tiles rules o [] []
  | blank {o : Nat} {c : Char} {s : List Char} {ts : List Token} (hc : isBlank c = true)
    (h : Tiles rules (o + c.utf8Size) s ts) : Tiles rules o (c :: s) ts
  | mark {o : Nat} {c : Char} {s : List Char} {ts : List Token} (hc : isPunctuation c = true)
    (h : Tiles rules (o + c.utf8Size) s ts) :
    Tiles rules o (c :: s) (⟨String.ofList [c], o⟩ :: ts)
  | word {o : Nat} {w s : List Char} {ts : List Token} (hw : IsWord rules w)
    (hopen : HasOpenRun rules w → s = []) (hend : ∀ c, s.head? = some c → EndsWord c)
    (h : Tiles rules (o + byteLength w) s ts) :
    Tiles rules o (w ++ s) (⟨String.ofList w, o⟩ :: ts)

theorem tiles_tokensFrom (rules : LexicalRules) (o : Nat) (s : List Char) :
    Tiles rules o s (tokensFrom rules o s) := by
  fun_induction tokensFrom rules o s with
  | case1 o => exact .nil o
  | case2 o c t hb ih => exact .blank hb ih
  | case3 o c t hb hp ih => exact .mark hp ih
  | case4 o c t hb hp w ih =>
    have hword : Tiles rules o (w.1 ++ w.2) (⟨String.ofList w.1, o⟩ :: _) :=
      .word (isWord_word (by simpa using hb) (by simpa using hp))
        (word_rest_of_hasOpenRun (c :: t)) (fun d => endsWord_of_word (c :: t)) ih
    rwa [word_append] at hword

/-- There is one tiling of a text, that of its tokens. -/
theorem tiles_iff {o : Nat} {s : List Char} {ts : List Token} :
    Tiles rules o s ts ↔ tokensFrom rules o s = ts := by
  constructor
  · intro h
    induction h with
    | nil o => rw [tokensFrom]
    | blank hc h ih => rw [tokensFrom, dif_pos hc, ih]
    | mark hc h ih =>
      have hb := isBlank_eq_false_of_isPunctuation hc
      rw [tokensFrom, dif_neg (by simp [hb]), dif_pos hc, ih]
    | @word o w s ts hw hopen hend h ih =>
      obtain ⟨c, t, rfl, hc⟩ := hw.exists_cons
      have hread : word rules (c :: (t ++ s)) = (c :: t, s) :=
        word_eq_of_outside hw.outside hopen hend
      rw [List.cons_append, tokensFrom, dif_neg fun hb => hc (Or.inl hb),
        dif_neg fun hp => hc (Or.inr hp), hread]
      exact congrArg _ ih
  · rintro rfl
    exact tiles_tokensFrom rules o s

/-- A character of two texts together stands behind the first of them or in it. -/
theorem append_eq_append_cons {w s a b : List Char} {c : Char} (h : w ++ s = a ++ c :: b) :
    (∃ a', a = w ++ a' ∧ s = a' ++ c :: b) ∨ ∃ b', w = a ++ c :: b' := by
  rcases List.append_eq_append_iff.1 h with ⟨a', ha, hs⟩ | ⟨b', hw, hb⟩
  · exact Or.inl ⟨a', ha, hs⟩
  · cases b' with
    | nil => exact Or.inl ⟨[], by simpa using hw.symm, by simpa using hb.symm⟩
    | cons d b' =>
      obtain ⟨rfl, -⟩ := List.cons.inj hb
      exact Or.inr ⟨b', hw⟩

namespace Tiles

variable {o : Nat} {s : List Char} {t u : Token} {ts : List Token}

theorem standsIn (h : Tiles rules o s ts) (ht : t ∈ ts) : t.text ≠ "" ∧ t.StandsIn o s := by
  induction h with
  | nil o => cases ht
  | @blank o c s ts hc h ih => exact ⟨(ih ht).1, @Token.StandsIn.after _ o [c] s (ih ht).2⟩
  | @mark o c s ts hc h ih =>
    rcases List.mem_cons.1 ht with rfl | ht
    · exact ⟨by simp, Token.standsIn_front o [c] s⟩
    · exact ⟨(ih ht).1, @Token.StandsIn.after _ o [c] s (ih ht).2⟩
  | @word o w s ts hw hopen hend h ih =>
    rcases List.mem_cons.1 ht with rfl | ht
    · exact ⟨by simpa using hw.ne_nil, Token.standsIn_front o w s⟩
    · exact ⟨(ih ht).1, (ih ht).2.after⟩

theorem le_offset (h : Tiles rules o s ts) (ht : t ∈ ts) : o ≤ t.offset := by
  obtain ⟨a, b, -, ho⟩ := (h.standsIn ht).2
  omega

theorem pairwise (h : Tiles rules o s ts) : ts.Pairwise fun t u => t.stop ≤ u.offset := by
  induction h with
  | nil o => exact .nil
  | blank hc h ih => exact ih
  | @mark o c s ts hc h ih =>
    refine .cons (fun u hu => ?_) ih
    have hle := h.le_offset hu
    simpa [Token.stop, byteLength] using hle
  | @word o w s ts hw hopen hend h ih =>
    refine .cons (fun u hu => ?_) ih
    have hle := h.le_offset hu
    simpa [Token.stop] using hle

/-- A character that stands in no token is blank. -/
theorem isBlank_or_exists (h : Tiles rules o s ts) {a b : List Char} {c : Char}
    (hs : s = a ++ c :: b) :
    isBlank c = true ∨
      ∃ t ∈ ts, t.offset ≤ o + byteLength a ∧ o + byteLength a + c.utf8Size ≤ t.stop := by
  induction h generalizing a with
  | nil o => simp at hs
  | @blank o d s ts hd h ih =>
    cases a with
    | nil =>
      obtain ⟨rfl, -⟩ := List.cons.inj hs
      exact Or.inl hd
    | cons e a =>
      obtain ⟨rfl, hbehind⟩ := List.cons.inj hs
      simpa only [byteLength, Nat.add_assoc] using ih hbehind
  | @mark o d s ts hd h ih =>
    cases a with
    | nil =>
      obtain ⟨rfl, -⟩ := List.cons.inj hs
      exact Or.inr ⟨_, List.mem_cons_self, by simp [byteLength], by simp [Token.stop, byteLength]⟩
    | cons e a =>
      obtain ⟨rfl, hbehind⟩ := List.cons.inj hs
      refine (ih hbehind).imp_right ?_
      rintro ⟨t, ht, hle⟩
      exact ⟨t, List.mem_cons_of_mem _ ht, by simpa only [byteLength, Nat.add_assoc] using hle⟩
  | @word o w s ts hw hopen hend h ih =>
    rcases append_eq_append_cons hs with ⟨a', rfl, hbehind⟩ | ⟨b', rfl⟩
    · refine (ih hbehind).imp_right ?_
      rintro ⟨t, ht, hle⟩
      rw [byteLength_append, ← Nat.add_assoc]
      exact ⟨t, List.mem_cons_of_mem _ ht, hle⟩
    · refine Or.inr ⟨_, List.mem_cons_self, Nat.le_add_right _ _, ?_⟩
      simp only [Token.stop, String.toList_ofList, byteLength_append, byteLength]
      omega

theorem isMark_or_isWord (h : Tiles rules o s ts) (ht : t ∈ ts) :
    t.IsMark ∨ IsWord rules t.text.toList := by
  induction h with
  | nil o => cases ht
  | blank hc h ih => exact ih ht
  | mark hc h ih =>
    rcases List.mem_cons.1 ht with rfl | ht
    · exact Or.inl ⟨_, hc, String.toList_ofList⟩
    · exact ih ht
  | word hw hopen hend h ih =>
    rcases List.mem_cons.1 ht with rfl | ht
    · exact Or.inr (String.toList_ofList.symm ▸ hw)
    · exact ih ht

/-- Where a word cannot go on, a token is punctuation. -/
theorem isMark_of_offset (h : Tiles rules o s (u :: ts)) (hs : ∀ c, s.head? = some c → EndsWord c)
    (hu : u.offset = o) : u.IsMark := by
  cases h with
  | @blank o c s ts hc h =>
    have hle := h.le_offset List.mem_cons_self
    have hpos := c.utf8Size_pos
    omega
  | mark hc h => exact ⟨_, hc, String.toList_ofList⟩
  | @word o w s ts hw hopen hend h =>
    obtain ⟨c, w, rfl, hc⟩ := hw.exists_cons
    exact absurd (hs c rfl) hc

/-- Of two tokens that touch, one is punctuation. -/
theorem isMark_of_touching (h : Tiles rules o s ts) (htu : [t, u] <:+: ts)
    (htouch : t.stop = u.offset) : t.IsMark ∨ u.IsMark := by
  induction h with
  | nil o => simp at htu
  | blank hc h ih => exact ih htu
  | @mark o c s ts hc h ih =>
    rcases List.infix_cons_iff.1 htu with hfront | htu
    · obtain ⟨rfl, -⟩ := List.cons_prefix_cons.1 hfront
      exact Or.inl ⟨_, hc, String.toList_ofList⟩
    · exact ih htu
  | @word o w s ts hw hopen hend h ih =>
    rcases List.infix_cons_iff.1 htu with hfront | htu
    · obtain ⟨rfl, us, rfl⟩ := List.cons_prefix_cons.1 hfront
      refine Or.inr (h.isMark_of_offset hend ?_)
      simpa [Token.stop] using htouch.symm
    · exact ih htu

/-- Nothing follows an open quoted run. -/
theorem getLast?_of_hasOpenRun (h : Tiles rules o s ts) (ht : t ∈ ts)
    (hopen : HasOpenRun rules t.text.toList) : ts.getLast? = some t := by
  induction h with
  | nil o => cases ht
  | blank hc h ih => exact ih ht
  | @mark o c s ts hc h ih =>
    rcases List.mem_cons.1 ht with rfl | ht
    · obtain ⟨run, hrun⟩ := hopen
      rw [String.toList_ofList, quoteScan_plain (isQuote_eq_false_of_isPunctuation hc),
        quoteScan_nil] at hrun
      simp at hrun
    · rw [List.getLast?_cons, ih ht]
      rfl
  | @word o w s ts hw hnil hend h ih =>
    rcases List.mem_cons.1 ht with rfl | ht
    · rw [String.toList_ofList] at hopen
      obtain rfl := hnil hopen
      obtain rfl : [] = ts := by
        rw [← tiles_iff.1 h, tokensFrom]
      rfl
    · rw [List.getLast?_cons, ih ht]
      rfl

end Tiles

/-- The tokens tile the text. -/
structure IsTiling (rules : LexicalRules) (s : List Char) (ts : List Token) : Prop where
  /-- A token is not empty, and its characters fill its bytes of the text. -/
  slice : ∀ t ∈ ts, t.text ≠ "" ∧
    byteSlice? t.offset (byteLength t.text.toList) s = some t.text.toList
  /-- Offsets ascend, and no token begins before an earlier one ends. -/
  ascending : ts.Pairwise fun t u => t.offset < u.offset ∧ t.stop ≤ u.offset
  /-- A character of the text that stands in no token is blank. -/
  between : ∀ a c b, s = a ++ c :: b → isBlank c = true ∨
    ∃ t ∈ ts, t.offset ≤ byteLength a ∧ byteLength (a ++ [c]) ≤ t.stop
  /-- A token is one character of punctuation or a word. -/
  shape : ∀ t ∈ ts, t.IsMark ∨ IsWord rules t.text.toList
  /-- Words are maximal: of two tokens with nothing between them one is punctuation. -/
  maximal : ∀ t u, [t, u] <:+: ts → t.stop = u.offset → t.IsMark ∨ u.IsMark
  /-- A token with an open quoted run is the last. -/
  last : ∀ t ∈ ts, HasOpenRun rules t.text.toList → ts.getLast? = some t

/-- **Tokens tile the text**, whether it is stripped or not. -/
theorem tokens_isTiling (rules : LexicalRules) (text : String) :
    IsTiling rules text.toList (rules.tokens text) := by
  have h : Tiles rules 0 text.toList (rules.tokens text) := tiles_tokensFrom rules 0 text.toList
  refine ⟨fun t ht => ?_, ?_, fun a c b hs => ?_, fun t => h.isMark_or_isWord,
    fun t u => h.isMark_of_touching, fun t => h.getLast?_of_hasOpenRun⟩
  · obtain ⟨hne, a, b, hs, ho⟩ := h.standsIn ht
    rw [Nat.zero_add] at ho
    exact ⟨hne, by rw [hs, ho, byteSlice?_append]⟩
  · refine h.pairwise.imp_of_mem fun {t u} ht _ hle => ⟨?_, hle⟩
    exact (Token.offset_lt_stop (h.standsIn ht).1).trans_le hle
  · rw [byteLength_append, byteLength, byteLength]
    simpa using h.isBlank_or_exists hs

end SqlTriage.Lexical

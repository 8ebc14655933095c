import SqlTriage.Proofs.Lexical.TokenStream

/-!
# Words among segments

A word is a maximal run of segments that belong to words (`WordBetween`).  It makes one token
between those of the segments on its two sides (`tokensOf_wordBetween`), and every token that can
name something comes from such a word (`hasWord_of_tokensOf`).
-/

namespace SqlTriage.Lexical

open SqlTriage.Text

/-- The segments `run` are a word, and nothing of a word is next to them on either side. -/
structure WordBetween (pre run post : List Segment) : Prop where
  ne_nil : run ≠ []
  inWord : ∀ g ∈ run, g.inWord = true
  before : pre.getLast?.any Segment.inWord = false
  behind : post.head?.any Segment.inWord = false

variable {pre run post : List Segment}

theorem tokensOf_run (hne : run ≠ []) (hrun : ∀ g ∈ run, g.inWord = true) (o : Nat) :
    tokensOf o run = [⟨String.ofList (textOf run), o⟩] := by
  cases run with
  | nil => exact absurd rfl hne
  | cons g run =>
    have hrest : ∀ g' ∈ run, g'.inWord = true := fun g' hm => hrun g' (List.mem_cons_of_mem g hm)
    have htake : run.takeWhile Segment.inWord = run := List.takeWhile_eq_self_iff.2 hrest
    have hdrop : run.dropWhile Segment.inWord = [] := List.dropWhile_eq_nil_iff.2 hrest
    rw [tokensOf_word (hrun g List.mem_cons_self), htake, hdrop, tokensOf_nil, textOf_cons]

namespace WordBetween

theorem not_fuses_left (h : WordBetween pre run post) : ¬ Fuses pre (run ++ post) := by
  intro hf
  rw [Fuses, h.before] at hf
  exact Bool.false_ne_true hf.1

theorem not_fuses_right (h : WordBetween pre run post) : ¬ Fuses run post := by
  intro hf
  rw [Fuses, h.behind] at hf
  exact Bool.false_ne_true hf.2

/-- A word stays one behind more segments, if no word runs across the seam. -/
theorem append_left (h : WordBetween pre run post) {front : List Segment}
    (hf : ¬ Fuses front (pre ++ (run ++ post))) : WordBetween (front ++ pre) run post := by
  refine ⟨h.ne_nil, h.inWord, ?_, h.behind⟩
  cases pre with
  | cons g pre =>
    have hlast := h.before
    rwa [List.getLast?_append_of_ne_nil front (List.cons_ne_nil g pre)]
  | nil =>
    obtain ⟨g, run', rfl⟩ := List.exists_cons_of_ne_nil h.ne_nil
    rw [List.append_nil, ← Bool.not_eq_true]
    exact fun hlast => hf ⟨hlast, h.inWord g List.mem_cons_self⟩

end WordBetween

/-- A word with nothing of a word next to it is one token between the tokens of the two sides. -/
theorem tokensOf_wordBetween (h : WordBetween pre run post) (o : Nat) :
    tokensOf o (pre ++ (run ++ post)) =
      tokensOf o pre ++ ⟨String.ofList (textOf run), o + byteLength (textOf pre)⟩ ::
        tokensOf (o + byteLength (textOf pre) + byteLength (textOf run)) post := by
  rw [tokensOf_append h.not_fuses_left, tokensOf_append h.not_fuses_right,
    tokensOf_run h.ne_nil h.inWord]
  rfl

theorem isIdentifier_eq_false_of_isMark {g : Segment} (hg : g.isMark = true) (o : Nat) :
    Token.isIdentifier ⟨String.ofList g.text, o⟩ = false := by
  cases g with
  | comment t closed => cases hg
  | quoted t closed => cases hg
  | plain c =>
    rw [Segment.isMark, Bool.and_eq_true] at hg
    simp [Token.isIdentifier, Segment.text, hg.2]

/-- The token `t` is a word of the segments, the first of which has the given offset, and the
segments before the word have the tokens `ts`. -/
def HasWord (o : Nat) (gs : List Segment) (ts : List Token) (t : Token) : Prop :=
  ∃ pre run post, gs = pre ++ (run ++ post) ∧ WordBetween pre run post ∧ tokensOf o pre = ts ∧
    t = ⟨String.ofList (textOf run), o + byteLength (textOf pre)⟩

theorem HasWord.append_left {o : Nat} {front gs : List Segment} {ts : List Token} {t : Token}
    (h : HasWord (o + byteLength (textOf front)) gs ts t) (hf : ¬ Fuses front gs) :
    HasWord o (front ++ gs) (tokensOf o front ++ ts) t := by
  obtain ⟨pre, run, post, rfl, hword, rfl, rfl⟩ := h
  have hpre : ¬ Fuses front pre := by
    intro hp
    refine hf ⟨hp.1, ?_⟩
    cases pre with
    | nil => exact absurd hp.2 Bool.false_ne_true
    | cons g pre => exact hp.2
  refine ⟨front ++ pre, run, post, (List.append_assoc _ _ _).symm, hword.append_left hf,
    tokensOf_append hpre o, ?_⟩
  rw [textOf_append, byteLength_append, Nat.add_assoc]

/-- Every token that can name something is a word. -/
theorem hasWord_of_tokensOf {o : Nat} {gs : List Segment} {ts us : List Token} {t : Token}
    (h : tokensOf o gs = ts ++ t :: us) (ht : t.isIdentifier = true) : HasWord o gs ts t := by
  fun_induction tokensOf o gs generalizing ts with
  | case1 => simp at h
  | case2 o g gs hg w =>
    rename_i ih
    have hrun : ∀ g' ∈ g :: gs.takeWhile Segment.inWord, g'.inWord = true :=
      List.forall_mem_cons.2 ⟨hg, fun g' => List.mem_takeWhile_imp⟩
    have hsplit : g :: gs = (g :: gs.takeWhile Segment.inWord) ++ gs.dropWhile Segment.inWord := by
      rw [List.cons_append, List.takeWhile_append_dropWhile]
    have hbehind := any_head?_dropWhile Segment.inWord gs
    -- the token is this word, or one that stands behind it
    cases ts with
    | nil =>
      obtain ⟨rfl, -⟩ := List.cons.inj h
      exact ⟨[], _, _, hsplit, ⟨List.cons_ne_nil _ _, hrun, rfl, hbehind⟩, tokensOf_nil o, rfl⟩
    | cons u ts =>
      obtain ⟨rfl, hrest⟩ := List.cons.inj h
      have hseam : ¬ Fuses (g :: gs.takeWhile Segment.inWord) (gs.dropWhile Segment.inWord) :=
        fun hf => Bool.false_ne_true (hbehind.symm.trans hf.2)
      have hword := (ih hrest).append_left hseam
      rwa [← hsplit, tokensOf_run (List.cons_ne_nil _ _) hrun] at hword
  | case3 o g gs hg hm ih =>
    have hg : g.inWord = false := by simpa using hg
    have hseam : ¬ Fuses [g] gs := fun hf => Bool.false_ne_true (hg.symm.trans hf.1)
    cases ts with
    | nil =>
      -- punctuation names nothing
      obtain ⟨rfl, -⟩ := List.cons.inj h
      rw [isIdentifier_eq_false_of_isMark hm] at ht
      cases ht
    | cons u ts =>
      obtain ⟨rfl, hrest⟩ := List.cons.inj h
      have hword : HasWord o ([g] ++ gs) (tokensOf o [g] ++ ts) t :=
        HasWord.append_left (by rw [textOf_cons, textOf_nil, List.append_nil]; exact ih hrest) hseam
      rwa [tokensOf_mark hg hm, tokensOf_nil] at hword
  | case4 o g gs hg hm ih =>
    have hg : g.inWord = false := by simpa using hg
    have hseam : ¬ Fuses [g] gs := fun hf => Bool.false_ne_true (hg.symm.trans hf.1)
    have hword : HasWord o ([g] ++ gs) (tokensOf o [g] ++ ts) t :=
      HasWord.append_left (by rw [textOf_cons, textOf_nil, List.append_nil]; exact ih h) hseam
    rwa [tokensOf_skip hg (by simpa using hm), tokensOf_nil] at hword

end SqlTriage.Lexical

import Mathlib.Data.List.DropRight
import Mathlib.Data.List.Forall2
import SqlTriage.Proofs.Lexical.Word

/-!
# Replacing a quoted run

A quoted run is one segment, whatever stands between its quotes, and it lies in one token.  Where
its body is replaced, the text before it and the text behind it are scanned, stripped and cut into
tokens as before (`strip_inQuotes`, `scan_inQuotes`), so that the tokens of the two texts
correspond (`forall₂_replaced`): those before the run are the same, the one around it has the body
replaced, and those behind it are shifted by the change of length.
-/

namespace SqlTriage.Lexical

open SqlTriage.Text

variable {rules : LexicalRules} {q : Char} {body : List Char}

/-- The text with a quote at each end. -/
def inQuotes (q : Char) (body : List Char) : List Char :=
  q :: (body ++ [q])

/-- Neither the quote, which could close a run, nor a backslash, which could escape. -/
def IsBody (q : Char) (body : List Char) : Prop :=
  q ∉ body ∧ '\\' ∉ body

/-! ## The run -/

theorem quotedTail_body {escapes : Bool} (hbody : IsBody q body) {v : List Char}
    (hv : v.head? ≠ some q) :
    quotedTail escapes q (body ++ q :: v) = ⟨body ++ [q], true, v⟩ := by
  induction body with
  | nil => exact quotedTail_closing hv
  | cons c body ih =>
    obtain ⟨hq, he⟩ := hbody
    rw [List.mem_cons, not_or] at hq he
    have hc : (escapes && c == '\\') = false := by simp [Ne.symm he.1]
    rw [List.cons_append, quotedTail_cons (Ne.symm hq.1) hc, ih ⟨hq.2, he.2⟩]
    rfl

theorem quotedRun?_inQuotes (hq : isQuote q = true) (hbody : IsBody q body) {v : List Char}
    (hv : v.head? ≠ some q) :
    quotedRun? rules (inQuotes q body ++ v) = some ⟨inQuotes q body, true, v⟩ := by
  have htext : inQuotes q body ++ v = q :: (body ++ q :: v) := by simp [inQuotes]
  rw [htext, quotedRun?, if_pos hq, quotedTail_body hbody hv]
  rfl

theorem scan_inQuotes (hq : isQuote q = true) (hbody : IsBody q body) {v : List Char}
    (hv : v.head? ≠ some q) :
    scan rules (inQuotes q body ++ v) = .quoted (inQuotes q body) true :: scan rules v :=
  scan_quoted (quotedRun?_inQuotes hq hbody hv)

/-! ## The text before the run -/

/-- A comment before a quote is a block comment, which stands also where nothing follows it. -/
theorem comment?_text_of_quote (hq : isQuote q = true) {s t : List Char} {l : Lexeme}
    (h : comment? rules s = some l) (hl : l.rest = q :: t) :
    comment? rules l.text = some { l with rest := [] } := by
  rcases comment?_eq_some_cases h with ⟨u, rfl, rfl⟩ | ⟨opener, ho, u, rfl, rfl⟩
  · have hclosed : (blockTail u).closed = true := by
      by_contra hopen
      rw [Lexeme.rest_after, blockTail_rest_of_open (by simpa using hopen)] at hl
      cases hl
    have hcut := blockTail_replace hclosed []
    rw [List.append_nil] at hcut
    rw [Lexeme.text_after, List.cons_append, List.cons_append, List.nil_append, comment?_block,
      hcut]
    rfl
  · exfalso
    have hend : isLineEnd q = true := by
      apply isLineEnd_of_lineTail_rest (s := u)
      rw [Lexeme.rest_after] at hl
      rw [hl]
      rfl
    rw [isQuote_eq_false_of_isBlank (isBlank_of_isLineEnd hend)] at hq
    cases hq

/-- A segment before a quote stands also where nothing follows it. -/
theorem scan_text_of_quote (hq : isQuote q = true) {g : Segment} {gs : List Segment}
    {t : List Char} (h : scan rules (g.text ++ q :: t) = g :: gs) :
    scan rules g.text = [g] := by
  rcases scan_eq_cons_cases h with ⟨l, hc, rfl, -⟩ | ⟨l, -, rfl, -⟩ | ⟨c, u, -, -, -, rfl, -⟩
  · have hl : l.rest = q :: t := List.append_cancel_left (comment?_append hc)
    have hcut : comment? rules l.text = some { l with rest := [] } :=
      comment?_text_of_quote hq hc hl
    show scan rules l.text = _
    rw [scan_comment hcut, scan_nil]
  · exact scan_text_of_mem (h ▸ List.mem_cons_self) rfl
  · exact scan_text_of_mem (h ▸ List.mem_cons_self) rfl

/-- What stands before a quoted run is scanned as if it stood alone. -/
theorem scan_of_quote (hq : isQuote q = true) {gs : List Segment} {t : List Char}
    (h : scan rules (textOf gs ++ q :: t) = gs ++ scan rules (q :: t)) :
    scan rules (textOf gs) = gs := by
  refine scan_textOf_of_last h fun ks g hk => ?_
  subst hk
  have hsplit : scan rules (textOf (ks ++ [g]) ++ q :: t) = ks ++ g :: scan rules (q :: t) := by
    rw [h, List.append_assoc, List.singleton_append]
  have hlast := scan_textOf_of_append hsplit
  rw [textOf_cons, textOf_scan] at hlast
  exact scan_text_of_quote hq hlast

theorem spaceComments_of_quote (hq : isQuote q = true) {gs : List Segment} {t : List Char}
    (h : scan rules (textOf gs ++ q :: t) = gs ++ scan rules (q :: t)) :
    spaceComments rules (textOf gs) = textOf (gs.map Segment.blanked) := by
  rw [spaceComments_eq, scan_of_quote hq h]

/-! ## Stripping around the run -/

theorem trim_inQuotes {p : Char → Bool} (hq : p q = false) (body s t : List Char) :
    trim p (s ++ (inQuotes q body ++ t)) =
      s.dropWhile p ++ (inQuotes q body ++ t.rdropWhile p) := by
  have hfront := dropWhile_append_of_neg hq s (body ++ q :: t)
  have hback := rdropWhile_append_of_neg hq (s.dropWhile p ++ q :: body) t
  simp only [trim_eq, inQuotes, List.cons_append, List.append_assoc, List.nil_append]
    at hfront hback ⊢
  rw [hfront, hback]

/-- What stripping leaves of a text around a quoted run at top level. -/
theorem strip_inQuotes (hq : isQuote q = true) {a b t : List Char}
    (h : TopLevel rules a (q :: t)) (hbody : IsBody q body) (hb : b.head? ≠ some q) :
    strip rules (a ++ (inQuotes q body ++ b)) =
      (spaceComments rules a).dropWhile isBlank ++
        (inQuotes q body ++ (spaceComments rules b).rdropWhile isBlank) := by
  obtain ⟨gs, rfl, hgs⟩ := topLevel_iff.1 h
  have hblank : isBlank q = false := isBlank_eq_false_of_isQuote hq
  have hfront := spaceComments_of_quote hq hgs
  have hrun : spaceComments rules (inQuotes q body ++ b) =
      inQuotes q body ++ spaceComments rules b :=
    spaceComments_quoted (quotedRun?_inQuotes hq hbody hb)
  rw [strip, spaceComments_replace hgs (v := inQuotes q body ++ b) rfl, hrun, hfront]
  exact trim_inQuotes hblank body _ _

/-- The blanks in front of what stands before a place at top level can be left out. -/
theorem topLevel_of_blanks {blanks a b : List Char} (hb : ∀ c ∈ blanks, isBlank c = true)
    (h : TopLevel rules (blanks ++ a) b) : TopLevel rules a b := by
  induction blanks with
  | nil => exact h
  | cons c blanks ih =>
    apply ih fun d hd => hb d (List.mem_cons_of_mem c hd)
    obtain ⟨gs, hs, hscan, htext⟩ := h
    have hc : isBlank c = true := hb c List.mem_cons_self
    rw [List.cons_append, List.cons_append, scan_plain_of_isBlank hc] at hscan
    cases gs with
    | nil => simp at htext
    | cons g gs =>
      obtain ⟨rfl, hrest⟩ := List.cons.inj hscan
      exact ⟨gs, hs, hrest, (List.cons.inj htext).2⟩

/-- In the stripped texts too, the same segments stand before the run, and the same behind it. -/
theorem exists_scan_stripped (hq : isQuote q = true) {a b t : List Char}
    (h : TopLevel rules a (q :: t)) (hb : b.head? ≠ some q) :
    ∃ fs, textOf fs = (spaceComments rules a).dropWhile isBlank ∧ ∀ body, IsBody q body →
      scan rules ((spaceComments rules a).dropWhile isBlank ++
        (inQuotes q body ++ (spaceComments rules b).rdropWhile isBlank)) =
      fs ++ .quoted (inQuotes q body) true ::
        scan rules ((spaceComments rules b).rdropWhile isBlank) := by
  obtain ⟨gs, rfl, hgs⟩ := topLevel_iff.1 h
  have hfront := spaceComments_of_quote hq hgs
  have hspaced :
      TopLevel rules (spaceComments rules (textOf gs)) (spaceComments rules (q :: t)) := by
    rw [hfront]
    exact ⟨_, _, scan_blanked hgs, rfl⟩
  generalize spaceComments rules (textOf gs) = front at hspaced ⊢
  have htop : TopLevel rules (front.dropWhile isBlank) (spaceComments rules (q :: t)) := by
    have hsplit : front.takeWhile isBlank ++ front.dropWhile isBlank = front :=
      List.takeWhile_append_dropWhile
    rw [← hsplit] at hspaced
    exact topLevel_of_blanks (fun c => List.mem_takeWhile_imp) hspaced
  obtain ⟨fs, hfs, hscan⟩ := topLevel_iff.1 htop
  rw [← hfs] at hscan ⊢
  refine ⟨fs, rfl, fun body hbody => ?_⟩
  have hhead : (spaceComments rules (q :: t)).head? = some q := by
    rcases head?_spaceComments rules (q :: t) with hh | ⟨-, hc⟩
    · exact hh
    · rw [comment?_eq_none_of_isQuote hq] at hc
      cases hc
  have hback : ((spaceComments rules b).rdropWhile isBlank).head? ≠ some q := by
    have hne : (spaceComments rules b).head? ≠ some q := by
      apply head?_spaceComments_ne hb
      rintro rfl
      revert hq
      decide
    obtain ⟨u, -, hu⟩ := exists_rdropWhile isBlank (spaceComments rules b)
    intro he
    apply hne
    rw [hu, List.head?_append, he]
    rfl
  rw [scan_replace hscan (by rw [hhead]; rfl), scan_inQuotes hq hbody hback]

/-! ## Tokens around the run -/

/-- A token of a text and the token in its place where `new` stands for `old` behind `front`:
before the run the same, around it with the run replaced, and behind it shifted. -/
inductive Token.Replaced (front old new : List Char) : Token → Token → Prop
  | before (t : Token) (h : t.offset + byteLength t.text.toList ≤ byteLength front) :
    Replaced front old new t t
  | around (l r : List Char) (o : Nat) (h : o + byteLength l = byteLength front) :
    Replaced front old new ⟨String.ofList (l ++ (old ++ r)), o⟩
      ⟨String.ofList (l ++ (new ++ r)), o⟩
  | behind (text : String) (n : Nat) :
    Replaced front old new ⟨text, byteLength (front ++ old) + n⟩
      ⟨text, byteLength (front ++ new) + n⟩

theorem forall₂_before (front old new : List Char) {gs : List Segment}
    (hle : byteLength (textOf gs) ≤ byteLength front) :
    List.Forall₂ (Token.Replaced front old new) (tokensOf 0 gs) (tokensOf 0 gs) := by
  refine List.forall₂_same.2 fun t ht => .before t ?_
  obtain ⟨a, b, hab, ho⟩ := standsIn_of_mem_tokensOf ht
  have hlen := congrArg byteLength hab
  rw [byteLength_append, byteLength_append] at hlen
  omega

theorem forall₂_behind (front old new : List Char) (n : Nat) (gs : List Segment) :
    List.Forall₂ (Token.Replaced front old new) (tokensOf (byteLength (front ++ old) + n) gs)
      (tokensOf (byteLength (front ++ new) + n) gs) := by
  rw [Nat.add_comm _ n, Nat.add_comm _ n, tokensOf_add, tokensOf_add, List.forall₂_map_left_iff,
    List.forall₂_map_right_iff]
  refine List.forall₂_same.2 fun t _ => ?_
  unfold Token.shift
  rw [Nat.add_comm t.offset, Nat.add_comm t.offset]
  exact .behind t.text t.offset

/-- The segments of a word on both sides of a place, which nothing of a word is next to. -/
theorem exists_word_around (gs es : List Segment) :
    ∃ pre l r post, gs = pre ++ l ∧ es = r ++ post ∧ (∀ g ∈ l, g.inWord = true) ∧
      (∀ g ∈ r, g.inWord = true) ∧ pre.getLast?.any Segment.inWord = false ∧
      post.head?.any Segment.inWord = false := by
  refine ⟨gs.rdropWhile Segment.inWord, gs.rtakeWhile Segment.inWord, es.takeWhile Segment.inWord,
    es.dropWhile Segment.inWord, List.rdropWhile_append_rtakeWhile.symm,
    List.takeWhile_append_dropWhile.symm, fun g => List.mem_rtakeWhile_imp,
    fun g => List.mem_takeWhile_imp, ?_, ?_⟩
  · by_cases hne : gs.rdropWhile Segment.inWord = []
    · rw [hne]
      rfl
    · have hnot := List.rdropWhile_last_not Segment.inWord gs hne
      rw [List.getLast?_eq_some_getLast hne]
      simpa using hnot
  · exact any_head?_dropWhile Segment.inWord es

/-- Where a quoted run replaces another, the tokens correspond. -/
theorem forall₂_replaced (gs es : List Segment) (old new : List Char) (closed : Bool) :
    List.Forall₂ (Token.Replaced (textOf gs) old new) (tokensOf 0 (gs ++ .quoted old closed :: es))
      (tokensOf 0 (gs ++ .quoted new closed :: es)) := by
  obtain ⟨pre, l, r, post, rfl, rfl, hl, hr, hpre, hpost⟩ := exists_word_around gs es
  have hsplit : ∀ run, (pre ++ l) ++ .quoted run closed :: (r ++ post) =
      pre ++ ((l ++ .quoted run closed :: r) ++ post) := by simp
  -- the run and what adjoins it are one token, whatever the run is
  have hword : ∀ run, ∀ g ∈ l ++ .quoted run closed :: r, g.inWord = true := by
    intro run g hg
    rcases List.mem_append.1 hg with hg | hg
    · exact hl g hg
    · rcases List.mem_cons.1 hg with rfl | hg
      · rfl
      · exact hr g hg
  have hbetween (run : List Char) : WordBetween pre (l ++ .quoted run closed :: r) post :=
    ⟨by simp, hword run, hpre, hpost⟩
  rw [hsplit, hsplit, tokensOf_wordBetween (hbetween old), tokensOf_wordBetween (hbetween new)]
  have hlen : byteLength (textOf (pre ++ l)) = byteLength (textOf pre) + byteLength (textOf l) := by
    rw [textOf_append, byteLength_append]
  have htext : ∀ run, textOf (l ++ .quoted run closed :: r) = textOf l ++ (run ++ textOf r) := by
    intro run
    rw [textOf_append, textOf_cons]
    rfl
  -- where the tokens behind the word begin
  have hbehind : ∀ run, 0 + byteLength (textOf pre) + byteLength (textOf l ++ (run ++ textOf r)) =
      byteLength (textOf (pre ++ l) ++ run) + byteLength (textOf r) := by
    intro run
    simp only [byteLength_append, hlen]
    omega
  rw [htext, htext, hbehind, hbehind]
  refine List.rel_append (forall₂_before _ _ _ (by omega)) (.cons ?_ (forall₂_behind _ _ _ _ _))
  exact .around _ _ _ (by omega)

end SqlTriage.Lexical

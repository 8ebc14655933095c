import SqlTriage.Proofs.Lexical.Seam
import SqlTriage.Proofs.Lexical.Word

/-!
# A name in the place of another

Where a text that is a single name (`IsName`) takes the place of a word, it does not fuse with its
neighbours: it is scanned by itself, and what stands before it and behind it is scanned as before
(`scan_splice`).  The new text is still stripped, and its tokens are those before the word, the
name and those behind it (`exists_tokensFrom_splice`).
-/

namespace SqlTriage.Lexical

open SqlTriage.Text

variable {rules : LexicalRules}

/-- The text is a stripped text that is one token, begins with no punctuation and leaves no quoted
run open. -/
structure IsName (rules : LexicalRules) (name : String) : Prop where
  stripped : rules.stripped name = name
  tokens : (rules.tokens name).map Token.text = [name]
  head : name.toList.head?.any isPunctuation = false
  closed : ∀ t, .quoted t false ∉ scan rules name.toList

/-! ## Ends of a text -/

/-- What stands at the ends of a text around a word does not change with the word. -/
theorem any_ends_replace {p : Char → Bool} {a w v b : List Char} (hv : v ≠ [])
    (h : (a ++ (w ++ b)).head?.any p = false ∧ (a ++ (w ++ b)).getLast?.any p = false)
    (hends : v.head?.any p = false ∧ v.getLast?.any p = false) :
    (a ++ (v ++ b)).head?.any p = false ∧ (a ++ (v ++ b)).getLast?.any p = false := by
  constructor
  · cases a with
    | nil =>
      obtain ⟨c, v, rfl⟩ := List.exists_cons_of_ne_nil hv
      exact hends.1
    | cons c a => exact h.1
  · cases b with
    | nil => rw [List.append_nil, List.getLast?_append_of_ne_nil a hv]; exact hends.2
    | cons c b =>
      have hlast := h.2
      rw [← List.append_assoc, List.getLast?_append_of_ne_nil _ (List.cons_ne_nil c b)] at hlast ⊢
      exact hlast

/-! ## Names -/

namespace IsName

variable {name : String}

theorem strip (h : IsName rules name) : strip rules name.toList = name.toList := by
  rw [← toList_stripped, h.stripped]

theorem isUncommented (h : IsName rules name) : IsUncommented rules name.toList :=
  (strip_eq_self_iff.1 h.strip).1

/-- A name is scanned into parts of a word. -/
theorem scan (h : IsName rules name) :
    scan rules name.toList ≠ [] ∧ ∀ g ∈ scan rules name.toList, g.inWord = true := by
  obtain ⟨t, ht, hname⟩ := List.map_eq_singleton_iff.1 h.tokens
  have hident : t.isIdentifier = true := by
    rw [Token.isIdentifier, hname, h.head]
    rfl
  have htokens : tokensOf 0 (Lexical.scan rules name.toList) = [] ++ t :: [] := by
    rw [← tokensFrom_eq h.isUncommented]
    exact ht
  obtain ⟨pre, run, post, hscan, hword, -, rfl⟩ := hasWord_of_tokensOf htokens hident
  -- the word is all of the name, so that there is nothing before it and behind it
  have hlen := congrArg List.length (textOf_scan rules name.toList)
  rw [hscan, textOf_append, textOf_append, ← hname, String.toList_ofList, List.length_append,
    List.length_append] at hlen
  have hnil (gs : List Segment) (hgs : ∀ g ∈ gs, g ∈ Lexical.scan rules name.toList)
      (h0 : (textOf gs).length = 0) : gs = [] := by
    cases gs with
    | nil => rfl
    | cons g gs =>
      rw [textOf_cons, List.length_append] at h0
      have hg := text_ne_nil_of_mem_scan (hgs g List.mem_cons_self)
      exact absurd (List.length_eq_zero_iff.1 (by omega)) hg
  obtain rfl : pre = [] := by
    apply hnil pre _ (by omega)
    intro g hg
    rw [hscan]
    exact List.mem_append_left _ hg
  obtain rfl : post = [] := by
    apply hnil post _ (by omega)
    intro g hg
    rw [hscan]
    exact List.mem_append_right _ (List.mem_append_right _ hg)
  rw [hscan, List.nil_append, List.append_nil]
  exact ⟨hword.ne_nil, hword.inWord⟩

theorem ne_nil (h : IsName rules name) : name.toList ≠ [] := by
  intro hnil
  exact h.scan.1 (by rw [hnil, scan_nil])

theorem endsAtTopLevel (h : IsName rules name) : EndsAtTopLevel rules name.toList := by
  intro g hg
  cases g with
  | comment t closed => cases h.isUncommented _ hg
  | plain c => rfl
  | quoted t closed =>
    cases closed with
    | true => rfl
    | false => exact absurd hg (h.closed t)

end IsName

/-! ## Around the word -/

variable {s : List Char} {pre run post : List Segment}

theorem Segment.exists_plain {g : Segment} (hc : g.isComment = false) (hw : g.inWord = false) :
    ∃ c, g = .plain c ∧ isQuote c = false := by
  cases g with
  | comment t closed => cases hc
  | quoted t closed => cases hw
  | plain c =>
    refine ⟨c, rfl, ?_⟩
    rw [Segment.inWord, Bool.not_eq_false', Bool.or_eq_true] at hw
    exact hw.elim isQuote_eq_false_of_isBlank isQuote_eq_false_of_isPunctuation

/-- A part of a word ends before anything but a quote. -/
theorem endsBefore_of_inWord {gs : List Segment} {g : Segment} (h : scan rules s = gs ++ [g])
    (hg : g.inWord = true) {next : Option Char} (hq : next.any isQuote = false) :
    g.EndsBefore rules next := by
  apply endsBefore_of_scan h hq
  rintro c rfl hopen
  have hslash : c ≠ '/' := by
    rintro rfl
    exact absurd hg (by decide)
  have hdash : c ≠ '-' := by
    rintro rfl
    exact absurd hg (by decide)
  simpa [opensComment, hslash, hdash] using hopen

/-- A character before a word ends before anything but punctuation. -/
theorem endsBefore_of_not_isPunctuation {gs : List Segment} {c : Char}
    (h : scan rules s = gs ++ [.plain c]) {next : Option Char}
    (hp : next.any isPunctuation = false) : (Segment.plain c).EndsBefore rules next := by
  apply opensComment_eq_false_of_next (opensComment_of_scan_plain (scan_textOf_of_append h))
  · rintro rfl
    exact absurd hp (by decide)
  · rintro rfl
    exact absurd hp (by decide)

/-- A name in the place of a word is scanned by itself, and what stands around it as before. -/
theorem scan_splice (hcom : IsUncommented rules s) (h : scan rules s = pre ++ (run ++ post))
    (hw : WordBetween pre run post) {name : String} (hn : IsName rules name) :
    scan rules (textOf pre ++ (name.toList ++ textOf post)) =
      pre ++ (scan rules name.toList ++ post) := by
  have hcom' : ∀ g ∈ pre ++ (run ++ post), g.isComment = false := h ▸ hcom
  have hfront : scan rules s = [] ++ (pre ++ (run ++ post)) := h
  have hpre := scan_textOf_of_uncommented hfront fun g hg => hcom' g (List.mem_append_left _ hg)
  have hsplit : scan rules s = (pre ++ run) ++ post := by rw [h, List.append_assoc]
  have hpost := scan_textOf_of_append hsplit
  have htop : EndsAtTopLevel rules (textOf pre) := by
    rw [EndsAtTopLevel, hpre]
    exact isClosed_of_scan_append h (by simp [hw.ne_nil])
  have hleft (ks : List Segment) (g : Segment) (hg : scan rules (textOf pre) = ks ++ [g]) :
      g.EndsBefore rules (name.toList ++ textOf post).head? := by
    have hbefore := hw.before
    rw [← hpre, hg, List.getLast?_concat] at hbefore
    have hmem : g ∈ pre := by
      rw [← hpre, hg]
      simp
    obtain ⟨c, rfl, -⟩ := Segment.exists_plain (hcom' g (List.mem_append_left _ hmem)) hbefore
    rw [List.head?_append_of_ne_nil _ hn.ne_nil]
    exact endsBefore_of_not_isPunctuation hg hn.head
  have hright (ks : List Segment) (g : Segment) (hg : scan rules name.toList = ks ++ [g]) :
      g.EndsBefore rules (textOf post).head? := by
    have hmem : g ∈ scan rules name.toList := by
      rw [hg]
      simp
    apply endsBefore_of_inWord hg (hn.scan.2 g hmem)
    cases post with
    | nil => rfl
    | cons g' post =>
      have hg' : g'.isComment = false := hcom' g' (by simp)
      obtain ⟨c, rfl, hq⟩ := Segment.exists_plain hg' hw.behind
      exact hq
  rw [scan_append htop hleft, scan_append hn.endsAtTopLevel hright, hpre, hpost]

/-- In a stripped text a name takes the place of a word: the text stays stripped, and it has the
tokens before the word, the name at the word's offset, and others. -/
theorem exists_tokensFrom_splice (hs : strip rules s = s)
    (h : scan rules s = pre ++ (run ++ post)) (hw : WordBetween pre run post) {name : String}
    (hn : IsName rules name) :
    strip rules (textOf pre ++ (name.toList ++ textOf post)) =
        textOf pre ++ (name.toList ++ textOf post) ∧
      ∃ us, tokensFrom rules 0 (textOf pre ++ (name.toList ++ textOf post)) =
        tokensOf 0 pre ++ ⟨name, byteLength (textOf pre)⟩ :: us := by
  obtain ⟨hcom, hends⟩ := strip_eq_self_iff.1 hs
  have hscan := scan_splice hcom h hw hn
  have hcom' : IsUncommented rules (textOf pre ++ (name.toList ++ textOf post)) := by
    intro g hg
    rw [hscan, List.mem_append, List.mem_append] at hg
    rcases hg with hg | hg | hg
    · exact hcom g (by rw [h]; exact List.mem_append_left _ hg)
    · exact hn.isUncommented g hg
    · exact hcom g (by rw [h]; exact List.mem_append_right _ (List.mem_append_right _ hg))
  have hsplit : s = textOf pre ++ (textOf run ++ textOf post) := by
    rw [← textOf_append, ← textOf_append, ← h, textOf_scan]
  rw [hsplit] at hends
  have hword : WordBetween pre (scan rules name.toList) post :=
    ⟨hn.scan.1, hn.scan.2, hw.before, hw.behind⟩
  refine ⟨strip_eq_self_iff.2 ⟨hcom', any_ends_replace hn.ne_nil hends
    (strip_eq_self_iff.1 hn.strip).2⟩, ?_⟩
  rw [tokensFrom_eq hcom', hscan, tokensOf_wordBetween hword, textOf_scan, String.ofList_toList,
    Nat.zero_add]
  exact ⟨_, rfl⟩

end SqlTriage.Lexical

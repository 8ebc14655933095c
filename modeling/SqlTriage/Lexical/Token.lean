import SqlTriage.Lexical.Lexeme
import SqlTriage.Text.Offset

/-!
# Tokens

A token is one punctuation character or a word: a maximal run of quoted runs and of characters
that are neither blank nor punctuation, so that a qualified name such as `db.t` and a variable
such as `@@autocommit` is one token. Tokens carry their byte offset in the text. Words are
compared in upper case, and only ASCII letters have another case.
-/

namespace SqlTriage.Lexical

open SqlTriage.Text

/-- A token and the byte offset at which it begins. -/
structure Token where
  /-- The token as written. -/
  text : String
  /-- The offset of its first byte. -/
  offset : Nat
deriving DecidableEq, Repr

/-- The text with ASCII letters in upper case. -/
def Token.folded (t : Token) : String :=
  t.text.toUpper

/-- Whether the token, in upper case, is one of the words. -/
def Token.isOneOf (t : Token) (words : List String) : Bool :=
  words.contains t.folded

/-- Whether the token can name something: it does not begin with punctuation. -/
def Token.isIdentifier (t : Token) : Bool :=
  !t.text.toList.head?.any isPunctuation

/-! ## Words -/

/-- The word at the front of a text and what follows it. The word is empty where none begins. -/
def word (rules : LexicalRules) (s : List Char) : List Char × List Char :=
  match s with
  | [] => ([], [])
  | c :: t =>
    match _ : quotedRun? rules (c :: t) with
    | some l =>
      let more := word rules l.rest
      (l.text ++ more.1, more.2)
    | none =>
      if isBlank c || isPunctuation c then ([], c :: t)
      else
        let more := word rules t
        (c :: more.1, more.2)
termination_by s.length
decreasing_by
  · exact quotedRun?_length_lt ‹_›
  · exact Nat.lt_succ_self _

/-- A word and what follows it are the text. -/
theorem word_append (rules : LexicalRules) (s : List Char) :
    (word rules s).1 ++ (word rules s).2 = s := by
  fun_induction word rules s with
  | case1 => rfl
  | case2 c t l hq more ih => rw [List.append_assoc, ih, quotedRun?_append hq]
  | case3 => rfl
  | case4 c t hq hc more ih => rw [List.cons_append, ih]

theorem word_ne_nil {rules : LexicalRules} {c : Char} {s : List Char} (hb : isBlank c = false)
    (hp : isPunctuation c = false) : (word rules (c :: s)).1 ≠ [] := by
  rw [word]
  split
  · rename_i l hq
    simp [quotedRun?_text_ne_nil hq]
  · simp [hb, hp]

theorem length_word_lt {rules : LexicalRules} {c : Char} {s : List Char} (hb : isBlank c = false)
    (hp : isPunctuation c = false) : (word rules (c :: s)).2.length < (c :: s).length :=
  length_rest_lt (word_append rules (c :: s)) (word_ne_nil hb hp)

/-! ## Token streams -/

/-- The tokens of a text whose first character stands at the given byte offset. -/
def tokensFrom (rules : LexicalRules) (offset : Nat) (s : List Char) : List Token :=
  match s with
  | [] => []
  | c :: t =>
    if _ : isBlank c then tokensFrom rules (offset + c.utf8Size) t
    else if _ : isPunctuation c then
      ⟨String.ofList [c], offset⟩ :: tokensFrom rules (offset + c.utf8Size) t
    else
      let w := word rules (c :: t)
      ⟨String.ofList w.1, offset⟩ :: tokensFrom rules (offset + byteLength w.1) w.2
termination_by s.length
decreasing_by
  · exact Nat.lt_succ_self _
  · exact Nat.lt_succ_self _
  · rename_i hb hp
    exact length_word_lt (by simpa using hb) (by simpa using hp)

/-- The tokens of a text. -/
def LexicalRules.tokens (rules : LexicalRules) (text : String) : List Token :=
  tokensFrom rules 0 text.toList

end SqlTriage.Lexical

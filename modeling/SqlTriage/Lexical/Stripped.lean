import SqlTriage.Lexical.Lexeme

/-!
# Text stripped of comments

A statement is matched on its stripped text: every comment replaced by one space, so that no two
tokens fuse, quoted runs copied as they are, and blanks trimmed from both ends. Case is never
changed.
-/

namespace SqlTriage.Lexical

open SqlTriage.Text

/-- A character that opens neither a comment nor a quoted run, whatever follows it. -/
def isPlain (rules : LexicalRules) (c : Char) : Bool :=
  !(isQuote c || c == '/' || c == '-' || (rules.hashComments && c == '#'))

/-- The text with a space in place of each comment. A character at which no lexeme begins is
copied together with the plain characters behind it. -/
def spaceComments (rules : LexicalRules) (s : List Char) : List Char :=
  match s with
  | [] => []
  | c :: t =>
    match _ : comment? rules (c :: t) with
    | some l => ' ' :: spaceComments rules l.rest
    | none =>
      match _ : quotedRun? rules (c :: t) with
      | some l => l.text ++ spaceComments rules l.rest
      | none =>
        c :: (t.takeWhile (isPlain rules) ++ spaceComments rules (t.dropWhile (isPlain rules)))
termination_by s.length
decreasing_by
  · exact comment?_length_lt ‹_›
  · exact quotedRun?_length_lt ‹_›
  · exact Nat.lt_succ_of_le (List.dropWhile_sublist _).length_le

/-- The stripped form of a character list. -/
def strip (rules : LexicalRules) (s : List Char) : List Char :=
  trim isBlank (spaceComments rules s)

/-- The stripped form of a text. -/
def LexicalRules.stripped (rules : LexicalRules) (text : String) : String :=
  String.ofList (strip rules text.toList)

@[simp] theorem toList_stripped (rules : LexicalRules) (text : String) :
    (rules.stripped text).toList = strip rules text.toList :=
  String.toList_ofList

end SqlTriage.Lexical

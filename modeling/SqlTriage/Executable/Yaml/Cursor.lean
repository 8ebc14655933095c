/-!
# Positions in a YAML document

A `Cursor` is a position with the text behind it. The layout of a document carries meaning, so a
position counts lines and columns; it also counts characters, because the length of a key is
limited. Line breaks are line feeds and the two separators U+2028 and U+2029 here: the other
forms are brought into the first before a document is read.
-/

namespace SqlTriage.Executable.Yaml

/-! ## Characters -/

/-- A blank inside a line. -/
def isGap (c : Char) : Bool :=
  c == ' ' || c == '\t'

/-- A line break. -/
def isBreak (c : Char) : Bool :=
  c == '\n' || c == '\u2028' || c == '\u2029'

/-- A character of a name: a letter, a digit, a hyphen or an underscore. -/
def isWordCharacter (c : Char) : Bool :=
  c.isAlphanum || c == '-' || c == '_'

/-- Whether an indicator ends here: at a blank, a line break or the end of the document. -/
def atSpace : List Char → Bool
  | [] => true
  | c :: _ => isGap c || isBreak c

/-- Whether a line that begins here is a document marker of the given character. -/
def isMarker (mark : Char) (s : List Char) : Bool :=
  [mark, mark, mark].isPrefixOf s && atSpace (s.drop 3)

/-! ## Positions -/

/-- Where a character stands. -/
structure Mark where
  /-- The number of characters before it. -/
  index : Nat
  /-- The number of lines before its line. -/
  line : Nat
  /-- The number of characters before it on its line. -/
  column : Nat
deriving DecidableEq, Repr

/-- Where a document begins. -/
def Mark.first : Mark := ⟨0, 0, 0⟩

/-- The place behind a character. -/
def Mark.after (m : Mark) (c : Char) : Mark :=
  if isBreak c then ⟨m.index + 1, m.line + 1, 0⟩ else ⟨m.index + 1, m.line, m.column + 1⟩

/-- The place behind a text. -/
def Mark.behind (m : Mark) (s : List Char) : Mark :=
  s.foldl Mark.after m

/-- A position in a document. -/
structure Cursor where
  /-- Its place. -/
  mark : Mark
  /-- The text from there on. -/
  rest : List Char

namespace Cursor

/-- The column of a position. -/
def column (p : Cursor) : Nat := p.mark.column

/-- Moves over as many characters as stand there, at most `n`. -/
def skip (n : Nat) (p : Cursor) : Cursor :=
  ⟨p.mark.behind (p.rest.take n), p.rest.drop n⟩

/-- Moves over one character. -/
def next (p : Cursor) : Cursor := p.skip 1

/-- The longest text at the position whose characters all pass the test. -/
def run (test : Char → Bool) (p : Cursor) : List Char :=
  p.rest.takeWhile test

/-- Moves over the longest text whose characters all pass the test. -/
def passing (test : Char → Bool) (p : Cursor) : Cursor :=
  p.skip (p.run test).length

/-- Whether a character that passes the test stands at the position. -/
def has (test : Char → Bool) (p : Cursor) : Bool := p.rest.head?.any test

/-- Whether the character stands at the position. -/
def isAt (c : Char) (p : Cursor) : Bool := p.has (· == c)

/-- Whether a document marker stands at the position. -/
def atMarker (p : Cursor) : Bool :=
  p.column == 0 && (isMarker '-' p.rest || isMarker '.' p.rest)

/-- Moves over the rest of a line, which holds blanks and a comment at most. -/
def lineEnd? (p : Cursor) : Option Cursor :=
  let p := p.passing isGap
  let p := if p.isAt '#' then p.passing fun c => !isBreak c else p
  if p.rest.isEmpty || p.has isBreak then some p.next else none

end Cursor

/-! ## Texts -/

/-- The characters that a document may hold. -/
def isAllowed (c : Char) : Bool :=
  let n := c.toNat
  n == 0x09 || n == 0x0A || n == 0x0D || (0x20 ≤ n && n ≤ 0x7E) || n == 0x85 ||
    (0xA0 ≤ n && n ≤ 0xFFFD) || 0x10000 ≤ n

/-- The text with each line break that is no separator as one line feed. -/
def withLineFeeds : List Char → List Char
  | [] => []
  | [c] => if c == '\r' || c == '\u0085' then ['\n'] else [c]
  | c :: d :: s =>
    if c == '\r' then
      if d == '\n' then '\n' :: withLineFeeds s else '\n' :: withLineFeeds (d :: s)
    else if c == '\u0085' then '\n' :: withLineFeeds (d :: s)
    else c :: withLineFeeds (d :: s)

/-- The position at the beginning of a text. -/
def Cursor.first? (text : String) : Option Cursor :=
  if text.toList.all isAllowed then some ⟨.first, withLineFeeds text.toList⟩ else none

end SqlTriage.Executable.Yaml

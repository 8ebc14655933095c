import SqlTriage.Executable.Yaml.BlockScalar
import SqlTriage.Executable.Yaml.Tag

/-!
# Tokens of a YAML document

The layout of a document becomes tokens of its own: where a line is indented more than the block
collection around it a collection may begin, and where it is indented less the collections that
are indented more end. What a key is shows only at its colon, so the places where one may have
begun are remembered, and the tokens that announce it are put in front of it then.
-/

namespace SqlTriage.Executable.Yaml

/-- A token of a document. -/
inductive Token where
  | directive (d : Directive)
  /-- The marker in front of the content of a document. -/
  | documentStart
  /-- The marker behind the content of a document. -/
  | documentEnd
  /-- The beginning of a block sequence. -/
  | blockSequence
  /-- The beginning of a block mapping. -/
  | blockMapping
  /-- The end of a block collection. -/
  | blockEnd
  | openBracket
  | closeBracket
  | openBrace
  | closeBrace
  | comma
  | dash
  /-- The beginning of a key, whether a question mark stands there or not. -/
  | key
  | colon
  | alias (name : String)
  | anchor (name : String)
  | tag (name : TagName)
  | scalar (value : String) (style : Style)
deriving DecidableEq, Repr

/-! ## Open collections and keys -/

/-- A place where a key may begin. -/
structure KeyPlace where
  /-- The number of tokens before it. -/
  number : Nat
  /-- Where it begins. -/
  mark : Mark
  /-- Whether nothing but a key can begin there. -/
  required : Bool

/-- Whether a key that begins at the place would have to have ended before the mark. A key stands
on one line and has 1024 characters at most. -/
def KeyPlace.isPast (k : KeyPlace) (m : Mark) : Bool :=
  k.mark.line < m.line || k.mark.index + 1024 < m.index

/-- What is known of a document up to a position. -/
structure Scan where
  /-- The position. -/
  cursor : Cursor
  /-- The tokens before it. -/
  tokens : Array Token := #[]
  /-- The columns of the block collections that are open, the innermost first. -/
  columns : List Nat := []
  /-- Whether a key may begin at the position. -/
  keyAllowed : Bool := true
  /-- Where a key may have begun in the innermost flow collection, or outside all of them. -/
  key : Option KeyPlace := none
  /-- Where a key may have begun around each open flow collection, the innermost first. -/
  outerKeys : List (Option KeyPlace) := []

namespace Scan

/-- Whether the position is in a flow collection. -/
def inFlow (s : Scan) : Bool := !s.outerKeys.isEmpty

/-- Appends a token that ends at the given position. -/
def put (s : Scan) (t : Token) (stop : Cursor) (keyAllowed : Bool) : Scan :=
  { s with tokens := s.tokens.push t, cursor := stop, keyAllowed }

/-- Begins a block collection in a column unless one is open there. Its token becomes the token
with the given number. Indentation does not count in flow collections. -/
def openBlock (s : Scan) (column number : Nat) (t : Token) : Scan :=
  if s.inFlow || s.columns.head?.any (column ≤ ·) then s
  else
    { s with columns := column :: s.columns, tokens := s.tokens.insertIdxIfInBounds number t }

/-- Ends the innermost block collections up to the first that stays open. -/
def closeBlocks (s : Scan) (stays : Nat → Bool) : Scan :=
  if s.inFlow then s
  else
    let closed := s.columns.takeWhile fun column => !stays column
    { s with
      columns := s.columns.drop closed.length
      tokens := s.tokens ++ closed.map fun _ => Token.blockEnd }

/-- Ends all block collections. -/
def closeAllBlocks (s : Scan) : Scan := s.closeBlocks fun _ => false

/-- No key has begun, after all. -/
def withoutKey? (s : Scan) : Option Scan :=
  if s.key.any KeyPlace.required then none else some { s with key := none }

/-- Drops the places of keys that would have ended before the position. -/
def withoutPastKeys? (s : Scan) : Option Scan := do
  let check (k : Option KeyPlace) : Option (Option KeyPlace) :=
    if k.any (·.isPast s.cursor.mark) then
      if k.any KeyPlace.required then none else some none
    else some k
  return { s with key := ← check s.key, outerKeys := ← s.outerKeys.mapM check }

/-- Remembers that a key may begin at the position. One has to begin in the column of the
innermost block collection. -/
def withKey? (s : Scan) : Option Scan :=
  if s.keyAllowed then
    let required := !s.inFlow && s.columns.head? == some s.cursor.column
    s.withoutKey?.map fun t =>
      { t with key := some ⟨s.tokens.size, s.cursor.mark, required⟩ }
  else some s

/-! ## Spaces and comments -/

/-- Moves to the next token. The result says whether a key may begin there; a new line allows it
outside flow collections. Where it may, tabs do not count as blanks outside flow collections. A
byte order mark may begin a line. -/
def tokenFrom (flow comment keyAllowed : Bool) (m : Mark) : List Char → Bool × Cursor
  | [] => (keyAllowed, ⟨m, []⟩)
  | c :: s =>
    if isBreak c then tokenFrom flow false (keyAllowed || !flow) (m.after c) s
    else if comment || c == '#' then tokenFrom flow true keyAllowed (m.after c) s
    else if c == ' ' || (c == '\t' && (flow || !keyAllowed)) ||
        (c == '\uFEFF' && m.column == 0) then
      tokenFrom flow false keyAllowed (m.after c) s
    else (keyAllowed, ⟨m, c :: s⟩)

/-- Moves to the next token. See `tokenFrom`. -/
def toToken (s : Scan) : Scan :=
  let r := tokenFrom s.inFlow false s.keyAllowed s.cursor.mark s.cursor.rest
  { s with keyAllowed := r.1, cursor := r.2 }

/-! ## The kinds of tokens -/

/-- Reads a directive. -/
def directive? (s : Scan) : Option Scan := do
  let s ← s.closeAllBlocks.withoutKey?
  let (d, q) ← Yaml.directive? s.cursor.next
  return s.put (.directive d) q false

/-- Reads a document marker. -/
def marker? (s : Scan) (t : Token) : Option Scan := do
  let s ← s.closeAllBlocks.withoutKey?
  return s.put t (s.cursor.skip 3) false

/-- Reads the beginning of a flow collection, which may be a key. -/
def openFlow? (s : Scan) (t : Token) : Option Scan := do
  let s ← s.withKey?
  return { s.put t s.cursor.next true with key := none, outerKeys := s.key :: s.outerKeys }

/-- Reads the end of a flow collection. -/
def closeFlow? (s : Scan) (t : Token) : Option Scan := do
  let s ← s.withoutKey?
  let s := s.put t s.cursor.next false
  match s.outerKeys with
  | [] => return s
  | k :: ks => return { s with key := k, outerKeys := ks }

/-- Reads a comma. -/
def comma? (s : Scan) : Option Scan := do
  let s ← s.withoutKey?
  return s.put .comma s.cursor.next true

/-- Begins a block collection at the position if there is none yet, outside flow collections. It
takes a place where a key may begin. -/
def blockHere? (s : Scan) (t : Token) : Option Scan :=
  if s.inFlow then some s
  else if s.keyAllowed then some (s.openBlock s.cursor.column s.tokens.size t)
  else none

/-- Reads the dash of an item. -/
def dash? (s : Scan) : Option Scan := do
  let s ← (← s.blockHere? .blockSequence).withoutKey?
  return s.put .dash s.cursor.next true

/-- Reads the question mark of a key. -/
def questionMark? (s : Scan) : Option Scan := do
  let s ← (← s.blockHere? .blockMapping).withoutKey?
  return s.put .key s.cursor.next !s.inFlow

/-- Reads a colon. If a key may have begun before it, one has. -/
def colon? (s : Scan) : Option Scan :=
  match s.key with
  | some k =>
    let s := { s with key := none, tokens := s.tokens.insertIdxIfInBounds k.number .key }
    let s := s.openBlock k.mark.column k.number .blockMapping
    some (s.put .colon s.cursor.next false)
  | none => do
    let s ← s.blockHere? .blockMapping
    return s.put .colon s.cursor.next !s.inFlow

/-- Whether the name of an anchor may end before this text. -/
def endsName (s : List Char) : Bool :=
  atSpace s || s.head?.any ['?', ':', ',', ']', '\x7d', '%', '@', '\x60'].contains

/-- Reads an anchor or an alias. -/
def name? (s : Scan) (t : String → Token) : Option Scan := do
  let s ← s.withKey?
  let name := s.cursor.next.run isWordCharacter
  let q := s.cursor.next.skip name.length
  if !name.isEmpty && endsName q.rest then
    some (s.put (t (String.ofList name)) q false)
  else none

/-- Reads a tag. -/
def tag? (s : Scan) : Option Scan := do
  let s ← s.withKey?
  let (name, q) ← tagName? s.cursor.next
  if atSpace q.rest || (s.inFlow && q.isAt ',') then some (s.put (.tag name) q false) else none

/-- Reads a block scalar. -/
def blockScalar? (s : Scan) (folded : Bool) : Option Scan := do
  let s ← s.withoutKey?
  let (value, q) ← Yaml.blockScalar? folded s.columns.head? s.cursor.next
  return s.put (.scalar value (if folded then .folded else .literal)) q true

/-- Reads a quoted scalar. -/
def quoted? (s : Scan) (read : Mark → List Char → Option (List Item × Cursor)) :
    Option Scan := do
  let s ← s.withKey?
  let (items, q) ← read s.cursor.next.mark s.cursor.next.rest
  return s.put (.scalar (foldAll items) .quoted) q false

/-- Reads a plain scalar. A key may begin behind it if a new line does. -/
def plain? (s : Scan) : Option Scan := do
  let s ← s.withKey?
  let indent := (s.columns.head?.map (· + 1)).getD 0
  let run ← plainRun s.inFlow indent false false [] s.cursor.mark s.cursor.rest
  return s.put (.scalar run.value .plain) run.stop run.brokenOff

/-- Reads the token that begins with the character at the position; `behind` is the text behind
that character. -/
def token? (s : Scan) (c : Char) (behind : List Char) : Option Scan :=
  if s.cursor.column == 0 && c == '%' then s.directive?
  else if s.cursor.atMarker then s.marker? (if c == '-' then .documentStart else .documentEnd)
  else if c == '[' then s.openFlow? .openBracket
  else if c == '\x7b' then s.openFlow? .openBrace
  else if c == ']' then s.closeFlow? .closeBracket
  else if c == '\x7d' then s.closeFlow? .closeBrace
  else if c == ',' then s.comma?
  else if c == '-' && atSpace behind then s.dash?
  else if c == '?' && (s.inFlow || atSpace behind) then s.questionMark?
  else if c == ':' && (s.inFlow || atSpace behind) then s.colon?
  else if c == '*' then s.name? .alias
  else if c == '&' then s.name? .anchor
  else if c == '!' then s.tag?
  else if (c == '|' || c == '>') && !s.inFlow then s.blockScalar? (c == '>')
  else if c == '\x27' then s.quoted? singleQuoted
  else if c == '\x22' then s.quoted? doubleQuoted
  else if startsPlain s.inFlow c behind then s.plain?
  else none

/-- Reads the tokens from a position on. The fuel bounds their number; a document has no more of
them than characters. -/
def tokens? : Nat → Scan → Option (Array Token)
  | 0, _ => none
  | fuel + 1, s => do
    let s ← s.toToken.withoutPastKeys?
    match s.cursor.rest with
    | [] => return (← s.closeAllBlocks.withoutKey?).tokens
    | c :: behind =>
      let s := s.closeBlocks (· ≤ s.cursor.column)
      tokens? fuel (← s.token? c behind)

end Scan

/-- The tokens of a text. -/
def tokensOf? (text : String) : Option (List Token) := do
  let first ← Cursor.first? text
  let tokens ← Scan.tokens? (first.rest.length + 1) { cursor := first }
  return tokens.toList

end SqlTriage.Executable.Yaml

import SqlTriage.Executable.Yaml.Scalar

/-!
# Block scalars

A block scalar is written on the lines below its header, indented more than what it belongs to.
A literal one keeps its line breaks and a folded one joins its lines. The header may give the
indentation and say which line breaks at the end count.
-/

namespace SqlTriage.Executable.Yaml

/-! ## Headers -/

/-- Which line breaks at the end of a block scalar belong to it. -/
inductive Chomping where
  /-- None of them. -/
  | strip
  /-- That of the last line. -/
  | clip
  /-- All of them. -/
  | keep
deriving DecidableEq, Repr

/-- What the header of a block scalar says. -/
structure BlockHeader where
  /-- Which line breaks at the end count. -/
  chomping : Chomping
  /-- By how much the lines are indented, if that is given. -/
  width : Option Nat

/-- The chomping that a sign at the position asks for. -/
def Cursor.chomping? (p : Cursor) : Option Chomping :=
  if p.isAt '+' then some .keep else if p.isAt '-' then some .strip else none

/-- Reads a header behind its first character. A sign and a digit may come in either order. -/
def blockHeader? (p : Cursor) : Option (BlockHeader × Cursor) := do
  let sign := p.chomping?
  let p := if sign.isSome then p.next else p
  let digit := p.rest.head?.filter Char.isDigit
  let p := if digit.isSome then p.next else p
  let late := if sign.isNone && digit.isSome then p.chomping? else none
  let p := if late.isSome then p.next else p
  if digit == some '0' then none
  else
    let p ← p.lineEnd?
    return (⟨(sign <|> late).getD .clip, digit.map fun d => d.toNat - 48⟩, p)

/-! ## Lines -/

/-- Empty lines as they are passed over. -/
structure EmptyLines where
  /-- Their line breaks. -/
  breaks : List Char
  /-- The widest column that is reached on them or on the line behind them. -/
  widest : Nat
  /-- The position behind them and behind the indentation of the next line. -/
  stop : Cursor

/-- Passes over empty lines and the indentation of the line behind them, which has no end if it
is not yet known. A tab does not indent. -/
def emptyLines (indent : Option Nat) (widest : Nat) (m : Mark) : List Char → Option EmptyLines
  | [] => some ⟨[], max widest m.column, ⟨m, []⟩⟩
  | c :: s =>
    let indenting := indent.all (m.column < ·)
    if c == ' ' && indenting then emptyLines indent widest (m.after c) s
    else
      let widest := max widest m.column
      if c == '\t' && indenting then none
      else if isBreak c then
        (emptyLines indent widest (m.after c) s).map fun e => { e with breaks := c :: e.breaks }
      else some ⟨[], widest, ⟨m, c :: s⟩⟩

/-- A line of a block scalar. -/
structure BlockLine where
  /-- The breaks of the empty lines before it. -/
  before : List Char
  /-- Its text behind the indentation, which is not empty. -/
  text : List Char
  /-- Its line break, unless the document ends with it. -/
  lineBreak : Option Char

/-- The lines from a position on that have the given indentation, and the empty lines behind
them. `before` are the breaks of the empty lines before the position. -/
def blockLines (indent : Nat) (before : List Char) :
    Nat → Cursor → Option (List BlockLine × List Char × Cursor)
  | 0, p => some ([], before, p)
  | fuel + 1, p =>
    if p.rest.isEmpty || p.column != indent then some ([], before, p)
    else do
      let q := p.passing fun c => !isBreak c
      let line : BlockLine := ⟨before, p.run fun c => !isBreak c, q.rest.head?⟩
      let behind ← emptyLines (some indent) 0 q.next.mark q.next.rest
      let (lines, trailing, q) ← blockLines indent behind.breaks fuel behind.stop
      return (line :: lines, trailing, q)

/-! ## Values -/

/-- Whether a line begins with a blank, so that it is not folded. -/
def BlockLine.beginsBlank (l : BlockLine) : Bool := l.text.head?.any isGap

/-- What the break between two lines becomes, apart from the empty lines between them. -/
def BlockLine.joint (folded : Bool) (l next : BlockLine) : List Char :=
  if folded && l.lineBreak == some '\n' && !l.beginsBlank && !next.beginsBlank then
    if next.before.isEmpty then [' '] else []
  else l.lineBreak.toList

/-- The text of lines up to the break of the last one. -/
def blockText (folded : Bool) : List BlockLine → List Char
  | [] => []
  | [l] => l.before ++ l.text
  | l :: next :: ls =>
    l.before ++ l.text ++ l.joint folded next ++ blockText folded (next :: ls)

/-- The line breaks at the end that belong to a block scalar. -/
def Chomping.tail (chomping : Chomping) (lines : List BlockLine) (trailing : List Char) :
    List Char :=
  let last := (lines.getLast?.bind BlockLine.lineBreak).toList
  match chomping with
  | .strip => []
  | .clip => last
  | .keep => last ++ trailing

/-- Reads a block scalar behind the character that begins its header. `parent` is the column of
the collection around it. If the header gives no indentation, the widest of the empty lines at
its beginning and of the line behind them does, but it is more than that of the parent. -/
def blockScalar? (folded : Bool) (parent : Option Nat) (p : Cursor) :
    Option (String × Cursor) := do
  let (header, p) ← blockHeader? p
  let least := (parent.map (· + 1)).getD 0
  let given := header.width.map fun n => parent.getD 0 + n
  let empty ← emptyLines given 0 p.mark p.rest
  let indent := given.getD (max empty.widest (max least 1))
  let (lines, trailing, q) ← blockLines indent empty.breaks p.rest.length empty.stop
  let text := blockText folded lines ++ header.chomping.tail lines trailing
  return (String.ofList text, q)

end SqlTriage.Executable.Yaml

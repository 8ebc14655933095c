import SqlTriage.Executable.Yaml.Cursor

/-!
# Plain and quoted scalars

Reading the scalars that may stand inside a line. Such a scalar may run over several lines; its
line breaks are folded, one line feed into a space and further ones into themselves.
-/

namespace SqlTriage.Executable.Yaml

/-- How a scalar is written. -/
inductive Style where
  | plain
  | quoted
  /-- A block that keeps its lines. -/
  | literal
  /-- A block whose lines are folded. -/
  | folded
deriving DecidableEq, Repr

/-! ## Folding -/

/-- A part of a scalar as it stands in the document. -/
inductive Item where
  /-- A character of the value. -/
  | char (c : Char)
  /-- A blank that counts only between characters of one line. -/
  | gap (c : Char)
  /-- A line break. -/
  | lineBreak (c : Char)
  /-- An escaped line break, which joins two lines. -/
  | join

/-- The item that an unescaped character stands for. -/
def Item.ofChar (c : Char) : Item :=
  if isBreak c then .lineBreak c else if isGap c then .gap c else .char c

/-- What stands between two characters of a value. -/
inductive Spacing where
  /-- Blanks on one line. -/
  | blanks (s : List Char)
  /-- A line break, unless it is escaped, and further ones. -/
  | breaks (first : Option Char) (further : List Char)

/-- The characters that a spacing folds into. Only a line feed is folded. -/
def Spacing.text : Spacing → List Char
  | .blanks s => s
  | .breaks none further => further
  | .breaks (some c) further =>
    if c == '\n' then if further.isEmpty then [' '] else further else c :: further

/-- The value of a scalar, given the spacing before its remaining items. -/
def fold (before : Spacing) : List Item → List Char
  | [] => before.text
  | .char c :: s => before.text ++ c :: fold (.blanks []) s
  | .gap c :: s =>
    match before with
    | .blanks b => fold (.blanks (b ++ [c])) s
    | .breaks first further => fold (.breaks first further) s
  | .lineBreak c :: s =>
    match before with
    | .blanks _ => fold (.breaks (some c) []) s
    | .breaks first further => fold (.breaks first (further ++ [c])) s
  | .join :: s => before.text ++ fold (.breaks none []) s

/-- The value of a scalar. -/
def foldAll (items : List Item) : String :=
  String.ofList (fold (.blanks []) items)

/-! ## Quoted scalars -/

/-- Puts an item in front of what is read behind it. -/
def withItem (i : Item) (read : Option (List Item × Cursor)) : Option (List Item × Cursor) :=
  read.map fun r => (i :: r.1, r.2)

/-- The items of a scalar behind its opening apostrophe. A doubled apostrophe stands for one. -/
def singleQuoted (m : Mark) : List Char → Option (List Item × Cursor)
  | [] => none
  | [c] => if c = '\x27' then some ([], ⟨m.after c, []⟩) else none
  | c :: d :: s =>
    if (Cursor.mk m (c :: d :: s)).atMarker then none
    else if c = '\x27' then
      if d = '\x27' then withItem (.char c) (singleQuoted (m.behind [c, d]) s)
      else some ([], ⟨m.after c, d :: s⟩)
    else withItem (.ofChar c) (singleQuoted (m.after c) (d :: s))

/-- The character for a letter behind a backslash. -/
def escaped? : Char → Option Char
  | '0' => some '\x00'
  | 'a' => some '\x07'
  | 'b' => some '\x08'
  | 't' => some '\t'
  | '\t' => some '\t'
  | 'n' => some '\n'
  | 'v' => some '\x0b'
  | 'f' => some '\x0c'
  | 'r' => some '\r'
  | 'e' => some '\x1b'
  | ' ' => some ' '
  | '\x22' => some '\x22'
  | '/' => some '/'
  | '\\' => some '\\'
  | 'N' => some '\u0085'
  | '_' => some '\u00a0'
  | 'L' => some '\u2028'
  | 'P' => some '\u2029'
  | _ => none

/-- The number of hexadecimal digits behind a letter that announces a code point. -/
def escapeWidth? : Char → Option Nat
  | 'x' => some 2
  | 'u' => some 4
  | 'U' => some 8
  | _ => none

/-- The value of a hexadecimal digit. -/
def hexValue? (c : Char) : Option Nat :=
  if '0' ≤ c ∧ c ≤ '9' then some (c.toNat - 48)
  else if 'a' ≤ c ∧ c ≤ 'f' then some (c.toNat - 87)
  else if 'A' ≤ c ∧ c ≤ 'F' then some (c.toNat - 55)
  else none

/-- The number that hexadecimal digits write. -/
def hexNumber? (digits : List Char) : Option Nat :=
  (digits.mapM hexValue?).map fun values => values.foldl (fun n v => n * 16 + v) 0

/-- The character whose code point the digits give, if there are enough of them. -/
def codePoint? (width : Nat) (digits : List Char) : Option Char := do
  let code ← hexNumber? digits
  if digits.length = width ∧ code.isValidChar then some (Char.ofNat code) else none

/-- The items of a scalar behind its opening quotation mark. -/
def doubleQuoted (m : Mark) (s : List Char) : Option (List Item × Cursor) :=
  match s with
  | [] => none
  | c :: t =>
    if (Cursor.mk m (c :: t)).atMarker then none
    else if c = '\x22' then some ([], ⟨m.after c, t⟩)
    else if c = '\\' then
      match t with
      | [] => none
      | d :: u =>
        if isBreak d then withItem .join (doubleQuoted (m.behind [c, d]) u)
        else
          match escaped? d with
          | some e => withItem (.char e) (doubleQuoted (m.behind [c, d]) u)
          | none => do
            let width ← escapeWidth? d
            let digits := u.take width
            let e ← codePoint? width digits
            withItem (.char e) (doubleQuoted (m.behind (c :: d :: digits)) (u.drop width))
    else withItem (.ofChar c) (doubleQuoted (m.after c) t)
termination_by s.length
decreasing_by
  all_goals
    simp only [List.length_cons, List.length_drop]
    omega

/-! ## Plain scalars -/

/-- The characters that structure a flow collection. -/
def isFlowIndicator (c : Char) : Bool :=
  [',', '[', ']', '\x7b', '\x7d'].contains c

/-- The characters that begin something other than a plain scalar. -/
def indicators : List Char :=
  ['-', '?', ':', ',', '[', ']', '\x7b', '\x7d', '#', '&', '*', '!', '|', '>', '\x27', '\x22', '%',
   '@', '\x60']

/-- Whether a plain scalar begins with the character, given what follows it. -/
def startsPlain (flow : Bool) (c : Char) (s : List Char) : Bool :=
  if c == '-' then !atSpace s
  else if c == '?' || c == ':' then !flow && !atSpace s
  else !indicators.contains c && !isGap c && !isBreak c

/-- A plain scalar as it stands in a document. -/
structure PlainRun where
  /-- Its items and the spacing behind them. -/
  items : List Item
  /-- Whether there is a line break in that spacing. -/
  brokenOff : Bool
  /-- The position behind the spacing. -/
  stop : Cursor

/-- Whether a plain scalar ends before the character `c`, which is no blank and has the text `s`
behind it. It ends before a colon that makes it a key and, in a flow collection, before an
indicator; behind a blank or line break also before a comment, before a document marker and
before a line that is indented less than `indent`. -/
def endsPlain (flow spaced : Bool) (indent : Nat) (m : Mark) (c : Char) (s : List Char) : Bool :=
  (c == ':' && atSpace s) || (flow && isFlowIndicator c) ||
    (spaced && (c == '#' || (Cursor.mk m (c :: s)).atMarker || (!flow && m.column < indent)))

/-- Reads a plain scalar. `items` are the items read so far, the last first; `spaced` says that a
blank or line break came since the last character among them, and `fresh` that a line break did.
A tab does not indent, and in a flow collection no indicator may follow a colon. -/
def plainRun (flow : Bool) (indent : Nat) (spaced fresh : Bool) (items : List Item) (m : Mark) :
    List Char → Option PlainRun
  | [] => some ⟨items.reverse, fresh, ⟨m, []⟩⟩
  | c :: s =>
    if isBreak c then plainRun flow indent true true (.lineBreak c :: items) (m.after c) s
    else if isGap c then
      if c == '\t' && fresh && m.column < indent then none
      else plainRun flow indent true fresh (.gap c :: items) (m.after c) s
    else if endsPlain flow spaced indent m c s then
      some ⟨items.reverse, fresh, ⟨m, c :: s⟩⟩
    else if flow && c == ':' && s.head?.any (fun d => d == '?' || isFlowIndicator d) then none
    else plainRun flow indent false false (.char c :: items) (m.after c) s

/-- The value of a plain scalar, to which the spacing behind it does not belong. -/
def PlainRun.value (r : PlainRun) : String :=
  let spacing : Item → Bool
    | .char _ => false
    | _ => true
  foldAll (r.items.reverse.dropWhile spacing).reverse

end SqlTriage.Executable.Yaml

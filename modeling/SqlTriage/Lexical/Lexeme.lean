import SqlTriage.Text.Blank

/-!
# Comments and quoted runs

The two lexemes inside which the characters of a statement carry no meaning of their own. Both
are read at the front of a text, and both run to the end of the text when nothing ends them.
`comment?` and `quotedRun?` split a text into the lexeme and what follows
(`comment?_append`, `quotedRun?_append`), and what follows is shorter.
-/

namespace SqlTriage.Lexical

open SqlTriage.Text

/-- The lexical choices on which dialects differ. -/
structure LexicalRules where
  /-- A number sign opens a comment that runs to the end of the line. -/
  hashComments : Bool := false
  /-- A backslash escapes the next character inside single and double quotes. -/
  backslashEscapes : Bool := false
deriving DecidableEq, Repr

/-- The characters that open a quoted run: apostrophe, quotation mark and backtick. -/
def isQuote (c : Char) : Bool :=
  c == '\x27' || c == '\x22' || c == '\x60'

/-- The characters that form a token each. -/
def punctuation : List Char :=
  ['(', ')', ',', ';', '=', '*', '<', '>', '!', '+', '-', '/', '%', '|', '&', '^', '~']

/-- A character of `punctuation`. -/
def isPunctuation (c : Char) : Bool :=
  punctuation.contains c

/-- A lexeme read at the front of a text. -/
structure Lexeme where
  /-- The characters of the lexeme. -/
  text : List Char
  /-- Whether the text shows where the lexeme ends. -/
  closed : Bool
  /-- What follows the lexeme. -/
  rest : List Char
deriving DecidableEq, Repr

/-- The lexeme with characters put in front of it. -/
def Lexeme.after (front : List Char) (l : Lexeme) : Lexeme :=
  { l with text := front ++ l.text }

/-! ## Quoted runs -/

/-- Whether a backslash escapes inside a run that `q` opens. It never does between backticks. -/
def LexicalRules.escapesIn (rules : LexicalRules) (q : Char) : Bool :=
  rules.backslashEscapes && q != '\x60'

/-- The part of a quoted run behind its opening quote `q`. A doubled quote and, where `escapes`
holds, a backslash with its next character belong to the run; the first other `q` ends it. -/
def quotedTail (escapes : Bool) (q : Char) : List Char → Lexeme
  | [] => ⟨[], false, []⟩
  | [c] => ⟨[c], c == q, []⟩
  | c :: d :: s =>
    if c = q then
      if d = q then (quotedTail escapes q s).after [c, d] else ⟨[c], true, d :: s⟩
    else if escapes && c == '\\' then (quotedTail escapes q s).after [c, d]
    else (quotedTail escapes q (d :: s)).after [c]

/-- The quoted run at the front of a text. -/
def quotedRun? (rules : LexicalRules) : List Char → Option Lexeme
  | [] => none
  | q :: s => if isQuote q then some ((quotedTail (rules.escapesIn q) q s).after [q]) else none

/-! ## Comments -/

/-- The part of a block comment behind its opening `/*`: up to the first `*/`. -/
def blockTail : List Char → Lexeme
  | [] => ⟨[], false, []⟩
  | [c] => ⟨[c], false, []⟩
  | c :: d :: s =>
    if c = '*' ∧ d = '/' then ⟨[c, d], true, s⟩ else (blockTail (d :: s)).after [c]

/-- The part of a line comment behind its opening: up to the line end, which stays outside. -/
def lineTail (s : List Char) : Lexeme :=
  let rest := s.dropWhile fun c => !isLineEnd c
  ⟨s.takeWhile fun c => !isLineEnd c, !rest.isEmpty, rest⟩

/-- The comment at the front of a text: `/*`, `--`, or `#` where the rules have it. -/
def comment? (rules : LexicalRules) : List Char → Option Lexeme
  | c :: d :: s =>
    if c = '/' ∧ d = '*' then some ((blockTail s).after [c, d])
    else if c = '-' ∧ d = '-' then some ((lineTail s).after [c, d])
    else if c = '#' ∧ rules.hashComments then some ((lineTail (d :: s)).after [c])
    else none
  | [c] => if c = '#' ∧ rules.hashComments then some ⟨[c], false, []⟩ else none
  | [] => none

/-! ## Nothing is lost -/

@[simp] theorem Lexeme.text_after (front : List Char) (l : Lexeme) :
    (l.after front).text = front ++ l.text := rfl

@[simp] theorem Lexeme.closed_after (front : List Char) (l : Lexeme) :
    (l.after front).closed = l.closed := rfl

@[simp] theorem Lexeme.rest_after (front : List Char) (l : Lexeme) :
    (l.after front).rest = l.rest := rfl

theorem quotedTail_append (escapes : Bool) (q : Char) (s : List Char) :
    (quotedTail escapes q s).text ++ (quotedTail escapes q s).rest = s := by
  fun_induction quotedTail escapes q s <;> simp_all

theorem blockTail_append (s : List Char) : (blockTail s).text ++ (blockTail s).rest = s := by
  fun_induction blockTail s <;> simp_all

theorem lineTail_append (s : List Char) : (lineTail s).text ++ (lineTail s).rest = s :=
  List.takeWhile_append_dropWhile

theorem quotedRun?_append {rules : LexicalRules} {s : List Char} {l : Lexeme}
    (h : quotedRun? rules s = some l) : l.text ++ l.rest = s := by
  cases s with
  | nil => simp [quotedRun?] at h
  | cons q s =>
    simp only [quotedRun?, Option.ite_none_right_eq_some, Option.some.injEq] at h
    rw [← h.2]
    simp [quotedTail_append]

theorem quotedRun?_text_ne_nil {rules : LexicalRules} {s : List Char} {l : Lexeme}
    (h : quotedRun? rules s = some l) : l.text ≠ [] := by
  cases s with
  | nil => simp [quotedRun?] at h
  | cons q s =>
    simp only [quotedRun?, Option.ite_none_right_eq_some, Option.some.injEq] at h
    rw [← h.2]
    simp

theorem comment?_append {rules : LexicalRules} {s : List Char} {l : Lexeme}
    (h : comment? rules s = some l) : l.text ++ l.rest = s := by
  unfold comment? at h
  split at h
  · split at h
    · cases h; simp [blockTail_append]
    · split at h
      · cases h; simp [lineTail_append]
      · split at h
        · cases h; simp [lineTail_append]
        · cases h
  · split at h <;> cases h
    rfl
  · cases h

theorem comment?_text_ne_nil {rules : LexicalRules} {s : List Char} {l : Lexeme}
    (h : comment? rules s = some l) : l.text ≠ [] := by
  unfold comment? at h
  split at h
  · split at h
    · cases h; simp
    · split at h
      · cases h; simp
      · split at h
        · cases h; simp
        · cases h
  · split at h <;> cases h
    simp
  · cases h

/-! ## What follows is shorter -/

theorem length_rest_lt {text rest s : List Char} (h : text ++ rest = s) (ht : text ≠ []) :
    rest.length < s.length := by
  have := List.length_pos_iff.2 ht
  rw [← h, List.length_append]
  omega

theorem quotedRun?_length_lt {rules : LexicalRules} {s : List Char} {l : Lexeme}
    (h : quotedRun? rules s = some l) : l.rest.length < s.length :=
  length_rest_lt (quotedRun?_append h) (quotedRun?_text_ne_nil h)

theorem comment?_length_lt {rules : LexicalRules} {s : List Char} {l : Lexeme}
    (h : comment? rules s = some l) : l.rest.length < s.length :=
  length_rest_lt (comment?_append h) (comment?_text_ne_nil h)

end SqlTriage.Lexical

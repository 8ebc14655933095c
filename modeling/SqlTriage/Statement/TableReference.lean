import SqlTriage.Lexical.Lexeme
import SqlTriage.Text.Offset

/-!
# Table references

A table named in a statement, with the place of the name in the stripped text, so that another
name can be put there. The name is kept as written; `schema` and `table` are its parts without
identifier quotes.
-/

namespace SqlTriage

open SqlTriage.Text SqlTriage.Lexical

/-- A name as written and the range of bytes in which it stands in the stripped text. -/
structure TableReference where
  /-- The offset of the first byte. -/
  start : Nat
  /-- The number of bytes. -/
  length : Nat
  /-- The name with its qualification, quotes and case. -/
  name : String
deriving DecidableEq, Repr

/-- The reference to a name that stands at an offset. -/
def TableReference.ofName (start : Nat) (name : String) : TableReference :=
  ⟨start, byteLength name.toList, name⟩

@[simp]
theorem TableReference.start_ofName (start : Nat) (name : String) :
    (ofName start name).start = start :=
  rfl

@[simp]
theorem TableReference.length_ofName (start : Nat) (name : String) :
    (ofName start name).length = byteLength name.toList :=
  rfl

@[simp]
theorem TableReference.name_ofName (start : Nat) (name : String) :
    (ofName start name).name = name :=
  rfl

/-! ## Parts of a name -/

/-- Splits a name at its first dot outside quotes. A quote character opens a quoted part, and the
next character equal to it closes that part; `inside` is the quote that is open. -/
def splitAtDot : Option Char → List Char → Option (List Char × List Char)
  | _, [] => none
  | some q, c :: s =>
    (splitAtDot (if c = q then none else some q) s).map fun p => (c :: p.1, p.2)
  | none, c :: s =>
    if isQuote c then (splitAtDot (some c) s).map fun p => (c :: p.1, p.2)
    else if c = '.' then some ([], s)
    else (splitAtDot none s).map fun p => (c :: p.1, p.2)

/-- The text between two characters `q` at its ends. -/
def between? (q : Char) : List Char → Option (List Char)
  | [] => none
  | c :: s => if c = q ∧ s.getLast? = some q then some s.dropLast else none

/-- The name without one surrounding pair of backticks or else of quotation marks. -/
def unquoted (s : List Char) : List Char :=
  ((between? '\x60' s).or (between? '\x22' s)).getD s

namespace TableReference

/-- The offset behind the last byte. -/
def stop (r : TableReference) : Nat :=
  r.start + r.length

/-- The schema that owns the table, without quotes, if the name is qualified. -/
def schema (r : TableReference) : Option String :=
  (splitAtDot none r.name.toList).map fun p => String.ofList (unquoted p.1)

/-- The name of the table in its schema, without quotes. -/
def table (r : TableReference) : String :=
  match splitAtDot none r.name.toList with
  | some p => String.ofList (unquoted p.2)
  | none => String.ofList (unquoted r.name.toList)

/-- The reference as it is shown to people: the name and its range of bytes. -/
def summary (r : TableReference) : String :=
  r.name ++ " @ " ++ toString r.start ++ ".." ++ toString r.stop

end TableReference

end SqlTriage

import SqlTriage.Text.Quotation

/-!
# JSON

JSON values whose numbers are natural, and the compact text that stands for them: no space
between tokens, fields in the order given, and an escape only for the quotation mark, the
backslash and the control characters below U+0020.
-/

namespace SqlTriage

open SqlTriage.Text

/-- A JSON value. -/
inductive Json where
  | null
  | bool (b : Bool)
  | number (n : Nat)
  | string (s : String)
  | array (items : List Json)
  | object (fields : List (String × Json))

namespace Json

/-- The letter that stands behind a backslash for a character, for the characters that have
one. -/
def escapeLetter? (c : Char) : Option Char :=
  if c == '\x22' || c == '\\' then some c
  else if c == '\x08' then some 'b'
  else if c == '\x0c' then some 'f'
  else if c == '\n' then some 'n'
  else if c == '\r' then some 'r'
  else if c == '\t' then some 't'
  else none

/-- A character as it is written inside a JSON string. -/
def writeChar (c : Char) : List Char :=
  match escapeLetter? c with
  | some letter => ['\\', letter]
  | none =>
    if c.toNat < 0x10 then ['\\', 'u', '0', '0', '0'] ++ hexadecimal c.toNat
    else if c.toNat < 0x20 then ['\\', 'u', '0', '0'] ++ hexadecimal c.toNat
    else [c]

/-- A text as a JSON string. -/
def writeString (s : String) : List Char :=
  '\x22' :: (s.toList.flatMap writeChar ++ ['\x22'])

mutual

/-- The compact text of a value, as characters. -/
def write : Json → List Char
  | .null => ['n', 'u', 'l', 'l']
  | .bool true => ['t', 'r', 'u', 'e']
  | .bool false => ['f', 'a', 'l', 's', 'e']
  | .number n => Nat.toDigits 10 n
  | .string s => writeString s
  | .array items => '[' :: (writeItems items ++ [']'])
  | .object fields => '\x7b' :: (writeFields fields ++ ['\x7d'])

/-- The items of an array with commas between them. -/
def writeItems : List Json → List Char
  | [] => []
  | [v] => v.write
  | v :: w :: vs => v.write ++ ',' :: writeItems (w :: vs)

/-- The fields of an object with commas between them. -/
def writeFields : List (String × Json) → List Char
  | [] => []
  | [(k, v)] => writeString k ++ ':' :: v.write
  | (k, v) :: f :: fs => writeString k ++ ':' :: (v.write ++ ',' :: writeFields (f :: fs))

end

/-- The compact text of a value. -/
def compact (v : Json) : String :=
  String.ofList v.write

end Json

end SqlTriage

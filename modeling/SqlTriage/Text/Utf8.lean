import SqlTriage.Text.Quotation

/-!
# Byte strings

Arguments, environment variables and files are byte strings, which are texts only if they are
valid UTF-8. `fragments` cuts a byte string into characters and the longest runs of bytes that
begin a character without finishing it; decoding, lossy display and quoted display are read off
that list.
-/

namespace SqlTriage.Text

/-- A byte string. -/
abbrev Bytes := List UInt8

/-- A fragment of a byte string. -/
inductive Fragment where
  /-- The bytes of a character. -/
  | char (c : Char)
  /-- Bytes that form no character. -/
  | invalid (bytes : Bytes)
deriving DecidableEq, Repr

/-- What the first byte of a character says about the others. -/
structure Lead where
  /-- How many bytes follow. -/
  count : Nat
  /-- The least value of the next byte. -/
  low : Nat
  /-- The greatest value of the next byte. -/
  high : Nat
  /-- The bits of the code point that the first byte carries. -/
  bits : Nat

/-- Reads the first byte of a character. The bounds on the second byte exclude overlong forms,
surrogates and code points above U+10FFFF. -/
def lead? (b : Nat) : Option Lead :=
  if b < 0x80 then some ⟨0, 0x80, 0xBF, b⟩
  else if b < 0xC2 then none
  else if b < 0xE0 then some ⟨1, 0x80, 0xBF, b - 0xC0⟩
  else if b = 0xE0 then some ⟨2, 0xA0, 0xBF, 0⟩
  else if b = 0xED then some ⟨2, 0x80, 0x9F, 0xD⟩
  else if b < 0xF0 then some ⟨2, 0x80, 0xBF, b - 0xE0⟩
  else if b = 0xF0 then some ⟨3, 0x90, 0xBF, 0⟩
  else if b < 0xF4 then some ⟨3, 0x80, 0xBF, b - 0xF0⟩
  else if b = 0xF4 then some ⟨3, 0x80, 0x8F, 4⟩
  else none

/-- Reads `count` continuation bytes onto the bits of a code point, the first of them within the
given bounds. The result is the bytes read, the code point if all were there, and the rest. -/
def continuation : (count low high bits : Nat) → Bytes → Bytes × Option Nat × Bytes
  | 0, _, _, bits, s => ([], some bits, s)
  | _ + 1, _, _, _, [] => ([], none, [])
  | count + 1, low, high, bits, b :: s =>
    if low ≤ b.toNat ∧ b.toNat ≤ high then
      let more := continuation count 0x80 0xBF (bits * 0x40 + b.toNat % 0x40) s
      (b :: more.1, more.2)
    else ([], none, b :: s)

theorem continuation_append (count low high bits : Nat) (s : Bytes) :
    (continuation count low high bits s).1 ++ (continuation count low high bits s).2.2 = s := by
  fun_induction continuation count low high bits s with
  | case1 => rfl
  | case2 => rfl
  | case3 count low high bits b s hb more ih => exact congrArg (b :: ·) ih
  | case4 => rfl

/-- Cuts a byte string into fragments. -/
def fragments (s : Bytes) : List Fragment :=
  match s with
  | [] => []
  | b :: t =>
    match lead? b.toNat with
    | none => .invalid [b] :: fragments t
    | some lead =>
      let read := continuation lead.count lead.low lead.high lead.bits t
      match read.2.1 with
      | some code => .char (Char.ofNat code) :: fragments read.2.2
      | none => .invalid (b :: read.1) :: fragments read.2.2
termination_by s.length
decreasing_by
  all_goals
    first
    | exact Nat.lt_succ_self _
    | have := congrArg List.length
        (continuation_append lead.count lead.low lead.high lead.bits t)
      simp only [List.length_append] at this
      simp only [List.length_cons]
      omega

/-- The character of a fragment, if it is one. -/
def Fragment.char? : Fragment → Option Char
  | .char c => some c
  | .invalid _ => none

/-- The text that a byte string encodes, if it is valid. -/
def decode? (s : Bytes) : Option String :=
  ((fragments s).mapM Fragment.char?).map String.ofList

/-- The text of a byte string with U+FFFD in place of each invalid fragment. -/
def decodeLossy (s : Bytes) : String :=
  String.ofList ((fragments s).map fun f => f.char?.getD '\uFFFD')

/-- A byte as it is shown between quotation marks: its two hexadecimal digits in upper case. -/
def shownByte (b : UInt8) : List Char :=
  ['\\', 'x'] ++ (if b.toNat < 0x10 then ['0'] else []) ++
    (hexadecimal b.toNat).map Char.toUpper

/-- A fragment as it is shown between quotation marks. Here the apostrophe is escaped too. -/
def Fragment.shown : Fragment → List Char
  | .char c => if c == '\x27' then ['\\', c] else shownChar c
  | .invalid bytes => bytes.flatMap shownByte

/-- A byte string between quotation marks. -/
def shownBytes (s : Bytes) : String :=
  String.ofList ('\x22' :: (fragments s).flatMap Fragment.shown ++ ['\x22'])

end SqlTriage.Text

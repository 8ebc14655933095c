import SqlTriage.Text.Utf8

/-!
# Sources of text

Files and standard input are read whole and must hold text. Where the system cannot read one, its
own words say why.
-/

namespace SqlTriage

open SqlTriage.Text

/-- What the system gives of a file or a stream: its bytes, or why there are none. -/
abbrev Content := Except String Bytes

/-- Why a source gives no text. -/
inductive ReadFault where
  /-- The system gives no bytes, for the given reason. -/
  | system (reason : String)
  /-- The bytes are not valid UTF-8. -/
  | notText
deriving DecidableEq, Repr

/-- The message that reports a read fault. -/
def ReadFault.message : ReadFault → String
  | .system reason => reason
  | .notText => "stream did not contain valid UTF-8"

/-- The text that a source holds. -/
def readText (content : Content) : Except ReadFault String :=
  match content with
  | .error reason => .error (.system reason)
  | .ok bytes =>
    match decode? bytes with
    | some text => .ok text
    | none => .error .notText

end SqlTriage

import SqlTriage.Program
import SqlTriage.Executable.Yaml.Document

/-!
# Settings from a document

A settings document is a mapping from the names of settings to their values. A setting that is
not named keeps its default, names that are no settings are passed over, and a setting must not be
named twice. An empty document gives the defaults.
-/

namespace SqlTriage.Executable

open SqlTriage.Text SqlTriage.Executable.Yaml

/-! ## Values -/

/-- The truth value of a scalar. It is plain, or a literal block that is tagged as a truth value. -/
def Yaml.Scalar.boolean? (s : Scalar) : Option Bool :=
  if s.style = .plain ∨ (s.style = .literal ∧ s.tag = some booleanTag) then
    if ["true", "True", "TRUE"].contains s.value then some true
    else if ["false", "False", "FALSE"].contains s.value then some false
    else none
  else none

/-- The name that a tag of the document itself gives: a tag that begins with an exclamation mark,
without that mark unless it is all of the tag. -/
def localName? : Bytes → Option String
  | 0x21 :: [] => some "!"
  | 0x21 :: name => decode? name
  | _ => none

/-- Whether a scalar says that there is no value. -/
def Yaml.Scalar.isNull (s : Scalar) : Bool :=
  s.style == .plain && ["", "~", "null", "Null", "NULL"].contains s.value

/-- The name of a choice. It is the value of a scalar, or a tag of the document itself on a scalar
that says that there is no value. -/
def Yaml.Scalar.choice? (s : Scalar) : Option String :=
  match s.tag.bind localName? with
  | some name => if s.isNull then some name else none
  | none => some s.value

/-! ## Settings -/

/-- The value of a setting in the entries of a document, or the default if it is not named. -/
def settingIn {α : Type} (entries : List (String × Option Scalar)) (name : String) (default : α)
    (value? : Scalar → Option α) : Option α :=
  match entries.filter fun e => e.1 == name with
  | [] => some default
  | [e] => e.2.bind value?
  | _ => none

/-- The settings that entries give. -/
def settingsOfEntries? (entries : List (String × Option Scalar)) : Option Settings := do
  let defaults : Settings := {}
  let dialect ← settingIn entries "dialect" defaults.dialect fun s =>
    s.choice?.bind Dialect.ofDocumentName?
  let format ← settingIn entries "output_format" defaults.format fun s =>
    s.choice?.bind OutputFormat.ofDocumentName?
  let delimiter ← settingIn entries "delimiter" defaults.delimiter fun s => some s.value
  let failFast ← settingIn entries "fail_fast" defaults.failFast Scalar.boolean?
  return { dialect, format, delimiter, failFast }

/-- The settings that a node gives in a document with the given root. -/
def settingsOfNode? (root : Node) : Node → Option Settings
  | .scalar s => if s.style = .plain ∧ s.value = "" then some {} else none
  | .mapping entries => do
    let entries ← entries.mapM fun e =>
      (e.1.scalarIn? root).map fun name => (name.value, e.2.scalarIn? root)
    settingsOfEntries? entries
  | .anchored _ node => settingsOfNode? root node
  | .sequence _ | .alias _ => none

/-- The settings that the text of a document gives. -/
def readDocument (content : String) : Except String Settings :=
  match (Yaml.read? content).bind fun root => settingsOfNode? root root with
  | some s => .ok s
  | none => .error "no settings document"

/-! ## Faults -/

/-- A fault of a delimiter: its message, or its code with the delimiter. -/
def shownFault (delimiter : String) (fault : DelimiterFault) : String :=
  fault.message?.getD
    ("Validation error: " ++ fault.code ++
      " [\x7b\"value\": String(" ++ shown delimiter ++ ")\x7d]")

/-- The libraries with which the program is built. -/
def libraries : Libraries where
  readDocument := readDocument
  showFaults delimiter faults :=
    "delimiter: " ++ ", ".intercalate (faults.map (shownFault delimiter))

end SqlTriage.Executable

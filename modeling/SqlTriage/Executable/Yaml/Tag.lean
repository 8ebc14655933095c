import SqlTriage.Text.Utf8
import SqlTriage.Executable.Yaml.Scalar

/-!
# Tags and directives

A tag names the type of a node. It is written in full, or as a handle and a suffix; directives at
the head of a document say what its handles stand for. Octets of a tag may be written as
hexadecimal digits behind a percent sign.
-/

namespace SqlTriage.Executable.Yaml

open SqlTriage.Text

/-- A tag as it is written. -/
structure TagName where
  /-- The handle, which is empty if the tag is written in full. -/
  handle : String
  /-- The part behind the handle. -/
  suffix : Bytes
deriving DecidableEq, Repr

/-- The handles and what they stand for. -/
abbrev Handles := List (String × Bytes)

/-- The tag that consists of an exclamation mark. -/
def loneTag : Bytes := "!".toUTF8.toList

/-- The handles that need no directive. -/
def standardHandles : Handles :=
  [("!", loneTag), ("!!", "tag:yaml.org,2002:".toUTF8.toList)]

/-- The tag of truth values. -/
def booleanTag : Bytes := "tag:yaml.org,2002:bool".toUTF8.toList

/-- The tag that a name stands for. -/
def TagName.resolve? (handles : Handles) (name : TagName) : Option Bytes :=
  if name.handle.isEmpty then some name.suffix
  else (handles.lookup name.handle).map (· ++ name.suffix)

/-! ## Reading tags -/

/-- The signs that a tag may hold behind its handle. -/
def tagSigns : List Char :=
  [';', '/', '?', ':', '@', '&', '=', '+', '$', '.', '%', '!', '~', '*', '\x27', '(', ')']

/-- Whether a tag may hold the character behind its handle. A tag in full may hold some more. -/
def isTagCharacter (full : Bool) (c : Char) : Bool :=
  isWordCharacter c || tagSigns.contains c || (full && [',', '[', ']'].contains c)

/-- How many octets follow the first octet of a character. -/
def octetsAfter? (octet : Nat) : Option Nat :=
  if octet < 0x80 then some 0
  else if octet < 0xC0 then none
  else if octet < 0xE0 then some 1
  else if octet < 0xF0 then some 2
  else if octet < 0xF8 then some 3
  else none

/-- The octets that the characters of a tag stand for. Escaped octets come in groups of as many
as make a character; `pending` of them are still to come. -/
def tagOctets? (pending : Nat) : List Char → Option Bytes
  | [] => if pending = 0 then some [] else none
  | '%' :: a :: b :: s => do
    let octet ← hexNumber? [a, b]
    let pending ←
      if pending = 0 then octetsAfter? octet
      else if 0x80 ≤ octet ∧ octet < 0xC0 then some (pending - 1)
      else none
    return octet.toUInt8 :: (← tagOctets? pending s)
  | c :: s => do
    if c = '%' ∨ pending ≠ 0 then none
    return c.toNat.toUInt8 :: (← tagOctets? 0 s)

/-- The octets of a tag, which end before the first that is zero. -/
def tagText? (s : List Char) : Option Bytes :=
  (tagOctets? 0 s).map fun octets => octets.takeWhile (· != 0)

/-- Reads the characters of a tag, which are at least one. -/
def tagRun? (full : Bool) (p : Cursor) : Option (Bytes × Cursor) := do
  let run := p.run (isTagCharacter full)
  if run.isEmpty then none
  return (← tagText? run, p.skip run.length)

/-- Reads a tag behind its exclamation mark. A lone exclamation mark is a tag of its own. -/
def tagName? (p : Cursor) : Option (TagName × Cursor) := do
  if p.isAt '<' then
    let (suffix, q) ← tagRun? true p.next
    if q.isAt '>' then some (⟨"", suffix⟩, q.next) else none
  else
    let word := p.run isWordCharacter
    let q := p.skip word.length
    if q.isAt '!' then
      let (suffix, q) ← tagRun? false q.next
      return (⟨String.ofList ('!' :: word ++ ['!']), suffix⟩, q)
    else
      let run := p.run (isTagCharacter false)
      let suffix ← tagText? run
      let name : TagName := if suffix.isEmpty then ⟨"", loneTag⟩ else ⟨"!", suffix⟩
      return (name, p.skip run.length)

/-! ## Directives -/

/-- A directive of a document. -/
inductive Directive where
  /-- The version of the language. -/
  | version
  /-- What a handle stands for. -/
  | handle (name : String) (expansion : Bytes)
deriving DecidableEq, Repr

/-- Reads a number of at most nine digits. -/
def versionNumber? (p : Cursor) : Option (Nat × Cursor) :=
  let digits := p.run Char.isDigit
  if 1 ≤ digits.length ∧ digits.length ≤ 9 then
    some (digits.foldl (fun n d => n * 10 + (d.toNat - 48)) 0, p.skip digits.length)
  else none

/-- Reads the version behind the name of its directive. -/
def versionDirective? (p : Cursor) : Option (Directive × Cursor) := do
  let (major, p) ← versionNumber? (p.passing isGap)
  if p.isAt '.' then
    let (minor, p) ← versionNumber? p.next
    if major = 1 ∧ (minor = 1 ∨ minor = 2) then some (.version, p) else none
  else none

/-- Reads a handle and what it stands for behind the name of their directive. -/
def handleDirective? (p : Cursor) : Option (Directive × Cursor) := do
  let p := p.passing isGap
  if p.isAt '!' then
    let word := p.next.run isWordCharacter
    let q := p.next.skip word.length
    let closed := q.isAt '!'
    let q := if closed then q.next else q
    if (closed || word.isEmpty) && q.has isGap then
      let handle := String.ofList ('!' :: word ++ if closed then ['!'] else [])
      let (expansion, q) ← tagRun? true (q.passing isGap)
      if atSpace q.rest then some (.handle handle expansion, q) else none
    else none
  else none

/-- Reads a directive behind its percent sign, with the rest of its line. -/
def directive? (p : Cursor) : Option (Directive × Cursor) := do
  let name := p.run isWordCharacter
  let q := p.skip name.length
  if atSpace q.rest then
    let (d, q) ←
      if name = ['Y', 'A', 'M', 'L'] then versionDirective? q
      else if name = ['T', 'A', 'G'] then handleDirective? q
      else none
    return (d, ← q.lineEnd?)
  else none

/-- The handles of a document, given its directives. No directive may be repeated. -/
def handlesOf? (directives : List Directive) : Option Handles :=
  let versions := directives.filter (· == .version)
  let given := directives.filterMap fun
    | .handle name expansion => some (name, expansion)
    | .version => none
  if versions.length ≤ 1 ∧ (given.map Prod.fst).Nodup then some (given ++ standardHandles)
  else none

end SqlTriage.Executable.Yaml

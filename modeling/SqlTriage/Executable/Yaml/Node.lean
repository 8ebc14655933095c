import SqlTriage.Executable.Yaml.Token

/-!
# Nodes of a YAML document

Building scalars, sequences and mappings from tokens. A node may be anchored and referred to
later; anchors and references carry a number in place of the name.
-/

namespace SqlTriage.Executable.Yaml

open SqlTriage.Text

/-- A scalar of a document. -/
structure Scalar where
  /-- Its text, unfolded and unescaped. -/
  value : String
  /-- How it is written. -/
  style : Style
  /-- Its tag. -/
  tag : Option Bytes := none
deriving DecidableEq, Repr

/-- A node of a document. -/
inductive Node where
  | scalar (s : Scalar)
  | sequence (items : List Node)
  | mapping (entries : List (Node × Node))
  /-- A node with an anchor. -/
  | anchored (anchor : Nat) (node : Node)
  /-- A reference to a node with an anchor. -/
  | alias (anchor : Nat)

/-- The node that stands where nothing is written. -/
def Node.empty : Node := .scalar { value := "", style := .plain }

/-! ## Anchors -/

mutual

/-- The anchored nodes in a node with their anchors, an outer one before those in it. -/
def Node.anchors : Node → List (Nat × Node)
  | .scalar _ => []
  | .sequence items => anchorsOfItems items
  | .mapping entries => anchorsOfEntries entries
  | .anchored anchor node => (anchor, node) :: node.anchors
  | .alias _ => []

/-- The anchored nodes in the items of a sequence. -/
def anchorsOfItems : List Node → List (Nat × Node)
  | [] => []
  | n :: items => n.anchors ++ anchorsOfItems items

/-- The anchored nodes in the entries of a mapping. -/
def anchorsOfEntries : List (Node × Node) → List (Nat × Node)
  | [] => []
  | (key, value) :: entries => key.anchors ++ value.anchors ++ anchorsOfEntries entries

end

/-- The node that an anchor marks in a document with the given root. If it marks several, the
last of them counts, wherever the reference stands. -/
def Node.anchoredIn (root : Node) (anchor : Nat) : Option Node :=
  (root.anchors.filter fun a => a.1 == anchor).getLast?.map Prod.snd

/-- The scalar that a node is or refers to in a document with the given root. -/
def Node.scalarIn? (n root : Node) : Option Scalar :=
  match n with
  | .scalar s => some s
  | .anchored _ (.scalar s) => some s
  | .alias anchor =>
    match root.anchoredIn anchor with
    | some (.scalar s) => some s
    | _ => none
  | _ => none

/-! ## Properties -/

/-- What is left of the tokens of a document. -/
structure Remainder where
  tokens : List Token
  /-- The names of anchors so far and their numbers. -/
  anchors : List (String × Nat) := []

/-- Names the next anchor. Its number is the number of names before it, so that a name that is
used again may share its number with the next one. -/
def Remainder.withAnchor (r : Remainder) (name : String) : Nat × Remainder :=
  let number := r.anchors.length
  (number, { r with anchors := (name, number) :: r.anchors.filter fun a => a.1 != name })

/-- What is written in front of the content of a node. -/
structure Properties where
  anchor : Option Nat := none
  tag : Option Bytes := none

/-- Reads an anchor if one comes next. -/
def Remainder.anchor (r : Remainder) : Option Nat × Remainder :=
  match r.tokens with
  | .anchor name :: ts =>
    let (number, r) := { r with tokens := ts }.withAnchor name
    (some number, r)
  | _ => (none, r)

/-- Reads a tag if one comes next. -/
def Remainder.tag? (handles : Handles) (r : Remainder) : Option (Option Bytes × Remainder) :=
  match r.tokens with
  | .tag name :: ts => (name.resolve? handles).map fun tag => (some tag, { r with tokens := ts })
  | _ => some (none, r)

/-- Reads the properties of a node. The anchor and the tag may come in either order. -/
def Remainder.properties? (handles : Handles) (r : Remainder) :
    Option (Properties × Remainder) := do
  let (anchor, r) := r.anchor
  let (tag, r) ← r.tag? handles
  if anchor.isSome then return (⟨anchor, tag⟩, r)
  else if tag.isSome then
    let (anchor, r) := r.anchor
    return (⟨anchor, tag⟩, r)
  else return ({}, r)

/-- A scalar with the given properties. -/
def Properties.scalar (p : Properties) (value : String) (style : Style) : Node :=
  .scalar { value, style, tag := p.tag }

/-- The node that consists of properties only. -/
def Properties.bare? (p : Properties) (r : Remainder) : Option (Node × Remainder) :=
  if p.anchor.isSome || p.tag.isSome then
    some (p.scalar "" .plain, r)
  else none

/-! ## Collections -/

/-- Where a node stands. -/
inductive Place where
  /-- In a flow collection. -/
  | flow
  /-- At the root or in a block sequence. -/
  | block
  /-- In a block mapping, where a sequence need not be indented. -/
  | entry
deriving DecidableEq, Repr

/-- Whether one of the tokens comes next. -/
def Remainder.startsWith (r : Remainder) (tokens : List Token) : Bool :=
  r.tokens.head?.any tokens.contains

/-- What is left behind the next token. -/
def Remainder.tail (r : Remainder) : Remainder := { r with tokens := r.tokens.tail }

/-!
The functions below take fuel, which bounds how deep they call each other. No more than four
calls pass before a token is read.
-/

mutual

/-- Reads a node. -/
def node (handles : Handles) : Nat → Place → Remainder → Option (Node × Remainder)
  | 0, _, _ => none
  | fuel + 1, place, r =>
    match r.tokens with
    | .alias name :: _ => (r.anchors.lookup name).map fun number => (.alias number, r.tail)
    | _ => do
      let (p, r) ← r.properties? handles
      let (n, r) ← content handles fuel place p r
      return (p.anchor.elim n (.anchored · n), r)

/-- Reads a node unless one of the tokens comes next, before which it is empty. -/
def nodeUnless (handles : Handles) (stops : List Token) :
    Nat → Place → Remainder → Option (Node × Remainder)
  | 0, _, _ => none
  | fuel + 1, place, r =>
    if r.startsWith stops then some (.empty, r) else node handles fuel place r

/-- Reads the content of a node behind its properties. -/
def content (handles : Handles) :
    Nat → Place → Properties → Remainder → Option (Node × Remainder)
  | 0, _, _, _ => none
  | fuel + 1, place, p, r =>
    match place, r.tokens with
    | .entry, .dash :: _ => dashedItems handles fuel [] r
    | _, .scalar value style :: _ => some (p.scalar value style, r.tail)
    | _, .openBracket :: _ => flowItems handles fuel true [] r.tail
    | _, .openBrace :: _ => flowEntries handles fuel true [] r.tail
    | .flow, _ => p.bare? r
    | _, .blockSequence :: _ => blockItems handles fuel [] r.tail
    | _, .blockMapping :: _ => blockEntries handles fuel [] r.tail
    | _, _ => p.bare? r

/-- Reads the items of a block sequence. -/
def blockItems (handles : Handles) : Nat → List Node → Remainder → Option (Node × Remainder)
  | 0, _, _ => none
  | fuel + 1, items, r =>
    match r.tokens with
    | .blockEnd :: _ => some (.sequence items.reverse, r.tail)
    | .dash :: _ => do
      let (item, r) ← nodeUnless handles [.dash, .blockEnd] fuel .block r.tail
      blockItems handles fuel (item :: items) r
    | _ => none

/-- Reads the items of a sequence that is not indented. It ends where no dash comes next. -/
def dashedItems (handles : Handles) : Nat → List Node → Remainder → Option (Node × Remainder)
  | 0, _, _ => none
  | fuel + 1, items, r =>
    match r.tokens with
    | .dash :: _ => do
      let (item, r) ← nodeUnless handles [.dash, .key, .colon, .blockEnd] fuel .block r.tail
      dashedItems handles fuel (item :: items) r
    | _ => some (.sequence items.reverse, r)

/-- Reads the entries of a block mapping. -/
def blockEntries (handles : Handles) :
    Nat → List (Node × Node) → Remainder → Option (Node × Remainder)
  | 0, _, _ => none
  | fuel + 1, entries, r =>
    match r.tokens with
    | .blockEnd :: _ => some (.mapping entries.reverse, r.tail)
    | .key :: _ => do
      let (key, r) ← nodeUnless handles [.key, .colon, .blockEnd] fuel .entry r.tail
      let (value, r) ← valueUnless handles [.key, .colon, .blockEnd] fuel .entry r
      blockEntries handles fuel ((key, value) :: entries) r
    | _ => none

/-- Reads the value of an entry, which is empty where no colon comes next and where one of the
tokens comes behind the colon. -/
def valueUnless (handles : Handles) (stops : List Token) :
    Nat → Place → Remainder → Option (Node × Remainder)
  | 0, _, _ => none
  | fuel + 1, place, r =>
    if r.startsWith [.colon] then nodeUnless handles stops fuel place r.tail else some (.empty, r)

/-- Reads the items of a flow sequence; `first` says that none has come yet. A comma may stand
behind the last item. An item may be a single entry of a mapping. -/
def flowItems (handles : Handles) :
    Nat → Bool → List Node → Remainder → Option (Node × Remainder)
  | 0, _, _, _ => none
  | fuel + 1, first, items, r =>
    if r.startsWith [.closeBracket] then some (.sequence items.reverse, r.tail)
    else if first || r.startsWith [.comma] then do
      let r := if first then r else r.tail
      if r.startsWith [.closeBracket] then return (.sequence items.reverse, r.tail)
      let (item, r) ←
        if r.startsWith [.key] then singleEntry handles fuel r.tail else node handles fuel .flow r
      flowItems handles fuel false (item :: items) r
    else none

/-- Reads an entry that is an item of a flow sequence. If its key is missing, the token that
comes instead is passed over. -/
def singleEntry (handles : Handles) : Nat → Remainder → Option (Node × Remainder)
  | 0, _ => none
  | fuel + 1, r => do
    let (key, r) ←
      if r.startsWith [.colon, .comma, .closeBracket] then some (Node.empty, r.tail)
      else node handles fuel .flow r
    let (value, r) ← valueUnless handles [.comma, .closeBracket] fuel .flow r
    return (.mapping [(key, value)], r)

/-- Reads the entries of a flow mapping; `first` says that none has come yet. A comma may stand
behind the last entry. A key that does not show to be one has an empty value. -/
def flowEntries (handles : Handles) :
    Nat → Bool → List (Node × Node) → Remainder → Option (Node × Remainder)
  | 0, _, _, _ => none
  | fuel + 1, first, entries, r =>
    if r.startsWith [.closeBrace] then some (.mapping entries.reverse, r.tail)
    else if first || r.startsWith [.comma] then do
      let r := if first then r else r.tail
      if r.startsWith [.closeBrace] then return (.mapping entries.reverse, r.tail)
      let (entry, r) ←
        if r.startsWith [.key] then do
          let (key, r) ← nodeUnless handles [.colon, .comma, .closeBrace] fuel .flow r.tail
          let (value, r) ← valueUnless handles [.comma, .closeBrace] fuel .flow r
          some ((key, value), r)
        else (node handles fuel .flow r).map fun n => ((n.1, Node.empty), n.2)
      flowEntries handles fuel false (entry :: entries) r
    else none

end

end SqlTriage.Executable.Yaml

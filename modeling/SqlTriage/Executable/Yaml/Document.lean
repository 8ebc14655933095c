import SqlTriage.Executable.Yaml.Node

/-!
# YAML documents

Reading a text that holds one document. The document may be introduced by directives and a
marker, and markers of its end may follow it. An empty text is a document with an empty root.
-/

namespace SqlTriage.Executable.Yaml

/-- The directives at the head of a document and the tokens behind them. -/
def directivesOf : List Token → List Directive × List Token
  | .directive d :: ts =>
    let more := directivesOf ts
    (d :: more.1, more.2)
  | ts => ([], ts)

/-- Whether the content of a document cannot begin with the token. -/
def Token.endsDocument : Token → Bool
  | .directive _ | .documentStart | .documentEnd => true
  | _ => false

/-- The root of a document, given its tokens, and the tokens behind it. Directives have to be
followed by a marker. -/
def rootOf? (tokens : List Token) : Option (Node × List Token) := do
  let fuel := 4 * tokens.length + 4
  let (directives, ts) := directivesOf tokens
  let handles ← handlesOf? directives
  match ts with
  | .documentStart :: ts =>
    if ts.isEmpty || ts.head?.any Token.endsDocument then return (.empty, ts)
    let (root, r) ← node handles fuel .block { tokens := ts }
    return (root, r.tokens)
  | _ =>
    if !directives.isEmpty then none
    else if tokens.isEmpty then return (.empty, [])
    else
      let (root, r) ← node handles fuel .block { tokens }
      return (root, r.tokens)

/-- Reads a text that holds one document. The result is its root. -/
def read? (text : String) : Option Node := do
  let (root, behind) ← rootOf? (← tokensOf? text)
  if behind.all (· == .documentEnd) then some root else none

end SqlTriage.Executable.Yaml

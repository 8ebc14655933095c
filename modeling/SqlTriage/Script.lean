import SqlTriage.Lexical.Stripped

/-!
# Scripts

A script holds statements with a delimiter between them. The delimiter counts at top level only:
inside comments and quoted runs it is text. `pieces` cuts a script without losing a character
(`cut_append`); the statements are the trimmed pieces that hold more than comments and blanks.
-/

namespace SqlTriage.Script

open SqlTriage.Text SqlTriage.Lexical

/-- Cuts a text at each delimiter that stands at top level: the first piece, then the others.
Where a delimiter begins it is taken before a comment or a quoted run that begins there too, and
an empty delimiter never cuts. -/
def cut (rules : LexicalRules) (delimiter : List Char) (s : List Char) :
    List Char × List (List Char) :=
  match s with
  | [] => ([], [])
  | c :: t =>
    if _ : delimiter ≠ [] ∧ delimiter.isPrefixOf (c :: t) then
      let more := cut rules delimiter ((c :: t).drop delimiter.length)
      ([], more.1 :: more.2)
    else
      match _ : comment? rules (c :: t) with
      | some l =>
        let more := cut rules delimiter l.rest
        (l.text ++ more.1, more.2)
      | none =>
        match _ : quotedRun? rules (c :: t) with
        | some l =>
          let more := cut rules delimiter l.rest
          (l.text ++ more.1, more.2)
        | none =>
          let more := cut rules delimiter t
          (c :: more.1, more.2)
termination_by s.length
decreasing_by
  · rename_i hd
    have := List.length_pos_iff.2 hd.1
    simp only [List.length_drop, List.length_cons]
    omega
  · exact comment?_length_lt ‹_›
  · exact quotedRun?_length_lt ‹_›
  · exact Nat.lt_succ_self _

/-- The pieces with the delimiter between them are the text. -/
theorem cut_append (rules : LexicalRules) (delimiter s : List Char) :
    (cut rules delimiter s).1 ++ (cut rules delimiter s).2.flatMap (delimiter ++ ·) = s := by
  fun_induction cut rules delimiter s with
  | case1 => rfl
  | case2 c t hd more ih =>
    rw [List.nil_append, List.flatMap_cons, List.append_assoc, ih]
    exact List.prefix_iff_eq_append.1 (List.isPrefixOf_iff_prefix.1 hd.2)
  | case3 c t hd l hc more ih => rw [List.append_assoc, ih, comment?_append hc]
  | case4 c t hd hc l hq more ih => rw [List.append_assoc, ih, quotedRun?_append hq]
  | case5 c t hd hc hq more ih => rw [List.cons_append, ih]

/-- The pieces of a script, in order and untrimmed. -/
def pieces (rules : LexicalRules) (delimiter : List Char) (s : List Char) : List (List Char) :=
  let p := cut rules delimiter s
  p.1 :: p.2

/-- Whether a piece holds a statement: something is left of it when comments are stripped. -/
def holdsStatement (rules : LexicalRules) (piece : List Char) : Bool :=
  !(strip rules piece).isEmpty

/-- The statements of a script, each without white space at its ends. -/
def statements (rules : LexicalRules) (delimiter script : String) : List String :=
  (((pieces rules delimiter.toList script.toList).map (trim isSpace)).filter
    (holdsStatement rules)).map String.ofList

end SqlTriage.Script

import Mathlib
import SqlTriage.Proofs.Classify.Splice
import SqlTriage.Proofs.Lexical.QuotedRun
import SqlTriage.Proofs.Statement.NameParts

/-!
# Quoted qualified names

A backtick between backticks is written twice, and then any text can stand there: such a run is read
to its closing backtick whatever it holds (`quotedRun?_doubled`).  Two of them around a dot are one
name (`isName_qualifiedName`).  As the table of a `SHOW CREATE TABLE` it comes back in its parts
(`classify_qualified`).
-/

namespace SqlTriage

open SqlTriage.Text SqlTriage.Lexical

/-! ## Doubled quotes -/

section Doubled

variable {rules : LexicalRules} {q : Char}

/-- The text with each `q` written twice. -/
def doubled (q : Char) (s : List Char) : List Char :=
  s.flatMap fun c => if c = q then [c, c] else [c]

theorem doubled_cons_self (q : Char) (s : List Char) :
    doubled q (q :: s) = q :: q :: doubled q s := by
  simp [doubled]

theorem doubled_cons {c : Char} (hc : c ≠ q) (s : List Char) :
    doubled q (c :: s) = c :: doubled q s := by
  simp [doubled, hc]

theorem quotedTail_doubled (s : List Char) {v : List Char} (hv : v.head? ≠ some q) :
    quotedTail false q (doubled q s ++ q :: v) = ⟨doubled q s ++ [q], true, v⟩ := by
  induction s with
  | nil => exact quotedTail_closing hv
  | cons c s ih =>
    by_cases hc : c = q
    · subst hc
      rw [doubled_cons_self, List.cons_append, List.cons_append, quotedTail, if_pos rfl, if_pos rfl,
        ih]
      rfl
    · rw [doubled_cons hc, List.cons_append, quotedTail_cons hc (Bool.false_and _), ih]
      rfl

/-- Where no backslash escapes, any text can be quoted. -/
theorem quotedRun?_doubled (hq : isQuote q = true) (he : rules.escapesIn q = false) (s : List Char)
    {v : List Char} (hv : v.head? ≠ some q) :
    quotedRun? rules (inQuotes q (doubled q s) ++ v) =
      some ⟨inQuotes q (doubled q s), true, v⟩ := by
  have htext : inQuotes q (doubled q s) ++ v = q :: (doubled q s ++ q :: v) := by simp [inQuotes]
  rw [htext, quotedRun?, if_pos hq, he, quotedTail_doubled s hv]
  rfl

/-- Two quoted texts around a dot are two runs. -/
theorem scan_doubled_dot (hq : isQuote q = true) (he : rules.escapesIn q = false)
    (s t : List Char) :
    scan rules (inQuotes q (doubled q s) ++ '.' :: inQuotes q (doubled q t)) =
      [.quoted (inQuotes q (doubled q s)) true, .plain '.',
        .quoted (inQuotes q (doubled q t)) true] := by
  have hdot : '.' ≠ q := by
    rintro rfl
    exact absurd hq (by decide)
  have hplain : opensComment rules '.' (inQuotes q (doubled q t)).head? = false :=
    opensComment_eq_false (by decide) (by decide) (by decide) _
  have hlast := quotedRun?_doubled hq he t (v := []) (by simp)
  rw [List.append_nil] at hlast
  rw [scan_quoted (quotedRun?_doubled hq he s (by simpa using hdot)), scan_plain hplain (by decide),
    scan_quoted hlast, scan_nil]

end Doubled

/-! ## Qualified names -/

/-- The text with each backtick written twice. -/
def backticksDoubled (s : String) : String :=
  String.ofList (doubled '\x60' s.toList)

/-- The two texts between backticks, with a dot between them. -/
def qualifiedName (s t : String) : String :=
  "`" ++ backticksDoubled s ++ "`.`" ++ backticksDoubled t ++ "`"

theorem toList_qualifiedName (s t : String) :
    (qualifiedName s t).toList =
      inQuotes '\x60' (doubled '\x60' s.toList) ++
        '.' :: inQuotes '\x60' (doubled '\x60' t.toList) := by
  simp [qualifiedName, backticksDoubled, inQuotes]

theorem scan_qualifiedName (rules : LexicalRules) (s t : String) :
    scan rules (qualifiedName s t).toList =
      [.quoted (inQuotes '\x60' (doubled '\x60' s.toList)) true, .plain '.',
        .quoted (inQuotes '\x60' (doubled '\x60' t.toList)) true] := by
  rw [toList_qualifiedName]
  exact scan_doubled_dot (by decide) (escapesIn_backtick rules) _ _

/-- It is one name under all rules. -/
theorem isName_qualifiedName (rules : LexicalRules) (s t : String) :
    IsName rules (qualifiedName s t) := by
  have hscan := scan_qualifiedName rules s t
  have hlist := toList_qualifiedName s t
  have hparts : ∀ g ∈ scan rules (qualifiedName s t).toList,
      g.isComment = false ∧ g.inWord = true := by
    intro g hg
    rw [hscan] at hg
    simp only [List.mem_cons, List.not_mem_nil, or_false] at hg
    rcases hg with rfl | rfl | rfl
    · exact ⟨rfl, rfl⟩
    · exact ⟨rfl, by decide⟩
    · exact ⟨rfl, rfl⟩
  have hcom : IsUncommented rules (qualifiedName s t).toList := fun g hg => (hparts g hg).1
  have hhead : (qualifiedName s t).toList.head? = some '\x60' := by
    rw [hlist]
    rfl
  have hlast : (qualifiedName s t).toList.getLast? = some '\x60' := by
    have hback : (qualifiedName s t).toList =
        (inQuotes '\x60' (doubled '\x60' s.toList) ++
          '.' :: '\x60' :: doubled '\x60' t.toList) ++ ['\x60'] := by
      rw [hlist]
      simp [inQuotes]
    rw [hback, List.getLast?_concat]
  refine ⟨?_, ?_, by rw [hhead]; decide, fun u => by rw [hscan]; simp⟩
  · rw [← String.toList_inj, toList_stripped, strip_eq_self_iff, hhead, hlast]
    exact ⟨hcom, by decide, by decide⟩
  · have hne : scan rules (qualifiedName s t).toList ≠ [] := by
      rw [hscan]
      exact List.cons_ne_nil _ _
    rw [LexicalRules.tokens, tokensFrom_eq hcom, tokensOf_run hne fun g hg => (hparts g hg).2,
      textOf_scan, String.ofList_toList]
    rfl

/-! ## Its parts -/

theorem unquoted_inQuotes (s : List Char) : unquoted (inQuotes '\x60' s) = s := by
  have hbetween : between? '\x60' (inQuotes '\x60' s) = some s := by
    simp [between?, inQuotes]
  rw [unquoted, hbetween]
  rfl

/-- The accessors give the two texts as they stand between the backticks. -/
theorem parts_qualifiedName (start : Nat) (s t : String) :
    (TableReference.ofName start (qualifiedName s t)).schema = some (backticksDoubled s) ∧
      (TableReference.ofName start (qualifiedName s t)).table = backticksDoubled t := by
  have hscan : scan {} (qualifiedName s t).toList =
      [.quoted (inQuotes '\x60' (doubled '\x60' s.toList)) true] ++
        .plain '.' :: [.quoted (inQuotes '\x60' (doubled '\x60' t.toList)) true] :=
    scan_qualifiedName {} s t
  have hsplit : splitAtDot none (qualifiedName s t).toList =
      some (inQuotes '\x60' (doubled '\x60' s.toList),
        inQuotes '\x60' (doubled '\x60' t.toList)) := by
    rw [splitAtDot_eq_splitName?, splitName?_of_scan hscan (by simp [Segment.isComment]) (by simp)]
    simp [Segment.text]
  constructor
  · rw [TableReference.schema, TableReference.name_ofName, hsplit, Option.map_some,
      unquoted_inQuotes]
    rfl
  · rw [TableReference.table, TableReference.name_ofName, hsplit]
    show String.ofList (unquoted (inQuotes '\x60' (doubled '\x60' t.toList))) = _
    rw [unquoted_inQuotes]
    rfl

/-! ## Its statement -/

namespace Dialect

/-- Any name behind the three words is the table of the statement. -/
theorem classify_showCreateTable {name : String} (hn : IsName mySql.lexicalRules name) :
    mySql.classify ("SHOW CREATE TABLE " ++ name) = .ok (.showCreateTable (.ofName 18 name)) := by
  have htokens : mySql.tokens "SHOW CREATE TABLE t" =
      [⟨"SHOW", 0⟩, ⟨"CREATE", 5⟩, ⟨"TABLE", 12⟩] ++ ⟨"t", 18⟩ :: [] := by cbv
  obtain ⟨text, us, hsplice, hreplaced⟩ := exists_splice? htokens (by decide) hn
  -- the new text
  have htext : text = "SHOW CREATE TABLE " ++ name := by
    have happend := TableReference.splice?_append "SHOW CREATE TABLE ".toList [] (w := ['t']) name
    have hstripped : mySql.lexicalRules.stripped "SHOW CREATE TABLE t" = "SHOW CREATE TABLE t" := by
      cbv
    rw [hstripped] at hsplice
    have hsame := Option.some.inj (hsplice.symm.trans happend)
    rw [hsame, List.append_nil, String.ofList_append, String.ofList_toList, String.ofList_toList]
  have hident : Token.isIdentifier ⟨name, 18⟩ = true := by
    rw [Token.isIdentifier, hn.head]
    rfl
  have hfind : mySql.table.find? [⟨"SHOW", 0⟩, ⟨"CREATE", 5⟩, ⟨"TABLE", 12⟩, ⟨"t", 18⟩] =
      some ⟨showCreateTableRule, 3⟩ := by cbv
  have hverdict := RuleTable.verdict?_replace length_steps_mySql hfind hident us
  have hopens : mySql.table.opens ⟨"SHOW", 0⟩ = true := by cbv
  have hopener : mySql.table.fromOpener (mySql.tokens text) =
      ⟨"SHOW", 0⟩ :: ⟨"CREATE", 5⟩ :: ⟨"TABLE", 12⟩ :: ⟨name, 18⟩ :: us := by
    rw [hreplaced, RuleTable.fromOpener]
    exact List.dropWhile_cons_of_neg (by rw [hopens]; decide)
  rw [classify_eq_ok_iff, ← htext, RuleTable.verdict?, hopener, hverdict]
  rfl

/-- **Quoted qualified names come back whole.** Whatever two texts stand between the backticks of a
qualified name, with their backticks doubled, MySQL finds the one table reference, at its place and
of its length, and the accessors give the two texts as they were written. -/
theorem classify_qualified (s t : String) :
    ∃ ref : TableReference,
      mySql.classify ("SHOW CREATE TABLE `" ++ backticksDoubled s ++ "`.`" ++
        backticksDoubled t ++ "`") = .ok (.showCreateTable ref) ∧
      (Statement.showCreateTable ref).tableReferences = [ref] ∧
      ref.start = 18 ∧
      ref.name = "`" ++ backticksDoubled s ++ "`.`" ++ backticksDoubled t ++ "`" ∧
      ref.length = ref.name.utf8ByteSize ∧
      ref.schema = some (backticksDoubled s) ∧ ref.table = backticksDoubled t := by
  have hclassify := classify_showCreateTable (isName_qualifiedName mySql.lexicalRules s t)
  have htext : "SHOW CREATE TABLE " ++ qualifiedName s t =
      "SHOW CREATE TABLE `" ++ backticksDoubled s ++ "`.`" ++ backticksDoubled t ++ "`" := by
    have hopen : "SHOW CREATE TABLE `" = "SHOW CREATE TABLE " ++ "`" := by decide
    rw [qualifiedName, hopen]
    simp only [String.append_assoc]
  rw [htext] at hclassify
  obtain ⟨hschema, htable⟩ := parts_qualifiedName 18 s t
  exact ⟨.ofName 18 (qualifiedName s t), hclassify, rfl, rfl, rfl, byteLength_toList _, hschema,
    htable⟩

end Dialect

end SqlTriage

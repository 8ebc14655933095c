import Mathlib
import SqlTriage.Program
import SqlTriage.Proofs.Script.Pieces

/-!
# Scripts made of statements

Statements that are written one below the other, with the delimiter on a line of its own between
them, are found again by splitting the script (`statements_joined`).  Each must be whole
(`isWhole`): where it ends its line, the scan that looks for delimiters meets none in it, and it
leaves nothing open.  What stands behind the line is then cut as if it stood alone
(`cut_append_of_isWhole`).  A run over such a script is the run over its statements (`run_joined`).
-/

namespace SqlTriage.Script

open SqlTriage.Text SqlTriage.Lexical

variable {rules : LexicalRules} {delimiter : List Char}

/-! ## Whole texts -/

/-- Whether the scan that cuts a text at its delimiters meets none and leaves nothing open: no
quoted run, no block comment and, in a text that does not end its line, no line comment. -/
def isWhole (rules : LexicalRules) (delimiter s : List Char) : Bool :=
  match s with
  | [] => true
  | c :: t =>
    if delimiter.isPrefixOf (c :: t) then false
    else
      match _ : comment? rules (c :: t) with
      | some l => l.closed && isWhole rules delimiter l.rest
      | none =>
        match _ : quotedRun? rules (c :: t) with
        | some l => l.closed && isWhole rules delimiter l.rest
        | none => isWhole rules delimiter t
termination_by s.length
decreasing_by
  · exact comment?_length_lt ‹_›
  · exact quotedRun?_length_lt ‹_›
  · exact Nat.lt_succ_self _

/-- A whole text is one piece. -/
theorem isUncut_of_isWhole {s : List Char} (h : isWhole rules delimiter s = true) :
    IsUncut rules delimiter s := by
  have hp {c : Char} {t : List Char} (hp : ¬ delimiter.isPrefixOf (c :: t) = true) :
      ¬ delimiter <+: c :: t := fun hd => hp (List.isPrefixOf_iff_prefix.2 hd)
  fun_induction isWhole rules delimiter s with
  | case1 => exact isUncut_nil
  | case2 c t hd => cases h
  | case3 c t hd l hc ih =>
    exact (isUncut_comment_iff (hp hd) hc).2 (ih (Bool.and_eq_true_iff.1 h).2)
  | case4 c t hd hc l hq ih =>
    exact (isUncut_quoted_iff (hp hd) hq).2 (ih (Bool.and_eq_true_iff.1 h).2)
  | case5 c t hd hc hq ih =>
    have hc := comment?_eq_none_iff.1 hc
    exact (isUncut_plain_iff (hp hd) hc (quotedRun?_eq_none_iff.1 hq)).2 (ih h)

/-- A text that is whole on a line of its own is one piece. -/
theorem cut_of_isWhole {s : List Char} (h : isWhole rules delimiter (s ++ ['\n']) = true) :
    cut rules delimiter s = (s, []) := by
  have hline : ∀ c ∈ ['\n'], isBlank c = true := List.forall_mem_singleton.2 (by decide)
  exact (isUncut_of_isWhole h).of_append_blanks hline

/-! ## Behind a line -/

theorem not_prefix_append {s v : List Char} (hn : '\n' ∉ delimiter) (hs : s.getLast? = some '\n')
    (h : ¬ delimiter <+: s) : ¬ delimiter <+: s ++ v := by
  intro hp
  rcases List.prefix_or_prefix_of_prefix hp (List.prefix_append s v) with hd | hd
  · exact h hd
  · exact hn (hd.subset (List.mem_of_getLast? hs))

theorem getLast?_of_append {s t u : List Char} {c : Char} (h : t ++ u = s)
    (hs : s.getLast? = some c) : u = [] ∨ u.getLast? = some c := by
  by_cases hu : u = []
  · exact Or.inl hu
  · rw [← h, List.getLast?_append_of_ne_nil t hu] at hs
    exact Or.inr hs

/-- Behind a whole text that ends its line the script is cut as if it began there. -/
theorem cut_append_of_isWhole (hn : '\n' ∉ delimiter) {s : List Char}
    (h : isWhole rules delimiter s = true) (hs : s = [] ∨ s.getLast? = some '\n') (v : List Char) :
    cut rules delimiter (s ++ v) =
      (s ++ (cut rules delimiter v).1, (cut rules delimiter v).2) := by
  fun_induction isWhole rules delimiter s with
  | case1 => rfl
  | case2 c t hp => cases h
  | case3 c t hp l hc ih =>
    have hs := hs.resolve_left (List.cons_ne_nil c t)
    have hp := not_prefix_append (v := v) hn hs fun hd => hp (List.isPrefixOf_iff_prefix.2 hd)
    obtain ⟨hclosed, h⟩ := Bool.and_eq_true_iff.1 h
    have hrest := ih h (getLast?_of_append (comment?_append hc) hs)
    rw [cut_comment hp (comment?_append_closed hc hclosed v), hrest, ← List.append_assoc,
      comment?_append hc]
  | case4 c t hp hc l hq ih =>
    have hs := hs.resolve_left (List.cons_ne_nil c t)
    have hp := not_prefix_append (v := v) hn hs fun hd => hp (List.isPrefixOf_iff_prefix.2 hd)
    obtain ⟨hclosed, h⟩ := Bool.and_eq_true_iff.1 h
    have hrest := ih h (getLast?_of_append (quotedRun?_append hq) hs)
    -- the run ends in its quote, so the line end is behind it and keeps what follows away from it
    have hne : l.rest ≠ [] := by
      intro hr
      have ht := quotedRun?_append hq
      rw [hr, List.append_nil] at ht
      obtain ⟨q, hquote, -, hlast⟩ := exists_quote_ends hq
      rw [← ht, hlast hclosed] at hs
      cases hs
      cases hquote
    rw [cut_quoted hp (quotedRun?_append_closed hq hclosed fun hr => absurd hr hne), hrest,
      ← List.append_assoc, quotedRun?_append hq]
  | case5 c t hp hc hq ih =>
    have hs := hs.resolve_left (List.cons_ne_nil c t)
    have hp : ¬ delimiter <+: c :: (t ++ v) :=
      not_prefix_append hn hs fun hd => hp (List.isPrefixOf_iff_prefix.2 hd)
    have hrest := ih h (getLast?_of_append (t := [c]) rfl hs)
    have hc : opensComment rules c (t ++ v).head? = false := by
      cases t with
      | nil =>
        obtain rfl : c = '\n' := by simpa using hs
        exact opensComment_eq_false_of_isBlank (by decide) _
      | cons d t =>
        have hsame : opensComment rules c (d :: t).head? = false := comment?_eq_none_iff.1 hc
        exact hsame
    rw [List.cons_append, cut_plain hp hc (quotedRun?_eq_none_iff.1 hq), hrest]
    rfl

/-! ## Joined statements -/

/-- The statements one below the other with the delimiter on a line of its own between them. -/
def joined (delimiter : String) (sqls : List String) : String :=
  ("\n" ++ delimiter ++ "\n").intercalate sqls

/-- A text that can stand among others in a script. -/
structure IsJoinable (rules : LexicalRules) (delimiter sql : String) : Prop where
  /-- It has no white space at its ends. -/
  trimmed : trimSpace sql = sql
  /-- It holds more than comments and blanks. -/
  stripped_ne : rules.stripped sql ≠ ""
  /-- On a line of its own it holds no delimiter at top level and leaves nothing open. -/
  whole : isWhole rules delimiter.toList (sql ++ "\n").toList = true

theorem IsJoinable.trim_eq {delimiter sql : String} (h : IsJoinable rules delimiter sql) :
    trim isSpace sql.toList = sql.toList := by
  have ht := congrArg String.toList h.trimmed
  rwa [trimSpace, String.toList_ofList] at ht

theorem IsJoinable.holdsStatement {delimiter sql : String} (h : IsJoinable rules delimiter sql) :
    holdsStatement rules sql.toList = true := by
  have hne := h.stripped_ne
  rw [LexicalRules.stripped, Ne, String.ofList_eq_empty_iff] at hne
  simpa [Script.holdsStatement] using hne

theorem IsJoinable.isWhole_line {delimiter sql : String} (h : IsJoinable rules delimiter sql) :
    isWhole rules delimiter.toList (sql.toList ++ ['\n']) = true := by
  have hw := h.whole
  rwa [String.toList_append] at hw

/-- What stands behind a statement, a delimiter and their line ends is cut on its own. -/
theorem pieces_line_append (hd : delimiter ≠ []) (hspace : ∀ c ∈ delimiter, isSpace c = false)
    {s : List Char} (h : isWhole rules delimiter (s ++ ['\n']) = true) (v : List Char) :
    pieces rules delimiter (s ++ (['\n'] ++ delimiter ++ ['\n']) ++ v) =
      (s ++ ['\n']) :: (['\n'] ++ (cut rules delimiter v).1) :: (cut rules delimiter v).2 := by
  have hn : '\n' ∉ delimiter := fun hm => absurd (hspace _ hm) (by decide)
  have hp : ¬ delimiter <+: '\n' :: v := by
    obtain ⟨c, d, rfl⟩ := List.exists_cons_of_ne_nil hd
    rw [List.cons_prefix_cons]
    rintro ⟨rfl, -⟩
    exact hn List.mem_cons_self
  have hshape : s ++ (['\n'] ++ delimiter ++ ['\n']) ++ v =
      (s ++ ['\n']) ++ (delimiter ++ ('\n' :: v)) := by simp
  rw [pieces, hshape, cut_append_of_isWhole hn h (Or.inr List.getLast?_concat), cut_delimiter hd,
    cut_plain hp (opensComment_eq_false_of_isBlank (by decide) _) (by decide)]
  simp

theorem map_trim_pieces_line_append (hd : delimiter ≠ [])
    (hspace : ∀ c ∈ delimiter, isSpace c = false) {s : List Char}
    (h : isWhole rules delimiter (s ++ ['\n']) = true) (v : List Char) :
    (pieces rules delimiter (s ++ (['\n'] ++ delimiter ++ ['\n']) ++ v)).map (trim isSpace) =
      trim isSpace s :: (pieces rules delimiter v).map (trim isSpace) := by
  have hline : ∀ c ∈ ['\n'], isSpace c = true := List.forall_mem_singleton.2 (by decide)
  rw [pieces_line_append hd hspace h, List.map_cons, List.map_cons, trim_append_right hline,
    trim_append_left hline]
  rfl

theorem map_trim_pieces_joined {delimiter : String} (hd : delimiter ≠ "")
    (hspace : ∀ c ∈ delimiter.toList, isSpace c = false) {sqls : List String} (hne : sqls ≠ [])
    (h : ∀ sql ∈ sqls, IsJoinable rules delimiter sql) :
    (pieces rules delimiter.toList (joined delimiter sqls).toList).map (trim isSpace) =
      sqls.map String.toList := by
  have hd : delimiter.toList ≠ [] := by simpa using hd
  have hline : "\n".toList = ['\n'] := rfl
  simp only [joined, String.toList_intercalate, String.toList_append, hline]
  -- each statement but the last is cut off at the delimiter behind it
  induction sqls with
  | nil => exact absurd rfl hne
  | cons sql sqls ih =>
    obtain ⟨hsql, hsqls⟩ := List.forall_mem_cons.1 h
    cases sqls with
    | nil =>
      simp [List.intercalate_singleton, pieces, cut_of_isWhole hsql.isWhole_line, hsql.trim_eq]
    | cons sql' sqls =>
      rw [List.map_cons, List.map_cons, List.intercalate_cons_cons, ← List.map_cons,
        map_trim_pieces_line_append hd hspace hsql.isWhole_line, hsql.trim_eq,
        ih (List.cons_ne_nil _ _) hsqls]

/-- Splitting undoes joining. -/
theorem statements_joined {delimiter : String} (hd : delimiter ≠ "")
    (hspace : ∀ c ∈ delimiter.toList, isSpace c = false) {sqls : List String} (hne : sqls ≠ [])
    (h : ∀ sql ∈ sqls, IsJoinable rules delimiter sql) :
    statements rules delimiter (joined delimiter sqls) = sqls := by
  have hholds : ∀ p ∈ sqls.map String.toList, holdsStatement rules p = true := by
    intro p hp
    obtain ⟨sql, hsql, rfl⟩ := List.mem_map.1 hp
    exact (h sql hsql).holdsStatement
  rw [statements, map_trim_pieces_joined hd hspace hne h, List.filter_eq_self.2 hholds,
    List.map_map]
  simp

end SqlTriage.Script

namespace SqlTriage

open SqlTriage.Text SqlTriage.Script

/-! ## Runs -/

/-- The text of the script that a command without statements reads. -/
def Command.scriptText (c : Command) (around : Surroundings) : Except ReadFault String :=
  match c.script with
  | some path => readText (around.file path)
  | none => readText around.input

theorem Command.statementsUnder_of_scriptText {c : Command} {around : Surroundings}
    {script : String} (hc : c.statements = []) (h : c.scriptText around = .ok script)
    (s : Settings) : c.statementsUnder s around = .ok (s.statements script) := by
  rw [Command.statementsUnder, if_neg (by simp [hc])]
  unfold Command.scriptText at h
  cases hs : c.script with
  | none =>
    rw [hs] at h
    simp only [h]
  | some path =>
    rw [hs] at h
    simp only [h]

theorem Command.statementsUnder_of_ne_nil {c : Command} (hc : c.statements ≠ []) (s : Settings)
    (around : Surroundings) : c.statementsUnder s around = .ok c.statements := by
  rw [Command.statementsUnder, if_pos (by simpa using hc)]

theorem Command.perform_congr {lib : Libraries} {c c' : Command} {s : Settings}
    {around : Surroundings}
    (hload : Settings.load lib (c.settingsSource around) c.overrides = .ok s)
    (hload' : Settings.load lib (c'.settingsSource around) c'.overrides = .ok s)
    (h : c.statementsUnder s around = c'.statementsUnder s around) :
    c.perform lib around = c'.perform lib around := by
  simp only [Command.perform, hload, hload', Command.performUnder, h]

/-- A run over a script made of statements is the run over the statements, whether these are the
script of a command or its arguments. -/
theorem Settings.run_joined (s : Settings) (sqls : List String) (hd : s.delimiter ≠ "")
    (hspace : ∀ c ∈ s.delimiter.toList, isSpace c = false) (hne : sqls ≠ [])
    (h : ∀ sql ∈ sqls, IsJoinable s.dialect.lexicalRules s.delimiter sql) :
    s.statements (joined s.delimiter sqls) = sqls ∧
      s.runScript (joined s.delimiter sqls) = s.run sqls ∧
      ∀ (lib : Libraries) (c : Command) (around : Surroundings), c.statements = [] →
        c.scriptText around = .ok (joined s.delimiter sqls) →
        c.statementsUnder s around =
            ({ c with statements := sqls } : Command).statementsUnder s around ∧
          (Settings.load lib (c.settingsSource around) c.overrides = .ok s →
            c.perform lib around =
              ({ c with statements := sqls } : Command).perform lib around) := by
  have hsplit : s.statements (joined s.delimiter sqls) = sqls := statements_joined hd hspace hne h
  refine ⟨hsplit, by rw [Settings.runScript, hsplit], fun lib c around hc hscript => ?_⟩
  have hsame : c.statementsUnder s around =
      ({ c with statements := sqls } : Command).statementsUnder s around := by
    rw [Command.statementsUnder_of_scriptText hc hscript, hsplit,
      Command.statementsUnder_of_ne_nil hne]
  exact ⟨hsame, fun hload => Command.perform_congr hload hload hsame⟩

/-- A delimiter that looks like a comment, behind statements that hold it in a quoted run and in a
comment. -/
theorem Settings.run_joined_dashes :
    let s : Settings := { delimiter := "--" }
    let sqls := ["use `--`", "call p # --"]
    let around : Surroundings :=
      ⟨fun _ => none, fun _ => .error "", .ok "use `--`\n--\ncall p # --".toUTF8.toList⟩
    let c : Command := { overrides := { delimiter := "--" } }
    s.statements "use `--`\n--\ncall p # --" = sqls ∧
      ∀ lib : Libraries,
        c.perform lib around = ({ c with statements := sqls } : Command).perform lib around := by
  intro s sqls around c
  have hspace : ∀ c ∈ s.delimiter.toList, isSpace c = false := by
    intro c hc
    obtain rfl : c = '-' := by simpa [s] using hc
    decide
  have hjoin : ∀ sql ∈ sqls, IsJoinable s.dialect.lexicalRules s.delimiter sql := by
    intro sql hsql
    rcases List.mem_pair.1 hsql with rfl | rfl
    · exact ⟨by cbv, by cbv, by cbv⟩
    · exact ⟨by cbv, by cbv, by cbv⟩
  obtain ⟨hsplit, -, hrun⟩ := s.run_joined sqls (by decide) hspace (by decide) hjoin
  refine ⟨hsplit, fun lib => (hrun lib c around rfl (by cbv)).2 ?_⟩
  cbv

end SqlTriage

import Mathlib
import SqlTriage.Proofs.Rule.Opener

/-!
# The table of keyword families

The classification written out as a table over the first words of a statement
(`Dialect.keywordStatement?`), without rules, priorities, windows and captures: which words open a
statement in a dialect, and what each opener makes of the words behind it.  The rule tables say
the same (`classify_eq_keywordStatement?`): for each family of openers a dialect has a short list
of rules, and these are compared with the row of the table.
-/

namespace SqlTriage

open SqlTriage.Text SqlTriage.Lexical RuleMatch

/-! ## The table -/

/-- The words that open a statement in every dialect. -/
def sharedOpeners : List String :=
  ["SELECT", "CALL", "INSERT", "UPDATE", "DELETE", "SET", "COMMIT", "ROLLBACK", "SAVEPOINT",
   "BEGIN", "CREATE", "ALTER", "DROP", "TRUNCATE", "RENAME", "GRANT", "REVOKE", "LOAD", "EXPLAIN"]

/-- The words that open a statement in a dialect. -/
def Dialect.openers : Dialect → List String
  | .mySql =>
    sharedOpeners ++ ["REPLACE", "START", "RELEASE", "USE", "DESCRIBE", "DESC", "SHOW"]
  | .postgreSql => sharedOpeners ++ ["START", "END", "ABORT", "SHOW"]
  | .sql92 => sharedOpeners

/-- Whether an insert ignores errors, by what stands behind `INSERT`. -/
def insertIgnores (ts : List Token) : Bool :=
  wordAt ts 0 ["IGNORE"] ||
    wordAt ts 0 ["LOW_PRIORITY", "DELAYED", "HIGH_PRIORITY"] && wordAt ts 1 ["IGNORE"]

/-- Whether a `SET` controls transactions, by what stands behind it. -/
def Dialect.setsTransaction (d : Dialect) (ts : List Token) : Bool :=
  match d with
  | .mySql =>
    let autocommit := ["TRANSACTION", "AUTOCOMMIT", "@@AUTOCOMMIT", "@@SESSION.AUTOCOMMIT",
      "@@LOCAL.AUTOCOMMIT"]
    wordAt ts 0 autocommit || wordAt ts 0 ["SESSION", "GLOBAL", "LOCAL"] && wordAt ts 1 autocommit
  | .postgreSql =>
    wordAt ts 0 ["TRANSACTION", "AUTOCOMMIT"] ||
      wordAt ts 0 ["SESSION"] && wordAt ts 1 ["CHARACTERISTICS"]
  | .sql92 => wordAt ts 0 ["TRANSACTION", "AUTOCOMMIT"]

/-- The statement of a `SET`, by what stands behind it. -/
def Dialect.setStatement? (d : Dialect) (ts : List Token) : Option Statement :=
  if ts.isEmpty then none
  else if d.setsTransaction ts then some .transactionControl
  else some .sessionSet

/-- The statement of a `SHOW` of MySQL with something behind it. -/
def mySqlShowStatement? (ts : List Token) : Option Statement :=
  if wordAt ts 0 ["DATABASES", "SCHEMAS"] then some .showDatabases
  else if wordAt ts 0 ["TABLE"] && wordAt ts 1 ["STATUS"] then
    if wordAt ts 2 ["FROM", "IN"] then
      (identifierAt? ts 3).map fun t => .showTableStatus (some t.text)
    else some (.showTableStatus none)
  else if wordAt ts 0 ["TABLES"] || wordAt ts 0 ["FULL"] && wordAt ts 1 ["TABLES"] then
    some .showTables
  else if wordAt ts 0 ["COLUMNS", "FIELDS"] then
    (nameFrom ts 1).map fun t => .showColumns t.text
  else if wordAt ts 0 ["FULL"] && wordAt ts 1 ["COLUMNS", "FIELDS"] then
    (nameFrom ts 2).map fun t => .showColumns t.text
  else if wordAt ts 0 ["INDEX", "INDEXES", "KEYS"] then
    (nameFrom ts 1).map fun t => .showIndex t.text
  else if wordAt ts 0 ["CREATE"] && wordAt ts 1 ["TABLE"] then
    (identifierAt? ts 2).map fun t => .showCreateTable (.ofName t.offset t.text)
  else some .showOther

/-- The statement of a `SHOW`, by what stands behind it. -/
def Dialect.showStatement? (d : Dialect) (ts : List Token) : Option Statement :=
  if ts.isEmpty then none
  else
    match d with
    | .mySql => mySqlShowStatement? ts
    | .postgreSql | .sql92 => some .showOther

/-- The statement that an opener makes of the tokens behind it. The nine openers of statements
without a family are those that no line names. -/
def Dialect.openedStatement? (d : Dialect) (opener : String) (ts : List Token) :
    Option Statement :=
  if opener ∈ ["SELECT", "CALL"] then some .query
  else if opener = "INSERT" then some (.mutation (.insert ⟨false, insertIgnores ts⟩))
  else if opener = "REPLACE" then some (.mutation (.insert ⟨true, false⟩))
  else if opener = "UPDATE" then some (.mutation .update)
  else if opener = "DELETE" then some (.mutation .delete)
  else if opener ∈ ["COMMIT", "ROLLBACK", "SAVEPOINT", "BEGIN", "END", "ABORT"] then
    some .transactionControl
  else if opener = "START" then
    if wordAt ts 0 ["TRANSACTION"] then some .transactionControl else none
  else if opener = "RELEASE" then
    if wordAt ts 0 ["SAVEPOINT"] then some .transactionControl else none
  else if opener = "SET" then d.setStatement? ts
  else if opener = "USE" then (identifierAt? ts 0).map fun t => .useSchema t.text
  else if opener ∈ ["DESCRIBE", "DESC"] then (identifierAt? ts 0).map fun t => .describe t.text
  else if opener = "SHOW" then d.showStatement? ts
  else none

/-- The statement of a token list: what stands before the first opener is noise. -/
def Dialect.keywordStatement? (d : Dialect) (tokens : List Token) : Option Statement :=
  match tokens.dropWhile fun t => !d.openers.contains t.folded with
  | [] => none
  | t :: ts => d.openedStatement? t.folded ts

namespace Dialect

variable {d : Dialect} {t : Token}

/-! ## Openers of a dialect -/

theorem opens_table (d : Dialect) (t : Token) :
    d.table.opens t = d.openers.contains t.folded := by
  have hsub : ∀ w ∈ RuleTable.foreignOpeners ++ d.table.rules.flatMap Rule.openers,
      w ∈ d.openers := by
    cases d <;> decide
  have hsup : ∀ w ∈ d.openers,
      w ∈ RuleTable.foreignOpeners ++ d.table.rules.flatMap Rule.openers := by
    cases d <;> decide
  rw [RuleTable.opens_eq, Bool.eq_iff_iff, List.contains_iff_mem, List.contains_iff_mem]
  exact ⟨hsub _, hsup _⟩

/-- Every rule begins with a word that it requires. -/
theorem steps_eq_cons (d : Dialect) :
    ∀ r ∈ d.table.rules, r.steps = .keyword r.openers :: r.steps.tail := by
  cases d <;> decide

/-! ## One family of openers after the other -/

theorem opened_query (h : t.folded ∈ ["SELECT", "CALL"]) (ts : List Token) :
    statementOf? (d.table.openedBy t.folded) t ts = some .query := by
  have hr : ∀ w ∈ ["SELECT", "CALL"], d.table.openedBy w =
      [{ family := .query, steps := [.keyword ["SELECT", "CALL"]] }] := by
    cases d <;> decide
  rw [hr _ h, statementOf?_cons]
  rfl

theorem opened_insert (h : t.folded = "INSERT") (ts : List Token) :
    statementOf? (d.table.openedBy t.folded) t ts =
      some (.mutation (.insert ⟨false, insertIgnores ts⟩)) := by
  have hr : d.table.openedBy "INSERT" =
      [{ family := .insert
         steps := [.keyword ["INSERT"], .optional ["LOW_PRIORITY", "DELAYED", "HIGH_PRIORITY"],
           .optional ["IGNORE"]] }] := by
    cases d <;> rfl
  have ht : t.isOneOf ["IGNORE"] = false := by
    rw [Token.isOneOf, h]
    decide
  rw [h, hr, insertIgnores]
  simp only [statementOf?_cons, List.tail_cons, consumedBy?_optional, consumedBy?_nil, wordAt_tail,
    verdict?_succ, captured?_nothing, modifiers, Verdict.statement?]
  by_cases h₀ : wordAt ts 0 ["LOW_PRIORITY", "DELAYED", "HIGH_PRIORITY"] = true
  · have hi : wordAt ts 0 ["IGNORE"] = false := wordAt_eq_false h₀ (by decide)
    by_cases h₁ : wordAt ts 1 ["IGNORE"] = true <;>
      simp [h₀, h₁, hi, ht, any_take_succ, wordAt_tail]
  · by_cases h₁ : wordAt ts 0 ["IGNORE"] = true <;> simp [h₀, h₁, ht, any_take_succ]

theorem opened_replace (h : t.folded = "REPLACE") (hd : t.folded ∈ d.openers) (ts : List Token) :
    statementOf? (d.table.openedBy t.folded) t ts =
      some (.mutation (.insert ⟨true, false⟩)) := by
  have hr : "REPLACE" ∈ d.openers → d.table.openedBy "REPLACE" =
      [{ family := .replace
         steps := [.keyword ["REPLACE"], .optional ["LOW_PRIORITY", "DELAYED"]] }] := by
    cases d <;> decide
  have ht : t.isOneOf ["IGNORE"] = false := by
    rw [Token.isOneOf, h]
    decide
  rw [h] at hd ⊢
  rw [hr hd]
  simp only [statementOf?_cons, List.tail_cons, consumedBy?_optional, consumedBy?_nil,
    verdict?_succ, captured?_nothing, modifiers, Verdict.statement?]
  by_cases h₀ : wordAt ts 0 ["LOW_PRIORITY", "DELAYED"] = true
  · have hi : wordAt ts 0 ["IGNORE"] = false := wordAt_eq_false h₀ (by decide)
    simp [h₀, hi, ht, any_take_succ]
  · simp [h₀, ht]

theorem opened_update (h : t.folded = "UPDATE") (ts : List Token) :
    statementOf? (d.table.openedBy t.folded) t ts = some (.mutation .update) := by
  have hr : d.table.openedBy "UPDATE" =
      [{ family := .update, steps := [.keyword ["UPDATE"]] }] := by
    cases d <;> rfl
  rw [h, hr, statementOf?_cons]
  rfl

theorem opened_delete (h : t.folded = "DELETE") (ts : List Token) :
    statementOf? (d.table.openedBy t.folded) t ts = some (.mutation .delete) := by
  have hr : d.table.openedBy "DELETE" =
      [{ family := .delete, steps := [.keyword ["DELETE"]] }] := by
    cases d <;> rfl
  rw [h, hr, statementOf?_cons]
  rfl

theorem opened_commit (h : t.folded ∈ ["COMMIT", "ROLLBACK", "SAVEPOINT", "BEGIN", "END", "ABORT"])
    (hd : t.folded ∈ d.openers) (ts : List Token) :
    statementOf? (d.table.openedBy t.folded) t ts = some .transactionControl := by
  have hr : ∀ w ∈ ["COMMIT", "ROLLBACK", "SAVEPOINT", "BEGIN", "END", "ABORT"], w ∈ d.openers →
      ∃ words ∈ [["COMMIT", "ROLLBACK", "SAVEPOINT", "BEGIN"], ["END", "ABORT"]],
        d.table.openedBy w = [{ family := .transactionControl, steps := [.keyword words] }] := by
    cases d <;> decide
  obtain ⟨words, -, hr⟩ := hr _ h hd
  rw [hr, statementOf?_cons]
  rfl

/-- Two words that control transactions together. -/
theorem opened_pair {first second : String}
    (hr : first ∈ d.openers → d.table.openedBy first =
      [{ family := .transactionControl, steps := [.keyword [first], .keyword [second]] }])
    (h : t.folded = first) (hd : t.folded ∈ d.openers) (ts : List Token) :
    statementOf? (d.table.openedBy t.folded) t ts =
      if wordAt ts 0 [second] then some .transactionControl else none := by
  rw [h] at hd ⊢
  rw [hr hd, statementOf?_cons, List.tail_cons, consumedBy?_keyword]
  by_cases h₀ : wordAt ts 0 [second] = true
  · rw [if_pos h₀, if_pos h₀]
    rfl
  · rw [if_neg h₀, if_neg h₀]
    rfl

theorem opened_start (h : t.folded = "START") (hd : t.folded ∈ d.openers) (ts : List Token) :
    statementOf? (d.table.openedBy t.folded) t ts =
      if wordAt ts 0 ["TRANSACTION"] then some .transactionControl else none := by
  apply opened_pair _ h hd
  cases d <;> decide

theorem opened_release (h : t.folded = "RELEASE") (hd : t.folded ∈ d.openers) (ts : List Token) :
    statementOf? (d.table.openedBy t.folded) t ts =
      if wordAt ts 0 ["SAVEPOINT"] then some .transactionControl else none := by
  apply opened_pair _ h hd
  cases d <;> decide

theorem opened_use (h : t.folded = "USE") (hd : t.folded ∈ d.openers) (ts : List Token) :
    statementOf? (d.table.openedBy t.folded) t ts =
      (identifierAt? ts 0).map fun u => .useSchema u.text := by
  have hr : "USE" ∈ d.openers → d.table.openedBy "USE" =
      [{ family := .useSchema, steps := [.keyword ["USE"]], capture := .identifier }] := by
    cases d <;> decide
  rw [h] at hd ⊢
  rw [hr hd]
  exact statementOf?_identifier (fun _ _ => rfl) _ _ _ _

theorem opened_describe (h : t.folded ∈ ["DESCRIBE", "DESC"]) (hd : t.folded ∈ d.openers)
    (ts : List Token) :
    statementOf? (d.table.openedBy t.folded) t ts =
      (identifierAt? ts 0).map fun u => .describe u.text := by
  have hr : ∀ w ∈ ["DESCRIBE", "DESC"], w ∈ d.openers → d.table.openedBy w =
      [{ family := .describe
         steps := [.keyword ["DESCRIBE", "DESC"]]
         capture := .identifier }] := by
    cases d <;> decide
  rw [hr _ h hd]
  exact statementOf?_identifier (fun _ _ => rfl) _ _ _ _

theorem opened_set (h : t.folded = "SET") (ts : List Token) :
    statementOf? (d.table.openedBy t.folded) t ts = d.setStatement? ts := by
  rw [h, setStatement?]
  by_cases hts : ts.isEmpty = true
  · obtain rfl := List.isEmpty_iff.1 hts
    cases d <;> rfl
  rw [if_neg hts]
  cases d with
  | sql92 =>
    have hr : sql92.table.openedBy "SET" = (sharedRules.drop 4).take 2 := rfl
    rw [hr, setsTransaction]
    by_cases h₀ : wordAt ts 0 ["TRANSACTION", "AUTOCOMMIT"] = true <;>
      simp [sharedRules, statementOf?_cons, consumedBy?_keyword, consumedBy?_any, consumedBy?_nil,
        verdict?_succ, captured?_nothing, Verdict.statement?, hts, h₀]
  | postgreSql =>
    have hr : postgreSql.table.openedBy "SET" =
        postgreSqlRules[2] :: (sharedRules.drop 4).take 2 := rfl
    rw [hr, setsTransaction]
    by_cases h₀ : wordAt ts 0 ["TRANSACTION", "AUTOCOMMIT"] = true
    · have h₁ : wordAt ts 0 ["SESSION"] = false := wordAt_eq_false h₀ (by decide)
      simp [sharedRules, postgreSqlRules, statementOf?_cons, consumedBy?_keyword, consumedBy?_nil,
        verdict?_succ, captured?_nothing, Verdict.statement?, h₀, h₁]
    by_cases h₁ : wordAt ts 0 ["SESSION"] = true <;>
      by_cases h₂ : wordAt ts 1 ["CHARACTERISTICS"] = true <;>
      simp [sharedRules, postgreSqlRules, statementOf?_cons, consumedBy?_keyword, consumedBy?_any,
        consumedBy?_nil, wordAt_tail, verdict?_succ, captured?_nothing, Verdict.statement?, hts,
        h₀, h₁, h₂]
  | mySql =>
    have hr : mySql.table.openedBy "SET" = mySqlRules[1] :: (sharedRules.drop 4).take 2 := rfl
    rw [hr, setsTransaction]
    simp only [mySqlRules, sharedRules, List.getElem_cons_succ, List.getElem_cons_zero,
      List.drop_succ_cons, List.drop_zero, List.take_succ_cons, List.take_zero, statementOf?_cons,
      List.tail_cons, consumedBy?_optional, consumedBy?_keyword, consumedBy?_any, consumedBy?_nil,
      wordAt_tail, verdict?_succ, captured?_nothing, Verdict.statement?, hts]
    generalize hw : ["TRANSACTION", "AUTOCOMMIT", "@@AUTOCOMMIT", "@@SESSION.AUTOCOMMIT",
      "@@LOCAL.AUTOCOMMIT"] = autocommit
    by_cases h₀ : wordAt ts 0 ["SESSION", "GLOBAL", "LOCAL"] = true
    · -- the optional word is taken, so that the rules look at the word behind it
      have h₁ : wordAt ts 0 autocommit = false := wordAt_eq_false h₀ (by rw [← hw]; decide)
      have h₂ : wordAt ts 0 ["TRANSACTION", "AUTOCOMMIT"] = false :=
        wordAt_eq_false h₀ (by decide)
      by_cases h₃ : wordAt ts 1 autocommit = true <;> simp [h₀, h₁, h₂, h₃]
    · by_cases h₁ : wordAt ts 0 autocommit = true
      · simp [h₀, h₁]
      · have h₂ : ¬ wordAt ts 0 ["TRANSACTION", "AUTOCOMMIT"] = true := by
          intro h₂
          exact h₁ (wordAt_mono h₂ (by rw [← hw]; decide))
        simp [h₀, h₁, h₂]

theorem opened_mySql_show (t : Token) {ts : List Token} (hts : ¬ ts.isEmpty = true) :
    statementOf? (mySqlRules.drop 6) t ts = mySqlShowStatement? ts := by
  rw [mySqlShowStatement?]
  simp only [mySqlRules, List.drop_succ_cons, List.drop_zero, statementOf?_cons, showStep,
    List.tail_cons, consumedBy?_keyword, consumedBy?_optional, consumedBy?_any, consumedBy?_nil,
    hts, wordAt_tail, verdict?_succ, captured?_nothing, captured?_tableReference,
    captured?_fromIdentifier, captured?_optionalFromIdentifier, Verdict.statement?,
    Option.bind_map, Function.comp_def]
  -- the first word behind `SHOW`, in the order of the table
  by_cases h₁ : wordAt ts 0 ["DATABASES", "SCHEMAS"] = true
  · simp [h₁]
  by_cases h₂ : wordAt ts 0 ["TABLE"] = true
  · by_cases h₃ : wordAt ts 1 ["STATUS"] = true
    · by_cases h₄ : wordAt ts 2 ["FROM", "IN"] = true
      · cases hname : identifierAt? ts 3 <;> simp [h₁, h₂, h₃, h₄, hname]
      · simp [h₁, h₂, h₃, h₄]
    · simp (disch := decide) [h₁, h₂, h₃, wordAt_eq_false h₂]
  by_cases h₃ : wordAt ts 0 ["FULL"] = true
  · by_cases h₄ : wordAt ts 1 ["TABLES"] = true
    · simp [h₁, h₂, h₃, h₄]
    by_cases h₅ : wordAt ts 1 ["COLUMNS", "FIELDS"] = true <;>
      simp (disch := decide) [h₁, h₂, h₃, h₄, h₅, wordAt_eq_false h₃, bind_some_eq_map]
  by_cases h₄ : wordAt ts 0 ["TABLES"] = true
  · simp [h₁, h₂, h₃, h₄]
  by_cases h₅ : wordAt ts 0 ["COLUMNS", "FIELDS"] = true
  · simp [h₁, h₂, h₃, h₄, h₅, bind_some_eq_map]
  by_cases h₆ : wordAt ts 0 ["INDEX", "INDEXES", "KEYS"] = true
  · simp [h₁, h₂, h₃, h₄, h₅, h₆, bind_some_eq_map]
  by_cases h₇ : wordAt ts 0 ["CREATE"] = true <;> by_cases h₈ : wordAt ts 1 ["TABLE"] = true <;>
    simp [h₁, h₂, h₃, h₄, h₅, h₆, h₇, h₈, bind_some_eq_map]

theorem opened_show (h : t.folded = "SHOW") (hd : t.folded ∈ d.openers) (ts : List Token) :
    statementOf? (d.table.openedBy t.folded) t ts = d.showStatement? ts := by
  rw [h] at hd ⊢
  unfold showStatement?
  by_cases hts : ts.isEmpty = true
  · obtain rfl := List.isEmpty_iff.1 hts
    cases d <;> rfl
  rw [if_neg hts]
  cases d with
  | mySql => exact opened_mySql_show t hts
  | postgreSql =>
    have hr : postgreSql.table.openedBy "SHOW" = postgreSqlRules.drop 3 := rfl
    rw [hr]
    simp [postgreSqlRules, showStep, statementOf?_cons, consumedBy?_any, consumedBy?, verdict?_succ,
      captured?_nothing, Verdict.statement?, hts]
  | sql92 => exact absurd hd (by decide)

/-- The words of statements without a family open no rule. -/
theorem opened_foreign (h : ∀ r ∈ d.table.rules, t.folded ∉ r.openers) (ts : List Token) :
    statementOf? (d.table.openedBy t.folded) t ts = none := by
  have hr : d.table.openedBy t.folded = [] :=
    List.filter_eq_nil_iff.2 fun r hr hc => h r hr (List.contains_iff_mem.1 hc)
  rw [hr]
  rfl

/-! ## The rules are the table -/

theorem opened_eq_openedStatement? (h : t.folded ∈ d.openers) (ts : List Token) :
    statementOf? (d.table.openedBy t.folded) t ts = d.openedStatement? t.folded ts := by
  unfold openedStatement?
  by_cases h₁ : t.folded ∈ ["SELECT", "CALL"]
  · rw [if_pos h₁, opened_query h₁]
  by_cases h₂ : t.folded = "INSERT"
  · rw [if_neg h₁, if_pos h₂, opened_insert h₂]
  by_cases h₃ : t.folded = "REPLACE"
  · rw [if_neg h₁, if_neg h₂, if_pos h₃, opened_replace h₃ h]
  rw [if_neg h₁, if_neg h₂, if_neg h₃]
  by_cases h₄ : t.folded = "UPDATE"
  · rw [if_pos h₄, opened_update h₄]
  by_cases h₅ : t.folded = "DELETE"
  · rw [if_neg h₄, if_pos h₅, opened_delete h₅]
  by_cases h₆ : t.folded ∈ ["COMMIT", "ROLLBACK", "SAVEPOINT", "BEGIN", "END", "ABORT"]
  · rw [if_neg h₄, if_neg h₅, if_pos h₆, opened_commit h₆ h]
  rw [if_neg h₄, if_neg h₅, if_neg h₆]
  by_cases h₇ : t.folded = "START"
  · rw [if_pos h₇, opened_start h₇ h]
  by_cases h₈ : t.folded = "RELEASE"
  · rw [if_neg h₇, if_pos h₈, opened_release h₈ h]
  by_cases h₉ : t.folded = "SET"
  · rw [if_neg h₇, if_neg h₈, if_pos h₉, opened_set h₉]
  rw [if_neg h₇, if_neg h₈, if_neg h₉]
  by_cases h₁₀ : t.folded = "USE"
  · rw [if_pos h₁₀, opened_use h₁₀ h]
  by_cases h₁₁ : t.folded ∈ ["DESCRIBE", "DESC"]
  · rw [if_neg h₁₀, if_pos h₁₁, opened_describe h₁₁ h]
  by_cases h₁₂ : t.folded = "SHOW"
  · rw [if_neg h₁₀, if_neg h₁₁, if_pos h₁₂, opened_show h₁₂ h]
  rw [if_neg h₁₀, if_neg h₁₁, if_neg h₁₂]
  have hrules : ∀ r ∈ d.table.rules, ∀ w ∈ r.openers,
      w ∈ ["SELECT", "CALL", "INSERT", "REPLACE", "UPDATE", "DELETE", "COMMIT", "ROLLBACK",
        "SAVEPOINT", "BEGIN", "END", "ABORT", "START", "RELEASE", "SET", "USE", "DESCRIBE",
        "DESC", "SHOW"] := by
    cases d <;> decide
  refine opened_foreign (fun r hr hw => ?_) ts
  have hw := hrules r hr _ hw
  simp only [List.mem_cons, List.not_mem_nil, or_false] at hw h₁ h₆ h₁₁
  tauto

theorem verdict?_eq_keywordStatement? (d : Dialect) (tokens : List Token) :
    (d.table.verdict? tokens).bind Verdict.statement? = d.keywordStatement? tokens := by
  have hopens : (fun t => !d.table.opens t) = fun t => !d.openers.contains t.folded :=
    funext fun t => by rw [opens_table]
  unfold RuleTable.verdict? RuleTable.fromOpener keywordStatement?
  rw [hopens]
  cases hts : tokens.dropWhile fun t => !d.openers.contains t.folded with
  | nil => cases d <;> rfl
  | cons t ts =>
    have ht : t.folded ∈ d.openers := by
      have hnot := List.head?_dropWhile_not (fun t => !d.openers.contains t.folded) tokens
      rw [hts] at hnot
      exact List.contains_iff_mem.1 (by simpa using hnot)
    rw [RuleTable.find?_cons d.steps_eq_cons]
    exact opened_eq_openedStatement? ht ts

/-- **The classification is the keyword table**: a statement is what the table lists for its first
opener and the words behind it, and where the table lists nothing the classification fails with
the text as received. -/
theorem classify_eq_keywordStatement? (d : Dialect) (sql : String) :
    d.classify sql = (d.keywordStatement? (d.tokens sql)).elim (.error ⟨sql⟩) .ok := by
  rw [← verdict?_eq_keywordStatement?, ← statement_examine]
  unfold classify
  cases (d.examine sql).statement with
  | none => rfl
  | some statement => rfl

/-- A bracket is noise, and `IGNORE` stands behind the one modifier that an insert may have.  Only
one of the dialects has a row for `REPLACE`. -/
theorem classify_eq_keywordStatement?_insert :
    mySql.classify "(insert Delayed ignore into t" = .ok (.mutation (.insert ⟨false, true⟩)) ∧
      mySql.classify "replace into t" = .ok (.mutation (.insert ⟨true, false⟩)) ∧
      sql92.classify "replace into t" = .error ⟨"replace into t"⟩ := by
  have hinsert : mySql.keywordStatement? (mySql.tokens "(insert Delayed ignore into t") =
      some (.mutation (.insert ⟨false, true⟩)) := by cbv
  have hreplace : mySql.keywordStatement? (mySql.tokens "replace into t") =
      some (.mutation (.insert ⟨true, false⟩)) := by cbv
  have hmissing : sql92.keywordStatement? (sql92.tokens "replace into t") = none := by cbv
  simp only [classify_eq_keywordStatement?, hinsert, hreplace, hmissing, Option.elim_some,
    Option.elim_none, and_self]

end Dialect

end SqlTriage

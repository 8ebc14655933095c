import SqlTriage.Classify
import SqlTriage.Proofs.Lexical.Tiling
import SqlTriage.Proofs.Lexical.Word
import SqlTriage.Proofs.Rule.Window

/-!
# Verdicts

What the rules find out about a statement before names are cut from its text: the family, the
modifiers of an insert and the token that is captured.  A table reaches its verdict on tokens
alone (`RuleTable.verdict?`), and the classification is the statement of that verdict
(`toOption_classify`): the window that bounds the lookahead loses nothing, and a captured token
is found again in the stripped text at its offset.
-/

namespace SqlTriage

open SqlTriage.Text SqlTriage.Lexical

/-- What the rules find out about a statement. -/
structure Verdict where
  family : Family
  modifiers : InsertModifiers
  /-- The captured token, if there is one. -/
  target : Option Token

namespace Verdict

/-- The statement of a verdict. -/
def statement? (v : Verdict) : Option Statement :=
  match v.family with
  | .query => some .query
  | .insert | .replace => some (.mutation (.insert v.modifiers))
  | .update => some (.mutation .update)
  | .delete => some (.mutation .delete)
  | .transactionControl => some .transactionControl
  | .sessionSet => some .sessionSet
  | .useSchema => v.target.map fun t => .useSchema t.text
  | .describe => v.target.map fun t => .describe t.text
  | .showDatabases => some .showDatabases
  | .showTableStatus => some (.showTableStatus (v.target.map Token.text))
  | .showTables => some .showTables
  | .showColumns => v.target.map fun t => .showColumns t.text
  | .showIndex => v.target.map fun t => .showIndex t.text
  | .showCreateTable => v.target.map fun t => .showCreateTable (.ofName t.offset t.text)
  | .showOther => some .showOther

theorem statement?_eq_showCreateTable {v : Verdict} {ref : TableReference}
    (h : v.statement? = some (.showCreateTable ref)) :
    v.family = .showCreateTable ∧ ∃ t, v.target = some t ∧ ref = .ofName t.offset t.text := by
  obtain ⟨family, modifiers, target⟩ := v
  cases family <;> cases target <;> cases h
  exact ⟨rfl, _, rfl, rfl⟩

end Verdict

/-- The verdict of a match, if the capture of its rule is there. -/
def RuleMatch.verdict? (m : RuleMatch) (tokens : List Token) : Option Verdict :=
  (m.captured? tokens).map fun target => ⟨m.rule.family, m.modifiers tokens, target⟩

/-- The token that the matched rule captures. -/
def Examination.captured (e : Examination) : Option Token :=
  e.matched.bind fun m => (m.captured? e.window).join

namespace RuleTable

/-- The tokens from the first on that opens a statement. -/
def fromOpener (table : RuleTable) (tokens : List Token) : List Token :=
  tokens.dropWhile fun t => !table.opens t

/-- The verdict of a table on all tokens of a statement. -/
def verdict? (table : RuleTable) (tokens : List Token) : Option Verdict :=
  (table.find? (table.fromOpener tokens)).bind fun m => m.verdict? (table.fromOpener tokens)

/-- What stands before the first opener is noise, also where other tokens follow the opener. -/
theorem exists_noise {table : RuleTable} {ts rest : List Token} {u : Token}
    (h : table.fromOpener ts = u :: rest) :
    ∃ noise, ts = noise ++ u :: rest ∧
      ∀ rest', table.fromOpener (noise ++ u :: rest') = u :: rest' := by
  refine ⟨ts.takeWhile fun t => !table.opens t, ?_, fun rest' => ?_⟩
  · rw [← h]
    exact List.takeWhile_append_dropWhile.symm
  · have hopens := any_head?_dropWhile (fun t => !table.opens t) ts
    change (table.fromOpener ts).head?.any _ = false at hopens
    rw [h] at hopens
    unfold fromOpener
    rw [List.dropWhile_append_of_pos fun t => List.mem_takeWhile_imp]
    exact List.dropWhile_cons_of_neg (Bool.eq_false_iff.1 hopens)

end RuleTable

/-! ## Captured tokens -/

theorem RuleMatch.mem_of_identifierAt? {tokens : List Token} {i : Nat} {t : Token}
    (h : identifierAt? tokens i = some t) : t ∈ tokens ∧ t.isIdentifier = true := by
  rw [identifierAt?, Option.filter_eq_some_iff] at h
  exact ⟨List.mem_of_getElem? h.1, h.2⟩

/-- A captured token is one of the tokens that can name something. -/
theorem RuleMatch.mem_of_captured? {m : RuleMatch} {tokens : List Token} {t : Token}
    (h : m.captured? tokens = some (some t)) : t ∈ tokens ∧ t.isIdentifier = true := by
  have hid : ∀ i, (identifierAt? tokens i).map some = some (some t) →
      t ∈ tokens ∧ t.isIdentifier = true := by
    intro i hi
    obtain ⟨u, hu, hut⟩ := Option.map_eq_some_iff.1 hi
    cases hut
    exact mem_of_identifierAt? hu
  unfold captured? at h
  split at h
  · cases h
  · exact hid _ h
  · exact hid _ h
  · split at h
    · exact hid _ h
    · cases h
  · split at h
    · exact hid _ h
    · cases h

theorem RuleTable.mem_of_verdict? {table : RuleTable} {tokens : List Token} {v : Verdict}
    (h : table.verdict? tokens = some v) {t : Token} (ht : v.target = some t) :
    t ∈ tokens ∧ t.isIdentifier = true := by
  unfold verdict? at h
  obtain ⟨m, -, hv⟩ := Option.bind_eq_some_iff.1 h
  obtain ⟨target, htarget, rfl⟩ := Option.map_eq_some_iff.1 hv
  obtain rfl : target = some t := ht
  obtain ⟨hm, hident⟩ := RuleMatch.mem_of_captured? htarget
  exact ⟨(List.dropWhile_sublist _).subset hm, hident⟩

/-- A token that stands in the stripped text at its offset is the reference it makes. -/
theorem RuleMatch.reference?_of_standsIn {stripped : String} {t : Token}
    (h : t.StandsIn 0 stripped.toList) :
    reference? stripped t = some (.ofName t.offset t.text) := by
  obtain ⟨a, b, hs, ho⟩ := h
  rw [Nat.zero_add] at ho
  rw [reference?, hs, ho, byteSlice?_append]
  simp

/-- The statement of a match is that of its verdict. -/
theorem RuleMatch.statement?_eq_verdict? {m : RuleMatch} {stripped : String} {tokens : List Token}
    (h : ∀ t ∈ tokens, t.StandsIn 0 stripped.toList) :
    m.statement? stripped tokens = (m.verdict? tokens).bind Verdict.statement? := by
  unfold statement? verdict?
  cases hc : m.captured? tokens with
  | none => rfl
  | some target =>
    cases target with
    | none => cases hf : m.rule.family <;> simp [Verdict.statement?]
    | some t =>
      have ht := reference?_of_standsIn (h t (mem_of_captured? hc).1)
      cases hf : m.rule.family <;> simp [Verdict.statement?, ht]

/-! ## Classification -/

namespace Dialect

/-- The tokens of a statement, without its comments. -/
def tokens (d : Dialect) (sql : String) : List Token :=
  d.lexicalRules.tokens (d.lexicalRules.stripped sql)

theorem standsIn_of_mem_tokens {d : Dialect} {sql : String} {t : Token} (h : t ∈ d.tokens sql) :
    t.StandsIn 0 (d.lexicalRules.stripped sql).toList :=
  ((tiles_tokensFrom _ _ _).standsIn h).2

/-- A token that can name something is a word of the stripped text. -/
theorem hasWord_of_tokens {d : Dialect} {sql : String} {ts us : List Token} {t : Token}
    (h : d.tokens sql = ts ++ t :: us) (ht : t.isIdentifier = true) :
    HasWord 0 (scan d.lexicalRules (strip d.lexicalRules sql.toList)) ts t := by
  unfold tokens LexicalRules.tokens at h
  rw [toList_stripped, tokensFrom_eq (isUncommented_strip _)] at h
  exact hasWord_of_tokensOf h ht

theorem window_examine (d : Dialect) (sql : String) :
    (d.examine sql).window = (d.table.fromOpener (d.tokens sql)).take d.table.lookahead := rfl

theorem matched_examine (d : Dialect) (sql : String) :
    (d.examine sql).matched = d.table.find? (d.table.fromOpener (d.tokens sql)) := by
  change d.table.find? (d.examine sql).window = _
  rw [window_examine, RuleTable.find?_take (Nat.le_refl _)]

/-- The window loses nothing: the statement is that of all tokens from the opener on. -/
theorem statement_examine_fromOpener (d : Dialect) (sql : String) :
    (d.examine sql).statement =
      (d.table.find? (d.table.fromOpener (d.tokens sql))).bind fun m =>
        m.statement? (d.lexicalRules.stripped sql) (d.table.fromOpener (d.tokens sql)) := by
  change (d.examine sql).matched.bind (fun m =>
    m.statement? (d.lexicalRules.stripped sql) (d.examine sql).window) = _
  rw [matched_examine, window_examine]
  cases hm : d.table.find? (d.table.fromOpener (d.tokens sql)) with
  | none => rfl
  | some m => exact RuleMatch.statement?_take hm (Nat.le_refl _) _

theorem statement_examine (d : Dialect) (sql : String) :
    (d.examine sql).statement = (d.table.verdict? (d.tokens sql)).bind Verdict.statement? := by
  have hsub : ∀ t ∈ d.table.fromOpener (d.tokens sql),
      t.StandsIn 0 (d.lexicalRules.stripped sql).toList :=
    fun t ht => standsIn_of_mem_tokens ((List.dropWhile_sublist _).subset ht)
  rw [statement_examine_fromOpener, RuleTable.verdict?]
  cases d.table.find? (d.table.fromOpener (d.tokens sql)) with
  | none => rfl
  | some m => exact RuleMatch.statement?_eq_verdict? hsub

/-- The captured token is that of the verdict. -/
theorem captured_examine (d : Dialect) (sql : String) :
    (d.examine sql).captured = (d.table.verdict? (d.tokens sql)).bind Verdict.target := by
  rw [Examination.captured, matched_examine, window_examine, RuleTable.verdict?]
  cases hm : d.table.find? (d.table.fromOpener (d.tokens sql)) with
  | none => rfl
  | some m =>
    rw [Option.bind_some, Option.bind_some, RuleMatch.captured?_take (RuleMatch.depth_of_find? hm)]
    unfold RuleMatch.verdict?
    cases m.captured? (d.table.fromOpener (d.tokens sql)) <;> rfl

/-- Classification succeeds with the statement of the verdict, where there is one. -/
theorem toOption_classify (d : Dialect) (sql : String) :
    (d.classify sql).toOption = (d.table.verdict? (d.tokens sql)).bind Verdict.statement? := by
  rw [← statement_examine, classify]
  cases (d.examine sql).statement <;> rfl

theorem classify_eq_ok_iff {d : Dialect} {sql : String} {st : Statement} :
    d.classify sql = .ok st ↔
      (d.table.verdict? (d.tokens sql)).bind Verdict.statement? = some st := by
  rw [← statement_examine, classify]
  cases (d.examine sql).statement with
  | none => exact ⟨nofun, nofun⟩
  | some st' => rw [Except.ok.injEq, Option.some.injEq]

end Dialect

end SqlTriage

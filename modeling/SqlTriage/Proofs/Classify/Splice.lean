import Mathlib
import SqlTriage.Proofs.Lexical.Splice
import SqlTriage.Proofs.Rule.Terminator

/-!
# Another name for a table

The rules of MySQL look at three tokens at most, and the fourth one of a `SHOW CREATE TABLE` is
its name (`exists_words_of_verdict?`).  Whatever name is put in its place in the stripped text is
found there again (`classify_splice`).
-/

namespace SqlTriage

open SqlTriage.Text SqlTriage.Lexical RuleMatch

/-- The text with another name in the place of the reference, if that place is in the text. -/
def TableReference.splice? (r : TableReference) (text name : String) : Option String := do
  let (front, _) ← splitAtByte? r.start text.toList
  let (_, back) ← splitAtByte? r.stop text.toList
  return String.ofList (front ++ (name.toList ++ back))

theorem TableReference.splice?_append (a b : List Char) {w : List Char} (name : String) :
    (ofName (byteLength a) (String.ofList w)).splice? (String.ofList (a ++ (w ++ b))) name =
      some (String.ofList (a ++ (name.toList ++ b))) := by
  have hstop : (ofName (byteLength a) (String.ofList w)).stop = byteLength (a ++ w) := by
    rw [stop, start_ofName, length_ofName, String.toList_ofList, byteLength_append]
  have hfront := splitAtByte?_append a (w ++ b)
  have hback := splitAtByte?_append (a ++ w) b
  rw [List.append_assoc] at hback
  rw [splice?, start_ofName, hstop, String.toList_ofList, hfront, hback]
  rfl

/-- The name may give way to another one, whatever tokens follow: no rule looks at it. -/
theorem RuleTable.verdict?_replace {table : RuleTable}
    (htable : ∀ r ∈ table.rules, r.steps.length ≤ 3)
    {s c k t : Token} {us : List Token} {family : Family} {steps : List Step}
    (h : table.find? (s :: c :: k :: us) = some ⟨⟨family, steps, .tableReference⟩, 3⟩)
    (ht : t.isIdentifier = true) (us' : List Token) :
    ((table.find? (s :: c :: k :: t :: us')).bind fun m => m.verdict? (s :: c :: k :: t :: us')) =
      some ⟨family, modifiers ⟨⟨family, steps, .tableReference⟩, 3⟩ [s, c, k], some t⟩ := by
  have hsame : table.find? (s :: c :: k :: t :: us') = table.find? (s :: c :: k :: us) := by
    rw [← find?_take_of_steps htable (s :: c :: k :: t :: us'),
      ← find?_take_of_steps htable (s :: c :: k :: us)]
    rfl
  have hname : identifierAt? (s :: c :: k :: t :: us') 3 = some t :=
    Option.filter_eq_some_iff.2 ⟨rfl, ht⟩
  rw [hsame, h, Option.bind_some, RuleMatch.verdict?, captured?_tableReference, hname]
  rfl

namespace Dialect

/-- The one rule of MySQL whose statements show how a table is created. -/
def showCreateTableRule : Rule :=
  ⟨.showCreateTable, [showStep, .keyword ["CREATE"], .keyword ["TABLE"]], .tableReference⟩

theorem eq_showCreateTableRule :
    ∀ r ∈ mySql.table.rules, r.family = .showCreateTable → r = showCreateTableRule := by
  decide

theorem length_steps_mySql : ∀ r ∈ mySql.table.rules, r.steps.length ≤ 3 := by
  decide

/-- The verdict that a table's creation is shown is reached by the rule for it, on three words with
the name behind them. -/
theorem exists_words_of_verdict? {ts : List Token} {v : Verdict}
    (h : mySql.table.verdict? ts = some v) (hf : v.family = .showCreateTable) {t : Token}
    (ht : v.target = some t) :
    ∃ s c k us, mySql.table.fromOpener ts = s :: c :: k :: t :: us ∧ t.isIdentifier = true ∧
      mySql.table.find? (s :: c :: k :: t :: us) = some ⟨showCreateTableRule, 3⟩ := by
  unfold RuleTable.verdict? at h
  obtain ⟨⟨rule, consumed⟩, hm, hv⟩ := Option.bind_eq_some_iff.1 h
  obtain ⟨hr, hk⟩ := RuleTable.find?_eq_some hm
  obtain ⟨target, hc, rfl⟩ := Option.map_eq_some_iff.1 hv
  obtain rfl := eq_showCreateTableRule rule hr hf
  obtain rfl : target = some t := ht
  -- the three words
  obtain ⟨s, ts₁, j₁, hs, -, hk₁, rfl⟩ := exists_of_consumedBy?_keyword hk
  obtain ⟨c, ts₂, j₂, rfl, -, hk₂, rfl⟩ := exists_of_consumedBy?_keyword hk₁
  obtain ⟨k, ts₃, j₃, rfl, -, hk₃, rfl⟩ := exists_of_consumedBy?_keyword hk₂
  obtain rfl : 0 = j₃ := Option.some.inj hk₃
  rw [hs] at hm hc
  -- and the name behind them
  rw [showCreateTableRule, captured?_tableReference] at hc
  obtain ⟨u, hu, hut⟩ := Option.map_eq_some_iff.1 hc
  obtain rfl : u = t := Option.some.inj hut
  rw [identifierAt?, Option.filter_eq_some_iff] at hu
  cases ts₃ with
  | nil => cases hu.1
  | cons u' us =>
    obtain rfl : u' = u := Option.some.inj hu.1
    exact ⟨s, c, k, us, hs, hu.2, hm⟩

/-- In the stripped text of a statement another name may take the place of a token that can name
something: it becomes a token at the same place, behind the same tokens. -/
theorem exists_splice? {d : Dialect} {sql : String} {ts us : List Token} {t : Token}
    (h : d.tokens sql = ts ++ t :: us) (ht : t.isIdentifier = true) {name : String}
    (hn : IsName d.lexicalRules name) :
    ∃ text us', (TableReference.ofName t.offset t.text).splice? (d.lexicalRules.stripped sql) name =
      some text ∧ d.tokens text = ts ++ ⟨name, t.offset⟩ :: us' := by
  obtain ⟨pre, run, post, hscan, hbetween, rfl, rfl⟩ := hasWord_of_tokens h ht
  obtain ⟨hstrip, us', htokens⟩ := exists_tokensFrom_splice (strip_strip _) hscan hbetween hn
  have htext : d.lexicalRules.stripped sql =
      String.ofList (textOf pre ++ (textOf run ++ textOf post)) := by
    rw [← textOf_append, ← textOf_append, ← hscan, textOf_scan]
    rfl
  refine ⟨String.ofList (textOf pre ++ (name.toList ++ textOf post)), us', ?_, ?_⟩
  · rw [htext, Nat.zero_add]
    exact TableReference.splice?_append _ _ name
  · unfold tokens LexicalRules.tokens
    rw [toList_stripped, String.toList_ofList, hstrip, htokens, Nat.zero_add]

/-- **A table may be renamed in place.** Where MySQL finds a statement that shows how a table is
created, another name in the place of the table's name in the stripped text makes such a statement
with that name at that place. -/
theorem classify_splice {sql : String} {ref : TableReference}
    (h : mySql.classify sql = .ok (.showCreateTable ref)) {name : String}
    (hn : IsName mySql.lexicalRules name) :
    ∃ text ref', ref.splice? (mySql.lexicalRules.stripped sql) name = some text ∧
      mySql.classify text = .ok (.showCreateTable ref') ∧
      ref'.start = ref.start ∧ ref'.length = byteLength name.toList ∧ ref'.name = name := by
  rw [classify_eq_ok_iff] at h
  obtain ⟨v, hv, hst⟩ := Option.bind_eq_some_iff.1 h
  obtain ⟨hf, t, ht, rfl⟩ := Verdict.statement?_eq_showCreateTable hst
  obtain ⟨s, c, k, us, hopener, hident, hfind⟩ := exists_words_of_verdict? hv hf ht
  obtain ⟨noise, htokens, hnoise⟩ := RuleTable.exists_noise hopener
  have hfront : mySql.tokens sql = (noise ++ [s, c, k]) ++ t :: us := by
    rw [htokens, List.append_assoc]
    rfl
  obtain ⟨text, us', hsplice, hreplaced⟩ := exists_splice? hfront hident hn
  have hname : Token.isIdentifier ⟨name, t.offset⟩ = true := by
    rw [Token.isIdentifier, hn.head]
    rfl
  have hverdict : mySql.table.verdict? (mySql.tokens text) =
      some ⟨.showCreateTable, RuleMatch.modifiers ⟨showCreateTableRule, 3⟩ [s, c, k],
        some ⟨name, t.offset⟩⟩ := by
    rw [hreplaced, List.append_assoc, List.cons_append, RuleTable.verdict?, hnoise]
    exact RuleTable.verdict?_replace length_steps_mySql hfind hname us'
  refine ⟨text, .ofName t.offset name, hsplice, ?_, rfl, rfl, rfl⟩
  rw [classify_eq_ok_iff, hverdict]
  rfl

/-- A quoted name takes the place of an unquoted one, between a comment and a semicolon. -/
theorem classify_splice_quoted :
    ∃ text ref', TableReference.splice? ⟨20, 1, "t"⟩ (mySql.lexicalRules.stripped
        "show create table /* ? */ t;") "`a b`.c" = some text ∧
      mySql.classify text = .ok (.showCreateTable ref') ∧
      ref'.start = 20 ∧ ref'.length = 7 ∧ ref'.name = "`a b`.c" := by
  have hscan : scan mySql.lexicalRules "`a b`.c".toList =
      [.quoted "`a b`".toList true, .plain '.', .plain 'c'] := by cbv
  have hn : IsName mySql.lexicalRules "`a b`.c" := by
    refine ⟨by cbv, by cbv, by decide, ?_⟩
    rw [hscan]
    simp
  exact classify_splice (by cbv) hn

end Dialect

end SqlTriage

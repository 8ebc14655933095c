import Mathlib
import SqlTriage.Proofs.Classify.Agreement
import SqlTriage.Proofs.Classify.FirstStatement

/-!
# A semicolon at the end

A semicolon behind a text that ends at top level is the last token (`tokens_last_semicolon`).  It
is no name and no word of a rule, so that it changes a classification only where it is taken as
any token, behind a `SET` or `SHOW` with nothing else (`classify_semicolon`).  There it does: the
text is a statement with the semicolon and none without it (`bare_set_semicolon`).
-/

namespace SqlTriage

open SqlTriage.Text SqlTriage.Lexical

namespace Dialect

variable {d : Dialect} {sql : String}

/-- What the dialect makes of an opener in front of any token that is no word of its rules. -/
def anyStatement? (d : Dialect) (opener : String) : Option Statement :=
  if opener = "SET" then some .sessionSet
  else if opener = "SHOW" ∧ d ≠ .sql92 then some .showOther
  else none

/-- The opener of a statement with nothing behind it. -/
def loneOpener? (d : Dialect) (sql : String) : Option String :=
  match d.table.fromOpener (d.tokens sql) with
  | [u] => some u.folded
  | _ => none

theorem loneOpener?_eq_some_iff {opener : String} :
    d.loneOpener? sql = some opener ↔
      ∃ u, d.table.fromOpener (d.tokens sql) = [u] ∧ u.folded = opener := by
  unfold loneOpener?
  split
  · simp_all
  · rename_i hne
    constructor
    · exact nofun
    · rintro ⟨u, hu, -⟩
      exact absurd hu (hne u)

/-! ## The last token -/

theorem folded_semicolon (o : Nat) : Token.folded ⟨";", o⟩ = ";" := by
  rw [Token.folded]
  cbv

theorem tokens_last_semicolon (h : EndsAtTopLevel d.lexicalRules sql.toList) :
    ∃ o, d.tokens (sql ++ ";") = d.tokens sql ++ [⟨";", o⟩] := by
  have htext : (sql ++ ";").toList = sql.toList ++ [';'] := by simp
  unfold tokens LexicalRules.tokens
  rw [toList_stripped, toList_stripped, htext]
  exact exists_tokens_last_semicolon h

theorem opens_semicolon (d : Dialect) (o : Nat) : d.table.opens ⟨";", o⟩ = false := by
  rw [opens_table, folded_semicolon]
  cases d <;> decide

/-! ## Openers alone -/

/-- From its opener on a statement is what the keyword table lists for it. -/
theorem classify_of_opener {u : Token} {us : List Token}
    (h : d.table.fromOpener (d.tokens sql) = u :: us) :
    d.classify sql = (d.openedStatement? u.folded us).elim (.error ⟨sql⟩) .ok := by
  have hopens : (fun t => !d.table.opens t) = fun t => !d.openers.contains t.folded :=
    funext fun t => by rw [opens_table]
  unfold RuleTable.fromOpener at h
  rw [hopens] at h
  apply classify_eq_of_keywordStatement?
  rw [keywordStatement?, h]

theorem openedStatement?_nil {opener : String} {st : Statement}
    (h : d.anyStatement? opener = some st) : d.openedStatement? opener [] = none := by
  unfold anyStatement? at h
  split_ifs at h with hset hshow
  · rw [hset]
    rfl
  · rw [hshow.1]
    rfl

theorem openedStatement?_any {opener : String} {st : Statement}
    (h : d.anyStatement? opener = some st) {t : Token} (ht : t.folded = ";") :
    d.openedStatement? opener [t] = some st := by
  have hword {words : List String} (hw : ";" ∉ words) (i : Nat) : wordAt [t] i words = false := by
    cases i with
    | zero =>
      have hnot : t.folded ∉ words := by rwa [ht]
      exact Token.isOneOf_eq_false_iff.2 hnot
    | succ i => rfl
  unfold anyStatement? at h
  split_ifs at h with hset hshow
  · rw [hset, ← h]
    have hcontrols : d.setsTransaction [t] = false := by
      cases d <;> simp [setsTransaction, hword]
    show d.setStatement? [t] = _
    rw [setStatement?, hcontrols]
    rfl
  · rw [hshow.1, ← h]
    show d.showStatement? [t] = _
    cases d with
    | mySql => simp [showStatement?, mySqlShowStatement?, hword]
    | postgreSql => rfl
    | sql92 => exact absurd rfl hshow.2

theorem takesAny (d : Dialect) :
    ∀ r ∈ d.table.rules, Step.any ∈ r.steps → r.steps = [.keyword r.openers, .any] ∧
      ∀ w ∈ r.openers, d.anyStatement? w ≠ none := by
  cases d <;> decide

/-! ## The semicolon -/

/-- **A semicolon at the end is no part of the statement**, except behind an opener that takes any
token and has none: there the text is no statement without the semicolon and is one with it. -/
theorem classify_semicolon (d : Dialect) {sql : String}
    (h : EndsAtTopLevel d.lexicalRules sql.toList) :
    (∀ st, (d.loneOpener? sql).bind d.anyStatement? = some st →
      d.classify sql = .error ⟨sql⟩ ∧ d.classify (sql ++ ";") = .ok st) ∧
    ((d.loneOpener? sql).bind d.anyStatement? = none →
      (d.classify (sql ++ ";")).toOption = (d.classify sql).toOption) := by
  obtain ⟨o, htokens⟩ := tokens_last_semicolon h
  constructor
  · intro st hst
    obtain ⟨opener, hopener, hany⟩ := Option.bind_eq_some_iff.1 hst
    obtain ⟨u, hu, rfl⟩ := loneOpener?_eq_some_iff.1 hopener
    have hbehind : d.table.fromOpener (d.tokens (sql ++ ";")) = [u, ⟨";", o⟩] := by
      rw [htokens, RuleTable.fromOpener_append hu, hu]
      rfl
    rw [classify_of_opener hu, classify_of_opener hbehind, openedStatement?_nil hany,
      openedStatement?_any hany (folded_semicolon o)]
    exact ⟨rfl, rfl⟩
  · intro hnone
    have hend : d.table.TerminatedBy (Token.folded ⟨";", o⟩) := by
      rw [folded_semicolon]
      exact d.terminatedBy_semicolon
    have hname : Token.isIdentifier ⟨";", o⟩ = false :=
      isIdentifier_eq_false_of_isMark (g := .plain ';') (by decide) o
    have hbare : ¬ d.table.IsBare (d.tokens sql) := by
      rintro ⟨u, hu, r, hr, hmem, hw⟩
      rw [loneOpener?_eq_some_iff.2 ⟨u, hu, rfl⟩, Option.bind_some] at hnone
      exact (d.takesAny r hr hmem).2 _ hw hnone
    rw [toOption_classify, toOption_classify, htokens,
      RuleTable.verdict?_append_last hend (fun r hr hmem => (d.takesAny r hr hmem).1) hname
        (d.opens_semicolon o) hbare]

/-- A comment is nothing behind an opener, and a table's name is something. -/
theorem classify_semicolon_show :
    mySql.classify "(Show /* ; */" = .error ⟨"(Show /* ; */"⟩ ∧
      mySql.classify ("(Show /* ; */" ++ ";") = .ok .showOther ∧
      (mySql.classify ("show create table `a;b`" ++ ";")).toOption =
        (mySql.classify "show create table `a;b`").toOption := by
  have hshow : EndsAtTopLevel mySql.lexicalRules "(Show /* ; */".toList :=
    endsAtTopLevel_iff_all.2 (by cbv)
  have hcreate : EndsAtTopLevel mySql.lexicalRules "show create table `a;b`".toList :=
    endsAtTopLevel_iff_all.2 (by cbv)
  obtain ⟨hwithout, hwith⟩ := (classify_semicolon mySql hshow).1 .showOther (by cbv)
  exact ⟨hwithout, hwith, (classify_semicolon mySql hcreate).2 (by cbv)⟩

/-- A `SET` alone is no statement, but in every dialect it is one with a semicolon behind it. -/
theorem bare_set_semicolon :
    (∀ d : Dialect, EndsAtTopLevel d.lexicalRules "SET".toList ∧
      d.classify "SET" = .error ⟨"SET"⟩ ∧ d.classify ("SET" ++ ";") = .ok .sessionSet) ∧
    ¬ ∀ (d : Dialect) (sql : String), EndsAtTopLevel d.lexicalRules sql.toList →
      (d.classify (sql ++ ";")).toOption = (d.classify sql).toOption := by
  have hset (d : Dialect) : EndsAtTopLevel d.lexicalRules "SET".toList ∧
      d.classify "SET" = .error ⟨"SET"⟩ ∧ d.classify ("SET" ++ ";") = .ok .sessionSet := by
    have htop : EndsAtTopLevel d.lexicalRules "SET".toList :=
      endsAtTopLevel_iff_all.2 (by cases d <;> cbv)
    exact ⟨htop, by cases d <;> cbv, by cases d <;> cbv⟩
  refine ⟨hset, fun hsame => ?_⟩
  obtain ⟨htop, hwithout, hwith⟩ := hset sql92
  have hsame := hsame sql92 "SET" htop
  rw [hwithout, hwith] at hsame
  cases hsame

end Dialect

end SqlTriage

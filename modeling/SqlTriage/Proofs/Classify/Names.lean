import Mathlib
import SqlTriage.Proofs.Classify.Verdict
import SqlTriage.Proofs.Lexical.Verbatim

/-!
# Captured names

The names of a classified statement are verbatim (`classify_names`): each is one token of the
stripped text and stands in the statement as it was received, with no comment inside it.  The
reference to a table is the part of the stripped text at its place.
-/

namespace SqlTriage

open SqlTriage.Text SqlTriage.Lexical

/-- The names that a statement captured. -/
def Statement.names : Statement → List String
  | .useSchema name | .describe name | .showColumns name | .showIndex name => [name]
  | .showTableStatus name => name.toList
  | .showCreateTable reference => [reference.name]
  | _ => []

/-- The name is one token of the stripped statement, and it is copied from the statement. -/
structure Dialect.NamedIn (d : Dialect) (sql name : String) : Prop where
  ne_empty : name ≠ ""
  head : name.toList.head?.any isPunctuation = false
  token : ∃ t ∈ d.tokens sql, t.text = name
  isInfix : name.toList <:+: sql.toList
  copied : CopiedFrom d.lexicalRules sql.toList name.toList

theorem Verdict.exists_target_of_mem_names {v : Verdict} {st : Statement}
    (h : v.statement? = some st) {name : String} (hname : name ∈ st.names) :
    ∃ t, v.target = some t ∧ t.text = name := by
  obtain ⟨family, modifiers, target⟩ := v
  cases family <;> cases target <;> cases h <;>
    first
    | exact absurd hname List.not_mem_nil
    | exact ⟨_, rfl, (List.mem_singleton.1 hname).symm⟩

namespace Dialect

/-- A token that can name something is a name in the statement. -/
theorem namedIn_of_mem_tokens {d : Dialect} {sql : String} {t : Token} (h : t ∈ d.tokens sql)
    (ht : t.isIdentifier = true) : d.NamedIn sql t.text := by
  obtain ⟨ts, us, htokens⟩ := List.append_of_mem h
  obtain ⟨pre, run, post, hscan, hbetween, -, rfl⟩ := hasWord_of_tokens htokens ht
  have hcopied := copiedFrom_of_wordBetween hscan hbetween
  rw [← String.toList_ofList (l := textOf run)] at hcopied
  refine ⟨?_, ?_, ⟨_, h, rfl⟩, hcopied.isInfix, hcopied⟩
  · obtain ⟨g, run, rfl⟩ := List.exists_cons_of_ne_nil hbetween.ne_nil
    have hmem : g ∈ scan d.lexicalRules (strip d.lexicalRules sql.toList) := by
      rw [hscan]
      simp
    have hg := text_ne_nil_of_mem_scan hmem
    intro hempty
    rw [← String.toList_eq_nil_iff, String.toList_ofList, textOf_cons] at hempty
    exact hg (List.append_eq_nil_iff.1 hempty).1
  · simpa [Token.isIdentifier] using ht

/-- **Names are verbatim.** Every name of a classified statement is one token of the stripped
text that begins with no punctuation, and a part of the statement as received.  A table reference
is the part of the stripped text in its range of bytes. -/
theorem classify_names (d : Dialect) {sql : String} {st : Statement}
    (h : d.classify sql = .ok st) :
    (∀ name ∈ st.names, d.NamedIn sql name) ∧
      ∀ ref, st = .showCreateTable ref →
        byteSlice? ref.start ref.length (d.lexicalRules.stripped sql).toList =
            some ref.name.toList ∧
          ref.start + ref.length ≤ byteLength (d.lexicalRules.stripped sql).toList ∧
          ref.length = byteLength ref.name.toList := by
  rw [classify_eq_ok_iff] at h
  obtain ⟨v, hv, hst⟩ := Option.bind_eq_some_iff.1 h
  constructor
  · intro name hname
    obtain ⟨t, ht, rfl⟩ := v.exists_target_of_mem_names hst hname
    obtain ⟨hmem, hident⟩ := RuleTable.mem_of_verdict? hv ht
    exact namedIn_of_mem_tokens hmem hident
  · rintro ref rfl
    obtain ⟨-, t, ht, rfl⟩ := Verdict.statement?_eq_showCreateTable hst
    obtain ⟨a, b, htext, hoffset⟩ := standsIn_of_mem_tokens (RuleTable.mem_of_verdict? hv ht).1
    rw [Nat.zero_add] at hoffset
    refine ⟨?_, ?_, rfl⟩
    · rw [htext, hoffset]
      exact byteSlice?_append a t.text.toList b
    · rw [htext, hoffset, byteLength_append, byteLength_append]
      show byteLength a + byteLength t.text.toList ≤ _
      omega

/-- The comment before a name and the blank behind its open quote are no part of it. -/
theorem classify_names_use : mySql.NamedIn "use/* it's */`Ä " "`Ä" := by
  have h : mySql.classify "use/* it's */`Ä " = .ok (.useSchema "`Ä") := by cbv
  exact (classify_names mySql h).1 "`Ä" List.mem_cons_self

end Dialect

end SqlTriage

import Mathlib
import SqlTriage.Report
import SqlTriage.Proofs.Classify.Names
import SqlTriage.Proofs.Text.Words

/-!
# Reports as lines of text

A report in the text format is the summary, a tab and the squeezed statement or message.  The second
field holds no tab and no line end.  The first holds one exactly if a captured name does, where it
stands in a quoted run of the statement (`report_text`).  Such a report is no line of two fields
(`line_end_in_name`).
-/

namespace SqlTriage

open SqlTriage.Text SqlTriage.Lexical

/-- Nothing in the text ends a field or a line. -/
def IsFlat (s : List Char) : Prop :=
  '\t' ∉ s ∧ '\n' ∉ s ∧ '\r' ∉ s

instance : DecidablePred IsFlat := fun s =>
  inferInstanceAs (Decidable ('\t' ∉ s ∧ '\n' ∉ s ∧ '\r' ∉ s))

/-- The text is one line, and one tab divides it into two fields. -/
structure IsTwoFields (line : List Char) : Prop where
  noLineFeed : '\n' ∉ line
  noReturn : '\r' ∉ line
  oneTab : line.count '\t' = 1

/-! ## Fields -/

theorem isFlat_append {s t : List Char} : IsFlat (s ++ t) ↔ IsFlat s ∧ IsFlat t := by
  simp only [IsFlat, List.mem_append, not_or]
  tauto

theorem IsFlat.subset {s t : List Char} (h : IsFlat s) (ht : t ⊆ s) : IsFlat t :=
  ⟨fun hm => h.1 (ht hm), fun hm => h.2.1 (ht hm), fun hm => h.2.2 (ht hm)⟩

theorem isFlat_of_isSqueezed {s : List Char} (h : IsSqueezed s) : IsFlat s :=
  ⟨h.notMem (by decide) (by decide), h.notMem (by decide) (by decide),
    h.notMem (by decide) (by decide)⟩

/-- A tab between two fields is the only one, if nothing ends a field inside them. -/
theorem isTwoFields_iff {first second : String} :
    IsTwoFields (first ++ "\t" ++ second).toList ↔ IsFlat first.toList ∧ IsFlat second.toList := by
  have hline : (first ++ "\t" ++ second).toList = first.toList ++ '\t' :: second.toList := by simp
  have htab (s : List Char) : '\t' ∉ s ↔ s.count '\t' = 0 := List.count_eq_zero.symm
  have hcount : (first.toList ++ '\t' :: second.toList).count '\t' =
      first.toList.count '\t' + (second.toList.count '\t' + 1) := by
    rw [List.count_append, List.count_cons_self]
  rw [hline, IsFlat, IsFlat, htab, htab]
  constructor
  · rintro ⟨hn, hr, ht⟩
    rw [hcount] at ht
    simp only [List.mem_append, List.mem_cons, not_or] at hn hr
    exact ⟨⟨by omega, hn.1, hr.1⟩, by omega, hn.2.2, hr.2.2⟩
  · rintro ⟨⟨ht, hn, hr⟩, ht', hn', hr'⟩
    refine ⟨?_, ?_, by rw [hcount]; omega⟩
    · simp [hn, hn']
    · simp [hr, hr']

/-! ## Summaries -/

theorem isFlat_toString (n : Nat) : IsFlat (toString n).toList := by
  have hdigit {c : Char} (hc : c ∈ (toString n).toList) : c.isDigit = true := by
    have hrepr : (toString n).toList = Nat.toDigits 10 n := String.toList_ofList
    rw [hrepr] at hc
    exact Nat.isDigit_of_mem_toDigits (by decide) (by decide) hc
  exact ⟨fun hc => absurd (hdigit hc) (by decide), fun hc => absurd (hdigit hc) (by decide),
    fun hc => absurd (hdigit hc) (by decide)⟩

/-- Behind a flat category it is the argument that decides. -/
theorem isFlat_call {category : String} (h : IsFlat category.toList) (argument : String) :
    IsFlat (category ++ argument ++ ")").toList ↔ IsFlat argument.toList := by
  have hclose : IsFlat [')'] := by decide
  simp [isFlat_append, h, hclose]

theorem TableReference.isFlat_summary_iff (r : TableReference) :
    IsFlat r.summary.toList ↔ IsFlat r.name.toList := by
  have hat : IsFlat " @ ".toList := by decide
  have hdots : IsFlat "..".toList := by decide
  simp only [summary, String.toList_append, isFlat_append, isFlat_toString, hat, hdots, and_true]

theorem MutationKind.isFlat_summary (kind : MutationKind) : IsFlat kind.summary.toList := by
  cases kind with
  | insert modifiers =>
    obtain ⟨replaces, ignores⟩ := modifiers
    cases replaces <;> cases ignores <;> decide
  | update => decide
  | delete => decide

/-- Only names bring field ends into a summary. -/
theorem Statement.isFlat_summary_iff (st : Statement) :
    IsFlat st.summary.toList ↔ ∀ name ∈ st.names, IsFlat name.toList := by
  have hnone {s : String} (hs : IsFlat s.toList) :
      IsFlat s.toList ↔ ∀ name ∈ ([] : List String), IsFlat name.toList := by
    simp [hs]
  have hone (name : String) : IsFlat name.toList ↔ ∀ n ∈ [name], IsFlat n.toList := by
    rw [List.forall_mem_singleton]
  cases st with
  | query => exact hnone (by decide)
  | mutation kind => exact hnone ((isFlat_call (by decide) _).2 kind.isFlat_summary)
  | transactionControl => exact hnone (by decide)
  | sessionSet => exact hnone (by decide)
  | useSchema name => exact (isFlat_call (by decide) name).trans (hone name)
  | describe name => exact (isFlat_call (by decide) name).trans (hone name)
  | showDatabases => exact hnone (by decide)
  | showTableStatus database =>
    cases database with
    | none => exact hnone (by decide)
    | some name => exact (isFlat_call (by decide) name).trans (hone name)
  | showTables => exact hnone (by decide)
  | showColumns name => exact (isFlat_call (by decide) name).trans (hone name)
  | showIndex name => exact (isFlat_call (by decide) name).trans (hone name)
  | showCreateTable reference =>
    exact (isFlat_call (by decide) reference.summary).trans
      (reference.isFlat_summary_iff.trans (hone reference.name))
  | showOther => exact hnone (by decide)

/-! ## Names of a classified statement -/

theorem isFlat_of_inWord {c : Char} (h : (Segment.plain c).inWord = true) : IsFlat [c] := by
  rw [Segment.inWord, Bool.not_eq_true', Bool.or_eq_false_iff] at h
  have hne {b : Char} (hb : isBlank b = true) : b ∉ [c] := by
    rw [List.mem_singleton]
    rintro rfl
    exact Bool.false_ne_true (h.1.symm.trans hb)
  exact ⟨hne (by decide), hne (by decide), hne (by decide)⟩

theorem isFlat_textOf {gs : List Segment} (h : ∀ g ∈ gs, IsFlat g.text) : IsFlat (textOf gs) := by
  induction gs with
  | nil => exact ⟨List.not_mem_nil, List.not_mem_nil, List.not_mem_nil⟩
  | cons g gs ih =>
    rw [List.forall_mem_cons] at h
    rw [textOf_cons, isFlat_append]
    exact ⟨h.1, ih h.2⟩

/-- A name is flat, unless a quoted run of the statement brings a field end into it. -/
theorem Dialect.isFlat_of_mem_names {d : Dialect} {sql : String} {st : Statement}
    (h : d.classify sql = .ok st)
    (hquoted : ∀ t closed, .quoted t closed ∈ scan d.lexicalRules sql.toList → IsFlat t) :
    ∀ name ∈ st.names, IsFlat name.toList := by
  intro name hname
  obtain ⟨v, hv, hst⟩ := Option.bind_eq_some_iff.1 (classify_eq_ok_iff.1 h)
  obtain ⟨t, ht, rfl⟩ := v.exists_target_of_mem_names hst hname
  obtain ⟨hmem, hident⟩ := RuleTable.mem_of_verdict? hv ht
  obtain ⟨ts, us, htokens⟩ := List.append_of_mem hmem
  obtain ⟨pre, run, post, hscan, hword, -, rfl⟩ := hasWord_of_tokens htokens hident
  obtain ⟨gs, rs, hs, blanks, hraw, hrs, htext, -⟩ := exists_run_of_wordBetween hscan hword
  have hflat : ∀ g ∈ rs, IsFlat g.text := by
    intro g hg
    have hgmem : g ∈ scan d.lexicalRules sql.toList := by
      rw [hraw]
      simp [hg]
    obtain ⟨hcom, hinWord⟩ := hrs g hg
    cases g with
    | comment t closed => cases hcom
    | quoted t closed => exact hquoted t closed hgmem
    | plain c => exact isFlat_of_inWord hinWord
  rw [String.toList_ofList]
  refine (isFlat_textOf hflat).subset ?_
  rw [htext]
  exact List.subset_append_left _ _

/-! ## Lines -/

/-- The line is the first field, a tab and the words of a text, with one space between them. -/
def HasFields (line first source : String) : Prop :=
  ∃ second, line = first ++ "\t" ++ second ∧ words second.toList = words source.toList ∧
    IsSqueezed second.toList

theorem HasFields.of_singleLine (first source : String) :
    HasFields (first ++ "\t" ++ singleLine source) first source :=
  have h := isSqueezed_singleLine source
  ⟨singleLine source, rfl, h.1, h.2⟩

/-- The second field never ends the line. -/
theorem HasFields.isTwoFields_iff {line first source : String} (h : HasFields line first source) :
    IsTwoFields line.toList ↔ IsFlat first.toList := by
  obtain ⟨second, rfl, -, hsqueezed⟩ := h
  rw [SqlTriage.isTwoFields_iff, and_iff_left (isFlat_of_isSqueezed hsqueezed)]

theorem Dialect.render_text_of_ok {d : Dialect} {sql : String} {st : Statement}
    (h : d.classify sql = .ok st) :
    (d.report sql).render .text = st.summary ++ "\t" ++ singleLine sql := by
  show Report.toText ⟨sql, d.classify sql⟩ = _
  rw [h]
  rfl

theorem Dialect.render_text_of_error {d : Dialect} {sql : String} {e : Unclassifiable}
    (h : d.classify sql = .error e) :
    (d.report sql).render .text = "ERROR" ++ "\t" ++ singleLine e.message := by
  show Report.toText ⟨sql, d.classify sql⟩ = _
  rw [h]
  rfl

/-- **A report in the text format.** Its fields are the summary and the statement, or `ERROR` and
the message, with the white space of the second squeezed.  It is a line of two fields exactly if no
captured name holds a tab or a line end, which only a quoted run of the statement brings in. -/
theorem Dialect.report_text (d : Dialect) (sql : String) :
    (∀ st, d.classify sql = .ok st →
      HasFields ((d.report sql).render .text) st.summary sql ∧
        (IsTwoFields ((d.report sql).render .text).toList ↔
          ∀ name ∈ st.names, IsFlat name.toList)) ∧
    (∀ e, d.classify sql = .error e →
      HasFields ((d.report sql).render .text) "ERROR" e.message ∧
        IsTwoFields ((d.report sql).render .text).toList) ∧
    ((∀ t closed, .quoted t closed ∈ scan d.lexicalRules sql.toList → IsFlat t) →
      IsTwoFields ((d.report sql).render .text).toList) := by
  have hok (st : Statement) (h : d.classify sql = .ok st) :
      HasFields ((d.report sql).render .text) st.summary sql := by
    rw [render_text_of_ok h]
    exact HasFields.of_singleLine st.summary sql
  have herror (e : Unclassifiable) (h : d.classify sql = .error e) :
      HasFields ((d.report sql).render .text) "ERROR" e.message := by
    rw [render_text_of_error h]
    exact HasFields.of_singleLine "ERROR" e.message
  have hnames (st : Statement) (h : d.classify sql = .ok st) :
      IsTwoFields ((d.report sql).render .text).toList ↔
        ∀ name ∈ st.names, IsFlat name.toList :=
    (hok st h).isTwoFields_iff.trans st.isFlat_summary_iff
  have hflat (e : Unclassifiable) (h : d.classify sql = .error e) :
      IsTwoFields ((d.report sql).render .text).toList :=
    (herror e h).isTwoFields_iff.2 (by decide)
  refine ⟨fun st h => ⟨hok st h, hnames st h⟩, fun e h => ⟨herror e h, hflat e h⟩, ?_⟩
  intro hquoted
  cases h : d.classify sql with
  | ok st => exact (hnames st h).2 (isFlat_of_mem_names h hquoted)
  | error e => exact hflat e h

/-- The blanks around a plain name are squeezed. -/
theorem Dialect.report_text_use :
    mySql.classify " use\n\tdb " = .ok (.useSchema "db") ∧
      HasFields ((mySql.report " use\n\tdb ").render .text) "UseSchema(db)" " use\n\tdb " ∧
      IsTwoFields ((mySql.report " use\n\tdb ").render .text).toList := by
  have h : mySql.classify " use\n\tdb " = .ok (.useSchema "db") := by cbv
  obtain ⟨hok, -, hquoted⟩ := report_text mySql " use\n\tdb "
  refine ⟨h, (hok _ h).1, hquoted ?_⟩
  have hscan : scan mySql.lexicalRules " use\n\tdb ".toList =
      " use\n\tdb ".toList.map Segment.plain := by cbv
  rw [hscan]
  simp

/-- A name keeps the line end between its backticks, and the report has two lines. -/
theorem Dialect.line_end_in_name :
    (mySql.report "use `a\nb`").render .text =
        "UseSchema(`a\nb`)\tuse `a b`" ∧
      ¬ ∀ (d : Dialect) (sql : String), IsTwoFields ((d.report sql).render .text).toList := by
  have hrender : (mySql.report "use `a\nb`").render .text =
      "UseSchema(`a\nb`)\tuse `a b`" := by
    have h : mySql.classify "use `a\nb`" = .ok (.useSchema "`a\nb`") := by cbv
    have hline : singleLine "use `a\nb`" = "use `a b`" := by decide
    rw [render_text_of_ok h, hline]
    decide
  refine ⟨hrender, fun hall => ?_⟩
  have hline := (hall mySql "use `a\nb`").noLineFeed
  rw [hrender] at hline
  exact hline (by decide)

end SqlTriage

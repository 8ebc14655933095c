import Mathlib
import SqlTriage.Report
import SqlTriage.Proofs.Json.Reading

/-!
# Reports as lines of JSON

A report in the JSON format is one line, and the statement and its outcome are read back from the
fields of the object on it (`Report.ofJson?_toJson`, `report_json`).  Every field has a name of its
own in its object.  So reports that differ are printed as lines that differ
(`Report.render_json_injective`).
-/

namespace SqlTriage

/-! ## Fields -/

namespace Json

/-- The field of the object with the given name, if there is just one. -/
def field? (v : Json) (name : String) : Option Json :=
  match v with
  | .object fields =>
    match fields.filter fun f => f.1 == name with
    | [f] => some f.2
    | _ => none
  | _ => none

/-- The text in the field with the given name. -/
def text? (v : Json) (name : String) : Option String :=
  match v.field? name with
  | some (.string s) => some s
  | _ => none

/-- The truth value in the field with the given name. -/
def flag? (v : Json) (name : String) : Option Bool :=
  match v.field? name with
  | some (.bool b) => some b
  | _ => none

/-- The number in the field with the given name. -/
def count? (v : Json) (name : String) : Option Nat :=
  match v.field? name with
  | some (.number n) => some n
  | _ => none

end Json

/-! ## Decoding -/

/-- The kind of mutation that a value stands for. -/
def MutationKind.ofJson? : Json → Option MutationKind
  | .string "update" => some .update
  | .string "delete" => some .delete
  | v => do
    let insert ← v.field? "insert"
    return .insert ⟨← insert.flag? "replace", ← insert.flag? "ignore"⟩

/-- The table reference that a value stands for. -/
def TableReference.ofJson? (v : Json) : Option TableReference := do
  return ⟨← v.count? "start", ← v.count? "length", ← v.text? "name"⟩

/-- The statement that a value stands for, by its category. -/
def Statement.ofJson? (v : Json) : Option Statement := do
  match ← v.text? "category" with
  | "query" => some .query
  | "mutation" => (MutationKind.ofJson? (← v.field? "kind")).map .mutation
  | "transaction_control" => some .transactionControl
  | "session_set" => some .sessionSet
  | "use_schema" => (v.text? "schema").map .useSchema
  | "describe" => (v.text? "table").map .describe
  | "show_databases" => some .showDatabases
  | "show_table_status" =>
    match ← v.field? "database" with
    | .null => some (.showTableStatus none)
    | .string database => some (.showTableStatus (some database))
    | _ => none
  | "show_tables" => some .showTables
  | "show_columns" => (v.text? "table").map .showColumns
  | "show_index" => (v.text? "table").map .showIndex
  | "show_create_table" =>
    (TableReference.ofJson? (← v.field? "reference_token")).map .showCreateTable
  | "show_other" => some .showOther
  | _ => none

/-- The statement of a report that a value stands for and its outcome, by its status.  An
unclassifiable statement comes with the message. -/
def Report.ofJson? (v : Json) : Option (String × Except String Statement) := do
  let sql ← v.text? "sql"
  match ← v.text? "status" with
  | "classified" => return (sql, .ok (← Statement.ofJson? (← v.field? "statement")))
  | "unsupported" => return (sql, .error (← v.text? "error"))
  | _ => none

theorem MutationKind.ofJson?_toJson (kind : MutationKind) : ofJson? kind.toJson = some kind := by
  cases kind with
  | insert modifiers => rfl
  | update => rfl
  | delete => rfl

theorem TableReference.ofJson?_toJson (r : TableReference) : ofJson? r.toJson = some r :=
  rfl

/-- Each statement is told by its category and its details. -/
theorem Statement.ofJson?_toJson (st : Statement) : ofJson? st.toJson = some st := by
  cases st with
  | query => rfl
  | mutation kind => exact congrArg (Option.map mutation) kind.ofJson?_toJson
  | transactionControl => rfl
  | sessionSet => rfl
  | useSchema schema => rfl
  | describe table => rfl
  | showDatabases => rfl
  | showTableStatus database =>
    cases database with
    | none => rfl
    | some database => rfl
  | showTables => rfl
  | showColumns table => rfl
  | showIndex table => rfl
  | showCreateTable reference =>
    exact congrArg (Option.map showCreateTable) reference.ofJson?_toJson
  | showOther => rfl

/-- A report is told by its status and what comes with it. -/
theorem Report.ofJson?_toJson (r : Report) :
    ofJson? r.toJson = some (r.sql, r.outcome.mapError Unclassifiable.message) := by
  obtain ⟨sql, outcome⟩ := r
  cases outcome with
  | ok st =>
    show ((Statement.ofJson? st.toJson).bind fun st => some (sql, Except.ok st)) = _
    rw [st.ofJson?_toJson]
    rfl
  | error e => rfl

/-! ## Lines -/

theorem Unclassifiable.message_injective {e f : Unclassifiable} (h : e.message = f.message) :
    e = f := by
  obtain ⟨s⟩ := e
  obtain ⟨t⟩ := f
  have hbracket : "Unsupported SQL statement: [" ++ s = "Unsupported SQL statement: [" ++ t :=
    String.append_left_inj "]" |>.1 h
  rw [(String.append_right_inj _).1 hbracket]

theorem mapError_message_injective {o p : Except Unclassifiable Statement}
    (h : o.mapError Unclassifiable.message = p.mapError Unclassifiable.message) : o = p := by
  cases o with
  | ok st =>
    cases p with
    | ok st' => exact congrArg Except.ok (Except.ok.inj h)
    | error e => cases h
  | error e =>
    cases p with
    | ok st => cases h
    | error f => rw [Unclassifiable.message_injective (Except.error.inj h)]

theorem Report.parse?_render (r : Report) : Json.parse? (r.render .json) = some r.toJson :=
  Json.parse?_compact r.toJson

/-- Different reports are printed as different lines. -/
theorem Report.render_json_injective {r r' : Report} (h : r.render .json = r'.render .json) :
    r = r' := by
  have hjson : r.toJson = r'.toJson := Json.compact_injective h
  have hread := r.ofJson?_toJson
  rw [hjson, ofJson?_toJson] at hread
  obtain ⟨hsql, houtcome⟩ := Prod.mk.inj (Option.some.inj hread)
  obtain ⟨sql, outcome⟩ := r
  obtain ⟨sql', outcome'⟩ := r'
  rw [Report.mk.injEq]
  exact ⟨hsql.symm, mapError_message_injective houtcome.symm⟩

/-- A report is printed on one line. -/
theorem Report.isPrinted_render (r : Report) : Json.IsPrinted (r.render .json).toList := by
  have hline : (r.render .json).toList = r.toJson.write := String.toList_ofList
  rw [hline]
  exact r.toJson.isPrinted_write

theorem Dialect.toJson_report_of_ok {d : Dialect} {sql : String} {st : Statement}
    (h : d.classify sql = .ok st) :
    (d.report sql).toJson = .object [("sql", .string sql), ("status", .string "classified"),
      ("statement", st.toJson)] := by
  rw [report, h]
  rfl

theorem Dialect.toJson_report_of_error {d : Dialect} {sql : String} {e : Unclassifiable}
    (h : d.classify sql = .error e) :
    (d.report sql).toJson = .object [("sql", .string sql), ("status", .string "unsupported"),
      ("error", .string e.message)] := by
  rw [report, h]
  rfl

/-- **A report in the JSON format.** It is one line, which stands for an object with the statement
as received and a status.  The classified statement is read back from the object, and an
unclassifiable one comes with the message.  Reports that differ are printed as lines that differ. -/
theorem Dialect.report_json (d : Dialect) (sql : String) :
    Json.IsPrinted ((d.report sql).render .json).toList ∧
    (∃ v, Json.parse? ((d.report sql).render .json) = some v ∧
      v.text? "sql" = some sql ∧
      (v.text? "status" = some "classified" ↔ ∃ st, d.classify sql = .ok st) ∧
      (∀ st, d.classify sql = .ok st → (v.field? "statement").bind Statement.ofJson? = some st) ∧
      (∀ e, d.classify sql = .error e →
        v.text? "status" = some "unsupported" ∧ v.text? "error" = some e.message)) ∧
    ∀ r r' : Report, r.render .json = r'.render .json → r = r' := by
  refine ⟨Report.isPrinted_render _, ⟨_, Report.parse?_render _, ?_⟩,
    fun r r' => Report.render_json_injective⟩
  cases h : d.classify sql with
  | ok st =>
    rw [toJson_report_of_ok h]
    refine ⟨rfl, iff_of_true rfl ⟨st, rfl⟩, ?_, ?_⟩
    · intro st' hst
      exact st.ofJson?_toJson.trans (congrArg some (Except.ok.inj hst))
    · intro e he
      cases he
  | error e =>
    rw [toJson_report_of_error h]
    have hstatus : some "unsupported" ≠ some "classified" := by decide
    refine ⟨rfl, iff_of_false hstatus ?_, ?_, ?_⟩
    · rintro ⟨st, hst⟩
      cases hst
    · intro st hst
      cases hst
    · intro e' he
      rw [← Except.error.inj he]
      exact ⟨rfl, rfl⟩

/-- The place of the table is read back, and so is the message about a statement of two lines. -/
theorem Dialect.report_json_showCreateTable :
    mySql.classify "show create table db.t" = .ok (.showCreateTable ⟨18, 4, "db.t"⟩) ∧
    (∃ v, Json.parse? ((mySql.report "show create table db.t").render .json) = some v ∧
      v.text? "status" = some "classified" ∧
      (v.field? "statement").bind Statement.ofJson? = some (.showCreateTable ⟨18, 4, "db.t"⟩)) ∧
    mySql.classify "drop\n\"t\"" = .error ⟨"drop\n\"t\""⟩ ∧
    ∃ v, Json.parse? ((mySql.report "drop\n\"t\"").render .json) = some v ∧
      v.text? "status" = some "unsupported" ∧
      v.text? "error" = some "Unsupported SQL statement: [drop\n\"t\"]" := by
  have hok : mySql.classify "show create table db.t" = .ok (.showCreateTable ⟨18, 4, "db.t"⟩) := by
    cbv
  have herror : mySql.classify "drop\n\"t\"" = .error ⟨"drop\n\"t\""⟩ := by cbv
  obtain ⟨-, ⟨v, hv, -, hstatus, hstatement, -⟩, -⟩ := report_json mySql "show create table db.t"
  obtain ⟨-, ⟨w, hw, -, -, -, hmessage⟩, -⟩ := report_json mySql "drop\n\"t\""
  have hfailed := hmessage _ herror
  exact ⟨hok, ⟨v, hv, hstatus.2 ⟨_, hok⟩, hstatement _ hok⟩, herror, w, hw, hfailed.1, hfailed.2⟩

end SqlTriage

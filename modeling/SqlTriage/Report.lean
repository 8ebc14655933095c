import SqlTriage.Classify
import SqlTriage.Json

/-!
# Reports

The line that is printed for a statement. The text format holds two fields with a tab between
them, a summary and the statement or message on one line; the JSON format is one object.
-/

namespace SqlTriage

open SqlTriage.Text

/-- The formats of a report. -/
inductive OutputFormat where
  | text
  | json
deriving DecidableEq, Repr

namespace OutputFormat

/-- All formats. -/
def all : List OutputFormat := [.text, .json]

/-- The name of a format. -/
def name : OutputFormat → String
  | .text => "text"
  | .json => "json"

/-- The format that an option or variable chooses. -/
def ofName (value : String) : Except UnknownName OutputFormat :=
  match all.find? fun f => f.name == plainName value with
  | some f => .ok f
  | none => .error ⟨.outputFormat, value⟩

/-- The format that a settings document chooses, by its exact name. -/
def ofDocumentName? (value : String) : Option OutputFormat :=
  all.find? fun f => f.name == value

end OutputFormat

/-! ## JSON forms -/

/-- A kind of mutation in JSON: a name, or an object that tells about an insert. -/
def MutationKind.toJson : MutationKind → Json
  | .insert m =>
    .object [("insert", .object [("replace", .bool m.replaces), ("ignore", .bool m.ignores)])]
  | .update => .string "update"
  | .delete => .string "delete"

/-- A table reference in JSON. -/
def TableReference.toJson (r : TableReference) : Json :=
  .object [("start", .number r.start), ("length", .number r.length), ("name", .string r.name)]

/-- The category of a statement in JSON. -/
def Statement.category : Statement → String
  | .query => "query"
  | .mutation _ => "mutation"
  | .transactionControl => "transaction_control"
  | .sessionSet => "session_set"
  | .useSchema _ => "use_schema"
  | .describe _ => "describe"
  | .showDatabases => "show_databases"
  | .showTableStatus _ => "show_table_status"
  | .showTables => "show_tables"
  | .showColumns _ => "show_columns"
  | .showIndex _ => "show_index"
  | .showCreateTable _ => "show_create_table"
  | .showOther => "show_other"

/-- The fields of a statement in JSON besides its category. -/
def Statement.details : Statement → List (String × Json)
  | .mutation kind => [("kind", kind.toJson)]
  | .useSchema schema => [("schema", .string schema)]
  | .describe table => [("table", .string table)]
  | .showTableStatus (some database) => [("database", .string database)]
  | .showTableStatus none => [("database", .null)]
  | .showColumns table => [("table", .string table)]
  | .showIndex table => [("table", .string table)]
  | .showCreateTable reference => [("reference_token", reference.toJson)]
  | _ => []

/-- A statement in JSON: its category, then its details. -/
def Statement.toJson (s : Statement) : Json :=
  .object (("category", .string s.category) :: s.details)

/-! ## Reports -/

/-- What is reported about a statement. -/
structure Report where
  /-- The statement as received. -/
  sql : String
  /-- Its classification. -/
  outcome : Except Unclassifiable Statement

/-- The report of a statement under the rules of a dialect. -/
def Dialect.report (d : Dialect) (sql : String) : Report :=
  ⟨sql, d.classify sql⟩

namespace Report

/-- Whether the statement was classified. -/
def isClassified (r : Report) : Bool :=
  r.outcome.toBool

/-- A report in JSON. -/
def toJson (r : Report) : Json :=
  match r.outcome with
  | .ok statement =>
    .object [("sql", .string r.sql), ("status", .string "classified"),
      ("statement", statement.toJson)]
  | .error e =>
    .object [("sql", .string r.sql), ("status", .string "unsupported"),
      ("error", .string e.message)]

/-- A report as one line of text. -/
def toText (r : Report) : String :=
  match r.outcome with
  | .ok statement => statement.summary ++ "\t" ++ singleLine r.sql
  | .error e => "ERROR\t" ++ singleLine e.message

/-- A report in the given format. -/
def render (r : Report) : OutputFormat → String
  | .text => r.toText
  | .json => r.toJson.compact

end Report

end SqlTriage

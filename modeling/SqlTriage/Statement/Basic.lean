import SqlTriage.Statement.TableReference

/-!
# Statements

The category of a statement with the few facts that routing needs before, or instead of, a full
parse. Names are verbatim: case, qualification and quotes are kept.
-/

namespace SqlTriage

/-- What the first words of an insert say about it. -/
structure InsertModifiers where
  /-- The statement is a `REPLACE` and not an `INSERT`. -/
  replaces : Bool
  /-- The modifier `IGNORE` is present. -/
  ignores : Bool
deriving DecidableEq, Repr

/-- The kinds of statements that change rows. -/
inductive MutationKind where
  | insert (modifiers : InsertModifiers)
  | update
  | delete
deriving DecidableEq, Repr

/-- A classified statement. -/
inductive Statement where
  /-- `SELECT` and `CALL`. -/
  | query
  | mutation (kind : MutationKind)
  | transactionControl
  /-- `SET` of anything but transaction characteristics and autocommit. -/
  | sessionSet
  | useSchema (schema : String)
  | describe (table : String)
  | showDatabases
  /-- Without a database the current schema is meant. -/
  | showTableStatus (database : Option String)
  | showTables
  | showColumns (table : String)
  | showIndex (table : String)
  | showCreateTable (reference : TableReference)
  | showOther
deriving DecidableEq, Repr

/-- The kind as it is shown to people. -/
def MutationKind.summary : MutationKind → String
  | .insert m =>
    (if m.replaces then "Replace" else "Insert") ++ (if m.ignores then " Ignore" else "")
  | .update => "Update"
  | .delete => "Delete"

namespace Statement

/-- The tables whose names routing may replace. -/
def tableReferences : Statement → List TableReference
  | .showCreateTable reference => [reference]
  | _ => []

/-- Whether routing needs a full parse of the statement. -/
def needsFullParse : Statement → Bool
  | .query | .mutation _ => true
  | _ => false

/-- Whether the statement adds rows. -/
def isInsert : Statement → Bool
  | .mutation (.insert _) => true
  | _ => false

/-- The statement as it is shown to people: its category and the names it captured. -/
def summary : Statement → String
  | .query => "Query"
  | .mutation kind => "Mutation(" ++ kind.summary ++ ")"
  | .transactionControl => "TransactionControl"
  | .sessionSet => "SessionSet"
  | .useSchema schema => "UseSchema(" ++ schema ++ ")"
  | .describe table => "Describe(" ++ table ++ ")"
  | .showDatabases => "ShowDatabases"
  | .showTableStatus (some database) => "ShowTableStatus(" ++ database ++ ")"
  | .showTableStatus none => "ShowTableStatus"
  | .showTables => "ShowTables"
  | .showColumns table => "ShowColumns(" ++ table ++ ")"
  | .showIndex table => "ShowIndex(" ++ table ++ ")"
  | .showCreateTable reference => "ShowCreateTable(" ++ reference.summary ++ ")"
  | .showOther => "ShowOther"

end Statement

end SqlTriage

import SqlTriage.Naming
import SqlTriage.Rule.Table

/-!
# Dialects

Three dialects share one layer of rules: queries, changes of rows, transaction control and `SET`.
MySQL and PostgreSQL put a layer of their own in front of it. MySQL alone has `#` comments and
backslash escapes.
-/

namespace SqlTriage

open SqlTriage.Lexical

/-- The dialects whose statements are classified. -/
inductive Dialect where
  | mySql
  | postgreSql
  | sql92
deriving DecidableEq, Repr

namespace Dialect

/-- All dialects. -/
def all : List Dialect := [.mySql, .postgreSql, .sql92]

/-- The name under which a dialect is shown. -/
def name : Dialect → String
  | .mySql => "mysql"
  | .postgreSql => "postgresql"
  | .sql92 => "sql92"

/-- The names that choose a dialect in options and variables, in lower case. -/
def names : Dialect → List String
  | .mySql => ["mysql"]
  | .postgreSql => ["postgresql", "postgres", "pg"]
  | .sql92 => ["sql92", "ansi"]

/-- The exact names that choose a dialect in a settings document. -/
def documentNames : Dialect → List String
  | .mySql => ["mysql", "MySQL"]
  | .postgreSql => ["postgresql", "postgres", "pg"]
  | .sql92 => ["sql92", "ansi"]

/-- The dialect that an option or variable chooses. -/
def ofName (value : String) : Except UnknownName Dialect :=
  match all.find? fun d => d.names.contains (plainName value) with
  | some d => .ok d
  | none => .error ⟨.dialect, value⟩

/-- The dialect that a settings document chooses. -/
def ofDocumentName? (value : String) : Option Dialect :=
  all.find? fun d => d.documentNames.contains value

/-- The lexical rules of a dialect. -/
def lexicalRules : Dialect → LexicalRules
  | .mySql => { hashComments := true, backslashEscapes := true }
  | .postgreSql | .sql92 => {}

/-! ## Rules -/

/-- The first step of the statements that show something. -/
def showStep : Step := .keyword ["SHOW"]

/-- The rules that all dialects share. -/
def sharedRules : List Rule :=
  [{ family := .query, steps := [.keyword ["SELECT", "CALL"]] },
   { family := .insert
     steps := [.keyword ["INSERT"], .optional ["LOW_PRIORITY", "DELAYED", "HIGH_PRIORITY"],
       .optional ["IGNORE"]] },
   { family := .update, steps := [.keyword ["UPDATE"]] },
   { family := .delete, steps := [.keyword ["DELETE"]] },
   { family := .transactionControl
     steps := [.keyword ["SET"], .keyword ["TRANSACTION", "AUTOCOMMIT"]] },
   { family := .sessionSet, steps := [.keyword ["SET"], .any] },
   { family := .transactionControl
     steps := [.keyword ["COMMIT", "ROLLBACK", "SAVEPOINT", "BEGIN"]] }]

/-- The rules that MySQL adds. -/
def mySqlRules : List Rule :=
  [{ family := .replace, steps := [.keyword ["REPLACE"], .optional ["LOW_PRIORITY", "DELAYED"]] },
   { family := .transactionControl
     steps := [.keyword ["SET"], .optional ["SESSION", "GLOBAL", "LOCAL"],
       .keyword ["TRANSACTION", "AUTOCOMMIT", "@@AUTOCOMMIT", "@@SESSION.AUTOCOMMIT",
         "@@LOCAL.AUTOCOMMIT"]] },
   { family := .transactionControl, steps := [.keyword ["START"], .keyword ["TRANSACTION"]] },
   { family := .transactionControl, steps := [.keyword ["RELEASE"], .keyword ["SAVEPOINT"]] },
   { family := .useSchema, steps := [.keyword ["USE"]], capture := .identifier },
   { family := .describe, steps := [.keyword ["DESCRIBE", "DESC"]], capture := .identifier },
   { family := .showDatabases, steps := [showStep, .keyword ["DATABASES", "SCHEMAS"]] },
   { family := .showTableStatus
     steps := [showStep, .keyword ["TABLE"], .keyword ["STATUS"]]
     capture := .optionalFromIdentifier },
   { family := .showTables, steps := [showStep, .optional ["FULL"], .keyword ["TABLES"]] },
   { family := .showColumns
     steps := [showStep, .optional ["FULL"], .keyword ["COLUMNS", "FIELDS"]]
     capture := .fromIdentifier },
   { family := .showIndex
     steps := [showStep, .keyword ["INDEX", "INDEXES", "KEYS"]]
     capture := .fromIdentifier },
   { family := .showCreateTable
     steps := [showStep, .keyword ["CREATE"], .keyword ["TABLE"]]
     capture := .tableReference },
   { family := .showOther, steps := [showStep, .any] }]

/-- The rules that PostgreSQL adds. -/
def postgreSqlRules : List Rule :=
  [{ family := .transactionControl, steps := [.keyword ["START"], .keyword ["TRANSACTION"]] },
   { family := .transactionControl, steps := [.keyword ["END", "ABORT"]] },
   { family := .transactionControl
     steps := [.keyword ["SET"], .keyword ["SESSION"], .keyword ["CHARACTERISTICS"]] },
   { family := .showOther, steps := [showStep, .any] }]

/-- The rule table of a dialect. -/
def table : Dialect → RuleTable
  | .mySql => .ofLayers [mySqlRules, sharedRules]
  | .postgreSql => .ofLayers [postgreSqlRules, sharedRules]
  | .sql92 => .ofLayers [sharedRules]

end Dialect

end SqlTriage

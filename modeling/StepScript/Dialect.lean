/-
# Dialects

What differs between the databases: which features they have and how some statements are written.
-/

namespace StepScript

/-- The dialect of a database. -/
structure Dialect where
  name : String
  hasBoolean : Bool
  /-- The statement that switches automatic commits off on a fresh connection. -/
  autocommitOff : Option String
  transactions : Bool
  tableLocking : Bool
  beginStatement : String
  commitStatement : String
  rollbackStatement : String
  deriving DecidableEq, Repr

namespace Dialect

/-- A dialect with transactions and nothing else. -/
def new (name : String) : Dialect :=
  ⟨name, false, none, true, false, "begin;", "commit;", "rollback;"⟩

/-- The statement that locks a table. -/
def lockTable (_ : Dialect) (table : String) : String :=
  "lock table " ++ table ++ ";"

/-- A truth value in a statement. -/
def booleanLiteral (d : Dialect) (b : Bool) : String :=
  match d.hasBoolean, b with
  | true, true => "true"
  | true, false => "false"
  | false, true => "1"
  | false, false => "0"

/-- The column type of a truth value. -/
def booleanType (d : Dialect) : String :=
  if d.hasBoolean then "boolean" else "smallint"

/-- The dialects that are always known, in the order in which they are looked for in a URL. -/
def builtins : List Dialect :=
  [new "sqlite",
   { new "duckdb" with hasBoolean := true },
   { new "postgres" with hasBoolean := true, tableLocking := true },
   { new "redshift" with hasBoolean := true, autocommitOff := some "set autocommit=off;" },
   { new "vertica" with
     hasBoolean := true, autocommitOff := some "set session autocommit to off;" }]

end Dialect

end StepScript

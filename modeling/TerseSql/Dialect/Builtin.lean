import TerseSql.Dialect

/-!
# The dialects at hand

Six dialects and the names they go by.
-/

namespace TerseSql

inductive Builtin where
  | generic
  | sqlite
  | mysql
  | postgres
  | mssql
  | oracle
deriving DecidableEq, Repr

def Handler.infixed (op : String) : Handler := fun r field v => do
  return field ++ " " ++ op ++ " " ++ (← r.literal v)

def Handler.pattern (op joiner : String) : Handler := fun r => r.pattern op joiner

def transactFunction (name : String) : Option String :=
  match Text.upper name with
  | "LENGTH" => some "LEN"
  | "SUBSTR" => some "SUBSTRING"
  | "NOW" => some "GETDATE"
  | "CURRENT_TIMESTAMP" => some "GETDATE"
  | "STRFTIME" => some "FORMAT"
  | "TO_CHAR" => some "FORMAT"
  | "DATE_FORMAT" => some "FORMAT"
  | "NVL" => some "ISNULL"
  | "IFNULL" => some "ISNULL"
  | _ => none

namespace Builtin

def genericDialect : Dialect where
  name := "generic"
  label := "Generic"
  quoteIdentifier := Delimiters.double.quote

def sqliteDialect : Dialect where
  name := "sqlite"
  label := "Sqlite"
  quoteIdentifier := Delimiters.double.quote
  operators := .ofList [("glob", Handler.infixed "GLOB")]

def mysqlDialect : Dialect where
  name := "mysql"
  label := "MySql"
  quoteIdentifier := Delimiters.backtick.quote
  join := fun marker => if marker = "<>" then none else standardJoin marker
  operators := .ofList [("regexp", Handler.infixed "REGEXP")]

def postgresDialect : Dialect where
  name := "postgres"
  label := "Postgres"
  quoteIdentifier := Delimiters.double.quote
  bool := boolLiteral true
  operators := .ofList
    [("~~", Handler.pattern "ILIKE" " OR "), ("!~~", Handler.pattern "NOT ILIKE" " AND "),
     ("regexp", Handler.infixed "~"), ("!regexp", Handler.infixed "!~")]

def mssqlDialect : Dialect where
  name := "mssql"
  label := "MsSql"
  quoteIdentifier := Delimiters.bracket.quote
  quoteText := fun s => textLiteral (!Text.isAscii s) s
  paginate := fun count offset =>
    match offset with
    | some offset => ⟨Pagination.offsetFetch count offset, .append⟩
    | none => ⟨"TOP " ++ Pagination.number count, .index 1⟩
  remapFunction := transactFunction

def oracleDialect : Dialect where
  name := "oracle"
  label := "Oracle"
  quoteIdentifier := Delimiters.double.quote
  paginate := fun count offset => ⟨Pagination.rowNumbers count offset, .inWhere⟩

def dialect : Builtin → Dialect
  | generic => genericDialect
  | sqlite => sqliteDialect
  | mysql => mysqlDialect
  | postgres => postgresDialect
  | mssql => mssqlDialect
  | oracle => oracleDialect

def all : List Builtin := [generic, sqlite, mysql, postgres, mssql, oracle]

def default : Builtin := generic

def name (b : Builtin) : String := b.dialect.name

def ofName? (name : String) : Option Builtin :=
  match Text.lower (Text.trim name) with
  | "generic" => some generic
  | "ansi" => some generic
  | "sqlite" => some sqlite
  | "sqlite3" => some sqlite
  | "mysql" => some mysql
  | "mariadb" => some mysql
  | "pgsql" => some postgres
  | "postgres" => some postgres
  | "postgresql" => some postgres
  | "mssql" => some mssql
  | "sqlserver" => some mssql
  | "tsql" => some mssql
  | "oracle" => some oracle
  | _ => none

def parse (name : String) : Except String Builtin :=
  match ofName? name with
  | some b => .ok b
  | none => .error ("Unknown dialect: " ++ name)

end Builtin

end TerseSql

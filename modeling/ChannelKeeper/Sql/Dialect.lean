import ChannelKeeper.Sql.Dump

/-!
# SQL dialects

How the supported database systems quote names, number parameters, cast values
and answer questions about their tables.
-/

namespace ChannelKeeper.Sql

inductive Backend where
  | mysql
  | postgres
  | sqlite
deriving DecidableEq, Repr

/-- The kinds of value that are read back. -/
inductive ValueKind where
  | int
  | float
  | text
deriving DecidableEq, Repr

namespace Backend

def name : Backend → String
  | .mysql => "MySQL"
  | .postgres => "PostgreSQL"
  | .sqlite => "SQLite"

def identifierQuote : Backend → Char
  | .mysql => Char.ofNat 0x60
  | .postgres | .sqlite => '"'

def quote (b : Backend) (ident : String) : String := quoteIdent b.identifierQuote ident

/-- The place of the `n`th parameter, counted from one. -/
def placeholder (b : Backend) (n : Nat) : String :=
  match b with
  | .postgres => "$" ++ toString n
  | .mysql | .sqlite => "?"

/-- An insertion can hand back the new row's id. -/
def supportsReturning : Backend → Bool
  | .mysql => false
  | .postgres | .sqlite => true

def typeName : Backend → ValueKind → String
  | .mysql, .int => "SIGNED"
  | .mysql, .float => "DOUBLE"
  | .mysql, .text => "CHAR"
  | .postgres, .int => "BIGINT"
  | .postgres, .float => "DOUBLE PRECISION"
  | .sqlite, .int => "INTEGER"
  | .sqlite, .float => "REAL"
  | _, .text => "TEXT"

def cast (b : Backend) (expression : String) (kind : ValueKind) : String :=
  "CAST(" ++ expression ++ " AS " ++ b.typeName kind ++ ")"

def listTables : Backend → String
  | .mysql =>
    "SELECT CAST(TABLE_NAME AS CHAR) FROM information_schema.TABLES " ++
      "WHERE TABLE_SCHEMA = DATABASE() AND TABLE_TYPE = 'BASE TABLE' ORDER BY TABLE_NAME"
  | .postgres =>
    "SELECT CAST(tablename AS TEXT) FROM pg_tables " ++
      "WHERE schemaname = current_schema() ORDER BY tablename"
  | .sqlite =>
    "SELECT name FROM sqlite_master " ++
      "WHERE type = 'table' AND name NOT LIKE 'sqlite_%' ORDER BY name"

def listColumns : Backend → String
  | .mysql =>
    "SELECT CAST(COLUMN_NAME AS CHAR), CAST(DATA_TYPE AS CHAR) FROM information_schema.COLUMNS " ++
      "WHERE TABLE_SCHEMA = DATABASE() AND TABLE_NAME = ? ORDER BY ORDINAL_POSITION"
  | .postgres =>
    "SELECT CAST(column_name AS TEXT), CAST(data_type AS TEXT) FROM information_schema.columns " ++
      "WHERE table_schema = current_schema() AND table_name = $1 ORDER BY ordinal_position"
  | .sqlite => "SELECT name, type FROM pragma_table_info(?) ORDER BY cid"

def truncate (b : Backend) (table : String) : String :=
  match b with
  | .sqlite => "DELETE FROM " ++ b.quote table
  | .mysql | .postgres => "TRUNCATE TABLE " ++ b.quote table

end Backend

end ChannelKeeper.Sql

import ChannelKeeper.Table.Basic

/-!
# Dumps of tables

A dump is a text of SQL statements that make a table again: one that drops it,
the statement that creates it when it is known, and an `INSERT` for each row. A
name is quoted with its quote character doubled inside; a text is quoted with
`'` doubled and nothing else escaped; a cell of a numeric column is written as
it is.
-/

namespace ChannelKeeper.Sql

def quoteIdent (quote : Char) (name : String) : String :=
  let q := String.singleton quote
  q ++ Text.replace quote (q ++ q) name ++ q

def quoteText (text : String) : String := "'" ++ Text.replace '\'' "''" text ++ "'"

def literal (numeric : Bool) : Cell → String
  | none => "NULL"
  | some text => if numeric && !text.isEmpty then text else quoteText text

/-- The literals of a row; a cell beyond the columns is a text. -/
def rowLiterals : List Column → List Cell → List String
  | _, [] => []
  | [], cell :: cells => literal false cell :: rowLiterals [] cells
  | column :: columns, cell :: cells => literal column.isNumeric cell :: rowLiterals columns cells

def insertStatement (table columns : String) (literals : List String) : String :=
  "INSERT INTO " ++ table ++ " (" ++ columns ++ ") VALUES (" ++ Text.join ", " literals ++ ");\n"

def createPart : Option String → String
  | none => "-- CREATE statement not available for this backend\n"
  | some statement =>
    let trimmed := Text.trimEnd statement
    let ended := trimmed.toList.getLast? == some ';'
    trimmed ++ (if ended then "" else ";") ++ "\n"

def renderDump (dump : TableDump) (quote : Char) (time : String) : String :=
  let table := quoteIdent quote dump.table
  let columns := Text.join ", " (dump.columns.map fun c => quoteIdent quote c.name)
  "-- Backup of table " ++ dump.table ++ "\n" ++
    "-- Generated: " ++ time ++ "\n" ++
    "-- Rows: " ++ toString dump.rows.length ++ "\n\n" ++
    "DROP TABLE IF EXISTS " ++ table ++ ";\n" ++
    createPart dump.createStatement ++ "\n" ++
    String.join (dump.rows.map fun row =>
      insertStatement table columns (rowLiterals dump.columns row))

end ChannelKeeper.Sql

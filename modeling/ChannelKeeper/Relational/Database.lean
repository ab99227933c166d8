import ChannelKeeper.Relational.Cell
import ChannelKeeper.Table.Basic

/-!
# The embedded database

Tables of rows that are known by a number. A table may have one column that is
this number; if it also counts, a number is never given twice, even after its row
is gone. Names are compared without regard to the case of ASCII letters. Every
statement either does all that it says or fails and changes nothing.
-/

namespace ChannelKeeper.Relational

structure Row where
  id : Int
  /-- One cell for each column, by the column's name. -/
  cells : List (String × Datum)
deriving DecidableEq

structure Table where
  name : String
  columns : List Column
  /-- The column that is the row's number. -/
  idColumn : Option String := none
  /-- Numbers are never given twice. -/
  counts : Bool := false
  /-- How the table was made. -/
  definition : String := ""
  /-- By number. -/
  rows : List Row := []

structure Database where
  tables : List Table := []

/-- Why a statement fails. -/
inductive Fault where
  /-- A number or a key is taken. -/
  | duplicate (detail : String)
  | failed (code : Nat) (detail : String)
deriving DecidableEq, Repr

def Fault.noTable (name : String) : Fault := .failed 1 ("no such table: " ++ name)

def Fault.noColumn (name : String) : Fault := .failed 1 ("no such column: " ++ name)

def Fault.notUnderstood (near : String) : Fault := .failed 1 ("near \"" ++ near ++ "\": syntax error")

namespace Row

def cell? (r : Row) (name : String) : Option Datum :=
  (r.cells.find? fun (column, _) => Text.sameLetters column name).map (·.2)

/-- The cell, where a name that is no column stands for its own text. -/
def read (r : Row) (name : String) : Datum := (r.cell? name).getD (.text name)

end Row

namespace Table

def column? (t : Table) (name : String) : Option Column :=
  t.columns.find? fun c => Text.sameLetters c.name name

def isIdColumn (t : Table) (name : String) : Bool := t.idColumn.any (Text.sameLetters name)

def affinity (t : Table) (name : String) : Affinity :=
  match t.column? name with
  | some c => .ofType c.dataType
  | none => .none

/-- The row's cell equals a value. -/
def holds (t : Table) (name : String) (value : Datum) (r : Row) : Bool :=
  (r.read name).matchesIn (t.affinity name) value

def placed (row : Row) : List Row → List Row
  | [] => [row]
  | r :: rest => if row.id < r.id then row :: r :: rest else r :: placed row rest

end Table

namespace Database

-- ---------------------------------------------------------------------------
-- Names
-- ---------------------------------------------------------------------------

/-- The table in which the greatest number given for each table is kept. -/
def counterTable : String := "sqlite_sequence"

def find? (db : Database) (name : String) : Option Table :=
  db.tables.find? fun t => Text.sameLetters t.name name

def find (db : Database) (name : String) : Except Fault Table :=
  match db.find? name with
  | some t => .ok t
  | none => .error (.noTable name)

def replace (db : Database) (t : Table) : Database :=
  { db with tables := db.tables.map fun old => if old.name == t.name then t else old }

-- ---------------------------------------------------------------------------
-- Making tables
-- ---------------------------------------------------------------------------

def quoted (name : String) : String := Sql.Backend.sqlite.quote name

def columnText (c : Column) : String := quoted c.name ++ " " ++ c.dataType

/-- Six type names are listed in capitals however they were written. -/
def listedType (declared : String) : String :=
  match ["ANY", "BLOB", "INT", "INTEGER", "REAL", "TEXT"].find? (Text.sameLetters declared) with
  | some name => name
  | none => declared

def listed (columns : List Column) : List Column :=
  columns.map fun c => { c with dataType := listedType c.dataType }

def definitionText (name : String) (columns : List String) : String :=
  "CREATE TABLE " ++ quoted name ++ " (" ++ Text.join ", " columns ++ ")"

def createTable (db : Database) (name : String) (columns : List Column) : Database :=
  let t : Table :=
    { name := name, columns := listed columns, definition := definitionText name (columns.map columnText) }
  { db with tables := db.tables ++ [t] }

/-- Adds a table whose column of the given name is the row's number and counts. -/
def createCounted (db : Database) (name idColumn : String) (columns : List Column) : Database :=
  let text (c : Column) :=
    if c.name == idColumn then quoted c.name ++ " INTEGER PRIMARY KEY AUTOINCREMENT" else columnText c
  let declared := columns.map fun c => if c.name == idColumn then { c with dataType := "INTEGER" } else c
  let t : Table :=
    { name := name, columns := listed declared, idColumn := some idColumn, counts := true
      definition := definitionText name (columns.map text) }
  let counter : Table :=
    { name := counterTable, columns := [⟨"name", ""⟩, ⟨"seq", ""⟩]
      definition := "CREATE TABLE sqlite_sequence(name,seq)" }
  { db with tables := db.tables ++ [t, counter] }

-- ---------------------------------------------------------------------------
-- Counters
-- ---------------------------------------------------------------------------

def counterRows (db : Database) : List Row :=
  match db.find? counterTable with
  | some t => t.rows
  | none => []

def counterOf (db : Database) (name : String) : Int :=
  match db.counterRows.find? fun r => r.cell? "name" == some (.text name) with
  | some r =>
    match r.cell? "seq" with
    | some (.integer n) => n
    | _ => 0
  | none => 0

def withCounter (db : Database) (name : String) (n : Int) : Database :=
  match db.find? counterTable with
  | none => db
  | some t =>
    let cells : List (String × Datum) := [("name", .text name), ("seq", .integer n)]
    let isOwn (r : Row) : Bool := r.cell? "name" == some (.text name)
    let rows :=
      if t.rows.any isOwn then t.rows.map fun r => if isOwn r then { r with cells := cells } else r
      else t.rows ++ [⟨((t.rows.getLast?.map (·.id)).getD 0) + 1, cells⟩]
    db.replace { t with rows := rows }

-- ---------------------------------------------------------------------------
-- Statements
-- ---------------------------------------------------------------------------

def lastId (t : Table) : Int := (t.rows.getLast?.map (·.id)).getD 0

/-- The number of a new row. -/
def freshId (db : Database) (t : Table) : Except Fault Int :=
  let least := if t.rows.isEmpty then 0 else lastId t
  let before := if t.counts then max least (db.counterOf t.name) else least
  if before < maxInteger then .ok (before + 1) else .error (.failed 13 "database or disk is full")

/-- The number that values give a row, if they give one. -/
def givenId (t : Table) (values : List (String × Datum)) : Except Fault (Option Int) :=
  match values.find? fun (name, _) => t.isIdColumn name with
  | none | some (_, .null) => .ok none
  | some (_, d) =>
    match d.store .integer with
    | .integer n => .ok (some n)
    | _ => .error (.failed 20 "datatype mismatch")

def storedCells (t : Table) (id : Int) (values : List (String × Datum)) : List (String × Datum) :=
  t.columns.map fun c =>
    let value := ((values.find? fun (name, _) => Text.sameLetters name c.name).map (·.2)).getD .null
    (c.name, if t.isIdColumn c.name then .integer id else value.store (.ofType c.dataType))

def checkColumns (t : Table) (names : List String) : Except Fault Unit :=
  match names.find? fun name => (t.column? name).isNone with
  | some name => .error (.failed 1 ("table " ++ t.name ++ " has no column named " ++ name))
  | none => .ok ()

def insert (db : Database) (table : String) (values : List (String × Datum)) :
    Except Fault (Int × Database) := do
  let t ← db.find table
  if values.isEmpty then throw (.notUnderstood ")")
  checkColumns t (values.map (·.1))
  let id ← match ← givenId t values with
    | some id => pure id
    | none => db.freshId t
  if t.rows.any (·.id == id) then
    throw (.duplicate ("UNIQUE constraint failed: " ++ t.name ++ "." ++ t.idColumn.getD "rowid"))
  let db := db.replace { t with rows := Table.placed ⟨id, storedCells t id values⟩ t.rows }
  return (id, if t.counts then db.withCounter t.name (max id (db.counterOf t.name)) else db)

def select (db : Database) (table : String) (test : Table → Row → Bool) : Except Fault (List Row) := do
  let t ← db.find table
  return t.rows.filter (test t)

def assigned (t : Table) (values : List (String × Datum)) (r : Row) : Row :=
  { r with cells := r.cells.map fun (name, old) =>
      match values.find? fun (n, _) => Text.sameLetters n name with
      | some (_, value) => (name, value.store (t.affinity name))
      | none => (name, old) }

/-- Sets cells of the rows that pass a test, and counts them. The column that is
the row's number is not among them. -/
def update (db : Database) (table : String) (values : List (String × Datum))
    (test : Table → Row → Bool) : Except Fault (Nat × Database) := do
  let t ← db.find table
  if values.isEmpty then throw (.notUnderstood "WHERE")
  match values.find? fun (name, _) => (t.column? name).isNone with
  | some (name, _) => throw (.noColumn name)
  | none =>
    let rows := t.rows.map fun r => if test t r then assigned t values r else r
    return ((t.rows.filter (test t)).length, db.replace { t with rows := rows })

def deleteAll (db : Database) (table : String) : Except Fault (Nat × Database) := do
  let t ← db.find table
  return (t.rows.length, db.replace { t with rows := [] })

/-- The table of the definitions, which has one row for each table. -/
def isMaster (name : String) : Bool :=
  Text.sameLetters name "sqlite_master" || Text.sameLetters name "sqlite_schema"

def count (db : Database) (table : String) : Except Fault Nat :=
  if isMaster table then .ok db.tables.length else (db.find table).map (·.rows.length)

-- ---------------------------------------------------------------------------
-- Catalogue
-- ---------------------------------------------------------------------------

/-- Names kept for the database itself; any character may follow the six letters. -/
def isReserved (name : String) : Bool :=
  (name.toList.take 6).map Char.toLower == "sqlite".toList && 7 ≤ name.toList.length

def tableNames (db : Database) : List String :=
  ((db.tables.map (·.name)).filter fun name => !isReserved name).mergeSort (· ≤ ·)

def columnsOf (db : Database) (table : String) : List Column :=
  match db.find? table with
  | some t => t.columns
  | none => []

/-- Unlike all other look-ups this one minds the case of letters. -/
def definition? (db : Database) (table : String) : Option String :=
  (db.tables.find? (·.name == table)).map (·.definition)

end Database

end ChannelKeeper.Relational

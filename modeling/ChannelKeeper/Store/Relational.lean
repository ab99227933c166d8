import ChannelKeeper.Channel.Columns
import ChannelKeeper.Relational.Database
import ChannelKeeper.Store.Basic

/-!
# Stores in the embedded database

The statements that read and write the `channels` table, over those of its
columns that are known, and those that list, dump and empty tables.
-/

namespace ChannelKeeper.Relational

def Fault.toError : Fault → StoreError
  | .duplicate detail => .conflict detail
  | .failed code detail =>
    .query ("error returned from database: (code: " ++ toString code ++ ") " ++ detail)

def reported {α : Type} (result : Except Fault α) : Except StoreError α :=
  result.mapError Fault.toError

namespace Database

def channelTable : String := "channels"

/-- The known columns that the table has. -/
def knownColumns (db : Database) : Except StoreError (List ChannelColumn) :=
  let live := db.columnsOf channelTable
  if live.isEmpty then .error (.query ("table '" ++ channelTable ++ "' not found"))
  else .ok (ChannelColumn.all.filter fun c => live.any fun l => Text.sameLetters l.name c.name)

/-- The channel of a row: every cell as a value of its column's kind. -/
def channelOf (columns : List ChannelColumn) (r : Row) : Channel :=
  columns.foldl (fun c column => column.read ((r.read column.name).cast column.kind) c) {}

/-- Rows of one id stay in their order. -/
def byId (rows : List Row) : List Row :=
  rows.mergeSort fun a b => (a.read "id").rank.atMost (b.read "id").rank

def selectChannels (db : Database) (test : Table → Row → Bool) : Except StoreError (List Channel) := do
  let columns ← db.knownColumns
  let rows ← reported (db.select channelTable test)
  return (byId rows).map (channelOf columns)

-- ---------------------------------------------------------------------------
-- Channels
-- ---------------------------------------------------------------------------

/-- A criterion that is not given does not test anything. -/
def passes (f : ChannelFilter) (t : Table) (r : Row) : Bool :=
  f.id.all (fun id => t.holds "id" (.integer id) r) &&
    (f.types.isEmpty || f.types.any fun kind => t.holds "type" (.integer kind) r) &&
    f.status.all fun status => t.holds "status" (.integer status) r

def isNamed (name : String) (id : Int) (t : Table) (r : Row) : Bool :=
  t.holds "name" (.text name) r || (t.holds "id" (.integer id) r && 0 < id)

def valuesOf (columns : List ChannelColumn) (c : Channel) : List (String × Datum) :=
  columns.map fun column => (column.name, column.write c)

/-- The id that a new row shows. -/
def shownId (db : Database) (number : Int) : Int :=
  let row := (db.find? channelTable).bind fun t => t.rows.find? (·.id == number)
  (row.bind fun r => ChannelColumn.int? ((r.read "id").cast .int)).getD number

def insertChannel (db : Database) (c : Channel) (keepId : Bool) : Except StoreError (Int × Database) := do
  let columns ← db.knownColumns
  let (number, db) ←
    reported (db.insert channelTable (valuesOf (columns.filter fun k => keepId || k.name != "id") c))
  return (db.shownId number, db)

def updateById (db : Database) (id : Int) (values : List (String × Datum)) :
    Except StoreError (Unit × Database) := do
  let (changed, db) ← reported (db.update channelTable values fun t r => t.holds "id" (.integer id) r)
  if changed = 0 then .error .notFound else return ((), db)

def updateChannel (db : Database) (c : Channel) : Except StoreError (Unit × Database) := do
  let columns ← db.knownColumns
  db.updateById c.id (valuesOf (columns.filter (·.name != "id")) c)

def keyValues (key : String) (status : Option Int) : List (String × Datum) :=
  ("key", .text key) :: (status.map fun s => ("status", .integer s)).toList

def channelStore : ChannelStore Database where
  list f := .ask (·.selectChannels (passes f))
  count := .ask fun db => (reported (db.count channelTable)).map Int.ofNat
  findExisting name id := .ask fun db => (db.selectChannels (isNamed name id)).map List.head?
  insert c keepId := .change (·.insertChannel c keepId)
  update c := .change (·.updateChannel c)
  deleteAll := .change fun db => reported (db.deleteAll channelTable)
  updateKey id key status := .change (·.updateById id (keyValues key status))
  updateModels id models := .change (·.updateById id [("models", .text models)])

-- ---------------------------------------------------------------------------
-- Tables
-- ---------------------------------------------------------------------------

/-- A cell as text, or none for null. -/
def cellText (d : Datum) : Cell := ChannelColumn.text? (d.cast .text)

def dump (db : Database) (table : String) : Except StoreError TableDump :=
  let columns := db.columnsOf table
  if columns.isEmpty then .error .notFound
  else do
    let rows ← reported (db.select table fun _ _ => true)
    return {
      table := table
      createStatement := db.definition? table
      columns := columns
      rows := rows.map fun r => columns.map fun c => cellText (r.read c.name) }

def tableStore : TableStore Database where
  listTables := .ask fun db => .ok db.tableNames
  countRows name := .ask fun db => (reported (db.count name)).map Int.ofNat
  dumpTable name := .ask (·.dump name)
  truncate name := .change fun db => (reported (db.deleteAll name)).map fun (_, db) => ((), db)
  identifierQuote := Sql.Backend.sqlite.identifierQuote

end Database

end ChannelKeeper.Relational

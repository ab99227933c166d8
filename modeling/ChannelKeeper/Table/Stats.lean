import ChannelKeeper.Table.Catalog

/-!
# Statistics of a database

Row counts joined with the catalog, and their totals: per category in display
order, the first few empty tables, and the largest of the large ones.
-/

namespace ChannelKeeper

open Json

structure TableStats where
  name : String
  rows : Int
  importance : Importance
  category : TableCategory
  description : String
deriving DecidableEq, Repr

structure CategoryTotal where
  category : TableCategory
  tables : Nat
  rows : Int
deriving DecidableEq, Repr

structure DatabaseStats where
  totalTables : Nat
  totalRecords : Int
  emptyTables : Nat
  /-- The first empty tables, in listing order. -/
  emptySample : List String
  /-- The largest of the large tables, the largest first. -/
  largeTables : List TableStats
  categories : List CategoryTotal
deriving DecidableEq, Repr

namespace TableStats

def ofCount (name : String) (rows : Int) : TableStats :=
  ⟨name, rows, Catalog.importanceOf name, Catalog.categoryOf name, Catalog.descriptionOf name⟩

/-- By category, then by name. -/
def comesBefore (a b : TableStats) : Bool :=
  a.category.rank < b.category.rank || (a.category == b.category && decide (a.name ≤ b.name))

def toJson (t : TableStats) : Value :=
  .object [
    ("name", .string t.name),
    ("rows", .int t.rows),
    ("importance", .string t.importance.label),
    ("category", .string t.category.label),
    ("description", .string t.description)]

end TableStats

namespace DatabaseStats

/-- More rows than this make a table large. -/
def largeRows : Int := 10000

def totalRows (tables : List TableStats) : Int := tables.foldr (·.rows + ·) 0

def categoryTotal (tables : List TableStats) (category : TableCategory) : Option CategoryTotal :=
  match tables.filter (·.category == category) with
  | [] => none
  | members => some ⟨category, members.length, totalRows members⟩

def ofTables (tables : List TableStats) : DatabaseStats :=
  let empty := tables.filter (·.rows == 0)
  let large := (tables.filter (largeRows < ·.rows)).mergeSort fun a b => b.rows ≤ a.rows
  { totalTables := tables.length
    totalRecords := totalRows tables
    emptyTables := empty.length
    emptySample := (empty.take 5).map (·.name)
    largeTables := large.take 5
    categories := TableCategory.all.filterMap (categoryTotal tables) }

def toJson (s : DatabaseStats) : Value :=
  let total (c : CategoryTotal) : Value :=
    .object [("category", .string c.category.label), ("tables", .nat c.tables), ("rows", .int c.rows)]
  .object [
    ("total_tables", .nat s.totalTables),
    ("total_records", .int s.totalRecords),
    ("empty_tables", .nat s.emptyTables),
    ("empty_sample", .array (s.emptySample.map .string)),
    ("large_tables", .array (s.largeTables.map TableStats.toJson)),
    ("categories", .array (s.categories.map total))]

end DatabaseStats

end ChannelKeeper

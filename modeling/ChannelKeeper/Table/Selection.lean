import ChannelKeeper.Table.Catalog

/-!
# Choosing tables to empty

A preset takes the tables of a list that the database has and says nothing of
the others. Named tables are looked up one by one in their first order; names
that no table has are reported.
-/

namespace ChannelKeeper

inductive TableSelection where
  | all
  | logs
  | business
  | named (tables : List String)
deriving DecidableEq, Repr

namespace TableSelection

def wanted : TableSelection → List String
  | .all => []
  | .logs => Catalog.logTables
  | .business => Catalog.businessTables
  | .named tables => tables

/-- Each name once, at its first place. -/
def distinct : List String → List String → List String
  | _, [] => []
  | seen, t :: rest =>
    if seen.contains t then distinct seen rest else t :: distinct (t :: seen) rest

/-- The tables that exist, and the names that do not. -/
def resolve (selection : TableSelection) (existing : List String) : List String × List String :=
  let names := distinct [] selection.wanted
  let missing := names.filter fun t => !existing.contains t
  match selection with
  | .all => (existing, [])
  | .named _ => (names.filter existing.contains, missing)
  | .logs | .business => (names.filter existing.contains, [])

/-- Emptying a critical table asks for a typed word. -/
def needsTypedWord (tables : List String) : Bool :=
  tables.any fun t => Catalog.importanceOf t == .critical

end TableSelection

end ChannelKeeper

import ChannelKeeper.Text.Chars
import ChannelKeeper.Json.Value

/-!
# Database tables

What a table is for, how much is lost when it is emptied, and what is read of it
for a dump. A column counts as numeric by its declared type alone, whatever its
cells hold.
-/

namespace ChannelKeeper

/-- How much damage emptying a table does. -/
inductive Importance where
  | critical
  | high
  | medium
  | low
  | unknown
deriving DecidableEq, Repr

def Importance.label : Importance → String
  | .critical => "CRITICAL"
  | .high => "HIGH"
  | .medium => "MEDIUM"
  | .low => "LOW"
  | .unknown => "UNKNOWN"

inductive TableCategory where
  | core
  | business
  | system
  | logs
  | unknown
deriving DecidableEq, Repr

namespace TableCategory

/-- In the order in which categories are shown. -/
def all : List TableCategory := [.core, .business, .system, .logs, .unknown]

def rank : TableCategory → Nat
  | .core => 0
  | .business => 1
  | .system => 2
  | .logs => 3
  | .unknown => 4

def label : TableCategory → String
  | .core => "core"
  | .business => "business"
  | .system => "system"
  | .logs => "logs"
  | .unknown => "unknown"

def title : TableCategory → String
  | .core => "Core data"
  | .business => "Business data"
  | .system => "System configuration"
  | .logs => "Logs and records"
  | .unknown => "Other tables"

end TableCategory

structure Column where
  name : String
  /-- The declared type. -/
  dataType : String
deriving DecidableEq, Repr

namespace Column

def numericTypes : List String :=
  ["int", "integer", "tinyint", "smallint", "mediumint", "bigint", "decimal", "numeric", "float",
    "double", "real", "double precision", "boolean", "bool"]

/-- The declared type is a numeric one, alone or before a bracket or a blank. -/
def isNumeric (c : Column) : Bool :=
  let declared := c.dataType.toList.map Char.toLower
  numericTypes.any fun t =>
    match t.toList.isPrefixOf? declared with
    | some [] => true
    | some (next :: _) => next == '(' || next == ' '
    | none => false

def toJson (c : Column) : Json.Value :=
  .object [("name", .string c.name), ("data_type", .string c.dataType)]

end Column

/-- A cell as text; `none` is NULL. -/
abbrev Cell := Option String

structure TableDump where
  table : String
  createStatement : Option String
  columns : List Column
  rows : List (List Cell)
deriving DecidableEq, Repr

/-- What became of one table of a clean run. -/
structure CleanOutcome where
  table : String
  success : Bool := false
  rowsRemoved : Int := 0
  backupFile : Option String := none
  error : Option String := none
deriving DecidableEq, Repr

end ChannelKeeper

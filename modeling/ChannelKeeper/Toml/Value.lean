/-!
# TOML tables

A document is a table of named values. While it is read, every table remembers
how it came to be, because that decides what may still be added to it: a table
is headed once, dotted keys only extend tables that dotted keys made, and a table
or array written as a value is closed.
-/

namespace ChannelKeeper.Toml

/-- Values as they are read; of a date only the fact is kept. -/
inductive Value where
  | string (text : String)
  | integer (n : Int)
  | float
  | boolean (b : Bool)
  | date
  | array (items : List Value)
  | table (members : List (String × Value))
deriving Repr

/-- How a table came to be. -/
inductive Origin where
  | headed
  /-- On the way to a headed table. -/
  | implied
  /-- On the way of a dotted key. -/
  | dotted
deriving DecidableEq, Repr

/-- A member of a table that is still being read. -/
inductive Node where
  | value (v : Value)
  | table (origin : Origin) (members : List (String × Node))
  /-- An array of headed tables; only the last one still grows. -/
  | tables (done : List Value) (last : List (String × Node))
deriving Repr

namespace Node

mutual

def close : Node → Value
  | .value v => v
  | .table _ members => .table (closeMembers members)
  | .tables done last => .array (done ++ [.table (closeMembers last)])

def closeMembers : List (String × Node) → List (String × Value)
  | [] => []
  | (name, node) :: rest => (name, node.close) :: closeMembers rest

end

end Node

structure Table where
  origin : Origin := .headed
  members : List (String × Node) := []
deriving Repr

namespace Table

def find? (t : Table) (name : String) : Option Node :=
  (t.members.find? (·.1 == name)).map (·.2)

def put (t : Table) (name : String) (node : Node) : Table :=
  if t.members.any (·.1 == name) then
    { t with members := t.members.map fun (n, old) => if n == name then (n, node) else (n, old) }
  else { t with members := t.members ++ [(name, node)] }

def close (t : Table) : Value := .table (Node.closeMembers t.members)

/-- Changes the table at the end of a path, making tables on the way. A dotted
path stays outside of headed tables. -/
def changeAt (isDotted : Bool) (change : Table → Option Table) : List String → Table → Option Table
  | [], t => change t
  | name :: path, t =>
    match t.find? name with
    | none => do
      let child ← changeAt isDotted change path { origin := if isDotted then .dotted else .implied }
      return t.put name (.table child.origin child.members)
    | some (.table origin members) =>
      if isDotted && origin == .headed then none
      else do
        let child ← changeAt isDotted change path ⟨origin, members⟩
        return t.put name (.table child.origin child.members)
    | some (.tables done last) => do
      let child ← changeAt isDotted change path ⟨.headed, last⟩
      return t.put name (.tables done child.members)
    | some (.value _) => none

/-- Sets a value below a dotted key, each name once. -/
def set? (t : Table) (path : List String) (name : String) (v : Value) : Option Table :=
  t.changeAt true (fun t =>
    if (t.origin == .dotted) == path.isEmpty || (t.find? name).isSome then none
    else some (t.put name (.value v))) path

/-- Heads a table that is not there yet, or was only implied. -/
def head? (t : Table) (path : List String) (name : String) : Option Table :=
  t.changeAt false (fun t =>
    match t.find? name with
    | none => some (t.put name (.table .headed []))
    | some (.table .implied members) => some (t.put name (.table .headed members))
    | some _ => none) path

/-- Adds a table to an array of tables. -/
def push? (t : Table) (path : List String) (name : String) : Option Table :=
  t.changeAt false (fun t =>
    match t.find? name with
    | none => some (t.put name (.tables [] []))
    | some (.tables done last) =>
      some (t.put name (.tables (done ++ [.table (Node.closeMembers last)]) []))
    | some _ => none) path

end Table

end ChannelKeeper.Toml

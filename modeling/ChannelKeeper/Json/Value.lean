import ChannelKeeper.Json.Number
import ChannelKeeper.Json.Reader

/-!
# JSON values

A value of free form. Read from a document, its members are sorted by name, the
last of equal names wins, and at most a given number of containers nest in each
other.
-/

namespace ChannelKeeper.Json

inductive Value where
  | null
  | bool (b : Bool)
  | number (n : Number)
  | string (s : String)
  | array (items : List Value)
  | object (members : List (String × Value))

namespace Value

instance : Inhabited Value := ⟨.null⟩

def int (n : Int) : Value := .number (.int n)

def nat (n : Nat) : Value := .number (.int n)

def float (x : Binary64) : Value := .number (.float x)

def optional {α : Type} (f : α → Value) : Option α → Value
  | none => .null
  | some a => f a

/-- Members sorted by name; a member takes the place of an equal one. -/
def insertMember (name : String) (value : Value) : List (String × Value) → List (String × Value)
  | [] => [(name, value)]
  | (n, v) :: rest =>
    if name = n then (name, value) :: rest
    else if name < n then (name, value) :: (n, v) :: rest
    else (n, v) :: insertMember name value rest

mutual

/-- The value of a document in which fewer than `depth + 1` containers nest. -/
def ofDocument? (depth : Nat) : Document → Option Value
  | .null => some .null
  | .bool b => some (.bool b)
  | .number n => n.toNumber?.map .number
  | .string s => (decodeText s).map .string
  | .array items =>
    match depth with
    | 0 => none
    | depth + 1 => (ofItems? depth items).map .array
  | .object members =>
    match depth with
    | 0 => none
    | depth + 1 => (ofMembers? depth members []).map .object

def ofItems? (depth : Nat) : List Document → Option (List Value)
  | [] => some []
  | d :: rest => do
    let v ← ofDocument? depth d
    let vs ← ofItems? depth rest
    return v :: vs

/-- `found` holds the members read so far. -/
def ofMembers? (depth : Nat) :
    List (List Piece × Document) → List (String × Value) → Option (List (String × Value))
  | [], found => some found
  | (key, d) :: rest, found => do
    let name ← decodeText key
    let v ← ofDocument? depth d
    ofMembers? depth rest (insertMember name v found)

end

mutual

/-- The value with the members of every object in it sorted by name. -/
def sorted : Value → Value
  | .array items => .array (sortedItems items)
  | .object members => .object (sortedMembers members)
  | v => v

def sortedItems : List Value → List Value
  | [] => []
  | v :: rest => sorted v :: sortedItems rest

/-- The names of an object are different, so the order of insertion does not matter. -/
def sortedMembers : List (String × Value) → List (String × Value)
  | [] => []
  | (name, v) :: rest => insertMember name (sorted v) (sortedMembers rest)

end

/-- One container less than the reader's limit of 128. -/
def depthLimit : Nat := 127

def read? (text : String) : Option Value :=
  Document.read? text >>= ofDocument? depthLimit

end Value

end ChannelKeeper.Json

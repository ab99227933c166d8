import ChannelKeeper.Json.Value

/-!
# Records in JSON

A record is read from an object, in which a field may stand only once and
unknown members are skipped unread, or from an array that gives the fields in
their order. An absent field has a default or none; `null` is a value of
optional fields only.
-/

namespace ChannelKeeper.Json

/-- The fields found in a document. -/
structure Record where
  /-- Given as an array, where only fields with defaults may be left out. -/
  positional : Bool
  found : List (String × Document)

namespace Record

/-- Each field that occurs once; a repeated one makes the object no record. -/
def collect (fields : List String) :
    List (List Piece × Document) → Option (List (String × Document))
  | [] => some []
  | (key, document) :: rest => do
    let name ← decodeText key
    let found ← collect fields rest
    if !fields.contains name then some found
    else if found.any (·.1 == name) then none
    else some ((name, document) :: found)

def ofDocument? (fields : List String) : Document → Option Record
  | .object members => (collect fields members).map (⟨false, ·⟩)
  | .array items =>
    if items.length ≤ fields.length then some ⟨true, fields.zip items⟩ else none
  | _ => none

def get? (r : Record) (field : String) : Option Document :=
  (r.found.find? (·.1 == field)).map (·.2)

variable {α : Type}

def required (r : Record) (field : String) (read : Document → Option α) : Option α :=
  r.get? field >>= read

def withDefault (r : Record) (field : String) (read : Document → Option α) (default : α) :
    Option α :=
  match r.get? field with
  | none => some default
  | some document => read document

/-- A field that may be absent from an object. -/
def optional (r : Record) (field : String) (read : Document → Option α) : Option (Option α) :=
  match r.get? field with
  | none => if r.positional then none else some none
  | some .null => some none
  | some document => (read document).map some

end Record

namespace Document

def toBool? : Document → Option Bool
  | .bool b => some b
  | _ => none

def toText? : Document → Option String
  | .string s => decodeText s
  | _ => none

def toNumber? : Document → Option Number
  | .number n => n.toNumber?
  | _ => none

/-- A signed integer of 64 bits. -/
def toInt? (d : Document) : Option Int :=
  match d.toNumber? with
  | some (.int n) => if -9223372036854775808 ≤ n ∧ n ≤ 9223372036854775807 then some n else none
  | _ => none

/-- An unsigned integer of 64 bits. -/
def toNat? (d : Document) : Option Nat :=
  match d.toNumber? with
  | some (.int n) => if 0 ≤ n then some n.toNat else none
  | _ => none

/-- A float; an integer is one too. -/
def toFloat? (d : Document) : Option Binary64 :=
  match d.toNumber? with
  | some (.int n) => some (.ofInt n)
  | some (.float x) => some x
  | none => none

def toList? {α : Type} (read : Document → Option α) : Document → Option (List α)
  | .array items => items.mapM read
  | _ => none

/-- `null` or a value. -/
def nullable {α : Type} (read : Document → Option α) : Document → Option (Option α)
  | .null => some none
  | document => (read document).map some

end Document

end ChannelKeeper.Json

import ChannelKeeper.Store.Basic

/-!
# Stores in memory

Rows and tables kept as lists, for trying operations out. They can be told which
calls fail; a call that fails changes nothing.
-/

namespace ChannelKeeper

/-- Rows in the order they came in, and the calls that fail. -/
structure MemoryChannels where
  rows : List Channel := []
  nextId : Int := 1
  /-- Writing a row of one of these names fails. -/
  failing : List String := []
  /-- Looking for one of these names fails. -/
  failingLookups : List String := []
  isDown : Bool := false

namespace MemoryChannels

def ofRows (rows : List Channel) : MemoryChannels :=
  { rows := rows, nextId := ((rows.map (·.id)).max?.getD 0) + 1 }

def injected : StoreError := .query "injected failure"

def outage : StoreError := .connection "injected outage"

/-- The name's failure comes before the outage. -/
def checkName (m : MemoryChannels) (name : String) : Except StoreError Unit :=
  if m.failing.contains name then .error injected
  else if m.isDown then .error outage
  else .ok ()

def checkUp (m : MemoryChannels) : Except StoreError Unit :=
  if m.isDown then .error outage else .ok ()

def rowOf? (m : MemoryChannels) (id : Int) : Option Channel := m.rows.find? (·.id == id)

def replaceFirst (id : Int) (change : Channel → Channel) : List Channel → List Channel
  | [] => []
  | c :: rest => if c.id = id then change c :: rest else c :: replaceFirst id change rest

def list (m : MemoryChannels) (f : ChannelFilter) : Except StoreError (List Channel) := do
  m.checkUp
  return (m.rows.filter f.selects).mergeSort fun a b => a.id ≤ b.id

def isMatch (name : String) (id : Int) (c : Channel) : Bool :=
  c.name == name || (0 < id && c.id == id)

def findExisting (m : MemoryChannels) (name : String) (id : Int) :
    Except StoreError (Option Channel) := do
  if m.failingLookups.contains name then throw (.query "injected lookup failure")
  m.checkUp
  return m.rows.find? (isMatch name id)

def insert (m : MemoryChannels) (c : Channel) (keepId : Bool) :
    Except StoreError (Int × MemoryChannels) := do
  m.checkName c.name
  if keepId then
    if m.rows.any (·.id == c.id) then throw (.conflict ("duplicate id " ++ toString c.id))
    return (c.id, { m with rows := m.rows ++ [c], nextId := max m.nextId (c.id + 1) })
  else
    return (m.nextId, { m with rows := m.rows ++ [{ c with id := m.nextId }], nextId := m.nextId + 1 })

/-- Changes the row of an id. A missing row is reported before the failures of
the row's own name. -/
def changeRow (m : MemoryChannels) (id : Int) (change : Channel → Channel) :
    Except StoreError (Unit × MemoryChannels) := do
  match m.rowOf? id with
  | none => .error .notFound
  | some row =>
    m.checkName row.name
    return ((), { m with rows := replaceFirst id change m.rows })

def update (m : MemoryChannels) (c : Channel) : Except StoreError (Unit × MemoryChannels) :=
  if m.failing.contains c.name then .error injected
  else m.changeRow c.id fun _ => c

def deleteAll (m : MemoryChannels) : Except StoreError (Nat × MemoryChannels) := do
  m.checkUp
  return (m.rows.length, { m with rows := [] })

def withKey (key : String) (status : Option Int) (c : Channel) : Channel :=
  { c with key := key, status := status.getD c.status }

def store : ChannelStore MemoryChannels where
  list f := .ask (·.list f)
  count := .ask fun m => m.checkUp.map fun _ => m.rows.length
  findExisting name id := .ask (·.findExisting name id)
  insert c keepId := .change (·.insert c keepId)
  update c := .change (·.update c)
  deleteAll := .change (·.deleteAll)
  updateKey id key status := .change (·.changeRow id (withKey key status))
  updateModels id models := .change (·.changeRow id fun c => { c with models := models })

end MemoryChannels

/-- Tables in their given order, and the calls that fail. -/
structure MemoryTables where
  tables : List TableDump := []
  failingCounts : List String := []
  failingDumps : List String := []
  failingTruncations : List String := []
  failsListing : Bool := false

namespace MemoryTables

def find (m : MemoryTables) (name : String) : Except StoreError TableDump :=
  match m.tables.find? (·.table == name) with
  | some t => .ok t
  | none => .error .notFound

def failIf (isFailing : Bool) (detail : String) : Except StoreError Unit :=
  if isFailing then .error (.query detail) else .ok ()

def store (quote : Char) : TableStore MemoryTables where
  listTables := .ask fun m => do
    failIf m.failsListing "cannot list tables"
    return m.tables.map (·.table)
  countRows name := .ask fun m => do
    failIf (m.failingCounts.contains name) ("cannot count " ++ name)
    return ((← m.find name).rows.length : Int)
  dumpTable name := .ask fun m => do
    failIf (m.failingDumps.contains name) ("cannot dump " ++ name)
    m.find name
  truncate name := .change fun m => do
    failIf (m.failingTruncations.contains name) ("cannot truncate " ++ name)
    let _ ← m.find name
    return ((), { m with tables := m.tables.map fun t => if t.table == name then { t with rows := [] } else t })
  identifierQuote := quote

end MemoryTables

/-- Rows and tables that know nothing of each other. -/
structure MemoryStore where
  channels : MemoryChannels := {}
  tables : MemoryTables := {}

namespace MemoryStore

def channelStore : ChannelStore MemoryStore :=
  MemoryChannels.store.onPart (·.channels) fun channels s => { s with channels := channels }

def tableStore (quote : Char) : TableStore MemoryStore :=
  (MemoryTables.store quote).onPart (·.tables) fun tables s => { s with tables := tables }

end MemoryStore

end ChannelKeeper

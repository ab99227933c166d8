import ChannelKeeper.Action
import ChannelKeeper.Channel.Basic
import ChannelKeeper.Failure
import ChannelKeeper.Table.Basic

/-!
# Stores

What the operations need of the gateway's database: the rows of its `channels`
table, and its tables as such. A store is used through these operations alone, so
every law of an operation holds for each store that keeps the laws it needs.
-/

namespace ChannelKeeper

structure ChannelStore (σ : Type) where
  /-- The selected rows by id. -/
  list : ChannelFilter → Action σ StoreError (List Channel)
  count : Action σ StoreError Int
  /-- A row of this name, or of this id if the id is positive. -/
  findExisting : String → Int → Action σ StoreError (Option Channel)
  /-- Adds a row under its own id or a fresh one, and gives the id. -/
  insert : Channel → Bool → Action σ StoreError Int
  /-- Replaces the row of the same id. -/
  update : Channel → Action σ StoreError Unit
  deleteAll : Action σ StoreError Nat
  /-- Replaces the keys, and the status if one is given. -/
  updateKey : Int → String → Option Int → Action σ StoreError Unit
  updateModels : Int → String → Action σ StoreError Unit

structure TableStore (σ : Type) where
  listTables : Action σ StoreError (List String)
  countRows : String → Action σ StoreError Int
  dumpTable : String → Action σ StoreError TableDump
  /-- Removes every row. -/
  truncate : String → Action σ StoreError Unit
  identifierQuote : Char

def ChannelStore.onPart {σ τ : Type} (get : τ → σ) (set : σ → τ → τ) (store : ChannelStore σ) :
    ChannelStore τ where
  list f := (store.list f).onPart get set
  count := store.count.onPart get set
  findExisting name id := (store.findExisting name id).onPart get set
  insert c keepId := (store.insert c keepId).onPart get set
  update c := (store.update c).onPart get set
  deleteAll := store.deleteAll.onPart get set
  updateKey id key status := (store.updateKey id key status).onPart get set
  updateModels id models := (store.updateModels id models).onPart get set

def TableStore.onPart {σ τ : Type} (get : τ → σ) (set : σ → τ → τ) (store : TableStore σ) :
    TableStore τ where
  listTables := store.listTables.onPart get set
  countRows name := (store.countRows name).onPart get set
  dumpTable name := (store.dumpTable name).onPart get set
  truncate name := (store.truncate name).onPart get set
  identifierQuote := store.identifierQuote

def ChannelStore.guarded {σ : Type} (check : σ → Except StoreError Unit) (store : ChannelStore σ) :
    ChannelStore σ where
  list f := (store.list f).guarded check
  count := store.count.guarded check
  findExisting name id := (store.findExisting name id).guarded check
  insert c keepId := (store.insert c keepId).guarded check
  update c := (store.update c).guarded check
  deleteAll := store.deleteAll.guarded check
  updateKey id key status := (store.updateKey id key status).guarded check
  updateModels id models := (store.updateModels id models).guarded check

def TableStore.guarded {σ : Type} (check : σ → Except StoreError Unit) (store : TableStore σ) :
    TableStore σ where
  listTables := store.listTables.guarded check
  countRows name := (store.countRows name).guarded check
  dumpTable name := (store.dumpTable name).guarded check
  truncate name := (store.truncate name).guarded check
  identifierQuote := store.identifierQuote

end ChannelKeeper

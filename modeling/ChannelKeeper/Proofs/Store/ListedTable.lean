import ChannelKeeper.Proofs.Store.Relational
import ChannelKeeper.Proofs.Store.RowTable

/-!
# Stores that list their rows

A `ListedTable` is a store with a view of its rows of which four calls are known.
Listing and counting leave the rows as they are, whether they succeed or fail. A
listing of everything has each row once, and emptying leaves none. Which calls fail
is left open, and nothing is said of what all other calls do. A table may be told
which of its calls to come fail.
-/

namespace ChannelKeeper

structure ListedTable (σ : Type) where
  store : ChannelStore σ
  rows : σ → List Channel
  count_keeps : store.count.Keeps rows
  list_keeps : (store.list .everything).Keeps rows
  list_ok : (store.list .everything).perform s = (.ok listed, s') → listed.Perm (rows s)
  deleteAll_ok : store.deleteAll.perform s = (.ok n, s') → n = (rows s).length ∧ rows s' = []

namespace ListedTable

variable {σ τ : Type}

def onPart (t : ListedTable σ) (get : τ → σ) (set : σ → τ → τ)
    (get_set : ∀ s w, get (set s w) = s) : ListedTable τ where
  store := t.store.onPart get set
  rows w := t.rows (get w)
  count_keeps := t.count_keeps.onPart get_set
  list_keeps := t.list_keeps.onPart get_set
  list_ok h := by
    obtain ⟨s, hperform, -⟩ := Action.perform_onPart_eq_ok.mp h
    exact t.list_ok hperform
  deleteAll_ok h := by
    obtain ⟨s, hperform, rfl⟩ := Action.perform_onPart_eq_ok.mp h
    rw [get_set]
    exact t.deleteAll_ok hperform

def inWorld (t : ListedTable σ) (φ : Type) : ListedTable (World σ φ) :=
  t.onPart World.data (fun data w => { w with data := data }) World.data_set

end ListedTable

-- ---------------------------------------------------------------------------
-- Rows in memory
-- ---------------------------------------------------------------------------

theorem ChannelFilter.selects_everything (c : Channel) :
    ChannelFilter.everything.selects c = true := rfl

namespace MemoryChannels

variable {m m' : MemoryChannels}

theorem list_eq_ok {f : ChannelFilter} (h : m.list f = .ok listed) :
    listed.Perm (m.rows.filter f.selects) := by
  rw [list, checkUp] at h
  split at h <;> cases h
  exact List.mergeSort_perm _ _

theorem list_everything_eq_ok (h : m.list .everything = .ok listed) : listed.Perm m.rows := by
  have hlisted := list_eq_ok h
  rwa [List.filter_eq_self.mpr fun c _ => ChannelFilter.selects_everything c] at hlisted

theorem deleteAll_eq_ok (h : m.deleteAll = .ok (n, m')) :
    n = m.rows.length ∧ m' = { m with rows := [] } := by
  rw [deleteAll, checkUp] at h
  split at h <;> cases h
  exact ⟨rfl, rfl⟩

def listedTable : ListedTable MemoryChannels where
  store := store
  rows := rows
  count_keeps := .ask _
  list_keeps := .ask _
  list_ok h := list_everything_eq_ok (Action.perform_ask_eq_ok.mp h).1
  deleteAll_ok h := by
    obtain ⟨hn, rfl⟩ := deleteAll_eq_ok (Action.perform_change_eq_ok.mp h)
    exact ⟨hn, rfl⟩

end MemoryChannels

def MemoryStore.listedTable : ListedTable MemoryStore :=
  MemoryChannels.listedTable.onPart channels (fun channels s => { s with channels := channels })
    MemoryStore.channels_set

-- ---------------------------------------------------------------------------
-- Rows in the embedded database
-- ---------------------------------------------------------------------------

namespace Relational.Database

variable {db db' : Database}

theorem passes_everything (t : Table) (r : Row) : passes .everything t r = true := rfl

theorem selectChannels_everything_eq_ok {found : List Channel}
    (h : db.selectChannels (passes .everything) = .ok found) : found.Perm db.channels := by
  obtain ⟨t, hfind, rfl⟩ := selectChannels_eq_ok h
  rw [channels_eq hfind, List.filter_eq_self.mpr fun r _ => passes_everything t r]
  exact (byId_perm t.rows).map _

theorem deleteAll_eq_ok {n : Nat} (h : db.deleteAll channelTable = .ok (n, db')) :
    n = db.channels.length ∧ db'.channels = [] := by
  cases hfind : db.find? channelTable with
  | none =>
    rw [deleteAll, find, hfind] at h
    cases h
  | some t =>
    rw [deleteAll, find_eq_ok hfind] at h
    cases h
    rw [channels_eq hfind, channels_eq (find?_replace hfind (by rfl)), List.length_map]
    exact ⟨rfl, rfl⟩

def listedTable : ListedTable Database where
  store := channelStore
  rows := channels
  count_keeps := .ask _
  list_keeps := .ask _
  list_ok h := selectChannels_everything_eq_ok (Action.perform_ask_eq_ok.mp h).1
  deleteAll_ok h := deleteAll_eq_ok (reported_eq_ok.mp (Action.perform_change_eq_ok.mp h))

end Relational.Database

-- ---------------------------------------------------------------------------
-- Calls that are told to fail
-- ---------------------------------------------------------------------------

/-- A state with what becomes of the calls to come: each fails as told, or goes on. -/
structure Told (σ : Type) where
  state : σ
  failures : List (Option StoreError)

namespace Told

variable {σ α : Type}

/-- A call that is told to fail does nothing. -/
def call (act : Action σ StoreError α) : Action (Told σ) StoreError α :=
  .ofFunction fun s =>
    match s.failures.head?.join with
    | some e => (.error e, { s with failures := s.failures.tail })
    | none => ((act.perform s.state).1, ⟨(act.perform s.state).2, s.failures.tail⟩)

def store (channels : ChannelStore σ) : ChannelStore (Told σ) where
  list f := call (channels.list f)
  count := call channels.count
  findExisting name id := call (channels.findExisting name id)
  insert c keepId := call (channels.insert c keepId)
  update c := call (channels.update c)
  deleteAll := call channels.deleteAll
  updateKey id key status := call (channels.updateKey id key status)
  updateModels id models := call (channels.updateModels id models)

variable {act : Action σ StoreError α} {s s' : Told σ}

theorem call_eq_ok (h : (call act).perform s = (.ok a, s')) :
    act.perform s.state = (.ok a, s'.state) := by
  rw [call, Action.perform_ofFunction] at h
  split at h
  · cases h
  · obtain ⟨ha, rfl⟩ := Prod.mk.inj h
    exact Prod.ext ha rfl

theorem keeps_call {γ : Type} {view : σ → γ} (h : act.Keeps view) :
    (call act).Keeps fun s : Told σ => view s.state := by
  intro s
  rw [call, Action.perform_ofFunction]
  split
  · rfl
  · exact h s.state

end Told

/-- The table with any calls told to fail. -/
def ListedTable.told {σ : Type} (t : ListedTable σ) : ListedTable (Told σ) where
  store := Told.store t.store
  rows s := t.rows s.state
  count_keeps := Told.keeps_call t.count_keeps
  list_keeps := Told.keeps_call t.list_keeps
  list_ok h := t.list_ok (Told.call_eq_ok h)
  deleteAll_ok h := t.deleteAll_ok (Told.call_eq_ok h)

end ChannelKeeper

import ChannelKeeper.Proofs.Store.KeyTable

/-!
# Stores as tables that take rows

A `RowTable` is a store with a view of its rows, for as long as no call of it
fails: a new row comes last and takes the next id, which no row had before it, and
a replaced row stays in its place. Which of several matching rows is found is left
open, and nothing is said of rows that bring their own id.
-/

namespace ChannelKeeper

open MemoryChannels (isMatch replaceFirst)

structure RowTable (σ : Type) where
  store : ChannelStore σ
  rows : σ → List Channel
  /-- The id of the next new row. -/
  next : σ → Int
  /-- No call of the store fails. -/
  isUp : σ → Prop
  distinct : isUp s → DistinctIds (rows s)
  below : isUp s → ∀ c ∈ rows s, c.id < next s
  findExisting_up (name : String) (id : Int) : isUp s →
    ∃ found, (store.findExisting name id).perform s = (.ok found, s) ∧
      (∀ row ∈ found, row ∈ rows s ∧ isMatch name id row = true) ∧
      (found = none → ∀ row ∈ rows s, isMatch name id row = false)
  insert_up (c : Channel) : isUp s →
    ∃ s', (store.insert c false).perform s = (.ok (next s), s') ∧ isUp s' ∧
      rows s' = rows s ++ [{ c with id := next s }] ∧ next s' = next s + 1
  update_up (c : Channel) : isUp s → (∃ row ∈ rows s, row.id = c.id) →
    ∃ s', (store.update c).perform s = (.ok (), s') ∧ isUp s' ∧
      rows s' = (rows s).map (fun row => if row.id = c.id then c else row) ∧ next s' = next s

-- ---------------------------------------------------------------------------
-- Rows and the next id
-- ---------------------------------------------------------------------------

/-- Each row has an id of its own, and the next one is beyond them. -/
structure Numbered (rows : List Channel) (next : Int) : Prop where
  distinct : DistinctIds rows
  below : ∀ row ∈ rows, row.id < next

theorem Numbered.concat (h : Numbered rows next) (hid : row.id = next) :
    Numbered (rows ++ [row]) (next + 1) where
  distinct := by
    rw [DistinctIds, List.map_append, List.nodup_append]
    refine ⟨h.distinct, List.nodup_singleton _, ?_⟩
    intro id hids other hother he
    obtain ⟨old, hold, rfl⟩ := List.mem_map.mp hids
    have hnext : other = next := by simpa [hid] using hother
    exact Int.ne_of_lt (h.below old hold) (he.trans hnext)
  below old hold := by
    rcases List.mem_append.mp hold with hold | hold
    · have := h.below old hold
      omega
    · rw [List.mem_singleton.mp hold]
      omega

theorem Numbered.replace (h : Numbered rows next) (c : Channel) :
    Numbered (rows.map fun row => if row.id = c.id then c else row) next where
  distinct := by
    refine h.distinct.map fun row => ?_
    split <;> simp [*]
  below row hrow := by
    obtain ⟨old, hold, rfl⟩ := List.mem_map.mp hrow
    have hbelow := h.below old hold
    split
    · rename_i hid
      simpa [hid] using hbelow
    · exact hbelow

-- ---------------------------------------------------------------------------
-- Rows in memory
-- ---------------------------------------------------------------------------

namespace MemoryChannels

/-- No call fails, and the next id is beyond those of the rows. -/
structure TakesRows (m : MemoryChannels) : Prop where
  isDown : m.isDown = false
  failing : m.failing = []
  failingLookups : m.failingLookups = []
  distinct : DistinctIds m.rows
  below : ∀ c ∈ m.rows, c.id < m.nextId

variable {m : MemoryChannels}

theorem TakesRows.findExisting_eq (h : m.TakesRows) (name : String) (id : Int) :
    m.findExisting name id = .ok (m.rows.find? (isMatch name id)) := by
  simp [findExisting, checkUp, h.isDown, h.failingLookups, bind, Except.bind, pure, Except.pure]

theorem TakesRows.insert_eq (h : m.TakesRows) (c : Channel) :
    m.insert c false = .ok (m.nextId, { m with
      rows := m.rows ++ [{ c with id := m.nextId }], nextId := m.nextId + 1 }) := by
  simp [insert, checkName, h.isDown, h.failing, bind, Except.bind, pure, Except.pure]

theorem TakesRows.update_eq (h : m.TakesRows) (hc : ∃ row ∈ m.rows, row.id = c.id) :
    m.update c = .ok ((), { m with
      rows := m.rows.map fun row => if row.id = c.id then c else row }) := by
  obtain ⟨row, hrow, hid⟩ := hc
  have hup : m.IsUp := ⟨h.isDown, by simp [h.failing]⟩
  rw [update, if_neg (by simp [h.failing]), ← hid]
  exact changeRow_up hup h.distinct hrow _

theorem TakesRows.numbered (h : m.TakesRows) : Numbered m.rows m.nextId := ⟨h.distinct, h.below⟩

theorem TakesRows.insert (h : m.TakesRows) (c : Channel) : TakesRows { m with
    rows := m.rows ++ [{ c with id := m.nextId }], nextId := m.nextId + 1 } := by
  have hnumbered : Numbered (m.rows ++ [{ c with id := m.nextId }]) (m.nextId + 1) :=
    h.numbered.concat rfl
  obtain ⟨hdistinct, hbelow⟩ := hnumbered
  exact ⟨h.isDown, h.failing, h.failingLookups, hdistinct, hbelow⟩

theorem TakesRows.update (h : m.TakesRows) (c : Channel) :
    TakesRows { m with rows := m.rows.map fun row => if row.id = c.id then c else row } := by
  obtain ⟨hdistinct, hbelow⟩ := h.numbered.replace c
  exact ⟨h.isDown, h.failing, h.failingLookups, hdistinct, hbelow⟩

/-- The rows in memory, when no call is told to fail. -/
def rowTable : RowTable MemoryChannels where
  store := store
  rows := rows
  next := nextId
  isUp := TakesRows
  distinct h := h.distinct
  below h := h.below
  findExisting_up := by
    intro m name id h
    refine ⟨m.rows.find? (isMatch name id), by simp [store, h.findExisting_eq],
      fun row hrow => ?_, fun hnone row hrow => ?_⟩
    · exact ⟨List.mem_of_find?_eq_some hrow, List.find?_some hrow⟩
    · simpa using List.find?_eq_none.mp hnone row hrow
  insert_up c h :=
    ⟨_, Action.perform_change_ok (h.insert_eq c), h.insert c, rfl, rfl⟩
  update_up _ h hc :=
    ⟨_, Action.perform_change_ok (h.update_eq hc), h.update _, rfl, rfl⟩

end MemoryChannels

theorem MemoryStore.channels_set (channels : MemoryChannels) (s : MemoryStore) :
    ({ s with channels := channels } : MemoryStore).channels = channels := rfl

theorem MemoryStore.set_channels (s : MemoryStore) :
    ({ s with channels := s.channels } : MemoryStore) = s := rfl

namespace RowTable

variable {σ τ : Type}

def onPart (t : RowTable σ) (get : τ → σ) (set : σ → τ → τ) (get_set : ∀ s w, get (set s w) = s)
    (set_get : ∀ w, set (get w) w = w) : RowTable τ where
  store := t.store.onPart get set
  rows w := t.rows (get w)
  next w := t.next (get w)
  isUp w := t.isUp (get w)
  distinct h := t.distinct h
  below h := t.below h
  findExisting_up := by
    intro w name id hu
    obtain ⟨found, hf, hsome, hnone⟩ := t.findExisting_up name id hu
    refine ⟨found, ?_, hsome, hnone⟩
    simp [ChannelStore.onPart, Action.perform_onPart, hf, set_get]
  insert_up := by
    intro w c hu
    obtain ⟨s', hs, hu', hr, hn⟩ := t.insert_up c hu
    refine ⟨set s' w, ?_, ?_, ?_, ?_⟩
    · simp [ChannelStore.onPart, Action.perform_onPart, hs]
    all_goals rwa [get_set]
  update_up := by
    intro w c hu hc
    obtain ⟨s', hs, hu', hr, hn⟩ := t.update_up c hu hc
    refine ⟨set s' w, ?_, ?_, ?_, ?_⟩
    · simp [ChannelStore.onPart, Action.perform_onPart, hs]
    all_goals rwa [get_set]

def inWorld (t : RowTable σ) (φ : Type) : RowTable (World σ φ) :=
  t.onPart World.data (fun data w => { w with data := data }) World.data_set World.set_data

end RowTable

def MemoryStore.rowTable : RowTable MemoryStore :=
  MemoryChannels.rowTable.onPart channels (fun channels s => { s with channels := channels })
    channels_set set_channels

end ChannelKeeper

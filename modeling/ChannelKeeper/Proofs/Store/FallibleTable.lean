import ChannelKeeper.Proofs.Store.RowTable

/-!
# Stores whose calls may fail

A `FallibleTable` is a store with a view of its rows. What it says of a call, it
says for when the call succeeds: the first row with the name or the id is found, a
new row comes last under the next id, and a replaced row stays in its place. A row
may show a channel otherwise than it was written, under the same id and name.
Which calls fail is left open, and so is what a failed call leaves behind.
-/

namespace ChannelKeeper

open MemoryChannels (isMatch replaceFirst)

/-- Rows show the ids and names that were written to them. -/
structure KeepsNames (shown : Channel → Channel) : Prop where
  id (c : Channel) : (shown c).id = c.id
  name (c : Channel) : (shown c).name = c.name

theorem KeepsNames.isMatch_shown (h : KeepsNames shown) (name : String) (id : Int) (c : Channel) :
    isMatch name id (shown c) = isMatch name id c := by
  rw [isMatch, isMatch, h.id, h.name]

structure FallibleTable (σ : Type) where
  store : ChannelStore σ
  /-- In the order in which they are looked through. -/
  rows : σ → List Channel
  /-- The id of the next new row. -/
  next : σ → Int
  /-- What a row shows of a channel that was written to it. -/
  shown : σ → Channel → Channel
  isSound : σ → Prop
  numbered : isSound s → Numbered (rows s) (next s)
  keepsNames : isSound s → KeepsNames (shown s)
  findExisting_ok (name : String) (id : Int) : isSound s →
    (store.findExisting name id).perform s = (.ok found, s') →
      s' = s ∧ found = (rows s).find? (isMatch name id)
  insert_ok (c : Channel) : isSound s → (store.insert c false).perform s = (.ok given, s') →
    isSound s' ∧ rows s' = rows s ++ [shown s { c with id := next s }] ∧ next s' = next s + 1 ∧
      shown s' = shown s
  update_ok (c : Channel) : isSound s → (store.update c).perform s = (.ok (), s') →
    isSound s' ∧ rows s' = (rows s).map (fun row => if row.id = c.id then shown s c else row) ∧
      next s' = next s ∧ shown s' = shown s

namespace FallibleTable

variable {σ τ : Type}

def onPart (t : FallibleTable σ) (get : τ → σ) (set : σ → τ → τ)
    (get_set : ∀ s w, get (set s w) = s) (set_get : ∀ w, set (get w) w = w) : FallibleTable τ where
  store := t.store.onPart get set
  rows w := t.rows (get w)
  next w := t.next (get w)
  shown w := t.shown (get w)
  isSound w := t.isSound (get w)
  numbered h := t.numbered h
  keepsNames h := t.keepsNames h
  findExisting_ok name id hs h := by
    obtain ⟨s, hperform, rfl⟩ := Action.perform_onPart_eq_ok.mp h
    obtain ⟨rfl, hfound⟩ := t.findExisting_ok name id hs hperform
    exact ⟨set_get _, hfound⟩
  insert_ok c hs h := by
    obtain ⟨s, hperform, rfl⟩ := Action.perform_onPart_eq_ok.mp h
    rw [get_set]
    exact t.insert_ok c hs hperform
  update_ok c hs h := by
    obtain ⟨s, hperform, rfl⟩ := Action.perform_onPart_eq_ok.mp h
    rw [get_set]
    exact t.update_ok c hs hperform

def inWorld (t : FallibleTable σ) (φ : Type) : FallibleTable (World σ φ) :=
  t.onPart World.data (fun data w => { w with data := data }) World.data_set World.set_data

end FallibleTable

-- ---------------------------------------------------------------------------
-- Rows in memory
-- ---------------------------------------------------------------------------

namespace MemoryChannels

variable {m m' : MemoryChannels}

theorem findExisting_eq_ok {name : String} {id : Int} (h : m.findExisting name id = .ok found) :
    found = m.rows.find? (isMatch name id) := by
  unfold findExisting at h
  by_cases hname : m.failingLookups.contains name
  · rw [if_pos hname] at h
    cases h
  · rw [if_neg hname, checkUp] at h
    split at h <;> cases h
    rfl

theorem checkName_cases (m : MemoryChannels) (name : String) :
    m.checkName name = .ok () ∨ ∃ e, m.checkName name = .error e := by
  cases m.checkName name with
  | ok => exact .inl rfl
  | error e => exact .inr ⟨e, rfl⟩

theorem insert_eq_ok (h : m.insert c false = .ok (given, m')) :
    m' = { m with rows := m.rows ++ [{ c with id := m.nextId }], nextId := m.nextId + 1 } := by
  unfold insert at h
  rcases m.checkName_cases c.name with hn | ⟨e, hn⟩ <;> rw [hn] at h <;> cases h
  rfl

theorem changeRow_eq_ok {id : Int} {change : Channel → Channel}
    (h : m.changeRow id change = .ok ((), m')) :
    m' = { m with rows := replaceFirst id change m.rows } := by
  unfold changeRow at h
  split at h
  · cases h
  · rename_i row _
    rcases m.checkName_cases row.name with hn | ⟨e, hn⟩ <;> rw [hn] at h <;> cases h
    rfl

theorem update_eq_ok (h : m.update c = .ok ((), m')) :
    m' = { m with rows := replaceFirst c.id (fun _ => c) m.rows } := by
  unfold update at h
  split at h
  · cases h
  · exact changeRow_eq_ok h

/-- The rows in memory, whatever calls are told to fail. -/
def fallibleTable : FallibleTable MemoryChannels where
  store := store
  rows := rows
  next := nextId
  shown _ c := c
  isSound m := Numbered m.rows m.nextId
  numbered h := h
  keepsNames _ := ⟨fun _ => rfl, fun _ => rfl⟩
  findExisting_ok name id _ h := by
    obtain ⟨hfound, hsame⟩ := Action.perform_ask_eq_ok.mp h
    exact ⟨hsame, findExisting_eq_ok hfound⟩
  insert_ok c hs h := by
    obtain rfl := insert_eq_ok (Action.perform_change_eq_ok.mp h)
    exact ⟨hs.concat rfl, rfl, rfl, rfl⟩
  update_ok c hs h := by
    obtain rfl := update_eq_ok (Action.perform_change_eq_ok.mp h)
    have hrows := replaceFirst_eq_map hs.distinct c.id fun _ => c
    refine ⟨?_, hrows, rfl, rfl⟩
    rw [hrows]
    exact hs.replace c

end MemoryChannels

def MemoryStore.fallibleTable : FallibleTable MemoryStore :=
  MemoryChannels.fallibleTable.onPart channels (fun channels s => { s with channels := channels })
    channels_set set_channels

end ChannelKeeper

import ChannelKeeper.Store.Memory
import ChannelKeeper.Proofs.World
import Mathlib.Data.List.Nodup

/-!
# Stores as tables of keys

A `KeyTable` is a store with a view of its rows, for as long as no call of it
fails: listing gives the selected rows, and a new key changes the row of its id
and no other. The rows in memory are one, and so is a table that is a part of a
larger state. Nothing is said of adding and removing rows.
-/

namespace ChannelKeeper

open MemoryChannels (withKey replaceFirst)

/-- The ids of the rows are all different. -/
def DistinctIds (rows : List Channel) : Prop := (rows.map (·.id)).Nodup

instance (rows : List Channel) : Decidable (DistinctIds rows) :=
  inferInstanceAs (Decidable (rows.map (·.id)).Nodup)

structure KeyTable (σ : Type) where
  store : ChannelStore σ
  rows : σ → List Channel
  /-- No call of the store fails. -/
  isUp : σ → Prop
  list_up (f : ChannelFilter) : isUp s →
    ∃ listed, (store.list f).perform s = (.ok listed, s) ∧ listed.Perm ((rows s).filter f.selects)
  updateKey_up (id : Int) (key : String) (status : Option Int) : isUp s → DistinctIds (rows s) →
    (∃ c ∈ rows s, c.id = id) → ∃ s', (store.updateKey id key status).perform s = (.ok (), s') ∧
      isUp s' ∧ rows s' = (rows s).map fun c => if c.id = id then withKey key status c else c

-- ---------------------------------------------------------------------------
-- Rows by id
-- ---------------------------------------------------------------------------

theorem DistinctIds.eq_of_id (h : DistinctIds rows) (hc : c ∈ rows) (hd : d ∈ rows)
    (he : c.id = d.id) : c = d := List.inj_on_of_nodup_map h hc hd he

theorem DistinctIds.perm (h : DistinctIds rows) (hp : rows.Perm listed) : DistinctIds listed :=
  (hp.map _).nodup_iff.mp h

theorem DistinctIds.filter (h : DistinctIds rows) (p : Channel → Bool) :
    DistinctIds (rows.filter p) :=
  h.sublist (List.filter_sublist.map _)

theorem DistinctIds.find?_id (h : DistinctIds rows) (hc : c ∈ rows) :
    rows.find? (·.id == c.id) = some c := by
  cases hf : rows.find? (·.id == c.id) with
  | none => simpa using List.find?_eq_none.mp hf c hc
  | some d =>
    have hid : d.id = c.id := by simpa using List.find?_some hf
    rw [h.eq_of_id (List.mem_of_find?_eq_some hf) hc hid]

theorem DistinctIds.map (h : DistinctIds rows) {change : Channel → Channel}
    (hi : ∀ c, (change c).id = c.id) : DistinctIds (rows.map change) := by
  simpa [DistinctIds, Function.comp_def, hi] using h

-- ---------------------------------------------------------------------------
-- Rows in memory
-- ---------------------------------------------------------------------------

namespace MemoryChannels

theorem replaceFirst_eq_map {rows : List Channel} (h : DistinctIds rows) (id : Int)
    (change : Channel → Channel) :
    replaceFirst id change rows = rows.map fun c => if c.id = id then change c else c := by
  induction rows with
  | nil => rfl
  | cons c rest ih =>
    obtain ⟨hc, hrest⟩ := List.nodup_cons.mp h
    rw [replaceFirst, List.map_cons]
    split
    · rename_i hid
      -- no other row has this id, so the rest of the map is the identity
      have hsame : (rest.map fun d => if d.id = id then change d else d) = rest := by
        refine (List.map_congr_left fun d hd => if_neg fun he => hc ?_).trans (List.map_id _)
        exact List.mem_map.mpr ⟨d, hd, he.trans hid.symm⟩
      rw [hsame]
    · rw [ih hrest]

/-- No call fails: neither an outage nor a row whose writing fails. -/
def IsUp (m : MemoryChannels) : Prop := m.isDown = false ∧ ∀ c ∈ m.rows, c.name ∉ m.failing

theorem changeRow_up {m : MemoryChannels} (hu : m.IsUp) (hd : DistinctIds m.rows)
    (hc : c ∈ m.rows) (change : Channel → Channel) :
    m.changeRow c.id change = .ok ((), { m with
      rows := m.rows.map fun r => if r.id = c.id then change r else r }) := by
  simp [changeRow, rowOf?, hd.find?_id hc, checkName, hu.1, hu.2 c hc, replaceFirst_eq_map hd, bind,
    Except.bind, pure, Except.pure]

theorem list_perm {m : MemoryChannels} (hu : m.IsUp) (f : ChannelFilter) :
    ∃ listed, m.list f = .ok listed ∧ listed.Perm (m.rows.filter f.selects) := by
  refine ⟨_, ?_, List.mergeSort_perm _ fun a b => a.id ≤ b.id⟩
  simp [list, checkUp, hu.1, bind, Except.bind, pure, Except.pure]

theorem perform_changeRow {m : MemoryChannels} {id : Int} {change : Channel → Channel}
    (hu : m.IsUp) (hd : DistinctIds m.rows) (hid : ∃ c ∈ m.rows, c.id = id)
    (hname : ∀ c, (change c).name = c.name) :
    ∃ m', (Action.change (MemoryChannels.changeRow · id change)).perform m = (.ok (), m') ∧
      m'.IsUp ∧ m'.rows = m.rows.map fun c => if c.id = id then change c else c := by
  obtain ⟨c, hc, rfl⟩ := hid
  refine ⟨_, Action.perform_change_ok (changeRow_up hu hd hc _), ⟨hu.1, ?_⟩, rfl⟩
  intro d hd
  obtain ⟨r, hr, rfl⟩ := List.mem_map.mp hd
  split
  · exact hname r ▸ hu.2 r hr
  · exact hu.2 r hr

def table : KeyTable MemoryChannels where
  store := store
  rows := rows
  isUp := IsUp
  list_up f hu := by
    obtain ⟨listed, hl, hp⟩ := list_perm hu f
    exact ⟨listed, by simp [store, hl], hp⟩
  updateKey_up _ _ _ hu hd hid := perform_changeRow hu hd hid fun _ => rfl

end MemoryChannels

namespace KeyTable

variable {σ τ : Type}

def onPart (t : KeyTable σ) (get : τ → σ) (set : σ → τ → τ) (get_set : ∀ s w, get (set s w) = s)
    (set_get : ∀ w, set (get w) w = w) : KeyTable τ where
  store := t.store.onPart get set
  rows w := t.rows (get w)
  isUp w := t.isUp (get w)
  list_up := by
    intro w f hu
    obtain ⟨listed, hl, hp⟩ := t.list_up f hu
    refine ⟨listed, ?_, hp⟩
    simp [ChannelStore.onPart, Action.perform_onPart, hl, set_get]
  updateKey_up := by
    intro w id key status hu hd hc
    obtain ⟨s', hs, hu', hr⟩ := t.updateKey_up id key status hu hd hc
    refine ⟨set s' w, ?_, ?_, ?_⟩
    · simp [ChannelStore.onPart, Action.perform_onPart, hs]
    · rwa [get_set]
    · rwa [get_set]

def inWorld (t : KeyTable σ) (φ : Type) : KeyTable (World σ φ) :=
  t.onPart World.data (fun data w => { w with data := data }) (fun _ _ => rfl) (fun _ => rfl)

end KeyTable

def MemoryStore.keyTable : KeyTable MemoryStore :=
  MemoryChannels.table.onPart channels (fun channels s => { s with channels := channels })
    (fun _ _ => rfl) (fun _ => rfl)

end ChannelKeeper

import ChannelKeeper.Proofs.Store.Relational
import ChannelKeeper.Proofs.Store.RowTable

/-!
# Stores as tables of model lists

A `ModelTable` is a store with a view of its rows, for as long as no call of it fails:
listing gives the selected rows, and new models change the row of their id and no other.
The rows in memory are one, and so is the embedded database where the models of a channel
are kept as text. Nothing is said of tables with nulls for models.
-/

namespace ChannelKeeper

open MemoryChannels (IsUp)

structure ModelTable (σ : Type) where
  store : ChannelStore σ
  rows : σ → List Channel
  /-- No call of the store fails. -/
  isUp : σ → Prop
  list_up (f : ChannelFilter) : isUp s →
    ∃ listed, (store.list f).perform s = (.ok listed, s) ∧ listed.Perm ((rows s).filter f.selects)
  updateModels_up (id : Int) (models : String) : isUp s → DistinctIds (rows s) →
    (∃ c ∈ rows s, c.id = id) → ∃ s', (store.updateModels id models).perform s = (.ok (), s') ∧
      isUp s' ∧ rows s' = (rows s).map fun c => if c.id = id then { c with models := models } else c

namespace ModelTable

variable {σ τ : Type}

def onPart (t : ModelTable σ) (get : τ → σ) (set : σ → τ → τ) (get_set : ∀ s w, get (set s w) = s)
    (set_get : ∀ w, set (get w) w = w) : ModelTable τ where
  store := t.store.onPart get set
  rows w := t.rows (get w)
  isUp w := t.isUp (get w)
  list_up := by
    intro w f hu
    obtain ⟨listed, hl, hp⟩ := t.list_up f hu
    refine ⟨listed, ?_, hp⟩
    simp [ChannelStore.onPart, Action.perform_onPart, hl, set_get]
  updateModels_up := by
    intro w id models hu hd hc
    obtain ⟨s', hs, hu', hr⟩ := t.updateModels_up id models hu hd hc
    refine ⟨set s' w, ?_, ?_, ?_⟩
    · simp [ChannelStore.onPart, Action.perform_onPart, hs]
    · rwa [get_set]
    · rwa [get_set]

def inWorld (t : ModelTable σ) (φ : Type) : ModelTable (World σ φ) :=
  t.onPart World.data (fun data w => { w with data := data }) World.data_set World.set_data

end ModelTable

-- ---------------------------------------------------------------------------
-- Rows in memory
-- ---------------------------------------------------------------------------

def MemoryChannels.modelTable : ModelTable MemoryChannels where
  store := store
  rows := rows
  isUp := IsUp
  list_up := table.list_up
  updateModels_up _ _ hu hd hid := perform_changeRow hu hd hid fun _ => rfl

def MemoryStore.modelTable : ModelTable MemoryStore :=
  MemoryChannels.modelTable.onPart channels (fun channels s => { s with channels := channels })
    channels_set set_channels

-- ---------------------------------------------------------------------------
-- Rows in the embedded database
-- ---------------------------------------------------------------------------

namespace Relational

/-- A table with channels in it whose models are kept as text. -/
structure Table.HasModels (t : Table) : Prop extends t.HasChannels where
  modelsColumn : (t.column? "models").isSome
  modelsAffinity : t.affinity "models" = .text
  modelsCell : ∀ r ∈ t.rows, (r.cell? "models").isSome

namespace Table

variable {t : Table} {r : Row}

instance (t : Table) : Decidable t.HasModels :=
  decidable_of_iff
    (t.HasChannels ∧ (t.column? "models").isSome ∧ t.affinity "models" = .text ∧
      ∀ r ∈ t.rows, (r.cell? "models").isSome)
    ⟨fun ⟨h₁, h₂, h₃, h₄⟩ => ⟨h₁, h₂, h₃, h₄⟩, fun ⟨h₁, h₂, h₃, h₄⟩ => ⟨h₁, h₂, h₃, h₄⟩⟩

theorem assignment?_models (models : String) (hc : column ∈ ChannelColumn.all) :
    assignment? [("models", .text models)] column.name =
      if column.name = "models" then some (.text models) else none := by
  have hm : Text.sameLetters "models" column.name = (column.name == "models") :=
    (ChannelColumn.sameLetters_names "models" (by decide) column.name
      (List.mem_map_of_mem hc)).trans BEq.comm
  simp only [assignment?, List.find?_cons, hm]
  by_cases hmodels : column.name = "models"
  · simp [hmodels]
  · simp [hmodels, beq_false_of_ne hmodels]

theorem channelOf_assigned_models (h : t.HasModels) (hr : r ∈ t.rows) (models : String) :
    Database.channelOf t.knownColumns (Database.assigned t [("models", .text models)] r) =
      { Database.channelOf t.knownColumns r with models := models } := by
  have hall := knownColumns_subset t
  have hmem := mem_knownColumns h.modelsColumn (by decide)
  refine (ChannelColumn.readAll_congr (fun column hc => ?_) {}).trans
    ((ChannelColumn.sets_models models).readAll_update hall hmem {})
  have hassigned := assignment?_models models (hall hc)
  rw [Function.update_apply]
  split
  · rename_i hm
    rw [if_pos hm] at hassigned
    rw [read_assigned_of_some t hassigned (hm ▸ h.modelsCell r hr), hm, h.modelsAffinity]
    rfl
  · rename_i hm
    rw [if_neg hm] at hassigned
    exact read_assigned_of_none t hassigned r

theorem HasModels.withValues (h : t.HasModels) (id : Int) (models : String) :
    (Database.withValues t id [("models", .text models)]).HasModels where
  toHasChannels := by
    refine h.toHasChannels.withValues id fun name hn value hvalue => ?_
    have hother : ∀ name ∈ ["id", "type", "status"],
        assignment? [("models", .text models)] name = none := by
      simp [assignment?, Text.sameLetters]
    rw [hother name hn] at hvalue
    cases hvalue
  modelsColumn := h.modelsColumn
  modelsAffinity := h.modelsAffinity
  modelsCell r hr := by
    obtain ⟨old, hold, rfl⟩ := List.mem_map.mp hr
    split
    · rw [cell?_assigned, Option.isSome_map]
      exact h.modelsCell old hold
    · exact h.modelsCell old hold

end Table

def Database.modelTable : ModelTable Database where
  store := channelStore
  rows := channels
  isUp db := ∃ t, db.find? channelTable = some t ∧ t.HasModels
  list_up f := by
    rintro ⟨t, h, hc⟩
    exact keyTable.list_up f ⟨t, h, hc.toHasChannels⟩
  updateModels_up := by
    rintro db id models ⟨t, h, hc⟩ - hid
    let t' := withValues t id [("models", .text models)]
    have hfind := find?_replace h (show t'.name = t.name from rfl)
    rw [channels_eq h] at hid ⊢
    have hupdate : db.updateById id [("models", .text models)] = .ok ((), db.replace t') :=
      updateById_values h hc.toHasChannels (List.cons_ne_nil _ _)
        (List.forall_mem_singleton.mpr hc.modelsColumn) hid
    refine ⟨_, Action.perform_change_ok hupdate, ⟨_, hfind, hc.withValues id models⟩, ?_⟩
    rw [channels_eq hfind]
    exact Table.channels_withValues hc.toHasChannels id fun r hr =>
      Table.channelOf_assigned_models hc hr models

end Relational

end ChannelKeeper

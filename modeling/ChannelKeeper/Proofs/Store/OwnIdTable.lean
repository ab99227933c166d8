import ChannelKeeper.Proofs.Channel.Info
import ChannelKeeper.Proofs.Store.ListedTable

/-!
# Stores that take rows under their own ids

An `OwnIdTable` is a listed table that can be emptied and that refuses a row with an id
of its own exactly if a row has this id already. A row shows the fields of its channel that
the table has columns for. Where infos are kept as texts, it shows an empty object for an
info that is nothing. What it shows of values that the table does not keep is left open, but
for the id. Listing may fail, and nothing is said of rows that bring no id.
-/

namespace ChannelKeeper

/-- The channel with an empty object in place of an info that is nothing. -/
def Channel.filled (c : Channel) : Channel := { c with info := ChannelColumn.orEmpty c.info }

structure OwnIdTable (σ : Type) extends ListedTable σ where
  /-- No call that writes fails for another reason, and this is what a row shows of a
  channel that was written to it. -/
  takes : (Channel → Channel) → σ → Prop
  shown_id : takes shown s → ∀ c : Channel, (shown c).id = c.id
  /-- The names of the columns that the rows have. -/
  columns : σ → List String
  /-- Infos are kept as texts. -/
  fillsInfos : Bool
  /-- The rows keep the values of the channel as they are. -/
  keeps : σ → Channel → Prop
  shown_eq : takes shown s → keeps s c →
    shown c = (if fillsInfos then c.filled else c).limitedTo (columns s)
  list_takes : (store.list .everything).Preserves (takes shown)
  deleteAll_takes : takes shown s →
    ∃ n s', store.deleteAll.perform s = (.ok n, s') ∧ takes shown s'
  insert_new (c : Channel) : takes shown s → (∀ row ∈ rows s, row.id ≠ c.id) →
    ∃ id s', (store.insert c true).perform s = (.ok id, s') ∧ takes shown s' ∧
      (rows s').Perm (shown c :: rows s)
  insert_taken (c : Channel) : takes shown s → (∃ row ∈ rows s, row.id = c.id) →
    ∃ e s', (store.insert c true).perform s = (.error e, s') ∧ takes shown s' ∧
      (rows s').Perm (rows s)

namespace OwnIdTable

variable {σ τ : Type}

def onPart (t : OwnIdTable σ) (get : τ → σ) (set : σ → τ → τ)
    (get_set : ∀ s w, get (set s w) = s) : OwnIdTable τ where
  toListedTable := t.toListedTable.onPart get set get_set
  takes shown w := t.takes shown (get w)
  shown_id h := t.shown_id h
  columns w := t.columns (get w)
  fillsInfos := t.fillsInfos
  keeps w := t.keeps (get w)
  shown_eq h := t.shown_eq h
  list_takes := t.list_takes.onPart get_set
  deleteAll_takes := by
    intro shown w h
    obtain ⟨n, s, hperform, htakes⟩ := t.deleteAll_takes h
    refine ⟨n, set s w, Action.perform_onPart_eq_ok.mpr ⟨s, hperform, rfl⟩, ?_⟩
    rwa [get_set]
  insert_new := by
    intro shown w c h hnew
    obtain ⟨id, s, hperform, htakes, hrows⟩ := t.insert_new c h hnew
    refine ⟨id, set s w, Action.perform_onPart_eq_ok.mpr ⟨s, hperform, rfl⟩, ?_⟩
    show t.takes shown (get (set s w)) ∧ (t.rows (get (set s w))).Perm _
    rw [get_set]
    exact ⟨htakes, hrows⟩
  insert_taken := by
    intro shown w c h htaken
    obtain ⟨e, s, hperform, htakes, hrows⟩ := t.insert_taken c h htaken
    refine ⟨e, set s w, ?_, ?_⟩
    · show (Action.onPart get set (t.store.insert c true)).perform w = _
      rw [Action.perform_onPart, hperform]
    · show t.takes shown (get (set s w)) ∧ (t.rows (get (set s w))).Perm _
      rw [get_set]
      exact ⟨htakes, hrows⟩

end OwnIdTable

-- ---------------------------------------------------------------------------
-- Rows in memory
-- ---------------------------------------------------------------------------

namespace MemoryChannels

/-- No call is told to fail. -/
structure TakesOwnIds (m : MemoryChannels) : Prop where
  isUp : m.isDown = false
  failing : m.failing = []

variable {m : MemoryChannels}

theorem TakesOwnIds.insert_new (h : m.TakesOwnIds) (hnew : ∀ row ∈ m.rows, row.id ≠ c.id) :
    m.insert c true =
      .ok (c.id, { m with rows := m.rows ++ [c], nextId := max m.nextId (c.id + 1) }) := by
  have hnone : m.rows.any (·.id == c.id) = false := by simpa using hnew
  simp [insert, checkName, h.isUp, h.failing, hnone, bind, Except.bind, pure, Except.pure]

theorem TakesOwnIds.insert_taken (h : m.TakesOwnIds) (htaken : ∃ row ∈ m.rows, row.id = c.id) :
    m.insert c true = .error (.conflict ("duplicate id " ++ toString c.id)) := by
  have hany : m.rows.any (·.id == c.id) = true := by simpa using htaken
  simp [insert, checkName, h.isUp, h.failing, hany, bind, Except.bind, throw, throwThe,
    MonadExceptOf.throw]

theorem TakesOwnIds.deleteAll_eq (h : m.TakesOwnIds) :
    m.deleteAll = .ok (m.rows.length, { m with rows := [] }) := by
  simp [deleteAll, checkUp, h.isUp, bind, Except.bind, pure, Except.pure]

def ownIdTable : OwnIdTable MemoryChannels where
  toListedTable := listedTable
  takes shown m := shown = id ∧ m.TakesOwnIds
  shown_id h c := by rw [h.1, id]
  columns _ := ChannelColumn.all.map (·.name)
  fillsInfos := false
  keeps _ _ := True
  shown_eq {shown m c} h _ := by
    rw [h.1]
    exact c.limitedTo_all.symm
  list_takes _ h := h
  deleteAll_takes := by
    rintro shown m ⟨hshown, h⟩
    exact ⟨_, _, Action.perform_change_ok h.deleteAll_eq, hshown, h.isUp, h.failing⟩
  insert_new := by
    rintro _ m c ⟨rfl, h⟩ hnew
    exact ⟨_, _, Action.perform_change_ok (h.insert_new hnew), ⟨rfl, h.isUp, h.failing⟩,
      List.perm_append_singleton c m.rows⟩
  insert_taken := by
    rintro shown m c ⟨hshown, h⟩ htaken
    exact ⟨_, m, Action.perform_change_eq_error.mpr ⟨h.insert_taken htaken, rfl⟩, ⟨hshown, h⟩, .refl _⟩

end MemoryChannels

def MemoryStore.ownIdTable : OwnIdTable MemoryStore :=
  MemoryChannels.ownIdTable.onPart channels (fun channels s => { s with channels := channels })
    MemoryStore.channels_set

end ChannelKeeper

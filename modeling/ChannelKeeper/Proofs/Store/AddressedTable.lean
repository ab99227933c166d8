import ChannelKeeper.Proofs.Store.ListedTable
import ChannelKeeper.Proofs.Store.RelationalRows
import Mathlib.Data.List.Forall2

/-!
# Stores whose rows are changed by id

An `AddressedTable` is a store with a view of its rows of which three calls are known.
A listing reads: whatever filter it has, its channels are rows, and of one of the types
where types are given. New keys and new models go to rows of one id, whose id and type
stay. Which calls fail is left open, and a failed call may have done its work or not.
-/

namespace ChannelKeeper

/-- Every row is in its place with its id and its type, and only some may have changed. -/
def ChangedWithin (p : Channel → Prop) (before after : List Channel) : Prop :=
  List.Forall₂ (fun b a => a.id = b.id ∧ a.kind = b.kind ∧ (¬ p b → a = b)) before after

/-- Whether it succeeds or fails, the call changes rows of this id at most. -/
def ChangesAt {σ : Type} (rows : σ → List Channel) (isSound : σ → Prop) (id : Int)
    (act : Action σ StoreError Unit) : Prop :=
  ∀ s, isSound s → isSound (act.perform s).2 ∧
    ChangedWithin (·.id = id) (rows s) (rows (act.perform s).2)

structure AddressedTable (σ : Type) where
  store : ChannelStore σ
  rows : σ → List Channel
  /-- Ids and types are compared as the numbers they are read as. -/
  isSound : σ → Prop
  list_keeps (f : ChannelFilter) : (store.list f).Keeps fun s => (rows s, isSound s)
  list_ok : isSound s → (store.list f).perform s = (.ok listed, s') →
    ∀ c ∈ listed, c ∈ rows s ∧ (f.types ≠ [] → c.kind ∈ f.types)
  updateKey_changes (id : Int) (key : String) (status : Option Int) :
    ChangesAt rows isSound id (store.updateKey id key status)
  updateModels_changes (id : Int) (models : String) :
    ChangesAt rows isSound id (store.updateModels id models)

-- ---------------------------------------------------------------------------
-- Rows before and after
-- ---------------------------------------------------------------------------

namespace ChangedWithin

variable {p q : Channel → Prop} {rows rows' rows'' : List Channel}

theorem refl (p : Channel → Prop) (rows : List Channel) : ChangedWithin p rows rows :=
  List.forall₂_same.mpr fun _ _ => ⟨rfl, rfl, fun _ => rfl⟩

theorem trans (h : ChangedWithin p rows rows') (h' : ChangedWithin p rows' rows'') :
    ChangedWithin p rows rows'' := by
  induction h generalizing rows'' with
  | nil => exact h'
  | cons hrow _ ih =>
    obtain ⟨_, _, hrow', hrest', rfl⟩ := List.forall₂_cons_left_iff.mp h'
    obtain ⟨hid, hkind, hsame⟩ := hrow
    obtain ⟨hid', hkind', hsame'⟩ := hrow'
    refine .cons ⟨hid'.trans hid, hkind'.trans hkind, fun hp => ?_⟩ (ih hrest')
    obtain rfl := hsame hp
    exact hsame' hp

theorem exists_before (h : ChangedWithin p rows rows') (hc : c ∈ rows') :
    ∃ b ∈ rows, c.id = b.id ∧ c.kind = b.kind := by
  induction h with
  | nil => cases hc
  | cons hrow _ ih =>
    rcases List.mem_cons.mp hc with rfl | hc
    · exact ⟨_, List.mem_cons_self, hrow.1, hrow.2.1⟩
    · obtain ⟨b, hb, hsame⟩ := ih hc
      exact ⟨b, List.mem_cons_of_mem _ hb, hsame⟩

theorem imp (h : ChangedWithin p rows rows') (hpq : ∀ b ∈ rows, p b → q b) :
    ChangedWithin q rows rows' := by
  induction h with
  | nil => exact .nil
  | cons hrow _ ih =>
    obtain ⟨hp, hrest⟩ := List.forall_mem_cons.mp hpq
    exact .cons ⟨hrow.1, hrow.2.1, fun hq => hrow.2.2 fun hb => hq (hp hb)⟩ (ih hrest)

end ChangedWithin

namespace ChangesAt

variable {σ τ : Type} {rows : σ → List Channel} {isSound : σ → Prop} {id : Int}
  {act : Action σ StoreError Unit}

theorem onPart {get : τ → σ} {set : σ → τ → τ} (h : ChangesAt rows isSound id act)
    (get_set : ∀ s w, get (set s w) = s) :
    ChangesAt (fun w => rows (get w)) (fun w => isSound (get w)) id (act.onPart get set) := by
  intro w hs
  have hpart := h (get w) hs
  rw [← get_set (act.perform (get w)).2 w] at hpart
  exact hpart

theorem told (h : ChangesAt rows isSound id act) :
    ChangesAt (fun s : Told σ => rows s.state) (fun s => isSound s.state) id (Told.call act) := by
  intro s hs
  rw [Told.call, Action.perform_ofFunction]
  split
  · exact ⟨hs, .refl _ _⟩
  · exact h s.state hs

theorem change {f : σ → Except StoreError (Unit × σ)}
    (h : ∀ s s', isSound s → f s = .ok ((), s') →
      isSound s' ∧ ChangedWithin (·.id = id) (rows s) (rows s')) :
    ChangesAt rows isSound id (.change f) := by
  intro s hs
  cases hf : f s with
  | error e =>
    rw [Action.perform_change_eq_error.mpr ⟨hf, rfl⟩]
    exact ⟨hs, .refl _ _⟩
  | ok result =>
    obtain ⟨⟨⟩, s'⟩ := result
    rw [Action.perform_change_ok hf]
    exact h s s' hs hf

end ChangesAt

namespace AddressedTable

variable {σ τ : Type}

def onPart (t : AddressedTable σ) (get : τ → σ) (set : σ → τ → τ)
    (get_set : ∀ s w, get (set s w) = s) : AddressedTable τ where
  store := t.store.onPart get set
  rows w := t.rows (get w)
  isSound w := t.isSound (get w)
  list_keeps f := (t.list_keeps f).onPart get_set
  list_ok hs h := by
    obtain ⟨s, hperform, -⟩ := Action.perform_onPart_eq_ok.mp h
    exact t.list_ok hs hperform
  updateKey_changes id key status := (t.updateKey_changes id key status).onPart get_set
  updateModels_changes id models := (t.updateModels_changes id models).onPart get_set

/-- The table with any calls told to fail. -/
def told (t : AddressedTable σ) : AddressedTable (Told σ) where
  store := Told.store t.store
  rows s := t.rows s.state
  isSound s := t.isSound s.state
  list_keeps f := Told.keeps_call (t.list_keeps f)
  list_ok hs h := t.list_ok hs (Told.call_eq_ok h)
  updateKey_changes id key status := (t.updateKey_changes id key status).told
  updateModels_changes id models := (t.updateModels_changes id models).told

end AddressedTable

-- ---------------------------------------------------------------------------
-- Rows in memory
-- ---------------------------------------------------------------------------

theorem ChannelFilter.kind_of_selects {f : ChannelFilter} (h : f.selects c = true)
    (hne : f.types ≠ []) : c.kind ∈ f.types := by
  simp only [selects, Bool.and_eq_true, Bool.or_eq_true, List.isEmpty_iff] at h
  exact List.contains_iff_mem.mp (h.1.2.resolve_left hne)

namespace MemoryChannels

theorem changedWithin_replaceFirst {change : Channel → Channel} (hid : ∀ c, (change c).id = c.id)
    (hkind : ∀ c, (change c).kind = c.kind) (id : Int) (rows : List Channel) :
    ChangedWithin (·.id = id) rows (replaceFirst id change rows) := by
  induction rows with
  | nil => exact .nil
  | cons c rest ih =>
    rw [replaceFirst]
    split
    · rename_i hc
      exact .cons ⟨hid c, hkind c, fun hne => absurd hc hne⟩ (ChangedWithin.refl _ rest)
    · exact .cons ⟨rfl, rfl, fun _ => rfl⟩ ih

theorem changeRow_changes (id : Int) (change : Channel → Channel) (hid : ∀ c, (change c).id = c.id)
    (hkind : ∀ c, (change c).kind = c.kind) :
    ChangesAt rows (fun _ => True) id (.change (MemoryChannels.changeRow · id change)) := by
  refine .change fun m m' _ h => ⟨trivial, ?_⟩
  rw [changeRow] at h
  split at h
  · cases h
  · obtain ⟨_, -, hm⟩ := bind_eq_ok.mp h
    cases hm
    exact changedWithin_replaceFirst hid hkind id m.rows

def addressedTable : AddressedTable MemoryChannels where
  store := store
  rows := rows
  isSound _ := True
  list_keeps _ := .ask _
  list_ok _ h c hc := by
    have hlisted := list_eq_ok (Action.perform_ask_eq_ok.mp h).1
    obtain ⟨hmem, hselects⟩ := List.mem_filter.mp (hlisted.mem_iff.mp hc)
    exact ⟨hmem, ChannelFilter.kind_of_selects hselects⟩
  updateKey_changes id key status :=
    changeRow_changes id (withKey key status) (fun _ => rfl) fun _ => rfl
  updateModels_changes id models :=
    changeRow_changes id (fun c => { c with models := models }) (fun _ => rfl) fun _ => rfl

end MemoryChannels

def MemoryStore.addressedTable : AddressedTable MemoryStore :=
  MemoryChannels.addressedTable.onPart channels (fun channels s => { s with channels := channels })
    MemoryStore.channels_set

-- ---------------------------------------------------------------------------
-- Rows in the embedded database
-- ---------------------------------------------------------------------------

namespace Relational

/-- Numbers are compared as they are, and not as texts or reals. -/
def Affinity.keepsNumbers : Affinity → Bool
  | .integer | .numeric | .none => true
  | .text | .real => false

theorem Datum.matchesIn_integer {affinity : Affinity} (ha : affinity.keepsNumbers = true)
    (stored : Datum) (n : Int) :
    stored.matchesIn affinity (.integer n) = stored.equals (.integer n) := by
  cases affinity with
  | text | real => cases ha
  | integer | numeric | none => rfl

/-- Whatever kind of value is in the cell, it is read as the number that it equals. -/
theorem Datum.cast_of_equals {d : Datum} {n : Int} (h : d.equals (.integer n) = true) :
    d.cast .int = .integer n := by
  cases d with
  | null | text => cases h
  | integer m =>
    obtain rfl : m = n := eq_of_beq h
    rfl
  | real x =>
    have hreal : ofReal x = .integer n := eq_of_beq h
    rw [ofReal] at hreal
    split at hreal
    · rename_i m hm
      split at hreal
      · rename_i hrange
        cases hreal
        simp only [Bool.and_eq_true, decide_eq_true_eq] at hrange
        have hclamp : max minInteger (min maxInteger n) = n := by omega
        simp only [cast, hm, hclamp]
      · cases hreal
    · cases hreal

theorem Datum.number_of_equals {d : Datum} {n : Int} (h : d.equals (.integer n) = true) :
    ChannelColumn.number d = n := by
  rw [ChannelColumn.number, cast_of_equals h]
  rfl

namespace Table

/-- There is a column of the name, which is compared as a number. -/
structure ComparesIn (t : Table) (name : String) : Prop where
  column : (t.column? name).isSome
  affinity : (t.affinity name).keepsNumbers = true

/-- There are columns for ids and types, which are compared as numbers. -/
structure ComparesNumbers (t : Table) : Prop where
  columns : ∀ name ∈ ["id", "type"], (t.column? name).isSome
  affinities : ∀ name ∈ ["id", "type"], (t.affinity name).keepsNumbers = true

variable {t : Table} {name : String} {field : Channel → Int}

theorem ComparesNumbers.comparesIn (h : t.ComparesNumbers) (hn : name ∈ ["id", "type"]) :
    t.ComparesIn name := ⟨h.columns name hn, h.affinities name hn⟩

theorem ComparesIn.channelOf (h : t.ComparesIn name) (hn : name ∈ ChannelColumn.criteria)
    (hs : ChannelColumn.Shows name field) (r : Row) :
    field (Database.channelOf t.knownColumns r) = ChannelColumn.number (r.read name) := by
  have hknown : ∀ name ∈ ChannelColumn.criteria, name ∈ ChannelColumn.all.map (·.name) := by decide
  exact ChannelColumn.field_readAll hs hn (knownColumns_subset t)
    (mem_knownColumns h.column (hknown name hn)) {}

theorem ComparesNumbers.channelOf (h : t.ComparesNumbers) (hn : name ∈ ["id", "type"])
    (hs : ChannelColumn.Shows name field) (r : Row) :
    field (Database.channelOf t.knownColumns r) = ChannelColumn.number (r.read name) :=
  (h.comparesIn hn).channelOf (List.mem_append_left ["status"] hn) hs r

theorem ComparesNumbers.eq_of_holds (h : t.ComparesNumbers) (hn : name ∈ ["id", "type"])
    (hs : ChannelColumn.Shows name field) {n : Int} (hholds : t.holds name (.integer n) r = true) :
    field (Database.channelOf t.knownColumns r) = n := by
  rw [holds, Datum.matchesIn_integer (h.affinities name hn)] at hholds
  rw [h.channelOf hn hs, Datum.number_of_equals hholds]

theorem ComparesNumbers.channelOf_assigned (h : t.ComparesNumbers) (hn : name ∈ ["id", "type"])
    (hs : ChannelColumn.Shows name field) {values : List (String × Datum)}
    (hv : assignment? values name = none) (r : Row) :
    field (Database.channelOf t.knownColumns (Database.assigned t values r)) =
      field (Database.channelOf t.knownColumns r) := by
  rw [h.channelOf hn hs, h.channelOf hn hs, read_assigned_of_none t hv]

end Table

namespace Database

variable {db db' : Database} {t : Table}

theorem updateById_eq_ok {id : Int} {values : List (String × Datum)}
    (h : db.updateById id values = .ok ((), db')) :
    ∃ t, db.find? channelTable = some t ∧ db' = db.replace (withValues t id values) := by
  rw [updateById] at h
  obtain ⟨⟨changed, db₁⟩, hchanged, h⟩ := bind_eq_ok.mp h
  obtain rfl : db₁ = db' := by
    dsimp only at h
    split at h <;> cases h
    rfl
  have hupdate := reported_eq_ok.mp hchanged
  cases hfind : db.find? channelTable with
  | none =>
    rw [update, find, hfind] at hupdate
    cases hupdate
  | some t => exact ⟨t, rfl, update_eq_ok hfind hupdate⟩

/-- Ids and types of channels are compared as numbers. -/
def ComparesNumbers (db : Database) : Prop :=
  ∀ t, db.find? channelTable = some t → t.ComparesNumbers

theorem updateById_changes (id : Int) {values : List (String × Datum)}
    (hv : ∀ name ∈ ["id", "type"], Table.assignment? values name = none) :
    ChangesAt channels ComparesNumbers id (.change (·.updateById id values)) := by
  refine .change fun db db' hs h => ?_
  obtain ⟨t, hfind, rfl⟩ := updateById_eq_ok h
  have hfind' := find?_replace hfind (show (withValues t id values).name = t.name from rfl)
  have ht := hs t hfind
  constructor
  · intro t' ht'
    cases hfind'.symm.trans ht'
    exact ⟨ht.columns, ht.affinities⟩
  · rw [channels_eq hfind, channels_eq hfind', withValues, List.map_map]
    refine List.forall₂_map_left_iff.mpr (List.forall₂_map_right_iff.mpr
      (List.forall₂_same.mpr fun r _ => ?_))
    rw [Function.comp_apply]
    split
    · rename_i hholds
      refine ⟨ht.channelOf_assigned (by simp) ChannelColumn.shows_id (hv _ (by simp)) r,
        ht.channelOf_assigned (by simp) ChannelColumn.shows_kind (hv _ (by simp)) r,
        fun hne => absurd ?_ hne⟩
      exact ht.eq_of_holds (by simp) ChannelColumn.shows_id hholds
    · exact ⟨rfl, rfl, fun _ => rfl⟩

theorem kind_of_passes (ht : t.ComparesNumbers) {f : ChannelFilter}
    (h : passes f t r = true) (hne : f.types ≠ []) :
    (channelOf t.knownColumns r).kind ∈ f.types := by
  simp only [passes, Bool.and_eq_true, Bool.or_eq_true, List.isEmpty_iff] at h
  obtain ⟨kind, hkind, hholds⟩ := List.any_eq_true.mp (h.1.2.resolve_left hne)
  rw [ht.eq_of_holds (by simp) ChannelColumn.shows_kind hholds]
  exact hkind

def addressedTable : AddressedTable Database where
  store := channelStore
  rows := channels
  isSound := ComparesNumbers
  list_keeps _ := .ask _
  list_ok hs h c hc := by
    obtain ⟨t, hfind, rfl⟩ := selectChannels_eq_ok (Action.perform_ask_eq_ok.mp h).1
    obtain ⟨r, hr, rfl⟩ := List.mem_map.mp hc
    obtain ⟨hmem, hpasses⟩ := List.mem_filter.mp ((byId_perm _).mem_iff.mp hr)
    rw [channels_eq hfind]
    exact ⟨List.mem_map_of_mem hmem, kind_of_passes (hs t hfind) hpasses⟩
  updateKey_changes id key status := by
    refine updateById_changes id (List.forall_mem_cons.mpr ⟨?_, List.forall_mem_singleton.mpr ?_⟩)
    · cases status <;> rfl
    · cases status <;> rfl
  updateModels_changes id models :=
    updateById_changes id (List.forall_mem_cons.mpr ⟨rfl, List.forall_mem_singleton.mpr rfl⟩)

end Database

end Relational

end ChannelKeeper

import ChannelKeeper.Proofs.Alike
import ChannelKeeper.Proofs.Channel.Masking
import ChannelKeeper.Proofs.Store.Relational
import ChannelKeeper.Store.Memory

/-!
# Rows with other secrets

Stores whose rows are the same but for what is hidden of their secrets list channels
that are the same but for it, in the same order and for every filter. In the embedded
database any values may be in the cells, nulls among them, as long as those of all other
columns are the same and those of the secrets are alike when they are read as texts.
-/

namespace ChannelKeeper

namespace Lists

/-- Lists that are related item by item are so after they are sorted, if the order does
not tell related items apart. -/
theorem forall₂_mergeSort {R : α → β → Prop} {le : α → α → Bool} {le' : β → β → Bool}
    (hle : ∀ a a' b b', R a b → R a' b' → le a a' = le' b b') {l : List α} {l' : List β}
    (h : List.Forall₂ R l l') : List.Forall₂ R (l.mergeSort le) (l'.mergeSort le') := by
  -- both lists are sorted as one list of pairs
  have hpairs : ∃ pairs : List (α × β), (∀ p ∈ pairs, R p.1 p.2) ∧ pairs.map Prod.fst = l ∧
      pairs.map Prod.snd = l' := by
    induction h with
    | nil => exact ⟨[], nofun, rfl, rfl⟩
    | @cons a b _ _ hab _ ih =>
      obtain ⟨pairs, hrelated, hfst, hsnd⟩ := ih
      exact ⟨(a, b) :: pairs, List.forall_mem_cons.mpr ⟨hab, hrelated⟩, by simp [hfst],
        by simp [hsnd]⟩
  obtain ⟨pairs, hrelated, rfl, rfl⟩ := hpairs
  let both (p q : α × β) : Bool := le p.1 q.1
  have hfst : (pairs.mergeSort both).map Prod.fst = (pairs.map Prod.fst).mergeSort le :=
    List.map_mergeSort fun _ _ _ _ => rfl
  have hsnd : (pairs.mergeSort both).map Prod.snd = (pairs.map Prod.snd).mergeSort le' :=
    List.map_mergeSort fun p hp q hq => hle _ _ _ _ (hrelated p hp) (hrelated q hq)
  rw [← hfst, ← hsnd]
  refine List.forall₂_map_left_iff.mpr (List.forall₂_map_right_iff.mpr
    (List.forall₂_same.mpr fun p hp => ?_))
  exact hrelated p (List.mem_mergeSort.mp hp)

theorem forall₂_filter {R : α → β → Prop} {p : α → Bool} {q : β → Bool}
    (hpq : ∀ a b, R a b → p a = q b) {l : List α} {l' : List β} (h : List.Forall₂ R l l') :
    List.Forall₂ R (l.filter p) (l'.filter q) :=
  List.rel_filter (fun a b hab => iff_of_eq (congrArg (· = true) (hpq a b hab))) h

end Lists

/-- A listing from related states gives channels that are the same but for what is
hidden. -/
def ChannelStore.HidesSecrets {σ : Type} (store : ChannelStore σ) (R : σ → σ → Prop) : Prop :=
  ∀ f, (store.list f).Alike R (List.Forall₂ Channel.LooksLike) (store.list f)

theorem ChannelStore.HidesSecrets.onPart {σ τ : Type} {store : ChannelStore σ}
    {R : σ → σ → Prop} (h : store.HidesSecrets R) {T : τ → τ → Prop} {get : τ → σ}
    {set : σ → τ → τ} (hget : ∀ t t', T t t' → R (get t) (get t'))
    (hset : ∀ s s' t t', R s s' → T t t' → T (set s t) (set s' t')) :
    (store.onPart get set).HidesSecrets T :=
  fun f => (h f).onPart hget hset

-- ---------------------------------------------------------------------------
-- Rows in memory
-- ---------------------------------------------------------------------------

namespace MemoryChannels

structure LooksLike (m m' : MemoryChannels) : Prop where
  rows : List.Forall₂ Channel.LooksLike m.rows m'.rows
  isDown : m.isDown = m'.isDown

theorem store_hidesSecrets : store.HidesSecrets LooksLike := by
  refine fun f => .ask fun m m' h => ?_
  rw [list, list, checkUp, checkUp, h.isDown]
  split
  · exact .error _
  · refine .ok (Lists.forall₂_mergeSort (fun a a' b b' hab hab' => ?_) ?_)
    · rw [hab.id_eq, hab'.id_eq]
    · exact Lists.forall₂_filter (fun _ _ hab => hab.selects_eq f) h.rows

end MemoryChannels

namespace Relational

-- ---------------------------------------------------------------------------
-- Rows in the embedded database
-- ---------------------------------------------------------------------------

/-- The columns of secrets. -/
def secretColumns : List String := ["key", "other"]

/-- The text that a cell is read as. -/
def Datum.shownText (d : Datum) : String := (ChannelColumn.text? (d.cast .text)).getD ""

/-- Rows that are the same but for what is hidden of their secrets. -/
structure Row.LooksLike (r r' : Row) : Prop where
  others : ∀ name ∈ ChannelColumn.all.map (·.name), name ∉ secretColumns → r.read name = r'.read name
  secrets : ∀ name ∈ secretColumns, SecretsAlike (r.read name).shownText (r'.read name).shownText

structure Table.LooksLike (t t' : Table) : Prop where
  others : { t with rows := [] } = { t' with rows := [] }
  rows : List.Forall₂ Row.LooksLike t.rows t'.rows

def Database.LooksLike (db db' : Database) : Prop := List.Forall₂ Table.LooksLike db.tables db'.tables

theorem read_public : ∀ column ∈ ChannelColumn.all, column.name ∉ secretColumns →
    ∀ (d : Datum) (c : Channel), (column.read d c).key = c.key ∧ (column.read d c).other = c.other ∧
      { column.read d c with key := "", other := "" } =
        column.read d { c with key := "", other := "" } := by
  simp [ChannelColumn.all, ChannelColumn.int, ChannelColumn.text, ChannelColumn.maybeInt,
    ChannelColumn.maybeText, secretColumns]

theorem read_looksLike {column : ChannelColumn} (hc : column ∈ ChannelColumn.all) {d d' : Datum}
    {c c' : Channel} (h : c.LooksLike c') (hothers : column.name ∉ secretColumns → d = d')
    (hsecrets : column.name ∈ secretColumns → SecretsAlike d.shownText d'.shownText) :
    (column.read (d.cast column.kind) c).LooksLike (column.read (d'.cast column.kind) c') := by
  by_cases hn : column.name ∈ secretColumns
  · have halike := hsecrets hn
    have hrest := h.rest
    simp only [secretColumns, List.mem_cons, List.not_mem_nil, or_false] at hn
    rcases hn with hn | hn
    · obtain rfl := ChannelColumn.eq_of_find rfl hc hn
      exact ⟨halike, h.other, hrest⟩
    · obtain rfl := ChannelColumn.eq_of_find rfl hc hn
      exact ⟨h.key, halike, hrest⟩
  · obtain rfl := hothers hn
    obtain ⟨hkey, hother, hread⟩ := read_public column hc hn (d.cast column.kind) c
    obtain ⟨hkey', hother', hread'⟩ := read_public column hc hn (d.cast column.kind) c'
    refine ⟨?_, ?_, ?_⟩
    · rw [hkey, hkey']
      exact h.key
    · rw [hother, hother']
      exact h.other
    · rw [hread, hread', h.rest]

theorem Row.LooksLike.channelOf {r r' : Row} (h : r.LooksLike r') {columns : List ChannelColumn}
    (hc : columns ⊆ ChannelColumn.all) :
    (Database.channelOf columns r).LooksLike (Database.channelOf columns r') := by
  have hread : ∀ c c' : Channel, c.LooksLike c' →
      (ChannelColumn.readAll r.read columns c).LooksLike
        (ChannelColumn.readAll r'.read columns c') := by
    induction columns with
    | nil => exact fun _ _ hcc => hcc
    | cons column rest ih =>
      intro c c' hcc
      obtain ⟨hcolumn, hrest⟩ := List.cons_subset.mp hc
      refine ih hrest _ _ (read_looksLike hcolumn hcc ?_ (h.secrets column.name))
      exact h.others column.name (List.mem_map_of_mem hcolumn)
  exact hread {} {} ⟨.same rfl, .same rfl, rfl⟩

/-- Rows are in the order of their ids, which are no secrets. -/
theorem Row.forall₂_byId {rows rows' : List Row} (h : List.Forall₂ Row.LooksLike rows rows') :
    List.Forall₂ Row.LooksLike (Database.byId rows) (Database.byId rows') := by
  refine Lists.forall₂_mergeSort (fun a a' b b' hab hab' => ?_) h
  rw [hab.others "id" (by decide) (by decide), hab'.others "id" (by decide) (by decide)]

namespace Table.LooksLike

variable {t t' : Table}

theorem knownColumns_eq (h : t.LooksLike t') : t.knownColumns = t'.knownColumns :=
  show ({ t with rows := [] } : Table).knownColumns = _ from h.others ▸ rfl

theorem columns_eq (h : t.LooksLike t') : t.columns = t'.columns :=
  show ({ t with rows := [] } : Table).columns = _ from h.others ▸ rfl

theorem name_eq (h : t.LooksLike t') : t.name = t'.name :=
  show ({ t with rows := [] } : Table).name = _ from h.others ▸ rfl

theorem passes_eq (h : t.LooksLike t') {r r' : Row} (hr : r.LooksLike r') (f : ChannelFilter) :
    Database.passes f t r = Database.passes f t' r' := by
  have hholds : ∀ name ∈ ChannelColumn.criteria, ∀ value,
      t.holds name value r = t'.holds name value r' := by
    intro name hn value
    have hknown : ∀ name ∈ ChannelColumn.criteria,
        name ∈ ChannelColumn.all.map (·.name) ∧ name ∉ secretColumns := by decide
    rw [Table.holds, Table.holds, hr.others name (hknown name hn).1 (hknown name hn).2,
      Table.affinity, Table.affinity, Table.column?, Table.column?, h.columns_eq]
  simp only [Database.passes, hholds "id" (by decide), hholds "type" (by decide),
    hholds "status" (by decide)]

theorem listed (h : t.LooksLike t') (f : ChannelFilter) : List.Forall₂ Channel.LooksLike
    ((Database.byId (t.rows.filter (Database.passes f t))).map (Database.channelOf t.knownColumns))
    ((Database.byId (t'.rows.filter (Database.passes f t'))).map
      (Database.channelOf t'.knownColumns)) := by
  have hfiltered : List.Forall₂ Row.LooksLike (t.rows.filter (Database.passes f t))
      (t'.rows.filter (Database.passes f t')) :=
    Lists.forall₂_filter (fun r r' (hr : Row.LooksLike r r') => h.passes_eq hr f) h.rows
  rw [← h.knownColumns_eq]
  refine List.forall₂_map_left_iff.mpr (List.forall₂_map_right_iff.mpr
    ((Row.forall₂_byId hfiltered).imp ?_))
  exact fun _ _ hr => hr.channelOf t.knownColumns_subset

end Table.LooksLike

namespace Database

theorem LooksLike.find? {db db' : Database} (h : db.LooksLike db') (name : String) :
    Option.Rel Table.LooksLike (db.find? name) (db'.find? name) := by
  rw [Database.find?, Database.find?]
  rw [Database.LooksLike] at h
  generalize db.tables = ts at h
  generalize db'.tables = ts' at h
  induction h with
  | nil => exact .none
  | cons ht _ ih =>
    rw [List.find?_cons, List.find?_cons, ht.name_eq]
    split
    · exact .some ht
    · exact ih

theorem LooksLike.selectChannels {db db' : Database} (h : db.LooksLike db') (f : ChannelFilter) :
    ResultsAlike (List.Forall₂ Channel.LooksLike) (db.selectChannels (passes f))
      (db'.selectChannels (passes f)) := by
  have hfound := h.find? channelTable
  have hcolumns : db.columnsOf channelTable = db'.columnsOf channelTable := by
    rw [columnsOf, columnsOf]
    generalize db.find? channelTable = found at hfound
    generalize db'.find? channelTable = found' at hfound
    cases hfound with
    | none => rfl
    | some ht => exact ht.columns_eq
  have hknown : db.knownColumns = db'.knownColumns := by rw [knownColumns, knownColumns, hcolumns]
  cases hk : db.knownColumns with
  | error e =>
    rw [Database.selectChannels, Database.selectChannels, ← hknown, hk]
    exact .error e
  | ok columns =>
    cases hfind : db.find? channelTable with
    | none =>
      rw [knownColumns, columnsOf, hfind] at hk
      cases hk
    | some t =>
      rw [hfind] at hfound
      cases hfind' : db'.find? channelTable with
      | none =>
        rw [hfind'] at hfound
        cases hfound
      | some t' =>
        rw [hfind'] at hfound
        obtain ht := Option.rel_some_some.mp hfound
        obtain rfl := knownColumns_eq_ok hfind hk
        rw [selectChannels_eq hfind hk, selectChannels_eq hfind' (ht.knownColumns_eq ▸ hknown ▸ hk)]
        exact .ok (ht.listed f)

theorem store_hidesSecrets : channelStore.HidesSecrets LooksLike :=
  fun f => .ask fun _ _ h => h.selectChannels f

end Database

end Relational

end ChannelKeeper

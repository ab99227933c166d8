import ChannelKeeper.Proofs.Store.AddressedTable

/-!
# Filtered listings

A filter of the embedded database leaves rows out of the listing of everything and
changes neither the others nor their order. It selects by cells, where a filter of
channels selects by what the cells are read as: a null is read as zero and equals no
number. The two filters select the same rows just when every row that only the second
one could select has numbers in the cells that are tested. Columns that hold numbers as
texts or as reals are left out.
-/

namespace ChannelKeeper

/-- The columns whose cells this filter tests. -/
def ChannelFilter.tested (f : ChannelFilter) : List String :=
  (f.id.map fun _ => "id").toList ++ (if f.types.isEmpty then [] else ["type"]) ++
    (f.status.map fun _ => "status").toList

namespace Relational

/-- The value equals the number it is read as, which no null and no text does. -/
def Datum.isNumber (d : Datum) : Bool := d.equals (.integer (ChannelColumn.number d))

theorem Datum.equals_integer_iff {d : Datum} {n : Int} :
    d.equals (.integer n) = true ↔ ChannelColumn.number d = n ∧ d.isNumber = true := by
  constructor
  · intro h
    have hn := number_of_equals h
    exact ⟨hn, by rwa [isNumber, hn]⟩
  · rintro ⟨rfl, h⟩
    exact h

namespace Table

/-- Ids, types and statuses are in columns that are compared as numbers. -/
def ComparesCriteria (t : Table) : Prop := ∀ name ∈ ChannelColumn.criteria, t.ComparesIn name

instance (t : Table) : Decidable t.ComparesCriteria :=
  decidable_of_iff (∀ name ∈ ChannelColumn.criteria,
      (t.column? name).isSome ∧ (t.affinity name).keepsNumbers = true)
    ⟨fun h name hn => ⟨(h name hn).1, (h name hn).2⟩,
      fun h name hn => ⟨(h name hn).column, (h name hn).affinity⟩⟩

variable {t : Table} {r : Row} {name : String} {field : Channel → Int}

theorem ComparesCriteria.holds_iff (h : t.ComparesCriteria) (hn : name ∈ ChannelColumn.criteria)
    (hs : ChannelColumn.Shows name field) (r : Row) (n : Int) :
    t.holds name (.integer n) r = true ↔
      field (Database.channelOf t.knownColumns r) = n ∧ (r.read name).isNumber = true := by
  rw [holds, Datum.matchesIn_integer (h name hn).affinity, (h name hn).channelOf hn hs,
    Datum.equals_integer_iff]

theorem ComparesCriteria.all_holds_iff (h : t.ComparesCriteria) (hn : name ∈ ChannelColumn.criteria)
    (hs : ChannelColumn.Shows name field) (r : Row) (given : Option Int) :
    (given.all fun n => t.holds name (.integer n) r) = true ↔
      given.all (field (Database.channelOf t.knownColumns r) == ·) = true ∧
        ∀ tested ∈ (given.map fun _ => name).toList, (r.read tested).isNumber = true := by
  cases given with
  | none => simp
  | some n => simpa using h.holds_iff hn hs r n

theorem ComparesCriteria.any_holds_iff (h : t.ComparesCriteria) (r : Row) (kinds : List Int) :
    (kinds.isEmpty || kinds.any fun kind => t.holds "type" (.integer kind) r) = true ↔
      (kinds.isEmpty || kinds.contains (Database.channelOf t.knownColumns r).kind) = true ∧
        ∀ tested ∈ if kinds.isEmpty then [] else ["type"], (r.read tested).isNumber = true := by
  have hkind := h.holds_iff (by decide) ChannelColumn.shows_kind r
  cases kinds with
  | nil => simp
  | cons kind rest =>
    simp only [List.isEmpty_cons, Bool.false_or, Bool.false_eq_true, if_false,
      List.forall_mem_singleton, List.any_eq_true, hkind, List.contains_iff_mem]
    constructor
    · rintro ⟨own, hmem, rfl, hnumber⟩
      exact ⟨hmem, hnumber⟩
    · rintro ⟨hmem, hnumber⟩
      exact ⟨_, hmem, rfl, hnumber⟩

theorem ComparesCriteria.passes_iff (h : t.ComparesCriteria) (f : ChannelFilter) (r : Row) :
    Database.passes f t r = true ↔ f.selects (Database.channelOf t.knownColumns r) = true ∧
      ∀ name ∈ f.tested, (r.read name).isNumber = true := by
  have hid := h.all_holds_iff (by decide) ChannelColumn.shows_id r f.id
  have hkind := h.any_holds_iff r f.types
  have hstatus := h.all_holds_iff (by decide) ChannelColumn.shows_status r f.status
  rw [Database.passes, Bool.and_eq_true, Bool.and_eq_true, hid, hkind, hstatus,
    ChannelFilter.selects, Bool.and_eq_true, Bool.and_eq_true, ChannelFilter.tested]
  simp only [List.forall_mem_append]
  tauto

end Table

namespace Database

variable {db : Database} {t : Table}

/-- What a filter lists, which is known for all filters and all cells. -/
theorem list_eq (hfind : db.find? channelTable = some t) (h : t.ComparesCriteria)
    (f : ChannelFilter) : (channelStore.list f).perform db =
      (.ok (((byId t.rows).filter (passes f t)).map (channelOf t.knownColumns)), db) := by
  have hknown := knownColumns_eq hfind (h "id" (by decide)).column
  rw [← byId_filter]
  exact Action.perform_ask_eq_ok.mpr ⟨selectChannels_eq hfind hknown (passes f), rfl⟩

theorem id_le_of_atMost (h : t.ComparesCriteria) {a b : Row} (ha : ∃ n, a.read "id" = .integer n)
    (hb : ∃ n, b.read "id" = .integer n) (hab : (rankOf a).atMost (rankOf b) = true) :
    (channelOf t.knownColumns a).id ≤ (channelOf t.knownColumns b).id := by
  have hid := (h "id" (by decide)).channelOf (by decide) ChannelColumn.shows_id
  obtain ⟨n, hn⟩ := ha
  obtain ⟨m, hm⟩ := hb
  rw [rankOf, rankOf, hn, hm, Datum.atMost_integer, decide_eq_true_iff] at hab
  rw [hid, hid, hn, hm]
  exact hab

/-- The listing of a filter is a part of what the filter selects from the listing of
everything, in its order. It is all of it just when every selected row has numbers in
the cells that are tested. -/
theorem list_filtered (hfind : db.find? channelTable = some t) (h : t.ComparesCriteria)
    (f : ChannelFilter) :
    ∃ all listed, (channelStore.list .everything).perform db = (.ok all, db) ∧
      (channelStore.list f).perform db = (.ok listed, db) ∧
      all.Perm (t.rows.map (channelOf t.knownColumns)) ∧
      ((∀ r ∈ t.rows, ∃ n, r.read "id" = .integer n) → all.Pairwise fun a b => a.id ≤ b.id) ∧
      listed.Sublist (all.filter f.selects) ∧
      (listed = all.filter f.selects ↔
        ∀ r ∈ t.rows, f.selects (channelOf t.knownColumns r) = true →
          ∀ name ∈ f.tested, (r.read name).isNumber = true) := by
  let selected (r : Row) : Bool := f.selects (channelOf t.knownColumns r)
  have hpasses : ∀ r, passes f t r = true ↔ selected r = true ∧
      ∀ name ∈ f.tested, (r.read name).isNumber = true := h.passes_iff f
  have hall := list_eq hfind h .everything
  rw [List.filter_eq_self.mpr fun r _ => passes_everything t r] at hall
  have hselected : ((byId t.rows).map (channelOf t.knownColumns)).filter f.selects =
      ((byId t.rows).filter selected).map (channelOf t.knownColumns) := List.filter_map
  have hstricter : ∀ r, passes f t r = true → selected r = true := fun r hr => ((hpasses r).mp hr).1
  refine ⟨_, _, hall, list_eq hfind h f, (byId_perm t.rows).map _, fun hids => ?_, ?_, ?_⟩
  · refine List.pairwise_map.mpr ((pairwise_byId t.rows).imp_of_mem fun {a b} ha hb hab => ?_)
    exact id_le_of_atMost h (hids a ((byId_perm t.rows).mem_iff.mp ha))
      (hids b ((byId_perm t.rows).mem_iff.mp hb)) hab
  · rw [hselected]
    exact (List.monotone_filter_right _ hstricter).map _
  · rw [hselected, Lists.map_filter_eq_iff hstricter]
    constructor
    · intro hall r hr hsel
      exact ((hpasses r).mp (hall r ((byId_perm t.rows).mem_iff.mpr hr) hsel)).2
    · intro hnumbers r hr hsel
      exact (hpasses r).mpr ⟨hsel, hnumbers r ((byId_perm t.rows).mem_iff.mp hr) hsel⟩

namespace Sample

def row (number id : Int) (kind : Datum) : Row :=
  ⟨number, ChannelColumn.declarations.map fun column =>
    (column.name,
      if column.name = "id" then .integer id
      else if column.name = "type" then kind
      else if column.name = "status" then .integer 1
      else .null)⟩

/-- A full table without a key, in which one row has no type. -/
def untyped : Table where
  name := channelTable
  columns := ChannelColumn.declarations
  rows := [row 1 2 (.integer 24), row 2 1 .null]

def untypedDatabase : Database := { tables := [untyped] }

theorem find?_untyped : untypedDatabase.find? channelTable = some untyped := rfl

end Sample

/-- The row without a type is not selected and was not to be. -/
theorem list_filtered_sample :
    Sample.untyped.ComparesCriteria ∧
    ∃ all listed, (channelStore.list .everything).perform Sample.untypedDatabase =
        (.ok all, Sample.untypedDatabase) ∧
      (channelStore.list { types := [24] }).perform Sample.untypedDatabase =
        (.ok listed, Sample.untypedDatabase) ∧
      all.Pairwise (fun a b => a.id ≤ b.id) ∧
      listed = all.filter (ChannelFilter.selects { types := [24] }) := by
  have h : Sample.untyped.ComparesCriteria := by decide
  obtain ⟨all, listed, hall, hlisted, -, hordered, -, hwhole⟩ :=
    list_filtered Sample.find?_untyped h { types := [24] }
  refine ⟨h, all, listed, hall, hlisted, hordered ?_, hwhole.mpr ?_⟩
  · simp only [Sample.untyped, List.forall_mem_cons]
    exact ⟨⟨2, rfl⟩, ⟨1, rfl⟩, List.forall_mem_nil _⟩
  · decide +kernel

/-- The row without a type is shown with type zero, and no listing of type zero has it. -/
theorem untyped_not_listed :
    ∃ all, (channelStore.list .everything).perform Sample.untypedDatabase =
        (.ok all, Sample.untypedDatabase) ∧
      (∃ c ∈ all, ChannelFilter.selects { types := [0] } c = true) ∧
      (channelStore.list { types := [0] }).perform Sample.untypedDatabase =
        (.ok [], Sample.untypedDatabase) := by
  have h : Sample.untyped.ComparesCriteria := by decide
  have hlist := list_eq Sample.find?_untyped h
  have hmem : ∀ r ∈ Sample.untyped.rows, r ∈ (byId Sample.untyped.rows).filter
      (passes .everything Sample.untyped) := fun r hr =>
    List.mem_filter.mpr ⟨(byId_perm _).mem_iff.mpr hr, passes_everything _ r⟩
  refine ⟨_, hlist .everything, ⟨channelOf Sample.untyped.knownColumns (Sample.row 2 1 .null),
    List.mem_map_of_mem (hmem _ (by simp [Sample.untyped])), by decide +kernel⟩, ?_⟩
  have hnone : ∀ r ∈ byId Sample.untyped.rows, ¬ passes { types := [0] } Sample.untyped r = true := by
    intro r hr
    have hrows : ∀ r ∈ Sample.untyped.rows, ¬ passes { types := [0] } Sample.untyped r = true := by
      decide +kernel
    exact hrows r ((byId_perm _).mem_iff.mp hr)
  rw [hlist, List.filter_eq_nil_iff.mpr hnone, List.map_nil]

end Database

end Relational

end ChannelKeeper

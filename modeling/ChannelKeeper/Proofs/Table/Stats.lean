import ChannelKeeper.Proofs.Json.Record
import ChannelKeeper.Proofs.Lists
import ChannelKeeper.Table.Stats
import Mathlib.Algebra.BigOperators.Group.List.Basic
import Mathlib.Algebra.Order.BigOperators.Group.List
import Mathlib.Algebra.Ring.Int.Defs

/-!
# Statistics add up

The statistics of a database count every table and every row of it once, in the whole and
by category, and they do not depend on the order in which the tables are listed, except
for the names they pick. Rows are added without bound here; where no count is negative and
the total is a number of 64 bits, so is every sum that is made on the way to it.
-/

namespace ChannelKeeper.DatabaseStats

variable {tables tables' : List TableStats}

-- ---------------------------------------------------------------------------
-- Sums
-- ---------------------------------------------------------------------------

theorem totalRows_eq_sum (tables : List TableStats) :
    totalRows tables = (tables.map (·.rows)).sum := by
  rw [totalRows, List.sum, List.foldr_map]

theorem totalRows_perm (h : tables.Perm tables') : totalRows tables = totalRows tables' := by
  rw [totalRows_eq_sum, totalRows_eq_sum]
  exact (h.map _).sum_eq

theorem totalRows_nonneg (hrows : ∀ t ∈ tables, 0 ≤ t.rows) : 0 ≤ totalRows tables := by
  rw [totalRows_eq_sum]
  exact List.sum_nonneg (List.forall_mem_map.mpr hrows)

theorem totalRows_le_of_sublist (hrows : ∀ t ∈ tables, 0 ≤ t.rows)
    (h : tables'.Sublist tables) : totalRows tables' ≤ totalRows tables := by
  rw [totalRows_eq_sum, totalRows_eq_sum]
  exact (h.map _).sum_le_sum (List.forall_mem_map.mpr hrows)

-- ---------------------------------------------------------------------------
-- Categories
-- ---------------------------------------------------------------------------

def members (tables : List TableStats) (c : TableCategory) : List TableStats :=
  tables.filter (·.category == c)

theorem categoryTotal_eq (tables : List TableStats) (c : TableCategory) :
    categoryTotal tables c = if (members tables c).length = 0 then none
      else some ⟨c, (members tables c).length, totalRows (members tables c)⟩ := by
  rw [categoryTotal, ← members]
  cases members tables c <;> simp

theorem categoryTotal_eq_some {c : TableCategory} {total : CategoryTotal} :
    categoryTotal tables c = some total ↔ (∃ t ∈ tables, t.category = c) ∧
      total = ⟨c, (members tables c).length, totalRows (members tables c)⟩ := by
  have hpresent : (∃ t ∈ tables, t.category = c) ↔ (members tables c).length ≠ 0 := by
    simp [members]
  rw [categoryTotal_eq, hpresent]
  split
  · rename_i hempty
    simp [hempty]
  · rename_i hne
    rw [Option.some.injEq, eq_comm]
    exact (and_iff_right hne).symm

theorem categoryTotal_perm (h : tables.Perm tables') (c : TableCategory) :
    categoryTotal tables c = categoryTotal tables' c := by
  have hmembers : (members tables c).Perm (members tables' c) := h.filter _
  rw [categoryTotal_eq, categoryTotal_eq, hmembers.length_eq, totalRows_perm hmembers]

theorem sum_over_categories {M : Type} [AddCommMonoid M] (weight : TableStats → M)
    (tables : List TableStats) :
    (TableCategory.all.map fun c => ((members tables c).map weight).sum).sum =
      (tables.map weight).sum := by
  induction tables with
  | nil => simp [TableCategory.all, members]
  | cons t rest ih =>
    rw [List.map_cons, List.sum_cons, ← ih]
    cases hcategory : t.category <;>
      simp [TableCategory.all, members, hcategory, add_assoc, add_left_comm]

/-- What the totals of the categories say of all tables, if each says it of its own. -/
theorem sum_categories {M : Type} [AddCommMonoid M] {said : CategoryTotal → M}
    (weight : TableStats → M)
    (h : ∀ c, said ⟨c, (members tables c).length, totalRows (members tables c)⟩ =
      ((members tables c).map weight).sum) :
    ((ofTables tables).categories.map said).sum = (tables.map weight).sum := by
  rw [← sum_over_categories]
  refine Lists.sum_map_filterMap (fun c total htotal => ?_) (fun c hnone => ?_) _
  · rw [(categoryTotal_eq_some.mp htotal).2, h]
  · rw [categoryTotal_eq] at hnone
    split at hnone
    · rename_i hempty
      rw [List.length_eq_zero_iff.mp hempty]
      rfl
    · cases hnone

theorem mem_categories {total : CategoryTotal} : total ∈ (ofTables tables).categories ↔
    (∃ t ∈ tables, t.category = total.category) ∧
      total.tables = (members tables total.category).length ∧
        total.rows = totalRows (members tables total.category) := by
  have hall : ∀ c : TableCategory, c ∈ TableCategory.all := by
    intro c
    cases c <;> decide
  simp only [ofTables, List.mem_filterMap, categoryTotal_eq_some, hall, true_and]
  constructor
  · rintro ⟨c, hpresent, rfl⟩
    exact ⟨hpresent, rfl, rfl⟩
  · rintro ⟨hpresent, htables, hrows⟩
    exact ⟨total.category, hpresent, by rw [← htables, ← hrows]⟩

theorem pairwise_categories (tables : List TableStats) :
    (ofTables tables).categories.Pairwise fun a b => a.category.rank < b.category.rank := by
  have hall : TableCategory.all.Pairwise fun c d => c.rank < d.rank := by decide
  refine List.pairwise_filterMap.mpr (hall.imp fun {c d} hlt total htotal total' htotal' => ?_)
  rw [(categoryTotal_eq_some.mp htotal).2, (categoryTotal_eq_some.mp htotal').2]
  exact hlt

-- ---------------------------------------------------------------------------
-- The largest tables
-- ---------------------------------------------------------------------------

/-- The first few in an order of rows, with the rest behind them. -/
structure IsLargest (most : Nat) (candidates chosen : List TableStats) : Prop where
  ordered : chosen.Pairwise fun a b => b.rows ≤ a.rows
  ahead : ∃ left, (chosen ++ left).Perm candidates ∧ ∀ a ∈ chosen, ∀ b ∈ left, b.rows ≤ a.rows
  length : chosen.length = min most candidates.length

def byRows (tables : List TableStats) : List TableStats :=
  tables.mergeSort fun a b => b.rows ≤ a.rows

theorem pairwise_byRows (tables : List TableStats) :
    (byRows tables).Pairwise fun a b => b.rows ≤ a.rows := by
  have hsorted : (byRows tables).Pairwise fun a b => decide (b.rows ≤ a.rows) := by
    refine List.pairwise_mergeSort (fun a b c hab hbc => ?_) (fun a b => ?_) tables
    · simp only [decide_eq_true_eq] at hab hbc ⊢
      exact Int.le_trans hbc hab
    · simpa using Int.le_total b.rows a.rows
  exact hsorted.imp fun h => of_decide_eq_true h

theorem isLargest_byRows (most : Nat) (tables : List TableStats) :
    IsLargest most tables ((byRows tables).take most) where
  ordered := (pairwise_byRows tables).take
  ahead := by
    have hsorted := pairwise_byRows tables
    rw [← List.take_append_drop most (byRows tables)] at hsorted
    refine ⟨(byRows tables).drop most, ?_, (List.pairwise_append.mp hsorted).2.2⟩
    rw [List.take_append_drop]
    exact List.mergeSort_perm _ _
  length := by rw [List.length_take, byRows, List.length_mergeSort]

theorem rows_byRows_of_perm (h : tables.Perm tables') :
    (byRows tables).map (·.rows) = (byRows tables').map (·.rows) := by
  have hperm : (byRows tables).Perm (byRows tables') :=
    (List.mergeSort_perm _ _).trans (h.trans (List.mergeSort_perm _ _).symm)
  exact List.Perm.eq_of_pairwise (fun _ _ _ _ hba hab => Int.le_antisymm hab hba)
    (List.pairwise_map.mpr (pairwise_byRows tables))
    (List.pairwise_map.mpr (pairwise_byRows tables')) (hperm.map _)

-- ---------------------------------------------------------------------------
-- Whole statistics
-- ---------------------------------------------------------------------------

/-- What statistics say of the tables they are made of. -/
structure Describes (tables : List TableStats) (s : DatabaseStats) : Prop where
  totalTables : s.totalTables = tables.length
  totalRecords : s.totalRecords = (tables.map (·.rows)).sum
  displayed : s.categories.Pairwise fun a b => a.category.rank < b.category.rank
  present : ∀ c, (∃ total ∈ s.categories, total.category = c) ↔ ∃ t ∈ tables, t.category = c
  counted : ∀ total ∈ s.categories, total.tables = (members tables total.category).length ∧
    total.rows = ((members tables total.category).map (·.rows)).sum
  tablesAddUp : (s.categories.map (·.tables)).sum = s.totalTables
  rowsAddUp : (s.categories.map (·.rows)).sum = s.totalRecords
  emptyTables : s.emptyTables = (tables.filter (·.rows == 0)).length
  emptySample : s.emptySample = ((tables.filter (·.rows == 0)).map (·.name)).take 5
  largeTables : IsLargest 5 (tables.filter (10000 < ·.rows)) s.largeTables

/-- Statistics that differ at most in the names they pick. -/
structure Agree (s s' : DatabaseStats) : Prop where
  totalTables : s.totalTables = s'.totalTables
  totalRecords : s.totalRecords = s'.totalRecords
  emptyTables : s.emptyTables = s'.emptyTables
  categories : s.categories = s'.categories
  largeTables : s.largeTables.map (·.rows) = s'.largeTables.map (·.rows)

theorem describes_ofTables (tables : List TableStats) : Describes tables (ofTables tables) where
  totalTables := rfl
  totalRecords := totalRows_eq_sum tables
  displayed := pairwise_categories tables
  present c := by
    constructor
    · rintro ⟨total, htotal, rfl⟩
      exact (mem_categories.mp htotal).1
    · intro hpresent
      exact ⟨⟨c, (members tables c).length, totalRows (members tables c)⟩,
        mem_categories.mpr ⟨hpresent, rfl, rfl⟩, rfl⟩
  counted total htotal := by
    rw [← totalRows_eq_sum]
    exact (mem_categories.mp htotal).2
  tablesAddUp := by
    rw [sum_categories (fun _ => 1) fun c => by simp]
    simp [ofTables]
  rowsAddUp := by
    rw [sum_categories (·.rows) fun c => totalRows_eq_sum _]
    exact (totalRows_eq_sum tables).symm
  emptyTables := rfl
  emptySample := by rw [← List.map_take]; rfl
  largeTables := isLargest_byRows 5 _

theorem agree_ofTables (h : tables.Perm tables') :
    Agree (ofTables tables) (ofTables tables') where
  totalTables := h.length_eq
  totalRecords := totalRows_perm h
  emptyTables := (h.filter _).length_eq
  categories := List.filterMap_congr fun c _ => categoryTotal_perm h c
  largeTables := by
    have hrows := rows_byRows_of_perm (h.filter (largeRows < ·.rows))
    have htake := congrArg (List.take 5) hrows
    rwa [← List.map_take, ← List.map_take] at htake

/-- The order of the tables does not matter, and where their counts add up to a number of 64
bits, so do those of any part of them. -/
theorem tables_and_rows_conserved (tables : List TableStats) :
    Describes tables (ofTables tables) ∧
      (∀ tables', tables.Perm tables' → Agree (ofTables tables) (ofTables tables')) ∧
      ((∀ t ∈ tables, 0 ≤ t.rows) → Json.IsInt64 (ofTables tables).totalRecords →
        ∀ part, part.Sublist tables → Json.IsInt64 (totalRows part)) := by
  refine ⟨describes_ofTables tables, fun tables' => agree_ofTables, ?_⟩
  intro hrows hfits part hpart
  have hnonneg := totalRows_nonneg fun t ht => hrows t (hpart.subset ht)
  have hle := totalRows_le_of_sublist hrows hpart
  exact ⟨by omega, Int.le_trans hle hfits.2⟩

namespace Sample

def logs : TableStats := ⟨"logs", 250000, .low, .logs, "Request logs"⟩

def topups : TableStats := ⟨"topups", 9223372036854525807, .high, .business, "Top-up orders"⟩

def tasks : TableStats := ⟨"tasks", 0, .low, .logs, "Asynchronous tasks"⟩

end Sample

/-- The total is the greatest number of 64 bits. -/
theorem tables_and_rows_conserved_sample :
    (ofTables [Sample.logs, Sample.topups, Sample.tasks]).categories =
        (ofTables [Sample.tasks, Sample.logs, Sample.topups]).categories ∧
      (ofTables [Sample.logs, Sample.topups, Sample.tasks]).totalRecords = 9223372036854775807 ∧
      Json.IsInt64 (totalRows [Sample.logs, Sample.tasks]) := by
  have hall := tables_and_rows_conserved [Sample.logs, Sample.topups, Sample.tasks]
  refine ⟨(hall.2.1 [Sample.tasks, Sample.logs, Sample.topups] (by decide)).categories, rfl, ?_⟩
  refine hall.2.2 (by decide) ⟨by decide, by decide⟩ _ ?_
  exact .cons_cons _ (.cons _ (.cons_cons _ .slnil))

end ChannelKeeper.DatabaseStats

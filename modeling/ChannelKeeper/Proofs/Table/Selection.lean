import ChannelKeeper.Table.Selection
import Mathlib.Data.List.Basic
import Mathlib.Data.List.Nodup

/-!
# What a selection selects

A selection parts the names that it wants into those that exist and those that do not, each
once and in the order of its first place. A preset says nothing of names that do not exist.
-/

namespace ChannelKeeper.TableSelection

variable {wanted existing seen : List String} {name : String} {selection : TableSelection}

-- ---------------------------------------------------------------------------
-- Names without repetition
-- ---------------------------------------------------------------------------

theorem mem_distinct : name ∈ distinct seen wanted ↔ name ∈ wanted ∧ name ∉ seen := by
  induction wanted generalizing seen with
  | nil => simp [distinct]
  | cons first rest ih =>
    rw [distinct]
    split
    · rename_i hseen
      have hseen : first ∈ seen := by simpa using hseen
      rw [ih, List.mem_cons]
      constructor
      · exact fun ⟨hrest, hnew⟩ => ⟨.inr hrest, hnew⟩
      · rintro ⟨rfl | hrest, hnew⟩
        · exact absurd hseen hnew
        · exact ⟨hrest, hnew⟩
    · rename_i hnew
      have hnew : first ∉ seen := by simpa using hnew
      rw [List.mem_cons, List.mem_cons, ih, List.mem_cons]
      by_cases hfirst : name = first
      · simp [hfirst, hnew]
      · simp [hfirst]

theorem pairwise_distinct (seen wanted : List String) :
    (distinct seen wanted).Pairwise fun a b => wanted.idxOf a < wanted.idxOf b := by
  induction wanted generalizing seen with
  | nil => exact .nil
  | cons first rest ih =>
    -- a first place in the rest is one later in the whole
    have hlater : ∀ seen', first ∈ seen' → (distinct seen' rest).Pairwise fun a b =>
        (first :: rest).idxOf a < (first :: rest).idxOf b := by
      intro seen' hseen
      refine (ih seen').imp_of_mem fun {a b} ha hb hlt => ?_
      have hne : ∀ c ∈ distinct seen' rest, first ≠ c := by
        rintro c hc rfl
        exact (mem_distinct.mp hc).2 hseen
      rw [List.idxOf_cons_ne rest (hne a ha), List.idxOf_cons_ne rest (hne b hb)]
      exact Nat.succ_lt_succ hlt
    rw [distinct]
    split
    · rename_i hseen
      exact hlater seen (by simpa using hseen)
    · refine List.pairwise_cons.mpr ⟨fun b hb => ?_, hlater _ List.mem_cons_self⟩
      have hne : first ≠ b := by
        rintro rfl
        exact (mem_distinct.mp hb).2 List.mem_cons_self
      rw [List.idxOf_cons_self, List.idxOf_cons_ne rest hne]
      exact Nat.succ_pos _

-- ---------------------------------------------------------------------------
-- Selections
-- ---------------------------------------------------------------------------

def wants (selection : TableSelection) (existing : List String) : List String :=
  match selection with
  | .all => existing
  | _ => selection.wanted

/-- The names are given one by one, and not by a preset. -/
def isNamed : TableSelection → Bool
  | .named _ => true
  | _ => false

/-- The wanted names, parted into two. -/
structure Parts (selection : TableSelection) (existing selected missing : List String) : Prop where
  mem_selected (name : String) :
    name ∈ selected ↔ name ∈ selection.wants existing ∧ name ∈ existing
  mem_missing (name : String) :
    name ∈ missing ↔ selection.isNamed ∧ name ∈ selection.wants existing ∧ name ∉ existing
  selectedOrder : selected.Pairwise fun a b =>
    (selection.wants existing).idxOf a < (selection.wants existing).idxOf b
  missingOrder : missing.Pairwise fun a b =>
    (selection.wants existing).idxOf a < (selection.wants existing).idxOf b

theorem pairwise_idxOf (h : existing.Nodup) :
    existing.Pairwise fun a b => existing.idxOf a < existing.idxOf b := by
  rw [List.pairwise_iff_getElem]
  intro i j hi hj hlt
  rwa [h.idxOf_getElem i hi, h.idxOf_getElem j hj]

theorem parts_resolve (selection : TableSelection) (h : existing.Nodup) :
    Parts selection existing (selection.resolve existing).1 (selection.resolve existing).2 := by
  cases selection with
  | all => exact ⟨by simp [resolve, wants], by simp [resolve, isNamed], pairwise_idxOf h, .nil⟩
  | logs | business =>
    refine ⟨fun name => ?_, by simp [resolve, isNamed], (pairwise_distinct _ _).filter _, .nil⟩
    simp [resolve, wants, mem_distinct]
  | named tables =>
    refine ⟨fun name => ?_, fun name => ?_, (pairwise_distinct _ _).filter _,
      (pairwise_distinct _ _).filter _⟩
    · simp [resolve, wants, wanted, mem_distinct]
    · simp [resolve, wants, wanted, isNamed, mem_distinct]

theorem selected_eq_nil_iff (selection : TableSelection) (existing : List String) :
    (selection.resolve existing).1 = [] ↔
      ∀ name ∈ selection.wants existing, name ∉ existing := by
  cases selection with
  | all => simp [resolve, wants, List.eq_nil_iff_forall_not_mem]
  | logs | business | named => simp [resolve, wants, mem_distinct]

/-- Where nothing that is wanted exists, the first name given is the first that is missing. -/
theorem head?_missing (h : (selection.resolve existing).1 = []) :
    (selection.resolve existing).2.head? =
      if selection.isNamed then selection.wanted.head? else none := by
  cases selection with
  | all | logs | business => rfl
  | named tables =>
    have hmissing : ((named tables).resolve existing).2 = distinct [] tables := by
      refine List.filter_eq_self.mpr fun name hname => ?_
      simpa using (selected_eq_nil_iff _ _).mp h name (mem_distinct.mp hname).1
    rw [hmissing]
    cases tables <;> rfl

end ChannelKeeper.TableSelection

import ChannelKeeper.Proofs.Lists
import ChannelKeeper.Store.Relational
import Mathlib.Algebra.Order.Ring.Cast
import Mathlib.Algebra.Order.Ring.Rat

/-!
# Rows by id

Values of all kinds have one order, so rows are put in the order of their ids
whatever is in these cells, and rows that a test leaves out do not change the order of
the others.
-/

namespace ChannelKeeper

namespace Relational

namespace Datum.Rank

theorem atMost_iff {a b : Rank} : a.atMost b = true ↔
    a.group < b.group ∨ a.group = b.group ∧
      (a.number < b.number ∨ a.number = b.number ∧ a.text ≤ b.text) := by
  simp [atMost]

theorem atMost_trans (a b c : Rank) (hab : a.atMost b = true) (hbc : b.atMost c = true) :
    a.atMost c = true := by
  rw [atMost_iff] at *
  obtain hab | ⟨hab, hab'⟩ := hab
  · left; omega
  obtain hbc | ⟨hbc, hbc'⟩ := hbc
  · left; omega
  refine .inr ⟨hab.trans hbc, ?_⟩
  obtain hab | ⟨hab, hab'⟩ := hab'
  · left
    obtain hbc | ⟨hbc, -⟩ := hbc'
    · exact hab.trans hbc
    · exact hbc ▸ hab
  · obtain hbc | ⟨hbc, hbc'⟩ := hbc'
    · exact .inl (hab ▸ hbc)
    · exact .inr ⟨hab.trans hbc, String.le_trans hab' hbc'⟩

theorem atMost_total (a b : Rank) : (a.atMost b || b.atMost a) = true := by
  rw [Bool.or_eq_true, atMost_iff, atMost_iff]
  rcases lt_trichotomy a.group b.group with hg | hg | hg
  · exact .inl (.inl hg)
  · rcases lt_trichotomy a.number b.number with hn | hn | hn
    · exact .inl (.inr ⟨hg, .inl hn⟩)
    · rcases String.le_total a.text b.text with ht | ht
      · exact .inl (.inr ⟨hg, .inr ⟨hn, ht⟩⟩)
      · exact .inr (.inr ⟨hg.symm, .inr ⟨hn.symm, ht⟩⟩)
    · exact .inr (.inr ⟨hg.symm, .inl hn⟩)
  · exact .inr (.inl hg)

end Datum.Rank

theorem Datum.atMost_integer (a b : Int) :
    (Datum.integer a).rank.atMost (Datum.integer b).rank = decide (a ≤ b) := by
  rw [Bool.eq_iff_iff, Datum.Rank.atMost_iff, decide_eq_true_iff, Int.le_iff_lt_or_eq]
  simp [Datum.rank]

namespace Database

def rankOf (r : Row) : Datum.Rank := (r.read "id").rank

theorem byId_perm (rows : List Row) : (byId rows).Perm rows := List.mergeSort_perm rows _

theorem pairwise_byId (rows : List Row) :
    (byId rows).Pairwise fun a b => (rankOf a).atMost (rankOf b) :=
  List.pairwise_mergeSort (fun a b c => Datum.Rank.atMost_trans (rankOf a) (rankOf b) (rankOf c))
    (fun a b => Datum.Rank.atMost_total (rankOf a) (rankOf b)) rows

theorem byId_filter (p : Row → Bool) (rows : List Row) : byId (rows.filter p) = (byId rows).filter p :=
  Lists.filter_mergeSort (fun a b c => Datum.Rank.atMost_trans (rankOf a) (rankOf b) (rankOf c))
    (fun a b => Datum.Rank.atMost_total (rankOf a) (rankOf b)) p rows

theorem byId_eq {rows : List Row} (hid : ∀ r ∈ rows, r.read "id" = .integer r.id)
    (hordered : rows.Pairwise fun a b => a.id < b.id) : byId rows = rows := by
  refine List.mergeSort_of_pairwise (hordered.imp_of_mem fun {a b} ha hb hlt => ?_)
  rw [hid a ha, hid b hb, Datum.atMost_integer, decide_eq_true_iff]
  exact hlt.le

end Database

end Relational

end ChannelKeeper

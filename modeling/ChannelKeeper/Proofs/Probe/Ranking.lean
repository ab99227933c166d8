import ChannelKeeper.Proofs.Lists
import ChannelKeeper.Proofs.Probe.Summary

/-!
# Rankings of a batch

A summary parts its batch into passing and failing records and ranks the passing ones. A
record is known by its place in the batch, as two records may look the same. Nothing is said
of the value of the average, which is rounded.
-/

namespace ChannelKeeper.TestSummary

-- ---------------------------------------------------------------------------
-- Places
-- ---------------------------------------------------------------------------

structure Placed where
  record : TestRecord
  place : Nat
deriving DecidableEq

namespace Placed

def milliseconds (p : Placed) : Nat := p.record.result.milliseconds

def entry (p : Placed) : TimedEntry := ⟨p.record.label, p.milliseconds⟩

/-- The record is at its place in a batch, and it passes. -/
structure Passes (records : List TestRecord) (p : Placed) : Prop where
  here : records[p.place]? = some p.record
  success : p.record.result.success

/-- Less time, or as much at an earlier place. -/
def Faster (p q : Placed) : Prop :=
  p.milliseconds < q.milliseconds ∨ p.milliseconds = q.milliseconds ∧ p.place < q.place

theorem Faster.ne {p q : Placed} (h : p.Faster q) : p ≠ q := by
  rintro rfl
  simp [Faster] at h

end Placed

def passing (records : List TestRecord) : List Placed :=
  (records.zipIdx.map fun (record, place) => ⟨record, place⟩).filter (·.record.result.success)

section

variable {records : List TestRecord}

theorem mem_passing {p : Placed} : p ∈ passing records ↔ p.Passes records := by
  simp only [passing, List.mem_filter, List.mem_map]
  constructor
  · rintro ⟨⟨q, hq, rfl⟩, hsuccess⟩
    exact ⟨List.mem_zipIdx_iff_getElem?.mp hq, hsuccess⟩
  · rintro ⟨hhere, hsuccess⟩
    exact ⟨⟨(p.record, p.place), List.mem_zipIdx_iff_getElem?.mpr hhere, rfl⟩, hsuccess⟩

theorem map_entry_passing (records : List TestRecord) :
    (passing records).map Placed.entry = passedEntries records := by
  have hrecords : (passing records).map (·.record) = records.filter (·.result.success) := by
    have hfirst : records.zipIdx.map (fun (record, _) => record) = records :=
      List.zipIdx_map_fst 0 records
    conv_rhs => rw [← hfirst]
    simp only [passing, List.filter_map, List.map_map]
    rfl
  rw [passedEntries, ← hrecords, List.map_map]
  rfl

theorem pairwise_passing (records : List TestRecord) :
    (passing records).Pairwise fun p q => p.place < q.place := by
  refine List.Pairwise.filter _ (List.pairwise_map.mpr ?_)
  have hplaces := List.pairwise_lt_range' (s := 0) (n := records.length)
  rw [← List.zipIdx_map_snd 0 records] at hplaces
  exact List.pairwise_map.mp hplaces

-- ---------------------------------------------------------------------------
-- The whole ranking
-- ---------------------------------------------------------------------------

/-- The passing records by time; those of equal time keep their order. -/
def ranking (records : List TestRecord) : List Placed :=
  (passing records).mergeSort fun p q => p.milliseconds ≤ q.milliseconds

theorem map_entry_ranking (records : List TestRecord) :
    (ranking records).map Placed.entry = ranked (passedEntries records) := by
  rw [ranking, List.map_mergeSort (s := fun a b => decide (a.milliseconds ≤ b.milliseconds)),
    map_entry_passing]
  · rfl
  · exact fun _ _ _ _ => rfl

theorem mem_ranking {p : Placed} : p ∈ ranking records ↔ p.Passes records := by
  rw [ranking, List.mem_mergeSort, mem_passing]

theorem pairwise_ranking (records : List TestRecord) :
    (ranking records).Pairwise Placed.Faster := by
  have trans : ∀ p q r : Placed, decide (p.milliseconds ≤ q.milliseconds) →
      decide (q.milliseconds ≤ r.milliseconds) → decide (p.milliseconds ≤ r.milliseconds) := by
    simp only [decide_eq_true_eq]
    omega
  have total : ∀ p q : Placed, decide (p.milliseconds ≤ q.milliseconds) ||
      decide (q.milliseconds ≤ p.milliseconds) := by
    simp only [Bool.or_eq_true, decide_eq_true_eq]
    omega
  have hsorted := List.pairwise_mergeSort trans total (passing records)
  refine List.pairwise_iff_forall_sublist.mpr fun {p q} hpq => ?_
  have hle : p.milliseconds ≤ q.milliseconds := by
    simpa using List.pairwise_iff_forall_sublist.mp hsorted hpq
  rcases Nat.lt_or_eq_of_le hle with hlt | heq
  · exact .inl hlt
  · -- the records of one time are in the order of the batch
    refine .inr ⟨heq, ?_⟩
    have hsame : [p, q].Sublist
        ((passing records).filter (·.milliseconds = q.milliseconds)) := by
      have hone := hpq.filter (·.milliseconds = q.milliseconds)
      rw [ranking, ← Lists.filter_mergeSort trans total, List.mergeSort_of_pairwise] at hone
      · simpa [heq] using hone
      · refine List.pairwise_of_forall_mem_list fun a ha b hb => ?_
        simp only [List.mem_filter, decide_eq_true_eq] at ha hb
        simp [ha.2, hb.2]
    exact List.pairwise_iff_forall_sublist.mp (pairwise_passing records)
      (hsame.trans List.filter_sublist)

-- ---------------------------------------------------------------------------
-- Its ends
-- ---------------------------------------------------------------------------

/-- Entries of passing records, each one's own, that come before all that are left out. -/
structure IsFirst (records : List TestRecord) (before : Placed → Placed → Prop)
    (chosen : List Placed) : Prop where
  passes : ∀ p ∈ chosen, p.Passes records
  distinct : chosen.Nodup
  ordered : chosen.Pairwise before
  ahead : ∀ p ∈ chosen, ∀ q : Placed, q.Passes records → q ∉ chosen → before p q

theorem isFirst_take {before : Placed → Placed → Prop} {order : List Placed}
    (hmem : ∀ p, p ∈ order ↔ p.Passes records) (horder : order.Pairwise before)
    (hne : ∀ p q, before p q → p ≠ q) (n : Nat) : IsFirst records before (order.take n) where
  passes p hp := (hmem p).mp (List.mem_of_mem_take hp)
  distinct := (horder.imp (hne _ _)).take
  ordered := horder.take
  ahead p hp q hq hleft := by
    have hrest : q ∈ order.drop n := by
      have hq' := (hmem q).mpr hq
      rw [← List.take_append_drop n order] at hq'
      exact (List.mem_append.mp hq').resolve_left hleft
    rw [← List.take_append_drop n order] at horder
    exact (List.pairwise_append.mp horder).2.2 p hp q hrest

end

/-- What a summary says of its batch. -/
structure Describes (records : List TestRecord) (s : TestSummary) : Prop where
  total : s.total = records.length
  successful : s.successful = (records.filter (·.result.success)).length
  parts : s.successful + s.failed = s.total
  failures : s.failures =
    (records.filter (!·.result.success)).map fun r => ⟨r.label, r.result.message⟩
  fastest : ∃ chosen, IsFirst records Placed.Faster chosen ∧
    chosen.length = min 3 s.successful ∧ s.fastest = chosen.map Placed.entry
  slowest : if s.successful ≤ 3 then s.slowest = []
    else ∃ chosen, IsFirst records (fun p q => q.Faster p) chosen ∧ chosen.length = 3 ∧
      s.slowest = chosen.map Placed.entry
  average : s.averageMilliseconds.isSome ↔ ∃ r ∈ records, r.result.success
  allPassed : s.allPassed ↔ s.failures = []

theorem successful_add_failed (records : List TestRecord) :
    (records.filter (·.result.success)).length + (records.filter (!·.result.success)).length =
      records.length := by
  simpa [List.countP_eq_length_filter] using
    (List.length_eq_countP_add_countP (fun r : TestRecord => r.result.success)
      (l := records)).symm

theorem length_ranking (records : List TestRecord) :
    (ranking records).length = (ofRecords records).successful := by
  rw [ranking, List.length_mergeSort, ← List.length_map Placed.entry, map_entry_passing]
  rfl

theorem slowest_ofRecords (records : List TestRecord) : (ofRecords records).slowest =
    if (ofRecords records).successful ≤ 3 then []
    else ((ranking records).reverse.take 3).map Placed.entry := by
  have hlength : (ranked (passedEntries records)).length = (ofRecords records).successful := by
    rw [← map_entry_ranking, List.length_map, length_ranking]
  split
  · rename_i hfew
    exact if_neg (by rw [hlength]; exact Nat.not_lt.mpr hfew)
  · rename_i hmany
    rw [List.map_take, List.map_reverse, map_entry_ranking]
    exact if_pos (by rw [hlength]; exact Nat.not_le.mp hmany)

theorem describes_ofRecords (records : List TestRecord) :
    Describes records (ofRecords records) := by
  have hpassed : (ofRecords records).successful = (records.filter (·.result.success)).length :=
    List.length_map _
  have hparts := successful_add_failed records
  refine ⟨rfl, hpassed, ?_, rfl, ?_, ?_, ?_, ?_⟩
  · have hfailed : (ofRecords records).failed =
        records.length - (ofRecords records).successful := rfl
    have htotal : (ofRecords records).total = records.length := rfl
    omega
  · refine ⟨(ranking records).take 3, isFirst_take (fun p => mem_ranking)
      (pairwise_ranking records) (fun p q => Placed.Faster.ne) 3, ?_, ?_⟩
    · rw [List.length_take, length_ranking]
    · rw [List.map_take, map_entry_ranking]
      rfl
  · rw [slowest_ofRecords]
    split
    · rfl
    · rename_i hmany
      refine ⟨_, isFirst_take (fun p => ?_) (List.pairwise_reverse.mpr (pairwise_ranking records))
        (fun p q h => h.ne.symm) 3, ?_, rfl⟩
      · rw [List.mem_reverse, mem_ranking]
      · rw [List.length_take, List.length_reverse, length_ranking]
        omega
  · simp [ofRecords, average, passedEntries]
  · have hfailures : (ofRecords records).failures.length =
        (records.filter (!·.result.success)).length := List.length_map _
    have hfailed : (ofRecords records).failed =
        records.length - (ofRecords records).successful := rfl
    rw [allPassed, beq_iff_eq, ← List.length_eq_zero_iff]
    omega

end ChannelKeeper.TestSummary

import ChannelKeeper.Probe.Summary

/-!
# Summaries of reordered batches

A summary looks at its records in their order only where it lists them: two
summaries of the same records in different orders agree in every count, list the
same failures, and rank the same response times. Which of several records of
equal time is named among the fastest, and the last place of the average, may
differ.
-/

namespace ChannelKeeper.TestSummary

/-- Summaries that differ at most in the order of what they list, in the names of
records of equal time, and in the rounding of the average. -/
structure Agree (s s' : TestSummary) : Prop where
  total : s.total = s'.total
  successful : s.successful = s'.successful
  failed : s.failed = s'.failed
  successRate : s.successRate = s'.successRate
  failures : s.failures.Perm s'.failures
  fastest : s.fastest.map (·.milliseconds) = s'.fastest.map (·.milliseconds)
  slowest : s.slowest.map (·.milliseconds) = s'.slowest.map (·.milliseconds)

-- ---------------------------------------------------------------------------
-- Rankings
-- ---------------------------------------------------------------------------

theorem ranked_perm (entries : List TimedEntry) : (ranked entries).Perm entries :=
  List.mergeSort_perm _ _

theorem pairwise_ranked (entries : List TimedEntry) :
    ((ranked entries).map (·.milliseconds)).Pairwise (· ≤ ·) := by
  have hsorted : (ranked entries).Pairwise fun a b => decide (a.milliseconds ≤ b.milliseconds) := by
    refine List.pairwise_mergeSort (fun a b c hab hbc => ?_) (fun a b => ?_) entries
    · simp only [decide_eq_true_eq] at hab hbc ⊢
      exact Nat.le_trans hab hbc
    · simpa using Nat.le_total a.milliseconds b.milliseconds
  exact List.pairwise_map.mpr (hsorted.imp fun h => of_decide_eq_true h)

/-- A ranking has the times in the one order there is. -/
theorem milliseconds_ranked_of_perm {entries entries' : List TimedEntry}
    (h : entries.Perm entries') :
    (ranked entries).map (·.milliseconds) = (ranked entries').map (·.milliseconds) := by
  have hperm : (ranked entries).Perm (ranked entries') :=
    (ranked_perm entries).trans (h.trans (ranked_perm entries').symm)
  exact List.Perm.eq_of_pairwise (fun _ _ _ _ => Nat.le_antisymm) (pairwise_ranked entries)
    (pairwise_ranked entries') (hperm.map _)

-- ---------------------------------------------------------------------------
-- Summaries
-- ---------------------------------------------------------------------------

theorem passedEntries_perm {records records' : List TestRecord} (h : records.Perm records') :
    (passedEntries records).Perm (passedEntries records') := (h.filter _).map _

theorem failedEntries_perm {records records' : List TestRecord} (h : records.Perm records') :
    (failedEntries records).Perm (failedEntries records') := (h.filter _).map _

theorem agree_of_perm {records records' : List TestRecord} (h : records.Perm records') :
    Agree (ofRecords records) (ofRecords records') := by
  have hpassed := passedEntries_perm h
  have htimes := milliseconds_ranked_of_perm hpassed
  have hlength : (ranked (passedEntries records)).length =
      (ranked (passedEntries records')).length := by
    simpa using congrArg List.length htimes
  refine ⟨h.length_eq, hpassed.length_eq, ?_, ?_, failedEntries_perm h, ?_, ?_⟩
  · simp only [ofRecords, h.length_eq, hpassed.length_eq]
  · simp only [ofRecords, h.length_eq, hpassed.length_eq]
  · simp only [ofRecords, List.map_take, htimes]
  · simp only [ofRecords, hlength]
    split
    · simp only [List.map_take, List.map_reverse, htimes]
    · rfl

end ChannelKeeper.TestSummary

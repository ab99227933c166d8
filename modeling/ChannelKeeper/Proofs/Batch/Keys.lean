import ChannelKeeper.Proofs.Batch.Schedule

/-!
# Batches of keys

Whatever the order of its steps, a batch of keys that is done returns what testing
the keys one after the other returns, and has reported each result once. The
schedule of the tester is one such batch.
-/

namespace ChannelKeeper.Batch

def Tester.keysInTurn (t : Tester) (probes : Nat → Prober) (candidates : List Candidate)
    (model : Option String) : List KeyTestResult :=
  candidates.zipIdx.map fun (candidate, i) =>
    { index := i + 1
      key := candidate.key
      source := candidate.source
      model := model.getD t.defaultModel
      result := probes i ⟨candidate.key, model.getD t.defaultModel, none⟩ }

/-- A batch returned and reported the expected results. -/
structure KeysTested (expected : List KeyTestResult) (s : State KeyTestResult) : Prop where
  returned : Tester.inInputOrder s.results = expected
  done : s.reports.map (·.done) = List.range' 1 expected.length
  total : ∀ p ∈ s.reports, p.total = expected.length
  reported : (s.reports.map (·.result)).Perm expected

-- ---------------------------------------------------------------------------
-- Keys in turn
-- ---------------------------------------------------------------------------

section

variable (t : Tester) (probes : Nat → Prober) (candidates : List Candidate) (model : Option String)

@[simp] theorem length_keysInTurn :
    (t.keysInTurn probes candidates model).length = candidates.length := by
  simp [Tester.keysInTurn]

theorem inTurn_keyErrands :
    inTurn probes (t.keyErrands candidates model) = t.keysInTurn probes candidates model := by
  refine List.ext_getElem (by simp [inTurn]) fun i _ _ => ?_
  simp [inTurn, Tester.keyErrands, Tester.keysInTurn, Tester.keyResult, Tester.keyModel]

theorem index_keysInTurn :
    (t.keysInTurn probes candidates model).map (·.index) = List.range' 1 candidates.length := by
  refine List.ext_getElem (by simp) fun i _ _ => ?_
  simp [Tester.keysInTurn, Nat.add_comm]

theorem inInputOrder_of_perm (h : results.Perm (t.keysInTurn probes candidates model)) :
    Tester.inInputOrder results = t.keysInTurn probes candidates model := by
  have hindex := index_keysInTurn t probes candidates model
  have hnodup : ((t.keysInTurn probes candidates model).map (·.index)).Nodup :=
    hindex ▸ List.nodup_range'
  have hperm : (Tester.inInputOrder results).Perm (t.keysInTurn probes candidates model) :=
    (List.mergeSort_perm _ _).trans h
  have hsorted : (Tester.inInputOrder results).Pairwise fun a b =>
      decide (a.index ≤ b.index) = true := by
    refine List.pairwise_mergeSort (fun a b c hab hbc => ?_) (fun a b => ?_) results
    · simp only [decide_eq_true_eq] at hab hbc ⊢
      exact Nat.le_trans hab hbc
    · simpa using Nat.le_total a.index b.index
  have hle : (t.keysInTurn probes candidates model).Pairwise fun a b =>
      decide (a.index ≤ b.index) = true := by
    have hle : ((t.keysInTurn probes candidates model).map (·.index)).Pairwise (· ≤ ·) :=
      hindex ▸ List.pairwise_le_range'
    simpa using List.pairwise_map.mp hle
  refine List.Perm.eq_of_pairwise (fun a b ha hb hab hba => ?_) hsorted hle hperm
  simp only [decide_eq_true_eq] at hab hba
  exact List.inj_on_of_nodup_map hnodup (hperm.mem_iff.mp ha) hb (Nat.le_antisymm hab hba)

end

-- ---------------------------------------------------------------------------
-- Whole batches
-- ---------------------------------------------------------------------------

theorem Completed.keysTested
    (c : Completed probes (Tester.keyErrands t candidates model) events s) :
    KeysTested (t.keysInTurn probes candidates model) s := by
  have hperm : s.results.Perm (t.keysInTurn probes candidates model) :=
    inTurn_keyErrands t probes candidates model ▸ c.results
  have hlen : s.results.length = candidates.length := by
    rw [hperm.length_eq, length_keysInTurn]
  refine ⟨inInputOrder_of_perm t probes candidates model hperm, ?_, ?_, ?_⟩
  · refine List.ext_getElem (by simp [c.reports, hlen]) fun i _ _ => ?_
    simp [c.reports, Nat.add_comm]
  · intro p hp
    rw [c.reports] at hp
    obtain ⟨⟨a, k⟩, -, rfl⟩ := List.mem_map.mp hp
    simp
  · simpa [c.reports, Function.comp_def] using hperm

/-- The tester returns what testing the keys one after the other returns. -/
theorem results_testKeys (t : Tester) (hw : 0 < t.workers) (probe : Prober)
    (duration : ProbeCall → Nat) (candidates : List Candidate) (model : Option String) :
    Tester.inInputOrder ((t.testKeys probe duration candidates model).completions.map (·.2)) =
      t.keysInTurn (fun _ => probe) candidates model := by
  obtain ⟨s, ⟨events, h, ha⟩, hf, hs, -⟩ := leads_testKeys t hw probe duration candidates model
  rw [← hs]
  exact (completed_of_run h ha hf).keysTested.returned

theorem source_of_mem_keysInTurn {t : Tester} (h : r ∈ t.keysInTurn probes candidates model) :
    ∃ candidate ∈ candidates, r.source = candidate.source := by
  obtain ⟨⟨candidate, i⟩, hmem, rfl⟩ := List.mem_map.mp h
  exact ⟨candidate, List.fst_mem_of_mem_zipIdx hmem, rfl⟩

/-- Every complete run of a batch of keys, with a prober that answers each key and
model by a fixed rule, tests the keys as one after the other would: the same
results in the order of the keys, and each of them reported once with the number
that are done. The schedule of the tester, for any times, is such a run. -/
theorem keyBatch_results (workers : Nat) (defaultModel : String) (candidates : List Candidate)
    (model : Option String) (probe : Prober) :
    (∀ events s, Run ((Tester.new workers defaultModel).keyBatch candidates model) events s →
      AnsweredBy (fun _ => probe) events → s.Final →
      KeysTested
        ((Tester.new workers defaultModel).keysInTurn (fun _ => probe) candidates model) s) ∧
    ∀ duration, ∃ events s,
      Run ((Tester.new workers defaultModel).keyBatch candidates model) events s ∧
      AnsweredBy (fun _ => probe) events ∧ s.Final ∧
      s.results = ((Tester.new workers defaultModel).testKeys probe duration candidates
        model).completions.map (·.2) := by
  refine ⟨fun events s h ha hf => (completed_of_run h ha hf).keysTested, fun duration => ?_⟩
  have hw : 0 < (Tester.new workers defaultModel).workers := Nat.le_max_right workers 1
  obtain ⟨s, ⟨events, h, ha⟩, hf, hs, -⟩ := leads_testKeys _ hw probe duration candidates model
  exact ⟨events, s, h, ha, hf, hs⟩

namespace Sample

def probe : Prober := fun call =>
  if call.key = "a" then .valid 7 else .failed .forbidden "" 3

/-- One worker takes the second of two keys first. -/
def events : List Event := [
  .start 1, .answer 1 ⟨"b", "m", none⟩ (.failed .forbidden "" 3), .finish 1, .start 0, .join 1,
  .answer 0 ⟨"a", "m", none⟩ (.valid 7), .finish 0, .join 0]

theorem run_events :
    ∃ s, Run ((Tester.new 0 "m").keyBatch [.bare "a", .bare "b"] none) events s ∧ s.Final := by
  have hrun : Run ((Tester.new 0 "m").keyBatch [.bare "a", .bare "b"] none) events _ :=
    .more (.more (.more (.more (.more (.more (.more (.more .none (.start rfl (by decide)))
      (.answer rfl)) (.finish rfl)) (.start rfl (by decide))) (.join rfl)) (.answer rfl))
      (.finish rfl)) (.join rfl)
  refine ⟨_, hrun, ?_⟩
  simp [State.Final, Tester.keyBatch, State.begin, Tester.keyErrands]

end Sample

theorem keyBatch_results_sample :
    ∃ s, Run ((Tester.new 0 "m").keyBatch [.bare "a", .bare "b"] none) Sample.events s ∧
      AnsweredBy (fun _ => Sample.probe) Sample.events ∧ s.Final ∧
      KeysTested [⟨1, "a", none, "m", .valid 7⟩, ⟨2, "b", none, "m", .failed .forbidden "" 3⟩]
        s := by
  obtain ⟨s, hs, hf⟩ := Sample.run_events
  have ha : AnsweredBy (fun _ => Sample.probe) Sample.events := by decide
  exact ⟨s, hs, ha, hf,
    (keyBatch_results 0 "m" [.bare "a", .bare "b"] none Sample.probe).1 Sample.events s hs ha hf⟩

end ChannelKeeper.Batch

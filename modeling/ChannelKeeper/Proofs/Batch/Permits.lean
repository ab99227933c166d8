import ChannelKeeper.Proofs.Batch.Schedule

/-!
# Permits of a batch

Every permit is free or held by one working task, and every working task holds
one, so no more questions are open than there are permits, and a batch never gets
stuck. That it comes to an end is not claimed here: answers may be late for ever.
-/

namespace ChannelKeeper.Batch

variable {α : Type}

namespace Stage

def isWorking : Stage α → Bool
  | working _ => true
  | _ => false

def isAsking : Stage α → Bool
  | working (.ask _ _) => true
  | _ => false

theorem isWorking_of_isAsking {stage : Stage α} (h : stage.isAsking = true) :
    stage.isWorking = true := by
  cases stage with
  | working rest => rfl
  | waiting | finished | joined => simp [isAsking] at h

end Stage

namespace State

def openCalls (s : State α) : Nat := s.stages.countP Stage.isAsking

def worksAt (s : State α) (i : Nat) : Bool := s.stages[i]?.any Stage.isWorking

end State

/-- What holds of the permits at any time. -/
structure PermitsKept (limit : Nat) (s : State α) : Prop where
  total : s.free + s.holders.length = limit
  working : s.holders.length = s.stages.countP Stage.isWorking
  once (i : Nat) : s.holders.count i = if s.worksAt i then 1 else 0

/-- A batch with a limit runs in good order: as many questions as the limit are
open at most, each task at work has one permit, a task that waits while a permit
is left can start, and something can happen until all is done. -/
structure InOrder (limit : Nat) (s : State α) : Prop where
  bounded : s.openCalls ≤ limit
  permits : s.free + s.holders.length = limit
  onePermit (i : Nat) : s.holders.count i = if s.worksAt i then 1 else 0
  conserving (i : Nat) (errand : Errand α) : s.stages[i]? = some (.waiting errand) →
    s.holders.length < limit → ∃ s', Step s (.start i) s'
  notStuck : ¬ s.Final → ∃ event s', Step s event s'

-- ---------------------------------------------------------------------------
-- What every step keeps
-- ---------------------------------------------------------------------------

theorem PermitsKept.begin (limit : Nat) (errands : List (Errand α)) :
    PermitsKept limit (.begin limit errands) where
  total := rfl
  working := by
    have h : (errands.map Stage.waiting).countP Stage.isWorking = 0 := by
      simp [List.countP_eq_zero, Stage.isWorking]
    exact h.symm
  once i := by
    cases h : errands[i]? <;> simp [State.begin, State.worksAt, h, Stage.isWorking]

section

variable {limit i : Nat} {s s' : State α} {old new : Stage α}

theorem worksAt_of_getElem? (h : s.stages[i]? = some old) : s.worksAt i = old.isWorking := by
  rw [State.worksAt, h, Option.any_some]

theorem worksAt_set (h : s.stages[i]? = some old) (hs : s'.stages = s.stages.set i new) (j : Nat) :
    s'.worksAt j = if j = i then new.isWorking else s.worksAt j := by
  rw [State.worksAt, hs, Lists.getElem?_set_of_some h]
  split <;> rfl

theorem PermitsKept.goOn (k : PermitsKept limit s) (h : s.stages[i]? = some old)
    (new : Stage α) (hw : new.isWorking = old.isWorking) (hf : s'.free = s.free)
    (hh : s'.holders = s.holders) (hs : s'.stages = s.stages.set i new) :
    PermitsKept limit s' where
  total := by rw [hf, hh, k.total]
  working := by
    have hc := Lists.countP_set_of_some h new Stage.isWorking
    rw [hh, hs, k.working]
    rw [hw] at hc
    omega
  once j := by
    have hj : s'.worksAt j = s.worksAt j := by
      rw [worksAt_set h hs]
      split
      · rename_i he
        rw [hw, he, worksAt_of_getElem? h]
      · rfl
    rw [hh, k.once j, hj]

end

theorem PermitsKept.step {limit : Nat} {s s' : State α} {event : Event} (k : PermitsKept limit s)
    (h : Step s event s') : PermitsKept limit s' := by
  have htotal := k.total
  have hworking := k.working
  cases h with
  | @start i errand hi hfree =>
    -- The free permit is held by the task from now on, so one more task works and holds one.
    have hc := Lists.countP_set_of_some hi (.working errand) Stage.isWorking
    simp only [Stage.isWorking, if_true, Bool.false_eq_true, if_false] at hc
    refine ⟨?_, ?_, fun j => ?_⟩
    · simp only [List.length_cons]
      omega
    · simp only [List.length_cons]
      omega
    · rw [worksAt_set hi rfl, List.count_cons, k.once j]
      by_cases he : j = i
      · simp [he, worksAt_of_getElem? hi, Stage.isWorking]
      · simp [he, Ne.symm he]
  | @answer i call next r hi => exact k.goOn hi (.working (next r)) rfl rfl rfl rfl
  | @finish i a hi =>
    have hc := Lists.countP_set_of_some hi (.finished a) Stage.isWorking
    simp only [Stage.isWorking, if_true, Bool.false_eq_true, if_false] at hc
    -- A task at work holds just one permit, so giving one back leaves it none.
    have hn := k.once i
    rw [worksAt_of_getElem? hi, Stage.isWorking, if_pos rfl] at hn
    have hmem : i ∈ s.holders := List.count_pos_iff.mp (by omega)
    have hlen := List.length_erase_of_mem hmem
    have hpos := List.length_pos_of_mem hmem
    refine ⟨?_, ?_, fun j => ?_⟩
    · simp only [hlen]
      omega
    · simp only [hlen]
      omega
    · rw [worksAt_set hi rfl]
      by_cases he : j = i
      · simp [he, hn, Stage.isWorking]
      · simp [he, List.count_erase_of_ne he, k.once j]
  | join hi => exact k.goOn hi .joined rfl rfl rfl rfl

theorem PermitsKept.run {limit : Nat} {first s : State α} {events : List Event}
    (k : PermitsKept limit first) (h : Run first events s) : PermitsKept limit s := by
  induction h with
  | none => exact k
  | more _ step ih => exact ih.step step

-- ---------------------------------------------------------------------------
-- Batches in order
-- ---------------------------------------------------------------------------

theorem exists_step_of_working {s : State α} {i : Nat} {rest : Errand α}
    (h : s.stages[i]? = some (.working rest)) : ∃ event s', Step s event s' := by
  cases rest with
  | done a => exact ⟨_, _, .finish h⟩
  | ask call next => exact ⟨.answer i call (.valid 0), _, .answer h⟩

theorem PermitsKept.notStuck {limit : Nat} {s : State α} (k : PermitsKept limit s)
    (hl : 0 < limit) (hf : ¬ s.Final) : ∃ event s', Step s event s' := by
  simp only [State.Final, not_forall] at hf
  obtain ⟨stage, hmem, hne⟩ := hf
  obtain ⟨i, hi⟩ := List.getElem?_of_mem hmem
  cases stage with
  | working rest => exact exists_step_of_working hi
  | finished a => exact ⟨_, _, .join hi⟩
  | joined => exact absurd rfl hne
  | waiting errand =>
    by_cases hfree : 0 < s.free
    · exact ⟨_, _, .start hi hfree⟩
    · -- every permit is taken, so the task of one of them is at work
      have hpos : 0 < s.holders.length := by
        have := k.total
        omega
      obtain ⟨j, hj⟩ := List.exists_mem_of_length_pos hpos
      have hcount := k.once j
      have hj := List.count_pos_iff.mpr hj
      have hw : s.worksAt j = true := by
        by_contra hw
        rw [if_neg hw] at hcount
        omega
      obtain ⟨stage, hstage, hworking⟩ := Option.any_eq_true _ _ |>.mp hw
      cases stage with
      | working rest => exact exists_step_of_working hstage
      | waiting | finished | joined => simp [Stage.isWorking] at hworking

theorem PermitsKept.inOrder {limit : Nat} {s : State α} (k : PermitsKept limit s)
    (hl : 0 < limit) : InOrder limit s where
  bounded := by
    have hle : s.openCalls ≤ s.stages.countP Stage.isWorking :=
      List.countP_mono_left fun _ _ => Stage.isWorking_of_isAsking
    have := k.working
    have := k.total
    omega
  permits := k.total
  onePermit := k.once
  conserving i errand hi hh := by
    have := k.total
    exact ⟨_, .start hi (by omega)⟩
  notStuck := k.notStuck hl

theorem inOrder_of_run {limit : Nat} (hl : 0 < limit) {errands : List (Errand α)}
    (h : Run (.begin limit errands) events s) : InOrder limit s :=
  ((PermitsKept.begin limit errands).run h).inOrder hl

/-- At any time of any batch of keys or of channels, with any number of workers,
any answers and any order of steps, the batch is in order; and the schedules of
the tester never have more requests open than it has workers. -/
theorem batches_in_order (workers : Nat) (defaultModel : String) (model : Option String) :
    (∀ candidates events s,
      Run ((Tester.new workers defaultModel).keyBatch candidates model) events s →
        InOrder (max workers 1) s) ∧
    (∀ channels time events s,
      Run ((Tester.new workers defaultModel).channelBatch channels model time) events s →
        InOrder (max workers 1) s) ∧
    (∀ probe duration candidates,
      ((Tester.new workers defaultModel).testKeys probe duration candidates model).peak ≤
        max workers 1) ∧
    ∀ probe duration channels time,
      ((Tester.new workers defaultModel).testChannels probe duration channels model time).peak ≤
        max workers 1 := by
  have hl : 0 < max workers 1 := by omega
  refine ⟨fun _ _ _ h => inOrder_of_run hl h, fun _ _ _ _ h => inOrder_of_run hl h,
    fun probe duration candidates => ?_, fun probe duration channels time => ?_⟩
  · obtain ⟨_, -, -, -, hpeak⟩ := leads_testKeys (.new workers defaultModel) hl probe duration
      candidates model
    exact hpeak
  · obtain ⟨_, -, -, -, hpeak⟩ := leads_testChannels (.new workers defaultModel) hl probe duration
      channels model time
    exact hpeak

/-- One worker for two keys, and for a channel of two keys. -/
theorem batches_in_order_sample :
    (∃ s, Run ((Tester.new 0 "m").keyBatch [.bare "a", .bare "b"] none)
      [.start 1, .answer 1 ⟨"b", "m", none⟩ (.valid 1), .finish 1, .start 0] s ∧ InOrder 1 s) ∧
    ∃ s, Run ((Tester.new 0 "m").channelBatch [{ id := 7, key := "a\nb" }] none "")
      [.start 0, .answer 0 ⟨"a", "m", none⟩ (.failed .forbidden "" 1)] s ∧ InOrder 1 s := by
  have hkeys : ∃ s, Run ((Tester.new 0 "m").keyBatch [.bare "a", .bare "b"] none)
      [.start 1, .answer 1 ⟨"b", "m", none⟩ (.valid 1), .finish 1, .start 0] s :=
    ⟨_, .more (.more (.more (.more .none (.start rfl (by decide))) (.answer rfl)) (.finish rfl))
      (.start rfl (by decide))⟩
  have hchannels : ∃ s, Run ((Tester.new 0 "m").channelBatch [{ id := 7, key := "a\nb" }] none "")
      [.start 0, .answer 0 ⟨"a", "m", none⟩ (.failed .forbidden "" 1)] s :=
    ⟨_, .more (.more .none (.start rfl (by decide))) (.answer rfl)⟩
  obtain ⟨s, hs⟩ := hkeys
  obtain ⟨s', hs'⟩ := hchannels
  exact ⟨⟨s, hs, (batches_in_order 0 "m" none).1 _ _ _ hs⟩,
    ⟨s', hs', (batches_in_order 0 "m" none).2.1 _ _ _ _ hs'⟩⟩

end ChannelKeeper.Batch

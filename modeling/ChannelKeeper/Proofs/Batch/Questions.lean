import ChannelKeeper.Proofs.Batch.Channels
import ChannelKeeper.Proofs.Batch.Schedule

/-!
# What a batch may ask

A batch asks what its errands ask. Whatever the answers and the order of the steps, no
run comes to another question, and each question of an errand is come to in some run.
For keys it is the question about the key, for a channel those about its plain keys at
the base URL of its own. The schedule of the tester asks no other questions.
-/

namespace ChannelKeeper

theorem Channel.keys_targets (c : Channel) : c.targets.map (·.1) = c.plainKeys := by
  have hkeys : (c.keys.zipIdx 1).map (·.1) = c.keys := List.zipIdx_map_fst 1 c.keys
  conv_rhs => rw [plainKeys, ← hkeys, List.filter_map]
  rfl

namespace Batch

variable {α : Type} {call : ProbeCall}

/-- For some answers the errand comes to this question. -/
inductive Errand.Asks (call : ProbeCall) : Errand α → Prop where
  | here {next : ProbeResult → Errand α} : Asks call (.ask call next)
  | later {other : ProbeCall} {next : ProbeResult → Errand α} (r : ProbeResult) :
    Asks call (next r) → Asks call (.ask other next)

/-- What a task has left to ask. -/
def Stage.Asks (call : ProbeCall) : Stage α → Prop
  | .waiting errand | .working errand => errand.Asks call
  | .finished _ | .joined => False

namespace State

/-- A task waits for the answer to this question. -/
def IsAsking (s : State α) (call : ProbeCall) : Prop :=
  ∃ (i : Nat) (next : ProbeResult → Errand α), s.stages[i]? = some (.working (.ask call next))

/-- Some run from here comes to this question. -/
def MayAsk (s : State α) (call : ProbeCall) : Prop :=
  ∃ events s', Run s events s' ∧ s'.IsAsking call

end State

-- ---------------------------------------------------------------------------
-- Errands
-- ---------------------------------------------------------------------------

namespace Errand

theorem asks_ask_iff {other : ProbeCall} {next : ProbeResult → Errand α} :
    (ask other next).Asks call ↔ call = other ∨ ∃ r, (next r).Asks call := by
  constructor
  · intro h
    cases h with
    | here => exact .inl rfl
    | later r h => exact .inr ⟨r, h⟩
  · rintro (rfl | ⟨r, h⟩)
    · exact .here
    · exact .later r h

theorem not_asks_done (a : α) : ¬ (done a).Asks call := nofun

theorem asks_ofKey_iff : (ofKey model candidate position).Asks call ↔
    call = ⟨candidate.key, model, none⟩ := by
  simp [ofKey, asks_ask_iff, not_asks_done]

theorem asks_tryInTurn_iff {finish : Option (Nat × ProbeResult) → α} :
    (tryInTurn model baseUrl finish last targets).Asks call ↔
      ∃ key ∈ targets.map (·.1), call = ⟨key, model, baseUrl⟩ := by
  induction targets generalizing last with
  | nil => simp [tryInTurn, not_asks_done]
  | cons target rest ih =>
    obtain ⟨key, position⟩ := target
    rw [tryInTurn, asks_ask_iff]
    constructor
    · rintro (rfl | ⟨r, h⟩)
      · exact ⟨key, List.mem_cons_self, rfl⟩
      · split at h
        · exact absurd h (not_asks_done _)
        · obtain ⟨key', hmem, rfl⟩ := ih.mp h
          exact ⟨key', List.mem_cons_of_mem _ hmem, rfl⟩
    · rintro ⟨key', hmem, rfl⟩
      rcases List.mem_cons.mp hmem with rfl | hmem
      · exact .inl rfl
      · -- any failure leads on to the keys behind this one
        exact .inr ⟨.failed .unexpected "" 0, ih.mpr ⟨key', hmem, rfl⟩⟩

theorem asks_ofChannel_iff (c : Channel) : (ofChannel c model time).Asks call ↔
    ∃ key ∈ c.plainKeys, call = ⟨key, model, c.ownBaseUrl⟩ := by
  rw [ofChannel, asks_tryInTurn_iff, c.keys_targets]

theorem asks_of_mem_calls {probe : Prober} {e : Errand α} (h : call ∈ e.calls probe) :
    e.Asks call := by
  induction e with
  | done => cases h
  | ask other next ih =>
    rcases List.mem_cons.mp h with rfl | h
    · exact .here
    · exact .later _ (ih _ h)

end Errand

-- ---------------------------------------------------------------------------
-- Runs
-- ---------------------------------------------------------------------------

theorem Step.asks {s s' : State α} (step : Step s event s')
    (h : ∃ stage ∈ s'.stages, stage.Asks call) : ∃ stage ∈ s.stages, stage.Asks call := by
  obtain ⟨stage, hmem, hasks⟩ := h
  cases step with
  | start hi =>
    rcases List.mem_or_eq_of_mem_set hmem with hmem | rfl
    · exact ⟨stage, hmem, hasks⟩
    · exact ⟨.waiting _, List.mem_of_getElem? hi, hasks⟩
  | answer hi =>
    rcases List.mem_or_eq_of_mem_set hmem with hmem | rfl
    · exact ⟨stage, hmem, hasks⟩
    · exact ⟨.working _, List.mem_of_getElem? hi, Errand.Asks.later _ hasks⟩
  | finish | join =>
    rcases List.mem_or_eq_of_mem_set hmem with hmem | rfl
    · exact ⟨stage, hmem, hasks⟩
    · exact hasks.elim

theorem Run.asks {first s : State α} (h : Run first events s)
    (hs : ∃ stage ∈ s.stages, stage.Asks call) : ∃ stage ∈ first.stages, stage.Asks call := by
  induction h with
  | none => exact hs
  | more _ step ih => exact ih (step.asks hs)

theorem Step.mayAsk {s s' : State α} (step : Step s event s') (h : s'.MayAsk call) :
    s.MayAsk call := by
  obtain ⟨events, s'', hrun, hasking⟩ := h
  exact ⟨_, s'', (Run.none.more step).trans hrun, hasking⟩

/-- A task at work can be answered in such a way that it comes to each of its questions. -/
theorem mayAsk_of_working {e : Errand α} (h : e.Asks call) {s : State α} {i : Nat}
    (hi : s.stages[i]? = some (.working e)) : s.MayAsk call := by
  induction h generalizing s with
  | here => exact ⟨[], s, .none, i, _, hi⟩
  | later r _ ih =>
    obtain ⟨hlen, -⟩ := List.getElem?_eq_some_iff.mp hi
    exact (Step.answer (r := r) hi).mayAsk (ih (List.getElem?_set_self hlen))

theorem mayAsk_begin_iff {errands : List (Errand α)} (hl : 0 < limit) :
    (State.begin limit errands).MayAsk call ↔ ∃ errand ∈ errands, errand.Asks call := by
  constructor
  · rintro ⟨events, s, hrun, i, next, hi⟩
    have hleft : ∃ stage ∈ s.stages, stage.Asks call := ⟨_, List.mem_of_getElem? hi, .here⟩
    obtain ⟨stage, hmem, hasks⟩ := hrun.asks hleft
    obtain ⟨errand, herrand, rfl⟩ := List.mem_map.mp hmem
    exact ⟨errand, herrand, hasks⟩
  · rintro ⟨errand, herrand, hasks⟩
    obtain ⟨i, hi⟩ := List.getElem?_of_mem herrand
    have hwaiting : (State.begin limit errands).stages[i]? = some (.waiting errand) := by
      simp [State.begin, hi]
    obtain ⟨hlen, -⟩ := List.getElem?_eq_some_iff.mp hwaiting
    exact (Step.start hwaiting hl).mayAsk
      (mayAsk_of_working hasks (List.getElem?_set_self hlen))

namespace Tester

variable {t : Tester}

theorem mayAsk_keyBatch_iff (hw : 0 < t.workers) {candidates : List Candidate} :
    (t.keyBatch candidates model).MayAsk call ↔
      ∃ candidate ∈ candidates, call = ⟨candidate.key, t.keyModel model, none⟩ := by
  rw [keyBatch, mayAsk_begin_iff hw, keyErrands]
  constructor
  · rintro ⟨errand, herrand, hasks⟩
    obtain ⟨⟨candidate, i⟩, hmem, rfl⟩ := List.mem_map.mp herrand
    exact ⟨candidate, List.fst_mem_of_mem_zipIdx hmem, Errand.asks_ofKey_iff.mp hasks⟩
  · rintro ⟨candidate, hmem, hcall⟩
    obtain ⟨i, hi⟩ := List.getElem?_of_mem hmem
    exact ⟨_, List.mem_map_of_mem (List.mk_mem_zipIdx_iff_getElem?.mpr hi),
      Errand.asks_ofKey_iff.mpr hcall⟩

theorem mayAsk_timedErrands_iff (hw : 0 < t.workers) {channels : List Channel}
    {times : Nat → String} :
    (State.begin t.workers (t.timedErrands channels model times)).MayAsk call ↔
      ∃ c ∈ channels, ∃ key ∈ c.plainKeys,
        call = ⟨key, c.resolveModel model t.defaultModel, c.ownBaseUrl⟩ := by
  rw [mayAsk_begin_iff hw, timedErrands]
  constructor
  · rintro ⟨errand, herrand, hasks⟩
    obtain ⟨⟨c, i⟩, hmem, rfl⟩ := List.mem_map.mp herrand
    exact ⟨c, List.fst_mem_of_mem_zipIdx hmem, (Errand.asks_ofChannel_iff c).mp hasks⟩
  · rintro ⟨c, hmem, hcall⟩
    obtain ⟨i, hi⟩ := List.getElem?_of_mem hmem
    exact ⟨_, List.mem_map_of_mem (List.mk_mem_zipIdx_iff_getElem?.mpr hi),
      (Errand.asks_ofChannel_iff c).mpr hcall⟩

end Tester

-- ---------------------------------------------------------------------------
-- Schedules
-- ---------------------------------------------------------------------------

namespace Schedule

/-- Every request that was started or is ahead of a running job has a property. -/
structure AsksOnly (P : ProbeCall → Prop) (sch : Schedule α) : Prop where
  started : ∀ request ∈ sch.started, P request.1
  running : ∀ r ∈ sch.running, ∀ request ∈ r.calls, P request.1

variable {P : ProbeCall → Prop} {sch : Schedule α}

theorem AsksOnly.proceed {calls : List (ProbeCall × Nat)} (a : AsksOnly P sch)
    (h : ∀ request ∈ calls, P request.1) (result : α) :
    AsksOnly P (proceed result calls sch) := by
  induction calls generalizing sch with
  | nil => exact ⟨a.started, a.running⟩
  | cons request rest ih =>
    obtain ⟨call, duration⟩ := request
    obtain ⟨hcall, hrest⟩ := List.forall_mem_cons.mp h
    have hstarted : ∀ request ∈ (call, sch.now) :: sch.started, P request.1 :=
      List.forall_mem_cons.mpr ⟨hcall, a.started⟩
    simp only [Schedule.proceed]
    split
    · exact ih ⟨hstarted, a.running⟩ hrest
    · refine ⟨hstarted, List.forall_mem_append.mpr ⟨a.running, ?_⟩⟩
      simpa using hrest

theorem AsksOnly.fill {jobs : List (Job α)} (a : AsksOnly P sch)
    (h : ∀ job ∈ jobs, ∀ request ∈ job.calls, P request.1) (workers : Nat) :
    AsksOnly P (fill workers jobs sch) ∧
      ∀ job ∈ (fill workers jobs sch).waiting, ∀ request ∈ job.calls, P request.1 := by
  induction jobs generalizing sch with
  | nil => exact ⟨⟨a.started, a.running⟩, nofun⟩
  | cons job rest ih =>
    obtain ⟨hjob, hrest⟩ := List.forall_mem_cons.mp h
    simp only [Schedule.fill]
    split
    · exact ih (a.proceed hjob job.result) hrest
    · exact ⟨⟨a.started, a.running⟩, h⟩

theorem AsksOnly.run (a : AsksOnly P sch)
    (h : ∀ job ∈ sch.waiting, ∀ request ∈ job.calls, P request.1) (fuel : Nat) :
    AsksOnly P (run workers fuel sch) := by
  induction fuel generalizing sch with
  | zero => exact a
  | succ fuel ih =>
    obtain ⟨a₁, h₁⟩ := a.fill h workers
    simp only [Schedule.run]
    split
    · exact a₁
    · rename_i r others hn
      obtain ⟨before, after, hrunning, rfl⟩ := nextAnswer_eq_some hn
      have hall := a₁.running
      rw [hrunning] at hall
      obtain ⟨hbefore, hlater⟩ := List.forall_mem_append.mp hall
      obtain ⟨hr, hafter⟩ := List.forall_mem_cons.mp hlater
      have a₂ : AsksOnly P { Schedule.fill workers sch.waiting sch with
          now := r.wake, running := before ++ after } :=
        ⟨a₁.started, List.forall_mem_append.mpr ⟨hbefore, hafter⟩⟩
      refine ih (a₂.proceed hr r.result) ?_
      rw [waiting_proceed]
      exact h₁

theorem asksOnly_ofJobs {jobs : List (Job α)}
    (h : ∀ job ∈ jobs, ∀ request ∈ job.calls, P request.1) (workers : Nat) :
    ∀ request ∈ (ofJobs workers jobs).requests, P request.1 := by
  intro request hmem
  have a : AsksOnly P { waiting := jobs } := ⟨nofun, nofun⟩
  exact (a.run h _).started request (List.mem_reverse.mp hmem)

end Schedule

/-- What the schedule of a batch requests, some run of the batch may ask. -/
theorem mayAsk_of_mem_requests (probe : Prober) (duration : ProbeCall → Nat)
    (errands : List (Errand α)) (hw : 0 < workers)
    (h : request ∈ (Schedule.ofJobs workers (errands.map (Errand.toJob probe duration))).requests) :
    (State.begin workers errands).MayAsk request.1 := by
  refine Schedule.asksOnly_ofJobs (fun job hjob request hmem => ?_) workers request h
  obtain ⟨errand, herrand, rfl⟩ := List.mem_map.mp hjob
  obtain ⟨call, hcall, rfl⟩ := List.mem_map.mp hmem
  exact (mayAsk_begin_iff hw).mpr ⟨errand, herrand, Errand.asks_of_mem_calls hcall⟩

end Batch

end ChannelKeeper

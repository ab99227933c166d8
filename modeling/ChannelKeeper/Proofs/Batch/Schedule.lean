import ChannelKeeper.Proofs.Batch.Results

/-!
# The schedule as one run of the batch

The schedule of a list of jobs starts them in order and lets the first answer due
come first. The steps it takes are those of a complete run of the errands that
the jobs are made of, with its completions for the joins, and no more requests
are ever open than there are places. Its times are not looked at.
-/

namespace ChannelKeeper.Batch

variable {α : Type}

/-- Some steps with the answers of a prober lead from one state to another. -/
def Leads (probe : Prober) (s s' : State α) : Prop :=
  ∃ events, Run s events s' ∧ AnsweredBy (fun _ => probe) events

theorem Leads.refl (probe : Prober) (s : State α) : Leads probe s s :=
  ⟨[], .none, by simp [AnsweredBy]⟩

theorem Leads.trans {s₁ s₂ s₃ : State α} (h : Leads probe s₁ s₂) (h' : Leads probe s₂ s₃) :
    Leads probe s₁ s₃ := by
  obtain ⟨events, hr, ha⟩ := h
  obtain ⟨events', hr', ha'⟩ := h'
  exact ⟨events ++ events', hr.trans hr', ha.append ha'⟩

theorem Leads.step {s s' s'' : State α} {event : Event} (h : Step s event s')
    (ha : event.IsBy fun _ => probe) (h' : Leads probe s' s'') : Leads probe s s'' :=
  .trans ⟨[event], .more .none h, by simpa [AnsweredBy] using ha⟩ h'

/-- A place of the schedule and the task it is taken by: the task has asked what
is running, and its errand goes on as the schedule's job does. -/
def Awaited (probe : Prober) (duration : ProbeCall → Nat) (s : State α) (r : Running α) (i : Nat) :
    Prop :=
  ∃ call next, s.stages[i]? = some (.working (.ask call next)) ∧
    r.calls = ((next (probe call)).toJob probe duration).calls ∧
    r.result = (next (probe call)).result probe

/-- A schedule and a batch at the same point: the first `k` tasks were started,
each is joined unless it is active or has a place, and the others wait. -/
structure Agrees (probe : Prober) (duration : ProbeCall → Nat) (errands : List (Errand α))
    (workers k : Nat) (active : List Nat) (places : List (Running α × Nat)) (sch : Schedule α)
    (s : State α) : Prop where
  running : sch.running = places.map (·.1)
  awaited : ∀ p ∈ places, Awaited probe duration s p.1 p.2
  nodup : (active ++ places.map (·.2)).Nodup
  free : s.free + (active ++ places.map (·.2)).length = workers
  length : s.stages.length = errands.length
  waiting : ∀ i errand, k ≤ i → errands[i]? = some errand → s.stages[i]? = some (.waiting errand)
  joined : ∀ i, i < k → i < errands.length → i ∉ active ++ places.map (·.2) →
    s.stages[i]? = some .joined
  results : s.results = sch.finished.reverse.map (·.2)
  peak : sch.peak ≤ workers

section

variable {probe : Prober} {duration : ProbeCall → Nat} {errands : List (Errand α)}
  {workers k i : Nat} {places : List (Running α × Nat)} {sch : Schedule α} {s : State α}

theorem Agrees.set (a : Agrees probe duration errands workers k [i] places sch s) (hi : i < k)
    (h : s.stages[i]? = some old) (new : Stage α) :
    Agrees probe duration errands workers k [i] places sch
      { s with stages := s.stages.set i new } where
  running := a.running
  awaited p hp := by
    have hne : p.2 ≠ i := by
      have := (List.nodup_cons.mp a.nodup).1
      rintro rfl
      exact this (List.mem_map_of_mem hp)
    obtain ⟨call, next, hs, hr⟩ := a.awaited p hp
    exact ⟨call, next, by simp [Lists.getElem?_set_of_some h, hne, hs], hr⟩
  nodup := a.nodup
  free := a.free
  length := by simp [a.length]
  waiting j errand hk he := by
    have hne : j ≠ i := by omega
    simp [Lists.getElem?_set_of_some h, hne, a.waiting j errand hk he]
  joined j hk hlen hj := by
    have hne : j ≠ i := by
      rintro rfl
      simp at hj
    simp [Lists.getElem?_set_of_some h, hne, a.joined j hk hlen hj]
  results := a.results
  peak := a.peak

theorem Agrees.retire (a : Agrees probe duration errands workers k [i] places sch s)
    (hi : i < k) (h : s.stages[i]? = some (.working (.done b))) (time : Nat) :
    ∃ s', Leads probe s s' ∧ Agrees probe duration errands workers k [] places
      { sch with finished := (time, b) :: sch.finished } s' := by
  have hlen := (List.getElem?_eq_some_iff.mp h).1
  have h' : (s.stages.set i (.finished b))[i]? = some (.finished b) := by simp [hlen]
  have a'' := (a.set hi h (.finished b)).set hi h' .joined
  refine ⟨_, .step (.finish h) trivial (.step (.join h') trivial (.refl probe _)), ?_⟩
  refine ⟨a''.running, a''.awaited, (List.nodup_cons.mp a''.nodup).2, ?_, a''.length, a''.waiting,
    fun j hk hj hmem => ?_, ?_, a''.peak⟩
  · have := a.free
    simp only [List.cons_append, List.nil_append, List.length_cons] at this ⊢
    omega
  · by_cases hji : j = i
    · subst hji
      simp [hlen]
    · refine a''.joined j hk hj ?_
      simpa [hji] using hmem
  · simp [a.results]

theorem Agrees.settle (a : Agrees probe duration errands workers k [i] places sch s)
    {r : Running α} (h : Awaited probe duration s r i) :
    Agrees probe duration errands workers k [] (places ++ [(r, i)])
      { sch with running := sch.running ++ [r] } s where
  running := by simp [a.running]
  awaited p hp := by
    rcases List.mem_append.mp hp with hp | hp
    · exact a.awaited p hp
    · rw [List.mem_singleton.mp hp]
      exact h
  nodup := by
    have := a.nodup
    rw [List.nodup_append_comm] at this
    simpa using this
  free := by
    have := a.free
    simp only [List.cons_append, List.nil_append, List.length_cons, List.map_append,
      List.length_append, List.length_map] at this ⊢
    simpa [Nat.add_assoc] using this
  length := a.length
  waiting := a.waiting
  joined j hk hj hmem := by
    refine a.joined j hk hj fun hm => hmem ?_
    rcases List.mem_append.mp hm with hm | hm <;> simp_all
  results := a.results
  peak := a.peak

/-- What the schedule does with a job from some point of it on, up to a request
that takes time or to its end. -/
theorem Agrees.proceed (a : Agrees probe duration errands workers k [i] places sch s)
    (hi : i < k) (h : s.stages[i]? = some (.working rest)) :
    ∃ s' places', Leads probe s s' ∧ Agrees probe duration errands workers k [] places'
      (.proceed (rest.result probe) (rest.toJob probe duration).calls sch) s' := by
  induction rest generalizing sch s with
  | done b =>
    obtain ⟨s', hl, ha⟩ := a.retire hi h sch.now
    exact ⟨s', places, hl, ha⟩
  | ask call next ih =>
    have hpeak : max sch.peak (sch.running.length + 1) ≤ workers := by
      have := a.free
      have := a.peak
      rw [a.running]
      simp only [List.cons_append, List.nil_append, List.length_cons, List.length_map] at *
      omega
    have hstarted : Agrees probe duration errands workers k [i] places
        { sch with
          started := (call, sch.now) :: sch.started
          peak := max sch.peak (sch.running.length + 1) } s :=
      { a with peak := hpeak }
    simp only [Errand.result, Errand.toJob, Errand.calls, List.map_cons, Schedule.proceed]
    split
    · -- a request that takes no time is answered before anything else happens
      have h' : Step s (.answer i call (probe call)) _ := .answer h
      have hlen := (List.getElem?_eq_some_iff.mp h).1
      obtain ⟨s', places', hl, ha⟩ := ih (probe call)
        (hstarted.set hi h (.working (next (probe call)))) (by simp [hlen])
      exact ⟨s', places', .step h' rfl hl, ha⟩
    · exact ⟨s, _, .refl probe s, hstarted.settle ⟨call, next, h, rfl, rfl⟩⟩

theorem Agrees.working_lt (a : Agrees probe duration errands workers k active places sch s)
    (h : s.stages[i]? = some (.working rest)) : i < k := by
  by_contra hk
  have hi : i < errands.length := a.length ▸ (List.getElem?_eq_some_iff.mp h).1
  have := a.waiting i errands[i] (by omega) (by simp)
  simp [h] at this

theorem Agrees.start (a : Agrees probe duration errands workers k [] places sch s)
    (he : errands[k]? = some errand) (hr : sch.running.length < workers) :
    ∃ s', Leads probe s s' ∧ s'.stages[k]? = some (.working errand) ∧
      Agrees probe duration errands workers (k + 1) [k] places sch s' := by
  have hk := a.waiting k errand (Nat.le_refl k) he
  have hfree := a.free
  simp only [List.nil_append, List.length_map] at hfree
  have hpos : 0 < s.free := by
    rw [a.running, List.length_map] at hr
    omega
  -- A task that waits is not at work, so none of the places is its own.
  have hne : ∀ p ∈ places, p.2 ≠ k := by
    intro p hp hpk
    obtain ⟨call, next, hs, -⟩ := a.awaited p hp
    rw [hpk, hk] at hs
    cases hs
  refine ⟨_, .step (.start hk hpos) trivial (.refl probe _), ?_, ?_⟩
  · simp [(List.getElem?_eq_some_iff.mp hk).1]
  refine ⟨a.running, fun p hp => ?_, ?_, ?_, ?_, fun j e hj hje => ?_, fun j hj hlen hmem => ?_,
    a.results, a.peak⟩
  · obtain ⟨call, next, hs, hrest⟩ := a.awaited p hp
    exact ⟨call, next, by simp [Lists.getElem?_set_of_some hk, hne p hp, hs], hrest⟩
  · refine List.nodup_cons.mpr ⟨fun hm => ?_, a.nodup⟩
    obtain ⟨p, hp, hpk⟩ := List.mem_map.mp hm
    exact hne p hp hpk
  · simp only [List.cons_append, List.nil_append, List.length_cons, List.length_map]
    omega
  · simp [a.length]
  · have hjk : j ≠ k := by omega
    simp [Lists.getElem?_set_of_some hk, hjk, a.waiting j e (by omega) hje]
  · have hjk : j ≠ k := by
      rintro rfl
      simp at hmem
    have hmem' : j ∉ [] ++ places.map (·.2) := fun hm => hmem (List.mem_cons_of_mem k hm)
    simp [Lists.getElem?_set_of_some hk, hjk, a.joined j (by omega) hlen hmem']

theorem Agrees.release {before after : List (Running α × Nat)} {r : Running α}
    (a : Agrees probe duration errands workers k [] (before ++ (r, i) :: after) sch s)
    (time : Nat) :
    ∃ rest s', Leads probe s s' ∧ s'.stages[i]? = some (.working rest) ∧
      r.calls = (rest.toJob probe duration).calls ∧ r.result = rest.result probe ∧ i < k ∧
      Agrees probe duration errands workers k [i] (before ++ after)
        { sch with now := time, running := before.map (·.1) ++ after.map (·.1) } s' := by
  obtain ⟨call, next, hs, hcalls, hresult⟩ := a.awaited (r, i) (by simp)
  have hi : i < k := a.working_lt hs
  have hperm : ([] ++ (before ++ (r, i) :: after).map Prod.snd).Perm
      ([i] ++ (before ++ after).map Prod.snd) := by
    simp [List.perm_middle]
  have hleft : Agrees probe duration errands workers k [i] (before ++ after)
      { sch with now := time, running := before.map (·.1) ++ after.map (·.1) } s := by
    refine ⟨by simp, fun p hp => a.awaited p ?_, hperm.nodup_iff.mp a.nodup, ?_, a.length,
      a.waiting, fun j hj hlen hm => a.joined j hj hlen fun h => hm (hperm.mem_iff.mp h),
      a.results, a.peak⟩
    · rcases List.mem_append.mp hp with hp | hp <;> simp [hp]
    · rw [← hperm.length_eq]
      exact a.free
  have hstep : Step s (.answer i call (probe call)) _ := .answer hs
  refine ⟨next (probe call), _, .step hstep rfl (.refl probe _), ?_, hcalls, hresult, hi,
    hleft.set hi hs _⟩
  simp [(List.getElem?_eq_some_iff.mp hs).1]

/-- Filling the places starts tasks until none waits or no place is left. -/
theorem Agrees.fill {jobs : List (Job α)}
    (hj : jobs = (errands.drop k).map (Errand.toJob probe duration))
    (a : Agrees probe duration errands workers k [] places sch s) :
    ∃ s' k' places', Leads probe s s' ∧
      Agrees probe duration errands workers k' [] places' (.fill workers jobs sch) s' ∧
      (Schedule.fill workers jobs sch).waiting =
        (errands.drop k').map (Errand.toJob probe duration) ∧
      ((Schedule.fill workers jobs sch).waiting = [] ∨
        workers ≤ (Schedule.fill workers jobs sch).running.length) := by
  induction jobs generalizing k places sch s with
  | nil => exact ⟨s, k, places, .refl probe s, { a with }, hj, .inl rfl⟩
  | cons job rest ih =>
    obtain ⟨errand, errands', hdrop, rfl, rfl⟩ := List.map_eq_cons_iff.mp hj.symm
    have he : errands[k]? = some errand := by
      rw [← Nat.add_zero k, ← List.getElem?_drop, hdrop, List.getElem?_cons_zero]
    have hdrop' : errands.drop (k + 1) = errands' := by
      rw [← List.tail_drop, hdrop, List.tail_cons]
    simp only [Schedule.fill]
    split
    · rename_i hr
      obtain ⟨s₁, hl₁, hs₁, a₁⟩ := a.start he hr
      obtain ⟨s₂, places₂, hl₂, a₂⟩ := a₁.proceed (Nat.lt_succ_self k) hs₁
      obtain ⟨s₃, k₃, places₃, hl₃, h₃⟩ := ih (by rw [hdrop']) a₂
      exact ⟨s₃, k₃, places₃, hl₁.trans (hl₂.trans hl₃), h₃⟩
    · rename_i hr
      exact ⟨s, k, places, .refl probe s, { a with }, hj, .inr (Nat.le_of_not_lt hr)⟩

end

-- ---------------------------------------------------------------------------
-- The number of answers
-- ---------------------------------------------------------------------------

namespace Schedule

def ahead (jobs : List (Job α)) : Nat := (jobs.map (·.calls.length)).sum

def due (running : List (Running α)) : Nat := (running.map (·.calls.length + 1)).sum

theorem foldl_calls (jobs : List (Job α)) (n : Nat) :
    jobs.foldl (fun n job => n + job.calls.length) n = n + ahead jobs := by
  induction jobs generalizing n with
  | nil => rfl
  | cons job rest ih =>
    rw [List.foldl_cons, ih, ahead, ahead, List.map_cons, List.sum_cons, Nat.add_assoc]

theorem due_proceed (result : α) (calls : List (ProbeCall × Nat)) (sch : Schedule α) :
    due (proceed result calls sch).running ≤ due sch.running + calls.length := by
  induction calls generalizing sch with
  | nil => exact Nat.le_refl _
  | cons call rest ih =>
    obtain ⟨call, duration⟩ := call
    simp only [proceed]
    split
    · refine Nat.le_trans (ih _) ?_
      simp
    · simp [due]

theorem waiting_proceed (result : α) (calls : List (ProbeCall × Nat)) (sch : Schedule α) :
    (proceed result calls sch).waiting = sch.waiting := by
  induction calls generalizing sch with
  | nil => rfl
  | cons call rest ih =>
    obtain ⟨call, duration⟩ := call
    simp only [proceed]
    split
    · exact ih _
    · rfl

theorem due_fill (workers : Nat) (jobs : List (Job α)) (sch : Schedule α) :
    due (fill workers jobs sch).running + ahead (fill workers jobs sch).waiting ≤
      due sch.running + ahead jobs := by
  induction jobs generalizing sch with
  | nil => exact Nat.le_refl _
  | cons job rest ih =>
    simp only [fill]
    split
    · have := ih (proceed job.result job.calls sch)
      have := due_proceed job.result job.calls sch
      simp only [ahead, List.map_cons, List.sum_cons] at *
      omega
    · exact Nat.le_refl _

theorem nextAnswer_eq_none {running : List (Running α)} (h : nextAnswer running = none) :
    running = [] := by
  cases running with
  | nil => rfl
  | cons r rest =>
    simp only [nextAnswer] at h
    split at h
    · cases h
    · split at h <;> cases h

theorem nextAnswer_eq_some {running : List (Running α)}
    (h : nextAnswer running = some (r, others)) :
    ∃ before after, running = before ++ r :: after ∧ others = before ++ after := by
  induction running generalizing r others with
  | nil => cases h
  | cons r' rest ih =>
    simp only [nextAnswer] at h
    split at h
    · rename_i hn
      cases h
      exact ⟨[], [], by rw [nextAnswer_eq_none hn, List.nil_append], rfl⟩
    · rename_i first others' hs
      split at h
      · cases h
        obtain ⟨before, after, rfl, rfl⟩ := ih hs
        exact ⟨r' :: before, after, rfl, rfl⟩
      · cases h
        exact ⟨[], rest, rfl, rfl⟩

end Schedule

-- ---------------------------------------------------------------------------
-- Whole schedules
-- ---------------------------------------------------------------------------

/-- With fuel for all the answers ahead, the schedule runs to its end. -/
theorem Agrees.run {probe : Prober} {duration : ProbeCall → Nat} {errands : List (Errand α)}
    {workers k : Nat} {places : List (Running α × Nat)} {sch : Schedule α} {s : State α}
    (hw : 0 < workers) (a : Agrees probe duration errands workers k [] places sch s)
    (hj : sch.waiting = (errands.drop k).map (Errand.toJob probe duration)) (fuel : Nat)
    (hf : Schedule.due sch.running + Schedule.ahead sch.waiting < fuel) :
    ∃ s', Leads probe s s' ∧ s'.Final ∧
      s'.results = (Schedule.run workers fuel sch).completions.map (·.2) ∧
      (Schedule.run workers fuel sch).peak ≤ workers := by
  induction fuel generalizing k places sch s with
  | zero => omega
  | succ fuel ih =>
    obtain ⟨s₁, k₁, places₁, hl₁, a₁, hj₁, hfull⟩ := a.fill hj
    have hdue := Schedule.due_fill workers sch.waiting sch
    generalize hsch : Schedule.fill workers sch.waiting sch = sch₁ at a₁ hj₁ hfull hdue
    simp only [Schedule.run, hsch]
    cases hn : Schedule.nextAnswer sch₁.running with
    | none =>
      -- nothing runs, so a place was free and nothing waits either
      have hempty := Schedule.nextAnswer_eq_none hn
      have hplaces : places₁ = [] := by simpa [hempty] using a₁.running.symm
      have hdone : errands.length ≤ k₁ := by
        rcases hfull with hwait | hfull
        · simpa [hwait] using hj₁.symm
        · simp only [hempty, List.length_nil] at hfull
          omega
      refine ⟨s₁, hl₁, fun stage hmem => ?_, a₁.results, a₁.peak⟩
      obtain ⟨i, hi⟩ := List.getElem?_of_mem hmem
      have hlen : i < errands.length := a₁.length ▸ (List.getElem?_eq_some_iff.mp hi).1
      have hjoined := a₁.joined i (by omega) hlen (by simp [hplaces])
      exact Option.some.inj (hi.symm.trans hjoined)
    | some answer =>
      obtain ⟨r, others⟩ := answer
      obtain ⟨before, after, hrunning, rfl⟩ := Schedule.nextAnswer_eq_some hn
      obtain ⟨places₂, places₃, rfl, rfl, hmap⟩ :=
        List.map_eq_append_iff.mp (a₁.running.symm.trans hrunning)
      obtain ⟨⟨r', i⟩, places₃, rfl, rfl, rfl⟩ := List.map_eq_cons_iff.mp hmap
      obtain ⟨rest, s₂, hl₂, hs₂, hcalls, hresult, hi, a₂⟩ := a₁.release r'.wake
      obtain ⟨s₃, places₄, hl₃, a₃⟩ := a₂.proceed hi hs₂
      rw [← hcalls, ← hresult] at a₃
      have hj₃ := Schedule.waiting_proceed r'.result r'.calls
        { sch₁ with now := r'.wake, running := places₂.map (·.1) ++ places₃.map (·.1) }
      have hdue₃ := Schedule.due_proceed r'.result r'.calls
        { sch₁ with now := r'.wake, running := places₂.map (·.1) ++ places₃.map (·.1) }
      -- the round took one answer, so what is ahead has shrunk with the fuel
      have hfuel : Schedule.due (places₂.map (·.1) ++ places₃.map (·.1)) + r'.calls.length +
          Schedule.ahead sch₁.waiting < fuel := by
        simp only [Schedule.due, hrunning, List.map_append, List.map_cons, List.sum_append,
          List.sum_cons] at hdue ⊢
        simp only [Schedule.due] at hf
        omega
      obtain ⟨s₄, hl₄, h₄⟩ := ih a₃ (hj₃.trans hj₁) (by
        rw [hj₃]
        exact Nat.lt_of_le_of_lt (Nat.add_le_add_right hdue₃ _) hfuel)
      exact ⟨s₄, hl₁.trans (hl₂.trans (hl₃.trans hl₄)), h₄⟩

/-- The schedule of the errands' jobs is one way of running the batch to its end. -/
theorem leads_ofJobs (probe : Prober) (duration : ProbeCall → Nat) (errands : List (Errand α))
    {workers : Nat} (hw : 0 < workers) {sch : Schedule α}
    (hs : sch = .ofJobs workers (errands.map (Errand.toJob probe duration))) :
    ∃ s, Leads probe (.begin workers errands) s ∧ s.Final ∧
      s.results = sch.completions.map (·.2) ∧ sch.peak ≤ workers := by
  subst hs
  have a : Agrees probe duration errands workers 0 [] []
      { waiting := errands.map (Errand.toJob probe duration) } (.begin workers errands) := by
    refine ⟨rfl, by simp, .nil, rfl, by simp [State.begin], fun i errand _ he => ?_, nofun, rfl,
      Nat.zero_le _⟩
    simp [State.begin, he]
  refine a.run hw (by simp) _ ?_
  rw [Schedule.foldl_calls]
  simp [Schedule.due]

theorem leads_testKeys (t : Tester) (hw : 0 < t.workers) (probe : Prober)
    (duration : ProbeCall → Nat) (candidates : List Candidate) (model : Option String) :
    ∃ s, Leads probe (t.keyBatch candidates model) s ∧ s.Final ∧
      s.results = (t.testKeys probe duration candidates model).completions.map (·.2) ∧
      (t.testKeys probe duration candidates model).peak ≤ t.workers :=
  leads_ofJobs probe duration (t.keyErrands candidates model) hw
    (by rw [Tester.testKeys, Tester.keyJobs_eq])

theorem leads_testChannels (t : Tester) (hw : 0 < t.workers) (probe : Prober)
    (duration : ProbeCall → Nat) (channels : List Channel) (model : Option String) (time : String) :
    ∃ s, Leads probe (t.channelBatch channels model time) s ∧ s.Final ∧
      s.results = (t.testChannels probe duration channels model time).completions.map (·.2) ∧
      (t.testChannels probe duration channels model time).peak ≤ t.workers :=
  leads_ofJobs probe duration (t.channelErrands channels model time) hw
    (by rw [Tester.testChannels, Tester.channelJobs_eq])

end ChannelKeeper.Batch

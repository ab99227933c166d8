import ChannelKeeper.Proofs.Batch.Interleaving
import ChannelKeeper.Proofs.Lists

/-!
# Results of a batch

With answers that depend on the task and the question alone, every way of taking
the steps comes to the same: each task asks the questions of its errand, in their
order, and its result is joined and reported once. Only the order of the joins is
left open.
-/

namespace ChannelKeeper.Batch

variable {α : Type}

def Event.task : Event → Nat
  | start i | answer i _ _ | finish i | join i => i

def Event.callOf? (i : Nat) : Event → Option ProbeCall
  | answer j call _ => if j = i then some call else none
  | _ => none

def asked (i : Nat) (events : List Event) : List ProbeCall := events.filterMap (Event.callOf? i)

def Event.IsBy (probes : Nat → Prober) : Event → Prop
  | answer i call r => r = probes i call
  | _ => True

instance (probes : Nat → Prober) : DecidablePred (Event.IsBy probes)
  | .answer i call r => inferInstanceAs (Decidable (r = probes i call))
  | .start _ | .finish _ | .join _ => inferInstanceAs (Decidable True)

def AnsweredBy (probes : Nat → Prober) (events : List Event) : Prop :=
  ∀ event ∈ events, event.IsBy probes

instance (probes : Nat → Prober) (events : List Event) : Decidable (AnsweredBy probes events) :=
  inferInstanceAs (Decidable (∀ event ∈ events, event.IsBy probes))

def inTurn (probes : Nat → Prober) (errands : List (Errand α)) : List α :=
  errands.zipIdx.map fun (errand, i) => errand.result (probes i)

/-- Where a task can be after some questions. -/
inductive Reached (probe : Prober) (errand : Errand α) : List ProbeCall → Stage α → Prop where
  | waiting : Reached probe errand [] (.waiting errand)
  | working : errand.calls probe = before ++ rest.calls probe →
    errand.result probe = rest.result probe → Reached probe errand before (.working rest)
  | finished : Reached probe errand (errand.calls probe) (.finished (errand.result probe))
  | joined : Reached probe errand (errand.calls probe) .joined

/-- What happened to the tasks and what is joined and reported, at any time. The
tasks were joined in some order, each at most once. -/
structure Tracks (probes : Nat → Prober) (errands : List (Errand α)) (events : List Event)
    (s : State α) : Prop where
  length : s.stages.length = errands.length
  tasks (i : Nat) (stage : Stage α) : s.stages[i]? = some stage →
    ∃ errand, errands[i]? = some errand ∧ Reached (probes i) errand (asked i events) stage
  joins : ∃ order : List Nat, order.Nodup ∧ (∀ i, i ∈ order ↔ s.stages[i]? = some .joined) ∧
    s.results = order.filterMap fun i => errands[i]?.map (·.result (probes i))
  reports : s.reports = s.results.zipIdx.map fun (a, k) => ⟨k + 1, errands.length, a⟩
  total : s.total = errands.length

structure Completed (probes : Nat → Prober) (errands : List (Errand α)) (events : List Event)
    (s : State α) : Prop where
  results : s.results.Perm (inTurn probes errands)
  reports : s.reports = s.results.zipIdx.map fun (a, k) => ⟨k + 1, errands.length, a⟩
  asked (i : Nat) (errand : Errand α) : errands[i]? = some errand →
    asked i events = errand.calls (probes i)

-- ---------------------------------------------------------------------------
-- Questions
-- ---------------------------------------------------------------------------

theorem asked_append (i : Nat) (events : List Event) (event : Event) :
    asked i (events ++ [event]) = asked i events ++ (event.callOf? i).toList := by
  rw [asked, List.filterMap_append, asked]
  cases h : event.callOf? i <;> simp [h]

theorem Event.callOf?_of_ne {event : Event} (h : i ≠ event.task) : event.callOf? i = none := by
  cases event with
  | answer j call r => exact if_neg fun he => h he.symm
  | start | finish | join => rfl

theorem AnsweredBy.append (h : AnsweredBy probes events) (h' : AnsweredBy probes events') :
    AnsweredBy probes (events ++ events') :=
  List.forall_mem_append.mpr ⟨h, h'⟩

theorem AnsweredBy.init (h : AnsweredBy probes (events ++ [event])) :
    AnsweredBy probes events ∧ event.IsBy probes := by
  obtain ⟨h, h'⟩ := List.forall_mem_append.mp h
  exact ⟨h, h' event (List.mem_singleton_self event)⟩

-- ---------------------------------------------------------------------------
-- One task
-- ---------------------------------------------------------------------------

namespace Reached

variable {probe : Prober} {errand e : Errand α} {before : List ProbeCall}

theorem start (h : Reached probe errand before (.waiting e)) :
    Reached probe errand before (.working e) := by
  cases h
  exact .working rfl rfl

theorem answer {next : ProbeResult → Errand α}
    (h : Reached probe errand before (.working (.ask call next))) :
    Reached probe errand (before ++ [call]) (.working (next (probe call))) := by
  cases h with
  | working hc hr => exact .working (by simpa [Errand.calls] using hc) hr

theorem finish (h : Reached probe errand before (.working (.done a))) :
    Reached probe errand before (.finished a) := by
  cases h with
  | working hc hr =>
    obtain rfl : errand.calls probe = before := by simpa [Errand.calls] using hc
    obtain rfl : errand.result probe = a := hr
    exact .finished

theorem join (h : Reached probe errand before (.finished a)) :
    Reached probe errand before .joined ∧ a = errand.result probe := by
  cases h
  exact ⟨.joined, rfl⟩

end Reached

-- ---------------------------------------------------------------------------
-- What every step keeps
-- ---------------------------------------------------------------------------

theorem Tracks.begin (probes : Nat → Prober) (limit : Nat) (errands : List (Errand α)) :
    Tracks probes errands [] (.begin limit errands) where
  length := by simp [State.begin]
  tasks i stage h := by
    simp only [State.begin, List.getElem?_map, Option.map_eq_some_iff] at h
    obtain ⟨errand, he, rfl⟩ := h
    exact ⟨errand, he, .waiting⟩
  joins := ⟨[], .nil, by simp [State.begin], rfl⟩
  reports := rfl
  total := rfl

section

variable {probes : Nat → Prober} {errands : List (Errand α)} {events : List Event}
  {s s' : State α} {old new : Stage α} {i : Nat}

theorem Tracks.tasks_step (t : Tracks probes errands events s) (event : Event)
    (h : s.stages[event.task]? = some old)
    (hr : ∀ errand, Reached (probes event.task) errand (asked event.task events) old →
      Reached (probes event.task) errand (asked event.task (events ++ [event])) new)
    (j : Nat) (stage : Stage α) (hj : (s.stages.set event.task new)[j]? = some stage) :
    ∃ errand, errands[j]? = some errand ∧
      Reached (probes j) errand (asked j (events ++ [event])) stage := by
  rw [Lists.getElem?_set_of_some h] at hj
  split at hj
  · rename_i he
    subst he
    obtain rfl : new = stage := by simpa using hj
    obtain ⟨errand, he, hold⟩ := t.tasks _ old h
    exact ⟨errand, he, hr errand hold⟩
  · rename_i he
    rw [asked_append, Event.callOf?_of_ne he, Option.toList_none, List.append_nil]
    exact t.tasks j stage hj

theorem Tracks.goOn (t : Tracks probes errands events s) (event : Event)
    (h : s.stages[event.task]? = some old)
    (hr : ∀ errand, Reached (probes event.task) errand (asked event.task events) old →
      Reached (probes event.task) errand (asked event.task (events ++ [event])) new)
    (hs : s'.stages = s.stages.set event.task new) (ho : old ≠ .joined) (hn : new ≠ .joined)
    (hres : s'.results = s.results) (hrep : s'.reports = s.reports) (htot : s'.total = s.total) :
    Tracks probes errands (events ++ [event]) s' where
  length := by rw [hs, List.length_set, t.length]
  tasks j stage hj := t.tasks_step event h hr j stage (hs ▸ hj)
  joins := by
    obtain ⟨order, hnd, hmem, hresults⟩ := t.joins
    refine ⟨order, hnd, fun j => ?_, hres.trans hresults⟩
    rw [hmem, hs, Lists.getElem?_set_of_some h]
    split
    · rename_i he
      simp [he, h, ho, hn]
    · rfl
  reports := by rw [hrep, hres, t.reports]
  total := by rw [htot, t.total]

end

theorem Tracks.step {probes : Nat → Prober} {errands : List (Errand α)} {s s' : State α}
    (t : Tracks probes errands events s) (h : Step s event s')
    (ha : event.IsBy probes) : Tracks probes errands (events ++ [event]) s' := by
  cases h with
  | @start i errand hi _ =>
    refine t.goOn (.start i) hi (fun e hr => ?_) rfl nofun nofun rfl rfl rfl
    simpa [asked_append, Event.callOf?] using hr.start
  | @answer i call next r hi =>
    refine t.goOn (.answer i call r) hi (fun e hr => ?_) rfl nofun nofun rfl rfl rfl
    have hcall : r = probes i call := ha
    simpa [asked_append, Event.callOf?, Event.task, hcall] using hr.answer
  | @finish i a hi =>
    refine t.goOn (.finish i) hi (fun e hr => ?_) rfl nofun nofun rfl rfl rfl
    simpa [asked_append, Event.callOf?] using hr.finish
  | @join i a hi =>
    have htask : ∀ e, Reached (probes i) e (asked i events) (.finished a) →
        Reached (probes i) e (asked i (events ++ [.join i])) .joined := by
      intro e hr
      simpa [asked_append, Event.callOf?] using hr.join.1
    obtain ⟨order, hnd, hmem, hresults⟩ := t.joins
    -- the task was finished until now, so it is no earlier join
    have hi' : i ∉ order := by simp [hmem, hi]
    obtain ⟨errand, he, hr⟩ := t.tasks i _ hi
    refine ⟨?_, t.tasks_step (.join i) hi htask, ⟨order ++ [i], ?_, fun j => ?_, ?_⟩, ?_, t.total⟩
    · simp [t.length]
    · simpa [List.nodup_append] using ⟨hnd, fun j hj hji => hi' (hji ▸ hj)⟩
    · rw [Lists.getElem?_set_of_some hi, List.mem_append, hmem, List.mem_singleton]
      by_cases hj : j = i
      · simp [hj]
      · simp [hj]
    · simp [hresults, he, hr.join.2]
    · simp [t.reports, t.total, List.zipIdx_append]

theorem Tracks.run {probes : Nat → Prober} {limit : Nat} {errands : List (Errand α)} {s : State α}
    (h : Run (.begin limit errands) events s) (ha : AnsweredBy probes events) :
    Tracks probes errands events s := by
  induction h with
  | none => exact .begin probes limit errands
  | more _ step ih => exact (ih ha.init.1).step step ha.init.2

-- ---------------------------------------------------------------------------
-- Batches that are done
-- ---------------------------------------------------------------------------

theorem inTurn_eq (probes : Nat → Prober) (errands : List (Errand α)) :
    inTurn probes errands = (List.range errands.length).filterMap fun i =>
      errands[i]?.map (·.result (probes i)) := by
  have h : (List.range errands.length).map (fun i => errands[i]?.map (·.result (probes i))) =
      (inTurn probes errands).map some := by
    refine List.ext_getElem (by simp [inTurn]) fun i _ hi => ?_
    have hi : i < errands.length := by simpa [inTurn] using hi
    simp [inTurn, hi]
  simpa [List.filterMap_map] using (congrArg (List.filterMap id) h).symm

theorem Tracks.completed {probes : Nat → Prober} {errands : List (Errand α)} {s : State α}
    (t : Tracks probes errands events s) (hf : s.Final) : Completed probes errands events s where
  results := by
    obtain ⟨order, hnd, hmem, hresults⟩ := t.joins
    have hperm : order.Perm (List.range errands.length) := by
      refine (List.perm_ext_iff_of_nodup hnd List.nodup_range).mpr fun i => ?_
      rw [hmem, List.mem_range, ← t.length]
      constructor
      · intro hi
        exact (List.getElem?_eq_some_iff.mp hi).1
      · intro hi
        rw [List.getElem?_eq_getElem hi, hf _ (List.getElem_mem hi)]
    rw [hresults, inTurn_eq]
    exact hperm.filterMap _
  reports := t.reports
  asked i errand he := by
    have hi : i < s.stages.length := t.length ▸ (List.getElem?_eq_some_iff.mp he).1
    have hj : s.stages[i]? = some .joined := by
      rw [List.getElem?_eq_getElem hi, hf _ (List.getElem_mem hi)]
    obtain ⟨errand', he', hr⟩ := t.tasks i _ hj
    obtain rfl : errand' = errand := Option.some.inj (he'.symm.trans he)
    generalize asked i events = before at hr
    cases hr
    rfl

theorem completed_of_run {probes : Nat → Prober} {limit : Nat} {errands : List (Errand α)}
    {s : State α} (h : Run (.begin limit errands) events s) (ha : AnsweredBy probes events)
    (hf : s.Final) : Completed probes errands events s := (Tracks.run h ha).completed hf

end ChannelKeeper.Batch

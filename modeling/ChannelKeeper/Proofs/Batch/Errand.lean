import ChannelKeeper.Batch.Tester

/-!
# Errands

What one task of a batch does: it asks in turn, each question depending on the
answers before it, and then has a result. Who answers, and when, is left open.
Where a prober answers by a fixed rule, the errands of keys and of channels come
to the jobs that the tester makes of them.
-/

namespace ChannelKeeper

def Channel.testResult (c : Channel) (model time : String)
    (decided : Option (Nat × ProbeResult)) : ChannelTestResult where
  channelId := c.id
  channelName := c.name
  channelKind := c.kind
  model := model
  result := (decided.map (·.2)).getD c.noKeyResult
  testTime := time
  keyIndex := if 1 < c.keys.length then decided.map (·.1) else none
  totalKeys := c.keys.length

namespace Batch

inductive Errand (α : Type) where
  | done (result : α)
  | ask (call : ProbeCall) (next : ProbeResult → Errand α)

namespace Errand

variable {α : Type}

def result (probe : Prober) : Errand α → α
  | done a => a
  | ask call next => (next (probe call)).result probe

def calls (probe : Prober) : Errand α → List ProbeCall
  | done _ => []
  | ask call next => call :: (next (probe call)).calls probe

/-- The errand as a job, when the prober answers it. -/
def toJob (probe : Prober) (duration : ProbeCall → Nat) (e : Errand α) : Job α :=
  ⟨(e.calls probe).map fun call => (call, duration call), e.result probe⟩

def ofKey (model : String) (candidate : Candidate) (position : Nat) : Errand KeyTestResult :=
  ask ⟨candidate.key, model, none⟩ fun answer =>
    done ⟨position + 1, candidate.key, candidate.source, model, answer⟩

/-- Tries keys up to the first that works. The last one tried, if any, is at hand
for the case that none does. -/
def tryInTurn (model : String) (baseUrl : Option String) (finish : Option (Nat × ProbeResult) → α)
    (last : Option (Nat × ProbeResult)) : List (String × Nat) → Errand α
  | [] => done (finish last)
  | (key, position) :: rest =>
    ask ⟨key, model, baseUrl⟩ fun answer =>
      if answer.success then done (finish (some (position, answer)))
      else tryInTurn model baseUrl finish (some (position, answer)) rest

def ofChannel (c : Channel) (model time : String) : Errand ChannelTestResult :=
  tryInTurn model c.ownBaseUrl (c.testResult model time) none c.targets

-- ---------------------------------------------------------------------------
-- Errands with a fixed rule of answering
-- ---------------------------------------------------------------------------

@[simp] theorem result_ofKey (probe : Prober) (model : String) (candidate : Candidate)
    (position : Nat) :
    (ofKey model candidate position).result probe =
      Tester.keyResult probe model candidate position := rfl

section

variable (probe : Prober) (model : String) (baseUrl : Option String)
  (finish : Option (Nat × ProbeResult) → α)

theorem result_tryInTurn (last : Option (Nat × ProbeResult)) (targets : List (String × Nat)) :
    (tryInTurn model baseUrl finish last targets).result probe =
      finish ((Channel.decide? probe model baseUrl targets).or last) := by
  induction targets generalizing last with
  | nil => rfl
  | cons target rest ih =>
    obtain ⟨key, position⟩ := target
    simp only [tryInTurn, result, Channel.decide?]
    split
    · rfl
    · rw [ih, Option.or_assoc, Option.some_or]

theorem calls_tryInTurn (last : Option (Nat × ProbeResult)) (targets : List (String × Nat)) :
    (tryInTurn model baseUrl finish last targets).calls probe =
      Channel.callsFor probe model baseUrl targets := by
  induction targets generalizing last with
  | nil => rfl
  | cons target rest ih =>
    obtain ⟨key, position⟩ := target
    simp only [tryInTurn, calls, Channel.callsFor]
    split
    · rfl
    · rw [ih]

end

theorem result_ofChannel (probe : Prober) (c : Channel) (model time : String) :
    (ofChannel c model time).result probe = c.test probe model time := by
  rw [ofChannel, result_tryInTurn, Option.or_none]
  rfl

theorem calls_ofChannel (probe : Prober) (c : Channel) (model time : String) :
    (ofChannel c model time).calls probe = c.calls probe model :=
  calls_tryInTurn probe model c.ownBaseUrl _ none c.targets

end Errand

-- ---------------------------------------------------------------------------
-- The errands of a batch
-- ---------------------------------------------------------------------------

namespace Tester

def keyErrands (t : Tester) (candidates : List Candidate) (model : Option String) :
    List (Errand KeyTestResult) :=
  candidates.zipIdx.map fun (candidate, position) => .ofKey (t.keyModel model) candidate position

def channelErrands (t : Tester) (channels : List Channel) (model : Option String) (time : String) :
    List (Errand ChannelTestResult) :=
  channels.map fun c => .ofChannel c (c.resolveModel model t.defaultModel) time

@[simp] theorem length_keyErrands (t : Tester) (candidates : List Candidate)
    (model : Option String) : (t.keyErrands candidates model).length = candidates.length := by
  simp [keyErrands]

theorem keyErrands_getElem? (t : Tester) (candidates : List Candidate) (model : Option String)
    (i : Nat) : (t.keyErrands candidates model)[i]? =
      candidates[i]?.map fun candidate => .ofKey (t.keyModel model) candidate i := by
  simp [keyErrands, Function.comp_def]

theorem keyJobs_eq (t : Tester) (probe : Prober) (duration : ProbeCall → Nat)
    (candidates : List Candidate) (model : Option String) :
    t.keyJobs probe duration candidates model =
      (t.keyErrands candidates model).map (Errand.toJob probe duration) := by
  rw [keyErrands, List.map_map]
  rfl

theorem channelJobs_eq (t : Tester) (probe : Prober) (duration : ProbeCall → Nat)
    (channels : List Channel) (model : Option String) (time : String) :
    t.channelJobs probe duration channels model time =
      (t.channelErrands channels model time).map (Errand.toJob probe duration) := by
  rw [channelErrands, List.map_map, channelJobs]
  refine List.map_congr_left fun c _ => ?_
  rw [Function.comp_apply, Errand.toJob, Errand.calls_ofChannel, Errand.result_ofChannel]

end Tester

end Batch

end ChannelKeeper

import ChannelKeeper.Proofs.Batch.Errand

/-!
# Batches step by step

The errands of a batch are tasks that take their steps in any order: a task takes
a permit, is answered one question after the other, finishes and gives its permit
back, and is joined, when its result is reported. Whichever task can take a step
may be the next to take one, and any answer may come. No task is aborted, and
there may be any number of permits.
-/

namespace ChannelKeeper.Batch

inductive Stage (α : Type) where
  | waiting (errand : Errand α)
  /-- With a permit, and the rest of its errand. -/
  | working (rest : Errand α)
  | finished (result : α)
  | joined

structure Progress (α : Type) where
  done : Nat
  total : Nat
  result : α
deriving DecidableEq, Repr

structure State (α : Type) where
  /-- Permits that no task has. -/
  free : Nat
  /-- The tasks with a permit, once for each. -/
  holders : List Nat
  /-- The stage of each task, by its position in the batch. -/
  stages : List (Stage α)
  total : Nat
  /-- The results joined so far, in their order. -/
  results : List α
  reports : List (Progress α)

inductive Event where
  | start (task : Nat)
  | answer (task : Nat) (call : ProbeCall) (result : ProbeResult)
  | finish (task : Nat)
  | join (task : Nat)
deriving DecidableEq, Repr

variable {α : Type}

inductive Step (s : State α) : Event → State α → Prop where
  | start {i : Nat} {errand : Errand α} : s.stages[i]? = some (.waiting errand) → 0 < s.free →
    Step s (.start i) { s with
      free := s.free - 1
      holders := i :: s.holders
      stages := s.stages.set i (.working errand) }
  | answer {i : Nat} {call : ProbeCall} {next : ProbeResult → Errand α} {r : ProbeResult} :
    s.stages[i]? = some (.working (.ask call next)) →
    Step s (.answer i call r) { s with stages := s.stages.set i (.working (next r)) }
  | finish {i : Nat} {a : α} : s.stages[i]? = some (.working (.done a)) →
    Step s (.finish i) { s with
      free := s.free + 1
      holders := s.holders.erase i
      stages := s.stages.set i (.finished a) }
  | join {i : Nat} {a : α} : s.stages[i]? = some (.finished a) →
    Step s (.join i) { s with
      stages := s.stages.set i .joined
      results := s.results ++ [a]
      reports := s.reports ++ [⟨s.results.length + 1, s.total, a⟩] }

inductive Run (first : State α) : List Event → State α → Prop where
  | none : Run first [] first
  | more : Run first events s → Step s event s' → Run first (events ++ [event]) s'

namespace State

def begin (limit : Nat) (errands : List (Errand α)) : State α :=
  ⟨limit, [], errands.map .waiting, errands.length, [], []⟩

def Final (s : State α) : Prop := ∀ stage ∈ s.stages, stage = .joined

end State

namespace Tester

def keyBatch (t : Tester) (candidates : List Candidate) (model : Option String) :
    State KeyTestResult :=
  .begin t.workers (t.keyErrands candidates model)

def channelBatch (t : Tester) (channels : List Channel) (model : Option String) (time : String) :
    State ChannelTestResult :=
  .begin t.workers (t.channelErrands channels model time)

end Tester

-- ---------------------------------------------------------------------------
-- What every step keeps
-- ---------------------------------------------------------------------------

theorem Run.trans (h : Run s₁ events s₂) (h' : Run s₂ events' s₃) :
    Run s₁ (events ++ events') s₃ := by
  induction h' with
  | none => simpa using h
  | more _ step ih => simpa using ih.more step

end ChannelKeeper.Batch

import ChannelKeeper.Probe.Testing

/-!
# Running jobs side by side

A job is a row of requests, made one after the other and each taking its time,
and a result that is there when the last one is answered. Jobs start in order
whenever one of a number of places is free and keep their place to the end. The
schedule is a function of the durations; which result comes out of which job is
no matter of the schedule.
-/

namespace ChannelKeeper.Batch

structure Job (α : Type) where
  /-- Requests with the time each takes. -/
  calls : List (ProbeCall × Nat)
  result : α

/-- A job whose request is answered at `wake`. -/
structure Running (α : Type) where
  wake : Nat
  calls : List (ProbeCall × Nat)
  result : α

structure Schedule (α : Type) where
  now : Nat := 0
  waiting : List (Job α)
  running : List (Running α) := []
  /-- Results with the time of their completion, the latest first. -/
  finished : List (Nat × α) := []
  /-- Requests with the time of their start, the latest first. -/
  started : List (ProbeCall × Nat) := []
  /-- Most requests that were open at once. -/
  peak : Nat := 0

namespace Schedule

variable {α : Type}

/-- Makes the requests of a job up to one that takes time, or finishes the job. -/
def proceed (result : α) : List (ProbeCall × Nat) → Schedule α → Schedule α
  | [], s => { s with finished := (s.now, result) :: s.finished }
  | (call, duration) :: rest, s =>
    let s := { s with
      started := (call, s.now) :: s.started
      peak := max s.peak (s.running.length + 1) }
    if duration = 0 then proceed result rest s
    else { s with running := s.running ++ [⟨s.now + duration, rest, result⟩] }

/-- Fills the free places with waiting jobs, in order. -/
def fill (workers : Nat) : List (Job α) → Schedule α → Schedule α
  | [], s => { s with waiting := [] }
  | job :: rest, s =>
    if s.running.length < workers then fill workers rest (proceed job.result job.calls s)
    else { s with waiting := job :: rest }

/-- The running job that is answered first, and the others. -/
def nextAnswer : List (Running α) → Option (Running α × List (Running α))
  | [] => none
  | r :: rest =>
    match nextAnswer rest with
    | none => some (r, [])
    | some (first, others) =>
      if first.wake < r.wake then some (first, r :: others) else some (r, rest)

/-- Runs to the end; the fuel bounds the number of answers. -/
def run (workers : Nat) : Nat → Schedule α → Schedule α
  | 0, s => s
  | fuel + 1, s =>
    let s := fill workers s.waiting s
    match nextAnswer s.running with
    | none => s
    | some (r, others) =>
      run workers fuel (proceed r.result r.calls { s with now := r.wake, running := others })

def ofJobs (workers : Nat) (jobs : List (Job α)) : Schedule α :=
  let answers := jobs.foldl (fun n job => n + job.calls.length) 0
  run workers (answers + 1) { waiting := jobs }

/-- Results with their times, in order of completion. -/
def completions (s : Schedule α) : List (Nat × α) := s.finished.reverse

def requests (s : Schedule α) : List (ProbeCall × Nat) := s.started.reverse

end Schedule

end ChannelKeeper.Batch

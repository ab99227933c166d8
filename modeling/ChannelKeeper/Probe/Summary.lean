import ChannelKeeper.Probe.Result

/-!
# Summaries of a batch

A summary counts the passing and failing records of a batch, lists every failure
in order, and ranks the passing ones by response time. Records of equal time keep
their order among the fastest and stand in reverse among the slowest, which are
named only when more than three records pass.
-/

namespace ChannelKeeper

open Json

/-- What a summary looks at in a record. -/
structure TestRecord where
  label : String
  result : ProbeResult
deriving DecidableEq, Repr

def ChannelTestResult.toRecord (r : ChannelTestResult) : TestRecord :=
  ⟨"[" ++ toString r.channelId ++ "] " ++ r.channelName, r.result⟩

def KeyTestResult.toRecord (r : KeyTestResult) : TestRecord :=
  ⟨"key #" ++ toString r.index ++ " (" ++ Credential.preview r.key ++ ")", r.result⟩

structure TimedEntry where
  label : String
  milliseconds : Nat
deriving DecidableEq, Repr

structure FailedEntry where
  label : String
  message : String
deriving DecidableEq, Repr

structure TestSummary where
  total : Nat
  successful : Nat
  failed : Nat
  /-- In percent. -/
  successRate : Binary64
  averageMilliseconds : Option Binary64
  failures : List FailedEntry
  fastest : List TimedEntry
  slowest : List TimedEntry
deriving DecidableEq

namespace TestSummary

def rankingSize : Nat := 3

def passedEntries (records : List TestRecord) : List TimedEntry :=
  (records.filter (·.result.success)).map fun r => ⟨r.label, r.result.milliseconds⟩

def failedEntries (records : List TestRecord) : List FailedEntry :=
  (records.filter (!·.result.success)).map fun r => ⟨r.label, r.result.message⟩

/-- Entries by time; those of equal time keep their order. -/
def ranked (entries : List TimedEntry) : List TimedEntry :=
  entries.mergeSort fun a b => a.milliseconds ≤ b.milliseconds

def percentage (part total : Nat) : Binary64 :=
  if total = 0 then .zero else ((Binary64.ofNat part).div (.ofNat total)).mul (.ofNat 100)

/-- The mean of the times, summed one by one. -/
def average (entries : List TimedEntry) : Option Binary64 :=
  if entries.isEmpty then none
  else
    let sum := entries.foldl (fun s e => s.add (.ofNat e.milliseconds)) Binary64.zero
    some (sum.div (.ofNat entries.length))

def ofRecords (records : List TestRecord) : TestSummary :=
  let passed := passedEntries records
  let ranking := ranked passed
  { total := records.length
    successful := passed.length
    failed := records.length - passed.length
    successRate := percentage passed.length records.length
    averageMilliseconds := average passed
    failures := failedEntries records
    fastest := ranking.take rankingSize
    slowest := if rankingSize < ranking.length then ranking.reverse.take rankingSize else [] }

def allPassed (s : TestSummary) : Bool := s.failed == 0

def toJson (s : TestSummary) : Value :=
  let timed (e : TimedEntry) : Value :=
    .object [("label", .string e.label), ("response_time_ms", .nat e.milliseconds)]
  let failure (e : FailedEntry) : Value :=
    .object [("label", .string e.label), ("message", .string e.message)]
  .object [
    ("total", .nat s.total),
    ("successful", .nat s.successful),
    ("failed", .nat s.failed),
    ("success_rate", .float s.successRate),
    ("average_response_ms", .optional .float s.averageMilliseconds),
    ("failures", .array (s.failures.map failure)),
    ("fastest", .array (s.fastest.map timed)),
    ("slowest", .array (s.slowest.map timed))]

end TestSummary

end ChannelKeeper

import ChannelKeeper.Batch.Schedule

/-!
# Batches of channels and of keys

A tester has at least one place for work and a default model. Channels are
reported in order of completion. Keys are all tested with one model and without
a base URL of their own; their results come back in the order of the keys.
-/

namespace ChannelKeeper.Batch

/-- A key to test, with the channel it came from when that is known. -/
structure Candidate where
  key : String
  source : Option ExtractedKey
deriving DecidableEq, Repr

namespace Candidate

def bare (key : String) : Candidate := ⟨key, none⟩

def ofExtracted (k : ExtractedKey) : Candidate := ⟨k.apiKey, some k⟩

end Candidate

structure Tester where
  workers : Nat
  defaultModel : String
deriving DecidableEq, Repr

namespace Tester

/-- A number of workers counts as one at least. -/
def new (workers : Nat) (defaultModel : String) : Tester := ⟨max workers 1, defaultModel⟩

/-- The result of the candidate at a position counted from zero. -/
def keyResult (probe : Prober) (model : String) (candidate : Candidate) (position : Nat) :
    KeyTestResult :=
  ⟨position + 1, candidate.key, candidate.source, model, probe ⟨candidate.key, model, none⟩⟩

def keyModel (t : Tester) (model : Option String) : String := model.getD t.defaultModel

def keyJobs (t : Tester) (probe : Prober) (duration : ProbeCall → Nat) (candidates : List Candidate)
    (model : Option String) : List (Job KeyTestResult) :=
  let model := t.keyModel model
  candidates.zipIdx.map fun (candidate, position) =>
    let call : ProbeCall := ⟨candidate.key, model, none⟩
    ⟨[(call, duration call)], keyResult probe model candidate position⟩

def channelJobs (t : Tester) (probe : Prober) (duration : ProbeCall → Nat) (channels : List Channel)
    (model : Option String) (time : String) : List (Job ChannelTestResult) :=
  channels.map fun c =>
    let model := c.resolveModel model t.defaultModel
    ⟨(c.calls probe model).map fun call => (call, duration call), c.test probe model time⟩

def testKeys (t : Tester) (probe : Prober) (duration : ProbeCall → Nat)
    (candidates : List Candidate) (model : Option String) : Schedule KeyTestResult :=
  .ofJobs t.workers (t.keyJobs probe duration candidates model)

def testChannels (t : Tester) (probe : Prober) (duration : ProbeCall → Nat)
    (channels : List Channel) (model : Option String) (time : String) :
    Schedule ChannelTestResult :=
  .ofJobs t.workers (t.channelJobs probe duration channels model time)

def inInputOrder (results : List KeyTestResult) : List KeyTestResult :=
  results.mergeSort fun a b => a.index ≤ b.index

end Tester

end ChannelKeeper.Batch

import ChannelKeeper.Proofs.Batch.Keys
import ChannelKeeper.Proofs.Probe.Summary

/-!
# Batches of channels

Whatever the order of its steps, a batch of channels that is done returns what testing
the channels one after the other returns, each result at the place at which it was
joined and reported. Results carry the time of their end, and any two ends may read any
times; all else, and with it the summary, follows from the prober alone. Which of
several results of equal response time is named in a ranking is not claimed.
-/

namespace ChannelKeeper

def ChannelTestResult.untimed (r : ChannelTestResult) : ChannelTestResult :=
  { r with testTime := "" }

namespace Batch

namespace Tester

/-- The errands of channels when the task at position `i` ends at the time `times i`. -/
def timedErrands (t : Tester) (channels : List Channel) (model : Option String)
    (times : Nat → String) : List (Errand ChannelTestResult) :=
  channels.zipIdx.map fun (c, i) => .ofChannel c (c.resolveModel model t.defaultModel) (times i)

/-- A state in which the batch can be done, with some times and some order of steps. -/
def EndsChannels (t : Tester) (probe : Prober) (channels : List Channel) (model : Option String)
    (s : State ChannelTestResult) : Prop :=
  ∃ times events, Run (.begin t.workers (t.timedErrands channels model times)) events s ∧
    AnsweredBy (fun _ => probe) events ∧ s.Final

def channelsInTurn (t : Tester) (probe : Prober) (channels : List Channel)
    (model : Option String) : List ChannelTestResult :=
  channels.map fun c => c.test probe (c.resolveModel model t.defaultModel) ""

end Tester

/-- A batch returned the expected results in some order, and reported them in that order. -/
structure ChannelsTested (expected : List ChannelTestResult) (s : State ChannelTestResult) :
    Prop where
  returned : (s.results.map ChannelTestResult.untimed).Perm expected
  reported : s.reports = s.results.zipIdx.map fun (r, k) => ⟨k + 1, expected.length, r⟩

def State.summary (s : State ChannelTestResult) : TestSummary :=
  .ofRecords (s.results.map ChannelTestResult.toRecord)

-- ---------------------------------------------------------------------------
-- Channels in turn
-- ---------------------------------------------------------------------------

section

variable (t : Tester) (channels : List Channel) (model : Option String)

theorem timedErrands_const (time : String) :
    t.timedErrands channels model (fun _ => time) = t.channelErrands channels model time := by
  refine List.ext_getElem (by simp [Tester.timedErrands, Tester.channelErrands]) fun i _ _ => ?_
  simp [Tester.timedErrands, Tester.channelErrands]

theorem untimed_inTurn (probe : Prober) (times : Nat → String) :
    (inTurn (fun _ => probe) (t.timedErrands channels model times)).map ChannelTestResult.untimed =
      t.channelsInTurn probe channels model := by
  refine List.ext_getElem (by simp [inTurn, Tester.timedErrands, Tester.channelsInTurn])
    fun i _ _ => ?_
  simp only [inTurn, Tester.timedErrands, Tester.channelsInTurn, List.getElem_map,
    List.getElem_zipIdx, Errand.result_ofChannel]
  rfl

end

-- ---------------------------------------------------------------------------
-- Whole batches
-- ---------------------------------------------------------------------------

section

variable {t : Tester} {probe : Prober} {channels : List Channel} {model : Option String}
  {s s' : State ChannelTestResult}

theorem Tester.EndsChannels.tested (h : t.EndsChannels probe channels model s) :
    ChannelsTested (t.channelsInTurn probe channels model) s := by
  obtain ⟨times, events, hr, ha, hf⟩ := h
  have hc := completed_of_run hr ha hf
  refine ⟨untimed_inTurn t channels model probe times ▸ hc.results.map _, ?_⟩
  simp [hc.reports, Tester.timedErrands, Tester.channelsInTurn]

theorem ChannelsTested.records {expected : List ChannelTestResult} (h : ChannelsTested expected s) :
    (s.results.map ChannelTestResult.toRecord).Perm (expected.map ChannelTestResult.toRecord) := by
  have hr := h.returned.map ChannelTestResult.toRecord
  rwa [List.map_map] at hr

end

/-- Any two ways of running a batch of channels to its end, with a prober that answers each
key, model and base URL by a fixed rule, return the results of testing the channels one
after the other, in one order each, and report them in that order; their summaries
agree. The schedule of the tester, for any times, is one such way. -/
theorem channelBatch_agreement (workers : Nat) (defaultModel : String) (channels : List Channel)
    (model : Option String) (probe : Prober) :
    (∀ s s', (Tester.new workers defaultModel).EndsChannels probe channels model s →
      (Tester.new workers defaultModel).EndsChannels probe channels model s' →
      ChannelsTested ((Tester.new workers defaultModel).channelsInTurn probe channels model) s ∧
      ChannelsTested ((Tester.new workers defaultModel).channelsInTurn probe channels model) s' ∧
      (s.results.map ChannelTestResult.untimed).Perm (s'.results.map ChannelTestResult.untimed) ∧
      s.summary.Agree s'.summary) ∧
    ∀ duration time, ∃ s, (Tester.new workers defaultModel).EndsChannels probe channels model s ∧
      s.results = ((Tester.new workers defaultModel).testChannels probe duration channels model
        time).completions.map (·.2) := by
  refine ⟨fun s s' h h' => ?_, fun duration time => ?_⟩
  · have hs := h.tested
    have hs' := h'.tested
    exact ⟨hs, hs', hs.returned.trans hs'.returned.symm,
      TestSummary.agree_of_perm (hs.records.trans hs'.records.symm)⟩
  · have hw : 0 < (Tester.new workers defaultModel).workers := Nat.le_max_right workers 1
    obtain ⟨s, ⟨events, hr, ha⟩, hf, hs, -⟩ :=
      leads_testChannels _ hw probe duration channels model time
    refine ⟨s, ⟨fun _ => time, events, ?_, ha, hf⟩, hs⟩
    rw [timedErrands_const]
    exact hr

namespace Sample

/-- A channel with two keys of which the second works, and a channel without any. -/
def channels : List Channel := [
  { id := 1, name := "two", key := "b\na" },
  { id := 2, name := "none" }]

def inOrder : List Event := [
  .start 0, .answer 0 ⟨"b", "m", none⟩ (.failed .forbidden "" 3),
  .answer 0 ⟨"a", "m", none⟩ (.valid 7), .finish 0, .start 1, .finish 1, .join 0, .join 1]

/-- The second channel takes the one permit first. -/
def overtaken : List Event := [
  .start 1, .finish 1, .join 1, .start 0, .answer 0 ⟨"b", "m", none⟩ (.failed .forbidden "" 3),
  .answer 0 ⟨"a", "m", none⟩ (.valid 7), .finish 0, .join 0]

theorem ends_inOrder :
    ∃ s, (Tester.new 1 "m").EndsChannels probe channels none s ∧
      s.results.map (·.channelId) = [1, 2] := by
  have hrun : Run (.begin 1 ((Tester.new 1 "m").timedErrands channels none fun _ => "early"))
      inOrder _ :=
    .more (.more (.more (.more (.more (.more (.more (.more .none (.start rfl (by decide)))
      (.answer rfl)) (.answer rfl)) (.finish rfl)) (.start rfl (by decide))) (.finish rfl))
      (.join rfl)) (.join rfl)
  refine ⟨_, ⟨fun _ => "early", inOrder, hrun, by decide, ?_⟩, rfl⟩
  simp [State.Final, State.begin, Tester.timedErrands, channels]

theorem ends_overtaken :
    ∃ s, (Tester.new 1 "m").EndsChannels probe channels none s ∧
      s.results.map (·.channelId) = [2, 1] := by
  have hrun : Run (.begin 1 ((Tester.new 1 "m").timedErrands channels none fun _ => "late"))
      overtaken _ :=
    .more (.more (.more (.more (.more (.more (.more (.more .none (.start rfl (by decide)))
      (.finish rfl)) (.join rfl)) (.start rfl (by decide))) (.answer rfl)) (.answer rfl))
      (.finish rfl)) (.join rfl)
  refine ⟨_, ⟨fun _ => "late", overtaken, hrun, by decide, ?_⟩, rfl⟩
  simp [State.Final, State.begin, Tester.timedErrands, channels]

end Sample

/-- The two ends have their results in different orders. -/
theorem channelBatch_agreement_sample :
    ∃ s s', (Tester.new 1 "m").EndsChannels Sample.probe Sample.channels none s ∧
      (Tester.new 1 "m").EndsChannels Sample.probe Sample.channels none s' ∧
      s.results.map (·.channelId) = [1, 2] ∧ s'.results.map (·.channelId) = [2, 1] ∧
      ChannelsTested
        ((Tester.new 1 "m").channelsInTurn Sample.probe Sample.channels none) s ∧
      ChannelsTested
        ((Tester.new 1 "m").channelsInTurn Sample.probe Sample.channels none) s' ∧
      (s.results.map ChannelTestResult.untimed).Perm (s'.results.map ChannelTestResult.untimed) ∧
      s.summary.Agree s'.summary := by
  obtain ⟨s, hs, hids⟩ := Sample.ends_inOrder
  obtain ⟨s', hs', hids'⟩ := Sample.ends_overtaken
  exact ⟨s, s', hs, hs', hids, hids',
    (channelBatch_agreement 1 "m" Sample.channels none Sample.probe).1 s s' hs hs'⟩

end Batch

end ChannelKeeper

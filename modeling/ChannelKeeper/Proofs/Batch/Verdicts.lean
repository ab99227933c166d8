import ChannelKeeper.Proofs.Batch.Questions
import ChannelKeeper.Proofs.Key.Extraction
import ChannelKeeper.Proofs.Store.KeyTable

/-!
# The verdicts of the two batches

A channel passes the batch of channels exactly when one of its plain keys works at the
base URL of the channel's own, and one of its keys passes the batch of keys exactly when
one works without any base URL. The verdicts are the same for a channel that has no base
URL of its own. For another channel they come from two servers, and nothing ties them.
-/

namespace ChannelKeeper

open Batch (Tester Candidate)

namespace Channel

/-- The prober accepts a plain key of the channel when it asks at this base URL. -/
def HasWorkingKey (c : Channel) (probe : Prober) (model : String) (baseUrl : Option String) :
    Prop :=
  ∃ key ∈ c.plainKeys, (probe ⟨key, model, baseUrl⟩).success = true

instance (c : Channel) (probe : Prober) (model : String) (baseUrl : Option String) :
    Decidable (c.HasWorkingKey probe model baseUrl) :=
  inferInstanceAs (Decidable (∃ key ∈ c.plainKeys, _))

-- ---------------------------------------------------------------------------
-- One channel
-- ---------------------------------------------------------------------------

theorem success_decide? (probe : Prober) (model : String) (baseUrl : Option String)
    (targets : List (String × Nat)) :
    ((decide? probe model baseUrl targets).any (·.2.success)) =
      (targets.map (·.1)).any fun key => (probe ⟨key, model, baseUrl⟩).success := by
  induction targets with
  | nil => rfl
  | cons target rest ih =>
    obtain ⟨key, position⟩ := target
    simp only [decide?, List.map_cons, List.any_cons]
    split
    · rename_i hsuccess
      simp [hsuccess]
    · rename_i hfailed
      rw [← ih]
      cases decide? probe model baseUrl rest <;> simp [hfailed]

theorem success_test_iff (c : Channel) (probe : Prober) (model time : String) :
    (c.test probe model time).result.success = true ↔ c.HasWorkingKey probe model c.ownBaseUrl := by
  have hdecide := success_decide? probe model c.ownBaseUrl c.targets
  rw [keys_targets] at hdecide
  rw [HasWorkingKey, ← List.any_eq_true (p := fun key => _), ← hdecide]
  simp only [test]
  cases decide? probe model c.ownBaseUrl c.targets <;> simp [noKeyResult, ProbeResult.failed]

theorem resolveModel_given (c : Channel) (fallback : String) (htrim : Text.trim model = model)
    (hne : model ≠ "") : c.resolveModel (some model) fallback = model := by
  simp [resolveModel, givenModel, htrim, hne, Option.filter]

end Channel

namespace Batch

/-- A state in which the batch of keys can be done, with some order of steps. -/
def Tester.EndsKeys (t : Tester) (probe : Prober) (candidates : List Candidate)
    (model : Option String) (s : State KeyTestResult) : Prop :=
  ∃ events, Run (t.keyBatch candidates model) events s ∧ AnsweredBy (fun _ => probe) events ∧
    s.Final

/-- The batch returns a success for the channel. -/
def State.Passes (s : State ChannelTestResult) (c : Channel) : Prop :=
  ∃ r ∈ s.results, r.channelId = c.id ∧ r.result.success = true

/-- The batch returns a success for a key that was taken from the channel. -/
def State.PassesKeyOf (s : State KeyTestResult) (c : Channel) : Prop :=
  ∃ r ∈ Tester.inInputOrder s.results, (∃ k, r.source = some k ∧ k.channelId = c.id) ∧
    r.result.success = true

-- ---------------------------------------------------------------------------
-- Whole batches
-- ---------------------------------------------------------------------------

section

variable {t : Tester} {probe : Prober} {channels : List Channel} {c : Channel}

theorem passes_iff {model : Option String} {s : State ChannelTestResult}
    (h : t.EndsChannels probe channels model s) (hd : DistinctIds channels) (hc : c ∈ channels) :
    s.Passes c ↔
      c.HasWorkingKey probe (c.resolveModel model t.defaultModel) c.ownBaseUrl := by
  have hperm := h.tested.returned
  rw [← c.success_test_iff probe _ ""]
  constructor
  · rintro ⟨r, hr, hid, hsuccess⟩
    have hmem : r.untimed ∈ t.channelsInTurn probe channels model :=
      hperm.mem_iff.mp (List.mem_map_of_mem hr)
    obtain ⟨d, hd', htest⟩ := List.mem_map.mp hmem
    have hid' : d.id = c.id := (congrArg ChannelTestResult.channelId htest).trans hid
    obtain rfl : d = c := hd.eq_of_id hd' hc hid'
    rw [htest]
    exact hsuccess
  · intro hsuccess
    have hmem : c.test probe (c.resolveModel model t.defaultModel) "" ∈
        s.results.map ChannelTestResult.untimed :=
      hperm.mem_iff.mpr (List.mem_map_of_mem hc)
    obtain ⟨r, hr, htest⟩ := List.mem_map.mp hmem
    refine ⟨r, hr, congrArg ChannelTestResult.channelId htest, ?_⟩
    rw [← htest] at hsuccess
    exact hsuccess

theorem passesKeyOf_iff {model : Option String} {s : State KeyTestResult}
    (h : t.EndsKeys probe ((extractKeys channels).map .ofExtracted) model s)
    (hd : DistinctIds channels) (hc : c ∈ channels) :
    s.PassesKeyOf c ↔ c.HasWorkingKey probe (t.keyModel model) none := by
  obtain ⟨events, hrun, hanswered, hfinal⟩ := h
  have hreturned := (completed_of_run hrun hanswered hfinal).keysTested.returned
  rw [State.PassesKeyOf, hreturned]
  constructor
  · rintro ⟨r, hr, ⟨source, hsource, hid⟩, hsuccess⟩
    obtain ⟨⟨candidate, i⟩, hmem, rfl⟩ := List.mem_map.mp hr
    obtain ⟨k, hk, rfl⟩ := List.mem_map.mp (List.fst_mem_of_mem_zipIdx hmem)
    obtain rfl : k = source := Option.some.inj hsource
    obtain ⟨d, hd', hkd, hplain⟩ := exists_of_mem_extractKeys hk
    obtain rfl : d = c := hd.eq_of_id hd' hc (hkd.symm.trans hid)
    exact ⟨k.apiKey, hplain, hsuccess⟩
  · rintro ⟨key, hplain, hsuccess⟩
    have hk := List.mem_map_of_mem (f := Candidate.ofExtracted) (mem_extractKeys hc hplain)
    obtain ⟨i, hi⟩ := List.getElem?_of_mem hk
    have hmem := List.mk_mem_zipIdx_iff_getElem?.mpr hi
    exact ⟨_, List.mem_map_of_mem hmem, ⟨_, rfl, rfl⟩, hsuccess⟩

end

/-- Whatever the orders of their steps, the batch of channels passes a channel exactly
when one of its plain keys works at its own base URL, and the batch of the keys taken
from the channels passes a key of it exactly when one works without a base URL. So the
two agree on every channel that has no base URL of its own. -/
theorem verdicts_agree_without_base_url (hd : DistinctIds channels)
    (htrim : Text.trim model = model) (hne : model ≠ "") (probe : Prober)
    (workers workers' : Nat) (defaultModel defaultModel' : String)
    (hchannels : (Tester.new workers defaultModel).EndsChannels probe channels (some model) s)
    (hkeys : (Tester.new workers' defaultModel').EndsKeys probe
      ((extractKeys channels).map .ofExtracted) (some model) s') :
    ∀ c ∈ channels,
      (s.Passes c ↔ c.HasWorkingKey probe model c.ownBaseUrl) ∧
      (s'.PassesKeyOf c ↔ c.HasWorkingKey probe model none) ∧
      (c.ownBaseUrl = none → (s.Passes c ↔ s'.PassesKeyOf c)) := by
  intro c hc
  have hpasses := passes_iff hchannels hd hc
  rw [c.resolveModel_given _ htrim hne] at hpasses
  have hpassesKey : s'.PassesKeyOf c ↔ c.HasWorkingKey probe model none :=
    passesKeyOf_iff hkeys hd hc
  refine ⟨hpasses, hpassesKey, fun hnone => ?_⟩
  rw [hpasses, hpassesKey, hnone]

namespace Sample

def servers : List Channel := [
  { id := 1, name := "shared", key := "{}\na" },
  { id := 2, name := "own", key := "a", baseUrl := some "http://own" }]

def elsewhere : Prober := fun call =>
  if call.baseUrl = none then .valid 7 else .failed .forbidden "" 3

/-- The second channel is done first. -/
def serverEvents : List Event := [
  .start 0, .start 1, .answer 1 ⟨"a", "m", some "http://own"⟩ (.failed .forbidden "" 3), .finish 1,
  .join 1, .answer 0 ⟨"a", "m", none⟩ (.valid 7), .finish 0, .join 0]

theorem ends_servers :
    ∃ s, (Tester.new 2 "d").EndsChannels elsewhere servers (some "m") s ∧
      s.results.map (·.channelId) = [2, 1] := by
  have hrun : Run (.begin 2 ((Tester.new 2 "d").timedErrands servers (some "m") fun _ => "now"))
      serverEvents _ :=
    .more (.more (.more (.more (.more (.more (.more (.more .none (.start rfl (by decide)))
      (.start rfl (by decide))) (.answer rfl)) (.finish rfl)) (.join rfl)) (.answer rfl))
      (.finish rfl)) (.join rfl)
  refine ⟨_, ⟨fun _ => "now", serverEvents, hrun, by decide, ?_⟩, rfl⟩
  simp [State.Final, State.begin, Tester.timedErrands, servers]

def serverKeyEvents : List Event := [
  .start 0, .answer 0 ⟨"a", "m", none⟩ (.valid 7), .finish 0, .join 0,
  .start 1, .answer 1 ⟨"a", "m", none⟩ (.valid 7), .finish 1, .join 1]

def serverKeys : List Candidate := [
  ⟨"a", some ⟨1, "shared", 0, 0, "a", ""⟩⟩, ⟨"a", some ⟨2, "own", 0, 0, "a", ""⟩⟩]

theorem taken_servers : (extractKeys servers).map .ofExtracted = serverKeys := by decide

theorem endsKeys_servers :
    ∃ s, (Tester.new 1 "d").EndsKeys elsewhere ((extractKeys servers).map .ofExtracted) (some "m")
      s := by
  have hrun : Run ((Tester.new 1 "d").keyBatch serverKeys (some "m")) serverKeyEvents _ :=
    .more (.more (.more (.more (.more (.more (.more (.more .none (.start rfl (by decide)))
      (.answer rfl)) (.finish rfl)) (.join rfl)) (.start rfl (by decide))) (.answer rfl))
      (.finish rfl)) (.join rfl)
  rw [taken_servers]
  refine ⟨_, serverKeyEvents, hrun, by decide, ?_⟩
  simp [State.Final, State.begin, Tester.keyBatch, Tester.keyErrands, serverKeys]

end Sample

/-- The first channel passes both batches; the second passes only where its own base URL
is not asked. -/
theorem verdicts_agree_without_base_url_sample :
    DistinctIds Sample.servers ∧ ∃ s s',
      (Tester.new 2 "d").EndsChannels Sample.elsewhere Sample.servers (some "m") s ∧
      (Tester.new 1 "d").EndsKeys Sample.elsewhere ((extractKeys Sample.servers).map .ofExtracted)
        (some "m") s' ∧
      ∀ c ∈ Sample.servers,
        (s.Passes c ↔ c.HasWorkingKey Sample.elsewhere "m" c.ownBaseUrl) ∧
        (s'.PassesKeyOf c ↔ c.HasWorkingKey Sample.elsewhere "m" none) ∧
        (c.ownBaseUrl = none → (s.Passes c ↔ s'.PassesKeyOf c)) := by
  have hd : DistinctIds Sample.servers := by decide
  obtain ⟨s, hs, -⟩ := Sample.ends_servers
  obtain ⟨s', hs'⟩ := Sample.endsKeys_servers
  exact ⟨hd, s, s', hs, hs', verdicts_agree_without_base_url hd (by decide) (by decide)
    Sample.elsewhere 2 1 "d" "d" hs hs'⟩

/-- A channel fails the batch of channels though its only key passes the batch of keys:
the base URL of the channel is not known to the second. -/
theorem own_base_url_unasked :
    ∃ s s', (Tester.new 2 "d").EndsChannels Sample.elsewhere Sample.servers (some "m") s ∧
      (Tester.new 1 "d").EndsKeys Sample.elsewhere ((extractKeys Sample.servers).map .ofExtracted)
        (some "m") s' ∧
      ∃ c ∈ Sample.servers, ¬ (s.Passes c ↔ s'.PassesKeyOf c) := by
  have hd : DistinctIds Sample.servers := by decide
  obtain ⟨s, hs, -⟩ := Sample.ends_servers
  obtain ⟨s', hs'⟩ := Sample.endsKeys_servers
  refine ⟨s, s', hs, hs', ⟨_, List.mem_cons_of_mem _ (List.mem_singleton_self _), ?_⟩⟩
  rw [passes_iff hs hd (by simp [Sample.servers]), passesKeyOf_iff hs' hd (by simp [Sample.servers])]
  decide

end Batch

end ChannelKeeper

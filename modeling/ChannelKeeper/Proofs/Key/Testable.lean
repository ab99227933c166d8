import ChannelKeeper.Files.Memory
import ChannelKeeper.Proofs.Batch.Questions
import ChannelKeeper.Proofs.Command.KeyTests
import ChannelKeeper.Proofs.Key.Extraction
import ChannelKeeper.Store.Memory
import ChannelKeeper.World

/-!
# Which keys are asked about

The batches of both commands ask about plain keys alone, without blanks at their ends,
as far as the keys come from channels. The lines of a file are not looked at in this way:
each that is neither blank nor a comment is asked about, and a structured credential is
no exception. The check of a single key is not a batch and not looked at.
-/

namespace ChannelKeeper

open Batch (Candidate State Tester)

/-- A plain key without blanks at its ends, and not the empty one. -/
structure Credential.IsTestable (key : String) : Prop where
  plain : isPlain key = true
  ne_empty : key ≠ ""
  trimmed : Text.trim key = key

theorem Channel.isTestable_of_mem_plainKeys {c : Channel} {key : String} (h : key ∈ c.plainKeys) :
    Credential.IsTestable key := by
  obtain ⟨hkey, hplain⟩ := List.mem_filter.mp h
  obtain ⟨htrimmed, hne, -⟩ := Credential.isEntry_of_mem_entries hkey
  exact ⟨hplain, hne, htrimmed⟩

theorem KeyList.mem_parse (h : key ∈ parse content) :
    key ≠ "" ∧ Text.trim key = key ∧
      (Credential.IsTestable key ↔ Credential.isPlain key = true) := by
  obtain ⟨hline, hkept⟩ := List.mem_filter.mp h
  obtain ⟨line, -, rfl⟩ := List.mem_map.mp hline
  simp only [ne_eq, decide_eq_true_eq] at hkept
  have htrimmed := Text.trim_trim line
  exact ⟨hkept.1, htrimmed, (·.plain), fun hplain => ⟨hplain, hkept.1, htrimmed⟩⟩

namespace Desk

variable {σ : Type}

def channelBatch (d : Desk σ) (o : ChannelTestOptions) (channels : List Channel)
    (times : Nat → String) : State ChannelTestResult :=
  let tester := d.tester o.batch.workers
  .begin tester.workers (tester.timedErrands channels o.batch.model times)

def keyBatch (d : Desk σ) (o : KeyTestOptions) (keys : List Candidate) : State KeyTestResult :=
  (d.tester o.batch.workers).keyBatch keys o.batch.model

-- ---------------------------------------------------------------------------
-- What the commands ask
-- ---------------------------------------------------------------------------

variable {d : Desk σ} {o : KeyTestOptions} {keys : List Candidate}

theorem mayAsk_channelBatch {o : ChannelTestOptions}
    (h : (d.channelBatch o channels times).MayAsk call) : Credential.IsTestable call.key := by
  obtain ⟨c, -, key, hkey, rfl⟩ :=
    (Tester.mayAsk_timedErrands_iff (d.tester_workers_pos o.batch.workers)).mp h
  exact Channel.isTestable_of_mem_plainKeys hkey

theorem mayAsk_keyBatch_iff : (d.keyBatch o keys).MayAsk call ↔
    ∃ candidate ∈ keys,
      call = ⟨candidate.key, (d.tester o.batch.workers).keyModel o.batch.model, none⟩ :=
  Tester.mayAsk_keyBatch_iff (d.tester_workers_pos _)

theorem mayAsk_keyBatch_bare {listed : List String} :
    (d.keyBatch o (listed.map .bare)).MayAsk call ↔
      ∃ key ∈ listed, call = ⟨key, (d.tester o.batch.workers).keyModel o.batch.model, none⟩ := by
  rw [mayAsk_keyBatch_iff]
  simp [Candidate.bare]

theorem mayAsk_of_requested_channels {o : ChannelTestOptions}
    (h : request ∈ ((d.tester o.batch.workers).testChannels d.prober d.duration channels
      o.batch.model time).requests) :
    (d.channelBatch o channels fun _ => time).MayAsk request.1 := by
  rw [Tester.testChannels, Tester.channelJobs_eq] at h
  rw [channelBatch, Batch.timedErrands_const]
  exact Batch.mayAsk_of_mem_requests _ _ _ (d.tester_workers_pos _) h

theorem mayAsk_of_requested_keys
    (h : request ∈ ((d.tester o.batch.workers).testKeys d.prober d.duration keys
      o.batch.model).requests) :
    (d.keyBatch o keys).MayAsk request.1 := by
  rw [Tester.testKeys, Tester.keyJobs_eq] at h
  exact Batch.mayAsk_of_mem_requests _ _ _ (d.tester_workers_pos _) h

/-- Whatever the rows, the answers and the order of the steps, the test of channels asks
about testable keys alone, and so does that of the keys of channels. The test of a file
asks about keys without blanks at their ends, and about testable ones alone exactly if no
line of the list is a structured credential.

The schedules by which the commands make their requests ask nothing else. -/
theorem only_testable_keys_asked (d : Desk σ) :
    (∀ o channels times call, (d.channelBatch o channels times).MayAsk call →
      Credential.IsTestable call.key) ∧
    (∀ o c keys c', (d.candidates o).perform c = (.ok keys, c') →
      (o.file = none → ∀ call, (d.keyBatch o keys).MayAsk call →
        Credential.IsTestable call.key) ∧
      ∀ path, o.file = some path →
        ∃ text, ((d.workspace.files.read path).perform c.state).1 = .ok text ∧
          (∀ call, (d.keyBatch o keys).MayAsk call →
            call.key ≠ "" ∧ Text.trim call.key = call.key) ∧
          ((∀ call, (d.keyBatch o keys).MayAsk call → Credential.IsTestable call.key) ↔
            ∀ line ∈ KeyList.parse text, Credential.isPlain line = true)) ∧
    (∀ o channels time, ∀ request ∈ ((d.tester o.batch.workers).testChannels d.prober d.duration
        channels o.batch.model time).requests,
      (d.channelBatch o channels fun _ => time).MayAsk request.1) ∧
    ∀ o keys, ∀ request ∈ ((d.tester o.batch.workers).testKeys d.prober d.duration keys
        o.batch.model).requests,
      (d.keyBatch o keys).MayAsk request.1 := by
  refine ⟨fun o channels times call => mayAsk_channelBatch, fun o c keys c' h => ⟨?_, ?_⟩,
    fun o channels time request => mayAsk_of_requested_channels,
    fun o keys request => mayAsk_of_requested_keys⟩
  · intro hfile call hasked
    obtain ⟨taken, s, hextract, rfl⟩ := candidates_of_channels hfile h
    obtain ⟨channels, -, rfl⟩ := Workspace.extractKeys_eq_ok hextract
    obtain ⟨candidate, hmem, rfl⟩ := mayAsk_keyBatch_iff.mp hasked
    obtain ⟨k, hk, rfl⟩ := List.mem_map.mp hmem
    obtain ⟨c, -, -, hplain⟩ := exists_of_mem_extractKeys hk
    exact Channel.isTestable_of_mem_plainKeys hplain
  · intro path hfile
    obtain ⟨text, htext, rfl⟩ := candidates_of_file hfile h
    refine ⟨text, htext, fun call hasked => ?_, fun hall line hline => ?_, ?_⟩
    · obtain ⟨key, hkey, rfl⟩ := mayAsk_keyBatch_bare.mp hasked
      obtain ⟨hne, htrimmed, -⟩ := KeyList.mem_parse hkey
      exact ⟨hne, htrimmed⟩
    · exact (hall _ (mayAsk_keyBatch_bare.mpr ⟨line, hline, rfl⟩)).plain
    · intro hplain call hasked
      obtain ⟨key, hkey, rfl⟩ := mayAsk_keyBatch_bare.mp hasked
      exact (KeyList.mem_parse hkey).2.2.mpr (hplain key hkey)

end Desk

namespace Sample

/-- A desk over a channel with one key of each sort, and over two files. -/
def askingDesk : Desk (World MemoryStore MemoryFiles) where
  workspace := World.workspace MemoryStore.channelStore (MemoryStore.tableStore '"')
    MemoryFiles.store (.ofSeconds 0) "backups"
  settings := {}
  backend := .sqlite
  prober := fun _ => .failed .connection "" 0
  duration := fun _ => 0
  operator := .absent
  asJson := false

def askingConsole : Console (World MemoryStore MemoryFiles) where
  state := {
    data := { channels := .ofRows [{ id := 1, kind := 24, key := "[]\n a " }] }
    files := { files := [⟨"plain.txt", .text "# mine\n b \n", none⟩,
      ⟨"mixed.txt", .text "\x7b\"sa\":1\x7d\n", none⟩] } }

def askingOptions (file : Option String) : KeyTestOptions where
  file := file
  choice := {}
  exportsFirst := false
  batch := ⟨none, none⟩
  report := none
  removesRejected := false
  agreed := false

/-- The plain key of the channel. -/
def storedKey : Candidate := ⟨"a", some ⟨1, "", 24, 0, "a", ""⟩⟩

theorem candidates_channels : ∃ c',
    (askingDesk.candidates (askingOptions none)).perform askingConsole =
      (.ok [storedKey], c') := by
  have hkeys : ((askingDesk.candidates (askingOptions none)).perform askingConsole).1.toOption =
      some [storedKey] := by decide +kernel
  rcases hrun : (askingDesk.candidates (askingOptions none)).perform askingConsole with ⟨e | keys, c'⟩
  · rw [hrun] at hkeys
    cases hkeys
  · rw [hrun] at hkeys
    obtain rfl := Option.some.inj hkeys
    exact ⟨c', rfl⟩

theorem candidates_plain : ∃ c',
    (askingDesk.candidates (askingOptions (some "plain.txt"))).perform askingConsole =
      (.ok [⟨"b", none⟩], c') := ⟨_, rfl⟩

theorem candidates_mixed : ∃ c',
    (askingDesk.candidates (askingOptions (some "mixed.txt"))).perform askingConsole =
      (.ok [⟨"\x7b\"sa\":1\x7d", none⟩], c') := ⟨_, rfl⟩

end Sample

/-- A channel with a structured credential beside its key, and a file with a comment. -/
theorem only_testable_keys_asked_sample :
    (∃ c', (Sample.askingDesk.candidates (Sample.askingOptions none)).perform
        Sample.askingConsole = (.ok [Sample.storedKey], c') ∧
      ∀ call, (Sample.askingDesk.keyBatch (Sample.askingOptions none)
        [Sample.storedKey]).MayAsk call → Credential.IsTestable call.key) ∧
    ∃ c', (Sample.askingDesk.candidates (Sample.askingOptions (some "plain.txt"))).perform
        Sample.askingConsole = (.ok [⟨"b", none⟩], c') ∧
      ∃ text, ((Sample.askingDesk.workspace.files.read "plain.txt").perform
          Sample.askingConsole.state).1 = .ok text ∧
        ((∀ call, (Sample.askingDesk.keyBatch (Sample.askingOptions (some "plain.txt"))
            [⟨"b", none⟩]).MayAsk call → Credential.IsTestable call.key) ↔
          ∀ line ∈ KeyList.parse text, Credential.isPlain line = true) := by
  obtain ⟨-, hkeys, -, -⟩ := Desk.only_testable_keys_asked Sample.askingDesk
  obtain ⟨c₁, h₁⟩ := Sample.candidates_channels
  obtain ⟨c₂, h₂⟩ := Sample.candidates_plain
  obtain ⟨text, htext, -, hiff⟩ := (hkeys _ _ _ _ h₂).2 "plain.txt" rfl
  exact ⟨⟨c₁, h₁, (hkeys _ _ _ _ h₁).1 rfl⟩, c₂, h₂, text, htext, hiff⟩

/-- A structured credential that is a line of a file is asked about. -/
theorem structured_line_asked : ∃ c' keys call,
    (Sample.askingDesk.candidates (Sample.askingOptions (some "mixed.txt"))).perform
      Sample.askingConsole = (.ok keys, c') ∧
    (Sample.askingDesk.keyBatch (Sample.askingOptions (some "mixed.txt")) keys).MayAsk call ∧
    Credential.isStructured call.key = true := by
  obtain ⟨c', h⟩ := Sample.candidates_mixed
  exact ⟨c', _, _, h, Desk.mayAsk_keyBatch_iff.mpr ⟨_, List.mem_singleton_self _, rfl⟩, by decide⟩

end ChannelKeeper

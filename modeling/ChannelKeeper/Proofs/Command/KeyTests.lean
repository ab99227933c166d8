import ChannelKeeper.Command.Keys
import ChannelKeeper.Proofs.Batch.Keys
import ChannelKeeper.Proofs.Command.Console
import ChannelKeeper.Proofs.Workspace

/-!
# Tests of keys

The parts of the test of keys that come before any removal: where its keys come from,
that every result keeps the source of its key, and that nothing but files is written.
What the results say of the keys is not looked at.
-/

namespace ChannelKeeper.Desk

variable {σ γ : Type} {d : Desk σ} {o : KeyTestOptions} {c c' : Console σ}
  {keys : List Batch.Candidate} {results : List KeyTestResult}

-- ---------------------------------------------------------------------------
-- Where keys and results come from
-- ---------------------------------------------------------------------------

theorem candidates_of_file (hfile : o.file = some path)
    (h : (d.candidates o).perform c = (.ok keys, c')) :
    ∃ text, ((d.workspace.files.read path).perform c.state).1 = .ok text ∧
      keys = (KeyList.parse text).map .bare := by
  rw [candidates, hfile] at h
  obtain ⟨lines, c₁, hlines, hkeys⟩ := Action.perform_bind_eq_ok.mp h
  obtain ⟨s, hread, -⟩ := Run.perform_during_task_eq_ok.mp hlines
  obtain ⟨text, s₁, htext, hparse⟩ := Action.perform_bind_eq_ok.mp hread
  have hfound := Action.perform_mapError_eq_ok.mp htext
  cases hparse
  cases hkeys
  exact ⟨text, congrArg Prod.fst hfound, rfl⟩

theorem candidates_of_channels (hfile : o.file = none)
    (h : (d.candidates o).perform c = (.ok keys, c')) :
    ∃ taken s, (d.workspace.extractKeys (d.testedFilter o.choice)).perform c.state =
        (.ok taken, s) ∧
      keys = taken.map .ofExtracted := by
  rw [candidates, hfile] at h
  obtain ⟨taken, c₁, htaken, hrest⟩ := Action.perform_bind_eq_ok.mp h
  obtain ⟨_, c₂, -, hkeys⟩ := Action.perform_bind_eq_ok.mp hrest
  obtain ⟨s, hextract, -⟩ := Run.perform_during_task_eq_ok.mp htaken
  cases hkeys
  exact ⟨taken, s, hextract, rfl⟩

theorem source_of_mem_runKeyTests
    (h : (d.runKeyTests o keys).perform c = (.ok results, c')) (hr : r ∈ results) :
    ∃ candidate ∈ keys, r.source = candidate.source := by
  obtain ⟨-, c₁, -, hrest⟩ := Action.perform_bind_eq_ok.mp h
  obtain ⟨-, c₂, -, hresults⟩ := Action.perform_bind_eq_ok.mp hrest
  cases hresults
  rw [Batch.results_testKeys _ (d.tester_workers_pos _)] at hr
  exact Batch.source_of_mem_keysInTurn hr

-- ---------------------------------------------------------------------------
-- What is left alone
-- ---------------------------------------------------------------------------

/-- Where the keys are listed that are going to be tested. -/
def IsListPath (d : Desk σ) (path : String) : Prop :=
  ∃ stamp, d.workspace.clock.Shows stamp ∧ path = "exported_keys_" ++ stamp ++ ".txt"

section

variable {view : σ → γ} (hclock : d.workspace.clock.Keeps view)

include hclock

theorem exportFirst_keeps
    (hwrite : ∀ path content, d.IsListPath path → (d.workspace.files.write path content).Keeps view)
    (keys : List ExtractedKey) : (d.exportFirst keys).Keeps (view ∘ Console.state) := by
  refine .bind_ok (Run.keeps_task hclock.stamp) fun stamp c c' hstamp => ?_
  obtain ⟨s, hshown, -⟩ := Run.perform_work_eq_ok.mp hstamp
  have hpath := hwrite _ (KeyList.renderSimple (keys.map (·.apiKey)))
    ⟨stamp, Clock.shows_of_stamp hshown, rfl⟩
  refine .bind (Run.keeps_task (Workspace.writeFile_keeps hpath)) fun _ => ?_
  exact ((Run.prints_lines _).onlyIf _).keeps _

theorem candidates_keeps (hwrite : ∀ path content, o.exportsFirst = true → d.IsListPath path →
      (d.workspace.files.write path content).Keeps view)
    (hlist : ∀ f, (d.workspace.channels.list f).Keeps view)
    (hread : ∀ path, (d.workspace.files.read path).Keeps view) :
    (d.candidates o).Keeps (view ∘ Console.state) := by
  rw [candidates]
  cases o.file with
  | some path =>
    exact .bind (Run.keeps_during_task (Workspace.readKeyFile_keeps hread path) _) fun _ =>
      .pure _
  | none =>
    refine .bind (Run.keeps_during_task (Workspace.extractKeys_keeps hlist _) _) fun keys => ?_
    refine .bind ?_ fun _ => .pure _
    rw [Run.onlyIf]
    split
    · rename_i hexports
      rw [Bool.and_eq_true] at hexports
      exact exportFirst_keeps hclock (fun path content => hwrite path content hexports.1) keys
    · exact .pure _

theorem saveKeyReport_keeps {path : Option String}
    (hwrite : ∀ content, ∀ p ∈ path, (d.workspace.files.write p content).Keeps view)
    (results : List KeyTestResult) (model : String) :
    (d.saveKeyReport path results model).Keeps (view ∘ Console.state) := by
  cases path with
  | some path =>
    refine .bind (Run.keeps_task hclock.display) fun time => ?_
    exact Run.keeps_during_task (Workspace.writeFile_keeps (hwrite _ path rfl)) _
  | none => exact .pure _

end

theorem runKeyTests_keeps (d : Desk σ) (o : KeyTestOptions) (keys : List Batch.Candidate)
    (view : σ → γ) : (d.runKeyTests o keys).Keeps (view ∘ Console.state) :=
  .bind (((Run.prints_lines _).onlyIf _).keeps _) fun _ =>
    ((Run.prints_lines _).onlyIf _).keeps_return

end ChannelKeeper.Desk

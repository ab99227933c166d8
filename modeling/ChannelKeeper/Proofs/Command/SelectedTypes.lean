import ChannelKeeper.Command.Models
import ChannelKeeper.Files.Memory
import ChannelKeeper.Proofs.Command.KeyTests
import ChannelKeeper.Proofs.Key.Extraction
import ChannelKeeper.Proofs.Key.Plan
import ChannelKeeper.Proofs.Store.AddressedTable
import ChannelKeeper.Proofs.World

/-!
# Changes stay within the selected types

The update of model lists and the removal of rejected keys select channels by type: by
the types of the command line, or by those of the settings. Where there is a type among
them, no row of another type changes, whatever the options, the answers of the provider
and of the operator, and the calls that fail. Without a type the store is asked for rows
of every type; what is changed then is not said.
-/

namespace ChannelKeeper

/-- The id is that of no row of another type. -/
def MeansTypes (types : List Int) (rows : List Channel) (id : Int) : Prop :=
  ∀ b ∈ rows, b.id = id → b.kind ∈ types

-- ---------------------------------------------------------------------------
-- Rows by id and rows by type
-- ---------------------------------------------------------------------------

namespace AddressedTable

variable {σ : Type} {t : AddressedTable σ} {types : List Int} {rows : List Channel} {s : σ}

/-- Of the rows that there were, only those of the types may have changed since. -/
def Within (t : AddressedTable σ) (types : List Int) (rows : List Channel) (s : σ) : Prop :=
  t.isSound s ∧ ChangedWithin (·.kind ∈ types) rows (t.rows s)

theorem preserves_of_changesAt {act : Action σ StoreError Unit} {id : Int}
    (hact : ChangesAt t.rows t.isSound id act) (hid : MeansTypes types rows id) :
    act.Preserves (t.Within types rows) := by
  rintro s ⟨hs, hrows⟩
  obtain ⟨hs', hrows'⟩ := hact s hs
  refine ⟨hs', hrows.trans (hrows'.imp fun c hc hcid => ?_)⟩
  obtain ⟨b, hb, hbid, hkind⟩ := hrows.exists_before hc
  rw [hkind]
  exact hid b hb (hbid.symm.trans hcid)

theorem Within.meansTypes (h : t.Within types rows s) (hids : DistinctIds rows)
    (hne : types ≠ []) {f : ChannelFilter} (hf : f.types = types)
    (hlist : (t.store.list f).perform s = (.ok listed, s')) (hc : c ∈ listed) :
    MeansTypes types rows c.id := by
  subst hf
  obtain ⟨hmem, hkind⟩ := t.list_ok h.1 hlist c hc
  obtain ⟨b, hb, hid, hsame⟩ := h.2.exists_before hmem
  intro other hother hotherId
  obtain rfl : other = b := hids.eq_of_id hother hb (hotherId.trans hid)
  exact hsame ▸ hkind hne

end AddressedTable

-- ---------------------------------------------------------------------------
-- What is planned and carried out
-- ---------------------------------------------------------------------------

section

variable {σ φ : Type} {t : AddressedTable σ} {tables : TableStore σ} {files : FileStore φ}
  {moment : Moment} {directory : String} {types : List Int} {rows : List Channel}
  {s s' : World σ φ} {w : Workspace (World σ φ)}

/-- The rows and what is assumed of them, in a world. -/
def AddressedTable.view (t : AddressedTable σ) (s : World σ φ) : List Channel × Prop :=
  (t.rows s.data, t.isSound s.data)

theorem within_of_keeps {α : Type} {act : Run (World σ φ) α}
    (h : act.Keeps (t.view ∘ Console.state)) :
    act.Preserves ((t.Within types rows ∘ World.data) ∘ Console.state) :=
  h.preserves (p := fun v : List Channel × Prop => v.2 ∧ ChangedWithin (·.kind ∈ types) rows v.1)

theorem list_keeps (hw : w = World.workspace t.store tables files moment directory)
    (f : ChannelFilter) : (w.channels.list f).Keeps t.view :=
  hw ▸ (t.list_keeps f).onPart World.data_set

theorem write_keeps (hw : w = World.workspace t.store tables files moment directory)
    (path content : String) : (w.files.write path content).Keeps t.view :=
  hw ▸ World.onFiles_keeps (files.write path content) fun data => (t.rows data, t.isSound data)

theorem read_keeps (hw : w = World.workspace t.store tables files moment directory)
    (path : String) : (w.files.read path).Keeps t.view :=
  hw ▸ World.onFiles_keeps (files.read path) fun data => (t.rows data, t.isSound data)

theorem clock_keeps (hw : w = World.workspace t.store tables files moment directory) :
    w.clock.Keeps t.view :=
  hw ▸ Clock.keeps_fixed moment _

theorem meansTypes_of_planModels
    (hw : w = World.workspace t.store tables files moment directory) (hids : DistinctIds rows)
    (hne : types ≠ []) (hs : t.Within types rows s.data)
    (h : (w.planModels types target).perform s = (.ok plans, s')) :
    ∀ p ∈ plans, MeansTypes types rows p.channelId := by
  subst hw
  obtain ⟨listed, s₁, hlist, hplans⟩ := Action.perform_bind_eq_ok.mp h
  cases hplans
  obtain ⟨hperform, -⟩ := World.onData_eq_ok.mp (Action.perform_mapError_eq_ok.mp hlist)
  intro p hp
  obtain ⟨c, hc, rfl⟩ := List.mem_map.mp hp
  exact hs.meansTypes hids hne rfl hperform hc

theorem meansTypes_of_extractKeys
    (hw : w = World.workspace t.store tables files moment directory) (hids : DistinctIds rows)
    (hne : types ≠ []) {f : ChannelFilter} (hf : f.types = types)
    (hs : t.Within types rows s.data) (h : (w.extractKeys f).perform s = (.ok keys, s')) :
    ∀ k ∈ keys, MeansTypes types rows k.channelId := by
  subst hw
  obtain ⟨listed, hlist, rfl⟩ := Workspace.extractKeys_eq_ok h
  obtain ⟨hperform, -⟩ := World.onData_eq_ok.mp hlist
  intro k hk
  obtain ⟨c, hc, hid, -⟩ := exists_of_mem_extractKeys hk
  rw [hid]
  exact hs.meansTypes hids hne hf hperform hc

theorem applyModels_within (hw : w = World.workspace t.store tables files moment directory)
    (h : ∀ p ∈ plans, MeansTypes types rows p.channelId) :
    (w.applyModels plans).Preserves (t.Within types rows ∘ World.data) := by
  subst hw
  refine .fold (fun r plan hplan => ?_) _
  rw [Workspace.applyModelPlan]
  split
  · exact .pure _
  · have hupdate := t.preserves_of_changesAt (t.updateModels_changes plan.channelId plan.new)
      (h plan hplan)
    refine .bind (hupdate.onPart World.data_set).attempt fun result => ?_
    cases result <;> exact .pure _

theorem applyPruning_within (hw : w = World.workspace t.store tables files moment directory)
    (h : ∀ p ∈ plans, MeansTypes types rows p.channelId) :
    (w.applyPruning plans).Preserves (t.Within types rows ∘ World.data) := by
  subst hw
  refine .fold (fun r plan hplan => ?_) _
  have hupdate := t.preserves_of_changesAt
    (t.updateKey_changes plan.channelId plan.blob plan.status) (h plan hplan)
  refine .bind (hupdate.onPart World.data_set).attempt fun result => ?_
  cases result <;> exact .pure _

/-- Each is of no channel, or of one whose id means the types. -/
def FromTypes (types : List Int) (rows : List Channel) (sources : List (Option ExtractedKey)) :
    Prop :=
  ∀ source, some source ∈ sources → MeansTypes types rows source.channelId

theorem meansTypes_of_planPruning {results : List KeyTestResult}
    (hresults : FromTypes types rows (results.map (·.source)))
    (h : (w.planPruning results).perform s = (.ok plans, s')) :
    ∀ p ∈ plans, MeansTypes types rows p.channelId := by
  rw [Workspace.planPruning] at h
  split at h
  · cases h
    exact List.forall_mem_nil _
  · obtain ⟨listed, s₁, -, hplans⟩ := Action.perform_bind_eq_ok.mp h
    cases hplans
    intro p hp
    obtain ⟨r, hr, source, hsource, hid⟩ := PrunePlan.exists_source_of_mem_ofResults hp
    rw [← hid]
    exact hresults source (hsource ▸ List.mem_map_of_mem hr)

-- ---------------------------------------------------------------------------
-- The update of model lists
-- ---------------------------------------------------------------------------

variable {d : Desk (World σ φ)}

theorem updateModels_within
    (hd : d.workspace = World.workspace t.store tables files moment directory)
    (hids : DistinctIds rows) {o : ModelUpdateOptions} (hne : d.effectiveTypes o.types ≠ []) :
    (d.updateModels o).Preserves
      ((t.Within (d.effectiveTypes o.types) rows ∘ World.data) ∘ Console.state) := by
  have hplan := Workspace.planModels_keeps (list_keeps hd) (d.effectiveTypes o.types)
    ModelList.current
  refine .bind_ok (within_of_keeps (Run.keeps_during_task hplan _)) fun plans c c' hc hplans => ?_
  obtain ⟨s, hperform, -⟩ := Run.perform_during_task_eq_ok.mp hplans
  have hmeans := meansTypes_of_planModels hd hids hne hc hperform
  split
  · exact (Run.prints_lines _).preserves_return
  · refine .bind (((Run.prints_lines _).onlyIf _).preserves _) fun _ => ?_
    split
    · exact (d.prints_present _ (Run.prints_lines _)).preserves_return
    · refine .bind (within_of_keeps (d.confirm_keeps _ _ _)) fun yes => ?_
      cases yes with
      | true =>
        refine .bind (Run.preserves_task (applyModels_within hd hmeans)) fun report => ?_
        exact (d.prints_present _ (Run.prints_lines _)).preserves_return
      | false => exact (Run.prints_line _).preserves_return

-- ---------------------------------------------------------------------------
-- The removal of rejected keys
-- ---------------------------------------------------------------------------

variable {o : KeyTestOptions}

/-- The candidates are lines of a file, or keys of channels of the types. -/
theorem fromTypes_of_candidates
    (hd : d.workspace = World.workspace t.store tables files moment directory)
    (hids : DistinctIds rows)
    (hne : o.file = none → d.effectiveTypes o.choice.types ≠ []) {c : Console (World σ φ)}
    (hs : t.Within (d.effectiveTypes o.choice.types) rows c.state.data)
    (h : (d.candidates o).perform c = (.ok keys, c')) :
    FromTypes (d.effectiveTypes o.choice.types) rows (keys.map (·.source)) := by
  intro source hsource
  obtain ⟨candidate, hmem, hcandidate⟩ := List.mem_map.mp hsource
  cases hfile : o.file with
  | some path =>
    obtain ⟨text, -, rfl⟩ := Desk.candidates_of_file hfile h
    obtain ⟨line, -, rfl⟩ := List.mem_map.mp hmem
    cases hcandidate
  | none =>
    obtain ⟨taken, s, hextract, rfl⟩ := Desk.candidates_of_channels hfile h
    obtain ⟨k, hk, rfl⟩ := List.mem_map.mp hmem
    cases hcandidate
    exact meansTypes_of_extractKeys hd hids (hne hfile) rfl hs hextract _ hk

theorem fromTypes_of_runKeyTests {keys : List Batch.Candidate}
    (hkeys : FromTypes types rows (keys.map (·.source)))
    (h : (d.runKeyTests o keys).perform c = (.ok results, c')) :
    FromTypes types rows (results.map (·.source)) := by
  intro source hsource
  obtain ⟨r, hr, hsource⟩ := List.mem_map.mp hsource
  obtain ⟨candidate, hmem, hsame⟩ := Desk.source_of_mem_runKeyTests h hr
  exact hkeys source (hsource ▸ hsame ▸ List.mem_map_of_mem hmem)

theorem prune_within (hd : d.workspace = World.workspace t.store tables files moment directory)
    (h : ∀ p ∈ plans, MeansTypes types rows p.channelId) :
    (d.prune plans).Preserves ((t.Within types rows ∘ World.data) ∘ Console.state) := by
  have hsnapshot := Workspace.snapshot_keeps (list_keeps hd .everything) (clock_keeps hd)
    "pre_cleanup_backup" (fun path content _ => write_keeps hd path content) Backup.sourceFull
  refine .bind (.bind (within_of_keeps (Run.keeps_during_task hsnapshot _)) fun file =>
    ((Run.prints_line _).onlyIf _).preserves _) fun _ => ?_
  refine .bind (Run.preserves_task (applyPruning_within hd h)) fun report => ?_
  refine .bind (((Run.prints_lines _).onlyIf _).preserves _) fun _ => ?_
  split
  · exact .throw _
  · exact .pure _

theorem removeRejected_within
    (hd : d.workspace = World.workspace t.store tables files moment directory)
    {results : List KeyTestResult} (hresults : FromTypes types rows (results.map (·.source)))
    (agreed : Bool) : (d.removeRejected results agreed).Preserves
      ((t.Within types rows ∘ World.data) ∘ Console.state) := by
  have hplan := Workspace.planPruning_keeps (list_keeps hd .everything) results
  refine .bind_ok (within_of_keeps (Run.keeps_during_task hplan _)) fun plans c c' _ hplans => ?_
  obtain ⟨s, hperform, -⟩ := Run.perform_during_task_eq_ok.mp hplans
  split
  · exact ((Run.prints_lines _).onlyIf _).preserves_return
  · refine .bind (((Run.prints_lines _).onlyIf _).preserves _) fun _ => ?_
    refine .bind (within_of_keeps (d.confirm_keeps _ _ _)) fun yes => ?_
    cases yes with
    | true => exact prune_within hd (meansTypes_of_planPruning hresults hperform)
    | false => exact (Run.prints_line _).preserves_return

theorem testKeys_within (hd : d.workspace = World.workspace t.store tables files moment directory)
    (hids : DistinctIds rows)
    (hne : o.file = none → d.effectiveTypes o.choice.types ≠ []) :
    (d.testKeys o).Preserves
      ((t.Within (d.effectiveTypes o.choice.types) rows ∘ World.data) ∘ Console.state) := by
  have hcandidates := Desk.candidates_keeps (o := o) (clock_keeps hd)
    (fun path content _ _ => write_keeps hd path content) (list_keeps hd) (read_keeps hd)
  refine .bind_ok (within_of_keeps hcandidates) fun keys c c' hc hkeys => ?_
  have hfrom := fromTypes_of_candidates hd hids hne hc hkeys
  split
  · exact (d.prints_present _ (Run.prints_lines _)).preserves_return
  · refine .bind_ok (within_of_keeps (d.runKeyTests_keeps o keys _)) fun results c₁ c₂ _ h => ?_
    have hfrom := fromTypes_of_runKeyTests hfrom h
    refine .bind (within_of_keeps
      (Desk.saveKeyReport_keeps (clock_keeps hd) (fun content path _ => write_keeps hd path content)
        _ _)) fun _ => ?_
    cases o.removesRejected with
    | true =>
      refine .bind (removeRejected_within hd hfrom _) fun pruning => ?_
      exact (d.prints_present _ (Run.prints_lines _)).preserves_return
    | false =>
      refine .bind (.pure _) fun pruning => ?_
      exact (d.prints_present _ (Run.prints_lines _)).preserves_return

/-- Where types are selected, by the command line or by the settings, an update of model
lists and a test of keys change no row of another type, and no row's id or type. Keys of
a file are of no channel, so their test needs no selection.

Ids are distinct, as they are under a primary key. -/
theorem changes_only_selected_types (t : AddressedTable σ) (d : Desk (World σ φ))
    (hd : d.workspace = World.workspace t.store tables files moment directory)
    (c : Console (World σ φ)) (hs : t.isSound c.state.data)
    (hids : DistinctIds (t.rows c.state.data)) :
    (∀ o : ModelUpdateOptions, d.effectiveTypes o.types ≠ [] →
      ChangedWithin (·.kind ∈ d.effectiveTypes o.types) (t.rows c.state.data)
        (t.rows ((d.updateModels o).perform c).2.state.data)) ∧
    ∀ o : KeyTestOptions, (o.file = none → d.effectiveTypes o.choice.types ≠ []) →
      ChangedWithin (·.kind ∈ d.effectiveTypes o.choice.types) (t.rows c.state.data)
        (t.rows ((d.testKeys o).perform c).2.state.data) :=
  ⟨fun _ hne => (updateModels_within hd hids hne c ⟨hs, .refl _ _⟩).2,
    fun _ hne => (testKeys_within hd hids hne c ⟨hs, .refl _ _⟩).2⟩

end

namespace Sample

/-- Of a type of the default settings. -/
def selectedRow : Channel := { id := 1, name := "a", kind := 24, key := "bad", models := "m" }

def otherRow : Channel := { id := 2, name := "b", kind := 1, key := "bad", models := "m" }

def typedDesk (types : List Int) : Desk (World MemoryStore MemoryFiles) where
  workspace := World.workspace MemoryStore.addressedTable.store (MemoryStore.tableStore '"')
    MemoryFiles.store (.ofSeconds 0) "backups"
  settings := { tester := { types := types } }
  backend := .sqlite
  prober _ := .failed .forbidden "denied" 5
  duration _ := 0
  operator := .absent
  asJson := true

def typedConsole (rows : List Channel) : Console (World MemoryStore MemoryFiles) where
  state := ⟨{ channels := .ofRows rows }, {}⟩

def agreedUpdate : ModelUpdateOptions := ⟨[], false, true⟩

def agreedRemoval : KeyTestOptions where
  file := none
  choice := {}
  exportsFirst := false
  batch := ⟨none, none⟩
  report := none
  removesRejected := true
  agreed := true

def rowsAfter {α : Type} (act : Run (World MemoryStore MemoryFiles) α) (rows : List Channel) :
    List Channel :=
  MemoryStore.addressedTable.rows (act.perform (typedConsole rows)).2.state.data

theorem getElem?_of_changedWithin {a b : Channel} (h : ChangedWithin p [a, b] rows)
    (hb : ¬ p b) : rows[1]? = some b := by
  obtain ⟨_, _, -, hrest, rfl⟩ := List.forall₂_cons_left_iff.mp h
  obtain ⟨_, _, hrow, -, rfl⟩ := List.forall₂_cons_left_iff.mp hrest
  rw [hrow.2.2 hb]
  rfl

end Sample

/-- The row of a selected type gets the new list, and the other stays. -/
theorem changes_only_selected_types_sample :
    ((Sample.rowsAfter ((Sample.typedDesk [24]).updateModels Sample.agreedUpdate)
        [Sample.selectedRow, Sample.otherRow])[1]? = some Sample.otherRow ∧
      (Sample.rowsAfter ((Sample.typedDesk [24]).updateModels Sample.agreedUpdate)
        [Sample.selectedRow, Sample.otherRow]).map (·.models) =
          [Text.join "," ModelList.current, "m"]) ∧
    (Sample.rowsAfter ((Sample.typedDesk [24]).testKeys Sample.agreedRemoval)
      [Sample.selectedRow, Sample.otherRow])[1]? = some Sample.otherRow := by
  obtain ⟨hupdate, hremoval⟩ := changes_only_selected_types MemoryStore.addressedTable
    (Sample.typedDesk [24]) rfl (Sample.typedConsole [Sample.selectedRow, Sample.otherRow]) trivial
    (by decide)
  refine ⟨⟨?_, by decide +kernel⟩, ?_⟩
  · exact Sample.getElem?_of_changedWithin (hupdate Sample.agreedUpdate (by decide)) (by decide)
  · exact Sample.getElem?_of_changedWithin (hremoval Sample.agreedRemoval fun _ => by decide)
      (by decide)

/-- Where neither the command line nor the settings have a type, the update of model lists
changes a row of any. -/
theorem any_type_changed_without_selection : (Sample.typedDesk []).effectiveTypes [] = [] ∧
    ¬ ChangedWithin (·.kind ∈ (Sample.typedDesk []).effectiveTypes []) [Sample.otherRow]
      (Sample.rowsAfter ((Sample.typedDesk []).updateModels Sample.agreedUpdate)
        [Sample.otherRow]) := by
  refine ⟨rfl, fun h => ?_⟩
  obtain ⟨after, _, hrow, -, hrows⟩ := List.forall₂_cons_left_iff.mp h
  have hsame : after = Sample.otherRow := hrow.2.2 (by decide)
  have hmodels : ((Sample.rowsAfter ((Sample.typedDesk []).updateModels Sample.agreedUpdate)
      [Sample.otherRow]).head?.map (·.models)) = some (Text.join "," ModelList.current) := by
    decide +kernel
  rw [hrows, hsame] at hmodels
  exact absurd (Option.some.inj hmodels)
    (show "m" ≠ Text.join "," ModelList.current by decide +kernel)

end ChannelKeeper

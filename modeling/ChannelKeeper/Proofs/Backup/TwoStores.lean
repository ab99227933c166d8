import ChannelKeeper.Proofs.Backup.Additive
import ChannelKeeper.Proofs.Backup.ImportedRows
import ChannelKeeper.Proofs.Store.SteadyTable

/-!
# Imports over two stores

An import of one document over two stores with the same rows gives the same report, in
whatever order the stores keep their rows. In memory this is the order in which they
came, in the embedded database it is that of their ids. The rows are the same in the end
as well, as far as they show what is written to them, if no channel finds another row in
the one store than in the other.
-/

namespace ChannelKeeper

-- ---------------------------------------------------------------------------
-- Imports over one store
-- ---------------------------------------------------------------------------

section

variable {σ : Type} {w : Workspace σ} {s : σ} {todo : List Channel}

theorem importChannel_unfailed (t : SteadyTable σ) (hw : w.channels = t.store)
    (hroom : t.hasRoom s (n + 1)) (updateExisting dryRun : Bool) (r : ImportReport) (c : Channel) :
    ∃ r' s', (w.importChannel updateExisting dryRun r c).perform s = (.ok r', s') ∧
      t.hasRoom s' n ∧ r'.failed = r.failed := by
  have hless := t.room_le hroom (Nat.le_succ n)
  obtain ⟨found, s₁, hfind⟩ := t.findExisting_room c.name c.id hroom
  obtain ⟨rfl, hfound⟩ := t.findExisting_ok c.name c.id (t.sound hroom) hfind
  rw [Workspace.importChannel, Action.perform_attempt_bind, hw, hfind]
  cases found with
  | none =>
    cases dryRun with
    | true => exact ⟨_, _, rfl, hless, rfl⟩
    | false =>
      obtain ⟨given, s', hinsert, hroom'⟩ := t.insert_room c hroom
      refine ⟨r.recordSuccess, s', ?_, hroom', rfl⟩
      show ((t.store.insert c false).attempt >>= _).perform s₁ = _
      rw [Action.perform_attempt_bind, hinsert]
      rfl
  | some row =>
    cases updateExisting with
    | false => exact ⟨_, _, rfl, hless, rfl⟩
    | true =>
      cases dryRun with
      | true => exact ⟨_, _, rfl, hless, rfl⟩
      | false =>
        have hthere : ∃ old ∈ t.rows s₁, old.id = row.id :=
          ⟨row, List.mem_of_find?_eq_some hfound.symm, rfl⟩
        obtain ⟨s', hupdate, hroom'⟩ := t.update_room { c with id := row.id } hless hthere
        refine ⟨r.recordSuccess, s', ?_, hroom', rfl⟩
        show ((t.store.update { c with id := row.id }).attempt >>= _).perform s₁ = _
        rw [Action.perform_attempt_bind, hupdate]
        rfl

theorem importChannel_steady (t : SteadyTable σ) (hw : w.channels = t.store)
    (hroom : t.hasRoom s (n + 1)) (updateExisting dryRun : Bool) (r : ImportReport) (c : Channel) :
    ∃ r' s', (w.importChannel updateExisting dryRun r c).perform s = (.ok r', s') ∧
      t.hasRoom s' n ∧
      ChannelImport t.toFallibleTable updateExisting dryRun r c s r' s' := by
  obtain ⟨r', s', hperform, hroom', hfailed⟩ :=
    importChannel_unfailed t hw hroom updateExisting dryRun r c
  obtain ⟨-, himport⟩ :=
    channelImport_of_perform t.toFallibleTable hw (t.sound hroom) hperform hfailed
  exact ⟨r', s', hperform, hroom', himport⟩

theorem importChannels_steady (t : SteadyTable σ) (hw : w.channels = t.store)
    (hroom : t.hasRoom s todo.length) (updateExisting dryRun : Bool) (r : ImportReport) :
    ∃ r' s', (Action.fold (w.importChannel updateExisting dryRun) r todo).perform s =
        (.ok r', s') ∧ t.hasRoom s' 0 ∧
      ImportRun t.toFallibleTable updateExisting dryRun todo r s r' s' := by
  induction todo generalizing r s with
  | nil => exact ⟨r, s, rfl, hroom, .done⟩
  | cons c rest ih =>
    obtain ⟨r₁, s₁, hstep, hroom₁, himport⟩ :=
      importChannel_steady t hw hroom updateExisting dryRun r c
    obtain ⟨r', s', hrest, hroom', hrun⟩ := ih hroom₁ r₁
    exact ⟨r', s', (Action.perform_fold_cons hstep).trans hrest, hroom',
      .more (t.sound hroom₁) himport hrun⟩

end

-- ---------------------------------------------------------------------------
-- Runs over two stores
-- ---------------------------------------------------------------------------

/-- Rows of the same ids and names, and the same next id. -/
def SameNames (p q : List Channel × Int) : Prop :=
  (p.1.map fun row => (row.id, row.name)).Perm (q.1.map fun row => (row.id, row.name)) ∧ p.2 = q.2

section

variable {σ τ : Type} {t₁ : FallibleTable σ} {t₂ : FallibleTable τ} {s₁ s₁' : σ} {s₂ s₂' : τ}
  {updateExisting dryRun : Bool} {r r₁ r₂ : ImportReport} {c : Channel} {todo : List Channel}
  {p q : List Channel × Int}

theorem SameNames.isKnown_eq (h : SameNames p q) (c : Channel) : isKnown p.1 c = isKnown q.1 c := by
  have hnames (rows : List Channel) : isKnown rows c = (rows.map fun row => (row.id, row.name)).any
      fun name => name.2 == c.name || (0 < c.id && name.1 == c.id) := by
    rw [List.any_map]
    rfl
  rw [hnames, hnames, h.1.any_eq]

/-- What is kept out or added is told from the ids and names alone. -/
theorem SameNames.withImported (h : SameNames p q) {shown shown' : Channel → Channel}
    (hshown : KeepsNames shown) (hshown' : KeepsNames shown') (c : Channel) :
    SameNames (withImported shown false p c) (withImported shown' false q c) := by
  have hknown := h.isKnown_eq c
  rcases withImported_cases shown false p c with ⟨hnew, heq⟩ | ⟨hold, -, heq⟩ | ⟨_, -, hu, -⟩
  · rw [heq, withImported_of_new (hknown.symm.trans hnew)]
    refine ⟨?_, congrArg (· + 1) h.2⟩
    simp only [List.map_append, List.map_cons, List.map_nil, hshown.id, hshown.name, hshown'.id,
      hshown'.name, h.2]
    exact h.1.append_right _
  · rw [heq, withImported_of_known (hknown.symm.trans hold)]
    exact h
  · cases hu

/-- Two imports of one document report the same. With updates every channel is counted
as a success, whatever row it replaces. -/
theorem ImportRun.report_eq (h₁ : ImportRun t₁ updateExisting dryRun todo r s₁ r₁ s₁')
    (h₂ : ImportRun t₂ updateExisting dryRun todo r s₂ r₂ s₂') (hsound₁ : t₁.isSound s₁)
    (hsound₂ : t₂.isSound s₂) (hnames : updateExisting = false →
      SameNames (t₁.rows s₁, t₁.next s₁) (t₂.rows s₂, t₂.next s₂)) : r₁ = r₂ := by
  induction h₁ generalizing s₂ with
  | done =>
    cases h₂
    rfl
  | @more c rest r r' r₁ s₁ s s₁' hsound hstep _ ih =>
    cases h₂ with
    | more hsound' hstep' hrest' =>
      -- The report after a step depends on the row only by whether the channel is known.
      have hreport := hstep.report_eq
      have hreport' := hstep'.report_eq
      cases updateExisting with
      | true =>
        simp only [Bool.not_true, Bool.and_false, Bool.false_eq_true, if_false] at hreport hreport'
        rw [hreport', ← hreport] at hrest'
        exact ih hrest' hsound hsound' nofun
      | false =>
        rw [← (hnames rfl).isKnown_eq c, ← hreport] at hreport'
        subst hreport'
        refine ih hrest' hsound hsound' fun _ => ?_
        cases dryRun with
        | true =>
          rw [hstep.eq_of_dryRun, hstep'.eq_of_dryRun]
          exact hnames rfl
        | false =>
          rw [hstep.rows_eq.1, hstep'.rows_eq.1]
          exact (hnames rfl).withImported (t₁.keepsNames hsound₁) (t₂.keepsNames hsound₂) c

end

theorem imports_steady {σ τ : Type} (t₁ : SteadyTable σ) (t₂ : SteadyTable τ) {w₁ : Workspace σ}
    {w₂ : Workspace τ} {s₁ : σ} {s₂ : τ} (hw₁ : w₁.channels = t₁.store)
    (hw₂ : w₂.channels = t₂.store) (document : Backup) (updateExisting dryRun : Bool)
    (hroom₁ : t₁.hasRoom s₁ document.channels.length)
    (hroom₂ : t₂.hasRoom s₂ document.channels.length)
    (hnames : updateExisting = false →
      SameNames (t₁.rows s₁, t₁.next s₁) (t₂.rows s₂, t₂.next s₂)) :
    ∃ report s₁' s₂',
      (w₁.importBackup document updateExisting dryRun).perform s₁ = (.ok report, s₁') ∧
      (w₂.importBackup document updateExisting dryRun).perform s₂ = (.ok report, s₂') ∧
      t₁.hasRoom s₁' 0 ∧ t₂.hasRoom s₂' 0 ∧
      ImportRun t₁.toFallibleTable updateExisting dryRun document.channels
        { total := document.channels.length, dryRun := dryRun } s₁ report s₁' ∧
      ImportRun t₂.toFallibleTable updateExisting dryRun document.channels
        { total := document.channels.length, dryRun := dryRun } s₂ report s₂' := by
  obtain ⟨report, s₁', hperform₁, hroom₁', hrun₁⟩ := importChannels_steady t₁ hw₁ hroom₁
    updateExisting dryRun { total := document.channels.length, dryRun := dryRun }
  obtain ⟨report', s₂', hperform₂, hroom₂', hrun₂⟩ := importChannels_steady t₂ hw₂ hroom₂
    updateExisting dryRun { total := document.channels.length, dryRun := dryRun }
  obtain rfl := hrun₁.report_eq hrun₂ (t₁.sound hroom₁) (t₂.sound hroom₂) hnames
  exact ⟨report, s₁', s₂', hperform₁, hperform₂, hroom₁', hroom₂', hrun₁, hrun₂⟩

theorem SteadyTable.list_eq {σ τ : Type} (t₁ : SteadyTable σ) (t₂ : SteadyTable τ) {s₁ : σ} {s₂ : τ}
    (h₁ : t₁.hasRoom s₁ n) (h₂ : t₂.hasRoom s₂ k) (hp : (t₁.rows s₁).Perm (t₂.rows s₂)) :
    ∃ listed, (t₁.store.list .everything).perform s₁ = (.ok listed, s₁) ∧
      (t₂.store.list .everything).perform s₂ = (.ok listed, s₂) := by
  obtain ⟨listed, hlist, hlisted, hordered⟩ := t₁.list_room h₁
  obtain ⟨listed', hlist', hlisted', hordered'⟩ := t₂.list_room h₂
  have hd : DistinctIds listed := (t₁.numbered (t₁.sound h₁)).distinct.perm hlisted.symm
  have hsame : listed.Perm listed' := hlisted.trans (hp.trans hlisted'.symm)
  have heq : listed = listed' :=
    hsame.eq_of_pairwise (fun a b ha hb hab hba =>
      hd.eq_of_id ha (hsame.mem_iff.mpr hb) (Int.le_antisymm hab hba)) hordered hordered'
  exact ⟨listed, hlist, heq ▸ hlist'⟩

-- ---------------------------------------------------------------------------
-- Rows in memory and in the embedded database
-- ---------------------------------------------------------------------------

section

open Relational (Database maxInteger)

variable {φ ψ : Type} {w₁ : Workspace (World MemoryStore φ)} {w₂ : Workspace (World Database ψ)}
  {s₁ : World MemoryStore φ} {s₂ : World Database ψ} {rows : List Channel}

theorem rows_inWorld (s : World Database ψ) :
    (Database.steadyTable.inWorld ψ).rows s = s.data.channels := rfl

theorem shown_imported {document : Backup} (h : s₂.data.Holds rows)
    (hstorable : ∀ c ∈ document.channels, c.IsStorable) :
    ∀ c ∈ document.channels, ∀ id,
      (Database.steadyTable.inWorld ψ).shown s₂ { c with id := id } = { c with id := id } :=
  fun c hc id => h.shown_eq ((hstorable c hc).withId id)

/-- An import over rows in memory and over a full table of the same rows gives the same
report. The same rows are listed afterwards if it was a dry run or the document can be
stored as it is and, with updates, each channel finds in memory the row with the least
id, as it does in any case where rows came in by id.

Nothing is said of an import for which there are not enough ids left. -/
theorem import_same_over_stores (hw₁ : w₁.channels = (MemoryStore.steadyTable.inWorld φ).store)
    (hw₂ : w₂.channels = (Database.steadyTable.inWorld ψ).store)
    (hs₁ : s₁.data.channels = .ofRows rows) (hs₂ : s₂.data.Holds rows) (document : Backup)
    (hroom : (MemoryChannels.ofRows rows).nextId + document.channels.length ≤ maxInteger + 1)
    (updateExisting dryRun : Bool) :
    ∃ report s₁' s₂',
      (w₁.importBackup document updateExisting dryRun).perform s₁ = (.ok report, s₁') ∧
      (w₂.importBackup document updateExisting dryRun).perform s₂ = (.ok report, s₂') ∧
      ((dryRun = false → (∀ c ∈ document.channels, c.IsStorable) ∧
          (updateExisting = true →
            FindLeastInTurn (rows, (MemoryChannels.ofRows rows).nextId) document.channels)) →
        ∃ listed, (w₁.channels.list .everything).perform s₁' = (.ok listed, s₁') ∧
          (w₂.channels.list .everything).perform s₂' = (.ok listed, s₂')) := by
  let t₁ := MemoryStore.steadyTable.inWorld φ
  let t₂ := Database.steadyTable.inWorld ψ
  have hroom₁ : t₁.hasRoom s₁ document.channels.length := by
    show s₁.data.channels.TakesRows
    exact hs₁ ▸ MemoryChannels.takesRows_ofRows hs₂.distinct
  have hroom₂ : t₂.hasRoom s₂ document.channels.length := hs₂.hasRoom hroom
  have hrows : t₁.rows s₁ = rows := congrArg MemoryChannels.rows hs₁
  have hperm : (t₁.rows s₁).Perm (t₂.rows s₂) := hrows ▸ hs₂.perm
  have hfirst : t₁.next s₁ = (MemoryChannels.ofRows rows).nextId :=
    congrArg MemoryChannels.nextId hs₁
  have hnext : t₁.next s₁ = t₂.next s₂ := hfirst.trans hs₂.nextId_eq
  obtain ⟨report, s₁', s₂', hperform₁, hperform₂, hroom₁', hroom₂', hrun₁, hrun₂⟩ :=
    imports_steady t₁ t₂ hw₁ hw₂ document updateExisting dryRun hroom₁ hroom₂
      fun _ => ⟨hperm.map _, hnext⟩
  refine ⟨report, s₁', s₂', hperform₁, hperform₂, fun hlists => ?_⟩
  rw [hw₁, hw₂]
  refine t₁.list_eq t₂ hroom₁' hroom₂' ?_
  cases dryRun with
  | true => rwa [hrun₁.eq_of_dryRun, hrun₂.eq_of_dryRun]
  | false =>
    obtain ⟨hstorable, hleast⟩ := hlists rfl
    obtain ⟨hfold₁, -⟩ := hrun₁.rows_eq_foldl fun c _ id => rfl
    obtain ⟨hfold₂, -⟩ := hrun₂.rows_eq_foldl (shown_imported hs₂ hstorable)
    have hleast₁ (hu : updateExisting = true) :
        FindLeastInTurn (t₁.rows s₁, t₁.next s₁) document.channels := by
      rw [hrows, hfirst]
      exact hleast hu
    have hleast₂ : FindLeastInTurn (t₂.rows s₂, t₂.next s₂) document.channels :=
      .of_pairwise hs₂.pairwise_channels (t₂.numbered (t₂.sound hroom₂)) _
    rw [hfold₁, hfold₂]
    exact (foldl_withImported_perm hperm hnext (t₁.numbered (t₁.sound hroom₁)) fun hu =>
      ⟨hleast₁ hu, hleast₂⟩).1

namespace Sample

def detailedChannel (id : Int) (name key : String) : Channel :=
  { id := id, name := name, key := key, info := Backup.Sample.richInfo }

theorem detailedChannel_isStorable (id : Int) (name key : String) :
    (detailedChannel id name key).IsStorable where
  info := Database.Sample.reduced_keepsInfo id (by decide)
  balance _ := rfl

theorem importWorkspace_channels :
    importWorkspace.channels = (MemoryStore.steadyTable.inWorld MemoryFiles).store := rfl

theorem databaseWorkspace_channels :
    databaseWorkspace.channels = (Database.steadyTable.inWorld MemoryFiles).store := rfl

def shuffledWorld (rows : List Channel) : World MemoryStore MemoryFiles :=
  ⟨{ channels := .ofRows rows }, {}⟩

def heldWorld (rows : List Channel) : World Database MemoryFiles := ⟨.holding rows, {}⟩

theorem heldWorld_holds (hd : DistinctIds rows)
    (hrows : ∀ row ∈ rows, row.IsStorable ∧ 0 < row.id) : (heldWorld rows).data.Holds rows := by
  rw [heldWorld]
  exact Database.holding_holds hd hrows

def shuffledRows : List Channel := [detailedChannel 2 "b" "kb", detailedChannel 1 "a" "ka"]

def shuffledDocument : Backup := .ofChannels "now" Backup.sourceFull
  [detailedChannel 2 "c" "kc", detailedChannel 9 "d" "kd", detailedChannel 0 "d" "kd2"]

theorem holds_shuffledRows : (heldWorld shuffledRows).data.Holds shuffledRows := by
  have hrows : ∀ row ∈ shuffledRows, row.IsStorable ∧ 0 < row.id := by
    simp only [shuffledRows, List.forall_mem_cons, detailedChannel_isStorable]
    simp [detailedChannel]
  exact heldWorld_holds (by decide) hrows

end Sample

theorem import_same_over_stores_sample : ∃ report s₁ s₂ listed,
    (Sample.importWorkspace.importBackup Sample.shuffledDocument true false).perform
      (Sample.shuffledWorld Sample.shuffledRows) = (.ok report, s₁) ∧
    (Sample.databaseWorkspace.importBackup Sample.shuffledDocument true false).perform
      (Sample.heldWorld Sample.shuffledRows) = (.ok report, s₂) ∧
    (Sample.importWorkspace.channels.list .everything).perform s₁ = (.ok listed, s₁) ∧
    (Sample.databaseWorkspace.channels.list .everything).perform s₂ = (.ok listed, s₂) := by
  have hstorable : ∀ c ∈ Sample.shuffledDocument.channels, c.IsStorable := by
    simp [Sample.shuffledDocument, Backup.ofChannels, Sample.detailedChannel_isStorable]
  have hleast : FindLeastInTurn (Sample.shuffledRows,
      (MemoryChannels.ofRows Sample.shuffledRows).nextId) Sample.shuffledDocument.channels := by decide
  have hrows : (Sample.shuffledWorld Sample.shuffledRows).data.channels =
      .ofRows Sample.shuffledRows := rfl
  obtain ⟨report, s₁, s₂, hperform₁, hperform₂, hlists⟩ :=
    import_same_over_stores Sample.importWorkspace_channels Sample.databaseWorkspace_channels hrows
      Sample.holds_shuffledRows Sample.shuffledDocument (by decide) true false
  obtain ⟨listed, hlist₁, hlist₂⟩ := hlists fun _ => ⟨hstorable, fun _ => hleast⟩
  exact ⟨report, s₁, s₂, listed, hperform₁, hperform₂, hlist₁, hlist₂⟩

namespace Sample

def shuffledNamesakes : List Channel := [detailedChannel 2 "a" "k2", detailedChannel 1 "a" "k1"]

theorem holds_shuffledNamesakes : (heldWorld shuffledNamesakes).data.Holds shuffledNamesakes := by
  have hrows : ∀ row ∈ shuffledNamesakes, row.IsStorable ∧ 0 < row.id := by
    simp only [shuffledNamesakes, List.forall_mem_cons, detailedChannel_isStorable]
    simp [detailedChannel]
  exact heldWorld_holds (by decide) hrows

def namesakeDocument : Backup :=
  .ofChannels "now" Backup.sourceFull [detailedChannel 9 "a" "new"]

end Sample

/-- The same document over the same rows gives one report and two listings: in memory
the first row in its order is replaced, in the database the one with the least id. -/
theorem stored_order_decides : ∃ report s₁ s₂ listed₁ listed₂,
    (∀ row ∈ Sample.shuffledNamesakes, 0 < row.id) ∧
    (Sample.heldWorld Sample.shuffledNamesakes).data.Holds Sample.shuffledNamesakes ∧
    (Sample.importWorkspace.importBackup Sample.namesakeDocument true false).perform
      (Sample.shuffledWorld Sample.shuffledNamesakes) = (.ok report, s₁) ∧
    (Sample.databaseWorkspace.importBackup Sample.namesakeDocument true false).perform
      (Sample.heldWorld Sample.shuffledNamesakes) = (.ok report, s₂) ∧
    (Sample.importWorkspace.channels.list .everything).perform s₁ = (.ok listed₁, s₁) ∧
    (Sample.databaseWorkspace.channels.list .everything).perform s₂ = (.ok listed₂, s₂) ∧
    listed₁ ≠ listed₂ := by
  let t₁ := MemoryStore.steadyTable.inWorld MemoryFiles
  let t₂ := Database.steadyTable.inWorld MemoryFiles
  have hholds := Sample.holds_shuffledNamesakes
  have hroom₁ : t₁.hasRoom (Sample.shuffledWorld Sample.shuffledNamesakes)
      Sample.namesakeDocument.channels.length := MemoryChannels.takesRows_ofRows hholds.distinct
  have hroom₂ : t₂.hasRoom (Sample.heldWorld Sample.shuffledNamesakes)
      Sample.namesakeDocument.channels.length := hholds.hasRoom (by decide)
  obtain ⟨report, s₁, s₂, hperform₁, hperform₂, hroom₁', hroom₂', hrun₁, hrun₂⟩ :=
    imports_steady t₁ t₂ Sample.importWorkspace_channels Sample.databaseWorkspace_channels
      Sample.namesakeDocument true false hroom₁ hroom₂ nofun
  obtain ⟨listed₁, hlist₁, hlisted₁, -⟩ := t₁.list_room hroom₁'
  obtain ⟨listed₂, hlist₂, hlisted₂, -⟩ := t₂.list_room hroom₂'
  refine ⟨report, s₁, s₂, listed₁, listed₂, by decide, hholds, hperform₁, hperform₂, hlist₁, hlist₂,
    ?_⟩
  have hkeys₁ : (listed₁.map fun c => (c.id, c.key)).Perm [(2, "new"), (1, "k1")] := by
    obtain ⟨hrows, -⟩ := hrun₁.rows_eq_foldl fun c _ id => rfl
    rw [hrows] at hlisted₁
    exact hlisted₁.map _
  have hkeys₂ : (listed₂.map fun c => (c.id, c.key)).Perm [(1, "new"), (2, "k2")] := by
    have hordered : (Sample.heldWorld Sample.shuffledNamesakes).data.channels =
        Sample.shuffledNamesakes.reverse := by
      refine (hholds.perm.symm.trans (List.reverse_perm _).symm).eq_of_pairwise
        (fun a b _ _ hab hba => absurd hab (Int.lt_asymm hba)) hholds.pairwise_channels (by decide)
    have hstorable : ∀ c ∈ Sample.namesakeDocument.channels, c.IsStorable := by
      simp [Sample.namesakeDocument, Backup.ofChannels, Sample.detailedChannel_isStorable]
    obtain ⟨hrows, -⟩ := hrun₂.rows_eq_foldl (shown_imported hholds hstorable)
    rw [hrows, rows_inWorld, hordered] at hlisted₂
    exact hlisted₂.map _
  rintro rfl
  exact absurd (hkeys₁.symm.trans hkeys₂) (by decide)

end

end ChannelKeeper

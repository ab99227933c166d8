import ChannelKeeper.Backup.Import
import ChannelKeeper.Proofs.Store.FallibleTable

/-!
# Runs of an import

An import always gives a report. When no call of the store failed, the report and
the table are those of a run of steps, one for each channel of the document: the
channel is kept out, replaces the row that stands for it, is added as the next row,
or is counted as one that would be written. Nothing is said of the table after a
failed call.
-/

namespace ChannelKeeper

open MemoryChannels (isMatch)

variable {σ : Type}

/-- The row that stands for a channel: the first with its name, or with its id if
that is positive. -/
def FallibleTable.rowFor? (t : FallibleTable σ) (s : σ) (c : Channel) : Option Channel :=
  (t.rows s).find? (isMatch c.name c.id)

/-- Some row has the channel's name, or its id if that is positive. -/
def isKnown (rows : List Channel) (c : Channel) : Bool := rows.any (isMatch c.name c.id)

/-- What becomes of one channel, with the report and the state afterwards. -/
inductive ChannelImport (t : FallibleTable σ) (updateExisting dryRun : Bool) (r : ImportReport)
    (c : Channel) (s : σ) : ImportReport → σ → Prop
  | kept (hfor : (t.rowFor? s c).isSome) (hu : updateExisting = false) :
      ChannelImport t updateExisting dryRun r c s r.recordSkip s
  | promised (hfor : t.rowFor? s c = none ∨ updateExisting = true) (hd : dryRun = true) :
      ChannelImport t updateExisting dryRun r c s r.recordSuccess s
  | replaced (row : Channel) (s' : σ) (hfor : t.rowFor? s c = some row)
      (hu : updateExisting = true) (hd : dryRun = false)
      (hr : t.rows s' = (t.rows s).map fun old =>
        if old.id = row.id then t.shown s { c with id := row.id } else old)
      (hn : t.next s' = t.next s) (hsame : t.shown s' = t.shown s) :
      ChannelImport t updateExisting dryRun r c s r.recordSuccess s'
  | added (s' : σ) (hfor : t.rowFor? s c = none) (hd : dryRun = false)
      (hr : t.rows s' = t.rows s ++ [t.shown s { c with id := t.next s }])
      (hn : t.next s' = t.next s + 1) (hsame : t.shown s' = t.shown s) :
      ChannelImport t updateExisting dryRun r c s r.recordSuccess s'

/-- One channel after the other. -/
inductive ImportRun (t : FallibleTable σ) (updateExisting dryRun : Bool) :
    List Channel → ImportReport → σ → ImportReport → σ → Prop
  | done : ImportRun t updateExisting dryRun [] r s r s
  | more {c : Channel} {rest : List Channel} {r r₁ r' : ImportReport} {s s₁ s' : σ}
      (hsound : t.isSound s₁) (hstep : ChannelImport t updateExisting dryRun r c s r₁ s₁)
      (hrest : ImportRun t updateExisting dryRun rest r₁ s₁ r' s') :
      ImportRun t updateExisting dryRun (c :: rest) r s r' s'

-- ---------------------------------------------------------------------------
-- Reports
-- ---------------------------------------------------------------------------

namespace ImportReport

theorem failed_le_recordOutcome (r : ImportReport) (c : Channel) (result : Except StoreError α) :
    r.failed ≤ (r.recordOutcome c result).failed := by
  cases result with
  | ok => exact Nat.le_refl _
  | error => exact Nat.le_succ _

end ImportReport

section

variable {w : Workspace σ} {s s' : σ} {updateExisting dryRun : Bool} {r r' : ImportReport}
  {c : Channel}

/-- Whatever the calls of the store give, there is a report with no fewer failures. -/
theorem importChannel_reports (w : Workspace σ) (s : σ) (updateExisting dryRun : Bool)
    (r : ImportReport) (c : Channel) :
    ∃ r' s', (w.importChannel updateExisting dryRun r c).perform s = (.ok r', s') ∧
      r.failed ≤ r'.failed := by
  rw [Workspace.importChannel, Action.perform_attempt_bind]
  rcases (w.channels.findExisting c.name c.id).perform s with ⟨_ | _ | row, s₁⟩
  · exact ⟨_, _, rfl, Nat.le_succ _⟩
  · cases dryRun with
    | true => exact ⟨_, _, rfl, Nat.le_refl _⟩
    | false => exact ⟨_, _, Action.perform_attempt_bind _ _ _, r.failed_le_recordOutcome c _⟩
  · cases updateExisting with
    | false => exact ⟨_, _, rfl, Nat.le_refl _⟩
    | true =>
      cases dryRun with
      | true => exact ⟨_, _, rfl, Nat.le_refl _⟩
      | false => exact ⟨_, _, Action.perform_attempt_bind _ _ _, r.failed_le_recordOutcome c _⟩

theorem importChannels_reports (w : Workspace σ) (s : σ) (updateExisting dryRun : Bool)
    (r : ImportReport) (todo : List Channel) :
    ∃ r' s', (Action.fold (w.importChannel updateExisting dryRun) r todo).perform s =
      (.ok r', s') ∧ r.failed ≤ r'.failed := by
  induction todo generalizing r s with
  | nil => exact ⟨r, s, rfl, Nat.le_refl _⟩
  | cons c rest ih =>
    obtain ⟨r₁, s₁, hstep, hle₁⟩ := importChannel_reports w s updateExisting dryRun r c
    obtain ⟨r', s', hrest, hle'⟩ := ih s₁ r₁
    exact ⟨r', s', (Action.perform_fold_cons hstep).trans hrest, Nat.le_trans hle₁ hle'⟩

theorem perform_of_recorded {act : Action σ StoreError α}
    (h : ((act.attempt : Workspace.Task σ _) >>= fun result =>
      pure (r.recordOutcome c result)).perform s = (.ok r', s'))
    (hf : r'.failed = r.failed) : ∃ a, act.perform s = (.ok a, s') ∧ r' = r.recordSuccess := by
  rw [Action.perform_attempt_bind] at h
  cases hact : act.perform s with
  | mk result s₁ =>
    rw [hact] at h
    cases h
    cases result with
    | ok a => exact ⟨a, rfl, rfl⟩
    | error => exact absurd hf (Nat.succ_ne_self _)

-- ---------------------------------------------------------------------------
-- Steps and runs
-- ---------------------------------------------------------------------------

variable (t : FallibleTable σ)

/-- A channel that is not counted as failed went one of these ways. -/
theorem channelImport_of_perform (hw : w.channels = t.store) (hs : t.isSound s)
    (h : (w.importChannel updateExisting dryRun r c).perform s = (.ok r', s'))
    (hf : r'.failed = r.failed) :
    t.isSound s' ∧ ChannelImport t updateExisting dryRun r c s r' s' := by
  rw [Workspace.importChannel, Action.perform_attempt_bind, hw] at h
  cases hfind : (t.store.findExisting c.name c.id).perform s with
  | mk result s₁ =>
    rw [hfind] at h
    cases result with
    | error e =>
      -- A search that fails is counted, and nothing takes it back.
      cases h
      exact absurd hf (Nat.succ_ne_self _)
    | ok found =>
      obtain ⟨rfl, hfor⟩ := t.findExisting_ok c.name c.id hs hfind
      replace hfor : t.rowFor? s₁ c = found := hfor.symm
      cases found with
      | none =>
        cases dryRun with
        | true =>
          cases h
          exact ⟨hs, .promised (.inl hfor) rfl⟩
        | false =>
          obtain ⟨given, hinsert, rfl⟩ := perform_of_recorded h hf
          obtain ⟨hs', hr, hn, hsame⟩ := t.insert_ok c hs hinsert
          exact ⟨hs', .added s' hfor rfl hr hn hsame⟩
      | some row =>
        cases updateExisting with
        | false =>
          cases h
          exact ⟨hs, .kept (Option.isSome_of_eq_some hfor) rfl⟩
        | true =>
          cases dryRun with
          | true =>
            cases h
            exact ⟨hs, .promised (.inr rfl) rfl⟩
          | false =>
            obtain ⟨⟨⟩, hupdate, rfl⟩ := perform_of_recorded h hf
            obtain ⟨hs', hr, hn, hsame⟩ := t.update_ok { c with id := row.id } hs hupdate
            exact ⟨hs', .replaced row s' hfor rfl rfl hr hn hsame⟩

theorem importRun_of_perform (hw : w.channels = t.store) (hs : t.isSound s) (todo : List Channel)
    (h : (Action.fold (w.importChannel updateExisting dryRun) r todo).perform s = (.ok r', s'))
    (hf : r'.failed = r.failed) :
    t.isSound s' ∧ ImportRun t updateExisting dryRun todo r s r' s' := by
  induction todo generalizing r s with
  | nil =>
    cases h
    exact ⟨hs, .done⟩
  | cons c rest ih =>
    obtain ⟨r₁, s₁, hstep, hle⟩ := importChannel_reports w s updateExisting dryRun r c
    rw [Action.perform_fold_cons hstep] at h
    -- failures are never taken back, so none came before the rest
    obtain ⟨_, _, hrest, hle'⟩ := importChannels_reports w s₁ updateExisting dryRun r₁ rest
    cases hrest.symm.trans h
    have hf₁ : r₁.failed = r.failed := Nat.le_antisymm (hf ▸ hle') hle
    obtain ⟨hs₁, himport⟩ := channelImport_of_perform t hw hs hstep hf₁
    obtain ⟨hs', hrun⟩ := ih hs₁ h (hf.trans hf₁.symm)
    exact ⟨hs', .more hs₁ himport hrun⟩

/-- An import of a document gives a report, and if it counts no failure, the import
was a run. -/
theorem importBackup_run (hw : w.channels = t.store) (hs : t.isSound s) (document : Backup)
    (updateExisting dryRun : Bool) :
    ∃ report s', (w.importBackup document updateExisting dryRun).perform s = (.ok report, s') ∧
      (report.failed = 0 → t.isSound s' ∧
        ImportRun t updateExisting dryRun document.channels
          { total := document.channels.length, dryRun := dryRun } s report s') := by
  obtain ⟨report, s', hperform, -⟩ := importChannels_reports w s updateExisting dryRun
    { total := document.channels.length, dryRun := dryRun } document.channels
  exact ⟨report, s', hperform, importRun_of_perform t hw hs document.channels hperform⟩

-- ---------------------------------------------------------------------------
-- What every run keeps
-- ---------------------------------------------------------------------------

variable {t} {todo : List Channel}

theorem FallibleTable.rowFor?_eq_none_iff :
    t.rowFor? s c = none ↔ isKnown (t.rows s) c = false := by
  rw [rowFor?, isKnown, List.find?_eq_none, List.any_eq_false]

theorem FallibleTable.isSome_rowFor? : (t.rowFor? s c).isSome = isKnown (t.rows s) c := by
  cases hfor : t.rowFor? s c with
  | none => exact (rowFor?_eq_none_iff.mp hfor).symm
  | some row =>
    exact (List.any_eq_true.mpr ⟨row, List.mem_of_find?_eq_some hfor, List.find?_some hfor⟩).symm

theorem ImportRun.tally (h : ImportRun t updateExisting dryRun todo r s r' s') :
    r'.total = r.total ∧ r'.failed = r.failed ∧ r'.errors = r.errors ∧
      r'.success + r'.skipped = r.success + r.skipped + todo.length := by
  induction h with
  | done => exact ⟨rfl, rfl, rfl, rfl⟩
  | more _ hstep _ ih =>
    obtain ⟨htotal, hfailed, herrors, hcount⟩ := ih
    rw [htotal, hfailed, herrors, hcount, List.length_cons]
    cases hstep <;> refine ⟨rfl, rfl, rfl, ?_⟩ <;>
      simp only [ImportReport.recordSkip, ImportReport.recordSuccess] <;> omega

theorem ImportRun.skipped_eq (h : ImportRun t true dryRun todo r s r' s') :
    r'.skipped = r.skipped := by
  induction h with
  | done => rfl
  | more _ hstep _ ih =>
    rw [ih]
    cases hstep with
    | kept _ hu => cases hu
    | _ => rfl

end

end ChannelKeeper

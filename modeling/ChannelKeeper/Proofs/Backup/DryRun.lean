import ChannelKeeper.Proofs.Backup.Additive

/-!
# What a dry run promises

A dry run of an import leaves everything as it is. With updates its report is that
of the import. Without them it counts every channel that no row stands for yet, and
the import adds as many only if none of these channels is found in the row that an
earlier one gets: by a name that comes twice, or by the id that is given next. Else
the dry run promises too much.
-/

namespace ChannelKeeper

open MemoryChannels (isMatch)

/-- The channels that no row stands for. -/
def newTo (rows document : List Channel) : List Channel := document.filter fun c => !isKnown rows c

/-- Of channels that get the next ids in turn, none is found in the row of an earlier
one. -/
def Foreseen (next : Int) : List Channel → Prop
  | [] => True
  | c :: rest =>
    (∀ d ∈ rest, isMatch d.name d.id { c with id := next } = false) ∧ Foreseen (next + 1) rest

instance decidableForeseen : (next : Int) → (channels : List Channel) →
    Decidable (Foreseen next channels)
  | _, [] => isTrue trivial
  | next, _ :: rest => @instDecidableAnd _ _ _ (decidableForeseen (next + 1) rest)

section

variable {shown : Channel → Channel} {rows todo : List Channel} {next : Int}

theorem newTo_of_known (h : isKnown rows c = true) : newTo rows (c :: todo) = newTo rows todo :=
  List.filter_cons_of_neg (by simp [h])

theorem newTo_of_new (h : isKnown rows c = false) :
    newTo rows (c :: todo) = c :: newTo rows todo :=
  List.filter_cons_of_pos (by simp [h])

theorem newTo_concat (hshown : KeepsNames shown) (rows todo : List Channel) (c : Channel) :
    newTo (rows ++ [shown c]) todo =
      (newTo rows todo).filter fun d => !isMatch d.name d.id c := by
  rw [newTo, newTo, List.filter_filter]
  refine List.filter_congr fun d _ => ?_
  rw [isKnown_append, Bool.not_or, Bool.and_comm]
  simp [isKnown, hshown.isMatch_shown]

theorem length_addedRows_le (hshown : KeepsNames shown) (rows todo : List Channel) (next : Int) :
    (addedRows shown rows next todo).length ≤ (newTo rows todo).length := by
  induction todo generalizing rows next with
  | nil => exact Nat.le_refl _
  | cons c rest ih =>
    cases hc : isKnown rows c with
    | true =>
      rw [addedRows_of_known hc, newTo_of_known hc]
      exact ih rows next
    | false =>
      rw [addedRows_of_new hc, newTo_of_new hc, List.length_cons, List.length_cons]
      refine Nat.succ_le_succ (Nat.le_trans (ih _ _) ?_)
      rw [newTo_concat hshown]
      exact List.length_filter_le _ _

/-- As many rows are added as there are new channels, if all of these are foreseen,
and only then. -/
theorem length_addedRows_eq_iff (hshown : KeepsNames shown) :
    (addedRows shown rows next todo).length = (newTo rows todo).length ↔
      Foreseen next (newTo rows todo) := by
  induction todo generalizing rows next with
  | nil => exact ⟨fun _ => trivial, fun _ => rfl⟩
  | cons c rest ih =>
    cases hc : isKnown rows c with
    | true =>
      rw [addedRows_of_known hc, newTo_of_known hc]
      exact ih
    | false =>
      rw [addedRows_of_new hc, newTo_of_new hc, List.length_cons, List.length_cons,
        Nat.add_right_cancel_iff, Foreseen]
      have hmore := newTo_concat hshown rows rest { c with id := next }
      have hle := length_addedRows_le hshown (rows ++ [shown { c with id := next }]) rest (next + 1)
      constructor
      · intro heq
        -- the channels found in the new row are missing among the rows added after it
        rw [heq, hmore] at hle
        have hall := List.length_filter_eq_length_iff.mp
          (Nat.le_antisymm (List.length_filter_le _ _) hle)
        rw [List.filter_eq_self.mpr hall] at hmore
        refine ⟨fun d hd => by simpa using hall d hd, ?_⟩
        rw [← hmore, ← ih, hmore]
        exact heq
      · rintro ⟨hnone, hrest⟩
        rw [List.filter_eq_self.mpr fun d hd => by simp [hnone d hd]] at hmore
        rw [← hmore] at hrest ⊢
        exact ih.mpr hrest

end

section

variable {σ : Type} {t : FallibleTable σ} {w : Workspace σ} {s s' : σ} {updateExisting : Bool}
  {r r' : ImportReport} {todo : List Channel}

theorem ImportRun.dryRun_unchanged (h : ImportRun t updateExisting true todo r s r' s') :
    s' = s := by
  induction h with
  | done => rfl
  | more _ hstep _ ih =>
    rw [ih]
    cases hstep with
    | kept | promised => rfl
    | replaced _ _ _ _ hd => cases hd
    | added _ _ hd => cases hd

theorem ImportRun.dryRun_success (h : ImportRun t false true todo r s r' s') :
    r'.success = r.success + (newTo (t.rows s) todo).length := by
  induction h with
  | done => rfl
  | more _ hstep _ ih =>
    rw [ih]
    cases hstep with
    | kept hfor =>
      rw [FallibleTable.isSome_rowFor?] at hfor
      rw [newTo_of_known hfor, ImportReport.recordSkip]
    | promised hfor =>
      rcases hfor with hfor | hu
      · rw [newTo_of_new (FallibleTable.rowFor?_eq_none_iff.mp hfor)]
        exact Nat.succ_add_eq_add_succ _ _
      · cases hu
    | replaced _ _ _ _ hd => cases hd
    | added _ _ hd => cases hd

/-- A dry run changes nothing and reports what the import reports, except that it may
promise more channels than are added. It does not do so with updates, nor when the
new channels are foreseen; in all other cases it does.

Nothing is said where one of the two reports a failure. -/
theorem dryRun_predicts_iff (hw : w.channels = t.store) (hs : t.isSound s) (document : Backup)
    (updateExisting : Bool) :
    ∃ dry s₁ real s₂,
      (w.importBackup document updateExisting true).perform s = (.ok dry, s₁) ∧
      (w.importBackup document updateExisting false).perform s = (.ok real, s₂) ∧
      (dry.failed = 0 → s₁ = s) ∧
      (dry.failed = 0 → real.failed = 0 →
        dry.total = real.total ∧ dry.errors = real.errors ∧ real.success ≤ dry.success ∧
        ((dry.success = real.success ∧ dry.skipped = real.skipped) ↔
          updateExisting = true ∨ Foreseen (t.next s) (newTo (t.rows s) document.channels))) := by
  obtain ⟨dry, s₁, hdry, hdryRun⟩ := importBackup_run t hw hs document updateExisting true
  obtain ⟨real, s₂, hreal, hrealRun⟩ := importBackup_run t hw hs document updateExisting false
  refine ⟨dry, s₁, real, s₂, hdry, hreal, fun hf => (hdryRun hf).2.dryRun_unchanged, ?_⟩
  intro hf hf'
  obtain ⟨-, hdryRun⟩ := hdryRun hf
  obtain ⟨-, hrealRun⟩ := hrealRun hf'
  obtain ⟨htotal, -, herrors, hcount⟩ := hdryRun.tally
  obtain ⟨htotal', -, herrors', hcount'⟩ := hrealRun.tally
  refine ⟨htotal.trans htotal'.symm, herrors.trans herrors'.symm, ?_⟩
  -- the counts add up to the same number, so they agree as soon as one of them does
  have hsum : dry.success + dry.skipped = real.success + real.skipped := hcount.trans hcount'.symm
  cases updateExisting with
  | true =>
    have hskipped : dry.skipped = real.skipped :=
      hdryRun.skipped_eq.trans hrealRun.skipped_eq.symm
    have hsuccess : dry.success = real.success := by omega
    exact ⟨Nat.le_of_eq hsuccess.symm, iff_of_true ⟨hsuccess, hskipped⟩ (.inl rfl)⟩
  | false =>
    have hnames := t.keepsNames hs
    have hpromised : dry.success = (newTo (t.rows s) document.channels).length := by
      simpa using hdryRun.dryRun_success
    have hadded : real.success =
        (addedRows (t.shown s) (t.rows s) (t.next s) document.channels).length := by
      simpa using hrealRun.rows_eq.2
    have hiff : dry.success = real.success ∧ dry.skipped = real.skipped ↔
        real.success = dry.success := by omega
    rw [hiff, hadded, hpromised, length_addedRows_eq_iff hnames]
    exact ⟨length_addedRows_le hnames _ _ _, by simp⟩

end

/-- Two new channels, where the second asks for an id that is not given any more. -/
theorem dryRun_predicts_iff_sample : ∃ dry real s',
    (Sample.importWorkspace.importBackup (Sample.importDocument [{ id := 5, name := "b" }]) false
      true).perform Sample.importWorld = (.ok dry, Sample.importWorld) ∧
    (Sample.importWorkspace.importBackup (Sample.importDocument [{ id := 5, name := "b" }]) false
      false).perform Sample.importWorld = (.ok real, s') ∧
    real.success = 2 ∧ dry.success = real.success ∧ dry.skipped = real.skipped := by
  obtain ⟨dry, s₁, real, s₂, hdry, hreal, hsame, h⟩ := dryRun_predicts_iff
    (t := Sample.fallibleTable) (w := Sample.importWorkspace) rfl Sample.isSound_importWorld
    (Sample.importDocument [{ id := 5, name := "b" }]) false
  have hdryReport : ((Sample.importWorkspace.importBackup
      (Sample.importDocument [{ id := 5, name := "b" }]) false true).perform
        Sample.importWorld).1 = .ok { total := 2, success := 2, dryRun := true } := rfl
  have hrealReport : ((Sample.importWorkspace.importBackup
      (Sample.importDocument [{ id := 5, name := "b" }]) false false).perform
        Sample.importWorld).1 = .ok { total := 2, success := 2 } := rfl
  rw [hdry] at hdryReport
  rw [hreal] at hrealReport
  cases hdryReport
  cases hrealReport
  obtain ⟨-, -, -, hiff⟩ := h rfl rfl
  obtain ⟨hsuccess, hskipped⟩ := hiff.mpr (.inr (by decide))
  exact ⟨_, _, s₂, hsame rfl ▸ hdry, hreal, rfl, hsuccess, hskipped⟩

/-- A name that comes twice: the dry run counts both channels, and the import keeps
the second one out. -/
theorem dryRun_overpromises : ∃ dry real s',
    (Sample.importWorkspace.importBackup (Sample.importDocument [{ id := 10, name := "a" }]) false
      true).perform Sample.importWorld = (.ok dry, Sample.importWorld) ∧
    (Sample.importWorkspace.importBackup (Sample.importDocument [{ id := 10, name := "a" }]) false
      false).perform Sample.importWorld = (.ok real, s') ∧
    dry.failed = 0 ∧ real.failed = 0 ∧ dry.success ≠ real.success ∧ dry.skipped ≠ real.skipped :=
  ⟨_, _, _, rfl, rfl, rfl, rfl, by decide, by decide⟩

end ChannelKeeper

import ChannelKeeper.Backup.Import
import ChannelKeeper.Files.Memory
import ChannelKeeper.Proofs.Store.RowTable

/-!
# What an import does to the table

Each channel of a document is kept out, replaces the row that it matches, or
becomes a row of its own under the next id. A channel that matched no row at first
keeps its row to the end as long as no later channel asks for the id that the row
was given: ids are handed out while the document is read, and a later channel with
such an id replaces the row.
-/

namespace ChannelKeeper

open MemoryChannels (isMatch)

/-- What becomes of one channel, with the report and the state afterwards. -/
inductive ImportStep {σ : Type} (t : RowTable σ) (updateExisting : Bool) (r : ImportReport)
    (c : Channel) (s : σ) : ImportReport → σ → Prop
  | kept (row : Channel) (hrow : row ∈ t.rows s) (hmatch : isMatch c.name c.id row = true)
      (hu : updateExisting = false) : ImportStep t updateExisting r c s r.recordSkip s
  | replaced (row : Channel) (s' : σ) (hrow : row ∈ t.rows s)
      (hmatch : isMatch c.name c.id row = true) (hu : updateExisting = true)
      (hr : t.rows s' =
        (t.rows s).map fun old => if old.id = row.id then { c with id := row.id } else old)
      (hn : t.next s' = t.next s) : ImportStep t updateExisting r c s r.recordSuccess s'
  | added (s' : σ) (hnone : ∀ row ∈ t.rows s, isMatch c.name c.id row = false)
      (hr : t.rows s' = t.rows s ++ [{ c with id := t.next s }]) (hn : t.next s' = t.next s + 1) :
      ImportStep t updateExisting r c s r.recordSuccess s'

/-- A row is an old one, perhaps under a new name, or one of those that were added. -/
def RowOrigin (before : List Channel) (first : Int) (done : List Channel) (next : Int)
    (row : Channel) : Prop :=
  (∃ old ∈ before, row.id = old.id ∧ (row = old ∨ ∃ d ∈ done, row.name = d.name)) ∨
    (first ≤ row.id ∧ row.id < next ∧ ∃ d ∈ done, row.name = d.name)

/-- The rows and the next id after some channels of a document, seen from those
before the first of them. -/
structure ImportedSo (before : List Channel) (first : Int) (done rows : List Channel)
    (next : Int) : Prop where
  first_le : first ≤ next
  next_le : next ≤ first + done.length
  origin : ∀ row ∈ rows, RowOrigin before first done next row
  fresh : ∀ d ∈ done, (∀ old ∈ before, isMatch d.name d.id old = false) →
    ∃ row ∈ rows, row = { d with id := row.id } ∧ first ≤ row.id

section

variable {σ : Type} (t : RowTable σ) {w : Workspace σ} {s s' : σ}

theorem perform_importChannel (hw : w.channels = t.store) (hu : t.isUp s) (updateExisting : Bool)
    (r : ImportReport) (c : Channel) :
    ∃ r' s', (w.importChannel updateExisting false r c).perform s = (.ok r', s') ∧ t.isUp s' ∧
      ImportStep t updateExisting r c s r' s' := by
  obtain ⟨found, hfind, hsome, hnone⟩ := t.findExisting_up c.name c.id hu
  have hfound : (w.channels.findExisting c.name c.id).attempt.perform s =
      ((.ok (.ok found) : Except ChannelError _), s) := by
    rw [Action.perform_attempt, hw, hfind]
  rw [Workspace.importChannel, Action.perform_bind_ok hfound]
  cases found with
  | none =>
    obtain ⟨s', hs, hu', hr, hn⟩ := t.insert_up c hu
    have hinsert : (w.channels.insert c false).attempt.perform s =
        ((.ok (.ok (t.next s)) : Except ChannelError _), s') := by
      rw [Action.perform_attempt, hw, hs]
    refine ⟨r.recordSuccess, s', ?_, hu', .added s' (hnone rfl) hr hn⟩
    exact Action.perform_bind_ok hinsert
  | some row =>
    obtain ⟨hrow, hmatch⟩ := hsome row rfl
    cases updateExisting with
    | false => exact ⟨r.recordSkip, s, rfl, hu, .kept row hrow hmatch rfl⟩
    | true =>
      obtain ⟨s', hs, hu', hr, hn⟩ := t.update_up { c with id := row.id } hu ⟨row, hrow, rfl⟩
      have hupdate : (w.channels.update { c with id := row.id }).attempt.perform s =
          ((.ok (.ok ()) : Except ChannelError _), s') := by
        rw [Action.perform_attempt, hw, hs]
      refine ⟨r.recordSuccess, s', ?_, hu', .replaced row s' hrow hmatch rfl hr hn⟩
      exact Action.perform_bind_ok hupdate

-- ---------------------------------------------------------------------------
-- One channel
-- ---------------------------------------------------------------------------

theorem RowOrigin.mono (h : RowOrigin before first done next row) (hn : next ≤ next')
    (c : Channel) : RowOrigin before first (done ++ [c]) next' row := by
  have hd : (∃ d ∈ done, row.name = d.name) → ∃ d ∈ done ++ [c], row.name = d.name :=
    fun ⟨d, hd, he⟩ => ⟨d, List.mem_append_left _ hd, he⟩
  rcases h with ⟨old, hold, hid, hr⟩ | ⟨hfirst, hnext, hr⟩
  · exact .inl ⟨old, hold, hid, hr.imp_right hd⟩
  · exact .inr ⟨hfirst, by omega, hd hr⟩

namespace ImportedSo

variable {before done rows : List Channel} {first next : Int} {c : Channel}

theorem start : ImportedSo before first [] before first where
  first_le := Int.le_refl first
  next_le := by simp
  origin row hrow := .inl ⟨row, hrow, rfl, .inl rfl⟩
  fresh d hd := absurd hd List.not_mem_nil

/-- A row that the channel matches has the place of an old row that it matched, if
the channel brings a new name and asks for no id that was handed out. -/
theorem old_of_isMatch (h : ImportedSo before first done rows next)
    (hname : ∀ d ∈ done, d.name ≠ c.name) (hid : c.id < first ∨ next ≤ c.id)
    (hrow : row ∈ rows) (hmatch : isMatch c.name c.id row = true) :
    ∃ old ∈ before, row.id = old.id ∧ isMatch c.name c.id old = true := by
  have hnamed : (∃ d ∈ done, row.name = d.name) → 0 < c.id ∧ row.id = c.id := by
    rintro ⟨d, hd, hn⟩
    have hne : row.name ≠ c.name := fun he => hname d hd (hn.symm.trans he)
    simpa [isMatch, hne] using hmatch
  rcases h.origin row hrow with ⟨old, hold, hsame, rfl | hd⟩ | ⟨hfirst, hnext, hd⟩
  · exact ⟨row, hold, rfl, hmatch⟩
  · obtain ⟨hpos, heq⟩ := hnamed hd
    refine ⟨old, hold, hsame, ?_⟩
    simp [isMatch, hpos, ← hsame, heq]
  · obtain ⟨-, heq⟩ := hnamed hd
    omega

theorem keep (h : ImportedSo before first done rows next) (hold : old ∈ before)
    (hmatch : isMatch c.name c.id old = true) :
    ImportedSo before first (done ++ [c]) rows next where
  first_le := h.first_le
  next_le := by
    have := h.next_le
    simp only [List.length_append, List.length_singleton]
    omega
  origin row hrow := (h.origin row hrow).mono (Int.le_refl _) c
  fresh d hd hfresh := by
    rcases List.mem_append.mp hd with hd | hd
    · exact h.fresh d hd hfresh
    · rw [List.mem_singleton.mp hd] at hfresh
      exact absurd hmatch (by simp [hfresh old hold])

theorem replace (h : ImportedSo before first done rows next) (hb : ∀ old ∈ before, old.id < first)
    (hold : old ∈ before) (hmatch : isMatch c.name c.id old = true) :
    ImportedSo before first (done ++ [c])
      (rows.map fun row => if row.id = old.id then { c with id := old.id } else row) next where
  first_le := h.first_le
  next_le := (h.keep hold hmatch).next_le
  origin _ hchanged := by
    obtain ⟨row, hrow, rfl⟩ := List.mem_map.mp hchanged
    split
    · exact .inl ⟨old, hold, rfl, .inr ⟨c, List.mem_concat_self, rfl⟩⟩
    · exact (h.keep hold hmatch).origin row hrow
  fresh d hd hfresh := by
    obtain ⟨row, hrow, he, hfirst⟩ := (h.keep hold hmatch).fresh d hd hfresh
    have hne : row.id ≠ old.id := by
      have := hb old hold
      omega
    exact ⟨row, List.mem_map.mpr ⟨row, hrow, if_neg hne⟩, he, hfirst⟩

theorem add (h : ImportedSo before first done rows next) (c : Channel) :
    ImportedSo before first (done ++ [c]) (rows ++ [{ c with id := next }]) (next + 1) where
  first_le := by
    have := h.first_le
    omega
  next_le := by
    have := h.next_le
    simp only [List.length_append, List.length_singleton]
    omega
  origin row hrow := by
    rcases List.mem_append.mp hrow with hrow | hrow
    · exact (h.origin row hrow).mono (by omega) c
    · rw [List.mem_singleton.mp hrow]
      exact .inr ⟨h.first_le, Int.lt_succ next, c, List.mem_concat_self, rfl⟩
  fresh d hd hfresh := by
    rcases List.mem_append.mp hd with hd | hd
    · obtain ⟨row, hrow, he, hfirst⟩ := h.fresh d hd hfresh
      exact ⟨row, List.mem_append_left _ hrow, he, hfirst⟩
    · rw [List.mem_singleton.mp hd]
      exact ⟨_, List.mem_concat_self, rfl, h.first_le⟩

end ImportedSo

theorem ImportStep.failed_eq (hstep : ImportStep t updateExisting r c s r' s') :
    r'.failed = r.failed := by
  cases hstep <;> rfl

theorem ImportStep.importedSo {before done : List Channel} {first : Int}
    (hstep : ImportStep t updateExisting r c s r' s')
    (h : ImportedSo before first done (t.rows s) (t.next s)) (hb : ∀ old ∈ before, old.id < first)
    (hname : ∀ d ∈ done, d.name ≠ c.name) (hid : c.id < first ∨ t.next s ≤ c.id) :
    ImportedSo before first (done ++ [c]) (t.rows s') (t.next s') := by
  cases hstep with
  | kept row hrow hmatch =>
    obtain ⟨old, hold, -, hmatch⟩ := h.old_of_isMatch hname hid hrow hmatch
    exact h.keep hold hmatch
  | replaced row s' hrow hmatch _ hr hn =>
    obtain ⟨old, hold, hsame, hmatch⟩ := h.old_of_isMatch hname hid hrow hmatch
    rw [hr, hn, hsame]
    exact h.replace hb hold hmatch
  | added s' _ hr hn =>
    rw [hr, hn]
    exact h.add c

-- ---------------------------------------------------------------------------
-- A document
-- ---------------------------------------------------------------------------

theorem perform_importChannels {before done : List Channel} {first : Int}
    (hw : w.channels = t.store) (hu : t.isUp s) (hb : ∀ old ∈ before, old.id < first)
    (h : ImportedSo before first done (t.rows s) (t.next s)) (updateExisting : Bool)
    (r : ImportReport) (todo : List Channel) (hnames : ((done ++ todo).map (·.name)).Nodup)
    (hids : ∀ c ∈ todo, c.id < first ∨ first + (done ++ todo).length ≤ c.id) :
    ∃ r' s', (Action.fold (w.importChannel updateExisting false) r todo).perform s = (.ok r', s') ∧
      t.isUp s' ∧ r'.failed = r.failed ∧
      ImportedSo before first (done ++ todo) (t.rows s') (t.next s') := by
  induction todo generalizing done s r with
  | nil => exact ⟨r, s, rfl, hu, rfl, by rwa [List.append_nil]⟩
  | cons c rest ih =>
    obtain ⟨r₁, s₁, h₁, hu₁, hstep⟩ := perform_importChannel t hw hu updateExisting r c
    have hname : ∀ d ∈ done, d.name ≠ c.name := by
      rw [List.map_append, List.nodup_append] at hnames
      exact fun d hd => hnames.2.2 d.name (List.mem_map_of_mem hd) c.name
        (List.mem_map_of_mem List.mem_cons_self)
    have hid : c.id < first ∨ t.next s ≤ c.id := by
      have hnext := h.next_le
      have hc := hids c List.mem_cons_self
      rw [List.length_append] at hc
      omega
    have hstate := hstep.importedSo t h hb hname hid
    rw [List.append_cons] at hnames hids ⊢
    obtain ⟨r', s', h', hu', hfailed, hstate'⟩ := ih hu₁ hstate r₁ hnames
      fun d hd => hids d (List.mem_cons_of_mem _ hd)
    exact ⟨r', s', (Action.perform_fold_cons h₁).trans h', hu',
      hfailed.trans (hstep.failed_eq t), hstate'⟩

/-- A channel of the document that matched no row gets one that no channel had
before, and keeps it.

Premises: no call of the store fails, the names of the document are different, and
none of its ids is one that the import may hand out. -/
theorem imported_channel_has_row (hw : w.channels = t.store) (hu : t.isUp s) (document : Backup)
    (updateExisting : Bool) (hnames : (document.channels.map (·.name)).Nodup)
    (hids : ∀ c ∈ document.channels,
      c.id < t.next s ∨ t.next s + document.channels.length ≤ c.id) :
    ∃ report s', (w.importBackup document updateExisting false).perform s = (.ok report, s') ∧
      report.failed = 0 ∧ DistinctIds (t.rows s') ∧
      ∀ c ∈ document.channels, (∀ old ∈ t.rows s, isMatch c.name c.id old = false) →
        ∃ row ∈ t.rows s', row = { c with id := row.id } ∧ ∀ old ∈ t.rows s, old.id ≠ row.id := by
  obtain ⟨report, s', hperform, hu', hfailed, hstate⟩ :=
    perform_importChannels t hw hu (t.below hu) .start updateExisting
      { total := document.channels.length, dryRun := false } document.channels hnames hids
  refine ⟨report, s', hperform, hfailed, t.distinct hu', fun c hc hfresh => ?_⟩
  obtain ⟨row, hrow, he, hfirst⟩ := hstate.fresh c hc hfresh
  refine ⟨row, hrow, he, fun old hold => ?_⟩
  have := t.below hu old hold
  omega

end

namespace Sample

def oldChannel : Channel := { id := 1, name := "x", key := "kx" }

def addedChannel : Channel := { id := 9, name := "a", key := "ka" }

/-- Its id is the one that the next row gets. -/
def lateChannel : Channel := { id := 2, name := "b", key := "kb" }

def importWorkspace : Workspace (World MemoryStore MemoryFiles) :=
  World.workspace MemoryStore.channelStore (MemoryStore.tableStore '"') MemoryFiles.store
    (.ofSeconds 0) "backups"

def importTable : RowTable (World MemoryStore MemoryFiles) :=
  MemoryStore.rowTable.inWorld MemoryFiles

def importWorld : World MemoryStore MemoryFiles := ⟨{ channels := .ofRows [oldChannel] }, {}⟩

def importDocument (others : List Channel) : Backup :=
  .ofChannels "now" Backup.sourceExport (addedChannel :: others)

theorem isUp_importWorld : importTable.isUp importWorld := by
  refine ⟨rfl, rfl, rfl, by decide, ?_⟩
  simp [importWorld, MemoryChannels.ofRows, oldChannel]

theorem addedChannel_fresh : ∀ old ∈ importTable.rows importWorld,
    isMatch addedChannel.name addedChannel.id old = false := by
  decide

end Sample

/-- A later channel replaces the old row. -/
theorem imported_channel_has_row_sample : ∃ report s',
    (Sample.importWorkspace.importBackup (Sample.importDocument [{ id := 5, name := "x" }]) true
      false).perform Sample.importWorld = (.ok report, s') ∧
    ∃ row ∈ Sample.importTable.rows s', row = { Sample.addedChannel with id := row.id } ∧
      ∀ old ∈ Sample.importTable.rows Sample.importWorld, old.id ≠ row.id := by
  obtain ⟨report, s', hperform, -, -, hrows⟩ := imported_channel_has_row Sample.importTable
    (w := Sample.importWorkspace) rfl Sample.isUp_importWorld
    (Sample.importDocument [{ id := 5, name := "x" }]) true (by decide) (by decide)
  exact ⟨report, s', hperform,
    hrows Sample.addedChannel List.mem_cons_self Sample.addedChannel_fresh⟩

/-- A later channel asks for the id that the row was given, and takes its place,
though all names and ids of the document are different. -/
theorem added_row_replaced : ∃ report s',
    (Sample.importWorkspace.importBackup (Sample.importDocument [Sample.lateChannel]) true
      false).perform Sample.importWorld = (.ok report, s') ∧
    report.failed = 0 ∧
    (((Sample.importDocument [Sample.lateChannel]).channels.map (·.name)).Nodup ∧
      DistinctIds (Sample.importDocument [Sample.lateChannel]).channels) ∧
    (∀ old ∈ Sample.importTable.rows Sample.importWorld,
      isMatch Sample.addedChannel.name Sample.addedChannel.id old = false) ∧
    ¬ ∃ row ∈ Sample.importTable.rows s', row = { Sample.addedChannel with id := row.id } := by
  refine ⟨_, _, rfl, rfl, ⟨by decide, by decide⟩, Sample.addedChannel_fresh, ?_⟩
  rintro ⟨row, hrow, he⟩
  have hname : row.name = "a" := congrArg Channel.name he
  have hrows : row.name ∈ ["x", "b"] := List.mem_map_of_mem (f := (·.name)) hrow
  rw [hname] at hrows
  exact absurd hrows (by decide)

end ChannelKeeper

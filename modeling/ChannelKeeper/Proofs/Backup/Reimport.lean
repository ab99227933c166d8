import ChannelKeeper.Proofs.Backup.Additive

/-!
# Importing a table's own rows

A document of the rows of a table, imported with updates into the same table, adds
nothing. Each channel lands on the first row of its name, since a row with its id
has its name as well. So only the first row of a repeated name can change: it ends
with the fields of the last channel of this name. All other rows stay as they are,
as far as a row shows what is written to it.
-/

namespace ChannelKeeper

open MemoryChannels (isMatch)

/-- No row before this one has its name. -/
def isFirstNamed (rows : List Channel) (row : Channel) : Bool :=
  (rows.find? (·.name == row.name)).any (·.id == row.id)

def lastNamed? (written : List Channel) (name : String) : Option Channel :=
  (written.filter (·.name == name)).getLast?

/-- A row after each of the channels was written over the first row of its name. -/
def rewritten (shown : Channel → Channel) (rows written : List Channel) (row : Channel) : Channel :=
  if isFirstNamed rows row then
    ((lastNamed? written row.name).map fun c => shown { c with id := row.id }).getD row
  else row

section

variable {shown : Channel → Channel} {rows written : List Channel} {row : Channel}

theorem rewritten_nil (row : Channel) : rewritten shown rows [] row = row := by
  rw [rewritten]
  split <;> rfl

theorem mem_of_lastNamed? {name : String} (h : lastNamed? written name = some c) :
    c ∈ written ∧ c.name = name := by
  obtain ⟨hc, hname⟩ := List.mem_filter.mp (List.mem_of_getLast? h)
  exact ⟨hc, by simpa using hname⟩

theorem rewritten_id (hshown : KeepsNames shown) :
    (rewritten shown rows written row).id = row.id := by
  rw [rewritten]
  split
  · cases lastNamed? written row.name with
    | none => rfl
    | some c => exact hshown.id _
  · rfl

theorem rewritten_name (hshown : KeepsNames shown) :
    (rewritten shown rows written row).name = row.name := by
  rw [rewritten]
  split
  · cases hlast : lastNamed? written row.name with
    | none => rfl
    | some c => exact (hshown.name _).trans (mem_of_lastNamed? hlast).2
  · rfl

theorem rewritten_concat (c : Channel) : rewritten shown rows (written ++ [c]) row =
    if isFirstNamed rows row ∧ c.name = row.name then shown { c with id := row.id }
    else rewritten shown rows written row := by
  by_cases hname : c.name = row.name <;> cases hfirst : isFirstNamed rows row <;>
    simp [rewritten, lastNamed?, List.filter_append, hname, hfirst]

/-- A row that differs in its id alone from the others of its name stays. -/
theorem rewritten_eq_self (hrow : shown row = row)
    (hothers : ∀ other ∈ written, other.name = row.name → { other with id := row.id } = row) :
    rewritten shown rows written row = row := by
  rw [rewritten]
  split
  · cases hlast : lastNamed? written row.name with
    | none => rfl
    | some c =>
      obtain ⟨hc, hname⟩ := mem_of_lastNamed? hlast
      rw [Option.map_some, Option.getD_some, hothers c hc hname, hrow]
  · rfl

theorem isFirstNamed_and_iff (hd : DistinctIds rows) {name : String}
    (hfirst : rows.find? (·.name == name) = some first) (hrow : row ∈ rows) :
    isFirstNamed rows row = true ∧ name = row.name ↔ row.id = first.id := by
  have hname : first.name = name := by simpa using List.find?_some hfirst
  constructor
  · rintro ⟨hisFirst, rfl⟩
    rw [isFirstNamed, hfirst] at hisFirst
    exact (eq_of_beq hisFirst).symm
  · intro hid
    obtain rfl := hd.eq_of_id hrow (List.mem_of_find?_eq_some hfirst) hid
    exact ⟨by simp [isFirstNamed, hname, hfirst], hname.symm⟩

/-- A channel that is one of the rows lands on the first of its name. -/
theorem find?_rewritten (hd : DistinctIds rows) (hshown : KeepsNames shown) (hc : c ∈ rows)
    (written : List Channel) :
    ∃ first, rows.find? (·.name == c.name) = some first ∧
      (rows.map (rewritten shown rows written)).find? (isMatch c.name c.id) =
        some (rewritten shown rows written first) := by
  have hsame : ∀ row ∈ rows,
      (isMatch c.name c.id ∘ rewritten shown rows written) row = (row.name == c.name) := by
    intro row hrow
    rw [Function.comp_apply, isMatch, rewritten_id hshown, rewritten_name hshown]
    by_cases hid : row.id = c.id
    · simp [hd.eq_of_id hrow hc hid]
    · simp [hid]
  have hsome : (rows.find? (·.name == c.name)).isSome :=
    List.find?_isSome.mpr ⟨c, hc, beq_self_eq_true _⟩
  obtain ⟨first, hfirst⟩ := Option.isSome_iff_exists.mp hsome
  refine ⟨first, hfirst, ?_⟩
  rw [List.find?_map, ← List.head?_filter, List.filter_congr hsame, List.head?_filter, hfirst,
    Option.map_some]

end

section

variable {σ : Type} {t : FallibleTable σ} {w : Workspace σ} {s s' : σ} {r r' : ImportReport}
  {rows written todo : List Channel} {shown : Channel → Channel}

theorem ImportRun.rows_rewritten (h : ImportRun t true false todo r s r' s')
    (written : List Channel) (hd : DistinctIds rows) (hshown : KeepsNames shown)
    (hsame : t.shown s = shown)
    (hrows : t.rows s = rows.map (rewritten shown rows written)) (htodo : ∀ c ∈ todo, c ∈ rows) :
    t.rows s' = rows.map (rewritten shown rows (written ++ todo)) := by
  induction h generalizing written with
  | done => rwa [List.append_nil]
  | @more c rest r r₁ r' s s₁ s' _ hstep _ ih =>
    obtain ⟨hc, hrest⟩ := List.forall_mem_cons.mp htodo
    -- Each channel was a row itself, so there is one to replace, whatever was rewritten before.
    obtain ⟨first, hfirst, hfound⟩ := find?_rewritten hd hshown hc written
    rw [← hrows] at hfound
    replace hfound : t.rowFor? s c = some (rewritten shown rows written first) := hfound
    rw [List.append_cons]
    cases hstep with
    | kept _ hu => cases hu
    | promised _ hd => cases hd
    | added _ hfor =>
      rw [hfound] at hfor
      cases hfor
    | replaced landed _ hfor _ _ hr _ hsame' =>
      obtain rfl := Option.some.inj (hfound.symm.trans hfor)
      refine ih _ (hsame'.trans hsame) ?_ hrest
      rw [hr, hrows, hsame, List.map_map]
      refine List.map_congr_left fun row hrow => ?_
      have hfirst := isFirstNamed_and_iff hd hfirst hrow
      rw [Function.comp_apply, rewritten_concat, rewritten_id hshown, rewritten_id hshown]
      by_cases hid : row.id = first.id
      · rw [if_pos hid, if_pos (hfirst.mpr hid), hid]
      · rw [if_neg hid, if_neg (hfirst.not.mpr hid)]

/-- A document of a table's own rows, in whatever order, imported with updates, reports
success for every channel. Each was written over the first row of its name, so a row stays
that has no other fields than the other rows of its name, if it shows what is written to it.

In a sound table every row has a text for its name, so of rows whose name is null nothing is
said. Nor is it of an import that reports a failure. -/
theorem reimport_rewrites_first (hw : w.channels = t.store) (hs : t.isSound s) (document : Backup)
    (hdocument : document.channels.Perm (t.rows s)) :
    ∃ report s', (w.importBackup document true false).perform s = (.ok report, s') ∧
      (report.failed = 0 →
        report.total = (t.rows s).length ∧ report.success = report.total ∧
        t.rows s' = (t.rows s).map (rewritten (t.shown s) (t.rows s) document.channels) ∧
        ∀ row ∈ t.rows s, t.shown s row = row →
          (∀ other ∈ t.rows s, other.name = row.name → { other with id := row.id } = row) →
          row ∈ t.rows s') := by
  obtain ⟨report, s', hperform, hrun⟩ := importBackup_run t hw hs document true false
  refine ⟨report, s', hperform, fun hf => ?_⟩
  obtain ⟨-, hrun⟩ := hrun hf
  obtain ⟨htotal, -, -, hcount⟩ := hrun.tally
  have hrows : t.rows s' =
      (t.rows s).map (rewritten (t.shown s) (t.rows s) document.channels) := by
    refine hrun.rows_rewritten [] (t.numbered hs).distinct (t.keepsNames hs) rfl ?_
      fun c hc => hdocument.mem_iff.mp hc
    exact (List.map_id' _).symm.trans (List.map_congr_left fun row _ => (rewritten_nil row).symm)
  refine ⟨htotal.trans hdocument.length_eq, ?_, hrows, fun row hrow hshown hothers => ?_⟩
  · rw [hrun.skipped_eq] at hcount
    simpa [htotal] using hcount
  · rw [hrows]
    refine List.mem_map.mpr ⟨row, hrow, rewritten_eq_self hshown fun other hother => ?_⟩
    exact hothers other (hdocument.mem_iff.mp hother)

end

namespace Sample

/-- Two of the rows share a name but not a key. -/
def namesakes : List Channel :=
  [oldChannel, { id := 2, name := "a", key := "k2" }, { id := 3, name := "a", key := "k3" }]

def namesakesWorld : World MemoryStore MemoryFiles := ⟨{ channels := .ofRows namesakes }, {}⟩

theorem isSound_namesakesWorld : fallibleTable.isSound namesakesWorld where
  distinct := by decide
  below := by decide

end Sample

/-- The first of the two gets the key of the second. -/
theorem reimport_rewrites_first_sample : ∃ report s',
    (Sample.importWorkspace.importBackup (.ofChannels "now" Backup.sourceFull Sample.namesakes) true
      false).perform Sample.namesakesWorld = (.ok report, s') ∧
    report.success = 3 ∧
    Sample.fallibleTable.rows s' = [Sample.oldChannel, { id := 2, name := "a", key := "k3" },
      { id := 3, name := "a", key := "k3" }] := by
  obtain ⟨report, s', hperform, h⟩ := reimport_rewrites_first (t := Sample.fallibleTable)
    (w := Sample.importWorkspace) rfl Sample.isSound_namesakesWorld
    (.ofChannels "now" Backup.sourceFull Sample.namesakes) (.refl _)
  cases congrArg Prod.fst (hperform.symm.trans rfl)
  obtain ⟨htotal, hsuccess, hrows, -⟩ := h rfl
  exact ⟨_, s', hperform, hsuccess.trans htotal, hrows.trans rfl⟩

/-- A table's own rows, imported with updates: no failure is reported, and a key is
lost. -/
theorem reimport_loses_key : ∃ report s',
    (Sample.importWorkspace.importBackup (.ofChannels "now" Backup.sourceFull
      (Sample.fallibleTable.rows Sample.namesakesWorld)) true false).perform Sample.namesakesWorld =
        (.ok report, s') ∧
    report.failed = 0 ∧
    (∀ row ∈ Sample.fallibleTable.rows Sample.namesakesWorld, 0 < row.id) ∧
    DistinctIds (Sample.fallibleTable.rows Sample.namesakesWorld) ∧
    Sample.fallibleTable.rows s' ≠ Sample.fallibleTable.rows Sample.namesakesWorld :=
  ⟨_, _, rfl, rfl, by decide, by decide,
    fun h => absurd (congrArg (List.map (·.key)) h) (by decide)⟩

end ChannelKeeper

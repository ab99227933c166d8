import ChannelKeeper.Command.Tables
import ChannelKeeper.Proofs.Command.Console
import ChannelKeeper.Proofs.Table.Cleaning
import ChannelKeeper.Proofs.Table.Selection

/-!
# The selection is what is emptied

An agreed run without backups empties the tables that a selection names and the database
lists, and no others. If there are none of them it changes nothing; that is an error where
names were given, and none where a preset found nothing. A table exists for the command if
the database lists it. What is printed is not said.
-/

namespace ChannelKeeper

variable {σ φ τ : Type} {d d' : σ}

-- ---------------------------------------------------------------------------
-- Tables without rows
-- ---------------------------------------------------------------------------

def DumpedTables.IsRowless (b : DumpedTables σ τ) (name : String) (d : σ) : Prop :=
  ∃ t, b.find? d name = some t ∧ b.cells t = []

theorem DumpedTables.EmptiesOnly.isRowless {b : DumpedTables σ τ}
    (h : b.EmptiesOnly table d d') (hfind : (b.find? d table).isSome) : b.IsRowless table d' := by
  obtain ⟨t, ht⟩ := Option.isSome_iff_exists.mp hfind
  have hfound : b.find? d' table = some (b.emptied t) := by
    simp [h.tables, ht, b.isSame_self]
  exact ⟨b.emptied t, hfound, b.cells_emptied t⟩

theorem DumpedTables.IsRowless.of_empties {b : DumpedTables σ τ} (h : b.IsRowless name d)
    (hempties : b.EmptiesOnly table d d') : b.IsRowless name d' := by
  obtain ⟨t, ht, hcells⟩ := h
  rw [IsRowless, hempties.tables]
  dsimp only
  split
  · exact ⟨b.emptied t, by rw [ht, Option.map_some], b.cells_emptied t⟩
  · exact ⟨t, ht, hcells⟩

namespace ReadyTables

variable {t : ReadyTables σ τ} {channels : ChannelStore σ} {files : FileStore φ}
  {moment : Moment} {directory : String} {w : Workspace (World σ φ)} {s s' : World σ φ}

-- ---------------------------------------------------------------------------
-- Listing
-- ---------------------------------------------------------------------------

theorem perform_statsOf
    (hw : w = World.workspace channels t.store files moment directory) (name : String)
    (s : World σ φ) : ∃ rows, (w.statsOf name).perform s = (.ok (.ofCount name rows), s) := by
  have hsame := t.countRows_still name s.data
  rw [Workspace.statsOf, Action.perform_attempt_bind, perform_countRows hw]
  cases hcount : (t.store.countRows name).perform s.data with
  | mk result data =>
    rw [hcount] at hsame
    cases hsame
    cases result with
    | ok rows => exact ⟨rows, rfl⟩
    | error e => exact ⟨0, rfl⟩

theorem told_of_inTurn {α β : Type} {told : β → α} {items : List α} {bs : List β}
    (h : Action.InTurn (fun a s b s' => told b = a ∧ s' = s) items s bs s') :
    bs.map told = items ∧ s' = s := by
  induction h with
  | done => exact ⟨rfl, rfl⟩
  | more hstep _ ih =>
    obtain ⟨htold, rfl⟩ := hstep
    obtain ⟨hrest, rfl⟩ := ih
    exact ⟨by rw [List.map_cons, htold, hrest], rfl⟩

/-- All that are listed are shown, each under its name. -/
theorem perform_tableStats
    (hw : w = World.workspace channels t.store files moment directory)
    (hready : t.IsReady s.data) : ∃ stats, w.tableStats.perform s = (.ok stats, s) ∧
      (stats.map (·.name)).Perm (t.names s.data) := by
  have hnames : w.listTables.perform s = (.ok (t.names s.data), s) := by
    rw [hw]
    exact Action.perform_mapError_ok _
      (World.onData_eq_ok.mpr ⟨t.listTables_eq hready, rfl⟩)
  have hone (name : String) (s : World σ φ) : ∃ stats s',
      (w.statsOf name).perform s = (.ok stats, s') ∧ stats.name = name ∧ s' = s := by
    obtain ⟨rows, hstats⟩ := perform_statsOf hw name s
    exact ⟨_, s, hstats, rfl, rfl⟩
  obtain ⟨stats, s', heach, hsteps⟩ := Action.perform_forEach hone (t.names s.data) s
  obtain ⟨hstats, rfl⟩ := told_of_inTurn hsteps
  refine ⟨stats.mergeSort TableStats.comesBefore, ?_, ?_⟩
  · rw [Workspace.tableStats, Action.perform_bind_ok hnames, Action.perform_bind_ok heach]
    rfl
  · rw [← hstats]
    exact (List.mergeSort_perm _ _).map _

-- ---------------------------------------------------------------------------
-- Emptying
-- ---------------------------------------------------------------------------

theorem data_of_unsaved {n : Int} {file : Option String} {s₁ : World σ φ}
    (h : Unsaved t.toDumpedTables name s n file s₁) : s₁.data = s.data := by
  have hstill := t.countRows_still name s.data
  cases h with
  | counted hcount => rwa [hcount.counting] at hstill
  | uncounted hcount => rwa [hcount] at hstill

theorem exists_unsaved (t : ReadyTables σ τ) (name : String) (s : World σ φ) :
    ∃ n file s₁, Unsaved t.toDumpedTables name s n file s₁ := by
  cases hcount : (t.store.countRows name).perform s.data with
  | mk result data =>
    cases result with
    | ok n => exact ⟨n, none, _, .counted (DumpedTables.counts_of_perform hcount)⟩
    | error e => exact ⟨0, none, _, .uncounted hcount⟩

theorem emptied_of_listed {o : CleanOutcome} (hready : t.IsReady s.data)
    (hlisted : name ∈ t.names s.data)
    (h : TableCleaned t.toDumpedTables (Unsaved t.toDumpedTables) name s o s') :
    o.success = true ∧ t.EmptiesOnly name s.data s'.data ∧ t.IsReady s'.data ∧
      t.names s'.data = t.names s.data := by
  obtain ⟨data, htruncate, hstays, hnames⟩ := t.truncate_listed hready hlisted
  cases hsuccess : o.success with
  | true =>
    obtain ⟨-, honly, s₁, hmay, -, hperform⟩ := h.emptied hsuccess
    rw [data_of_unsaved hmay, htruncate] at hperform
    cases hperform
    exact ⟨rfl, honly, hstays, hnames⟩
  | false =>
    obtain ⟨-, -, -, hrefused⟩ := h.kept hsuccess
    obtain ⟨n, file, s₁, hmay⟩ := t.exists_unsaved name s
    obtain ⟨e, data', hperform⟩ := hrefused n file s₁ hmay
    rw [data_of_unsaved hmay, htruncate] at hperform
    cases hperform

/-- What a run over listed tables leaves of them. -/
structure AllEmptied (t : ReadyTables σ τ) (tables : List String) (d : σ)
    (outcomes : List CleanOutcome) (d' : σ) : Prop where
  successes : ∀ o ∈ outcomes, o.success = true
  rowless : ∀ name ∈ tables, t.IsRowless name d'
  kept : ∀ name, t.IsRowless name d → t.IsRowless name d'

theorem allEmptied_of_inTurn {tables : List String} {outcomes : List CleanOutcome}
    (hready : t.IsReady s.data) (hlisted : ∀ name ∈ tables, name ∈ t.names s.data)
    (h : Action.InTurn (TableCleaned t.toDumpedTables (Unsaved t.toDumpedTables)) tables s
      outcomes s') : AllEmptied t tables s.data outcomes s'.data := by
  induction h with
  | done => exact ⟨nofun, nofun, fun _ => id⟩
  | more hstep _ ih =>
    obtain ⟨hfirst, hrest⟩ := List.forall_mem_cons.mp hlisted
    obtain ⟨hsuccess, honly, hstays, hnames⟩ := emptied_of_listed hready hfirst hstep
    have hall := ih hstays fun name hname => hnames ▸ hrest name hname
    refine ⟨List.forall_mem_cons.mpr ⟨hsuccess, hall.successes⟩,
      List.forall_mem_cons.mpr ⟨?_, hall.rowless⟩, fun name h => hall.kept name ?_⟩
    · exact hall.kept _ (honly.isRowless (t.find?_listed hfirst))
    · exact h.of_empties honly

end ReadyTables

-- ---------------------------------------------------------------------------
-- The command
-- ---------------------------------------------------------------------------

namespace Desk

variable {t : ReadyTables σ τ} {channels : ChannelStore σ} {files : FileStore φ}
  {moment : Moment} {directory : String} {desk : Desk (World σ φ)} {c : Console (World σ φ)}

theorem triple_agreeToClean (desk : Desk (World σ φ)) (selected : List String)
    (c : Console (World σ φ)) {E : CommandError → Console (World σ φ) → Prop} :
    (desk.agreeToClean selected true).Triple c (fun yes c' => yes = true ∧ c'.state = c.state) E := by
  rw [agreeToClean]
  split
  · exact ((Run.prints_line _).onlyIf _).bind fun _ hstate => .pure ⟨rfl, hstate⟩
  · exact .pure ⟨rfl, rfl⟩

/-- What the emptying of tables leaves: they have no rows, and all else is as it was. -/
structure Emptied (t : ReadyTables σ τ) (selected : List String) (s s' : World σ φ) : Prop where
  rowless : ∀ name ∈ selected, t.IsRowless name s'.data
  others : ∀ other, (∀ name ∈ selected, t.isSame name other = false) →
    t.find? s'.data other = t.find? s.data other
  files : s'.files = s.files

theorem triple_emptyTables
    (hd : desk.workspace = World.workspace channels t.store files moment directory)
    {o : CleanOptions} (ho : o.saves = false) {selected : List String}
    (hready : t.IsReady c.state.data) (hlisted : ∀ name ∈ selected, name ∈ t.names c.state.data)
    {E : CommandError → Console (World σ φ) → Prop} :
    (desk.emptyTables o selected).Triple c
      (fun ok c' => ok = true ∧ Emptied t selected c.state c'.state) E := by
  obtain ⟨outcomes, s', hclean, hfiles, hcleaned⟩ := clean_unsaved hd selected c.state
  have hall := ReadyTables.allEmptied_of_inTurn hready hlisted hcleaned.steps
  have hreport : (Run.during "clean failed"
      (Run.tableTask (desk.workspace.clean selected o.saves))).perform c =
        (.ok ⟨none, outcomes⟩, { c with state := s' }) :=
    Run.perform_during_tableTask_eq_ok.mpr ⟨s', ho ▸ hclean, rfl⟩
  have hsucceeded : (CleanReport.succeeded ⟨none, outcomes⟩ == outcomes.length) = true := by
    rw [CleanReport.succeeded, List.filter_eq_self.mpr hall.successes, beq_self_eq_true]
  rw [Action.Triple, emptyTables, Action.perform_bind_ok hreport]
  refine (desk.prints_present _ (Run.prints_lines _)).bind fun c' hstate => .pure ⟨hsucceeded, ?_⟩
  rw [hstate]
  exact ⟨hall.rowless, hcleaned.untouched, hfiles⟩

def nothingSelected : TableSelection → Except CommandError Bool
  | .named (name :: _) => .error (.clean (.unknownTable name))
  | _ => .ok true

theorem triple_nothingToClean (missing : List String) (c : Console (World σ φ)) :
    (nothingToClean missing).Triple c
      (fun ok c' => missing.head? = none ∧ ok = true ∧ c'.state = c.state)
      fun e c' => ∃ name, missing.head? = some name ∧ e = .clean (.unknownTable name) ∧
        c'.state = c.state := by
  cases missing with
  | nil => exact (Run.prints_line _).bind fun _ hstate => .pure ⟨rfl, rfl, hstate⟩
  | cons name rest => exact .throw ⟨name, rfl, rfl, rfl⟩

theorem triple_cleanSelection_none {o : CleanOptions} {stats : List TableStats}
    {missing : List String} (hresolve : selection.resolve (stats.map (·.name)) = ([], missing)) :
    (desk.cleanSelection o stats selection).Triple c
      (fun ok c' => nothingSelected selection = .ok ok ∧ c'.state = c.state)
      fun e c' => nothingSelected selection = .error e ∧ c'.state = c.state := by
  have hmissing := TableSelection.head?_missing (congrArg Prod.fst hresolve)
  rw [hresolve] at hmissing
  rw [cleanSelection, hresolve]
  refine ((Run.prints_line _).onlyIf _).bind fun c₁ h₁ => ?_
  refine ((Run.prints_lines _).onlyIf _).bind fun c₂ h₂ => ?_
  rw [← h₁, ← h₂]
  refine (triple_nothingToClean missing c₂).mono ?_ ?_
  · rintro ok c' ⟨hhead, rfl, hstate⟩
    refine ⟨?_, hstate⟩
    rw [hhead] at hmissing
    match selection, hmissing with
    | .named (_ :: _), hmissing => cases hmissing
    | .named [], _ | .all, _ | .logs, _ | .business, _ => rfl
  · rintro e c' ⟨name, hhead, rfl, hstate⟩
    refine ⟨?_, hstate⟩
    rw [hhead] at hmissing
    match selection, hmissing with
    | .named (_ :: _), rfl => rfl
    | .named [], hmissing => cases hmissing

theorem triple_cleanSelection_some
    (hd : desk.workspace = World.workspace channels t.store files moment directory)
    {stats : List TableStats} {selected missing : List String}
    (hready : t.IsReady c.state.data) (hlisted : ∀ name ∈ selected, name ∈ t.names c.state.data)
    (hresolve : selection.resolve (stats.map (·.name)) = (selected, missing))
    (hne : selected ≠ []) {E : CommandError → Console (World σ φ) → Prop} :
    (desk.cleanSelection ⟨some selection, false, true⟩ stats selection).Triple c
      (fun ok c' => ok = true ∧ Emptied t selected c.state c'.state) E := by
  rw [cleanSelection, hresolve]
  refine ((Run.prints_line _).onlyIf _).bind fun c₁ h₁ => ?_
  refine ((Run.prints_lines _).onlyIf _).bind fun c₂ h₂ => ?_
  dsimp only
  rw [if_neg (by simpa using hne)]
  refine ((Run.prints_lines _).onlyIf _).bind fun c₃ h₃ => ?_
  refine (triple_agreeToClean desk selected c₃).bind ?_
  rintro _ c₄ ⟨rfl, h₄⟩
  have hstate : c₄.state = c.state := h₄.trans (h₃.trans (h₂.trans h₁))
  rw [← hstate] at hready hlisted ⊢
  exact triple_emptyTables hd rfl hready hlisted

theorem perform_cleanTables
    (hd : desk.workspace = World.workspace channels t.store files moment directory)
    (hready : t.IsReady c.state.data) (o : CleanOptions) (ho : o.selection = some selection) :
    ∃ stats : List TableStats, (stats.map (·.name)).Perm (t.names c.state.data) ∧
      (desk.cleanTables o).perform c = (desk.cleanSelection o stats selection).perform c := by
  obtain ⟨stats, hstats, hnames⟩ := ReadyTables.perform_tableStats hd hready
  have hshown : desk.tableStats.perform c = (.ok stats, c) :=
    Run.perform_during_tableTask_eq_ok.mpr ⟨c.state, hstats, rfl⟩
  have hchosen : (desk.chooseTables o stats).perform c = (.ok (some selection), c) := by
    rw [chooseTables, ho]
    rfl
  exact ⟨stats, hnames, (Action.perform_bind_ok hshown).trans (Action.perform_bind_ok hchosen)⟩

/-- An agreed run without backups empties what the selection selects and nothing else.

The names of tables are distinct, and no call fails on a listed table. -/
theorem clean_empties_selection (t : ReadyTables σ τ) (desk : Desk (World σ φ))
    (hd : desk.workspace = World.workspace channels t.store files moment directory)
    (c : Console (World σ φ)) (hready : t.IsReady c.state.data)
    (hnames : (t.names c.state.data).Nodup) (selection : TableSelection) :
    ∃ existing selected missing result c',
      existing.Perm (t.names c.state.data) ∧
      selection.resolve existing = (selected, missing) ∧
      TableSelection.Parts selection existing selected missing ∧
      (desk.cleanTables ⟨some selection, false, true⟩).perform c = (result, c') ∧
      Emptied t selected c.state c'.state ∧
      (selected ≠ [] → result = .ok true) ∧
      (selected = [] → c'.state = c.state ∧ result = nothingSelected selection) := by
  obtain ⟨stats, hexisting, hrun⟩ :=
    perform_cleanTables hd hready ⟨some selection, false, true⟩ rfl
  have hparts := TableSelection.parts_resolve selection (hexisting.nodup_iff.mpr hnames)
  cases hresolve : selection.resolve (stats.map (·.name)) with
  | mk selected missing =>
    rw [hresolve] at hparts
    rw [hrun]
    by_cases hnone : selected = []
    · subst hnone
      obtain ⟨c', hperform, hstate⟩ := (triple_cleanSelection_none hresolve).exists_eq
      refine ⟨_, [], missing, _, c', hexisting, hresolve, hparts, hperform, ?_,
        fun h => absurd rfl h, fun _ => ⟨hstate, rfl⟩⟩
      rw [hstate]
      exact ⟨nofun, fun _ _ => rfl, rfl⟩
    · have hlisted : ∀ name ∈ selected, name ∈ t.names c.state.data := fun name hname =>
        hexisting.mem_iff.mp ((hparts.mem_selected name).mp hname).2
      obtain ⟨c', hperform, hemptied⟩ :=
        (triple_cleanSelection_some hd hready hlisted hresolve hnone).exists_ok
      exact ⟨_, selected, missing, _, c', hexisting, hresolve, hparts, hperform, hemptied,
        fun _ => rfl, fun h => absurd h hnone⟩

namespace Sample

def cleanedDatabase : Relational.Database where
  tables := [
    { name := "logs", columns := [⟨"id", "INTEGER"⟩], rows := [⟨1, [("id", .integer 7)]⟩] },
    { name := "users", columns := [⟨"id", "INTEGER"⟩], rows := [⟨1, [("id", .integer 1)]⟩] }]

def cleaningDesk : Desk (World Relational.Database MemoryFiles) where
  workspace := World.workspace Relational.Database.channelStore
    Relational.Database.readyTables.store MemoryFiles.store (.ofSeconds 0) "backups"
  settings := {}
  backend := .sqlite
  prober _ := .failed .forbidden "denied" 5
  duration _ := 0
  operator := .absent
  asJson := true

def cleaningConsole : Console (World Relational.Database MemoryFiles) where
  state := { data := cleanedDatabase, files := {} }

end Sample

/-- A repeated name is taken once and a missing one passed over; alone it is an error. -/
theorem clean_empties_selection_sample :
    (∃ c', (Sample.cleaningDesk.cleanTables ⟨some (.named ["logs", "nope", "logs"]), false,
        true⟩).perform Sample.cleaningConsole = (.ok true, c') ∧
      Relational.Database.readyTables.IsRowless "logs" c'.state.data ∧
      Relational.Database.readyTables.find? c'.state.data "users" =
        Sample.cleanedDatabase.tables[1]?) ∧
    ∃ c', (Sample.cleaningDesk.cleanTables ⟨some (.named ["nope"]), false, true⟩).perform
        Sample.cleaningConsole = (.error (.clean (.unknownTable "nope")), c') ∧
      c'.state = Sample.cleaningConsole.state := by
  have hrun := clean_empties_selection Relational.Database.readyTables Sample.cleaningDesk rfl
    Sample.cleaningConsole trivial (Relational.Database.nodup_tableNames (by decide))
  constructor
  · obtain ⟨existing, selected, missing, result, c', hexisting, -, hparts, hperform, hemptied,
      hsome, -⟩ := hrun (.named ["logs", "nope", "logs"])
    have hlogs : "logs" ∈ selected := (hparts.mem_selected "logs").mpr
      ⟨List.mem_cons_self, hexisting.mem_iff.mpr
        (Relational.Database.mem_tableNames.mpr ⟨⟨_, List.mem_cons_self, rfl⟩, by decide⟩)⟩
    rw [hsome (List.ne_nil_of_mem hlogs)] at hperform
    refine ⟨c', hperform, hemptied.rowless "logs" hlogs, hemptied.others "users" ?_⟩
    intro name hname
    have hwanted : name ∈ ["logs", "nope", "logs"] := ((hparts.mem_selected name).mp hname).1
    have hnone : ∀ name ∈ ["logs", "nope", "logs"], Text.sameLetters name "users" = false := by
      decide
    exact hnone name hwanted
  · obtain ⟨existing, selected, missing, result, c', hexisting, -, hparts, hperform, -, -, hnone⟩ :=
      hrun (.named ["nope"])
    have hselected : selected = [] := by
      refine List.eq_nil_iff_forall_not_mem.mpr fun name hname => ?_
      obtain ⟨hwanted, hexists⟩ := (hparts.mem_selected name).mp hname
      obtain rfl : name = "nope" := List.mem_singleton.mp hwanted
      obtain ⟨⟨t, ht, hnope⟩, -⟩ :=
        Relational.Database.mem_tableNames.mp (hexisting.mem_iff.mp hexists)
      have hother : ∀ t ∈ Sample.cleanedDatabase.tables, t.name ≠ "nope" := by decide
      exact hother t ht hnope
    obtain ⟨hstate, rfl⟩ := hnone hselected
    exact ⟨c', hperform, hstate⟩

end Desk

end ChannelKeeper

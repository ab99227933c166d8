import ChannelKeeper.Machine
import ChannelKeeper.Proofs.Store.SecretRows

/-!
# What is printed and written with hidden secrets

A listing in JSON and an export that hides secrets do not depend on what they hide: two
runs from states that are the same but for it end alike, print the same lines and leave
the same files. Other commands, and the listing as a table, which counts keys, are left
out.
-/

namespace ChannelKeeper

open ChannelKeeper.Action (Alike)

variable {σ γ ε : Type} {R : σ → σ → Prop}

-- ---------------------------------------------------------------------------
-- Exports
-- ---------------------------------------------------------------------------

/-- Related states show the same time, and are in the same zone. -/
structure Clock.IsSame (clock : Clock σ) (R : σ → σ → Prop) : Prop where
  moment (hs : R s s') :
    (Id.run (StateT.run clock.now s)).1 = (Id.run (StateT.run clock.now s')).1
  after (hs : R s s') : R (Id.run (StateT.run clock.now s)).2 (Id.run (StateT.run clock.now s')).2
  zone (hs : R s s') : clock.zone s = clock.zone s'

namespace Clock

theorem isSame_fixed (moment : Moment) : (fixed moment).IsSame R := ⟨fun _ => rfl, id, fun _ => rfl⟩

variable {clock : Clock σ}

theorem IsSame.display (h : clock.IsSame R) :
    Alike R Eq (clock.display : Action σ ε String) clock.display :=
  fun _ _ hs => ⟨.ok (congrArg Moment.display (h.moment hs)), h.after hs⟩

theorem IsSame.stamp (h : clock.IsSame R) :
    Alike R Eq (clock.stamp : Action σ ε String) clock.stamp :=
  fun _ _ hs => ⟨.ok (congrArg Moment.stamp (h.moment hs)), h.after hs⟩

theorem IsSame.localZone (h : clock.IsSame R) :
    Alike R Eq (clock.localZone : Action σ ε Zone) clock.localZone :=
  .ask fun _ _ hs => .ok (h.zone hs)

end Clock

theorem Channel.LooksLike.map_masked {rows rows' : List Channel}
    (h : List.Forall₂ Channel.LooksLike rows rows') :
    rows.map Channel.masked = rows'.map Channel.masked := by
  induction h with
  | nil => rfl
  | cons hrow _ ih => rw [List.map_cons, List.map_cons, hrow.masked_eq, ih]

theorem Workspace.exportChannels_alike {w : Workspace σ} (hlist : w.channels.HidesSecrets R)
    (hwrite : ∀ path content, Alike R Eq (w.files.write path content) (w.files.write path content))
    (hclock : w.clock.IsSame R) (f : ChannelFilter) (format : ExportFormat)
    (output : Option String) : Alike R Eq (w.exportChannels f format true output)
      (w.exportChannels f format true output) := by
  refine .bind ((hlist f).mapError _) fun rows rows' hrows => ?_
  have hmasked := Channel.LooksLike.map_masked hrows
  refine .bind hclock.display fun time _ htime => ?_
  subst htime
  refine .bind hclock.localZone fun zone _ hzone => ?_
  subst hzone
  refine .bind hclock.stamp fun stamp _ hstamp => ?_
  subst hstamp
  simp only [if_true, hmasked, List.length_map]
  exact .bind ((hwrite _ _).mapError _) fun _ _ _ => .pure rfl

-- ---------------------------------------------------------------------------
-- Runs
-- ---------------------------------------------------------------------------

/-- The same lines have been printed. -/
def Console.Alike (R : σ → σ → Prop) (c c' : Console σ) : Prop :=
  R c.state c'.state ∧ c.printed = c'.printed

namespace Run

variable {α α' : Type} {Q : α → α' → Prop}

theorem work_alike {act : Action σ ε α} {act' : Action σ ε α'} (h : Alike R Q act act')
    (f : ε → CommandError) : Alike (Console.Alike R) Q (work act f) (work act' f) :=
  (h.onPart (fun _ _ hc => hc.1) fun _ _ _ _ hs hc => ⟨hs, hc.2⟩).mapError f

theorem during_task_alike {act : Workspace.Task σ α} {act' : Workspace.Task σ α'}
    (h : Alike R Q act act') (deed : String) :
    Alike (Console.Alike R) Q (during deed (task act)) (during deed (task act')) :=
  (work_alike h _).mapError _

theorem line_alike (text : String) : Alike (Console.Alike R) Eq (line text) (line text) :=
  fun _ _ hc => ⟨.refl _, hc.1, congrArg (· ++ [text]) hc.2⟩

theorem lines_alike (texts : List String) : Alike (Console.Alike R) Eq (lines texts) (lines texts) :=
  fun _ _ hc => ⟨.refl _, hc.1, congrArg (· ++ texts) hc.2⟩

end Run

theorem Desk.present_alike (d : Desk σ) (v : Json.Value) {act : Run σ Unit}
    (h : Alike (Console.Alike R) Eq act act) :
    Alike (Console.Alike R) Eq (d.present v act) (d.present v act) := by
  rw [Desk.present]
  split
  · exact Run.line_alike _
  · exact h

theorem Desk.listChannels_alike {d : Desk σ} (hlist : d.workspace.channels.HidesSecrets R)
    (hjson : d.asJson = true) (choice : ChannelChoice) :
    Alike (Console.Alike R) Eq (d.listChannels choice) (d.listChannels choice) := by
  refine .bind (Run.during_task_alike ((hlist _).mapError _) _) fun rows rows' hrows => ?_
  have hjsonRows : rows.map (fun c => c.masked.toJson) = rows'.map (fun c => c.masked.toJson) := by
    have hmasked := congrArg (List.map Channel.toJson) (Channel.LooksLike.map_masked hrows)
    rwa [List.map_map, List.map_map] at hmasked
  rw [hjsonRows]
  simp only [Desk.present, hjson, if_true]
  exact .bind (Run.line_alike _) fun _ _ _ => .pure rfl

theorem Desk.exportChannels_alike {d : Desk σ} (hlist : d.workspace.channels.HidesSecrets R)
    (hwrite : ∀ path content, Alike R Eq (d.workspace.files.write path content)
      (d.workspace.files.write path content))
    (hclock : d.workspace.clock.IsSame R) {o : ExportOptions} (ho : o.hidesSecrets = true) :
    Alike (Console.Alike R) Eq (d.exportChannels o) (d.exportChannels o) := by
  have hexport := Workspace.exportChannels_alike hlist hwrite hclock
    { types := o.choice.types, status := o.choice.status } o.format o.output
  rw [← ho] at hexport
  refine .bind (Run.during_task_alike hexport _) fun file _ hfile => ?_
  subst hfile
  exact .bind (d.present_alike _ (Run.lines_alike _)) fun _ _ _ => .pure rfl

-- ---------------------------------------------------------------------------
-- Platforms
-- ---------------------------------------------------------------------------

/-- Only what is listed tells related states apart, and only by what is hidden of it. -/
structure Platform.HidesSecrets (p : Platform σ) (R : σ → σ → Prop) (files : σ → γ) : Prop where
  files (hs : R s s') : files s = files s'
  read (path : String) : Alike R Eq (p.files.read path) (p.files.read path)
  write (path content : String) : Alike R Eq (p.files.write path content) (p.files.write path content)
  clock : p.clock.IsSame R
  connect (dsn : String) : Alike R (fun g g' => g' = g ∧ g.channels.HidesSecrets R) (p.connect dsn)
    (p.connect dsn)

/-- A command that shows channels with their secrets hidden. -/
def Invocation.hidesSecrets (i : Invocation) : Bool :=
  match i.command with
  | .channels (.list _) => i.options.asJson
  | .channels (.exportFile options) => options.hidesSecrets
  | _ => false

theorem Settings.load_alike {files : FileStore σ}
    (h : ∀ path, Alike R Eq (files.read path) (files.read path)) (path : String) :
    Alike R Eq (Settings.load files path : Action σ ε Settings) (Settings.load files path) := by
  have hread : Alike R Eq (Settings.read files path) (Settings.read files path) := by
    refine .bind (h path).attempt fun content content' hcontent => ?_
    obtain rfl := hcontent.eq
    split
    · split
      · exact .pure rfl
      · exact .throw _
    · split
      · exact .pure rfl
      · exact .throw _
  refine .bind hread.attempt fun found found' hfound => ?_
  obtain rfl := hfound.eq
  split
  · exact .pure rfl
  · exact .pure rfl
  · exact .pure rfl

namespace Platform

variable {p : Platform σ} {files : σ → γ}

theorem HidesSecrets.run_alike (hp : p.HidesSecrets R files) {i : Invocation}
    (hi : i.hidesSecrets = true) : Alike (Console.Alike R) Eq (p.run i) (p.run i) := by
  have hconnected : ∀ dsn, Alike (Console.Alike R)
      (fun g g' => g' = g ∧ g.channels.HidesSecrets R) (p.connected dsn) (p.connected dsn) :=
    fun dsn => (Run.work_alike (hp.connect dsn) _).mapError _
  refine .bind (Run.work_alike (Settings.load_alike hp.read _) id) fun settings _ hsettings => ?_
  subst hsettings
  obtain ⟨options, command⟩ := i
  cases command with
  | channels command =>
    refine .bind (hconnected _) fun g g' hg => ?_
    obtain ⟨rfl, hlist⟩ := hg
    cases command with
    | list choice => exact Desk.listChannels_alike hlist hi choice
    | exportFile o => exact Desk.exportChannels_alike hlist hp.write hp.clock hi
    | count | backup | importFile | restore | test => cases hi
  | keys | models | tables | check | completions => cases hi

end Platform

-- ---------------------------------------------------------------------------
-- Channels in memory
-- ---------------------------------------------------------------------------

namespace World

variable {φ : Type}

structure LooksLike (w w' : World MemoryChannels φ) : Prop where
  data : w.data.LooksLike w'.data
  files : w.files = w'.files

/-- The same for channels in memory, whatever the files are. -/
theorem masked_export_same {w w' : World MemoryChannels φ} (h : w.LooksLike w')
    (tables : TableStore MemoryChannels) (files : FileStore φ) (moment : Moment)
    (directory : String) (f : ChannelFilter) (format : ExportFormat) (output : Option String) :
    let act := (workspace MemoryChannels.store tables files moment directory).exportChannels f
      format true output
    (act.perform w).1 = (act.perform w').1 ∧ (act.perform w).2.files = (act.perform w').2.files := by
  have hlist : (workspace MemoryChannels.store tables files moment directory).channels.HidesSecrets
      LooksLike :=
    MemoryChannels.store_hidesSecrets.onPart (fun _ _ h => h.data)
      fun _ _ _ _ hdata h => ⟨hdata, h.files⟩
  have hexport := Workspace.exportChannels_alike hlist
    (fun _ _ => .onSamePart _ (fun _ _ h => h.files) fun _ _ _ h => ⟨h.data, rfl⟩)
    (Clock.isSame_fixed moment) f format output
  obtain ⟨hresult, hstate⟩ := hexport w w' h
  exact ⟨hresult.eq, hstate.files⟩

end World

-- ---------------------------------------------------------------------------
-- Machines
-- ---------------------------------------------------------------------------

namespace Machine

open Relational (Database)

/-- Machines whose databases are the same but for what is hidden of secrets. -/
structure LooksLike (m m' : Machine) : Prop where
  disk : m.disk = m'.disk
  tools : m.tools = m'.tools
  zone : m.zone = m'.zone
  databases : List.Forall₂ (fun d d' => d.1 = d'.1 ∧ d.2.LooksLike d'.2) m.databases m'.databases

variable {m m' : Machine}

theorem LooksLike.database (h : m.LooksLike m') (place : DatabasePlace) :
    (m.database place).LooksLike (m'.database place) := by
  have hdatabases := h.databases
  rw [Machine.database, Machine.database]
  generalize m.databases = dbs at hdatabases
  generalize m'.databases = dbs' at hdatabases
  induction hdatabases with
  | nil => exact .nil
  | cons hd _ ih =>
    rw [List.find?_cons, List.find?_cons, ← hd.1]
    split
    · exact hd.2
    · exact ih

theorem LooksLike.setDatabase (h : m.LooksLike m') (place : DatabasePlace) {db db' : Database}
    (hdb : db.LooksLike db') : (m.setDatabase place db).LooksLike (m'.setDatabase place db') := by
  refine ⟨h.disk, h.tools, h.zone, List.rel_append ?_ (.cons ⟨rfl, hdb⟩ .nil)⟩
  refine Lists.forall₂_filter (fun d d' hd => ?_) h.databases
  rw [hd.1]

theorem LooksLike.setDisk (h : m.LooksLike m') (disk : Disk) :
    (m.setDisk disk).LooksLike (m'.setDisk disk) :=
  ⟨rfl, h.tools, h.zone, h.databases⟩

theorem LooksLike.withoutDatabase (h : m.LooksLike m') (place : DatabasePlace) :
    { m with databases := m.databases.filter (·.1 != place) }.LooksLike
      { m' with databases := m'.databases.filter (·.1 != place) } := by
  refine ⟨h.disk, h.tools, h.zone, Lists.forall₂_filter (fun d d' hd => ?_) h.databases⟩
  rw [hd.1]

/-- Where a file is written, and which database is lost with it, depends on the disk alone. -/
theorem write_alike (path content : String) :
    Alike LooksLike Eq (files.write path content) (files.write path content) := by
  intro m m' h
  simp only [files, Action.perform_ofFunction, Machine.write, ← h.disk]
  split
  · exact ⟨.refl _, (h.setDisk _).withoutDatabase _⟩
  · exact ⟨.refl _, h.setDisk _⟩

theorem LooksLike.any_eq (h : m.LooksLike m') (place : DatabasePlace) :
    m.databases.any (·.1 == place) = m'.databases.any (·.1 == place) := by
  have hdatabases := h.databases
  generalize m.databases = dbs at hdatabases
  generalize m'.databases = dbs' at hdatabases
  induction hdatabases with
  | nil => rfl
  | cons hd _ ih => rw [List.any_cons, List.any_cons, hd.1, ih]

theorem LooksLike.checkDatabase (h : m.LooksLike m') (place : DatabasePlace) :
    m.checkDatabase place = m'.checkDatabase place := by
  cases place with
  | memory => rfl
  | file location => simp only [Machine.checkDatabase, h.disk, h.any_eq]

theorem gateway_hidesSecrets (place : DatabasePlace) :
    (gateway place).channels.HidesSecrets LooksLike := by
  have hstore : (Database.channelStore.onPart (database place) (setDatabase place)).HidesSecrets
      LooksLike :=
    Database.store_hidesSecrets.onPart (fun _ _ h => h.database place)
      fun _ _ _ _ hdb h => h.setDatabase place hdb
  exact fun f => (hstore f).guarded fun _ _ h => h.checkDatabase place

/-- Where a database is depends on the disk, and on which databases there are. -/
theorem LooksLike.openFile (h : m.LooksLike m') (path : String) (mode : OpenMode) :
    ResultsAlike (fun out out' => out.1 = out'.1 ∧ out.2.LooksLike out'.2) (m.openFile path mode)
      (m'.openFile path mode) := by
  rw [Machine.openFile, Machine.openFile, ← h.disk]
  split
  · exact .error _
  · rename_i location _
    dsimp only
    rw [← h.any_eq]
    split
    · exact .error _
    · split
      · exact .ok ⟨rfl, h⟩
      · exact .error _
    · split
      · split
        · rename_i disk _
          exact .ok ⟨rfl, rfl, h.tools, h.zone, h.databases⟩
        · exact .error _
      · exact .error _

theorem LooksLike.openDatabase (h : m.LooksLike m') (url : String) :
    ResultsAlike (fun out out' => out.1 = out'.1 ∧ out.2.LooksLike out'.2) (m.openDatabase url)
      (m'.openDatabase url) := by
  rw [Machine.openDatabase, Machine.openDatabase]
  split
  · exact .error _
  · dsimp only
    refine ResultsAlike.bind (.refl _) fun mode _ hmode => ?_
    subst hmode
    split
    · exact .ok ⟨rfl, h⟩
    · exact h.openFile _ mode

theorem connect_alike (dsn : String) :
    Alike LooksLike (fun g g' => g' = g ∧ g.channels.HidesSecrets LooksLike)
      (.change (·.connect dsn)) (.change (·.connect dsn)) := by
  refine .change fun m m' h => ?_
  rw [Machine.connect, Machine.connect]
  split
  · exact .error _
  · rename_i url _
    rw [Machine.connectUrl, Machine.connectUrl]
    dsimp only
    split
    · exact .error _
    · have hopen := h.openDatabase url
      generalize m.openDatabase url = opened at hopen
      generalize m'.openDatabase url = opened' at hopen
      cases hopen with
      | @ok out out' hout =>
        obtain ⟨place, after⟩ := out
        obtain ⟨place', after'⟩ := out'
        obtain ⟨rfl, hafter⟩ := hout
        exact .ok ⟨⟨rfl, gateway_hidesSecrets place⟩, hafter⟩
      | error e => exact .error _
    · exact .error _

theorem platform_hidesSecrets (moment : Moment) :
    (platform moment).HidesSecrets LooksLike Machine.disk where
  files h := h.disk
  read _ := .onSamePart _ (fun _ _ h => h.disk) fun disk _ _ h => h.setDisk disk
  write := write_alike
  clock := ⟨fun _ => rfl, id, LooksLike.zone⟩
  connect dsn := by
    simp only [platform]
    exact connect_alike dsn

/-- Channels whose tables are the same but for what is hidden of secrets.

An export that hides secrets gives the same result and leaves the same files, for every
filter, format and path. So does a command that exports so, or that lists in JSON, and it
prints the same lines. -/
theorem masked_output_same {m m' : Machine} (h : m.LooksLike m') (moment : Moment) :
    (∀ place directory f format output,
      let act := ((gateway place).workspace (platform moment) directory).exportChannels f format
        true output
      (act.perform m).1 = (act.perform m').1 ∧ (act.perform m).2.disk = (act.perform m').2.disk) ∧
    ∀ i : Invocation, i.hidesSecrets = true →
      (m.run moment i).1 = (m'.run moment i).1 ∧
      (m.run moment i).2.printed = (m'.run moment i).2.printed ∧
      (m.run moment i).2.state.disk = (m'.run moment i).2.state.disk := by
  have hp := platform_hidesSecrets moment
  constructor
  · intro place directory f format output act
    have hexport := Workspace.exportChannels_alike
      (w := (gateway place).workspace (platform moment) directory) (gateway_hidesSecrets place)
      hp.write hp.clock f format output
    obtain ⟨hresult, hstate⟩ := hexport m m' h
    exact ⟨hresult.eq, hstate.disk⟩
  · intro i hi
    obtain ⟨hresult, hstate, hprinted⟩ := hp.run_alike hi { state := m } { state := m' } ⟨h, rfl⟩
    exact ⟨hresult.eq, hprinted, hstate.disk⟩

end Machine

namespace Sample

def keyMachine (key other : String) : Machine where
  disk := { nodes := [(["gw.db"], .file (.text "") 0)] }
  databases := [(.file ["gw.db"], { tables := [
    { name := "channels"
      columns := [⟨"id", "INTEGER"⟩, ⟨"key", "TEXT"⟩, ⟨"other", "TEXT"⟩]
      rows := [⟨1, [("id", .integer 1), ("key", .text key), ("other", .text other)]⟩] }] })]

/-- Of the key four characters differ, and of the other secret everything. -/
def leftMachine : Machine := keyMachine "sk-aAAAAzzzz" "w"

def rightMachine : Machine := keyMachine "sk-aBBBBBzzzz" "geheim"

theorem leftMachine_looksLike : leftMachine.LooksLike rightMachine where
  disk := rfl
  tools := rfl
  zone := rfl
  databases := by
    refine .cons ⟨rfl, .cons ⟨rfl, .cons ⟨by decide +kernel, ?_⟩ .nil⟩ .nil⟩ .nil
    intro name hn
    simp only [Relational.secretColumns, List.mem_cons, List.not_mem_nil, or_false] at hn
    rcases hn with rfl | rfl
    · exact .long (by decide) (by decide) (by decide) (by decide)
    · exact .short (by decide) (by decide)

def listing : Invocation := ⟨{ dsn := some "sqlite:gw.db", asJson := true }, .channels (.list {})⟩

def sheetExport : Invocation :=
  ⟨{ dsn := some "sqlite:gw.db" }, .channels (.exportFile ⟨{}, .csv, some "keys.csv", true⟩)⟩

end Sample

/-- A channel is listed, and a sheet of it is written. -/
theorem masked_output_same_sample :
    (Sample.leftMachine.run (.ofSeconds 0) Sample.listing).1 = .ok true ∧
      (Sample.leftMachine.run (.ofSeconds 0) Sample.listing).2.printed =
        (Sample.rightMachine.run (.ofSeconds 0) Sample.listing).2.printed ∧
      (Sample.leftMachine.run (.ofSeconds 0) Sample.sheetExport).2.state.disk =
        (Sample.rightMachine.run (.ofSeconds 0) Sample.sheetExport).2.state.disk ∧
      (Sample.leftMachine.run (.ofSeconds 0) Sample.sheetExport).2.state.disk.node?
        ["keys.csv"] ≠ none := by
  have hsame := Machine.masked_output_same Sample.leftMachine_looksLike (.ofSeconds 0)
  exact ⟨by decide +kernel, (hsame.2 Sample.listing rfl).2.1, (hsame.2 Sample.sheetExport rfl).2.2,
    by decide +kernel⟩

end ChannelKeeper

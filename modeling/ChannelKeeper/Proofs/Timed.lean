import ChannelKeeper.Proofs.Backup.SavedFirst

/-!
# Worlds in which time goes on

A world with a clock that shows one given second after the other, each time that it is
read, as the clocks of a zone show it. A snapshot reads it twice, for the name of its file
and for the time in its document, and in between it lists all rows. The seconds may be any,
in any order, and so may the zone.
-/

namespace ChannelKeeper

/-- The two parts of a world, the seconds that its clock is going to show, and where. -/
structure Timed (δ φ : Type) where
  data : δ
  files : φ
  readings : Nat → Int
  zone : Zone := .universal

namespace Timed

variable {δ φ ε α : Type}

/-- What the clock shows after it was read so many times. -/
def moment (s : Timed δ φ) (n : Nat) : Moment := .ofSeconds (s.readings n) s.zone

def tick (s : Timed δ φ) : Timed δ φ := { s with readings := fun n => s.readings (n + 1) }

/-- The workspace over stores and files that know nothing of each other and of the time. -/
def workspace (channels : ChannelStore δ) (tables : TableStore δ) (files : FileStore φ)
    (directory : String) : Workspace (Timed δ φ) where
  channels := channels.onPart Timed.data fun data s => { s with data := data }
  tables := tables.onPart Timed.data fun data s => { s with data := data }
  files := files.onPart Timed.files fun files s => { s with files := files }
  clock := { now := fun s => (s.moment 0, s.tick), zone := Timed.zone }
  backupDirectory := directory

section

variable {channels : ChannelStore δ} {tables : TableStore δ} {files : FileStore φ}
  {directory : String} (start source : String) {s : Timed δ φ} {data : δ}

theorem perform_insert (c : Channel) (keepId : Bool) (s : Timed δ φ) :
    ((workspace channels tables files directory).channels.insert c keepId).perform s =
      (((channels.insert c keepId).perform s.data).1,
        { s with data := ((channels.insert c keepId).perform s.data).2 }) := rfl

theorem perform_deleteAll (s : Timed δ φ) :
    (Workspace.stored (workspace channels tables files directory).channels.deleteAll).perform s =
      ((channels.deleteAll.perform s.data).1.mapError .store,
        { s with data := (channels.deleteAll.perform s.data).2 }) :=
  Action.perform_mapError _ _ s

theorem perform_list (f : ChannelFilter) (s : Timed δ φ) :
    (Workspace.stored ((workspace channels tables files directory).channels.list f)).perform s =
      (((channels.list f).perform s.data).1.mapError .store,
        { s with data := ((channels.list f).perform s.data).2 }) :=
  Action.perform_mapError _ _ s

theorem perform_writeFile (path content : String) (s : Timed δ φ) :
    ((workspace channels tables files directory).writeFile path content).perform s =
      (((files.write path content).perform s.files).1.mapError fun e =>
          .io (path ++ ": " ++ e.detail),
        { s with files := ((files.write path content).perform s.files).2 }) :=
  Action.perform_mapError _ _ s

def savePath (s : Timed δ φ) (directory start : String) : String :=
  (s.moment 0).backupPath directory start

def saveText (s : Timed δ φ) (source : String) (rows : List Channel) : String :=
  (Backup.ofChannels (s.moment 1).display source rows).render

theorem perform_stampedPath (s : Timed δ φ) :
    ((workspace channels tables files directory).stampedPath start).perform s =
      (.ok (s.savePath directory start), s.tick) := rfl

theorem perform_snapshot_unlisted
    (h : (channels.list .everything).perform s.data = (.error e, data)) :
    ((workspace channels tables files directory).snapshot start source).perform s =
      (.error (.store e), { s.tick with data := data }) := by
  rw [Workspace.snapshot, Action.perform_bind_ok (perform_stampedPath start s)]
  refine Action.perform_bind_error ?_
  rw [perform_list, show s.tick.data = s.data from rfl, h]
  rfl

theorem perform_snapshot_listed
    (h : (channels.list .everything).perform s.data = (.ok rows, data)) :
    ((workspace channels tables files directory).snapshot start source).perform s =
      let path := s.savePath directory start
      let written := (files.write path (s.saveText source rows)).perform s.files
      ((written.1.mapError fun e => .io (path ++ ": " ++ e.detail)).map fun _ => ⟨path, rows.length⟩,
        { s.tick.tick with data := data, files := written.2 }) := by
  let w := workspace channels tables files directory
  have hlist : (Workspace.stored (w.channels.list .everything)).perform s.tick =
      (.ok rows, { s.tick with data := data }) := by
    rw [perform_list, show s.tick.data = s.data from rfl, h]
    rfl
  have htime : (w.clock.display : Workspace.Task _ _).perform { s.tick with data := data } =
      (.ok (s.moment 1).display, { s.tick.tick with data := data }) := rfl
  have hwrite : (w.writeFile (s.savePath directory start) (s.saveText source rows)).perform
      { s.tick.tick with data := data } = _ := perform_writeFile _ _ _
  rw [Workspace.snapshot, Action.perform_bind_ok (perform_stampedPath start s),
    Workspace.writeBackup, Action.perform_bind_ok hlist, Action.perform_bind_ok htime]
  dsimp only
  rw [show ({ s.tick.tick with data := data } : Timed δ φ).files = s.files from rfl] at hwrite
  rcases hwritten : (files.write (s.savePath directory start) (s.saveText source rows)).perform
    s.files with ⟨_ | _, after⟩
  · rw [hwritten] at hwrite
    exact Action.perform_bind_error hwrite
  · rw [hwritten] at hwrite
    exact Action.perform_bind_ok hwrite

end

end Timed

end ChannelKeeper

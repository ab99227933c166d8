import ChannelKeeper.Command.Program
import ChannelKeeper.Deployment.Toolbox
import ChannelKeeper.Files.Disk
import ChannelKeeper.Store.Relational

/-!
# Machines

A machine has a disk, programs, a time zone, and the embedded databases that lie in
files of the disk. It reaches no server, and nobody sits at it. A database that is
not there is only made if its address asks for that, and one whose file is written
over is lost.
-/

namespace ChannelKeeper

inductive DatabasePlace where
  | file (location : Location)
  | memory
deriving DecidableEq, Repr

structure Machine where
  disk : Disk
  databases : List (DatabasePlace × Relational.Database) := []
  tools : Toolbox := {}
  zone : Zone := .universal

namespace Machine

-- ---------------------------------------------------------------------------
-- Databases
-- ---------------------------------------------------------------------------

def database (place : DatabasePlace) (m : Machine) : Relational.Database :=
  ((m.databases.find? (·.1 == place)).map (·.2)).getD {}

def setDatabase (place : DatabasePlace) (db : Relational.Database) (m : Machine) : Machine :=
  { m with databases := (m.databases.filter (·.1 != place)) ++ [(place, db)] }

def setDisk (disk : Disk) (m : Machine) : Machine := { m with disk := disk }

/-- What else is written to the file of a database takes the place of it. -/
def write (m : Machine) (path content : String) : Except IoError Unit × Machine :=
  let (result, disk) := m.disk.write path content
  match result, disk.locate path with
  | .ok (), .ok location =>
    (.ok (), { m.setDisk disk with databases := m.databases.filter (·.1 != .file location) })
  | _, _ => (result, m.setDisk disk)

def files : FileStore Machine :=
  { Disk.store.onPart disk setDisk with write := fun path content => .ofFunction (·.write path content) }

def notADatabase : String := "error returned from database: (code: 26) file is not a database"

/-- Statements need a file that is empty, or that a database lies in. -/
def checkDatabase (place : DatabasePlace) (m : Machine) : Except StoreError Unit :=
  match place with
  | .memory => .ok ()
  | .file location =>
    match m.disk.node? location with
    | some (.file content _) =>
      if content.size = 0 || m.databases.any (·.1 == place) then .ok ()
      else .error (.query notADatabase)
    | _ => .error (.query notADatabase)

def gateway (place : DatabasePlace) : Gateway Machine where
  backend := .sqlite
  channels := (Relational.Database.channelStore.onPart (database place) (setDatabase place)).guarded
    (checkDatabase place)
  tables := (Relational.Database.tableStore.onPart (database place) (setDatabase place)).guarded
    (checkDatabase place)

-- ---------------------------------------------------------------------------
-- Connecting
-- ---------------------------------------------------------------------------

inductive OpenMode where
  | existing
  | orCreate
  | inMemory
deriving DecidableEq, Repr

def refused (detail : String) : String := "error with configuration: " ++ detail

def OpenMode.withParameter (mode : OpenMode) : String × String → Except String OpenMode
  | ("mode", "ro") | ("mode", "rw") => .ok mode
  | ("mode", "rwc") => .ok .orCreate
  | ("mode", "memory") => .ok .inMemory
  | ("mode", value) => .error (refused ("unknown value \"" ++ value ++ "\" for `mode`"))
  | ("cache", _) | ("immutable", _) | ("vfs", _) => .ok mode
  | (name, _) =>
    .error (refused ("unknown query parameter `" ++ name ++ "` while parsing connection URL"))

def openMode (parameters : List (String × String)) : Except String OpenMode :=
  parameters.foldlM OpenMode.withParameter .existing

def cannotOpen : String := "error returned from database: (code: 14) unable to open database file"

/-- Finds the file of a database or makes an empty one. -/
def openFile (m : Machine) (path : String) (mode : OpenMode) : Except String (DatabasePlace × Machine) :=
  match m.disk.locate path with
  | .error _ => .error cannotOpen
  | .ok location =>
    let place := DatabasePlace.file location
    match m.disk.node? location with
    | some .directory => .error cannotOpen
    | some (.file content _) =>
      if content.size = 0 || m.databases.any (·.1 == place) then .ok (place, m) else .error notADatabase
    | none =>
      if mode = .orCreate then
        match m.disk.writeFile path "" with
        | .ok disk => .ok (place, { m with disk := disk })
        | .error _ => .error cannotOpen
      else .error cannotOpen

/-- The file in the address of an embedded database, and the parameters. -/
def addressParts (url : Url) : String × List (String × String) :=
  let text := (Text.afterStart? "sqlite:" url.render).getD url.render
  let text := (Text.afterStart? "//" text).getD text
  let (file, parameters) := Dsn.splitOptional '?' text
  (file, Url.Form.parse parameters.toList)

def openDatabase (m : Machine) (url : String) : Except String (DatabasePlace × Machine) := do
  match Url.parse url with
  | .error fault => .error (refused fault.message)
  | .ok u =>
    let (file, parameters) := addressParts u
    let mode ← openMode parameters
    if mode = .inMemory || file == ":memory:" then .ok (.memory, m)
    else m.openFile (Text.Utf8.decodeLossy (Url.percentDecode file.toList)) mode

/-- What a connection pool says when no server answers. -/
def noServer : String := "pool timed out while waiting for an open connection"

def connectUrl (m : Machine) (url : String) : Except StoreError (Gateway Machine × Machine) :=
  let failed (detail : String) : StoreError := .connection (Dsn.masked url ++ ": " ++ detail)
  match Dsn.backendOf url with
  | .error e => .error (.connection e.message)
  | .ok .sqlite =>
    match m.openDatabase url with
    | .ok (place, m) => .ok (gateway place, m)
    | .error detail => .error (failed detail)
  | .ok _ => .error (failed noServer)

def connect (m : Machine) (dsn : String) : Except StoreError (Gateway Machine × Machine) :=
  match Dsn.connectionUrl dsn with
  | .error e => .error (.connection e.message)
  | .ok url => m.connectUrl url

-- ---------------------------------------------------------------------------
-- The platform
-- ---------------------------------------------------------------------------

def platform (moment : Moment) : Platform Machine where
  files := files
  clock := { now := pure moment, zone := zone }
  commands program arguments directory :=
    (Toolbox.runner program arguments directory).onPart tools fun tools m => { m with tools := tools }
  connect dsn := .change (·.connect dsn)
  transport := .offline
  duration _ := 0
  operator := .absent

/-- Runs the program and gives how it ended and what is then on the machine. -/
def run (m : Machine) (moment : Moment) (i : Invocation) : Except CommandError Bool × Console Machine :=
  ((platform moment).run i).perform { state := m }

end Machine

end ChannelKeeper

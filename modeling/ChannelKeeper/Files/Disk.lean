import ChannelKeeper.Files.Basic

/-!
# Files on a disk

A tree of directories and files with a working directory. A path is followed part
by part: every part but the last must be a directory that is there, and two dots
lead back. Errors carry the text of the system's error numbers.
-/

namespace ChannelKeeper

/-- The names from the root down. -/
abbrev Location := List String

inductive DiskNode where
  | directory
  | file (content : Content) (modified : Int)
deriving DecidableEq, Repr

structure Disk where
  nodes : List (Location × DiskNode) := []
  workingDirectory : Location := []
  /-- The time that written files get. -/
  now : Int := 0
deriving DecidableEq, Repr

namespace Disk

def noSuchFile : IoError := ⟨.notFound, "No such file or directory (os error 2)"⟩
def notADirectory : IoError := ⟨.notADirectory, "Not a directory (os error 20)"⟩
def isADirectory : IoError := ⟨.isADirectory, "Is a directory (os error 21)"⟩
def fileExists : IoError := ⟨.alreadyExists, "File exists (os error 17)"⟩

def node? (d : Disk) (at_ : Location) : Option DiskNode :=
  if at_.isEmpty || at_ == d.workingDirectory then some .directory
  else (d.nodes.find? (·.1 == at_)).map (·.2)

def put (d : Disk) (at_ : Location) (node : DiskNode) : Disk :=
  if d.nodes.any (·.1 == at_) then
    { d with nodes := d.nodes.map fun (l, old) => if l == at_ then (l, node) else (l, old) }
  else { d with nodes := d.nodes ++ [(at_, node)] }

def step (d : Disk) (at_ : Location) (name : String) : Except IoError Location :=
  match d.node? at_ with
  | none => .error noSuchFile
  | some (.file ..) => .error notADirectory
  | some .directory =>
    if name == "." then .ok at_
    else if name == ".." then .ok at_.dropLast
    else .ok (at_ ++ [name])

/-- Where a path leads. The last part need not be there. A slash at the end asks
for a directory. -/
def locate (d : Disk) (path : String) : Except IoError Location :=
  let names := (Text.splitOn '/' path).filter (!·.isEmpty)
  let asked := if path.toList.getLast? = some '/' then names ++ ["."] else names
  if path.isEmpty then .error noSuchFile
  else asked.foldlM d.step (if Path.isAbsolute path then [] else d.workingDirectory)

def nodeAt (d : Disk) (path : String) : Except IoError (Location × DiskNode) := do
  let at_ ← d.locate path
  match d.node? at_ with
  | some node => .ok (at_, node)
  | none => .error noSuchFile

def isDirectory (d : Disk) (path : String) : Bool :=
  match d.nodeAt path with
  | .ok (_, .directory) => true
  | _ => false

def read (d : Disk) (path : String) : Except IoError String := do
  match ← d.nodeAt path with
  | (_, .directory) => .error isADirectory
  | (_, .file content _) => content.readText

def withoutEndSlash (path : String) : String :=
  String.ofList (path.toList.reverse.dropWhile (· == '/')).reverse

/-- Makes one directory in a directory that is there. -/
def makeDirectory (d : Disk) (path : String) : Except IoError Disk := do
  let trimmed := withoutEndSlash path
  let at_ ← d.locate (if trimmed.isEmpty then path else trimmed)
  match d.node? at_ with
  | some _ => .error fileExists
  | none =>
    match d.node? at_.dropLast with
    | some .directory => .ok (d.put at_ .directory)
    | some (.file ..) => .error notADirectory
    | none => .error noSuchFile

/-- A directory that is there already is no failure. -/
def ensureDirectory (d : Disk) (path : String) : Except IoError Disk :=
  match d.makeDirectory path with
  | .ok d => .ok d
  | .error e => if d.isDirectory path then .ok d else .error e

/-- Makes a directory and those above it. If one is missing above it, that is
made first; the fuel bounds how many are. -/
def createDirectories : Nat → Disk → String → Except IoError Unit × Disk
  | 0, d, _ => (.ok (), d)
  | fuel + 1, d, path =>
    if path.isEmpty then (.ok (), d)
    else match d.makeDirectory path with
      | .ok d => (.ok (), d)
      | .error e =>
        if e.kind != .notFound then
          (if d.isDirectory path then .ok () else .error e, d)
        else match Path.parent? path with
          | none => (.error e, d)
          | some parent =>
            match createDirectories fuel d parent with
            | (.error e, d) => (.error e, d)
            | (.ok (), d) =>
              match d.ensureDirectory path with
              | .ok d => (.ok (), d)
              | .error e => (.error e, d)

def createDirectory (d : Disk) (path : String) : Except IoError Unit × Disk :=
  createDirectories ((Path.parts path).length + 2) d path

def writeFile (d : Disk) (path content : String) : Except IoError Disk := do
  let at_ ← d.locate path
  let file : DiskNode := .file (.text content) d.now
  match d.node? at_ with
  | some .directory => .error isADirectory
  | some (.file ..) => .ok (d.put at_ file)
  | none =>
    match d.node? at_.dropLast with
    | some .directory => .ok (d.put at_ file)
    | some (.file ..) => .error notADirectory
    | none => .error noSuchFile

/-- Directories made for a file stay when the file cannot be written. -/
def write (d : Disk) (path content : String) : Except IoError Unit × Disk :=
  let (made, d) : Except IoError Unit × Disk := match Path.parent? path with
    | some parent => if parent.isEmpty then (.ok (), d) else d.createDirectory parent
    | none => (.ok (), d)
  match made with
  | .error e => (.error e, d)
  | .ok () =>
    match d.writeFile path content with
    | .ok d => (.ok (), d)
    | .error e => (.error e, d)

def entryIn? (path : String) (directory : Location) (node : Location × DiskNode) : Option FileEntry :=
  match node with
  | (at_, .file content modified) =>
    match at_.getLast? with
    | some name =>
      if at_.dropLast == directory then some ⟨Path.join path name, content.size, some modified⟩ else none
    | none => none
  | (_, .directory) => none

def list (d : Disk) (path : String) : Except IoError (List FileEntry) := do
  match ← d.nodeAt path with
  | (_, .file ..) => .error notADirectory
  | (at_, .directory) =>
    .ok ((d.nodes.filterMap (entryIn? path at_)).mergeSort fun a b => a.path ≤ b.path)

def store : FileStore Disk where
  write path content := .ofFunction (·.write path content)
  read path := .ask (·.read path)
  createDirectory path := .ofFunction (·.createDirectory path)
  exists? path := .ask fun d => .ok (d.nodeAt path).isOk
  list path := .ask (·.list path)

end Disk

end ChannelKeeper

import ChannelKeeper.Files.Basic

/-!
# Files in memory

A list of files under their exact paths, for trying operations out. There are no
directories: a directory is there as soon as a file is in it. The place can be
closed for writing.
-/

namespace ChannelKeeper

structure KeptFile where
  path : String
  content : Content
  modified : Option Int
deriving DecidableEq, Repr

structure MemoryFiles where
  files : List KeptFile := []
  isReadOnly : Bool := false
  /-- The time that written files get. -/
  now : Int := 0
deriving DecidableEq, Repr

namespace MemoryFiles

def find? (m : MemoryFiles) (path : String) : Option KeptFile := m.files.find? (·.path == path)

def put (m : MemoryFiles) (path content : String) : MemoryFiles :=
  let file : KeptFile := ⟨path, .text content, some m.now⟩
  if (m.find? path).isSome then
    { m with files := m.files.map fun f => if f.path == path then file else f }
  else { m with files := m.files ++ [file] }

def readOnly : IoError := ⟨.permissionDenied, "read-only"⟩

def write (m : MemoryFiles) (path content : String) : Except IoError (Unit × MemoryFiles) :=
  if m.isReadOnly then .error readOnly else .ok ((), m.put path content)

def read (m : MemoryFiles) (path : String) : Except IoError String :=
  match m.find? path with
  | some f => f.content.readText
  | none => .error ⟨.notFound, "no such file"⟩

def isIn (directory : String) (f : KeptFile) : Bool :=
  (Path.parent? f.path).any (Path.same directory)

/-- A place without any file that is closed for writing cannot be listed. -/
def list (m : MemoryFiles) (directory : String) : Except IoError (List FileEntry) :=
  let found := m.files.filter (isIn directory)
  if m.files.isEmpty && m.isReadOnly then .error ⟨.permissionDenied, "unreadable"⟩
  else if found.isEmpty then .error ⟨.notFound, "no such directory"⟩
  else
    let entries := found.map fun f => ⟨f.path, f.content.size, f.modified⟩
    .ok (entries.mergeSort fun a b => a.path ≤ b.path)

def store : FileStore MemoryFiles where
  write path content := .change (·.write path content)
  read path := .ask (·.read path)
  createDirectory _ := .ask fun m => if m.isReadOnly then .error readOnly else .ok ()
  exists? path := .ask fun m => .ok (m.find? path).isSome
  list path := .ask (·.list path)

end MemoryFiles

end ChannelKeeper

import ChannelKeeper.Action
import ChannelKeeper.Files.Path
import ChannelKeeper.Text.Utf8

/-!
# Files

What the operations need of a place that keeps files: writing, reading, making
directories and listing them. Each operation fails with a kind of error and the
text that the place gives for it.
-/

namespace ChannelKeeper

inductive IoKind where
  | notFound
  | permissionDenied
  | isADirectory
  | notADirectory
  | alreadyExists
  | invalidData
deriving DecidableEq, Repr

structure IoError where
  kind : IoKind
  detail : String
deriving DecidableEq, Repr

/-- The file's content is no text. -/
def IoError.notText : IoError := ⟨.invalidData, "stream did not contain valid UTF-8"⟩

/-- What a file holds: text, or octets that may be none. -/
inductive Content where
  | text (s : String)
  | octets (ns : List Nat)
deriving DecidableEq, Repr

namespace Content

def size : Content → Nat
  | .text s => s.utf8ByteSize
  | .octets ns => ns.length

def toText? : Content → Option String
  | .text s => some s
  | .octets ns => Text.Utf8.decode? ns

def readText (c : Content) : Except IoError String :=
  match c.toText? with
  | some s => .ok s
  | none => .error .notText

end Content

structure FileEntry where
  path : String
  size : Nat
  /-- Seconds since 1970. -/
  modified : Option Int
deriving DecidableEq, Repr

namespace FileEntry

def name (e : FileEntry) : String := (Path.fileName? e.path).getD ""

end FileEntry

structure FileStore (σ : Type) where
  /-- Writes a file and makes the directories above it. -/
  write : String → String → Action σ IoError Unit
  read : String → Action σ IoError String
  createDirectory : String → Action σ IoError Unit
  exists? : String → Action σ IoError Bool
  /-- The files right inside a directory, by path. -/
  list : String → Action σ IoError (List FileEntry)

/-- The same place as a part of a larger state. -/
def FileStore.onPart {σ τ : Type} (get : τ → σ) (set : σ → τ → τ) (files : FileStore σ) : FileStore τ where
  write path content := (files.write path content).onPart get set
  read path := (files.read path).onPart get set
  createDirectory path := (files.createDirectory path).onPart get set
  exists? path := (files.exists? path).onPart get set
  list path := (files.list path).onPart get set

end ChannelKeeper

import ChannelKeeper.Failure
import ChannelKeeper.Files.Basic
import ChannelKeeper.Settings.Basic
import ChannelKeeper.Toml.Reader

/-!
# Reading settings

Unknown names are passed over; a known name with a value of another kind makes
the whole file unreadable. A section may also be written as an array of its
values in order. Without a readable file the defaults hold.
-/

namespace ChannelKeeper

namespace Toml.Value

/-- The values of a section by name. A date is a section without known names. -/
def section? (order : List String) : Value → Option (String → Option Value)
  | .table members => some fun name => (members.find? (·.1 == name)).map (·.2)
  | .array items => some fun name => items[order.idxOf name]?
  | .date => some fun _ => none
  | _ => none

def toText? : Value → Option String
  | .string s => some s
  | _ => none

def toInt? : Value → Option Int
  | .integer n => some n
  | _ => none

def toNat? : Value → Option Nat
  | .integer n => if 0 ≤ n then some n.toNat else none
  | _ => none

def toPort? (v : Value) : Option Nat := v.toNat?.filter (· < 65536)

def toInts? : Value → Option (List Int)
  | .array items => items.mapM toInt?
  | _ => none

end Toml.Value

namespace Settings

open Toml (Value)

/-- A value that is not there is the default; one that is must be readable. -/
def field {α : Type} (value : Option Value) (read : Value → Option α) (default : α) : Option α :=
  match value with
  | none => some default
  | some v => read v

def optionalField {α : Type} (value : Option Value) (read : Value → Option α) : Option (Option α) :=
  field value (fun v => (read v).map some) none

def readDatabase (v : Value) : Option DatabaseSettings := do
  let get ← v.section? ["dsn", "host", "port", "user", "password", "name"]
  let dsn ← optionalField (get "dsn") Value.toText?
  let host ← optionalField (get "host") Value.toText?
  let port ← optionalField (get "port") Value.toPort?
  let user ← optionalField (get "user") Value.toText?
  let password ← optionalField (get "password") Value.toText?
  let name ← optionalField (get "name") Value.toText?
  return ⟨dsn, host, port, user, password, name⟩

def readTester (v : Value) : Option TesterSettings := do
  let get ← v.section? ["model", "workers", "timeout_secs", "base_url", "gemini_types"]
  let known : TesterSettings := {}
  let model ← field (get "model") Value.toText? known.model
  let workers ← field (get "workers") Value.toNat? known.workers
  let timeout ← field (get "timeout_secs") Value.toNat? known.timeoutSeconds
  let baseUrl ← optionalField (get "base_url") Value.toText?
  let types ← field (get "gemini_types") Value.toInts? known.types
  return ⟨model, workers, timeout, baseUrl, types⟩

def readBackup (known : String) (v : Value) : Option String := do
  let get ← v.section? ["dir"]
  field (get "dir") Value.toText? known

def readCompose (v : Value) : Option ComposeSettings := do
  let get ← v.section? ["file", "service"]
  let known : ComposeSettings := {}
  let file ← field (get "file") Value.toText? known.file
  let service ← field (get "service") Value.toText? known.service
  return ⟨file, service⟩

def ofValue? (v : Value) : Option Settings := do
  let get ← v.section? ["database", "tester", "backup", "compose"]
  let known : Settings := {}
  let database ← field (get "database") readDatabase known.database
  let tester ← field (get "tester") readTester known.tester
  let directory ← field (get "backup") (readBackup known.backupDirectory) known.backupDirectory
  let compose ← field (get "compose") readCompose known.compose
  return ⟨database, tester, directory, compose⟩

def ofText? (text : String) : Option Settings := Toml.read? text >>= ofValue?

variable {σ : Type}

/-- The settings of a file; none if there is no file. -/
def read (files : FileStore σ) (path : String) : Action σ ConfigError (Option Settings) := do
  match ← (files.read path).attempt with
  | .ok content =>
    match ofText? content with
    | some settings => return some settings
    | none => throw (.parse path)
  | .error e =>
    if e.kind = .notFound then return none
    else throw (.read (path ++ ": " ++ e.detail))

/-- The settings of a file, or the defaults; this does not fail. -/
def load {ε : Type} (files : FileStore σ) (path : String) : Action σ ε Settings := do
  match ← (read files path).attempt with
  | .ok (some settings) => return settings
  | .ok none | .error _ => return {}

end Settings

end ChannelKeeper

import ChannelKeeper.Channel.Codec
import ChannelKeeper.Json.Writer

/-!
# Backup documents

A backup is a JSON document of channels with the time, version and source of its
writing. The count it states is its own: reading does not compare it with the
number of channels that follow.
-/

namespace ChannelKeeper

structure Backup where
  exportTime : String
  version : String
  total : Nat
  source : String
  channels : List Channel

namespace Backup

open Json

def currentVersion : String := "1.0.0"

/-- Sources named in documents. -/
def sourceFull : String := "MySQL Docker Compose"

def sourceExport : String := "Export"

def sourceReset : String := "Reset Operation"

def ofChannels (time source : String) (channels : List Channel) : Backup :=
  ⟨time, currentVersion, channels.length, source, channels⟩

def isCounted (b : Backup) : Bool := b.version == currentVersion && b.total == b.channels.length

def toJson (b : Backup) : Value :=
  .object [
    ("export_time", .string b.exportTime),
    ("export_version", .string b.version),
    ("total_channels", .nat b.total),
    ("database_info", .string b.source),
    ("channels", .array (b.channels.map Channel.toJson))]

def render (b : Backup) : String := b.toJson.pretty

def fields : List String :=
  ["export_time", "export_version", "total_channels", "database_info", "channels"]

def ofDocument? (document : Document) : Option Backup := do
  let r ← Record.ofDocument? fields document
  let exportTime ← r.required "export_time" Document.toText?
  let version ← r.required "export_version" Document.toText?
  let total ← r.required "total_channels" Document.toNat?
  let source ← r.required "database_info" Document.toText?
  let channel := Channel.ofDocument? (Value.depthLimit - 3)
  let channels ← r.withDefault "channels" (Document.toList? channel) []
  return ⟨exportTime, version, total, source, channels⟩

def read? (text : String) : Option Backup := Document.read? text >>= ofDocument?

end Backup

def failureLine (name : String) (id : Int) (message : String) : String :=
  name ++ " (ID:" ++ toString id ++ "): " ++ message

/-- What an import did to each channel of a document. -/
structure ImportReport where
  total : Nat := 0
  success : Nat := 0
  failed : Nat := 0
  skipped : Nat := 0
  errors : List String := []
  dryRun : Bool := false
deriving DecidableEq, Repr

namespace ImportReport

def recordSuccess (r : ImportReport) : ImportReport := { r with success := r.success + 1 }

def recordSkip (r : ImportReport) : ImportReport := { r with skipped := r.skipped + 1 }

def recordFailure (r : ImportReport) (c : Channel) (message : String) : ImportReport :=
  { r with failed := r.failed + 1, errors := r.errors ++ [failureLine c.name c.id message] }

end ImportReport

/-- What a restore did to the table and to each channel of a document. -/
structure RestoreReport where
  total : Nat := 0
  restored : Nat := 0
  failed : Nat := 0
  deleted : Nat := 0
  errors : List String := []
  /-- Where the rows were saved first, if they were. -/
  snapshot : Option String := none
  dryRun : Bool := false
deriving DecidableEq, Repr

end ChannelKeeper

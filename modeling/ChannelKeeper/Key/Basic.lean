import ChannelKeeper.Channel.Basic
import ChannelKeeper.Csv
import ChannelKeeper.Probe.Result
import ChannelKeeper.Text.Lowercase

/-!
# Keys of channels

Plain keys are taken out of channels with what is known of their channel, and
written as lists: one key to a line, with a comment on its channel, or as
comma-separated records. A list is read back line by line, without comments.
-/

namespace ChannelKeeper

open Json

inductive KeyExportFormat where
  | simple
  | detailed
  | csv
deriving DecidableEq, Repr

namespace KeyExportFormat

def name : KeyExportFormat → String
  | .simple => "simple"
  | .detailed => "detailed"
  | .csv => "csv"

def extension : KeyExportFormat → String
  | .csv => "csv"
  | .simple | .detailed => "txt"

/-- Names are read in any case; an unknown one is reported in lower case. -/
def parse (text : String) : Except String KeyExportFormat :=
  match Text.lowercase text with
  | "simple" => .ok .simple
  | "detailed" => .ok .detailed
  | "csv" => .ok .csv
  | other =>
    .error ("invalid key export format: '" ++ other ++ "' (expected simple, detailed or csv)")

end KeyExportFormat

def Channel.extractKeys (c : Channel) : List ExtractedKey :=
  c.plainKeys.map fun key => ⟨c.id, c.name, c.kind, c.status, key, c.models⟩

def extractKeys (channels : List Channel) : List ExtractedKey := channels.flatMap Channel.extractKeys

structure KeySummary where
  totalKeys : Nat
  uniqueChannels : Nat
  enabled : Nat
  disabled : Nat
  samples : List String
deriving DecidableEq, Repr

namespace KeySummary

def ofKeys (keys : List ExtractedKey) : KeySummary :=
  let enabled := (keys.filter (·.isEnabled)).length
  { totalKeys := keys.length
    uniqueChannels := (keys.map (·.channelId)).eraseDups.length
    enabled := enabled
    disabled := keys.length - enabled
    samples := (keys.take 5).map fun k => Credential.preview k.apiKey }

def toJson (s : KeySummary) : Value :=
  .object [
    ("total_keys", .nat s.totalKeys),
    ("unique_channels", .nat s.uniqueChannels),
    ("enabled", .nat s.enabled),
    ("disabled", .nat s.disabled),
    ("samples", .array (s.samples.map .string))]

end KeySummary

namespace KeyList

def statusWord (k : ExtractedKey) : String := if k.isEnabled then "enabled" else "disabled"

def renderSimple (keys : List String) : String := String.join (keys.map (· ++ "\n"))

def detailedEntry (k : ExtractedKey) : String :=
  "# Channel: " ++ k.channelName ++ " (ID: " ++ toString k.channelId ++ ", Status: " ++
    statusWord k ++ ")\n" ++ k.apiKey ++ "\n\n"

def sheetRecord (k : ExtractedKey) : List String :=
  [toString k.channelId, k.channelName, statusWord k, k.apiKey, Text.replace ',' ";" k.models]

def render (format : KeyExportFormat) (keys : List ExtractedKey) : String :=
  match format with
  | .simple => renderSimple (keys.map (·.apiKey))
  | .detailed => String.join (keys.map detailedEntry)
  | .csv =>
    Csv.render (["channel_id", "channel_name", "status", "api_key", "models"] :: keys.map sheetRecord)

/-- The keys of a list: lines that are neither blank nor comments. -/
def parse (content : String) : List String :=
  ((Text.lines content).map Text.trim).filter fun line => line ≠ "" ∧ line.toList.head? ≠ some '#'

end KeyList

end ChannelKeeper

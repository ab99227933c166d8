import ChannelKeeper.Backup
import ChannelKeeper.Calendar
import ChannelKeeper.Csv
import ChannelKeeper.Text.Lowercase

/-!
# Exports of channels

Channels are exported as a backup document, as a sheet of comma-separated
records, or as a text to be read by people.
-/

namespace ChannelKeeper

inductive ExportFormat where
  | json
  | csv
  | txt
deriving DecidableEq, Repr

namespace ExportFormat

def extension : ExportFormat → String
  | .json => "json"
  | .csv => "csv"
  | .txt => "txt"

/-- Names are read in any case; an unknown one is reported in lower case. -/
def parse (text : String) : Except String ExportFormat :=
  match Text.lowercase text with
  | "json" => .ok .json
  | "csv" => .ok .csv
  | "txt" | "text" => .ok .txt
  | other => .error ("invalid export format: '" ++ other ++ "' (expected json, csv or txt)")

end ExportFormat

namespace Channel

def sheetHeader : List String :=
  ["ID", "Name", "Type", "TypeName", "Status", "StatusName", "Group", "Weight", "Priority",
    "Balance", "UsedQuota", "Models", "BaseURL", "CreatedTime", "TestTime", "ResponseTime", "Tag",
    "Key", "Other", "Setting"]

def balanceText (c : Channel) : String := Decimal.fixed 2 c.balance

def numberText (n : Option Int) : String := (n.map toString).getD ""

def sheetRecord (zone : Zone) (c : Channel) : List String :=
  [toString c.id, c.name, toString c.kind, c.typeName, toString c.status, c.statusName, c.group,
    numberText c.weight, numberText c.priority, c.balanceText, toString c.usedQuota, c.models,
    c.baseUrl.getD "", Calendar.momentText c.createdTime zone, Calendar.momentText c.testTime zone,
    toString c.responseTime, c.tag.getD "", c.key, c.other, c.setting.getD ""]

def renderSheet (channels : List Channel) (zone : Zone) : String :=
  Csv.render (sheetHeader :: channels.map (sheetRecord zone))

def optionalLine (title : String) : Option String → String
  | none => ""
  | some text => title ++ ": " ++ text ++ "\n"

def textBlock (zone : Zone) (c : Channel) : String :=
  let line (title text : String) := title ++ ": " ++ text ++ "\n"
  let unlessEmpty (text : Option String) := text.filter fun t => !t.isEmpty
  let ifPositive (n : Int) (text : String) := if 0 < n then some text else none
  line "Channel ID" (toString c.id) ++
    line "Name" c.name ++
    line "Type" (c.typeName ++ " (" ++ toString c.kind ++ ")") ++
    line "Status" (c.statusName ++ " (" ++ toString c.status ++ ")") ++
    line "Group" c.group ++
    optionalLine "Weight" (c.weight.map toString) ++
    optionalLine "Priority" (c.priority.map toString) ++
    line "Balance" c.balanceText ++
    line "Used quota" (toString c.usedQuota) ++
    line "Models" c.models ++
    optionalLine "Base URL" c.ownBaseUrl ++
    optionalLine "Tag" (unlessEmpty c.tag) ++
    line "Created" (Calendar.momentText c.createdTime zone) ++
    optionalLine "Last tested" (ifPositive c.testTime (Calendar.momentText c.testTime zone)) ++
    optionalLine "Response time" (ifPositive c.responseTime (toString c.responseTime ++ " ms")) ++
    line "Key" c.key ++
    optionalLine "Setting" (unlessEmpty c.setting) ++
    Text.repeated '-' 80 ++ "\n"

def renderText (channels : List Channel) (time : String) (zone : Zone) : String :=
  "Channel export report\n" ++
    "Export time: " ++ time ++ "\n" ++
    "Total channels: " ++ toString channels.length ++ "\n" ++
    Text.repeated '=' 80 ++ "\n\n" ++
    String.join (channels.map (textBlock zone))

/-- Times of the channels are shown in a zone; that of the export is given as a text. -/
def renderExport (format : ExportFormat) (channels : List Channel) (time source : String)
    (zone : Zone := .universal) : String :=
  match format with
  | .json => (Backup.ofChannels time source channels).render
  | .csv => renderSheet channels zone
  | .txt => renderText channels time zone

end Channel

end ChannelKeeper

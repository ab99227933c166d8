import ChannelKeeper.Channel.Basic
import ChannelKeeper.Json.Writer
import ChannelKeeper.Relational.Cell

/-!
# Channels as rows

Each field of a channel has a column of its own. Gateways differ in which of the
columns their table has; a field without a column is not written and read as its
default, and so is a field whose cell is null.
-/

namespace ChannelKeeper

open Relational (Datum)

/-- A field of a channel and the column that holds it. -/
structure ChannelColumn where
  name : String
  kind : Sql.ValueKind
  write : Channel → Datum
  read : Datum → Channel → Channel

namespace ChannelColumn

-- ---------------------------------------------------------------------------
-- Cells of each kind
-- ---------------------------------------------------------------------------

def int? : Datum → Option Int
  | .integer n => some n
  | _ => none

def text? : Datum → Option String
  | .text s => some s
  | _ => none

def float? : Datum → Option Binary64
  | .real x => some x
  | _ => none

def optionalInt : Option Int → Datum
  | some n => .integer n
  | none => .null

def optionalText : Option String → Datum
  | some s => .text s
  | none => .null

def int (name : String) (get : Channel → Int) (set : Int → Channel → Channel) : ChannelColumn :=
  ⟨name, .int, fun c => .integer (get c), fun d => set ((int? d).getD 0)⟩

def maybeInt (name : String) (get : Channel → Option Int) (set : Option Int → Channel → Channel) :
    ChannelColumn :=
  ⟨name, .int, fun c => optionalInt (get c), fun d => set (int? d)⟩

def text (name : String) (get : Channel → String) (set : String → Channel → Channel) : ChannelColumn :=
  ⟨name, .text, fun c => .text (get c), fun d => set ((text? d).getD "")⟩

def maybeText (name : String) (get : Channel → Option String)
    (set : Option String → Channel → Channel) : ChannelColumn :=
  ⟨name, .text, fun c => optionalText (get c), fun d => set (text? d)⟩

-- ---------------------------------------------------------------------------
-- Further settings
-- ---------------------------------------------------------------------------

/-- The settings are a JSON document; a text that is none is kept as a string. -/
def infoOfCell : Option String → Json.Value
  | none => .null
  | some s => if Text.isBlankText s then .null else (Json.Value.read? s).getD (.string s)

/-- No settings are written as an empty object, and a string as it is. -/
def infoText : Json.Value → String
  | .null => "\x7b\x7d"
  | .string s => s
  | v => v.compact

-- ---------------------------------------------------------------------------
-- The columns
-- ---------------------------------------------------------------------------

/-- In the order of the gateway's table. -/
def all : List ChannelColumn := [
  int "id" (·.id) fun v c => { c with id := v },
  int "type" (·.kind) fun v c => { c with kind := v },
  text "key" (·.key) fun v c => { c with key := v },
  maybeText "open_ai_organization" (·.organization) fun v c => { c with organization := v },
  maybeText "test_model" (·.testModel) fun v c => { c with testModel := v },
  int "status" (·.status) fun v c => { c with status := v },
  text "name" (·.name) fun v c => { c with name := v },
  maybeInt "weight" (·.weight) fun v c => { c with weight := v },
  int "created_time" (·.createdTime) fun v c => { c with createdTime := v },
  int "test_time" (·.testTime) fun v c => { c with testTime := v },
  int "response_time" (·.responseTime) fun v c => { c with responseTime := v },
  maybeText "base_url" (·.baseUrl) fun v c => { c with baseUrl := v },
  text "other" (·.other) fun v c => { c with other := v },
  ⟨"balance", .float, fun c => .real c.balance, fun d c => { c with balance := (float? d).getD .zero }⟩,
  int "balance_updated_time" (·.balanceUpdatedTime) fun v c => { c with balanceUpdatedTime := v },
  text "models" (·.models) fun v c => { c with models := v },
  text "group" (·.group) fun v c => { c with group := v },
  int "used_quota" (·.usedQuota) fun v c => { c with usedQuota := v },
  maybeText "model_mapping" (·.modelMapping) fun v c => { c with modelMapping := v },
  maybeText "status_code_mapping" (·.statusCodeMapping) fun v c => { c with statusCodeMapping := v },
  maybeInt "priority" (·.priority) fun v c => { c with priority := v },
  maybeInt "auto_ban" (·.autoBan) fun v c => { c with autoBan := v },
  text "other_info" (·.otherInfo) fun v c => { c with otherInfo := v },
  maybeText "tag" (·.tag) fun v c => { c with tag := v },
  maybeText "setting" (·.setting) fun v c => { c with setting := v },
  maybeText "param_override" (·.paramOverride) fun v c => { c with paramOverride := v },
  ⟨"channel_info", .text, fun c => .text (infoText c.info),
    fun d c => { c with info := infoOfCell (text? d) }⟩]

def declarations : List Column :=
  all.map fun c =>
    ⟨c.name, match c.kind with | .int => "INTEGER" | .float => "REAL" | .text => "TEXT"⟩

end ChannelColumn

end ChannelKeeper

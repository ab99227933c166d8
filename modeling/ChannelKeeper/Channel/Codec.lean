import ChannelKeeper.Channel.Basic
import ChannelKeeper.Json.Record

/-!
# Channels in JSON

A channel is written with all its members in the order of the table. Read back,
every member may be left out; an optional one may be `null`, and `channel_info`
may be any value.
-/

namespace ChannelKeeper.Channel

open Json

def fields : List String :=
  ["id", "type", "key", "openai_organization", "test_model", "status", "name", "weight",
    "created_time", "test_time", "response_time", "base_url", "other", "balance",
    "balance_updated_time", "models", "group", "used_quota", "model_mapping",
    "status_code_mapping", "priority", "auto_ban", "other_info", "tag", "setting",
    "param_override", "channel_info"]

def toJson (c : Channel) : Value :=
  .object [
    ("id", .int c.id),
    ("type", .int c.kind),
    ("key", .string c.key),
    ("openai_organization", .optional .string c.organization),
    ("test_model", .optional .string c.testModel),
    ("status", .int c.status),
    ("name", .string c.name),
    ("weight", .optional .int c.weight),
    ("created_time", .int c.createdTime),
    ("test_time", .int c.testTime),
    ("response_time", .int c.responseTime),
    ("base_url", .optional .string c.baseUrl),
    ("other", .string c.other),
    ("balance", .float c.balance),
    ("balance_updated_time", .int c.balanceUpdatedTime),
    ("models", .string c.models),
    ("group", .string c.group),
    ("used_quota", .int c.usedQuota),
    ("model_mapping", .optional .string c.modelMapping),
    ("status_code_mapping", .optional .string c.statusCodeMapping),
    ("priority", .optional .int c.priority),
    ("auto_ban", .optional .int c.autoBan),
    ("other_info", .string c.otherInfo),
    ("tag", .optional .string c.tag),
    ("setting", .optional .string c.setting),
    ("param_override", .optional .string c.paramOverride),
    ("channel_info", c.info)]

/-- Reads a channel inside which at most `depth` containers may still nest. -/
def ofDocument? (depth : Nat) (document : Document) : Option Channel := do
  let r ← Record.ofDocument? fields document
  let int (field : String) := r.withDefault field Document.toInt? 0
  let text (field : String) := r.withDefault field Document.toText? ""
  let someInt (field : String) := r.withDefault field (Document.nullable Document.toInt?) none
  let someText (field : String) := r.withDefault field (Document.nullable Document.toText?) none
  return {
    id := ← int "id"
    kind := ← int "type"
    key := ← text "key"
    organization := ← someText "openai_organization"
    testModel := ← someText "test_model"
    status := ← int "status"
    name := ← text "name"
    weight := ← someInt "weight"
    createdTime := ← int "created_time"
    testTime := ← int "test_time"
    responseTime := ← int "response_time"
    baseUrl := ← someText "base_url"
    other := ← text "other"
    balance := ← r.withDefault "balance" Document.toFloat? .zero
    balanceUpdatedTime := ← int "balance_updated_time"
    models := ← text "models"
    group := ← text "group"
    usedQuota := ← int "used_quota"
    modelMapping := ← someText "model_mapping"
    statusCodeMapping := ← someText "status_code_mapping"
    priority := ← someInt "priority"
    autoBan := ← someInt "auto_ban"
    otherInfo := ← text "other_info"
    tag := ← someText "tag"
    setting := ← someText "setting"
    paramOverride := ← someText "param_override"
    info := ← r.withDefault "channel_info" (Value.ofDocument? depth) .null }

def read? (text : String) : Option Channel :=
  Document.read? text >>= ofDocument? (Value.depthLimit - 1)

end ChannelKeeper.Channel

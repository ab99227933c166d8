import ChannelKeeper.Table.Basic

/-!
# The catalog of known tables

The gateway's tables with their purpose, importance and category, the presets of
tables that may be emptied, and the advice that follows an emptied table. A table
that is not in the catalog is of unknown importance and category.
-/

namespace ChannelKeeper

structure TableInfo where
  name : String
  description : String
  purpose : String
  importance : Importance
  category : TableCategory
  impact : String
  fields : List String
deriving DecidableEq, Repr

namespace Catalog

def tables : List TableInfo := [
  { name := "channels"
    description := "API channel configuration"
    purpose := "Upstream provider credentials, endpoints and model routing"
    importance := .critical
    category := .core
    impact := "Every relayed AI request fails until channels are configured again"
    fields := ["id", "name", "type", "key", "status", "models", "base_url"] },
  { name := "users"
    description := "User accounts"
    purpose := "User identities, credentials, roles and quota balances"
    importance := .critical
    category := .core
    impact := "All users lose access and their remaining balance"
    fields := ["id", "username", "password", "role", "quota", "status"] },
  { name := "tokens"
    description := "API access tokens"
    purpose := "Tokens clients present when calling the gateway"
    importance := .high
    category := .core
    impact := "Every client needs a newly issued token"
    fields := ["id", "user_id", "key", "name", "remain_quota", "status"] },
  { name := "abilities"
    description := "Channel abilities"
    purpose := "Maps group and model pairs to the channels serving them"
    importance := .high
    category := .business
    impact := "Model routing breaks until abilities are rebuilt from channels"
    fields := ["group", "model", "channel_id", "enabled", "priority"] },
  { name := "redemptions"
    description := "Redemption codes"
    purpose := "Top-up codes and their redemption state"
    importance := .medium
    category := .business
    impact := "Unredeemed codes are lost"
    fields := ["id", "user_id", "key", "status", "quota"] },
  { name := "topups"
    description := "Top-up records"
    purpose := "Online payment and recharge history"
    importance := .medium
    category := .business
    impact := "Payment history is lost"
    fields := ["id", "user_id", "amount", "money", "trade_no", "status"] },
  { name := "logs"
    description := "Usage logs"
    purpose := "Per-request consumption records"
    importance := .low
    category := .logs
    impact := "Usage history and statistics are lost"
    fields := ["id", "user_id", "created_at", "type", "content", "model_name", "quota"] },
  { name := "quota_data"
    description := "Quota statistics"
    purpose := "Usage aggregated per user and model"
    importance := .low
    category := .logs
    impact := "Usage charts start from zero"
    fields := ["id", "user_id", "model_name", "created_at", "count", "quota"] },
  { name := "midjourneys"
    description := "Midjourney tasks"
    purpose := "Image generation task records"
    importance := .low
    category := .logs
    impact := "Image task history is lost"
    fields := ["id", "user_id", "mj_id", "action", "status", "progress"] },
  { name := "tasks"
    description := "Asynchronous tasks"
    purpose := "Long-running generation jobs such as music and video"
    importance := .medium
    category := .logs
    impact := "In-flight tasks lose their state"
    fields := ["id", "task_id", "platform", "user_id", "status", "progress"] },
  { name := "options"
    description := "System options"
    purpose := "Key/value system settings"
    importance := .high
    category := .system
    impact := "All settings revert to their defaults"
    fields := ["key", "value"] },
  { name := "setups"
    description := "Setup state"
    purpose := "Records whether first-run setup has completed"
    importance := .critical
    category := .system
    impact := "The gateway re-enters first-run setup"
    fields := ["id", "version", "initialized_at"] }]

/-- Tables of logs, safe to empty. -/
def logTables : List String := ["logs", "quota_data", "midjourneys", "tasks"]

/-- The log tables and the records of business transactions. -/
def businessTables : List String := logTables ++ ["redemptions", "topups"]

def find? (table : String) : Option TableInfo := tables.find? (·.name == table)

def importanceOf (table : String) : Importance := ((find? table).map (·.importance)).getD .unknown

def categoryOf (table : String) : TableCategory := ((find? table).map (·.category)).getD .unknown

def descriptionOf (table : String) : String := ((find? table).map (·.description)).getD ""

/-- Advice once a table has been emptied. -/
def noteAfterCleaning (table : String) : Option String :=
  match table with
  | "users" =>
    some "User accounts were removed; create a new administrator before logging in."
  | "channels" =>
    some "Channels were removed; configure providers again or restore a channel backup."
  | "tokens" => some "Tokens were removed; clients need newly issued API tokens."
  | "options" => some "System options were removed; settings are back to their defaults."
  | "abilities" => some "Abilities were removed; they are rebuilt when channels are saved again."
  | _ => none

end Catalog

/-- The advice for every table that was emptied, in order. -/
def notesAfterCleaning (outcomes : List CleanOutcome) : List (String × String) :=
  (outcomes.filter (·.success)).filterMap fun o =>
    (Catalog.noteAfterCleaning o.table).map fun note => (o.table, note)

end ChannelKeeper

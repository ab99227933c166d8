import ChannelKeeper.Dsn
import ChannelKeeper.Platform
import ChannelKeeper.Settings.Basic

/-!
# The check of the deployment

Whether the database's container is up and whether the database answers. Neither
failing keeps the other from being looked at.
-/

namespace ChannelKeeper

structure CheckReport where
  composeFile : String
  service : String
  /-- The answer of the compose tool, or why there is none. -/
  container : Except String ServiceStatus
  dsn : String
  backend : Option Sql.Backend
  /-- The number of channels, or why the database does not tell it. -/
  channels : Except String Int

namespace CheckReport

def isRunning (r : CheckReport) : Bool :=
  match r.container with
  | .ok status => status.isRunning
  | .error _ => false

def isHealthy (r : CheckReport) : Bool := r.isRunning && r.channels.isOk

def fault? {α : Type} : Except String α → Option String
  | .ok _ => none
  | .error message => some message

def toJson (r : CheckReport) : Json.Value :=
  .object [
    ("compose_file", .string r.composeFile),
    ("service", .string r.service),
    ("tool", .optional (fun s => .string s.tool) r.container.toOption),
    ("service_running", .bool r.isRunning),
    ("service_error", .optional .string (fault? r.container)),
    ("dsn", .string r.dsn),
    ("backend", .optional (fun b => .string b.name) r.backend),
    ("database_ok", .bool r.channels.isOk),
    ("channels", .optional .int r.channels.toOption),
    ("database_error", .optional .string (fault? r.channels))]

def containerLine (r : CheckReport) : String :=
  match r.container with
  | .error message => "  ✗ " ++ message
  | .ok status =>
    if status.isRunning then "  ✓ Service " ++ r.service ++ " is up (" ++ status.tool ++ ")"
    else "  ✗ Service " ++ r.service ++ " is not running (compose file: " ++ r.composeFile ++ ")"

def databaseLine (r : CheckReport) : String :=
  match r.channels with
  | .error message => "  ✗ Database unreachable: " ++ message
  | .ok count =>
    "  ✓ " ++ ((r.backend.map (·.name)).getD "database") ++ " reachable, " ++ toString count ++ " channel(s)"

def lines (r : CheckReport) : List String :=
  ["", "  Deployment check", "", r.containerLine, "  i DSN: " ++ r.dsn, r.databaseLine, ""]

end CheckReport

namespace Platform

variable {σ ε : Type}

def checkContainer (p : Platform σ) (compose : ComposeSettings) :
    Action σ ε (Except String ServiceStatus) := do
  match ← (Compose.status p.commands compose.file compose.service).attempt with
  | .ok status => return .ok status
  | .error e => return .error ("docker compose unavailable: " ++ e.detail)

def checkDatabase (p : Platform σ) (dsn : String) :
    Action σ ε (Option Sql.Backend × Except String Int) := do
  match ← (p.connect dsn).attempt with
  | .error e => return (none, .error e.message)
  | .ok gateway =>
    match ← gateway.channels.count.attempt with
    | .ok count => return (some gateway.backend, .ok count)
    | .error e => return (some gateway.backend, .error e.message)

def check (p : Platform σ) (settings : Settings) (dsn : String) : Action σ ε CheckReport := do
  let container ← p.checkContainer settings.compose
  let (backend, channels) ← p.checkDatabase dsn
  return {
    composeFile := settings.compose.file
    service := settings.compose.service
    container := container
    dsn := Dsn.masked dsn
    backend := backend
    channels := channels }

end Platform

end ChannelKeeper

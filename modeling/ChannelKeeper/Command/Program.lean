import ChannelKeeper.Command.Check
import ChannelKeeper.Command.Keys
import ChannelKeeper.Command.Tables
import ChannelKeeper.Settings.Reader

/-!
# The program

A command is carried out with the settings of a file and the database that they or
the command line name. Without a connection only the check goes on.
-/

namespace ChannelKeeper

namespace Platform

variable {σ : Type}

open Run

/-- The settings file that is read where none is named. -/
def settingsFile : String := "config.toml"

/-- Sends to the base URL of the settings, unless it is blank. -/
def sender (p : Platform σ) (settings : Settings) : Gemini.Sender :=
  { transport := p.transport
    baseUrl := (settings.tester.baseUrl.filter fun u => !Text.isBlankText u).getD Gemini.defaultBaseUrl
    timeoutSeconds := settings.tester.timeoutSeconds }

def desk (p : Platform σ) (settings : Settings) (gateway : Gateway σ) (asJson : Bool) : Desk σ where
  workspace := gateway.workspace p settings.backupDirectory
  settings := settings
  backend := gateway.backend
  prober := (p.sender settings).prober
  duration := p.duration
  operator := p.operator
  asJson := asJson

def connected (p : Platform σ) (dsn : String) : Run σ (Gateway σ) :=
  during "failed to connect to the database" (work (p.connect dsn) .connection)

def runCheck (p : Platform σ) (settings : Settings) (dsn : String) (asJson : Bool) : Run σ Bool := do
  let report ← work (p.check settings dsn) id
  if asJson then json report.toJson else lines report.lines
  return report.isHealthy

def carryOut (p : Platform σ) (settings : Settings) (dsn : String) (asJson : Bool) :
    Command → Run σ Bool
  | .completions _ => pure true
  | .check => p.runCheck settings dsn asJson
  | .channels command => do (p.desk settings (← p.connected dsn) asJson).channelCommand command
  | .keys command => do (p.desk settings (← p.connected dsn) asJson).keyCommand command
  | .models command => do (p.desk settings (← p.connected dsn) asJson).modelCommand command
  | .tables command => do (p.desk settings (← p.connected dsn) asJson).tableCommand command

def run (p : Platform σ) (i : Invocation) : Run σ Bool := do
  let settings ← work (Settings.load p.files (i.options.settingsFile.getD settingsFile)) id
  p.carryOut settings (settings.resolveDsn i.options.dsn) i.options.asJson i.command

end Platform

end ChannelKeeper

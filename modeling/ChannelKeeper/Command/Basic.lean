import ChannelKeeper.Channel.Export
import ChannelKeeper.Key.Basic
import ChannelKeeper.Table.Selection

/-!
# Commands

What an operator can ask the program to do. Commands that change something carry
whether the operator has agreed to it beforehand.
-/

namespace ChannelKeeper

/-- Channels by type and status; no type means a default of the command. -/
structure ChannelChoice where
  types : List Int := []
  status : Option Int := none
deriving DecidableEq, Repr

structure ExportOptions where
  choice : ChannelChoice
  format : ExportFormat
  output : Option String
  hidesSecrets : Bool
deriving DecidableEq, Repr

structure ImportOptions where
  file : String
  updateExisting : Bool
  dryRun : Bool
  agreed : Bool
deriving DecidableEq, Repr

structure RestoreOptions where
  file : String
  dryRun : Bool
  agreed : Bool
deriving DecidableEq, Repr

structure BatchOptions where
  model : Option String
  workers : Option Nat
deriving DecidableEq, Repr

structure ChannelTestOptions where
  /-- A single channel, whatever its type. -/
  channelId : Option Int
  choice : ChannelChoice
  batch : BatchOptions
  report : Option String
deriving DecidableEq, Repr

inductive ChannelCommand where
  | list (choice : ChannelChoice)
  | count
  | exportFile (options : ExportOptions)
  | backup (output : Option String)
  | importFile (options : ImportOptions)
  | restore (options : RestoreOptions)
  | test (options : ChannelTestOptions)
deriving DecidableEq, Repr

structure KeyExportOptions where
  choice : ChannelChoice
  format : KeyExportFormat
  output : Option String
deriving DecidableEq, Repr

structure KeyTestOptions where
  /-- The keys of a file instead of those of the channels. -/
  file : Option String
  choice : ChannelChoice
  exportsFirst : Bool
  batch : BatchOptions
  report : Option String
  removesRejected : Bool
  agreed : Bool
deriving DecidableEq, Repr

inductive KeyCommand where
  | exportFile (options : KeyExportOptions)
  | test (options : KeyTestOptions)
  | probe (key : String) (model : Option String)
deriving DecidableEq, Repr

structure ModelUpdateOptions where
  types : List Int
  dryRun : Bool
  agreed : Bool
deriving DecidableEq, Repr

inductive ModelCommand where
  | list
  | update (options : ModelUpdateOptions)
deriving DecidableEq, Repr

structure CleanOptions where
  /-- The operator is asked for a selection where there is none. -/
  selection : Option TableSelection
  saves : Bool
  agreed : Bool
deriving DecidableEq, Repr

structure ResetOptions where
  saves : Bool
  empties : Bool
  dryRun : Bool
  agreed : Bool
deriving DecidableEq, Repr

inductive TableCommand where
  | list
  | stats
  | clean (options : CleanOptions)
  | reset (options : ResetOptions)
  | backups
deriving DecidableEq, Repr

inductive Command where
  | channels (command : ChannelCommand)
  | keys (command : KeyCommand)
  | models (command : ModelCommand)
  | tables (command : TableCommand)
  | check
  | completions (shell : String)
deriving DecidableEq, Repr

/-- What holds for every command. -/
structure GlobalOptions where
  dsn : Option String := none
  settingsFile : Option String := none
  asJson : Bool := false
  quiet : Bool := false
  verbosity : Nat := 0
  exportsSpans : Bool := false
deriving DecidableEq, Repr

structure Invocation where
  options : GlobalOptions
  command : Command
deriving DecidableEq, Repr

end ChannelKeeper

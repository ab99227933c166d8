import ChannelKeeper.Json.Writer
import ChannelKeeper.Table.Cleaning
import ChannelKeeper.Table.Selection

/-!
# Console

A command works on a state, prints lines and may ask the operator. A failure is
reported with what it was that failed, down to its cause; lines that were printed
before it stay.
-/

namespace ChannelKeeper

inductive CommandError where
  | channel (cause : ChannelError)
  | clean (cause : CleanError)
  | connection (cause : StoreError)
  /-- There is nobody to answer a question. -/
  | noTerminal
  | noSelection
  | emptyKey
  | nothingPruned
  /-- What was being done when the cause came up. -/
  | during (deed : String) (cause : CommandError)
deriving DecidableEq, Repr

/-- The messages from the deed that failed to the cause. -/
def CommandError.messages : CommandError → List String
  | .channel cause => [cause.message]
  | .clean cause => [cause.message]
  | .connection cause => [cause.message]
  | .noTerminal => ["IO error: not a terminal", "not a terminal"]
  | .noSelection => ["no tables selected; name tables or use --logs, --business or --all"]
  | .emptyKey => ["the key is empty"]
  | .nothingPruned => ["key cleanup failed for every channel"]
  | .during deed cause => deed :: cause.messages

/-- Someone who answers questions. -/
structure Operator where
  /-- Yes or no; no is the default. -/
  confirms : String → Except CommandError Bool
  /-- A text typed in answer to a question. -/
  types : String → Except CommandError String
  /-- The tables to empty, or none of them. -/
  chooses : List TableStats → Except CommandError (Option TableSelection)

def Operator.absent : Operator :=
  ⟨fun _ => .error .noTerminal, fun _ => .error .noTerminal, fun _ => .error .noTerminal⟩

structure Console (σ : Type) where
  state : σ
  printed : List String := []

abbrev Run (σ α : Type) := Action (Console σ) CommandError α

namespace Run

variable {σ ε α : Type}

def work (act : Action σ ε α) (f : ε → CommandError) : Run σ α :=
  (act.onPart Console.state fun s c => { c with state := s }).mapError f

def task (act : Workspace.Task σ α) : Run σ α := work act .channel

def tableTask (act : Workspace.TableTask σ α) : Run σ α := work act .clean

def during (deed : String) (act : Run σ α) : Run σ α := act.mapError (.during deed)

def answer (a : Except CommandError α) : Run σ α := .ask fun _ => a

-- ---------------------------------------------------------------------------
-- Printing
-- ---------------------------------------------------------------------------

def line (text : String) : Run σ Unit :=
  .ofFunction fun c => (.ok (), { c with printed := c.printed ++ [text] })

def lines (texts : List String) : Run σ Unit :=
  .ofFunction fun c => (.ok (), { c with printed := c.printed ++ texts })

def blank : Run σ Unit := line ""

def success (text : String) : Run σ Unit := line ("  ✓ " ++ text)

def info (text : String) : Run σ Unit := line ("  i " ++ text)

def warn (text : String) : Run σ Unit := line ("  ! " ++ text)

def failure (text : String) : Run σ Unit := line ("  ✗ " ++ text)

def failures (texts : List String) : Run σ Unit := lines (texts.map ("  ✗ " ++ ·))

def cancelled : Run σ Unit := line "  Cancelled."

def json (v : Json.Value) : Run σ Unit := line v.pretty

def onlyIf (condition : Bool) (act : Run σ Unit) : Run σ Unit := if condition then act else pure ()

end Run

end ChannelKeeper

import ChannelKeeper.Batch.Tester
import ChannelKeeper.Command.Basic
import ChannelKeeper.Command.Console
import ChannelKeeper.Settings.Basic
import ChannelKeeper.Sql.Dialect

/-!
# Desk

What a command has at hand: a workspace, the settings, someone to test keys and
someone to ask. An agreement given beforehand answers every question.
-/

namespace ChannelKeeper

structure Desk (σ : Type) where
  workspace : Workspace σ
  settings : Settings
  backend : Sql.Backend
  prober : Prober
  /-- How long a request takes. -/
  duration : ProbeCall → Nat
  operator : Operator
  /-- Results are printed as JSON. -/
  asJson : Bool

namespace Desk

variable {σ : Type}

def say (d : Desk σ) (act : Run σ Unit) : Run σ Unit := .onlyIf (!d.asJson) act

def present (d : Desk σ) (v : Json.Value) (act : Run σ Unit) : Run σ Unit :=
  if d.asJson then .json v else act

def confirm (d : Desk σ) (question : String) (agreed : Bool) : Run σ Bool :=
  if agreed then pure true else .answer (d.operator.confirms question)

def confirmByWord (d : Desk σ) (question word : String) (agreed : Bool) : Run σ Bool :=
  if agreed then pure true
  else do
    let typed ← .answer (d.operator.types (question ++ " (type " ++ word ++ " to continue)"))
    return Text.trim typed == word

/-- The given types, or those of the settings. -/
def effectiveTypes (d : Desk σ) (types : List Int) : List Int :=
  if types.isEmpty then d.settings.tester.types else types

def testedFilter (d : Desk σ) (c : ChannelChoice) : ChannelFilter :=
  { types := d.effectiveTypes c.types, status := c.status }

def tester (d : Desk σ) (workers : Option Nat) : Batch.Tester :=
  .new (workers.getD d.settings.tester.workers) d.settings.tester.model

end Desk

end ChannelKeeper

import ChannelKeeper.Files.Basic

/-!
# The compose deployment

Whether the service that runs the database is up, as the compose tool lists it.
The stand-alone tool is asked first; only if it is not installed the other one.
-/

namespace ChannelKeeper

structure CommandOutput where
  stdout : String
  stderr : String
  /-- There is none if a signal ended the command. -/
  code : Option Nat
deriving DecidableEq, Repr

def CommandOutput.succeeded (o : CommandOutput) : Bool := o.code == some 0

/-- Runs a program with arguments, in a directory if one is given. -/
abbrev CommandRunner (σ : Type) :=
  String → List String → Option String → Action σ IoError CommandOutput

structure ServiceStatus where
  /-- The tool that answered. -/
  tool : String
  isRunning : Bool
  output : String
deriving DecidableEq, Repr

namespace Compose

/-- A line of the listing names the service and says that it is up. -/
def isUp (listing service : String) : Bool :=
  (Text.lines listing).any fun line => Text.occursIn service line && Text.occursIn "Up" line

def statusOf (tool service : String) (o : CommandOutput) : ServiceStatus :=
  ⟨tool, o.succeeded && isUp o.stdout service, o.stdout⟩

variable {σ : Type}

def status (run : CommandRunner σ) (file service : String) : Action σ IoError ServiceStatus := do
  match ← (run "docker-compose" ["-f", file, "ps"] none).attempt with
  | .ok output => return statusOf "docker-compose" service output
  | .error e =>
    if e.kind = .notFound then
      return statusOf "docker compose" service (← run "docker" ["compose", "-f", file, "ps"] none)
    else throw e

end Compose

end ChannelKeeper

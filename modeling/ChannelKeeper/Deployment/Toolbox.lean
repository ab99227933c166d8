import ChannelKeeper.Deployment.Compose

/-!
# A set of programs

Programs that always answer the same, and a record of the command lines that were
run. A program that may not be started fails without being recorded.
-/

namespace ChannelKeeper

structure CannedProgram where
  name : String
  output : CommandOutput
  isExecutable : Bool := true
deriving DecidableEq, Repr

structure Toolbox where
  programs : List CannedProgram := []
  calls : List String := []
deriving DecidableEq, Repr

namespace Toolbox

def notInstalled : IoError := ⟨.notFound, "No such file or directory (os error 2)"⟩

def notAllowed : IoError := ⟨.permissionDenied, "Permission denied (os error 13)"⟩

def call (t : Toolbox) (program : String) (arguments : List String) :
    Except IoError (CommandOutput × Toolbox) :=
  match t.programs.find? (·.name == program) with
  | none => .error notInstalled
  | some p =>
    if p.isExecutable then
      .ok (p.output, { t with calls := t.calls ++ [Text.join " " (program :: arguments)] })
    else .error notAllowed

def runner : CommandRunner Toolbox := fun program arguments _ => .change (·.call program arguments)

end Toolbox

end ChannelKeeper

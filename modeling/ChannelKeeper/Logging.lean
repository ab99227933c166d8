/-!
# Diagnostics

How much the program says of its work, and under which name a test request is
reported.
-/

namespace ChannelKeeper.Logging

/-- The least severe reports that are shown at a level of detail. Silence counts
only where no detail is asked for. -/
def filter (verbosity : Nat) (quiet : Bool) : String :=
  match verbosity with
  | 0 => if quiet then "error" else "warn"
  | 1 => "info,chanops=debug"
  | _ => "trace"

def probeName (model : String) : String := "probe " ++ model

end ChannelKeeper.Logging

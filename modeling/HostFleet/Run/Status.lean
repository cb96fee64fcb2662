/-!
# How a command ends

A command ends with an exit code, or with a fault that kept it from giving one.
-/

namespace HostFleet

inductive ExecFault where
  | spawn (detail : String)
  | io (detail : String)
  | config (detail : String)
  deriving DecidableEq, Repr

namespace ExecFault

def text : ExecFault → String
  | .spawn detail => "failed to spawn process: " ++ detail
  | .io detail => "I/O error: " ++ detail
  | .config detail => "invalid configuration: " ++ detail

/-- Whether the command can have begun on the other side. -/
def mayHaveRun : ExecFault → Bool
  | .io _ => true
  | _ => false

end ExecFault

/-- The exit code of a command, or why there is none. -/
abbrev Status := Except ExecFault Int

def Status.succeeded : Status → Bool
  | .ok code => code == 0
  | .error _ => false

end HostFleet

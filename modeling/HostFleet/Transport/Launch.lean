import HostFleet.Run.Output
import HostFleet.Run.Status
import HostFleet.Text.Blank

/-!
# Launching a command

What is started on this machine to run a command on a host: the remote shell client, the
reachability check, or the shell of this machine for a dry run.
-/

namespace HostFleet

/-- A program to start, with its arguments. -/
structure Launch where
  program : String
  args : List String
  /-- Variables that are set for the program. -/
  vars : List (String × String) := []
  deriving DecidableEq, Repr

/-- The remote shell client and the options it is given besides the usual ones. -/
structure Ssh where
  binary : String
  options : List String
  deriving DecidableEq, Repr

namespace Ssh

/-- Given at every call, so that no call waits for a password. -/
def usualOptions : List String := ["PubkeyAuthentication=yes", "PasswordAuthentication=no"]

/-- A client whose binary and options are not blank. -/
def build (binary : Option String) (options : List String) : Except ExecFault Ssh :=
  let binary := binary.getD "ssh"
  if isBlankText binary then .error (.config "empty ssh binary")
  else if options.any isBlankText then .error (.config "empty ssh option")
  else .ok ⟨binary, options⟩

def args (s : Ssh) (target : RemoteTarget) (command : String) : List String :=
  ["-l", target.user] ++ (usualOptions ++ s.options).flatMap (fun o => ["-o", o])
    ++ [target.host, command]

def launch (s : Ssh) (target : RemoteTarget) (command : String) : Launch :=
  { program := s.binary, args := s.args target command }

end Ssh

/-- The reachability check. With a count of 0 it goes on until it is interrupted. -/
structure Ping where
  binary : String
  count : Nat
  deriving DecidableEq, Repr

namespace Ping

def defaultCount : Nat := 5

def args (p : Ping) (host : String) : List String :=
  (if p.count = 0 then [] else ["-c", toString p.count]) ++ [host]

def launch (p : Ping) (target : RemoteTarget) : Launch :=
  { program := p.binary, args := p.args target.host }

end Ping

/-- The variable that names the target of a dry run. -/
def hostVariable : String := "FLEETX_HOST"

/-- A dry run: the command is run by the shell of this machine. -/
def dryRun (target : RemoteTarget) (command : String) : Launch :=
  { program := "sh", args := ["-c", command], vars := [(hostVariable, target.host)] }

end HostFleet

import HostFleet.Utility.Basic

/-!
# Programs in the service of others

A program can run a command for what it writes, or write to one. The command does not get the
descriptors that the program keeps to itself.
-/

namespace HostFleet.Utility

open Machine

namespace Call

/-- Goes on as the shell with a command. -/
def becomeShell (c : Call) (command : String) : Program Nat := do
  let e ← c.become "/bin/sh" ["-c", command] c.vars
  c.warn ("/bin/sh: " ++ e.reason)
  pure 127

/-- Runs a command and waits for its end. -/
def system (c : Call) (own : List Nat) (command : String) : Program (Option Ending) := do
  let child ← Program.fork (fun ds => ds.filter fun d => !own.contains d.1)
    (c.becomeShell command).toProc
  Program.waitFor child

/-- Begins a command whose output can be read from a descriptor: the descriptor and the process. -/
def readFrom (c : Call) (own : List Nat) (command : String) : Program (Nat × Nat) := do
  let (fd, w) ← Program.access fun pid k =>
    let fd := k.freeDescriptor pid 3
    let ((r, w), k) := k.newPipe
    ((fd, w), k.connect pid fd r)
  let child ← Program.fork
    (fun ds => (1, w) :: ds.filter fun d => d.1 != 1 && d.1 != fd && !own.contains d.1)
    (c.becomeShell command).toProc
  pure (fd, child)

/-- Begins a command that reads what is written to a descriptor: the descriptor and the process. -/
def writeTo (c : Call) (own : List Nat) (command : String) : Program (Nat × Nat) := do
  let (fd, r) ← Program.access fun pid k =>
    let fd := k.freeDescriptor pid 3
    let ((r, w), k) := k.newPipe
    ((fd, r), k.connect pid fd w)
  let child ← Program.fork
    (fun ds => (0, r) :: ds.filter fun d => d.1 != 0 && d.1 != fd && !own.contains d.1)
    (c.becomeShell command).toProc
  pure (fd, child)

/-- What a command writes, and how it ends. -/
def outputOf (c : Call) (command : String) : Program (String × Option Ending) := do
  let (fd, child) ← c.readFrom [] command
  let text := match ← Program.readAll fd Program.plenty [] with
    | .ok text => text
    | .error _ => ""
  Program.close fd
  pure (text, ← Program.waitFor child)

end Call

end HostFleet.Utility

import HostFleet.Machine.Schedule
import HostFleet.Machine.Standard
import HostFleet.Shell.Interpreter
import HostFleet.Transport.Launch

/-!
# The local machine

Programs are launched on a machine that is given by its files, by the files that can be run, and
by the variables that programs get. A program that cannot be started is refused with a reason.
-/

namespace HostFleet

open Machine

structure LocalMachine where
  files : FileTree
  /-- The paths of the files that can be run, besides the programs of the system. -/
  scripts : NameSet := ∅
  vars : NameMap String
  /-- Where programs begin. -/
  folder : String := "/"

/-- What a program left behind when it ended: what it wrote, with the time of each piece, and its
exit code, which is -1 for a program that a signal ended. -/
structure Ended where
  out : List (Nat × Bytes)
  err : List (Nat × Bytes)
  code : Int
  deriving DecidableEq, Repr

namespace LocalMachine

/-- A machine of this user with nothing on it but the system. -/
def standard (user home : String) : LocalMachine :=
  { files := usualTree
    vars := Std.ExtTreeMap.ofList
      [("USER", user), ("HOME", home), ("PATH", "/usr/local/bin:/usr/bin:/bin")] }

/-- The longest argument of a program in bytes. -/
def maxArgument : Nat := 131071

/-- The number of the first process. -/
def firstPid : Nat := 4241

/-- Deep enough for any program that comes to an end in practice. -/
def fuel : Nat := Nat.pow 2 40

/-- The kernel at the start of a program that reads nothing and whose output is kept. -/
def kernel (m : LocalMachine) : Kernel :=
  { files := Files.ofTree m.files m.scripts
    opens := #[{ stream := .null }, { stream := .sink 0 }, { stream := .sink 1 }]
    sinks := #[[], []]
    processes := [{
      pid := firstPid
      parent := 4240
      descriptors := [(0, 0), (1, 1), (2, 2)]
      folder := ByteText.ofText m.folder }] }

/-- Runs a program with its arguments, and waits for its end. -/
def run (m : LocalMachine) (program : String) (words : List String) (env : Environment) :
    Ended :=
  let body := (Shell.launch fuel program words env).toProc
  let k := Schedule.run fuel firstPid ⟨m.kernel, [⟨firstPid, 1000, body⟩]⟩
  let written (n : Nat) : List (Nat × Bytes) :=
    ((k.sinks[n]?.getD []).map fun p => (p.1, ByteText.toBytes p.2)).reverse
  { out := written 0
    err := written 1
    code := match (k.process? firstPid).bind (·.ending) with
      | some (.exited code) => code
      | some (.killed _) => -1
      | none => -1 }

/-- Launches a program and waits for its end. -/
def launch (m : LocalMachine) (l : Launch) : Except OsError Ended :=
  let texts := l.program :: l.args ++ l.vars.flatMap fun v => [v.1, v.2]
  if texts.any fun t => t.contains '\x00' then .error .zeroInArgument
  else do
    let bytes := ByteText.ofText
    let env := (m.vars.insertMany l.vars).toList.map fun v => (bytes v.1, bytes v.2)
    let files := m.kernel.files
    let folder := bytes m.folder
    let path ← Executable.search files folder ((env.lookup "PATH").getD "/bin:/usr/bin")
      (bytes l.program)
    if texts.any fun t => maxArgument < t.utf8ByteSize then .error .argumentsTooLong
    else do
      let (program, words) ← Executable.resolve files folder Executable.maxDepth path
        (bytes l.program) (l.args.map bytes)
      .ok (m.run program words env)

end LocalMachine

end HostFleet

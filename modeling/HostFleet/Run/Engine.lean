import HostFleet.Run.Mode
import HostFleet.Run.Pool

/-!
# Running a command

`Run.run` carries a command out on a list of hosts in one of the modes, and gives the report with
everything that was written to the console. The failure of a host is counted and shown, and it
keeps no other host from being served.
-/

namespace HostFleet

structure RunSettings where
  mode : Mode
  /-- The most hosts that are served at once. -/
  poolSize : Nat
  user : String
  deriving DecidableEq, Repr

namespace RunSettings

def defaultPoolSize : Nat := 50

/-- The name of the user who runs the program; without one, `root`. -/
def defaultUser (name : Option String) : String :=
  match name with
  | some name => if name.isEmpty then "root" else name
  | none => "root"

def ofUser (name : Option String) : RunSettings :=
  ⟨.collapse, defaultPoolSize, defaultUser name⟩

end RunSettings

/-- How a command acts on a target. -/
abbrev Executor := RemoteTarget → String → Response

/-- One call of an executor. -/
structure Call where
  target : RemoteTarget
  command : String
  deriving DecidableEq, Repr

/-- What a run leaves behind. -/
structure RunResult where
  report : RunReport
  /-- What was written to the console, in order. -/
  writes : List Bytes
  calls : List Call
  heard : List Progress

inductive RunError where
  | emptyHostList
  /-- The program comes to an end with the command that crashed. -/
  | crashed
  /-- There cannot be that many permits. -/
  | poolTooLarge
  deriving DecidableEq, Repr

namespace Run

/-- What is written for one host in serial mode after its banner. -/
def serialWrites (host : String) (lines : List OutputLine) (status : Status) : List Bytes :=
  lines.map Console.rawLine ++ Pool.errorWrites false host status

/-- Serves the hosts one after the other. -/
def serial (settings : RunSettings) (execute : Executor) (command : String) :
    List String → Aggregator → Except RunError (List Bytes × Aggregator)
  | [], a => .ok ([], a)
  | host :: rest, a =>
    match execute ⟨host, settings.user⟩ command with
    | .crashed _ => .error .crashed
    | .finished lines status => do
      let (writes, a) ← serial settings execute command rest (a.record ⟨host, status, none⟩)
      .ok (Console.banner settings.user host command :: serialWrites host lines status ++ writes, a)

/-- Serves many hosts at once. -/
def pooled (settings : RunSettings) (execute : Executor) (command : String)
    (hosts : List String) : Except RunError (List Bytes × Aggregator) :=
  if Pool.maxPermits < settings.poolSize then .error .poolTooLarge
  else
    let jobs := hosts.map fun host => ⟨host, execute ⟨host, settings.user⟩ command⟩
    let pool := Pool.runAll (settings.mode == .collapse) settings.poolSize jobs
    .ok (pool.writes, pool.aggregator)

/-- The end of a transcript: the groups, and the summary after them. -/
def closing (r : RunReport) : List Bytes :=
  r.groups.map Console.group ++ [Console.summary r.counters]

/-- Runs a command on every host of the list. -/
def run (settings : RunSettings) (execute : Executor) (hosts : List String) (command : String) :
    Except RunError RunResult :=
  if hosts.isEmpty then .error .emptyHostList
  else do
    let (writes, a) ←
      if settings.mode = .serial then
        serial settings execute command hosts { expected := hosts.length, collapse := false }
      else pooled settings execute command hosts
    let report := a.report
    .ok {
      report := report
      writes := writes ++ closing report
      calls := hosts.map fun host => ⟨⟨host, settings.user⟩, command⟩
      heard := a.heard }

end Run

end HostFleet

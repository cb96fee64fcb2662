import HostFleet.Run.Console

/-!
# Pooled runs

Many hosts are worked on at once, each by a task of its own, as far as there are permits. A task
takes a permit, runs its command while the lines it sends are shown or gathered, gives the permit
back and reports. The joiner waits for the tasks in the order of the list and reports those that
crashed. `step?` makes one move of one task; any order of moves is possible that `step?` allows.
-/

namespace HostFleet

/-- What a command does on one host: the lines it sends and how it ends. -/
inductive Response where
  | finished (lines : List OutputLine) (status : Status)
  /-- Ends after these lines without a status. -/
  | crashed (lines : List OutputLine)

def Response.lines : Response → List OutputLine
  | .finished lines _ => lines
  | .crashed lines => lines

structure Job where
  host : String
  response : Response

namespace Pool

/-- How far the task of one host is. The lines in `queue` have been sent and wait to be taken;
`gathered` holds the bytes of those taken, where output is gathered. -/
inductive Task where
  | waiting
  | running (coming queue : List OutputLine) (gathered : Bytes)
  /-- The command has ended with a status. -/
  | ended (status : Status) (queue : List OutputLine) (gathered : Bytes)
  /-- The permit is given back and the report is still to come. -/
  | leaving (f : Finished)
  | crashed
  | reported

end Pool

/-- The state of a pooled run. -/
structure Pool where
  /-- Whether output is gathered for groups and not shown line by line. -/
  collapse : Bool
  jobs : List Job
  /-- Permits that are not taken. -/
  free : Nat
  /-- One task for each job. -/
  tasks : List Pool.Task
  /-- How many tasks the joiner has waited for. -/
  joined : Nat
  aggregator : Aggregator
  /-- What was written to the console, in order. -/
  writes : List Bytes

namespace Pool

/-- The most permits that a pool can have. -/
def maxPermits : Nat := Nat.pow 2 61 - 1

def start (collapse : Bool) (permits : Nat) (jobs : List Job) : Pool :=
  { collapse := collapse
    jobs := jobs
    free := max permits 1
    tasks := jobs.map fun _ => .waiting
    joined := 0
    aggregator := { expected := jobs.length, collapse := collapse }
    writes := [] }

/-- One move of the task at a position of the list, or of the joiner. -/
inductive Move where
  /-- Takes a permit. -/
  | begin (i : Nat)
  /-- The command sends its next line. -/
  | send (i : Nat)
  /-- The next line sent is shown or gathered. -/
  | take (i : Nat)
  /-- The command ends or crashes. A crash gives the permit back. -/
  | stop (i : Nat)
  /-- An error is shown and the permit given back. -/
  | leave (i : Nat)
  | report (i : Nat)
  | join
  deriving DecidableEq, Repr

/-- What stands for the output of a host. A host without output shows its error instead. -/
def outputOf (collapse : Bool) (status : Status) (gathered : Bytes) : Option Bytes :=
  if collapse then
    match status, gathered with
    | .error e, [] => some (Utf8.encode s!"error: {e.text}\n")
    | _, gathered => some gathered
  else none

/-- The state after a line of a host was taken, and what is gathered then. -/
def takeLine (p : Pool) (host : String) (l : OutputLine) (gathered : Bytes) : Pool × Bytes :=
  if p.collapse then (p, gathered ++ l.bytes)
  else ({ p with writes := p.writes ++ [Console.hostLine host l] }, gathered)

def setTask (p : Pool) (i : Nat) (t : Task) : Pool := { p with tasks := p.tasks.set i t }

/-- The error write of a host whose output is shown line by line. -/
def errorWrites (collapse : Bool) (host : String) : Status → List Bytes
  | .error e => if collapse then [] else [Console.hostError host e]
  | .ok _ => []

/-- The report on a host whose task crashed. -/
def crashReport (host : String) : Finished := ⟨host, .error (.io "task failed"), none⟩

/-- The state after a move, if the move is possible. -/
def step? (p : Pool) : Move → Option Pool
  | .begin i =>
    match p.jobs[i]?, p.tasks[i]?, p.free with
    | some job, some .waiting, free + 1 =>
      some ({ p with free := free }.setTask i (.running job.response.lines [] []))
    | _, _, _ => none
  | .send i =>
    match p.tasks[i]? with
    | some (.running (l :: coming) queue gathered) =>
      some (p.setTask i (.running coming (queue ++ [l]) gathered))
    | _ => none
  | .take i =>
    match p.jobs[i]?, p.tasks[i]? with
    | some job, some (.running coming (l :: queue) gathered) =>
      let (p, gathered) := p.takeLine job.host l gathered
      some (p.setTask i (.running coming queue gathered))
    | some job, some (.ended status (l :: queue) gathered) =>
      let (p, gathered) := p.takeLine job.host l gathered
      some (p.setTask i (.ended status queue gathered))
    | _, _ => none
  | .stop i =>
    match p.jobs[i]?, p.tasks[i]? with
    | some job, some (.running [] queue gathered) =>
      match job.response with
      | .finished _ status => some (p.setTask i (.ended status queue gathered))
      | .crashed _ => some ({ p with free := p.free + 1 }.setTask i .crashed)
    | _, _ => none
  | .leave i =>
    match p.jobs[i]?, p.tasks[i]? with
    | some job, some (.ended status [] gathered) =>
      let finished := ⟨job.host, status, outputOf p.collapse status gathered⟩
      let writes := p.writes ++ errorWrites p.collapse job.host status
      some ({ p with free := p.free + 1, writes := writes }.setTask i (.leaving finished))
    | _, _ => none
  | .report i =>
    match p.tasks[i]? with
    | some (.leaving f) =>
      some ({ p with aggregator := p.aggregator.record f }.setTask i .reported)
    | _ => none
  | .join =>
    match p.jobs[p.joined]?, p.tasks[p.joined]? with
    | some _, some .reported => some { p with joined := p.joined + 1 }
    | some job, some .crashed =>
      some ({ p with
        joined := p.joined + 1
        aggregator := p.aggregator.record (crashReport job.host) }.setTask p.joined .reported)
    | _, _ => none

/-- Makes the moves in order and passes over those that are not possible. -/
def play (p : Pool) (moves : List Move) : Pool :=
  moves.foldl (fun p m => (p.step? m).getD p) p

/-- The moves that take the task at position `i` from its start to its report. -/
def jobMoves (i : Nat) (job : Job) : List Move :=
  let lines := job.response.lines
  .begin i :: lines.map (fun _ => .send i) ++ .stop i :: lines.map (fun _ => .take i)
    ++ [.leave i, .report i]

/-- One task after the other, and then the joiner. -/
def schedule (jobs : List Job) : List Move :=
  (jobs.zipIdx.flatMap fun (job, i) => jobMoves i job) ++ jobs.map fun _ => .join

/-- The state of a run in which all is done. -/
def runAll (collapse : Bool) (permits : Nat) (jobs : List Job) : Pool :=
  (start collapse permits jobs).play (schedule jobs)

end Pool

end HostFleet

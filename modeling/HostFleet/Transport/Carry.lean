import HostFleet.Run.Pool
import HostFleet.Transport.LocalMachine

/-!
# Carrying commands to hosts

A command goes to a host through the remote shell client, is replaced by a reachability check, or
runs on this machine in a dry run. Each is a launch on the local machine.
-/

namespace HostFleet

inductive Transport where
  | ssh (client : Ssh)
  | ping (check : Ping)
  | here
  deriving DecidableEq, Repr

namespace Transport

def name : Transport → String
  | .ssh _ => "ssh"
  | .ping _ => "ping"
  | .here => "local"

/-- What is launched to carry a command to a target. -/
def launch (t : Transport) (target : RemoteTarget) (command : String) : Launch :=
  match t with
  | .ssh client => client.launch target command
  | .ping check => check.launch target
  | .here => dryRun target command

/-- The fault of a command that could not be launched. It names the program, unless that is always
the same. -/
def refusal (t : Transport) (e : OsError) : ExecFault :=
  .spawn (match t with
    | .ssh client => client.binary ++ ": " ++ e.text
    | .ping check => check.binary ++ ": " ++ e.text
    | .here => e.text)

/-- The lines of one channel with the times at which they were complete. The last line may only be
complete when the channel is closed. -/
def timedLines (channel : Channel) (closed : Nat) (pieces : List (Nat × Bytes)) :
    List (Nat × OutputLine) :=
  let lines := OutputLine.ofStream channel (pieces.flatMap Prod.snd)
  let marks := pieces.foldl (fun (marks : List (Nat × Nat)) p =>
    ((marks.head?.map Prod.fst).getD 0 + p.2.length, p.1) :: marks) [] |>.reverse
  go marks 0 lines
where
  go (marks : List (Nat × Nat)) (offset : Nat) : List OutputLine → List (Nat × OutputLine)
    | [] => []
    | line :: rest =>
      let stop := offset + line.bytes.length
      let marks := marks.dropWhile fun m => m.1 < stop
      let time := if line.bytes.getLast? = some newline then (marks.head?.map Prod.snd).getD closed
        else closed
      (time, line) :: go marks stop rest

/-- How long it takes until what was written is heard, in microseconds. -/
def hearingDelay : Nat := 60

/-- Lines of both channels in the order in which they are heard. Of what is heard together, the
standard output comes first. -/
def heardTogether (fuel : Nat) (out err : List (Nat × OutputLine)) : List OutputLine :=
  match fuel, out, err with
  | 0, out, err => (out ++ err).map Prod.snd
  | _, [], err => err.map Prod.snd
  | _, out, [] => out.map Prod.snd
  | fuel + 1, o :: out, e :: err =>
    let limit := min o.1 e.1 + hearingDelay
    let isHeard (p : Nat × OutputLine) : Bool := p.1 ≤ limit
    let out := o :: out
    let err := e :: err
    (out.takeWhile isHeard).map Prod.snd ++ (err.takeWhile isHeard).map Prod.snd
      ++ heardTogether fuel (out.dropWhile isHeard) (err.dropWhile isHeard)

/-- The lines of a program that ended, in the order in which they are heard. -/
def heardLines (e : Ended) : List OutputLine :=
  let closed := ((e.out ++ e.err).map Prod.fst).foldl max 0
  heardTogether (e.out.length + e.err.length + 1) (timedLines .out closed e.out)
    (timedLines .err closed e.err)

/-- What is heard of a command: its lines, and how it ended. -/
def carry (t : Transport) (m : LocalMachine) (target : RemoteTarget) (command : String) :
    List OutputLine × Status :=
  match m.launch (t.launch target command) with
  | .error e => ([], .error (t.refusal e))
  | .ok ended => (heardLines ended, .ok ended.code)

/-- The transport as what a run acts through. -/
def executor (t : Transport) (m : LocalMachine) (target : RemoteTarget) (command : String) :
    Response :=
  let (lines, status) := t.carry m target command
  .finished lines status

end Transport

end HostFleet

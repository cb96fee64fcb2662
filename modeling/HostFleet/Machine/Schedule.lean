import HostFleet.Machine.Program

/-!
# Scheduling

Every process has a time of its own, which its actions move on. The process that is furthest
behind acts next; one that has to wait for another takes its turn as soon as it can.
-/

namespace HostFleet.Machine

/-- A process at work, with the time it has come to. -/
structure Running where
  pid : Nat
  time : Nat
  body : Proc

structure Schedule where
  kernel : Kernel
  /-- The processes by time. -/
  running : List Running

namespace Schedule

/-- How long splitting off a process takes, and how much later the new one begins. -/
def forkCost : Nat := 100
def forkDelay : Nat := 150

def place (r : Running) : List Running → List Running
  | [] => [r]
  | s :: rest => if r.time < s.time then r :: s :: rest else s :: place r rest

/-- The schedule after the turn of the first process that can act. Those before it, which have to
wait, come last first. -/
def turn? (k : Kernel) (waiting : List Running) : List Running → Option Schedule
  | [] => none
  | r :: rest =>
    let now := max k.now r.time
    match k.process? r.pid with
    | none => some ⟨k, waiting.reverse ++ rest⟩
    | some p =>
      if p.ending.isSome then some ⟨k, waiting.reverse ++ rest⟩
      else if p.isStopped then turn? k (r :: waiting) rest
      else match r.body with
        | .exit code =>
          some ⟨{ k with now := now }.finish r.pid (.exited (code % 256)), waiting.reverse ++ rest⟩
        | .fork choose child next =>
          let (pid, k) := { k with now := now }.split r.pid (choose (k.descriptors r.pid))
          some ⟨k, place ⟨pid, now + forkDelay, child⟩
            (place ⟨r.pid, now + forkCost, next pid⟩ (waiting.reverse ++ rest))⟩
        | .act cost ask =>
          match ask r.pid { k with now := now } with
          | .notYet => turn? k (r :: waiting) rest
          | .next k body =>
            some ⟨k, place ⟨r.pid, now + cost, body⟩ (waiting.reverse ++ rest)⟩

/-- Goes on until a process is over and nothing more can be heard of the others, or until none of
them can act. -/
def run (fuel pid : Nat) (s : Schedule) : Kernel :=
  match fuel with
  | 0 => s.kernel
  | fuel + 1 =>
    if !s.kernel.isAlive pid && !s.kernel.isHeard then s.kernel
    else match turn? s.kernel [] s.running with
      | none => s.kernel
      | some s => run fuel pid s

end Schedule

end HostFleet.Machine

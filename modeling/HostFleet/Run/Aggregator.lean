import HostFleet.Names
import HostFleet.Run.Status
import HostFleet.Text.Utf8

/-!
# Counting and grouping

Every host that is done reports to one `Aggregator`. It counts successes and errors and, in
collapse mode, keeps the hosts of every distinct output together. Closing it hands the groups out.
-/

namespace HostFleet

/-- The report of one host that is done. -/
structure Finished where
  host : String
  status : Status
  /-- What the command wrote, where outputs are collected. -/
  output : Option Bytes

structure Counters where
  total : Nat := 0
  success : Nat := 0
  error : Nat := 0
  deriving DecidableEq, Repr

/-- Hosts whose commands wrote the same bytes. -/
structure OutputGroup where
  hosts : List String
  output : Bytes
  deriving DecidableEq, Repr

/-- The outcome of a run. -/
structure RunReport where
  counters : Counters
  groups : List OutputGroup
  deriving DecidableEq, Repr

/-- What an observer hears when a host is done. -/
structure Progress where
  host : String
  done : Nat
  total : Nat
  deriving DecidableEq, Repr

structure Aggregator where
  /-- The number of hosts in the run. -/
  expected : Nat
  collapse : Bool
  counters : Counters := {}
  /-- The hosts of each output. -/
  outputs : Std.ExtTreeMap Bytes NameSet := ∅
  /-- What the observer has heard, in order. -/
  heard : List Progress := []

/-- Stands for the output of a command that wrote nothing. -/
def noOutput : Bytes := Utf8.encode "[ No Output ]\n"

namespace Counters

def add (c : Counters) (s : Status) : Counters :=
  if s.succeeded then { c with total := c.total + 1, success := c.success + 1 }
  else { c with total := c.total + 1, error := c.error + 1 }

end Counters

namespace OutputGroup

def text (g : OutputGroup) : String := Utf8.decodeLossy g.output

def le (g h : OutputGroup) : Bool := (compare g.hosts h.hosts).isLE

end OutputGroup

namespace Aggregator

/-- The output under which a host is put. -/
def outputOf (f : Finished) : Bytes :=
  match f.output with
  | some (b :: bs) => b :: bs
  | _ => noOutput

/-- Takes in the report of one host. -/
def record (a : Aggregator) (f : Finished) : Aggregator :=
  let counters := a.counters.add f.status
  { a with
    counters := counters
    heard := a.heard ++ [⟨f.host, counters.total, a.expected⟩]
    outputs :=
      if a.collapse then
        a.outputs.alter (outputOf f) fun hosts => some ((hosts.getD ∅).insert f.host)
      else a.outputs }

/-- The groups by host list, and by output where two lists are the same. -/
def groups (a : Aggregator) : List OutputGroup :=
  (a.outputs.toList.map fun (output, hosts) => ⟨hosts.toList, output⟩).mergeSort OutputGroup.le

def report (a : Aggregator) : RunReport := ⟨a.counters, a.groups⟩

/-- Closes the run: the report, and the aggregator without the groups it has handed out. -/
def finish (a : Aggregator) : RunReport × Aggregator :=
  (a.report, { a with outputs := ∅ })

end Aggregator

end HostFleet

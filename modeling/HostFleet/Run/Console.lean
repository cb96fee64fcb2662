import HostFleet.Run.Aggregator
import HostFleet.Run.Output

/-!
# The look of a run

Each function gives the bytes of one write: the banner of a host, a line as it stands or under
its host's name, an error, a group with its output, and the summary.
-/

namespace HostFleet.Console

def frameWidth : Nat := 80

/-- A title between equals signs, filled up to the width of the frame. -/
def frame (title : String) : String :=
  let head := s!"====== {title} "
  head ++ "".pushn '=' (max (frameWidth - head.length) 6) ++ "\n"

/-- The bytes with a newline at the end, if they have none. -/
def terminated (bs : Bytes) : Bytes :=
  if bs.getLast? = some newline then bs else bs ++ [newline]

/-- Stands before the output of a host in serial mode. -/
def banner (user host cmd : String) : Bytes :=
  Utf8.encode (frame ("ssh " ++ user ++ "@" ++ host ++ " \"" ++ cmd ++ "\""))

def rawLine (l : OutputLine) : Bytes := terminated l.bytes

def hostLine (host : String) (l : OutputLine) : Bytes :=
  Utf8.encode s!"{host}: {l.text}\n"

def hostError (host : String) (e : ExecFault) : Bytes :=
  Utf8.encode s!"{host}: error: {e.text}\n"

/-- The hosts of a group, and the output they share. -/
def group (g : OutputGroup) : Bytes :=
  Utf8.encode (frame (",".intercalate g.hosts)) ++ terminated g.output

def summary (c : Counters) : Bytes :=
  let rule := "".pushn '=' frameWidth
  Utf8.encode
    s!"{rule}\n Hosts processed: {c.total}, success: {c.success}, error: {c.error}\n{rule}\n"

end HostFleet.Console

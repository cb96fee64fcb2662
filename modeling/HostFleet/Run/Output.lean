import HostFleet.Document.Fields
import HostFleet.Text.Utf8

/-!
# What commands write

The output of a command comes in lines from two channels. A line holds its bytes as they were
written, with the newline that ends it; only the last line of a channel can lack one.
-/

namespace HostFleet

def newline : UInt8 := 0x0a

inductive Channel where
  | out
  | err
  deriving DecidableEq, Repr

structure OutputLine where
  channel : Channel
  bytes : Bytes
  deriving DecidableEq, Repr

namespace OutputLine

/-- The bytes without the newline that ends them. -/
def body (l : OutputLine) : Bytes :=
  if l.bytes.getLast? = some newline then l.bytes.dropLast else l.bytes

/-- The line as text, without its newline. -/
def text (l : OutputLine) : String := Utf8.decodeLossy l.body

def byte? (d : Document) : Option UInt8 := (d.natBelow? 256).map UInt8.ofNat

def channel? (d : Document) : Option Channel :=
  match d.choice? Document.isNull with
  | some "stdout" => some .out
  | some "stderr" => some .err
  | _ => none

def ofDocument? (d : Document) : Option OutputLine := do
  let f ← d.fields? 2
  some {
    channel := ← f.required 0 "stream" channel?
    bytes := ← f.required 1 "bytes" (Document.listOf? byte?) }

def toDocument (l : OutputLine) : Document :=
  .record [("stream", .text (match l.channel with | .out => "stdout" | .err => "stderr")),
    ("bytes", .list (l.bytes.map fun b => .int b.toNat))]

end OutputLine

/-- Cuts bytes behind every newline. -/
def splitLines : Bytes → List Bytes
  | [] => []
  | b :: rest =>
    if b = newline then [b] :: splitLines rest
    else match splitLines rest with
      | [] => [[b]]
      | first :: more => (b :: first) :: more

/-- The lines of what a command wrote to one channel. -/
def OutputLine.ofStream (c : Channel) (written : Bytes) : List OutputLine :=
  (splitLines written).map fun bytes => ⟨c, bytes⟩

/-- Where and as whom a command runs. -/
structure RemoteTarget where
  host : String
  user : String
  deriving DecidableEq, Repr

namespace RemoteTarget

def ofDocument? (d : Document) : Option RemoteTarget := do
  let f ← d.fields? 2
  some {
    host := ← f.required 0 "host" Document.text?
    user := ← f.required 1 "user" Document.text? }

def toDocument (t : RemoteTarget) : Document :=
  .record [("host", .text t.host), ("user", .text t.user)]

end RemoteTarget

end HostFleet

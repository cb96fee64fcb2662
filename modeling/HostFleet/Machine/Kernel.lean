import HostFleet.Machine.Files
import HostFleet.Machine.Signal

/-!
# The kernel of a machine

What the processes of a machine share: files, open files, pipes, the clock, and what the system
knows of each process. Every operation is asked for by a process and is over at once; one that
has to wait for another process has no result yet.
-/

namespace HostFleet.Machine

/-- What an open file leads to. -/
inductive Stream where
  | null
  | zeros
  | full
  | random
  | terminal
  /-- What the outside of the machine hears. -/
  | sink (n : Nat)
  | reader (pipe : Nat)
  | writer (pipe : Nat)
  | file (place : Place) (canRead canWrite appends : Bool)
  | folder (place : Place)
  deriving DecidableEq

structure OpenFile where
  stream : Stream
  offset : Nat := 0

/-- How a process ended. -/
inductive Ending where
  | exited (code : Nat)
  | killed (signal : Nat)
  deriving DecidableEq, Repr

/-- Descriptors with the open files they name. -/
abbrev Descriptors := List (Nat × Nat)

/-- What the system knows of a process. -/
structure Process where
  pid : Nat
  parent : Nat
  descriptors : Descriptors
  /-- Descriptors that are put aside and will come back. -/
  held : List Descriptors := []
  folder : String := "/"
  /-- The permissions that new files do not get. -/
  mask : Nat := 0o022
  ignored : List Nat := []
  /-- The signals that the process wants to act on itself. -/
  caught : List Nat := []
  /-- Signals that came and were not acted on. -/
  pending : List Nat := []
  ending : Option Ending := none
  isStopped : Bool := false

structure Kernel where
  files : Files
  opens : Array OpenFile := #[]
  /-- What is left to read in each pipe. -/
  pipes : Array String := #[]
  /-- What was written to each sink and when, last piece first. -/
  sinks : Array (List (Nat × String)) := #[]
  processes : List Process := []
  nextPid : Nat := 4242
  /-- Microseconds since the machine began. -/
  now : Nat := 0

namespace Kernel

def process? (k : Kernel) (pid : Nat) : Option Process := k.processes.find? (·.pid == pid)

def changeProcess (k : Kernel) (pid : Nat) (change : Process → Process) : Kernel :=
  { k with processes := k.processes.map fun p => if p.pid == pid then change p else p }

def isAlive (k : Kernel) (pid : Nat) : Bool :=
  match k.process? pid with
  | some p => p.ending.isNone
  | none => false

/-- Ends a process, which lets go of all its descriptors. -/
def finish (k : Kernel) (pid : Nat) (ending : Ending) : Kernel :=
  k.changeProcess pid fun p =>
    if p.ending.isSome then p
    else { p with ending := some ending, descriptors := [], held := [] }

/-- The folder of a process. -/
def folder (k : Kernel) (pid : Nat) : String := ((k.process? pid).map (·.folder)).getD "/"

def descriptors (k : Kernel) (pid : Nat) : Descriptors :=
  ((k.process? pid).map (·.descriptors)).getD []

def setDescriptors (k : Kernel) (pid : Nat) (ds : Descriptors) : Kernel :=
  k.changeProcess pid fun p => { p with descriptors := ds }

def stream? (k : Kernel) (pid fd : Nat) : Option Stream := do
  (← k.opens[← (k.descriptors pid).lookup fd]?).stream

/-- Whether a living process has an open file that leads there. -/
def isHeld (k : Kernel) (s : Stream) : Bool :=
  k.processes.any fun p => p.ending.isNone &&
    (p.descriptors :: p.held).any fun ds => ds.any fun d =>
      match k.opens[d.2]? with
      | some o => o.stream == s
      | none => false

/-- Whether what some process writes can still be heard outside. -/
def isHeard (k : Kernel) : Bool := (List.range k.sinks.size).any fun n => k.isHeld (.sink n)

/-- Makes an open file, which no descriptor names yet. -/
def newOpen (k : Kernel) (o : OpenFile) : Nat × Kernel :=
  (k.opens.size, { k with opens := k.opens.push o })

/-- Makes a pipe: the open files of its two ends, the one to read from first. -/
def newPipe (k : Kernel) : (Nat × Nat) × Kernel :=
  let n := k.pipes.size
  let k := { k with pipes := k.pipes.push "" }
  let (r, k) := k.newOpen { stream := .reader n }
  let (w, k) := k.newOpen { stream := .writer n }
  ((r, w), k)

/-- Lets a descriptor name an open file. -/
def connect (k : Kernel) (pid fd file : Nat) : Kernel :=
  k.changeProcess pid fun p =>
    { p with descriptors := (fd, file) :: p.descriptors.filter (·.1 != fd) }

def disconnect (k : Kernel) (pid fd : Nat) : Kernel :=
  k.changeProcess pid fun p => { p with descriptors := p.descriptors.filter (·.1 != fd) }

/-- The lowest descriptor from `low` on that a process does not use. -/
def freeDescriptor (k : Kernel) (pid low : Nat) : Nat :=
  let used := (k.descriptors pid).map Prod.fst
  (((List.range (used.length + 1)).map (low + ·)).find? fun fd => !used.contains fd).getD low

/-- How a file is to be opened. -/
structure OpenMode where
  read : Bool := false
  write : Bool := false
  create : Bool := false
  /-- The file must not exist yet. -/
  fresh : Bool := false
  truncate : Bool := false
  append : Bool := false

/-- Opens a path. -/
def openPath (k : Kernel) (pid : Nat) (path : String) (m : OpenMode) :
    Except OsError (Nat × Kernel) := do
  let place ← k.files.locate true (k.folder pid) path
  let device (s : Stream) : Except OsError (Nat × Kernel) := .ok (k.newOpen { stream := s })
  match k.files.kind? place with
  | some (.device .null) => device .null
  | some (.device .zeros) => device .zeros
  | some (.device .full) => device .full
  | some (.device .random) => device .random
  | some (.device .terminal) => .error .noSuchDevice
  | some (.device (.descriptor fd)) =>
    match (k.descriptors pid).lookup fd with
    | some file => .ok (file, k)
    | none => .error .notFound
  | some .folder =>
    if m.write || m.create then .error .isDirectory else .ok (k.newOpen { stream := .folder place })
  | some (.link _) => .error .tooManyLinks
  | some (.file content) =>
    if m.fresh then .error .fileExists
    else
      let files := if m.truncate then k.files.write place [] k.now else k.files
      let _ := content
      .ok ({ k with files := files }.newOpen
        { stream := .file place m.read m.write m.append })
  | none =>
    if !m.create then .error .notFound
    else if path.endsWith "/" then .error .isDirectory
    else if k.files.kind? place.tail != some .folder then .error .notFound
    else
      let mask := ((k.process? pid).map (·.mask)).getD 0
      let files := (k.files.write place [] k.now).setMode place (0o666 &&& (0o777 ^^^ mask))
      .ok ({ k with files := files }.newOpen
        { stream := .file place m.read m.write m.append })

/-- How many bytes can be waiting in a pipe before its writers have to wait. -/
def pipeSize : Nat := 65536

/-- What a pipe or device without end gives at a time. -/
def blockSize : Nat := 65536

def fileText (k : Kernel) (place : Place) : List Char :=
  match k.files.kind? place with
  | some (.file content) => content.map fun b => Char.ofNat b.toNat
  | _ => []

/-- The numbers of a stream that looks random. -/
def noise (seed : Nat) : Nat → List Char
  | 0 => []
  | n + 1 =>
    let next := (seed * 6364136223846793005 + 1442695040888963407) % Nat.pow 2 64
    Char.ofNat (next / Nat.pow 2 33 % 256) :: noise next n

/-- Reads from a descriptor: up to `count` bytes, or up to the end of a line if `byLine`. Nothing
is left to read when the text is empty. -/
def read (k : Kernel) (pid fd count : Nat) (byLine : Bool) :
    Option (Except OsError String × Kernel) :=
  match (k.descriptors pid).lookup fd with
  | none => some (.error .badDescriptor, k)
  | some file =>
    match k.opens[file]? with
    | none => some (.error .badDescriptor, k)
    | some o =>
      let cut (cs : List Char) : List Char :=
        if byLine then
          let line := cs.takeWhile (· != '\n')
          if line.length < cs.length then line ++ ['\n'] else line
        else cs.take count
      match o.stream with
      | .null => some (.ok "", k)
      | .zeros => some (.ok (String.ofList (List.replicate count '\x00')), k)
      | .full => some (.ok (String.ofList (List.replicate count '\x00')), k)
      | .random =>
        let text := String.ofList (noise (o.offset + 4711) count)
        let o := { o with offset := o.offset + count }
        some (.ok text, { k with opens := k.opens.setIfInBounds file o })
      | .terminal => some (.error .noSuchDevice, k)
      | .sink _ => some (.error .badDescriptor, k)
      | .writer _ => some (.error .badDescriptor, k)
      | .folder _ => some (.error .isDirectory, k)
      | .file place canRead _ _ =>
        if !canRead then some (.error .badDescriptor, k)
        else
          let got := cut ((k.fileText place).drop o.offset)
          let o := { o with offset := o.offset + got.length }
          some (.ok (String.ofList got), { k with opens := k.opens.setIfInBounds file o })
      | .reader pipe =>
        let text := k.pipes[pipe]?.getD ""
        if text.isEmpty then
          if k.isHeld (.writer pipe) then none else some (.ok "", k)
        else
          let cs := text.toList
          let got := cut cs
          let rest := String.ofList (cs.drop got.length)
          some (.ok (String.ofList got), { k with pipes := k.pipes.setIfInBounds pipe rest })

/-- Lets the last bytes that were read from a file be read again. What was read from a pipe is
gone. -/
def giveBack (k : Kernel) (pid fd count : Nat) : Kernel :=
  match (k.descriptors pid).lookup fd with
  | none => k
  | some file =>
    { k with opens := k.opens.modify file fun o =>
        match o.stream with
        | .file .. => { o with offset := o.offset - count }
        | _ => o }

/-- A text with another written over it from an offset on. -/
def overwrite (old : Bytes) (offset : Nat) (new : Bytes) : Bytes :=
  old.take offset ++ List.replicate (offset - old.length) 0 ++ new ++ old.drop (offset + new.length)

/-- Goes to a place in a file. -/
def seek (k : Kernel) (pid fd offset : Nat) : Except OsError Kernel :=
  match k.stream? pid fd with
  | some (.file ..) =>
    let file := ((k.descriptors pid).lookup fd).getD 0
    .ok { k with opens := k.opens.modify file fun o => { o with offset := offset } }
  | some .null => .ok k
  | some .zeros => .ok k
  | some _ => .error .illegalSeek
  | none => .error .badDescriptor

/-- Cuts off what stands behind a place in a file, or fills the file with zeros up to there. -/
def resize (k : Kernel) (pid fd size : Nat) : Kernel :=
  match k.stream? pid fd with
  | some (.file place ..) =>
    match k.files.kind? place with
    | some (.file content) =>
      { k with files := k.files.write place (overwrite (content.take size) size []) k.now }
    | _ => k
  | _ => k

/-- Sends a signal to a process. -/
def send (k : Kernel) (pid signal : Nat) : Kernel :=
  match k.process? pid with
  | none => k
  | some p =>
    if p.ending.isSome then k
    else if signal = 9 then k.finish pid (.killed 9)
    else if signal = 18 then k.changeProcess pid fun p => { p with isStopped := false }
    else if p.ignored.contains signal then k
    else if p.caught.contains signal then
      k.changeProcess pid fun p => { p with pending := p.pending ++ [signal] }
    else if isStopping signal then k.changeProcess pid fun p => { p with isStopped := true }
    else if isHarmless signal then k
    else k.finish pid (.killed signal)

/-- Writes to a descriptor. A process that writes to a pipe nobody reads is told by a signal. -/
def write (k : Kernel) (pid fd : Nat) (text : String) : Option (Except OsError Unit × Kernel) :=
  match (k.descriptors pid).lookup fd with
  | none => some (.error .badDescriptor, k)
  | some file =>
    match k.opens[file]? with
    | none => some (.error .badDescriptor, k)
    | some o =>
      match o.stream with
      | .null => some (.ok (), k)
      | .zeros => some (.ok (), k)
      | .random => some (.ok (), k)
      | .full => some (if text.isEmpty then .ok () else .error .noSpace, k)
      | .terminal => some (.error .noSuchDevice, k)
      | .reader _ => some (.error .badDescriptor, k)
      | .folder _ => some (.error .badDescriptor, k)
      | .sink n =>
        let sinks := if text.isEmpty then k.sinks else k.sinks.modify n ((k.now, text) :: ·)
        some (.ok (), { k with sinks := sinks })
      | .file place _ canWrite appends =>
        if !canWrite then some (.error .badDescriptor, k)
        else
          let old := match k.files.kind? place with
            | some (.file content) => content
            | _ => []
          let offset := if appends then old.length else o.offset
          let new := ByteText.toBytes text
          let files := if (k.files.kind? place).isNone then k.files
            else k.files.write place (overwrite old offset new) k.now
          let o := { o with offset := offset + new.length }
          some (.ok (), { k with files := files, opens := k.opens.setIfInBounds file o })
      | .writer pipe =>
        let waiting := k.pipes[pipe]?.getD ""
        if text.isEmpty then some (.ok (), k)
        else if !k.isHeld (.reader pipe) then
          some (.error .brokenPipe, k.send pid 13)
        else if pipeSize ≤ waiting.length then none
        else some (.ok (), { k with pipes := k.pipes.modify pipe (· ++ text) })

/-- The ending of a child, which is forgotten then. -/
def reap (k : Kernel) (pid child : Nat) : Option (Option Ending × Kernel) :=
  match k.process? child with
  | none => some (none, k)
  | some c =>
    if c.parent != pid then some (none, k)
    else match c.ending with
      | none => none
      | some e => some (some e, { k with processes := k.processes.filter (·.pid != child) })

/-- Splits a process off another. Descriptors that were put aside stay with the other. -/
def split (k : Kernel) (pid : Nat) (descriptors : Descriptors) : Nat × Kernel :=
  let child := k.nextPid
  match k.process? pid with
  | none => (child, k)
  | some p =>
    let c := { p with pid := child, parent := pid, descriptors := descriptors, held := []
                      pending := [] }
    (child, { k with processes := k.processes ++ [c], nextPid := child + 1 })

end Kernel

end HostFleet.Machine

import HostFleet.Storage.FileTree
import HostFleet.Text.ByteText

/-!
# The files of a machine

A file tree with what a running system adds to it: devices, links, permissions and times. Paths
and names are byte texts here. The user may do everything, but nobody can run a file that is not
marked for that.
-/

namespace HostFleet.Machine

inductive Device where
  | null
  | zeros
  | full
  | random
  | terminal
  /-- Stands for a descriptor of the process that opens it. -/
  | descriptor (fd : Nat)
  deriving DecidableEq, Repr

structure Files where
  tree : FileTree := {}
  links : NameMap String := ∅
  devices : NameMap Device := ∅
  /-- The permissions that are not the usual ones. -/
  modes : NameMap Nat := ∅
  /-- When files were written: microseconds since the machine began. -/
  times : NameMap Int := ∅

/-- When machines begin: seconds since the beginning of 1970. -/
def clockStart : Nat := 1771276800

/-- What a path leads to. -/
inductive Kind where
  | file (content : Bytes)
  | folder
  | link (target : String)
  | device (d : Device)
  deriving DecidableEq

namespace Files

/-- What stands at a place. -/
def kind? (f : Files) (p : Place) : Option Kind :=
  match f.links[p.key]? with
  | some target => some (.link target)
  | none =>
    match f.devices[p.key]? with
    | some d => some (.device d)
    | none =>
      match f.tree.node? p with
      | some .folder => some .folder
      | some (.file content) => some (.file content)
      | none => none

/-- How many links can be followed on the way to one place. -/
def maxLinks : Nat := 40

/-- Goes from a place along the parts of a path. A link in the last part is followed if that is
wanted. -/
def walk (f : Files) (follow : Bool) (links : Nat) (place : Place) (parts : List String) :
    Except OsError Place :=
  match parts with
  | [] => .ok place
  | part :: rest =>
    match f.kind? place with
    | some .folder =>
      if 255 < part.utf8ByteSize then .error .nameTooLong
      else if part = ".." then walk f follow links place.tail rest
      else
        let next : Place := part :: place
        match f.links[next.key]? with
        | none => walk f follow links next rest
        | some target =>
          if rest.isEmpty && !follow then .ok next
          else match links with
            | 0 => .error .tooManyLinks
            | links + 1 =>
              walk f follow links (if Path.isAbsolute target then [] else place)
                (Path.parts target ++ rest)
    | some _ => .error .notDirectory
    | none => .error .notFound
termination_by (links, parts.length)

/-- The place that a path names as seen from a folder. -/
def locate (f : Files) (follow : Bool) (folder path : String) : Except OsError Place :=
  let path := ByteText.toText path
  if path.isEmpty then .error .notFound
  else if FileTree.maxPath < path.utf8ByteSize then .error .nameTooLong
  else do
    let parts := if Path.isAbsolute path then Path.parts path
      else Path.parts (ByteText.toText folder) ++ Path.parts path
    let place ← f.walk (follow || path.endsWith "/") maxLinks [] parts
    if Path.endsInFolder path then
      match f.kind? place with
      | some .folder => .ok place
      | some _ => .error .notDirectory
      | none => .ok place
    else .ok place

/-- The permissions of what stands at a place. -/
def mode (f : Files) (p : Place) : Nat :=
  match f.modes[p.key]? with
  | some m => m
  | none =>
    match f.kind? p with
    | some .folder => if p.key = "/tmp" || p.key = "/var/tmp" then 0o1777 else 0o755
    | some (.link _) => 0o777
    | some (.device _) => 0o666
    | _ => 0o644

def isRunnable (f : Files) (p : Place) : Bool := f.mode p &&& 0o111 != 0

/-- The time at which a place was written. -/
def time (f : Files) (p : Place) : Int := f.times[p.key]?.getD 0

def lookup (f : Files) (follow : Bool) (folder path : String) : Except OsError (Place × Kind) := do
  let p ← f.locate follow folder path
  match f.kind? p with
  | some k => .ok (p, k)
  | none => .error .notFound

def isFolder (f : Files) (folder path : String) : Bool :=
  match f.lookup true folder path with
  | .ok (_, .folder) => true
  | _ => false

def holds (f : Files) (folder path : String) : Bool :=
  (f.lookup true folder path).toOption.isSome

/-- Writes a file at a place whose folder exists. -/
def write (f : Files) (p : Place) (content : Bytes) (now : Nat) : Files :=
  { f with tree := f.tree.put p (.file content), times := f.times.insert p.key now }

def setMode (f : Files) (p : Place) (mode : Nat) : Files :=
  { f with modes := f.modes.insert p.key mode }

def setTime (f : Files) (p : Place) (time : Int) : Files :=
  { f with times := f.times.insert p.key time }

/-- Makes a folder. -/
def makeFolder (f : Files) (folder path : String) (mode now : Nat) : Except OsError Files := do
  let p ← f.locate false folder path
  match f.kind? p with
  | some _ => .error .fileExists
  | none => .ok { f with
      tree := f.tree.put p .folder
      modes := f.modes.insert p.key mode
      times := f.times.insert p.key now }

def addLink (f : Files) (p : Place) (target : String) : Files :=
  { f with links := f.links.insert p.key (ByteText.toText target) }

/-- The names directly inside a folder. -/
def entries (f : Files) (p : Place) : List String :=
  let start := p.key ++ "/"
  let inside (key : String) : Option String :=
    if key.startsWith start then
      let name := String.ofList (key.toList.drop start.length)
      if name.contains '/' then none else some (ByteText.ofText name)
    else none
  let names := f.tree.nodes.keys.filterMap inside ++ f.links.keys.filterMap inside
    ++ f.devices.keys.filterMap inside
  (names.mergeSort fun a b => decide (a ≤ b)).eraseReps

/-- Takes away what stands at a place, with all that is in it. -/
def remove (f : Files) (p : Place) : Files :=
  let isOutside (key : String) : Bool := key != p.key && !key.startsWith (p.key ++ "/")
  { tree := { f.tree with nodes := f.tree.nodes.filter fun key _ => isOutside key }
    links := f.links.filter fun key _ => isOutside key
    devices := f.devices.filter fun key _ => isOutside key
    modes := f.modes.filter fun key _ => isOutside key
    times := f.times.filter fun key _ => isOutside key }

/-- Moves what stands at a place, with all that is in it, in place of what stands at another. -/
def move (f : Files) (source target : Place) : Files :=
  let f := if source = target then f else f.remove target
  let rename {α : Type} (m : NameMap α) : NameMap α :=
    m.foldl (fun m key v =>
      if key = source.key then m.insert target.key v
      else if key.startsWith (source.key ++ "/") then
        m.insert (target.key ++ String.ofList (key.toList.drop source.key.length)) v
      else m.insert key v) ∅
  { tree := { f.tree with nodes := rename f.tree.nodes }
    links := rename f.links
    devices := rename f.devices
    modes := rename f.modes
    times := rename f.times }

/-- A path written out: absolute, with neither dots nor links. -/
def shown (p : Place) : String := if p.isEmpty then "/" else ByteText.ofText p.key

end Files

end HostFleet.Machine

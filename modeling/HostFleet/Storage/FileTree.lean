import HostFleet.Names
import HostFleet.Storage.OsError
import HostFleet.Storage.Path
import HostFleet.Text.Utf8

/-!
# File trees

Folders and files held in memory. A place is the list of names that leads to it from the root,
innermost first. Reading and writing follow the rules of a file system: every folder on the way
has to exist, a folder is no file, and names are limited to 255 bytes.
-/

namespace HostFleet

inductive Node where
  | folder
  | file (content : Bytes)
  deriving DecidableEq, Inhabited

/-- A place in a tree, innermost name first. -/
abbrev Place := List String

def Place.key (p : Place) : String := String.join (p.reverse.map ("/" ++ ·))

structure FileTree where
  nodes : NameMap Node := ∅
  /-- Where relative paths begin. -/
  working : Place := []

namespace FileTree

instance : Inhabited FileTree := ⟨{}⟩

/-- What stands at a place. The root is a folder always. -/
def node? (t : FileTree) (p : Place) : Option Node :=
  if p.isEmpty then some .folder else t.nodes[p.key]?

def put (t : FileTree) (p : Place) (n : Node) : FileTree :=
  { t with nodes := t.nodes.insert p.key n }

/-- Goes from a place along the parts of a path. What the last part leads to need not exist. -/
def walk (t : FileTree) (place : Place) : List String → Except OsError Place
  | [] => .ok place
  | part :: rest =>
    match t.node? place with
    | none => .error .notFound
    | some (.file _) => .error .notDirectory
    | some .folder =>
      if 255 < part.utf8ByteSize then .error .nameTooLong
      else if part = ".." then t.walk place.tail rest
      else t.walk (part :: place) rest

/-- The longest path in bytes. -/
def maxPath : Nat := 4095

/-- The place that a path names. -/
def locate (t : FileTree) (path : String) : Except OsError Place :=
  if path.contains '\x00' then .error .zeroInName
  else if path.isEmpty then .error .notFound
  else if maxPath < path.utf8ByteSize then .error .nameTooLong
  else t.walk (if Path.isAbsolute path then [] else t.working) (Path.parts path)

def read (t : FileTree) (path : String) : Except OsError Bytes := do
  match t.node? (← t.locate path) with
  | some (.file content) =>
    if Path.endsInFolder path then .error .notDirectory else .ok content
  | some .folder => .error .isDirectory
  | none => .error .notFound

/-- Whether the path leads to something. -/
def holds (t : FileTree) (path : String) : Bool :=
  match t.locate path with
  | .ok p => (t.node? p).isSome
  | .error _ => false

def isFolder (t : FileTree) (path : String) : Bool :=
  match t.locate path with
  | .ok p => t.node? p == some .folder
  | .error _ => false

/-- Puts a file at a path, in place of one that is there. -/
def write (t : FileTree) (path : String) (content : Bytes) : Except OsError FileTree := do
  let p ← t.locate path
  if t.node? p == some .folder || path.endsWith "/" then .error .isDirectory
  else .ok (t.put p (.file content))

/-- Makes one folder inside an existing one. -/
def makeFolder (t : FileTree) (path : String) : Except OsError FileTree := do
  let p ← t.locate path
  match t.node? p with
  | some _ => .error .fileExists
  | none => .ok (t.put p .folder)

/-- Makes the folders that end in these paths, outermost first, leaving those that exist. The tree
as far as they were made, and why not all were. -/
def makeEach (t : FileTree) : List String → FileTree × Option OsError
  | [] => (t, none)
  | path :: rest =>
    match t.makeFolder path with
    | .ok t => t.makeEach rest
    | .error e => if t.isFolder path then t.makeEach rest else (t, some e)

/-- The path and the folders around it, innermost first, as far as they may have to be made. -/
def enclosing : Nat → String → List String
  | 0, _ => []
  | n + 1, path =>
    if path.isEmpty then []
    else path :: (Path.parent? path).elim [] (enclosing n)

/-- Makes a folder with all folders around it. The tree as far as they were made, and why not all
were. -/
def makeFolders (t : FileTree) (path : String) : FileTree × Option OsError :=
  if path.isEmpty then (t, none)
  else match t.makeFolder path with
    | .ok t => (t, none)
    | .error .notFound => t.makeEach (enclosing path.length path).reverse
    | .error e => (t, if t.isFolder path then none else some e)

/-- Moves a file to another path, in place of a file that is there. -/
def rename (t : FileTree) (source target : String) : Except OsError FileTree := do
  let content ← t.read source
  let p ← t.locate source
  let t₁ ← t.write target content
  let q ← t.locate target
  if p = q then .ok t else .ok { t₁ with nodes := t₁.nodes.erase p.key }

/-- Takes away a file, or a folder with all that is in it, if it is there. -/
def remove? (t : FileTree) (path : String) : Option FileTree :=
  match t.locate path with
  | .error _ => none
  | .ok p =>
    if (t.node? p).isNone then none
    else some { t with nodes := t.nodes.filter fun key _ =>
      key != p.key && !key.startsWith (p.key ++ "/") }

/-- The names directly inside a folder. -/
def entries (t : FileTree) (path : String) : Except OsError (List String) := do
  let p ← t.locate path
  match t.node? p with
  | none => .error .notFound
  | some (.file _) => .error .notDirectory
  | some .folder =>
    let start := p.key ++ "/"
    .ok (t.nodes.keys.filterMap fun key =>
      if key.startsWith start then
        let name := String.ofList (key.toList.drop start.length)
        if name.contains '/' then none else some name
      else none)

/-- The names directly inside a folder: none if there is no such folder. -/
def list (t : FileTree) (path : String) : List String := (t.entries path).toOption.getD []

end FileTree

end HostFleet

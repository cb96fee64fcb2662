import HostFleet.Machine.Program

/-!
# Making, moving and removing

What processes do to the entries of folders. A file that is taken away stays as it is for those who
have it open.
-/

namespace HostFleet.Machine

namespace Kernel

/-- Lets open files follow what they lead to from one place to another. -/
def redirect (k : Kernel) (change : Place → Place) : Kernel :=
  { k with opens := k.opens.map fun o =>
      match o.stream with
      | .file p canRead canWrite appends =>
        { o with stream := .file (change p) canRead canWrite appends }
      | .folder p => { o with stream := .folder (change p) }
      | _ => o }

/-- Takes away what stands at a place. -/
def detach (k : Kernel) (p : Place) : Kernel :=
  let isOpen := k.opens.any fun o => match o.stream with
    | .file q .. => q == p
    | _ => false
  if isOpen then
    let hidden : Place := ["\x00" ++ toString k.now ++ p.key]
    { k with files := k.files.move p hidden }.redirect fun q => if q = p then hidden else q
  else { k with files := k.files.remove p }

def locate (k : Kernel) (pid : Nat) (follow : Bool) (path : String) : Except OsError Place :=
  k.files.locate follow (k.folder pid) path

def lookup (k : Kernel) (pid : Nat) (follow : Bool) (path : String) :
    Except OsError (Place × Kind) :=
  k.files.lookup follow (k.folder pid) path

/-- Makes a folder with permissions from which the process takes away those it does not give. -/
def makeFolder (k : Kernel) (pid : Nat) (path : String) (mode : Nat) : Except OsError Kernel := do
  let p ← k.locate pid false path
  if path.endsWith "/." && (k.files.kind? p).isNone then .error .notFound
  else
    let mask := ((k.process? pid).map (·.mask)).getD 0
    let files ← k.files.makeFolder (k.folder pid) path (mode &&& (0o7777 ^^^ mask)) k.now
    .ok { k with files := files }

/-- Takes away a file or a link. -/
def unlink (k : Kernel) (pid : Nat) (path : String) : Except OsError Kernel := do
  match ← k.lookup pid (path.endsWith "/") path with
  | (_, .folder) => .error .isDirectory
  | (p, _) => .ok (k.detach p)

/-- The last part of a path, which can be a dot. -/
def lastPart (path : String) : String :=
  let back := path.toList.reverse.dropWhile (· = '/')
  String.ofList (back.takeWhile (· != '/')).reverse

/-- Takes away an empty folder. -/
def removeFolder (k : Kernel) (pid : Nat) (path : String) : Except OsError Kernel := do
  match ← k.lookup pid (path.endsWith "/") path with
  | (p, .folder) =>
    if lastPart path = "." then .error .invalidArgument
    else if lastPart path = ".." then .error .notEmpty
    else if p.isEmpty then .error .busy
    else if !(k.files.entries p).isEmpty then .error .notEmpty
    else .ok { k with files := k.files.remove p }
  | _ => .error .notDirectory

/-- Moves an entry, in place of one that is there. -/
def rename (k : Kernel) (pid : Nat) (source target : String) : Except OsError Kernel := do
  let (p, kind) ← k.lookup pid false source
  let q ← k.locate pid false target
  let isFolder := kind == .folder
  if p.isEmpty || q.isEmpty || [".", ".."].contains (lastPart source)
      || [".", ".."].contains (lastPart target) then .error .busy
  else if p = q then .ok k
  else if p.isSuffixOf q then .error .invalidArgument
  else
    let done := ({ k with files := k.files.move p q }).redirect fun r =>
      if p.isSuffixOf r then r.take (r.length - p.length) ++ q else r
    match k.files.kind? q with
    | none => if target.endsWith "/" && !isFolder then .error .notDirectory else .ok done
    | some .folder =>
      if !isFolder then .error .isDirectory
      else if q.isSuffixOf p || !(k.files.entries q).isEmpty then .error .notEmpty
      else .ok done
    | some _ =>
      if isFolder then .error .notDirectory
      else
        let k := k.detach q
        .ok (({ k with files := k.files.move p q }).redirect fun r => if r = p then q else r)

/-- Makes a link to a path, which need not lead anywhere. -/
def makeLink (k : Kernel) (pid : Nat) (target path : String) : Except OsError Kernel := do
  if target.isEmpty then .error .notFound
  else
    let p ← k.locate pid false path
    match k.files.kind? p with
    | some _ => .error .fileExists
    | none =>
      if path.endsWith "/" then .error .notFound
      else .ok { k with files := (k.files.addLink p target).setTime p k.now }

/-- Gives a file a second name. The content is there twice. -/
def copyLink (k : Kernel) (pid : Nat) (target path : String) : Except OsError Kernel := do
  let (p, kind) ← k.lookup pid false target
  let q ← k.locate pid false path
  match k.files.kind? q, kind with
  | some _, _ => .error .fileExists
  | none, .folder => .error .notPermitted
  | none, .link to' => .ok { k with files := k.files.addLink q to' }
  | none, .device _ => .error .notPermitted
  | none, .file content =>
    let files := (k.files.write q content k.now).setMode q (k.files.mode p)
    .ok { k with files := files.setTime q (k.files.time p) }

/-- Changes permissions. -/
def setMode (k : Kernel) (pid : Nat) (path : String) (mode : Nat) : Except OsError Kernel := do
  let (p, _) ← k.lookup pid true path
  .ok { k with files := k.files.setMode p mode }

/-- Changes when a file was written. -/
def setTime (k : Kernel) (pid : Nat) (follow : Bool) (path : String) (time : Int) :
    Except OsError Kernel := do
  let (p, _) ← k.lookup pid follow path
  .ok { k with files := k.files.setTime p time }

end Kernel

namespace Program

/-- Asks for a change that can be refused. -/
def attempt (f : Nat → Kernel → Except OsError Kernel) : Program (Except OsError Unit) :=
  access fun pid k => match f pid k with
    | .ok k => (.ok (), k)
    | .error e => (.error e, k)

/-- What a path leads to. -/
def lookup (follow : Bool) (path : String) : Program (Except OsError (Place × Kind)) :=
  look fun pid k => k.lookup pid follow path

/-- Whether something stands at a path, be it a link that leads nowhere. -/
def exists? (path : String) : Program Bool := do
  pure (← lookup false path).toOption.isSome

end Program

end HostFleet.Machine

import HostFleet.Machine.Entries
import HostFleet.Utility.Options

/-!
# Names of paths

`basename` and `dirname` take paths apart; `realpath` and `readlink` tell where paths lead; `mktemp`
finds names that are not in use.
-/

namespace HostFleet.Utility

open Machine

/-- A path without the slashes at its end, of which one is left if there is nothing else. -/
def withoutSlashes (path : String) : String :=
  let front := (path.toList.reverse.dropWhile (· = '/')).reverse
  if front.isEmpty then (if path.isEmpty then "" else "/") else String.ofList front

/-- The last part of a path. -/
def baseName (path : String) : String :=
  let path := withoutSlashes path
  if path = "/" then "/" else Kernel.lastPart path

/-- What stands before the last part of a path. -/
def outerName (path : String) : String :=
  let cs := (withoutSlashes path).toList
  let front := (cs.reverse.dropWhile (· != '/')).reverse
  if front.isEmpty then (if path.startsWith "/" then "/" else ".")
  else withoutSlashes (String.ofList front)

def basename : Utility := fun c => do
  let options : Options :=
    { short := "as:z"
      long := [("multiple", .none, "a"), ("suffix", .required, "s"), ("zero", .none, "z")]
      anywhere := false }
  let p ← options.of c 1
  let stop := if p.has "z" then "\x00" else "\n"
  let short (suffix path : String) : String :=
    let base := baseName path
    if !suffix.isEmpty && base != suffix && base.endsWith suffix && base != "/" then
      String.ofList (base.toList.take (base.length - suffix.length))
    else base
  let many := p.has "a" || p.has "s"
  match p.operands with
  | [] => c.misuse "missing operand" 1
  | paths =>
    if many then do
      c.put (String.join (paths.map fun path => short ((p.value? "s").getD "") path ++ stop))
      pure 0
    else match paths with
      | [path] => do
        c.put (short "" path ++ stop)
        pure 0
      | [path, suffix] => do
        c.put (short suffix path ++ stop)
        pure 0
      | _ :: _ :: extra :: _ => c.misuse ("extra operand " ++ inQuotes extra) 1
      | [] => pure 0

def dirname : Utility := fun c => do
  let p ← ({ short := "z", long := [("zero", .none, "z")], anywhere := false } : Options).of c 1
  let stop := if p.has "z" then "\x00" else "\n"
  if p.operands.isEmpty then c.misuse "missing operand" 1
  else
    c.put (String.join (p.operands.map fun path => outerName path ++ stop))
    pure 0

/-! ## Where paths lead -/

/-- How much of a path has to exist. -/
inductive Existence where
  | all
  | allButLast
  | nothing
  deriving DecidableEq

/-- Goes along the parts of a path as far as it exists, and further if nothing has to. -/
def resolveParts (files : Files) (links : Nat) (place : Place) : List String → Place
  | [] => place
  | part :: rest =>
    if part = ".." then resolveParts files links place.tail rest
    else match files.walk true links place [part] with
      | .ok next => resolveParts files links next rest
      | .error _ => resolveParts files links (part :: place) rest

/-- Where a path leads, without links and dots. -/
def resolve (files : Files) (folder path : String) (e : Existence) : Except OsError Place :=
  match e with
  | .all => (files.lookup true folder path).map Prod.fst
  | .allButLast => files.locate true folder (if path = "/" then path else withoutSlashes path)
      >>= fun p => if path.endsWith "/" && (files.kind? p).any (· != .folder) then
          .error .notDirectory else .ok p
  | .nothing =>
    if path.isEmpty then .error .notFound
    else
      let parts := if Path.isAbsolute path then Path.parts path
        else Path.parts folder ++ Path.parts path
      .ok (resolveParts files Files.maxLinks [] parts)

/-- Where a path leads if links in it are not followed. -/
def resolveText (folder path : String) : Place :=
  let parts := if Path.isAbsolute path then Path.parts path
    else Path.parts folder ++ Path.parts path
  parts.foldl (fun p part => if part = ".." then p.tail else part :: p) []

/-- The way from one place to another. -/
def relativePath (source target : Place) : String :=
  go source.reverse target.reverse
where
  go : List String → List String → String
    | a :: as, b :: bs =>
      if a = b then go as bs else "/".intercalate ((a :: as).map (fun _ => "..") ++ b :: bs)
    | [], [] => "."
    | as, bs => "/".intercalate (as.map (fun _ => "..") ++ bs)

def realpath : Utility := fun c => do
  let options : Options :=
    { short := "eEmLPqsz"
      long := [("canonicalize", .none, "E"), ("canonicalize-existing", .none, "e"),
        ("canonicalize-missing", .none, "m"), ("logical", .none, "L"), ("physical", .none, "P"),
        ("quiet", .none, "q"), ("relative-to", .required, "to"),
        ("relative-base", .required, "base"), ("strip", .none, "s"),
        ("no-symlinks", .none, "s"), ("zero", .none, "z")] }
  let p ← options.of c 1
  if p.operands.isEmpty then c.misuse "missing operand" 1
  else
    let files ← Program.files
    let folder ← Program.folder
    let existence : Existence := match p.last? ["e", "m", "E"] with
      | some "e" => .all
      | some "m" => .nothing
      | _ => .allButLast
    let find (path : String) : Except OsError Place :=
      if p.has "s" then
        if path.isEmpty then .error .notFound
        else match existence with
          | .nothing => .ok (resolveText folder path)
          | _ => (resolve files folder path existence).map fun _ => resolveText folder path
      else resolve files folder path existence
    let from' ← match p.value? "to" with
      | none => pure none
      | some path =>
        match find path with
        | .ok place => pure (some place)
        | .error e => c.fail (nameText path ++ ": " ++ e.reason) 1
    let mut fine := true
    for path in p.operands do
      match find path with
      | .ok place =>
        let text := match from' with
          | some source => relativePath source place
          | none => Files.shown place
        c.put (text ++ if p.has "z" then "\x00" else "\n")
      | .error e => do
        fine := false
        if !p.has "q" then
          c.warn ((if path.isEmpty then "''" else nameText path) ++ ": " ++ e.reason)
    pure (if fine then 0 else 1)

def readlink : Utility := fun c => do
  let options : Options :=
    { short := "efmnqsvz"
      long := [("canonicalize", .none, "f"), ("canonicalize-existing", .none, "e"),
        ("canonicalize-missing", .none, "m"), ("no-newline", .none, "n"), ("quiet", .none, "q"),
        ("silent", .none, "q"), ("verbose", .none, "v"), ("zero", .none, "z")] }
  let p ← options.of c 1
  if p.operands.isEmpty then c.misuse "missing operand" 1
  else
    let files ← Program.files
    let folder ← Program.folder
    let find (path : String) : Except OsError String :=
      match p.last? ["e", "f", "m"] with
      | some "e" => (resolve files folder path .all).map Files.shown
      | some "f" => (resolve files folder path .allButLast).map Files.shown
      | some _ => (resolve files folder path .nothing).map Files.shown
      | none =>
        match files.lookup false folder path with
        | .ok (_, .link target) => .ok (ByteText.ofText target)
        | .ok _ => .error .invalidArgument
        | .error e => .error e
    let bare := p.has "n" && p.operands.length = 1
    if p.has "n" && !bare then c.warn "ignoring --no-newline with multiple arguments"
    let mut fine := true
    for path in p.operands do
      match find path with
      | .ok text => c.put (text ++ if bare then "" else if p.has "z" then "\x00" else "\n")
      | .error e => do
        fine := false
        if (p.last? ["v", "q", "s"]) = some "v" then
          c.warn ((if path.isEmpty then "''" else nameText path) ++ ": " ++ e.reason)
    pure (if fine then 0 else 1)

/-! ## Names that are not in use -/

/-- Letters and digits that a number stands for. -/
def randomLetters (seed : Nat) : Nat → List Char
  | 0 => []
  | n + 1 =>
    let next := (seed * 6364136223846793005 + 1442695040888963407) % Nat.pow 2 64
    let k := next / Nat.pow 2 33 % 62
    Char.ofNat (if k < 10 then 48 + k else if k < 36 then 55 + k else 61 + k)
      :: randomLetters next n

def mktemp : Utility := fun c => do
  let options : Options :=
    { short := "dp:qtuV"
      long := [("directory", .none, "d"), ("quiet", .none, "q"), ("dry-run", .none, "u"),
        ("suffix", .required, "suffix"), ("tmpdir", .optional, "tmpdir")] }
  let p ← options.of c 1
  let template ← match p.operands with
    | [] => pure "tmp.XXXXXXXXXX"
    | [t] => pure t
    | _ => c.misuse "too many templates" 1
  let usual := (c.vars.lookup "TMPDIR").filter (· != "") |>.getD "/tmp"
  let folder : Option String := match p.last? ["p", "tmpdir", "t"] with
    | some "t" => some usual
    | some key =>
      let value := (p.value? key).getD ""
      some (if value.isEmpty then usual else value)
    | none => if p.operands.isEmpty then some usual else none
  let cs := template.toList
  -- the letters to replace are the last ones, unless more is said to follow them
  let back := if p.has "suffix" then cs.reverse
    else cs.reverse.dropWhile (· != 'X')
  let suffix := (p.value? "suffix").getD
    (String.ofList (cs.reverse.takeWhile (· != 'X')).reverse)
  if p.has "suffix" && back.head? != some 'X' then
    c.fail ("with --suffix, template " ++ inQuotes template ++ " must end in X") 1
  let count := (back.takeWhile (· = 'X')).length
  if count < 3 then c.fail ("too few X's in template " ++ inQuotes template) 1
  if suffix.contains '/' then
    c.fail ("invalid suffix " ++ inQuotes suffix ++ ", contains directory separator") 1
  let stem := String.ofList (back.drop count).reverse
  if p.has "t" && (stem.contains '/') then
    c.fail ("invalid template, " ++ inQuotes template ++ ", contains directory separator") 1
  if folder.isSome && stem.startsWith "/" && !p.has "t" then
    let why := "; with --tmpdir, it may not be absolute"
    c.fail ("invalid template, " ++ inQuotes template ++ why) 1
  let path (middle : String) : String :=
    let name := stem ++ middle ++ suffix
    match folder with
    | some f => Path.join f name
    | none => name
  let seed ← Program.look fun pid k => k.now * 31 + pid
  let name := path (String.ofList (randomLetters seed count))
  let shown := path ("".pushn 'X' count)
  let result ← if p.has "u" then pure (.ok ())
    else if p.has "d" then Program.attempt fun pid k => k.makeFolder pid name 0o700
    else match ← Program.openPath name { write := true, create := true, fresh := true } with
      | .ok fd => do
        Program.close fd
        Program.attempt fun pid k => k.setMode pid name 0o600
      | .error e => pure (.error e)
  match result with
  | .ok () => do
    c.put (name ++ "\n")
    pure 0
  | .error e => do
    if !p.has "q" then
      c.warn ("failed to create " ++ (if p.has "d" then "directory" else "file")
        ++ " via template " ++ inQuotes shown ++ ": " ++ e.reason)
    pure 1

end HostFleet.Utility

import HostFleet.Machine.Files

/-!
# Executables

What the files that can be run stand for, and where a name is searched for. The programs of the
system are files that hold a mark and their name.
-/

namespace HostFleet.Machine

/-- How the files of programs begin. -/
def programMark : String := "\x7fELF"

/-- The file of a program. -/
def programFile (name : String) : Bytes := ByteText.toBytes (programMark ++ name)

/-- What a file that can be run is by its content. -/
inductive Executable where
  | program (name : String)
  /-- A file whose first line names the program that carries it out. -/
  | script (interpreter : String) (option : Option String)
  | text
  deriving Repr

namespace Executable

/-- The first line of a script behind its mark: a path, and all that follows it. -/
def ofFirstLine (line : List Char) : Executable :=
  let isBlank (c : Char) : Bool := c = ' ' || c = '\t'
  let line := ((line.dropWhile isBlank).reverse.dropWhile isBlank).reverse
  let interpreter := line.takeWhile fun c => !isBlank c && c != '\x00'
  let option := (line.drop interpreter.length).dropWhile isBlank
  if interpreter.isEmpty then .text
  else .script (String.ofList interpreter)
    (if option.isEmpty then none else some (String.ofList option))

def ofContent (content : Bytes) : Executable :=
  let text := ByteText.ofBytes (content.take 256)
  if text.startsWith programMark then
    .program (String.ofList ((ByteText.ofBytes content).toList.drop programMark.length))
  else match text.toList with
    | '#' :: '!' :: rest => ofFirstLine (rest.takeWhile (· != '\n'))
    | _ => .text

/-- The executable at a path, as seen from a folder. -/
def atPath (files : Files) (folder path : String) : Except OsError Executable := do
  let (place, kind) ← files.lookup true folder path
  match kind with
  | .file content =>
    if files.isRunnable place then .ok (ofContent content) else .error .permissionDenied
  | _ => .error .permissionDenied

/-- The program that comes to run for a path, with all its arguments, the first of which is the
name it is called by. Scripts lead to the program that carries them out. -/
def resolve (files : Files) (folder : String) (depth : Nat) (path name : String)
    (args : List String) : Except OsError (String × List String) := do
  match ← atPath files folder path with
  | .program title => .ok (title, name :: args)
  | .text => .error .notExecutable
  | .script interpreter option =>
    match depth with
    | 0 => .error .tooManyLinks
    | depth + 1 =>
      resolve files folder depth interpreter interpreter (option.toList ++ path :: args)

def maxDepth : Nat := 5

/-- Where programs are searched for if nothing else is said. -/
def usualPath : String := "/usr/local/sbin:/usr/local/bin:/usr/sbin:/usr/bin:/sbin:/bin"

/-- The paths that a name can stand for. -/
def candidates (searchPath name : String) : List String :=
  if name.contains '/' then [name]
  else (searchPath.splitOn ":").map fun folder => Path.join folder name

/-- The same paths as the plain shell writes them: with a slash after each folder, even if it ends
in one. -/
def plainCandidates (searchPath name : String) : List String :=
  if name.contains '/' then [name]
  else (searchPath.splitOn ":").map fun folder =>
    if folder.isEmpty then name else folder ++ "/" ++ name

/-- The first of the paths that leads to a file, or the fault to report. -/
def find (files : Files) (folder : String) (fault : OsError) :
    List String → Except OsError String
  | [] => .error fault
  | path :: rest =>
    match files.lookup true folder path with
    | .error e => find files folder (if e = .notFound || e = .notDirectory then fault else e) rest
    | .ok (place, .file _) =>
      if files.isRunnable place then .ok path else find files folder .permissionDenied rest
    | .ok _ => find files folder .permissionDenied rest

/-- Finds a file to run by its path or its name. -/
def search (files : Files) (folder searchPath name : String) : Except OsError String :=
  if name.isEmpty then .error .notFound
  else find files folder .notFound (candidates searchPath name)

end Executable

end HostFleet.Machine

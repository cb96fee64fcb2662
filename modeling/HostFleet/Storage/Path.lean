/-!
# Paths

A path is text with parts between slashes. `join` hangs a relative path below a folder, and
`parent?` and `fileName?` look at the last part.
-/

namespace HostFleet.Path

def isAbsolute (path : String) : Bool := path.startsWith "/"

/-- The path `file` seen from the folder `dir`. -/
def join (dir file : String) : String :=
  if isAbsolute file || dir.isEmpty then file
  else if dir.endsWith "/" then dir ++ file
  else dir ++ "/" ++ file

/-- Leaves out slashes at the front of a reversed path, and parts that are a single dot. -/
def trim : List Char → List Char
  | '/' :: rest => trim rest
  | ['.'] => ['.']
  | '.' :: rest => if rest.head? = some '/' then trim rest else '.' :: rest
  | cs => cs

/-- Whether a path ends in a slash or in a part that is a single dot, so that it can only lead to a
folder. -/
def endsInFolder (path : String) : Bool :=
  let back := path.toList.reverse
  back.head? = some '/' || (trim back).length < back.length

/-- What stands in front of the last part, and the last part. Slashes at the end and parts that
are a single dot do not count. -/
def splitLast (cs : List Char) : List Char × List Char :=
  let back := trim cs.reverse
  ((back.dropWhile (· != '/')).reverse, (back.takeWhile (· != '/')).reverse)

/-- The folder that a path lies in, if it has a last part. -/
def parent? (path : String) : Option String :=
  match splitLast path.toList with
  | (_, []) => none
  | ([], _) => some ""
  | (front, _) =>
    match splitLast front with
    | (_, []) => some "/"
    | (outer, name) => some (String.ofList (outer ++ name))

/-- The parts of a path, without empty ones and single dots. -/
def parts (path : String) : List String :=
  ((path.toList.splitOn '/').map String.ofList).filter fun p => p != "" && p != "."

end HostFleet.Path

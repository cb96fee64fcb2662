import HostFleet.Machine.Entries
import HostFleet.Machine.Mode
import HostFleet.Utility.Options

/-!
# Folders

`mkdir` makes folders and `rmdir` takes empty ones away, with those around them if that is wanted.
-/

namespace HostFleet.Utility

open Machine

/-- The paths that a path begins with and that end in front of a slash, shortest first. -/
def outerPaths (path : String) : List String :=
  go [] path.toList
where
  go (front : List Char) : List Char → List String
    | [] => []
    | c :: rest =>
      let tail := go (c :: front) rest
      if c = '/' && front.any (· != '/') && front.head? != some '/' && rest.any (· != '/') then
        String.ofList front.reverse :: tail
      else tail

def mkdirOptions : Options where
  short := "m:pvZ"
  long := [("mode", .required, "m"), ("parents", .none, "p"), ("verbose", .none, "v"),
    ("context", .optional, "Z")]

/-- Makes one folder. `isOuter` tells that it is only needed for another one inside it. -/
def makeOne (c : Call) (p : Parsed) (isOuter : Bool) (mode : Option Nat) (path : String) :
    Program Bool := do
  let refuse (reason : String) : Program Bool := do
    c.warn ("cannot create directory " ++ inQuotes path ++ ": " ++ reason)
    pure false
  let files ← Program.files
  let folder ← Program.folder
  if p.has "p" && files.isFolder folder path then pure true
  else match ← Program.attempt fun pid k => k.makeFolder pid path 0o777 with
    | .error .fileExists =>
      refuse (if isOuter then OsError.notDirectory.reason else OsError.fileExists.reason)
    | .error e => refuse e.reason
    | .ok () => do
      if isOuter then
        discard (Program.attempt fun pid k => do
          let (place, _) ← k.lookup pid true path
          k.setMode pid path (k.files.mode place ||| 0o300))
      else match mode with
        | some mode => discard (Program.attempt fun pid k => k.setMode pid path mode)
        | none => pure ()
      if p.has "v" then c.put (c.name ++ ": created directory " ++ inQuotes path ++ "\n")
      pure true

def mkdir : Utility := fun c => do
  let p ← mkdirOptions.of c 1
  if p.operands.isEmpty then c.misuse "missing operand" 1
  else
    let mask ← Program.look fun pid k => ((k.process? pid).map (·.mask)).getD 0
    let mode ← match p.value? "m" with
      | none => pure none
      | some text =>
        match Mode.edit? text 0o777 true mask with
        | some mode => pure (some mode)
        | none => c.fail ("invalid mode " ++ inQuotes text) 1
    let mut fine := true
    for path in p.operands do
      let mut ready := true
      for outer in if p.has "p" then outerPaths path else [] do
        if ready then ready ← makeOne c p true none outer
      let made ← if ready then makeOne c p false mode path else pure false
      fine := fine && made
    pure (if fine then 0 else 1)

def rmdirOptions : Options where
  short := "pv"
  long := [("parents", .none, "p"), ("path", .none, "p"), ("verbose", .none, "v"),
    ("ignore-fail-on-non-empty", .none, "ignore")]

/-- Takes away a folder and, one after the other, those around it. -/
def removeAll (c : Call) (p : Parsed) (isFirst : Bool) : List String → Program Bool
  | [] => pure true
  | path :: rest => do
    if p.has "v" then c.put (c.name ++ ": removing directory, " ++ ShellWord.always path ++ "\n")
    match ← Program.attempt fun pid k => k.removeFolder pid path with
    | .ok () => removeAll c p false rest
    | .error e => do
      if e = .notEmpty && p.has "ignore" then pure true
      else
        c.warn ((if isFirst then "failed to remove " else "failed to remove directory ")
          ++ ShellWord.always path ++ ": " ++ e.reason)
        pure false

def rmdir : Utility := fun c => do
  let p ← rmdirOptions.of c 1
  if p.operands.isEmpty then c.misuse "missing operand" 1
  else
    let mut fine := true
    for path in p.operands do
      let removed ← removeAll c p true
        (path :: if p.has "p" then (outerPaths path).reverse else [])
      fine := fine && removed
    pure (if fine then 0 else 1)

end HostFleet.Utility

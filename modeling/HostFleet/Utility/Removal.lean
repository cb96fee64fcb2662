import HostFleet.Machine.Entries
import HostFleet.Utility.Options

/-!
# Removal

`rm` takes away files, and folders with all that is in them; `unlink` takes away one file.
-/

namespace HostFleet.Utility

open Machine

/-- Asks a question and reads whether the answer is yes. -/
def confirm (c : Call) (question : String) : Program Bool := do
  Program.tell 2 (c.name ++ ": " ++ question ++ "? ")
  match ← Program.readLine 0 with
  | .ok text => pure (text.startsWith "y" || text.startsWith "Y")
  | .error _ => pure false

/-- Asks a question if that is wanted. -/
def agrees (asks : Bool) (c : Call) (question : String) : Program Bool :=
  if asks then confirm c question else pure true

/-- What kind of thing stands at a place, in words. -/
def kindText (k : Kind) : String :=
  match k with
  | .file [] => "regular empty file"
  | .file _ => "regular file"
  | .folder => "directory"
  | .link _ => "symbolic link"
  | .device _ => "character special file"

/-- How `rm` works. -/
structure Removal where
  force : Bool
  asks : Bool
  recursive : Bool
  emptyFolders : Bool
  tells : Bool

namespace Removal

/-- What became of one thing. -/
inductive Outcome where
  | gone
  | kept
  | failed
  deriving DecidableEq

/-- Takes away what a path leads to. -/
def remove (r : Removal) (c : Call) (fuel : Nat) (path : String) : Program Outcome :=
  match fuel with
  | 0 => pure .failed
  | fuel + 1 => do
    let refuse (reason : String) : Program Outcome := do
      c.warn ("cannot remove " ++ ShellWord.always path ++ ": " ++ reason)
      pure .failed
    let done (what : String) (result : Except OsError Unit) : Program Outcome := do
      match result with
      | .error e => refuse e.reason
      | .ok () => do
        if r.tells then c.put ("removed " ++ what ++ ShellWord.always path ++ "\n")
        pure .gone
    match ← Program.lookup (path.endsWith "/") path with
    | .error e => do
      if r.force && (e = .notFound || e = .notDirectory) then pure .gone else refuse e.reason
    | .ok (place, .folder) => do
      let files ← Program.files
      let names := files.entries place
      if !r.recursive then
        if !r.emptyFolders then refuse OsError.isDirectory.reason
        else if !names.isEmpty then refuse OsError.notEmpty.reason
        else if ← agrees r.asks c ("remove directory " ++ ShellWord.always path) then
          done "directory " (← Program.attempt fun pid k => k.removeFolder pid path)
        else pure .kept
      else
        let last := Kernel.lastPart path
        if last = "." || last = ".." then do
          c.warn ("refusing to remove '.' or '..' directory: skipping " ++ ShellWord.always path)
          pure .failed
        else if place.isEmpty then do
          c.warn "it is dangerous to operate recursively on '/'"
          c.warn "use --no-preserve-root to override this failsafe"
          pure .failed
        else if !(← agrees (r.asks && !names.isEmpty) c
            ("descend into directory " ++ ShellWord.always path)) then
          pure .kept
        else
          let outcomes ← names.mapM fun name => remove r c fuel (Path.join path name)
          if outcomes.contains .failed then pure .failed
          else if !(← agrees r.asks c ("remove directory " ++ ShellWord.always path)) then
            pure .kept
          else done "directory " (← Program.attempt fun pid k => k.removeFolder pid path)
    | .ok (_, kind) =>
      if !(← agrees r.asks c ("remove " ++ kindText kind ++ " " ++ ShellWord.always path)) then
        pure .kept
      else done "" (← Program.attempt fun pid k => k.unlink pid path)

def options : Options where
  short := "dfirvIR"
  long := [("force", .none, "f"), ("interactive", .optional, "interactive"),
    ("one-file-system", .none, "one"), ("no-preserve-root", .none, "no-preserve"),
    ("preserve-root", .optional, "preserve"), ("recursive", .none, "r"), ("dir", .none, "d"),
    ("verbose", .none, "v")]

end Removal

def rm : Utility := fun c => do
  let p ← match Removal.options.parse {} false c.args with
    | .ok p => pure p
    | .error e => do
      let named ← c.args.filterM fun arg => do
        pure (arg.startsWith "-" && arg != "-" && !arg.startsWith "--" && (← Program.exists? arg))
      match named with
      | arg :: _ => c.fail (e ++ "\nTry 'rm " ++ ShellWord.quoted ("./" ++ arg)
          ++ "' to remove the file " ++ ShellWord.always arg ++ ".\n" ++ c.hint) 1
      | [] => c.misuse e 1
  let choices := [["never", "no", "none"], ["once"], ["always", "yes"]]
  let asked ← p.options.filterMapM fun (key, value) => match key with
    | "f" => pure (some 0)
    | "I" => pure (some 1)
    | "i" => pure (some 2)
    | "interactive" =>
      if value.isEmpty then pure (some 2)
      else match choices.findIdx? fun names => names.any fun name => name.startsWith value with
        | some n => pure (some n)
        | none => c.wrongChoice "--interactive" value choices 1
    | _ => pure none
  let force := p.last? ["f", "i", "I", "interactive"] = some "f"
  if p.operands.isEmpty then
    if force then pure 0 else c.misuse "missing operand" 1
  else
    let r : Removal :=
      { force := force, asks := asked.getLast? = some 2, recursive := p.has "r" || p.has "R"
        emptyFolders := p.has "d", tells := p.has "v" }
    let count := p.operands.length
    let goes ← if asked.getLast? = some 1 && (r.recursive || 3 < count) then
        confirm c ("remove " ++ toString count ++ (if count = 1 then " argument" else " arguments")
          ++ if r.recursive then " recursively" else "")
      else pure true
    if !goes then pure 0
    else
      let outcomes ← p.operands.mapM (r.remove c 1000)
      pure (if outcomes.contains .failed then 1 else 0)

def unlink : Utility := fun c => do
  let p ← ({ short := "" } : Options).of c 1
  match p.operands with
  | [] => c.misuse "missing operand" 1
  | _ :: extra :: _ => c.misuse ("extra operand " ++ inQuotes extra) 1
  | [path] =>
    match ← Program.attempt fun pid k => k.unlink pid path with
    | .ok () => pure 0
    | .error e => c.fail ("cannot unlink " ++ ShellWord.always path ++ ": " ++ e.reason) 1

end HostFleet.Utility

import HostFleet.Shell.Expansion
import HostFleet.Utility.Basic

/-!
# Redirections

Where the descriptors of a command lead: to files, to other descriptors, or to texts.
-/

namespace HostFleet.Shell

open Machine

/-- What went wrong with a redirection, as the dialects say it. -/
def redirectFault (kind : RedirectKind) (name : String) (e : OsError) : Act Unit := do
  let s ← Act.state
  if s.isLarge then Act.complain (name ++ ": " ++ if kind matches .write && e = .fileExists
    then "cannot overwrite existing file" else e.reason)
  else
    let missing := e = .notFound || e = .notDirectory
    match kind with
    | .read =>
      Act.complain ("cannot open " ++ name ++ ": " ++ if missing then "No such file" else e.reason)
    | _ =>
      Act.complain ("cannot create " ++ name ++ ": " ++ if missing then "Directory nonexistent"
        else e.reason)

/-- How a file is opened for a redirection. -/
def openMode : RedirectKind → Kernel.OpenMode
  | .read => { read := true }
  | .readWrite => { read := true, write := true, create := true }
  | .append => { write := true, create := true, append := true }
  | .writeBoth true => { write := true, create := true, append := true }
  | _ => { write := true, create := true, truncate := true }

/-- Opens a path for a descriptor. Existing files are spared if the shell is told to. -/
def openFor (fd : Nat) (kind : RedirectKind) (name : String) : Act Bool := do
  let spares := (kind matches .write) && (← Act.state).has "noclobber"
  let result ← Program.access fun pid k =>
    let known := (k.files.lookup true (k.folder pid) name).toOption
    let isFile := match known with
      | some (_, .file _) => true
      | _ => false
    if spares && isFile then (some OsError.fileExists, k)
    else match k.openPath pid name (openMode kind) with
      | .error e => (some e, k)
      | .ok (file, k) => (none, k.connect pid fd file)
  match result with
  | none => pure true
  | some e => do
    redirectFault kind name e
    pure false

/-- Lets a descriptor read a text. -/
def feed (fd : Nat) (text : String) : Act Unit :=
  Program.change fun pid k =>
    let ((r, _), k) := k.newPipe
    let k := { k with pipes := k.pipes.modify (k.pipes.size - 1) fun _ => text }
    k.connect pid fd r

/-- Lets a descriptor lead where another leads. -/
def duplicate (fd : Nat) (text : String) : Act Bool := do
  let large := (← Act.state).isLarge
  let (text, moves) := if large && text != "-" && text.endsWith "-" then
      (String.ofList text.toList.dropLast, true) else (text, false)
  if text = "-" then do
    Program.close fd
    pure true
  else match Utility.natural? text with
    | none =>
      if large then do
        Act.complain s!"{text}: ambiguous redirect"
        pure false
      else noDescriptor
    | some n =>
      if !large && 1 < text.length then noDescriptor
      else do
        let done ← Program.access fun pid k =>
          match (k.descriptors pid).lookup n with
          | some file =>
            let k := k.connect pid fd file
            (true, if moves then k.disconnect pid n else k)
          | none => (false, k)
        if !done then Act.complain s!"{text}: Bad file descriptor"
        pure done
where
  noDescriptor : Act Bool := do
    Act.update fun s => { s with line := s.reached }
    Act.complain "Syntax error: Bad fd number"
    Act.leave (.exit 2)

/-- Redirects one descriptor, for a word that was expanded. -/
def redirectOne (fd : Nat) (kind : RedirectKind) (text : String) : Act Bool := do
  match kind with
  | .here => do
    feed fd text
    pure true
  | .hereWord => do
    feed fd (text ++ "\n")
    pure true
  | .duplicate => do
    let s ← Act.state
    if s.isLarge && fd = 1 && text != "-" && (Utility.natural? text).isNone
        && !text.endsWith "-" then
      both .write text
    else duplicate fd text
  | .writeBoth append => both (.writeBoth append) text
  | kind => openFor fd kind text
where
  both (kind : RedirectKind) (text : String) : Act Bool := do
    if ← openFor 1 kind text then duplicate 2 "1" else pure false

/-- Redirects descriptors one after the other, up to one that cannot be redirected. -/
def redirect (h : Hooks) (fuel : Nat) (redirects : List Redirect) : Act Bool := do
  let texts ← redirects.mapM fun r => match r with
    | .mk _ kind word => do
      let text ← expandText h fuel .text word
      if (kind matches .here | .duplicate) || !(← Act.state).isLarge then pure text
      else if kind matches .hereWord then pure text
      else match ← expandFields h fuel [word] with
        | [one] => pure one
        | _ => pure text
  go (redirects.zip texts)
where
  go : List (Redirect × String) → Act Bool
    | [] => pure true
    | (.mk fd kind _, text) :: rest => do
      if ← redirectOne fd kind text then go rest else pure false

end HostFleet.Shell

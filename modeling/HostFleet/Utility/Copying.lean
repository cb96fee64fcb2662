import HostFleet.Utility.PathNames
import HostFleet.Utility.Removal

/-!
# Copies, moves and links

`cp`, `mv` and `ln` bring files to other places: as copies, altogether, or by their names.
-/

namespace HostFleet.Utility

open Machine

/-- What is done when something stands in the way. -/
inductive Overwriting where
  | always
  | ask
  | never
  | whenOlder
  deriving DecidableEq

/-- What `cp`, `mv` and `ln` have in common. -/
structure Bringing where
  name : String
  sources : List String
  /-- Where things are brought to, and whether that is a folder to put them in. -/
  target : String
  isInto : Bool
  overwriting : Overwriting := .always
  tells : Bool := false

namespace Bringing

/-- Where one of the sources is brought to. -/
def placeOf (b : Bringing) (source : String) : String :=
  if b.isInto then Path.join b.target (baseName source) else b.target

/-- Finds out from the arguments what is brought where. -/
def of (c : Call) (p : Parsed) (follow : Bool) : Program Bringing := do
  let files ← Program.files
  let folder ← Program.folder
  let isFolder (path : String) : Bool :=
    if follow then files.isFolder folder path
    else match files.lookup (path.endsWith "/") folder path with
      | .ok (_, .folder) => true
      | _ => false
  if p.has "T" && p.has "t" then
    c.misuse "cannot combine --target-directory (-t) and --no-target-directory (-T)" 1
  match p.operands, p.value? "t" with
  | [], _ => c.misuse "missing file operand" 1
  | sources, some target => do
    if !isFolder target then
      let reason := match files.lookup true folder target with
        | .ok _ => OsError.notDirectory.reason
        | .error e => e.reason
      c.fail ("target directory " ++ ShellWord.always target ++ ": " ++ reason) 1
    pure { name := c.name, sources := sources, target := target, isInto := true }
  | [source], none =>
    c.misuse ("missing destination file operand after " ++ ShellWord.always source) 1
  | operands, none =>
    let target := operands.getLastD ""
    let sources := operands.dropLast
    if p.has "T" then
      if 1 < sources.length then
        c.misuse ("extra operand " ++ ShellWord.always ((operands[2]?).getD "")) 1
      else pure { name := c.name, sources := sources, target := target, isInto := false }
    else if isFolder target then
      pure { name := c.name, sources := sources, target := target, isInto := true }
    else if 1 < sources.length then
      let reason := match files.lookup true folder target with
        | .ok _ => OsError.notDirectory.reason
        | .error e => e.reason
      c.fail ("target " ++ ShellWord.always target ++ ": " ++ reason) 1
    else pure { name := c.name, sources := sources, target := target, isInto := false }

/-- Whether something may be put at a path. `isThere` tells that something stands there already. -/
def mayReplace (b : Bringing) (c : Call) (isThere : Bool) (source target : String) :
    Program Bool := do
  match if isThere then b.overwriting else .always with
  | .always => pure true
  | .never => pure false
  | .ask => confirm c ("overwrite " ++ ShellWord.always target)
  | .whenOlder => do
    let files ← Program.files
    let time (path : String) : Program Int := do
      match ← Program.lookup true path with
      | .ok (p, _) => pure (files.time p)
      | .error _ => pure 0
    pure (decide ((← time target) < (← time source)))

end Bringing

def bothQuoted (source arrow target : String) : String :=
  ShellWord.always source ++ " " ++ arrow ++ " " ++ ShellWord.always target

/-! ## Copies -/

/-- How `cp` works. -/
structure Copying where
  recursive : Bool
  /-- Whether links are copied as what they lead to. -/
  follows : Bool
  preserves : Bool
  links : Bool
  symbolic : Bool
  forces : Bool
  removes : Bool

namespace Copying

/-- Gives a copy the permissions and the time of what it was made of, if that is wanted. -/
def keep (s : Copying) (source : Place) (target : String) : Program Unit := do
  if s.preserves then
    let files ← Program.files
    discard (Program.attempt fun pid k => k.setMode pid target (files.mode source))
    discard (Program.attempt fun pid k => k.setTime pid true target (files.time source))

/-- A message about what went wrong. -/
def refuse (c : Call) (text : String) : Program Bool := do
  c.warn text
  pure false

/-- Puts the content of a file at a path. Gives the reason why that cannot be done. -/
def writeCopy (s : Copying) (c : Call) (source target : String) (place : Place) (isNew : Bool)
    (tell : Program Unit) : Program Bool := do
  match ← Program.readFile source with
  | .error e => refuse c ("cannot open " ++ ShellWord.always source ++ " for reading: " ++ e.reason)
  | .ok text => do
    let mode := (← Program.files).mode place
    match ← Program.openPath target { write := true, create := true, truncate := true } with
    | .error e => do
      let e := if e = .isDirectory && target.endsWith "/" then .notDirectory else e
      refuse c ("cannot create regular file " ++ ShellWord.always target ++ ": " ++ e.reason)
    | .ok fd => do
      tell
      Program.tell fd text
      Program.close fd
      if isNew && mode != 0o644 then
        let mask ← Program.look fun pid k => ((k.process? pid).map (·.mask)).getD 0
        discard (Program.attempt fun pid k => k.setMode pid target (mode &&& (0o777 ^^^ mask)))
      s.keep place target
      pure true

/-- Puts something other than a folder at a path. -/
def copyOne (s : Copying) (b : Bringing) (c : Call) (isTop : Bool) (place : Place) (kind : Kind)
    (source target : String) : Program Bool := do
  let shown := ShellWord.always target
  let tell : Program Unit :=
    if b.tells then c.put (bothQuoted source "->" target ++ "\n") else pure ()
  let finish (what : String) (result : Except OsError Unit) : Program Bool := do
    match result with
    | .ok () => do
      tell
      pure true
    | .error e => refuse c ("cannot create " ++ what ++ ": " ++ e.reason)
  let old ← Program.lookup true target
  let isThere := (← Program.lookup false target).toOption.isSome
  match old with
  | .ok (_, .folder) => refuse c ("cannot overwrite directory " ++ shown ++ " with non-directory"
      ++ if isTop then "" else " " ++ ShellWord.always source)
  | _ =>
    if old.toOption.any (·.1 == place) then
      refuse c (bothQuoted source "and" target ++ " are the same file")
    else if !(← b.mayReplace c isThere source target) then
      -- it is no failure that nothing may be replaced, unless somebody has said so
      pure (b.overwriting != .ask)
    else
      let isLinked := s.links || s.symbolic || (kind matches .link _)
      if isThere && (s.removes || (isLinked && s.forces)) then
        discard (Program.attempt fun pid k => k.unlink pid target)
      if s.symbolic then
        finish ("symbolic link " ++ shown ++ " to " ++ ShellWord.always source)
          (← Program.attempt fun pid k => k.makeLink pid source target)
      else if s.links then
        finish ("hard link " ++ shown ++ " to " ++ ShellWord.always source)
          (← Program.attempt fun pid k => k.copyLink pid source target)
      else match kind with
      | .link to' =>
        finish ("symbolic link " ++ shown)
          (← Program.attempt fun pid k => k.makeLink pid (ByteText.ofText to') target)
      | _ =>
        if isThere && old.toOption.isNone then
          refuse c ("not writing through dangling symlink " ++ shown)
        else s.writeCopy c source target place (!isThere) tell

/-- Copies what a path leads to. `root` is the folder that the whole copy is put in, which is left
out. Whether all went well. -/
def copy (s : Copying) (b : Bringing) (c : Call) (fuel : Nat) (root : Option Place)
    (source target : String) : Program Bool :=
  match fuel with
  | 0 => pure false
  | fuel + 1 => do
    let shown := ShellWord.always target
    let inner (from' to' : Place) : Program Bool := do
      let names := ((← Program.files).entries from').filter fun name =>
        name :: from' != to' && root != some (name :: from')
      names.foldlM (fun fine name => do
        let done ← copy s b c fuel (root.or (some to')) (Path.join source name)
          (Path.join target name)
        pure (fine && done)) true
    match ← Program.lookup (s.follows || source.endsWith "/") source with
    | .error e => refuse c ("cannot stat " ++ ShellWord.always source ++ ": " ++ e.reason)
    | .ok (place, .folder) => do
      let isTop := root.isNone
      let intoItself := "cannot copy a directory, " ++ ShellWord.always source
        ++ ", into itself, " ++ shown
      if !s.recursive then
        refuse c ("-r not specified; omitting directory " ++ ShellWord.always source)
      else match ← Program.lookup true target with
      | .ok (to', .folder) =>
        if isTop && to' = place then
          refuse c (bothQuoted source "and" target ++ " are the same file")
        else if isTop && place.isSuffixOf to' then refuse c intoItself
        else inner place to'
      | .ok _ => refuse c ("cannot overwrite non-directory " ++ shown ++ " with directory "
          ++ ShellWord.always source)
      | .error _ => do
        match ← Program.look fun pid k => k.locate pid true target with
        | .error e => refuse c ("cannot create directory " ++ shown ++ ": " ++ e.reason)
        | .ok to' =>
          if isTop && place.isSuffixOf to' then refuse c intoItself
          else
            let mode := (← Program.files).mode place
            match ← Program.attempt fun pid k => k.makeFolder pid target mode with
            | .error e => refuse c ("cannot create directory " ++ shown ++ ": " ++ e.reason)
            | .ok () => do
              if b.tells then c.put (bothQuoted source "->" target ++ "\n")
              let fine ← inner place to'
              s.keep place target
              pure fine
    | .ok (place, kind) => s.copyOne b c root.isNone place kind source target

def options : Options where
  short := "abdfHilLnprst:uvxPRS:TZ"
  long := [("archive", .none, "a"), ("attributes-only", .none, "attributes"),
    ("backup", .optional, "b"), ("copy-contents", .none, "contents"), ("debug", .none, "v"),
    ("dereference", .none, "L"), ("force", .none, "f"), ("interactive", .none, "i"),
    ("link", .none, "l"), ("no-clobber", .none, "n"), ("no-dereference", .none, "P"),
    ("no-preserve", .required, "no-preserve"), ("no-target-directory", .none, "T"),
    ("one-file-system", .none, "x"), ("parents", .none, "parents"),
    ("preserve", .optional, "p"), ("recursive", .none, "R"),
    ("remove-destination", .none, "remove"), ("sparse", .required, "sparse"),
    ("reflink", .optional, "reflink"), ("suffix", .required, "S"),
    ("strip-trailing-slashes", .none, "strip"), ("symbolic-link", .none, "s"),
    ("target-directory", .required, "t"), ("update", .optional, "u"), ("verbose", .none, "v")]

end Copying

/-- What options say about things in the way. -/
def overwritingOf (p : Parsed) : Overwriting :=
  match p.last? ["f", "i", "n"] with
  | some "i" => .ask
  | some "n" => .never
  | _ =>
    if !p.has "u" then .always
    else if (p.value? "u").any (["none", "none-fail"].contains ·) then .never
    else if p.value? "u" = some "all" then .always else .whenOlder

def cp : Utility := fun c => do
  let p ← Copying.options.of c 1
  let b ← Bringing.of c p true
  let b := { b with
    overwriting := match p.last? ["i", "n"] with
      | some "i" => .ask
      | some _ => .never
      | none => overwritingOf { p with options := p.options.filter (·.1 != "f") }
    tells := p.has "v" }
  let recursive := p.has "r" || p.has "R" || p.has "a"
  let s : Copying :=
    { recursive := recursive
      follows := match p.last? ["L", "P", "d", "a", "H"] with
        | some "L" => true
        | some "H" => true
        | some _ => false
        | none => !recursive && !p.has "l"
      preserves := p.has "p" || p.has "a"
      links := p.has "l"
      symbolic := p.has "s"
      forces := p.has "f"
      removes := p.has "remove" }
  let parents := p.has "parents"
  if parents && !b.isInto then
    c.misuse "with --parents, the destination must be a directory" 1
  let mut fine := true
  for source in b.sources do
    let target := if parents then Path.join b.target (withoutSlashes source) else b.placeOf source
    if parents then
      let rec outer (done : String) (parts : List String) : Program Unit := match parts with
        | [] => pure ()
        | [_] => pure ()
        | part :: rest => do
          let next := Path.join done part
          discard (Program.attempt fun pid k => k.makeFolder pid next 0o777)
          outer next rest
      outer b.target (Path.parts source)
    let done ← s.copy b c 1000 none source target
    fine := fine && done
  pure (if fine then 0 else 1)

/-! ## Moves -/

/-- Moves one thing. Whether that went well. -/
def moveOne (b : Bringing) (c : Call) (source target : String) : Program Bool := do
  let refuse (text : String) : Program Bool := do
    c.warn text
    pure false
  let (shownSource, shown) := (ShellWord.always source, ShellWord.always target)
  match ← Program.lookup (source.endsWith "/") source with
  | .error e => refuse ("cannot stat " ++ shownSource ++ ": " ++ e.reason)
  | .ok (place, kind) => do
    let old ← Program.lookup false target
    let isFolder := kind == .folder
    match old with
    | .ok (to', oldKind) => do
      if to' = place then
        if isFolder && b.isInto then
          refuse ("cannot move " ++ shownSource ++ " to a subdirectory of itself, " ++ shown)
        else refuse (bothQuoted source "and" target ++ " are the same file")
      else if isFolder && oldKind != .folder then
        refuse ("cannot overwrite non-directory " ++ shown ++ " with directory " ++ shownSource)
      else if !isFolder && oldKind == .folder then
        refuse ("cannot overwrite directory " ++ shown ++ " with non-directory")
      else if !(← b.mayReplace c true source target) then pure (b.overwriting != .ask)
      else go place
    | .error _ => go place
where
  go (_ : Place) : Program Bool := do
    match ← Program.attempt fun pid k => k.rename pid source target with
    | .ok () => do
      if b.tells then c.put ("renamed " ++ bothQuoted source "->" target ++ "\n")
      pure true
    | .error e => do
      let (shownSource, shown) := (ShellWord.always source, ShellWord.always target)
      c.warn (if e = .invalidArgument then
          "cannot move " ++ shownSource ++ " to a subdirectory of itself, " ++ shown
        else if e = .notEmpty then "cannot overwrite " ++ shown ++ ": " ++ e.reason
        else "cannot move " ++ shownSource ++ " to " ++ shown ++ ": " ++ e.reason)
      pure false

def mv : Utility := fun c => do
  let options : Options :=
    { short := "bfint:uvS:TZ"
      long := [("backup", .optional, "b"), ("debug", .none, "v"), ("force", .none, "f"),
        ("interactive", .none, "i"), ("no-clobber", .none, "n"), ("no-copy", .none, "no-copy"),
        ("no-target-directory", .none, "T"), ("strip-trailing-slashes", .none, "strip"),
        ("suffix", .required, "S"), ("target-directory", .required, "t"),
        ("update", .optional, "u"), ("verbose", .none, "v")] }
  let p ← options.of c 1
  let b ← Bringing.of c p true
  let b := { b with overwriting := overwritingOf p, tells := p.has "v" }
  let results ← b.sources.mapM fun source => moveOne b c source (b.placeOf source)
  pure (if results.all id then 0 else 1)

/-! ## Links -/

/-- How `ln` works. -/
structure Linking where
  symbolic : Bool
  forces : Bool
  asks : Bool
  relative : Bool
  tells : Bool

/-- Makes one link. Whether that went well. -/
def Linking.make (l : Linking) (c : Call) (source path : String) : Program Bool := do
  let refuse (text : String) : Program Bool := do
    c.warn text
    pure false
  let shown := ShellWord.always path
  let kind := if l.symbolic then "symbolic" else "hard"
  let files ← Program.files
  let folder ← Program.folder
  let text := if !l.relative then source
    else
      match resolve files folder (outerName path) .nothing,
        resolve files folder source .nothing with
      | .ok a, .ok b => relativePath a b
      | _, _ => source
  let found ← Program.lookup false source
  let fault := if l.symbolic then none
    else match found with
      | .error e => some ("failed to access " ++ ShellWord.always source ++ ": " ++ e.reason)
      | .ok (_, .folder) => some (nameText source ++ ": hard link not allowed for directory")
      | .ok _ => none
  match fault with
  | some message => refuse message
  | none => do
    let old ← Program.lookup false path
    let isThere := old.toOption.isSome
    if !(← agrees (isThere && l.asks) c ("replace " ++ shown)) then pure false
    else if isThere && (l.forces || l.asks)
        && (match old, found with
          | .ok (p, _), .ok (q, _) => p == q
          | _, _ => false) then
      refuse (bothQuoted source "and" path ++ " are the same file")
    else
      if isThere && (l.forces || l.asks) then
        match old with
        | .ok (_, .folder) => pure ()
        | _ => discard (Program.attempt fun pid k => k.unlink pid path)
      let result ← if l.symbolic then Program.attempt fun pid k => k.makeLink pid text path
        else Program.attempt fun pid k => k.copyLink pid source path
      match result with
      | .ok () => do
        if l.tells then
          c.put (bothQuoted path (if l.symbolic then "->" else "=>") text ++ "\n")
        pure true
      | .error e =>
        match old with
        | .ok (_, .folder) =>
          refuse (if l.forces then shown ++ ": cannot overwrite directory"
            else "failed to create " ++ kind ++ " link " ++ shown ++ ": " ++ e.reason)
        | _ =>
          let more := if text.isEmpty then " -> ''"
            else if !l.symbolic && e != .fileExists then " => " ++ ShellWord.always source else ""
          refuse ("failed to create " ++ kind ++ " link " ++ shown ++ more ++ ": " ++ e.reason)

def ln : Utility := fun c => do
  let options : Options :=
    { short := "bdfinrst:vFLPS:T"
      long := [("backup", .optional, "b"), ("directory", .none, "F"),
        ("no-dereference", .none, "n"), ("no-target-directory", .none, "T"),
        ("force", .none, "f"), ("interactive", .none, "i"),
        ("suffix", .required, "S"), ("target-directory", .required, "t"),
        ("logical", .none, "L"), ("physical", .none, "P"), ("relative", .none, "r"),
        ("symbolic", .none, "s"), ("verbose", .none, "v")] }
  let p ← options.of c 1
  let b ← match p.operands, p.has "T" || p.has "t" with
    | [source], false =>
      pure { name := c.name, sources := [source], target := ".", isInto := true : Bringing }
    | _, _ => Bringing.of c p (!p.has "n")
  let l : Linking :=
    { symbolic := p.has "s", forces := p.last? ["f", "i"] = some "f"
      asks := p.last? ["f", "i"] = some "i", relative := p.has "r", tells := p.has "v" }
  let results ← b.sources.mapM fun source => l.make c source (b.placeOf source)
  pure (if results.all id then 0 else 1)

end HostFleet.Utility

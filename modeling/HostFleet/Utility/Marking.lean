import HostFleet.Machine.Mode
import HostFleet.Utility.Calendar
import HostFleet.Utility.Excerpt

/-!
# Times, permissions and sizes of files

`touch` changes when files were written, `chmod` who may use them, and `truncate` how long they are.
-/

namespace HostFleet.Utility

open Machine

def touchOptions : Options where
  short := "acd:fhmr:t:"
  long := [("time", .required, "time"), ("no-create", .none, "c"), ("date", .required, "d"),
    ("reference", .required, "r"), ("no-dereference", .none, "h")]

/-- The moment that digits spell: month, day, hour and minute, which a year can stand before and
seconds behind. -/
def stampOf? (now : Moment) (text : String) : Option Moment := do
  let (front, back) := cutAt (· = '.') text
  let ds := front.toList
  let second ← if back.isEmpty then some 0
    else if back.length = 3 then natural? (dropFront 1 back) else none
  if !(ds.all Char.isDigit) || !([8, 10, 12].contains ds.length) || 60 < second then none
  let pair (i : Nat) : Nat :=
    ((ds.drop i).take 2).foldl (fun n c => n * 10 + (c.toNat - 48)) 0
  let at' := ds.length - 8
  let year : Int := if at' = 0 then now.date.1
    else if at' = 2 then (if pair 0 < 69 then 2000 + pair 0 else 1900 + pair 0)
    else (pair 0 * 100 + pair 2 : Nat)
  let (month, day) := (pair at', pair (at' + 2))
  let (hour, minute) := (pair (at' + 4), pair (at' + 6))
  if month < 1 || 12 < month || day < 1 || Instant.daysInMonth year month < day || 23 < hour
      || 59 < minute then none
  else
    let seconds := Instant.dayOfDate year month day * 86400
      + (hour * 3600 + minute * 60 + second : Nat) - now.zone.offset
    some { now with seconds := seconds, nano := 0 }

def touch : Utility := fun c => do
  let p ← touchOptions.of c 1
  match p.value? "time" with
  | some word =>
    let choices := [["atime", "access", "use"], ["mtime", "modify"]]
    if !choices.any fun names => names.any fun n => n.startsWith word then
      c.wrongChoice "--time" word choices 1
  | none => pure ()
  let now ← c.moment
  let time ← match p.value? "r", p.value? "t", p.value? "d" with
    | some path, none, none => do
      match ← Program.lookup true path with
      | .ok (place, _) => do pure ((← Program.files).time place)
      | .error e => c.fail ("failed to get attributes of " ++ ShellWord.always path ++ ": "
          ++ e.reason) 1
    | none, some text, none =>
      match stampOf? now text with
      | some m => pure (timeOf m)
      | none => c.fail ("invalid date format " ++ inQuotes text) 1
    | none, none, some text =>
      match now.ofPhrase? text with
      | some m => pure (timeOf m)
      | none => c.fail ("invalid date format " ++ inQuotes text) 1
    | none, none, none => pure (timeOf now)
    | some path, none, some text => do
      match ← Program.lookup true path with
      | .ok (place, _) => do
        let old := momentOf now.zone ((← Program.files).time place)
        match old.ofPhrase? text with
        | some m => pure (timeOf m)
        | none => c.fail ("invalid date format " ++ inQuotes text) 1
      | .error e => c.fail ("failed to get attributes of " ++ ShellWord.always path ++ ": "
          ++ e.reason) 1
    | _, _, _ => c.misuse "cannot specify times from more than one source" 1
  if p.operands.isEmpty then c.misuse "missing file operand" 1
  -- times of reading are not kept
  let keeps := (p.has "a" || (p.value? "time").any fun w => w.startsWith "a" || w.startsWith "u")
    && !p.has "m"
  let mut fine := true
  for path in p.operands do
    if path = "-" then continue
    let found ← Program.lookup (!p.has "h") path
    let result ← match found with
      | .ok _ =>
        if keeps then pure (.ok ())
        else Program.attempt fun pid k => k.setTime pid (!p.has "h") path time
      | .error e => do
        if e = .notFound && (p.has "c" || p.has "h") then pure (.ok ())
        else if path.endsWith "/" && e = .notFound then pure (.error e)
        else match ← Program.openPath path { write := true, create := true } with
          | .error e => pure (.error e)
          | .ok fd => do
            Program.close fd
            Program.attempt fun pid k => k.setTime pid true path time
    match result with
    | .ok () => pure ()
    | .error e => do
      let what := if path.endsWith "/" && e = .notFound then "setting times of "
        else "cannot touch "
      c.warn (what ++ ShellWord.always path ++ ": " ++ e.reason)
      fine := false
  pure (if fine then 0 else 1)

/-! ## Permissions -/

/-- Nine letters for permissions. -/
def modeLetters (mode : Nat) : String :=
  let three (shift special : Nat) (letter : Char) : List Char :=
    let bit (n : Nat) : Bool := (mode / Nat.pow 2 (shift + n)) % 2 = 1
    let isSpecial := mode &&& special != 0
    [if bit 2 then 'r' else '-', if bit 1 then 'w' else '-',
      match isSpecial, bit 0 with
      | true, true => letter
      | true, false => letter.toUpper
      | false, true => 'x'
      | false, false => '-']
  String.ofList (three 6 0o4000 's' ++ three 3 0o2000 's' ++ three 0 0o1000 't')

/-- Permissions as four octal digits. -/
def modeDigits (mode : Nat) : String :=
  let digits := String.ofList (Nat.toDigits 8 mode)
  "".pushn '0' (4 - digits.length) ++ digits

def chmodOptions : Options where
  short := "Rcfv"
  long := [("changes", .none, "c"), ("recursive", .none, "R"),
    ("no-preserve-root", .none, "no-preserve"), ("preserve-root", .none, "preserve"),
    ("quiet", .none, "f"), ("silent", .none, "f"), ("verbose", .none, "v"),
    ("reference", .required, "reference")]

/-- A path and, if it leads to a folder, all paths below it. -/
def withInner (files : Files) (folder : String) (fuel : Nat) (path : String) : List String :=
  match fuel with
  | 0 => [path]
  | fuel + 1 =>
    match files.lookup false folder path with
    | .ok (place, .folder) =>
      path :: (files.entries place).flatMap fun name =>
        withInner files folder fuel (Path.join path name)
    | _ => [path]

def chmod : Utility := fun c => do
  -- an argument such as `-w` takes permissions away
  let isChange (arg : String) : Bool := match arg.toList with
    | '-' :: cs => !cs.isEmpty
        && cs.all fun d => "rwxXstugoa,+=-01234567".toList.contains d
    | _ => false
  let (changes, others) := c.args.partition isChange
  let p ← chmodOptions.of { c with args := others } 1
  let (text, names) := match changes, p.operands with
    | [], [] => (none, [])
    | [], text :: names => if p.has "reference" then (none, text :: names) else (some text, names)
    | changes, names => (some (",".intercalate changes), names)
  if names.isEmpty then
    match text with
    | some t => c.misuse ("missing operand after " ++ inQuotes t) 1
    | none => c.misuse "missing operand" 1
  let mask ← Program.look fun pid k => ((k.process? pid).map (·.mask)).getD 0
  let reference ← match p.value? "reference" with
    | none => pure none
    | some path => do
      match ← Program.lookup true path with
      | .ok (place, _) => do pure (some ((← Program.files).mode place))
      | .error e => c.fail ("failed to get attributes of " ++ ShellWord.always path ++ ": "
          ++ e.reason) 1
  let edit (old : Nat) (isFolder : Bool) : Option Nat := match reference, text with
    | some mode, _ => some mode
    | none, some text => Mode.edit? text old isFolder mask
    | none, none => none
  if (edit 0 false).isNone then c.misuse ("invalid mode: " ++ inQuotes (text.getD "")) 1
  let files ← Program.files
  let folder ← Program.folder
  let mut fine := true
  for path in names.flatMap fun n => if p.has "R" then withInner files folder 1000 n else [n] do
    match ← Program.lookup true path with
    | .error e => do
      fine := false
      let isDangling := match files.lookup false folder path with
        | .ok (_, .link _) => true
        | _ => false
      if !p.has "f" then
        c.warn (if isDangling then "cannot operate on dangling symlink " ++ ShellWord.always path
          else "cannot access " ++ ShellWord.always path ++ ": " ++ e.reason)
    | .ok (place, kind) => do
      let old := (← Program.files).mode place
      let isFolder := kind == .folder
      let new := (edit old isFolder).getD old
      discard (Program.attempt fun pid k => k.setMode pid path new)
      let title := "mode of " ++ ShellWord.always path
      let shown (mode : Nat) : String := modeDigits mode ++ " (" ++ modeLetters mode ++ ")"
      if new != old && (p.has "v" || p.has "c") then
        c.put (title ++ " changed from " ++ shown old ++ " to " ++ shown new ++ "\n")
      else if new = old && p.has "v" then c.put (title ++ " retained as " ++ shown new ++ "\n")
      match changes, text with
      | _ :: _, some text =>
        let whole := (Mode.edit? text old isFolder 0).getD new
        if whole != new then do
          c.warn (nameText path ++ ": new permissions are " ++ modeLetters new ++ ", not "
            ++ modeLetters whole)
          fine := false
      | _, _ => pure ()
  pure (if fine then 0 else 1)

/-- Owners are not kept: whoever owns a file, the user may do everything with it. -/
def chown : Utility := fun c => do
  let p ← ({ short := "Rcfhv", long := [("recursive", .none, "R"), ("changes", .none, "c"),
    ("silent", .none, "f"), ("quiet", .none, "f"), ("verbose", .none, "v"),
    ("reference", .required, "reference"), ("no-dereference", .none, "h")] } : Options).of c 1
  let names := if p.has "reference" then p.operands else p.operands.drop 1
  match p.operands, names with
  | [], _ => c.misuse "missing operand" 1
  | first :: _, [] => c.misuse ("missing operand after " ++ inQuotes first) 1
  | _, _ => pure ()
  let mut fine := true
  for path in names do
    match ← Program.lookup true path with
    | .ok _ => pure ()
    | .error e => do
      fine := false
      if !p.has "f" then c.warn ("cannot access " ++ ShellWord.always path ++ ": " ++ e.reason)
  pure (if fine then 0 else 1)

/-! ## Sizes -/

def truncate : Utility := fun c => do
  let p ← ({ short := "cor:s:", long := [("no-create", .none, "c"), ("io-blocks", .none, "o"),
    ("reference", .required, "r"), ("size", .required, "s")] } : Options).of c 1
  let reference ← match p.value? "r" with
    | none => pure none
    | some path => do
      match ← Program.readFile path with
      | .ok text => pure (some text.length)
      | .error e => c.fail ("cannot stat " ++ ShellWord.always path ++ ": " ++ e.reason) 1
  if !p.has "s" && !p.has "r" then
    c.misuse "you must specify either '--size' or '--reference'" 1
  let text := ((p.value? "s").getD "+0").toList.dropWhile isBlank
  let (sign, digits) := match text with
    | s :: rest =>
      if ['+', '-', '<', '>', '/', '%'].contains s then (some s, rest) else (none, text)
    | [] => (none, [])
  let amount ← match size? (String.ofList digits) with
    | some n => pure n
    | none => c.fail ("Invalid number: " ++ inQuotes ((p.value? "s").getD "")) 1
  if p.operands.isEmpty then c.misuse "missing file operand" 1
  let mut fine := true
  for path in p.operands do
    let isThere := (← Program.lookup true path).toOption.isSome
    if !isThere && p.has "c" then continue
    match ← Program.openPath path { write := true, create := true } with
    | .error e => do
      c.warn ("cannot open " ++ ShellWord.always path ++ " for writing: " ++ e.reason)
      fine := false
    | .ok fd => do
      Program.close fd
      let old := match ← Program.readFile path with
        | .ok text => text
        | .error _ => ""
      let base := reference.getD old.length
      let size := match sign with
        | some '+' => base + amount
        | some '-' => base - amount
        | some '<' => min base amount
        | some '>' => max base amount
        | some '/' => if amount = 0 then base else base / amount * amount
        | some '%' => if amount = 0 then base else (base + amount - 1) / amount * amount
        | _ => amount
      let cs := old.toList
      let new := String.ofList (cs.take size ++ List.replicate (size - cs.length) '\x00')
      match ← Program.openPath path { write := true, truncate := true } with
      | .ok fd => do
        Program.tell fd new
        Program.close fd
      | .error _ => pure ()
  pure (if fine then 0 else 1)
where
  isBlank (c : Char) : Bool := c = ' ' || c = '\t'

end HostFleet.Utility

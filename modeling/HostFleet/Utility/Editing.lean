import HostFleet.Utility.Editing.Run

/-!
# The editor

`sed` reads its script from arguments and files, and edits the files that are named.
-/

namespace HostFleet.Utility

open Machine

namespace Editing

/-- A piece of a script, and how faults in it are reported. -/
structure Part where
  text : String
  /-- The file, or the number among the pieces that stand in arguments. -/
  origin : String ⊕ Nat
  extended : Bool

/-- The title of a fault in a piece, of which so much was read. -/
def Part.title (p : Part) (consumed : Nat) : String :=
  match p.origin with
  | .inr n => s!"-e expression #{n}, char {consumed}: "
  | .inl name =>
    let line := ((p.text.toList.take consumed).filter (· = '\n')).length + 1
    s!"file {name} line {line}: "

/-- Puts pieces together of which one ends in the middle of a text. -/
def joinParts : List Part → List Part
  | p :: q :: rest =>
    if p.text.endsWith "\x5c" then joinParts ({ p with text := p.text ++ "\n" ++ q.text } :: rest)
    else p :: joinParts (q :: rest)
  | ps => ps
termination_by ps => ps.length

/-- The commands in pieces of a script, last first, with the titles of the blocks that are open. -/
def readParts (done : List Command) (blocks : List String) :
    List Part → Except String (List Command)
  | [] =>
    match blocks with
    | [] => .ok done
    | title :: _ => .error (title ++ "unmatched \x60\x7b'")
  | p :: rest =>
    match commands p.extended (p.text.length + 2) (openBlocks done) done p.text.toList with
    | .ok cs =>
      let before := openBlocks done
      let after := openBlocks cs
      let blocks := List.replicate (after - before) (p.title 0) ++ blocks.drop (before - after)
      readParts cs blocks rest
    | .error e => .error (p.title (p.text.length - e.rest.length) ++ e.message)

/-- The files that commands write. -/
def written (cs : List Command) : List String :=
  cs.filterMap fun c => match c.action with
    | .write name => some name
    | .writeFirst name => some name
    | .substitute s => s.file
    | _ => none

def options : Options where
  short := "bsnrzuEe:f:l:i::h"
  long := [("binary", .none, "b"), ("regexp-extended", .none, "E"), ("debug", .none, "debug"),
    ("in-place", .optional, "i"), ("expression", .required, "e"), ("file", .required, "f"),
    ("line-length", .required, "l"), ("null-data", .none, "z"), ("zero-terminated", .none, "z"),
    ("quiet", .none, "n"), ("posix", .none, "posix"), ("silent", .none, "n"),
    ("sandbox", .none, "sandbox"), ("separate", .none, "s"), ("unbuffered", .none, "u"),
    ("version", .none, "version"), ("help", .none, "h"), ("follow-symlinks", .none, "follow")]

def usage : String :=
  "Usage: sed [OPTION]... \x7bscript-only-if-no-other-script\x7d [input-file]...\n\n"
    ++ "  -n, --quiet, --silent\n                 suppress automatic printing of pattern space\n"
    ++ "      --debug\n                 annotate program execution\n"
    ++ "  -e script, --expression=script\n"
    ++ "                 add the script to the commands to be executed\n"
    ++ "  -f script-file, --file=script-file\n"
    ++ "                 add the contents of script-file to the commands to be executed\n"
    ++ "  --follow-symlinks\n                 follow symlinks when processing in place\n"
    ++ "  -i[SUFFIX], --in-place[=SUFFIX]\n"
    ++ "                 edit files in place (makes backup if SUFFIX supplied)\n"
    ++ "  -l N, --line-length=N\n"
    ++ "                 specify the desired line-wrap length for the \x60l' command\n"
    ++ "  --posix\n                 disable all GNU extensions.\n"
    ++ "  -E, -r, --regexp-extended\n"
    ++ "                 use extended regular expressions in the script\n"
    ++ "                 (for portability use POSIX -E).\n"
    ++ "  -s, --separate\n"
    ++ "                 consider files as separate rather than as a single,\n"
    ++ "                 continuous long stream.\n"
    ++ "      --sandbox\n                 operate in sandbox mode (disable e/r/w commands).\n"
    ++ "  -u, --unbuffered\n"
    ++ "                 load minimal amounts of data from the input files and flush\n"
    ++ "                 the output buffers more often\n"
    ++ "  -z, --null-data\n                 separate lines by NUL characters\n"
    ++ "      --help     display this help and exit\n"
    ++ "      --version  output version information and exit\n\n"
    ++ "If no -e, --expression, -f, or --file option is given, then the first\n"
    ++ "non-option argument is taken as the sed script to interpret.  All\n"
    ++ "remaining arguments are names of input files; if no input files are\n"
    ++ "specified, then the standard input is read.\n\n"

/-- The pieces of the script that the options bring. -/
def partsOf (c : Call) (extended : Bool) (count : Nat) (done : List Part) :
    List (String × String) → Program (List Part)
  | [] => pure done.reverse
  | (key, value) :: rest =>
    match key with
    | "e" => partsOf c extended (count + 1) (⟨value, .inr (count + 1), extended⟩ :: done) rest
    | "f" => do
      match ← Call.slurp value with
      | .ok text =>
        let text := if text.endsWith "\n" then String.ofList text.toList.dropLast else text
        partsOf c extended count (⟨text, .inl value, extended⟩ :: done) rest
      | .error e => c.fail ("couldn't open file " ++ value ++ ": " ++ e.reason) 4
    | key => partsOf c (extended || key = "E" || key = "r") count done rest

end Editing

open Editing in
def sed : Utility := fun c => do
  let misuse {α : Type} : Program α := do
    Program.tell 2 usage
    Program.exit 1
  let p ← match options.parse {} false c.args with
    | .ok p => pure p
    | .error e => do
      c.warn e
      misuse
  if p.has "h" then do
    c.put usage
    Program.exit 0
  let given ← partsOf c false 0 [] p.options
  let extended := p.has "E" || p.has "r"
  let (parts, names) ← match given, p.operands with
    | [], [] => misuse
    | [], text :: names => pure ([⟨text, .inr 1, extended⟩], names)
    | given, names => pure (given, names)
  let first := (parts.head?.map (·.text)).getD ""
  let script ← match readParts [] [] (joinParts parts) with
    | .error message => c.fail message 1
    | .ok cs =>
      match Script.ofCommands cs.reverse with
      | .ok script => pure script
      | .error name => c.fail ("can't find label for jump to \x60" ++ name ++ "'") 4
  let mut outlets : List (String × Outlet) := []
  for name in (written script.commands.toList).eraseDups do
    if name = "/dev/stderr" then outlets := (name, { fd := 2 }) :: outlets
    else if name = "/dev/stdout" then outlets := (name, { fd := 1 }) :: outlets
    else
      match ← Program.openPath name { write := true, create := true, truncate := true } with
      | .ok fd => outlets := (name, { fd := fd }) :: outlets
      | .error e => c.fail ("couldn't open file " ++ name ++ ": " ++ e.reason) 4
  let e : Editor :=
    { script := script
      isQuiet := p.has "n" || first.startsWith "#n"
      isSeparate := p.has "s" || p.has "i"
      inPlace := p.value? "i"
      stop := if p.has "z" then '\x00' else '\n'
      width := ((p.value? "l").bind natural?).getD 70
      isUnbuffered := p.has "u"
      isStrict := p.has "posix" }
  let s ← e.run c Program.plenty none
    { names := if names.isEmpty then ["-"] else names
      spans := script.commands.map fun cmd =>
        if cmd.selector.startsActive then .active none else .idle
      outlets := outlets }
  pure s.code

end HostFleet.Utility

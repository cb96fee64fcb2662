import HostFleet.Utility.Records.Reader
import HostFleet.Utility.Records.Run

/-!
# Scripts for records

`awk` runs a script on the records of files. The script stands in an argument or in files.
-/

namespace HostFleet.Utility

open Machine

namespace Records

def usage : String :=
  "Usage: mawk [Options] [Program] [file ...]\n\nProgram:\n"
    ++ "    The -f option value is the name of a file containing program text.\n"
    ++ "    If no -f option is given, a \x22--\x22 ends option processing; the following\n"
    ++ "    parameters are the program text.\n\nOptions:\n"
    ++ "    -f program-file  Program  text is read from file instead of from the\n"
    ++ "                     command-line.  Multiple -f options are accepted.\n"
    ++ "    -F value         sets the field separator, FS, to value.\n"
    ++ "    -v var=value     assigns value to program variable var.\n"
    ++ "    --               unambiguous end of options.\n\n"
    ++ "    Implementation-specific options are prefixed with \x22-W\x22.  They can be\n"
    ++ "    abbreviated:\n\n"
    ++ "    -W version       show version information and exit.\n"
    ++ "    -W dump          show assembler-like listing of program and exit.\n"
    ++ "    -W help          show this message and exit.\n"
    ++ "    -W interactive   set unbuffered output, line-buffered input.\n"
    ++ "    -W exec file     use file as program as well as last option.\n"
    ++ "    -W random=number set initial random seed.\n"
    ++ "    -W sprintf=number adjust size of sprintf buffer.\n"
    ++ "    -W posix_space   do not consider \x22\\n\x22 a space.\n"
    ++ "    -W usage         show this message and exit.\n"

/-- What the options say. -/
structure Given where
  separator : Option String := none
  /-- Variables with their values, last one first. -/
  settings : List (String × String) := []
  /-- The files that the script stands in, last one first. -/
  files : List String := []
  rest : List String := []

/-- Reads an option of which only the first letters have to be given. -/
def ofWord (c : Call) (word : String) (isLong : Bool) : Program Unit := do
  let begins (whole : String) : Bool := !word.isEmpty && whole.startsWith word.toLower
  if begins "version" then
    c.put "mawk 1.3.4 20200120\n"
    Program.exit 0
  else if begins "help" || begins "usage" then
    c.put usage
    Program.exit 0
  else if begins "interactive" || begins "dump" || begins "posix_space"
      || word.startsWith "sprintf" || word.startsWith "random" then pure ()
  else if isLong then c.fail ("not an option: --" ++ word) 2
  else c.warn ("vacuous option: -W \x22" ++ word ++ "\x22")

/-- Reads the options. -/
def given (c : Call) (fuel : Nat) (g : Given) (args : List String) : Program Given :=
  match fuel with
  | 0 => pure g
  | fuel + 1 =>
    let value (letter : Char) (text : List Char) (rest : List String) :
        Program (String × List String) :=
      match text, rest with
      | [], [] => c.fail ("option -" ++ String.singleton letter ++ " lacks argument") 2
      | [], v :: rest => pure (v, rest)
      | text, rest => pure (String.ofList text, rest)
    match args with
    | [] => pure g
    | arg :: rest =>
      match arg.toList with
      | ['-', '-'] => pure { g with rest := rest }
      | '-' :: '-' :: word => do
        ofWord c (String.ofList word) true
        given c fuel g rest
      | '-' :: 'F' :: text => do
        let (v, rest) ← value 'F' text rest
        given c fuel { g with separator := some v } rest
      | '-' :: 'f' :: text => do
        let (v, rest) ← value 'f' text rest
        given c fuel { g with files := v :: g.files } rest
      | '-' :: 'v' :: text => do
        let (v, rest) ← value 'v' text rest
        match Work.assignment? v with
        | some a => given c fuel { g with settings := a :: g.settings } rest
        | none => c.fail ("improper assignment: -v " ++ v) 2
      | '-' :: 'W' :: text => do
        let (v, rest) ← value 'W' text rest
        ofWord c v false
        given c fuel g rest
      | '-' :: _ :: _ => c.fail ("not an option: " ++ arg) 2
      | _ => pure { g with rest := args }

/-- The pieces of the script, with their files, and the arguments that are left. -/
def scriptOf (c : Call) (g : Given) : Program (List (Option String × String) × List String) := do
  match g.files.reverse, g.rest with
  | [], [] => do
    Program.tell 2 usage
    Program.exit 0
  | [], text :: rest => pure ([(none, text)], rest)
  | files, rest => do
    let pieces ← files.mapM fun name => do
      match ← Call.slurp name with
      | .ok text => pure (some name, text)
      | .error e => c.fail ("cannot open \x22" ++ name ++ "\x22 (" ++ e.reason ++ ")") 2
    pure (pieces, rest)

/-- The state in which a script begins. -/
def start (c : Call) (script : Script) (args : List String) : State :=
  let texts : List (String × String) :=
    [("FS", " "), ("OFS", " "), ("ORS", "\n"), ("RS", "\n"), ("SUBSEP", "\x1c"),
      ("CONVFMT", "%.6g"), ("OFMT", "%.6g")]
  let numbers : List (String × Float) :=
    [("NR", 0), ("FNR", 0), ("RSTART", 0), ("RLENGTH", -1), ("ARGC", (args.length + 1).toFloat)]
  let put (t : Table) (key : Key) (v : String) : Table := (t.use key true).2.set key (.given v)
  let environment := c.vars.foldl (fun t (name, value) => put t (.text name) value) ({} : Table)
  let named := (c.name :: args).zip (List.range (args.length + 1))
  let arguments := named.foldl (fun t (arg, i) => put t (.number i) arg) ({} : Table)
  let globals := (script.tables.filter fun name => name != "ENVIRON" && name != "ARGV").zip
    ((List.range script.tables.length).map (· + 2))
  { globals := .ofList (texts.map (fun (name, s) => (name, Value.text s))
      ++ numbers.map fun (name, x) => (name, Value.number x))
    tables := #[environment, arguments] ++ Array.replicate globals.length {}
    numbers := .ofList ([("ENVIRON", 0), ("ARGV", 1)] ++ globals)
    active := Array.replicate script.rules.size false
    seed := .number 1
    generator := Generator.ofSeed 1 }

/-- A fault as it is told. -/
def faultText (s : State) (message : String) (isLocated : Bool) : String :=
  let shown (name : String) : String := ((s.globals[name]?).getD .missing).toText "%.6g"
  if isLocated then "run time error: " ++ message ++ "\n\tFILENAME=\x22" ++ shown "FILENAME"
    ++ "\x22 FNR=" ++ shown "FNR" ++ " NR=" ++ shown "NR"
  else message

end Records

open Records in
def awk : Utility := fun c => do
  let g ← given c (c.args.length + 1) {} c.args
  let (pieces, args) ← scriptOf c g
  match g.separator.map fun s => Separator.ofText (Token.plainText s) with
  | some (.error e) =>
    c.fail ("line 0: regular expression compile failed (" ++ e.message ++ ")\n"
      ++ Token.plainText (g.separator.getD "")) 2
  | _ => pure ()
  let script ← match Script.read pieces with
    | .ok script => pure script
    | .error messages => do
      messages.forM c.warn
      Program.exit 2
  let whole : Work Unit := do
    match g.separator with
    | some s => Work.write (.global "FS") (.text (Token.plainText s))
    | none => pure ()
    for (name, value) in g.settings.reverse do
      Work.assignText name value
    let now := (← Work.ask c.moment).seconds
    discard (Work.sow (.number (ofInt now)))
    Work.runScript c script
  let (result, s) ← whole.begin (start c script args)
  let code ← match result with
    | .error (.fault message isLocated) => do
      c.warn (faultText s message isLocated)
      pure 2
    | _ => pure s.code
  let (ended, _) ← Work.finish.begin s
  match ended with
  | .error (.fault message _) => do
    c.warn message
    pure 2
  | _ => pure code

end HostFleet.Utility

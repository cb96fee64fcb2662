import HostFleet.Machine.Executable
import HostFleet.Utility.Options
import HostFleet.Utility.Stream
import HostFleet.Utility.Tally

/-!
# Programs that run programs

`env`, `timeout`, `nohup`, `nice` and their like prepare something and go on as another program;
`xargs` runs one again and again. `sleep` only waits, and `kill` ends what runs.
-/

namespace HostFleet.Utility

open Machine

/-! ## Variables -/

/-- Gives a variable a value, at its old place if it has one. -/
def withVariable (vars : Environment) (name value : String) : Environment :=
  if vars.any (·.1 == name) then vars.map fun v => if v.1 == name then (name, value) else v
  else vars ++ [(name, value)]

def variableLines (stop : Char) (vars : Environment) : String :=
  String.join (vars.map fun (name, value) => (name ++ "=" ++ value).push stop)

def printenv : Utility := fun c => do
  let options : Options := { short := "0", long := [("null", .none, "0")], anywhere := false }
  let p ← options.of c 2
  let stop := if p.has "0" then '\x00' else '\n'
  if p.operands.isEmpty then do
    c.put (variableLines stop c.vars)
    pure 0
  else
    let values := p.operands.map fun name => c.vars.lookup name
    c.put (String.join (values.filterMap fun v => v.map fun text => text.push stop))
    pure (if values.all Option.isSome then 0 else 1)

/-- Goes on as another program. The message about a failure shows the name as `shown` says. -/
def goOn (c : Call) (shown : String → String) (name : String) (args : List String)
    (vars : Environment) : Program Nat := do
  let e ← c.become name args vars
  c.warn (shown name ++ ": " ++ e.reason)
  pure (if e = .notFound then 127 else 126)

namespace Env

/-- The words of a text, which quotes and backslashes can hold together. -/
def words (vars : Environment) (quote : Option Char) (current : Option (List Char)) :
    List Char → List String
  | [] => match current with
    | some cs => [String.ofList cs.reverse]
    | none => []
  | c :: rest =>
    let add (cs : List Char) : Option (List Char) := some (cs ++ current.getD [])
    match quote with
    | some q =>
      if c = q then words vars none (add []) rest
      else words vars quote (add [c]) rest
    | none =>
      if c = '\x27' || c = '\x22' then words vars (some c) (add []) rest
      else if isSpace c then
        match current with
        | some cs => String.ofList cs.reverse :: words vars none none rest
        | none => words vars none none rest
      else words vars none (add [c]) rest

/-- A text with its variables replaced and its backslashes taken. Characters that lost their
meaning stand behind a mark. -/
def prepared (vars : Environment) (fuel : Nat) : List Char → List Char
  | [] => []
  | '\x5c' :: c :: rest =>
    match fuel with
    | 0 => []
    | fuel + 1 =>
      let c := match c with
        | 'n' => '\n'
        | 't' => '\t'
        | '_' => ' '
        | c => c
      c :: prepared vars fuel rest
  | '$' :: '\x7b' :: rest =>
    match fuel with
    | 0 => []
    | fuel + 1 =>
      let name := rest.takeWhile (· != '\x7d')
      ((vars.lookup (String.ofList name)).getD "").toList
        ++ prepared vars fuel (rest.drop (name.length + 1))
  | c :: rest =>
    match fuel with
    | 0 => []
    | fuel + 1 => c :: prepared vars fuel rest

def options : Options where
  short := "C:iS:u:v0"
  long := [("ignore-environment", .none, "i"), ("null", .none, "0"), ("unset", .required, "u"),
    ("chdir", .required, "C"), ("default-signal", .optional, "default"),
    ("ignore-signal", .optional, "ignore"), ("block-signal", .optional, "block"),
    ("list-signal-handling", .none, "list"), ("debug", .none, "v"),
    ("split-string", .required, "S")]
  anywhere := false

/-- The arguments with the text of an option to split put in their place. -/
def splitArgs (vars : Environment) : List String → List String
  | [] => []
  | "-S" :: text :: rest => words vars none none (prepared vars text.length text.toList) ++ rest
  | arg :: rest =>
    let texts (n : Nat) : List String :=
      let text := dropFront n arg
      words vars none none (prepared vars text.length text.toList) ++ rest
    if arg.startsWith "-S" then texts 2
    else if arg.startsWith "-vS" then "-v" :: texts 3
    else if arg.startsWith "--split-string=" then texts 15
    else if arg.startsWith "-" then arg :: splitArgs vars rest
    else arg :: rest

end Env

def env : Utility := fun c => do
  let p ← Env.options.of { c with args := Env.splitArgs c.vars c.args } 125
  let (dash, operands) := match p.operands with
    | "-" :: rest => (true, rest)
    | operands => (false, operands)
  let start : Environment := if p.has "i" || dash then [] else c.vars
  let vars ← (p.options.filter (·.1 == "u")).foldlM (fun (vars : Environment) (_, name) =>
    if name.isEmpty || name.contains '=' then
      c.fail ("cannot unset " ++ inQuotes name ++ ": Invalid argument") 125
    else pure (vars.filter (·.1 != name))) start
  let given := operands.takeWhile (·.contains '=')
  let vars := given.foldl (fun vars text =>
    let (name, value) := splitAssignment text
    withVariable vars name (value.getD "")) vars
  match p.value? "C", operands.drop given.length with
  | some _, [] => c.misuse "must specify command with --chdir (-C)" 125
  | none, [] => do
    c.put (variableLines (if p.has "0" then '\x00' else '\n') vars)
    pure 0
  | folder, name :: args => do
    if p.has "0" then c.misuse "cannot specify --null (-0) with command" 125
    match folder with
    | none => pure ()
    | some folder =>
      match (← Program.files).lookup true (← Program.folder) folder with
      | .ok (place, .folder) =>
        Program.change fun pid k => k.changeProcess pid fun p =>
          { p with folder := Files.shown place }
      | .ok _ => c.fail ("cannot change directory to " ++ inQuotes folder
          ++ ": Not a directory") 125
      | .error e => c.fail ("cannot change directory to " ++ inQuotes folder
          ++ ": " ++ e.reason) 125
    let e ← c.become name args vars
    c.warn (inQuotes name ++ ": " ++ e.reason)
    if e = .notFound && name.toList.any isSpace then
      c.warn "use -[v]S to pass options in shebang lines"
    pure (if e = .notFound then 127 else 126)

/-! ## Time -/

/-- A duration as a number of microseconds: a decimal number with the letter of a unit. -/
def duration? (text : String) : Option Nat :=
  let cs := text.toList.dropWhile isSpace
  let cs := if cs.head? = some '+' then cs.tail else cs
  let whole := cs.takeWhile Char.isDigit
  let rest := cs.drop whole.length
  let (places, rest) := match rest with
    | '.' :: rest => (rest.takeWhile Char.isDigit, rest.dropWhile Char.isDigit)
    | rest => ([], rest)
  let value (ds : List Char) : Nat := ds.foldl (fun n d => n * 10 + (d.toNat - 48)) 0
  let (power, rest) : Int × List Char := match rest with
    | 'e' :: '-' :: d :: ds => if d.isDigit then (-(d.toNat - 48 : Nat), ds) else (0, rest)
    | 'e' :: d :: ds => if d.isDigit then ((d.toNat - 48 : Nat), ds) else (0, rest)
    | rest => (0, rest)
  let unit : Option Nat := match rest with
    | [] => some 1
    | ['s'] => some 1
    | ['m'] => some 60
    | ['h'] => some 3600
    | ['d'] => some 86400
    | _ => none
  let word := String.ofList (cs.map Char.toLower)
  if word = "inf" || word = "infinity" then some (Nat.pow 2 62)
  else if whole.isEmpty && places.isEmpty then none
  else unit.map fun unit =>
    value (whole ++ places) * Nat.pow 10 (6 + power.toNat) * unit
      / Nat.pow 10 (places.length + (-power).toNat)

def sleep : Utility := fun c => do
  let p ← ({ short := "", anywhere := true } : Options).of c 1
  if p.operands.isEmpty then c.misuse "missing operand" 1
  let mut total := 0
  let mut fine := true
  for text in p.operands do
    match duration? text with
    | some n => total := total + n
    | none => do
      c.warn ("invalid time interval " ++ inQuotes text)
      fine := false
  if fine then do
    Program.spend total
    pure 0
  else do
    Program.tell 2 (c.hint ++ "\n")
    pure 1

/-- The number of a signal by its name or number. -/
def signalOf? (text : String) : Option Nat :=
  match natural? text with
  | some n => if n ≤ 64 then some n else none
  | none =>
    let name := String.ofList (text.toList.map Char.toUpper)
    let name := if name.startsWith "SIG" then dropFront 3 name else name
    if name = "EXIT" then some 0 else if name = "POLL" then some 29 else signalNumber? name

/-- Whether a process comes from another one. -/
def isBelow (k : Kernel) (top fuel pid : Nat) : Bool :=
  match fuel with
  | 0 => false
  | fuel + 1 =>
    match k.process? pid with
    | none => false
    | some p => p.parent == top || isBelow k top fuel p.parent

/-- Sends a signal to all processes that come from this one. -/
def sendBelow (top signal : Nat) : Program Unit :=
  Program.change fun pid k =>
    let others := (k.processes.map (·.pid)).filter fun n =>
      n != pid && isBelow k top k.processes.length n
    others.foldl (fun k n => k.send n signal) k

namespace Timeout

/-- The signal that tells a program that its time is over. -/
def alarm : Nat := 14

def options : Options where
  short := "k:s:v"
  long := [("kill-after", .required, "k"), ("signal", .required, "s"), ("verbose", .none, "v"),
    ("foreground", .none, "foreground"), ("preserve-status", .none, "preserve")]
  anywhere := false

/-- Waits, and then sends a signal to a process, and unless it stays in the foreground to all that
come from `top`. Another signal can follow. -/
def clock (top child time signal : Nat) (foreground : Bool) (again : Option Nat)
    (message : Nat → Program Unit) : Proc :=
  let fire (signal : Nat) : Program Unit := do
    Program.send top alarm
    message signal
    for n in if signal = 9 then [9] else [signal, 18] do
      Program.send child n
      if !foreground then sendBelow top n
    if signal = 9 && !foreground then Program.send top 9
  (do
    Program.spend time
    fire signal
    match again with
    | none => pure 0
    | some time => do
      Program.spend time
      fire 9
      pure 0 : Program Nat).toProc

end Timeout

def timeout : Utility := fun c => do
  let p ← Timeout.options.of c 125
  let interval (text : String) : Program Nat :=
    match duration? text with
    | some n => pure n
    | none => c.misuse ("invalid time interval " ++ inQuotes text) 125
  let signal ← match p.value? "s" with
    | none => pure 15
    | some text =>
      match signalOf? text with
      | some n => pure n
      | none => c.misuse (inQuotes text ++ ": invalid signal") 125
  let again ← match p.value? "k" with
    | none => pure none
    | some text => do pure (some (← interval text))
  match p.operands with
  | [] => do
    Program.tell 2 (c.hint ++ "\n")
    pure 125
  | [_] => do
    Program.tell 2 (c.hint ++ "\n")
    pure 125
  | text :: name :: args => do
    let time ← interval text
    let child ← Program.fork id
      (goOn c (fun name => "failed to run command " ++ inQuotes name) name args c.vars).toProc
    if time = 0 then
      match ← Program.waitFor child with
      | some (.exited code) => pure code
      | some (.killed n) => pure (128 + n)
      | none => pure 125
    else
      let top ← Program.pid
      let message (signal : Nat) : Program Unit :=
        if p.has "v" then
          c.warn ("sending signal " ++ signalName signal ++ " to command " ++ inQuotes name)
        else pure ()
      let foreground := p.has "foreground"
      Program.change fun pid k => k.changeProcess pid fun p => { p with caught := [Timeout.alarm] }
      let clock ← Program.fork (fun ds => ds.filter (·.1 == 2))
        (Timeout.clock top child time signal foreground (again.filter (0 < ·)) message)
      let ending ← Program.waitFor child
      let late ← Program.look fun pid k =>
        ((k.process? pid).map (·.pending.contains Timeout.alarm)).getD false
      Program.send clock 9
      discard (Program.waitFor clock)
      match ending with
      | some (.exited code) => pure (if late && !p.has "preserve" then 124 else code)
      | some (.killed n) =>
        if late then pure (if n = 9 || p.has "preserve" then 128 + n else 124)
        else do
          Program.send top n
          pure (128 + n)
      | none => pure 125

/-! ## Other ways to run -/

def nohup : Utility := fun c => do
  let p ← ({ short := "", anywhere := false } : Options).of c 125
  match p.operands with
  | [] => c.misuse "missing operand" 125
  | name :: args => do
    Program.change fun pid k => k.changeProcess pid fun p => { p with ignored := 1 :: p.ignored }
    goOn c (fun name => "failed to run command " ++ inQuotes name) name args c.vars

def nice : Utility := fun c => do
  let args := match c.args with
    | first :: rest =>
      match first.toList with
      | '-' :: d :: ds =>
        if (d :: ds).all Char.isDigit then ["-n", String.ofList (d :: ds)] ++ rest else c.args
      | _ => c.args
    | [] => []
  let options : Options := { short := "n:", long := [("adjustment", .required, "n")],
                             anywhere := false }
  let p ← options.of { c with args := args } 125
  let number := (p.value? "n").map fun text =>
    (text, natural? (if text.startsWith "-" || text.startsWith "+" then dropFront 1 text else text))
  match number with
  | some (text, none) => c.fail ("invalid adjustment " ++ inQuotes text) 125
  | _ => pure ()
  match p.operands with
  | [] =>
    if number.isSome then c.misuse "a command must be given with an adjustment" 125
    c.put "0\n"
    pure 0
  | name :: args => goOn c inQuotes name args c.vars

/-- Goes on as the program behind options that change nothing that can be seen. -/
def runPlainly (o : Options) : Utility := fun c => do
  let p ← o.of c 125
  match p.operands with
  | [] => c.misuse "missing operand" 125
  | name :: args =>
    goOn c (fun name => "failed to run command " ++ inQuotes name) name args c.vars

def setsid : Utility :=
  runPlainly { short := "cfw", long := [("ctty", .none, "c"), ("fork", .none, "f"),
    ("wait", .none, "w")], anywhere := false }

def stdbuf : Utility :=
  runPlainly { short := "i:o:e:", long := [("input", .required, "i"), ("output", .required, "o"),
    ("error", .required, "e")], anywhere := false }

/-! ## One program for many arguments -/

namespace Xargs

def options : Options where
  short := "0a:d:E:e::I:i::L:l::n:P:prs:tx"
  long := [("null", .none, "0"), ("arg-file", .required, "a"), ("delimiter", .required, "d"),
    ("eof", .optional, "e"), ("replace", .optional, "i"), ("max-lines", .optional, "l"),
    ("max-args", .required, "n"), ("max-procs", .required, "P"), ("interactive", .none, "p"),
    ("no-run-if-empty", .none, "r"), ("max-chars", .required, "s"), ("verbose", .none, "t"),
    ("exit", .none, "x"), ("open-tty", .none, "o"), ("show-limits", .none, "limits"),
    ("process-slot-var", .required, "slot")]
  anywhere := false

/-- What is wrong with a text that ends between quotes. -/
def unmatched (quote : Char) : String :=
  "unmatched " ++ (if quote = '\x27' then "single" else "double")
    ++ " quote; by default quotes are special to xargs unless you use the -0 option"

/-- The words of a text line by line, and what is wrong with the quotes. A line whose last
character is a blank goes on with the next one. `current` is a word that has begun, last character
first, and `line` holds the words before it. -/
def words (byLine : Bool) (quote : Option Char) (current : Option (List Char)) (isHeld : Bool)
    (line : List String) (done : List (List String)) :
    List Char → List (List String) × Option String
  | [] =>
    let line := match quote, current with
      | none, some cs => String.ofList cs.reverse :: line
      | _, _ => line
    ((if line.isEmpty then done else line.reverse :: done).reverse, quote.map unmatched)
  | c :: rest =>
    let add (cs : List Char) : Option (List Char) := some (cs ++ current.getD [])
    let line' := match current with
      | some cs => String.ofList cs.reverse :: line
      | none => line
    match quote with
    | some q =>
      if q = '\x5c' then words byLine none (add [c]) false line done rest
      else if c = q then words byLine none (add []) false line done rest
      else if c = '\n' then
        ((if line.isEmpty then done else line.reverse :: done).reverse, some (unmatched q))
      else words byLine quote (add [c]) false line done rest
    | none =>
      if c = '\x27' || c = '\x22' || c = '\x5c' then
        words byLine (some c) (if c = '\x5c' then current else add []) false line done rest
      else if c = '\n' then
        if line'.isEmpty then words byLine none none false [] done rest
        else if isHeld then words byLine none none false line' done rest
        else words byLine none none false [] (line'.reverse :: done) rest
      else if !byLine && isSpace c then words byLine none none true line' done rest
      else if byLine && current.isNone && (c = ' ' || c = '\t') then
        words byLine none none false line done rest
      else words byLine none (add [c]) false line done rest

/-- The character that a delimiter option names. -/
def delimiter? (text : String) : Option Char :=
  match text.toList with
  | [c] => some c
  | ['\x5c', c] => some (match c with
    | 'n' => '\n'
    | 't' => '\t'
    | '0' => '\x00'
    | c => c)
  | _ => none

/-- Pieces of so many items. -/
def pieces {α : Type} (fuel n : Nat) (items : List α) : List (List α) :=
  match fuel with
  | 0 => []
  | fuel + 1 =>
    if items.isEmpty then [] else items.take n :: pieces fuel n (items.drop n)

/-- Pieces of words that are not too long for one call. -/
def fitting (limit used : Nat) (current : List String) : List String → List (List String)
  | [] => if current.isEmpty then [] else [current.reverse]
  | w :: rest =>
    let size := used + w.length + 1
    if limit < size && !current.isEmpty then
      current.reverse :: fitting limit (w.length + 1) [w] rest
    else fitting limit size (w :: current) rest

/-- A text with each place where another stands replaced. -/
def replaced (mark value text : String) : String :=
  if mark.isEmpty then text else value.intercalate (text.splitOn mark)

/-- What the end of a program means: the status so far, and whether to stop. -/
def outcome (c : Call) (name : String) (code : Nat) : Option Ending → Program (Nat × Bool)
  | some (.exited 0) => pure (code, true)
  | some (.exited 255) => do
    c.warn (name ++ ": exited with status 255; aborting")
    pure (124, false)
  | some (.exited 126) => pure (126, false)
  | some (.exited 127) => pure (127, false)
  | some (.exited _) => pure (123, true)
  | some (.killed n) => do
    c.warn s!"{name}: terminated by signal {n}"
    pure (125, false)
  | none => pure (code, false)

def runEach (c : Call) (shows : Bool) (code : Nat) : List (List String) → Program Nat
  | [] => pure code
  | words :: rest => do
    match words with
    | [] => runEach c shows code rest
    | name :: args => do
      if shows then Program.tell 2 (" ".intercalate (words.map ShellWord.quoted) ++ "\n")
      let child ← Program.fork id ((do
        Program.change fun pid k => (let (file, k) := k.newOpen { stream := .null }
          k.connect pid 0 file)
        goOn c (fun name => name) name args c.vars : Program Nat).toProc)
      match ← outcome c name code (← Program.waitFor child) with
      | (code, true) => runEach c shows code rest
      | (code, false) => pure code

end Xargs

def xargs : Utility := fun c => do
  let p ← Xargs.options.of c 1
  let number (key : String) (least : Nat) : Program (Option Nat) :=
    match p.value? key with
    | none => pure none
    | some value =>
      match natural? value with
      | none => c.misuse ("invalid number \x22" ++ value ++ "\x22 for -" ++ key ++ " option") 1
      | some n =>
        if n < least then
          c.misuse s!"value {value} for -{key} option should be >= {least}" 1
        else pure (some n)
  let most ← number "n" 1
  let lines ← number "L" 1
  discard (number "P" 0)
  let size ← number "s" 1
  let lines := if p.has "l" then some ((natural? ((p.value? "l").getD "")).getD 1) else lines
  let mark := match p.last? ["I", "i"] with
    | some "I" => p.value? "I"
    | some _ => some (match p.value? "i" with
      | some "" => "\x7b\x7d"
      | some m => m
      | none => "\x7b\x7d")
    | none => none
  if p.has "p" then do
    Program.tell 2 (" ".intercalate (if p.operands.isEmpty then ["echo"] else p.operands))
    c.fail "failed to open /dev/tty for reading: No such device or address" 1
  let text ← match p.value? "a" with
    | none => do
      match ← Program.readAll 0 Program.plenty [] with
      | .ok text => pure text
      | .error _ => pure ""
    | some name =>
      match ← Program.readFile name with
      | .ok text => pure text
      | .error e => c.fail ("Cannot open input file " ++ inQuotes name ++ ": " ++ e.reason) 1
  let stop ← if p.has "0" then pure (some '\x00')
    else match p.value? "d" with
      | none => pure none
      | some d =>
        match Xargs.delimiter? d with
        | some c => pure (some c)
        | none => c.fail ("Invalid input delimiter specification " ++ d) 1
  let (groups, fault) := match stop with
    | some stop => ((Line.ofText stop text).map fun (l : Line) => [l.text], none)
    | none => Xargs.words mark.isSome none none false [] [] text.toList
  let last := match p.last? ["E", "e"] with
    | some key => p.value? key
    | none => none
  let groups := match last with
    | some word =>
      if word.isEmpty || stop.isSome then groups
      else
        let isEnd (ws : List String) : Bool := ws.contains word
        let front := groups.takeWhile fun ws => !isEnd ws
        front ++ ((groups.drop front.length).take 1).map fun (ws : List String) =>
          ws.takeWhile (· != word)
    | none => groups
  let command := if p.operands.isEmpty then ["echo"] else p.operands
  let calls := match mark with
    | some mark =>
      (groups.map fun ws => command.map (Xargs.replaced mark (" ".intercalate ws)))
    | none =>
      let all := groups.flatten
      let split := match lines, most with
        | some n, none => (Xargs.pieces (groups.length + 1) n groups).map List.flatten
        | _, some n => Xargs.pieces (all.length + 1) n all
        | none, none => Xargs.fitting (size.getD 131072 - (" ".intercalate command).length) 0 [] all
      if all.isEmpty then if p.has "r" then [] else [command]
      else split.map (command ++ ·)
  match fault with
  | some message => c.warn message
  | none => pure ()
  let code ← Xargs.runEach c (p.has "t") 0 calls
  pure (if fault.isSome then 1 else code)

/-! ## Ending processes -/

def killUsage : String :=
  "\nUsage:\n kill [options] <pid> [...]\n\nOptions:\n"
    ++ " <pid> [...]            send signal to every <pid> listed\n"
    ++ " -<signal>, -s, --signal <signal>\n"
    ++ "                        specify the <signal> to be sent\n"
    ++ " -q, --queue <value>    integer value to be sent with the signal\n"
    ++ " -l, --list=[<signal>]  list all signal names, or convert one to a name\n"
    ++ " -L, --table            list all signal names in a nice table\n\n"
    ++ " -h, --help     display this help and exit\n"
    ++ " -V, --version  output version information and exit\n\n"
    ++ "For more details see kill(1).\n"

def kill : Utility := fun c => do
  let send (signal : Nat) (targets : List String) : Program Nat := do
    let mut fine := true
    for target in targets do
      match natural? target with
      | none => do
        c.warn ("failed to parse argument: " ++ inQuotes target)
        fine := false
      | some pid =>
        if ← Program.look fun _ k => k.isAlive pid then Program.send pid signal
        else
          c.warn s!"({pid}): No such process"
          fine := false
    pure (if fine then 0 else 1)
  let usage : Program Nat := do
    Program.tell 2 killUsage
    pure 1
  let named (name : String) (targets : List String) : Program Nat :=
    match signalOf? name with
    | some n => send n targets
    | none => do
      c.warn ("invalid argument " ++ String.ofList (name.toList.take 1))
      usage
  match c.args with
  | [] => usage
  | ["-l"] => do
    let names := (signals.map Prod.fst).map fun n => if n = "IO" then "POLL" else n
    let short := (names.take 16, names.drop 16)
    c.put (" ".intercalate short.1 ++ "\n" ++ " ".intercalate short.2 ++ "\n")
    pure 0
  | "-l" :: words => do
    c.put (String.join (words.map fun w =>
      (match natural? w with
        | some n => signalName (n % 128)
        | none => ((signalOf? w).map toString).getD w) ++ "\n"))
    pure 0
  | "-s" :: name :: targets => named name targets
  | "--" :: targets => send 15 targets
  | first :: targets =>
    match first.toList with
    | '-' :: cs =>
      if cs.isEmpty then send 15 (first :: targets) else named (String.ofList cs) targets
    | _ => send 15 (first :: targets)

/-- Shows where programs are found. -/
def which : Utility := fun c => do
  let isOption (arg : String) : Bool := arg.startsWith "-" && 1 < arg.length
  let given := (c.args.takeWhile isOption).flatMap fun a => a.toList.drop 1
  match given.find? fun l => l != 'a' && l != 's' with
  | some l => do
    c.put s!"Illegal option -{l}\nUsage: {c.name} [-a] args\n"
    pure 2
  | none => do
    let names := c.args.dropWhile isOption
    let files ← Program.files
    let folder ← Program.folder
    let path := (c.vars.lookup "PATH").getD "/bin:/usr/bin"
    let found (name : String) : List String :=
      (Executable.candidates path name).filter fun path =>
        match files.lookup true folder path with
        | .ok (place, .file _) => files.isRunnable place
        | _ => false
    let all := names.map fun name =>
      if given.contains 'a' then found name else (found name).take 1
    if !given.contains 's' then c.put (String.join (all.flatten.map (· ++ "\n")))
    pure (if names.isEmpty || all.any List.isEmpty then 1 else 0)

end HostFleet.Utility

import HostFleet.Shell.Builtin.Basic

/-!
# Jobs and signals

The built-in commands that list commands in the background, wait for them and send signals, and
the one that tells what is done at a signal.
-/

namespace HostFleet.Shell.Builtin

open Machine

/-- The status that stands for the way a process ended. -/
def statusOf : Ending → Nat
  | .exited code => code
  | .killed signal => 128 + signal

/-- What is said about a process that a signal ended. -/
def deathText (signal : Nat) : String := signalText signal

/-- The signal that a word names, in the way of the dialect. -/
def signalOf? (large : Bool) (word : String) : Option Nat :=
  match Utility.natural? word with
  | some n => if n ≤ 64 then some n else none
  | none =>
    let name := word.map Char.toUpper
    let name := if large && name.startsWith "SIG" then Utility.dropFront 3 name else name
    if name = "EXIT" then some 0
    else if large && ["ERR", "DEBUG", "RETURN"].contains name then
      ["ERR", "DEBUG", "RETURN"].findIdx? (· == name) |>.map (65 + ·)
    else match signalNumber? name with
      | some n => if n = 16 && !large then none else some n
      | none => none

/-- The name under which a signal is listed. -/
def listedName (large : Bool) (n : Nat) : String :=
  if n = 0 then "EXIT"
  else if 65 ≤ n then ["ERR", "DEBUG", "RETURN"][n - 65]?.getD ""
  else if large then if n < 34 || 64 < n then "SIG" ++ signalName n else "SIG" ++ signalName n
  else if n = 16 then "16" else signalName n

/-- Lets the kernel know what is to be done at a signal. -/
def tellKernel (signal : Nat) : Act Unit := do
  if signal = 0 || 64 < signal then pure ()
  else
    let text := (← Act.state).trap? signal
    Program.change fun pid k => k.changeProcess pid fun p =>
      let ignored := p.ignored.filter (· != signal)
      let caught := p.caught.filter (· != signal)
      match text with
      | some "" => { p with ignored := signal :: ignored, caught := caught }
      | some _ => { p with ignored := ignored, caught := signal :: caught }
      | none => { p with ignored := ignored, caught := caught }

/-- Changes what is done at each of the signals, up to one that does not exist. -/
def changeTraps (text : Option String) : List String → Act Unit
  | [] => Act.setStatus 0
  | word :: rest => do
    let s ← Act.state
    match signalOf? s.isLarge word with
    | none => do
      if s.isLarge then Act.complain s!"{word}: invalid signal specification"
      else Act.print 2 s!"trap: {word}: bad trap\n"
      if s.isLarge then changeTraps text rest else pure ()
      Act.setStatus 1
    | some signal => do
      Act.update (State.setTrap · signal text)
      tellKernel signal
      changeTraps text rest

/-- Lists what is done at signals. -/
def listTraps (signals : List Nat) : Act Unit := do
  let s ← Act.state
  let line (n : Nat) : String := match s.trap? n with
    | some text =>
      let text := if s.isLarge then ShellWord.single text else ShellWord.paired text
      "trap -- " ++ text ++ " " ++ listedName s.isLarge n ++ "\n"
    | none => ""
  Act.print 1 (String.join (signals.map line))
  Act.setStatus 0

def trap : Builtin := fun args => do
  let large := (← Act.state).isLarge
  let (given, args) ← if args.head? = some "-" then pure ([], args)
    else options (if large then "lp" else "") args
  if given.any fun g => g.1 = 'p' then
    listTraps (if args.isEmpty then List.range 68 else args.filterMap (signalOf? large))
  else match args with
    | [] => listTraps (List.range 68)
    | [word] =>
      if large && word = "-" then pure ()
      else if large && (signalOf? large word).isNone then showUsage
      else changeTraps none [word]
    | text :: words =>
      let isSignal := if large then (Utility.natural? text).isSome
        else (signalOf? false text).isSome && (Utility.natural? text).isSome
      if isSignal then changeTraps none (text :: words)
      else changeTraps (if text = "-" then none else some text) words

/-! ## Jobs -/

/-- Notes the ways in which processes ended that the shell waited for. -/
def noteEnding (pid : Nat) (e : Ending) : Act Unit :=
  Act.update fun s =>
    let note (j : Job) : Job :=
      if j.pids.getLast? == some pid then { j with ending := some e } else j
    { s with jobs := s.jobs.map note }

/-- Notes which jobs a command has waited for. -/
def noteWaited (which : Job → Bool) : Act Unit :=
  Act.update fun s =>
    { s with jobs := s.jobs.map fun j => { j with isWaited := j.isWaited || which j } }

/-- Notes the jobs that ended by now, without waiting. -/
def noteEnded : Act Unit := do
  let s ← Act.state
  for j in s.jobs do
    match j.ending, j.pids.getLast? with
    | none, some pid => do
      let ending ← Program.look fun _ k => (k.process? pid).bind (·.ending)
      match ending with
      | some e => noteEnding pid e
      | none => pure ()
    | _, _ => pure ()

/-- How a job stands. -/
def jobState (large : Bool) (e : Option Ending) : String :=
  match e with
  | none => "Running"
  | some (.exited 0) => "Done"
  | some (.exited n) => if large then s!"Exit {n}" else s!"Done({n})"
  | some (.killed signal) => signalText signal

/-- The line about a job in the plain dialect, which knows nothing of its commands. With numbers,
each process has a line of its own. -/
def plainJobLine (withPid : Bool) (mark : String) (j : Job) : String :=
  let front := "[" ++ toString j.number ++ "] " ++ mark ++ " "
  let state := jobState false j.ending
  let wide (s : String) : String := s ++ "".pushn ' ' (max 1 (33 - s.length))
  if !withPid then wide (front ++ state) ++ String.join (j.pids.tail.map fun _ => " | ") ++ "\n"
  else match j.pids with
    | [] => "\n"
    | pid :: pids =>
      let further (pid : Nat) : String :=
        wide (" |\n" ++ "".pushn ' ' front.length ++ toString pid ++ " ")
      wide (front ++ toString pid ++ " " ++ state) ++ String.join (pids.map further) ++ "\n"

/-- The line about a job, with the number of its process if that is wanted. -/
def jobLine (large withPid : Bool) (jobs : List Job) (j : Job) : String :=
  let current := (jobs.head?.map (·.number)) == some j.number
  let previous := ((jobs[1]?).map (·.number)) == some j.number
  let mark := if current then "+" else if previous then "-" else " "
  if large then
    let pid := if withPid then toString (j.pids.getLast?.getD 0) ++ " " else " "
    "[" ++ toString j.number ++ "]" ++ mark ++ " " ++ pid
      ++ Utility.padRight 24 (jobState true j.ending) ++ j.text
      ++ (if j.ending.isNone then " &" else "") ++ "\n"
  else plainJobLine withPid mark j

/-- The job that a word such as `%1` names. The large dialect forgets those that ended. -/
def jobOf? (s : State) (word : String) : Option Job :=
  let jobs := if s.isLarge then s.jobs.filter (·.ending.isNone) else s.jobs
  match word with
  | "%" => jobs.head?
  | "%%" => jobs.head?
  | "%+" => jobs.head?
  | "%-" => jobs[1]?
  | word =>
    let text := Utility.dropFront 1 word
    match Utility.natural? text with
    | some n => jobs.find? fun j => j.number = n
    | none =>
      if text.startsWith "?" then
        jobs.find? fun j => 1 < (j.text.splitOn (Utility.dropFront 1 text)).length
      else jobs.find? fun j => j.text.startsWith text

/-- The job that a word names in the plain dialect, which knows nothing of its commands. -/
def plainJob (word : String) : Act Job := do
  let s ← Act.state
  let isFixed := ["%", "%%", "%+", "%-"].contains word
  let named := word.startsWith "%" &&
    (isFixed || (Utility.natural? (Utility.dropFront 1 word)).isSome)
  match if named then jobOf? s word else none with
  | some j => pure j
  | none =>
    if word = "%-" then Act.fail "No previous job"
    else if isFixed then Act.fail "No current job"
    else Act.fail s!"No such job: {word}"

def jobs : Builtin := fun args => do
  let large := (← Act.state).isLarge
  let (given, words) ← options (if large then "lprsn" else "lp") args
  noteEnded
  let has (c : Char) : Bool := given.any fun g => g.1 = c
  let text (jobs : List Job) (j : Job) : String :=
    if has 'p' then toString (j.pids.head?.getD 0) ++ "\n" else jobLine large (has 'l') jobs j
  if large then do
    let running := (← Act.state).jobs.filter (·.ending.isNone)
    Act.setStatus 0
    if words.isEmpty then Act.print 1 (String.join (running.reverse.map (text running)))
    else
      for word in words do
        match jobOf? (← Act.state) word with
        | some j => Act.print 1 (text running j)
        | none => do
          Act.complain s!"{word}: no such job"
          Act.setStatus 1
  else do
    let tell (j : Job) : Act Unit := do
      Act.print 1 (text (← Act.state).jobs j)
      Act.update fun s => { s with
        jobs := s.jobs.filter fun o => o.number != j.number || o.ending.isNone }
    if words.isEmpty then
      for j in (← Act.state).jobs do
        tell j
    else
      for word in words do
        tell (← plainJob word)
    Act.setStatus 0

/-- Waits for a child; a signal that the shell acts on ends the waiting. -/
def waitFor (pid : Nat) : Act (Option Ending) := do
  let ending ← Program.await fun self k =>
    match k.reap self pid with
    | some (e, k) => some (e, k)
    | none =>
      if ((k.process? self).any fun p => !p.pending.isEmpty) then some (none, k) else none
  match ending with
  | some e => do
    noteEnding pid e
    pure (some e)
  | none => pure none

/-- The signal that has come and was not acted on. -/
def pendingSignal? : Act (Option Nat) :=
  Program.look fun pid k => (k.process? pid).bind fun p => p.pending.head?

/-- Waits for each of the processes that still run. -/
def waitForAll : List Job → Act Unit
  | [] => do
    if (← Act.state).isLarge then
      Act.update fun s => { s with jobs := s.jobs.filter (·.ending.isNone) }
    noteWaited (·.ending.isSome)
    Act.setStatus 0
  | j :: rest => do
    match j.ending, j.pids.getLast? with
    | none, some pid => do
      let ended ← waitFor pid
      match ended, ← pendingSignal? with
      | none, some signal => Act.setStatus (128 + signal)
      | _, _ => waitForAll rest
    | _, _ => waitForAll rest

/-- Waits for whichever process ends first. -/
def waitForAny : Act Unit := do
  let s ← Act.state
  let pids := s.jobs.filterMap fun j => if j.ending.isNone then j.pids.getLast? else none
  if pids.isEmpty then Act.setStatus 127
  else do
    let (pid, ending) ← Program.await fun self k =>
      match pids.find? fun pid => !k.isAlive pid with
      | some pid =>
        match k.reap self pid with
        | some (e, k) => some ((pid, e), k)
        | none => none
      | none => none
    match ending with
    | some e => do
      noteEnding pid e
      Act.setStatus (statusOf e)
    | none => Act.setStatus 127

/-- Waits for the process that a word names. -/
def waitForOne (word : String) : Act Unit := do
  let s ← Act.state
  let job ← if word.startsWith "%" then
      if !s.isLarge then do pure (some (← plainJob word))
      else match jobOf? s word with
        | some j => pure (some j)
        | none => do
          Act.complain s!"{word}: no such job"
          pure none
    else match Utility.natural? word, s.isLarge with
      | some n, _ => do
        let found := s.jobs.find? fun j => j.pids.getLast? = some n
        if found.isNone && s.isLarge then
          Act.complain s!"pid {word} is not a child of this shell"
        pure found
      | none, true => Act.fail s!"\x60{word}\x27: not a pid or valid job spec"
      | none, false => do
        discard (number word)
        pure none
  match job with
  | none => Act.setStatus 127
  | some j =>
    match j.ending, j.pids.getLast? with
    | some e, _ => do
      noteWaited (·.number == j.number)
      Act.setStatus (statusOf e)
    | none, some pid => do
      match ← waitFor pid with
      | some e => do
        noteWaited (·.number == j.number)
        match e with
        | .killed signal =>
          if !s.isLarge && signal != 2 && signal != 13 then
            Act.print 2 (deathText signal ++ "\n")
        | _ => pure ()
        Act.setStatus (statusOf e)
      | none =>
        match ← pendingSignal? with
        | some signal => Act.setStatus (128 + signal)
        | none => Act.setStatus 127
    | none, none => Act.setStatus 127

def wait : Builtin := fun args => do
  let large := (← Act.state).isLarge
  let (given, args) ← options (if large then "fnp:" else "") args
  if given.any fun g => g.1 = 'n' then waitForAny
  else if args.isEmpty then waitForAll (← Act.state).jobs.reverse
  else
    for word in args do
      match ← pendingSignal? with
      | some signal => Act.setStatus (128 + signal)
      | none => waitForOne word

/-! ## Sending signals -/

/-- The signals by number, as `kill -l` lists them. -/
def signalList (large : Bool) : String :=
  if large then
    let numbered := ((List.range 64).map (· + 1)).filter fun n => n < 32 || 33 < n
    let cells := numbered.filter (· != 16) |>.map fun n =>
      (if n < 10 then " " else "") ++ toString n ++ ") SIG" ++ signalName n
    let rec rows (fuel : Nat) (cells : List String) : String :=
      match fuel with
      | 0 => ""
      | fuel + 1 =>
        if cells.isEmpty then ""
        else "\t".intercalate (cells.take 5) ++ "\n" ++ rows fuel (cells.drop 5)
    rows 20 cells
  else "0\n" ++ String.join ((List.range 64).map fun i => listedName false (i + 1) ++ "\n")

/-- The signal that the arguments of `kill` name, and to whom it is sent. -/
def takeSignal (large : Bool) : List String → Act (Nat × List String)
  | [] => pure (15, [])
  | "--" :: rest => pure (15, rest)
  | "-s" :: rest => named rest
  | "-n" :: rest => if large then named rest else unknownOption "-n"
  | arg :: rest =>
    match arg.toList with
    | '-' :: c :: cs =>
      match signalOf? large (String.ofList (c :: cs)) with
      | some n => pure (n, if rest.head? = some "--" then rest.tail else rest)
      | none =>
        if large then Act.fail s!"{String.ofList (c :: cs)}: invalid signal specification"
        else if c = 's' then named (String.ofList cs :: rest)
        else unknownOption ("-" ++ String.singleton c)
    | _ => pure (15, arg :: rest)
where
  named : List String → Act (Nat × List String)
    | [] => if large then do
        Act.complain "-s: option requires an argument"
        Act.leave (.fault 1)
      else Act.fail "No arg for -s option"
    | name :: rest =>
      match signalOf? large name with
      | some n => pure (n, if rest.head? = some "--" then rest.tail else rest)
      | none =>
        if large then Act.fail s!"{name}: invalid signal specification"
        else Act.fail s!"invalid signal number or name: {name}"

/-- Sends a signal to a process, if it is there. -/
def sendTo (pid signal : Nat) : Act Bool := do
  let known ← Program.look fun _ k => (k.process? pid).isSome
  if known && signal != 0 then Program.send pid signal
  pure known

def usageOfKill : String :=
  "Usage: kill [-s sigspec | -signum | -sigspec] [pid | job]... or\nkill -l [exitstatus]"

/-- Sends a signal to the process that a word names, and tells whether that worked. -/
def killOne (signal : Nat) (word : String) : Act Bool := do
  let s ← Act.state
  if word.startsWith "%" then
    if !s.isLarge then do
      discard (plainJob word)
      Act.complain "No such process\n"
      pure false
    else match jobOf? s word with
      | none => do
        Act.complain s!"{word}: no such job"
        pure false
      | some j => do
        for pid in j.pids do
          discard (sendTo pid signal)
        pure true
  else
    let text := if word.startsWith "-" then Utility.dropFront 1 word else word
    match Condition.integer? text, s.isLarge with
    | none, true => do
      Act.complain s!"{word}: arguments must be process or job IDs"
      pure false
    | _, large => do
      let n ← if large then pure ((Condition.integer? text).getD 0).toNat else number text
      let done ← if n = 0 then do
          let everybody ← Program.look fun _ k => k.processes.map (·.pid)
          for pid in everybody do
            discard (sendTo pid signal)
          pure true
        else sendTo n signal
      if done then pure true
      else do
        if large then Act.complain s!"({word}) - No such process"
        else Act.complain "No such process\n"
        pure false

def kill : Builtin := fun args => do
  let s ← Act.state
  match args with
  | "-l" :: [] => do
    Act.print 1 (signalList s.isLarge)
    Act.setStatus 0
  | "-l" :: words => do
    for word in if s.isLarge then words else words.take 1 do
      match Utility.natural? word with
      | some n =>
        let n := if 128 < n then n - 128 else n
        if 0 < n && n ≤ 64 then
          Act.print 1 ((if s.isLarge then signalName n else listedName false n) ++ "\n")
        else if s.isLarge then Act.fail s!"{word}: invalid signal specification"
        else Act.fail s!"invalid signal number or exit status: {word}"
      | none =>
        match if s.isLarge then signalOf? true word else none with
        | some n => Act.print 1 (toString n ++ "\n")
        | none =>
          if s.isLarge then Act.fail s!"{word}: invalid signal specification"
          else discard (number word)
    Act.setStatus 0
  | args => do
    let (signal, words) ← takeSignal s.isLarge args
    if words.isEmpty then
      if s.isLarge then showUsage else Act.fail usageOfKill
    else do
      let mut failed := false
      for word in words do
        if !(← killOne signal word) then failed := true
      Act.setStatus (if failed then 1 else 0)

/-- Commands that need a terminal. -/
def foreground : Builtin := fun args => do
  let s ← Act.state
  if s.isLarge then Act.fail "no job control"
  else do
    let (_, words) ← options "" args
    discard (plainJob (words.headD "%"))
    Act.fail ("job " ++ words.headD "(null)" ++ " not created under job control")

/-! ## Limits -/

/-- A limit: its letter, its name, the size of its unit, and what it is at first and at most. -/
structure Limit where
  letter : Char
  name : String
  unit : Nat := 1
  usual : Option Nat := none
  most : Option Nat := none

/-- The limits in the order in which they are listed. -/
def allLimits : List Limit :=
  [{ letter := 't', name := "time(seconds)" },
    { letter := 'f', name := "file(blocks)", unit := 512 },
    { letter := 'd', name := "data(kbytes)", unit := 1024 },
    { letter := 's', name := "stack(kbytes)", unit := 1024, usual := some 8388608 },
    { letter := 'c', name := "coredump(blocks)", unit := 512, usual := some 0 },
    { letter := 'm', name := "memory(kbytes)", unit := 1024 },
    { letter := 'l', name := "locked memory(kbytes)", unit := 1024,
      usual := some 8388608, most := some 8388608 },
    { letter := 'p', name := "process" },
    { letter := 'n', name := "nofiles", usual := some 1048576, most := some 1048576 },
    { letter := 'v', name := "vmemory(kbytes)", unit := 1024 }, { letter := 'w', name := "locks" },
    { letter := 'r', name := "rtprio", usual := some 0, most := some 0 }]

namespace Limit

/-- The limit and its uppermost value. -/
def values (s : State) (l : Limit) : Option Nat × Option Nat :=
  (s.limits.lookup l.letter).getD (l.usual, l.most)

def shown (s : State) (hard : Bool) (l : Limit) : String :=
  match if hard then (l.values s).2 else (l.values s).1 with
  | some n => toString (n / l.unit)
  | none => "unlimited"

end Limit

/-- The limits of the shell. -/
def ulimit : Builtin := fun args => do
  let s ← Act.state
  let (given, rest) ← options (if s.isLarge then "SHabcdefiklmnpqrstuvxPRT" else "HSatfdsmcnplvwr")
    args
  let has (c : Char) : Bool := given.any fun g => g.1 = c
  let kind := ((given.map (·.1)).filter fun c => !(['H', 'S', 'a'].contains c)).getLast?.getD 'f'
  let kind := if kind = 'u' then 'p' else kind
  let limit := (allLimits.find? fun l => l.letter = kind).getD { letter := kind, name := "" }
  let onlyHard := (((given.map (·.1)).filter fun c => c = 'H' || c = 'S').getLast?) == some 'H'
  match rest with
  | [] => do
    Act.print 1 (if has 'a' && !s.isLarge then
        String.join (allLimits.map fun l =>
          Utility.padRight 20 l.name ++ " " ++ l.shown s onlyHard ++ "\n")
      else limit.shown s onlyHard ++ "\n")
    Act.setStatus 0
  | text :: more => do
    if !s.isLarge && (has 'a' || !more.isEmpty) then Act.fail "too many arguments"
    else
      let given? : Option (Option Nat) := if text = "unlimited" then some none
        else if text.all Char.isDigit then some (some ((text.toNat?.getD 0) * limit.unit))
        else none
      match given? with
      | none => Act.fail (if s.isLarge then s!"{text}: invalid number" else "bad number")
      | some n => do
        let (soft, hard) := limit.values s
        let (newSoft, newHard) := (if onlyHard then soft else n,
          if !onlyHard && has 'S' then hard else n)
        let exceeds : Option Nat → Option Nat → Bool
          | _, none => false
          | none, some _ => true
          | some a, some b => b < a
        let refuse (e : OsError) : Act Unit :=
          Act.fail (if s.isLarge then "error setting limit: " ++ e.reason
            else "error setting limit (" ++ e.reason ++ ")")
        if exceeds newSoft newHard then refuse .invalidArgument
        else if exceeds newHard hard then refuse .notPermitted
        else do
          Act.update fun s => { s with limits := (limit.letter, newSoft, newHard) :: s.limits }
          Act.setStatus 0

end HostFleet.Shell.Builtin

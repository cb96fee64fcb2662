import HostFleet.Shell.Bracket
import HostFleet.Shell.Process
import HostFleet.Shell.Redirection
import HostFleet.Utility.Catalog

/-!
# Carrying out shell programs

Words are expanded to fields, and commands act on the state of the shell or split processes off.
The depth of recursion and the number of turns of a loop are bounded by `fuel`. A command is
`tested` if something depends on its status, and stands at the `tail` if the process has nothing
to do after it.
-/

namespace HostFleet.Shell

open Machine

namespace Act

/-- The status of an error of a redirection or a built-in command. -/
def faultStatus : Act Nat := do pure (if (← state).isLarge then 1 else 2)

/-- Ends the shell if the command failed and must not. -/
def check (tested : Bool) : Act Unit := do
  let s ← state
  if s.has "errexit" && !tested && s.status != 0 then leave (.exit s.status)

/-- What the shell is about to carry out, if that is to be shown. -/
def trace (start : Act String) (words : List String) : Act Unit := do
  let s ← state
  if s.has "xtrace" then
    let shown := if s.isLarge then words.map ShellWord.traced else words
    print 2 ((← start) ++ " ".intercalate shown ++ "\n")

/-- Carries a loop out. -/
def looping (a : Act Unit) : Act Unit := do
  update fun s => { s with loops := s.loops + 1 }
  let result ← attempt a
  update fun s => { s with loops := s.loops - 1 }
  resume result

end Act

/-- Whether a word begins like an assignment. -/
def isAssignmentWord (w : Word) : Bool :=
  match leadingName? w with
  | some (_, rest) => (dropSign "=" rest).isSome || (dropSign "+=" rest).isSome
  | none => false

/-- The command that fields begin with, behind `command` and its options. -/
def leadingCommand (fields : List String) : Option String :=
  match fields.dropWhile fun f => f = "command" || f = "-p" || f = "builtin" with
  | name :: _ => some name
  | [] => none

/-- The fields of the words of a command. The arguments of some commands are assignments, which
are not split. -/
def commandFields (h : Hooks) (fuel : Nat) (done : List String) : List Word → Act (List String)
  | [] => pure done
  | word :: rest => do
    let s ← Act.state
    let declares := match leadingCommand done with
      | some name => Builtin.takesAssignments s.dialect name && !s.functions.contains name
      | none => false
    let more ← if declares && isAssignmentWord word then do
        pure [← expandText h fuel .assignment word]
      else expandFields h fuel [word]
    commandFields h fuel (done ++ more) rest

/-- The name that an assignment is about. -/
def Assignment.name : Assignment → String
  | .value name _ _ _ => name
  | .array name _ _ => name

/-- Whether an assignment gives a whole variable a text. -/
def Assignment.isPlain : Assignment → Bool
  | .value _ none _ _ => true
  | _ => false

/-- Carries an assignment out, and gives its text as it is shown. -/
def carryOut (h : Hooks) (fuel : Nat) : Assignment → Act String
  | .value name none adds word => do
    let value ← expandText h fuel .assignment word
    if (← Act.state).arrays.contains name then Act.assignItem name "0" adds value
    else Act.assignText name adds value
    pure (name ++ (if adds then "+=" else "=") ++ value)
  | .value name (some subscript) adds word => do
    let key ← expandText h fuel .text subscript
    let value ← expandText h fuel .assignment word
    Act.assignItem name key adds value
    pure (name ++ "[" ++ key ++ "]" ++ (if adds then "+=" else "=") ++ value)
  | .array name adds items => do
    let items ← items.mapM fun (key, word) => do
      match key with
      | some key => do
        pure [(some (← expandText h fuel .text key), ← expandText h fuel .assignment word)]
      | none => do pure ((← expandFields h fuel [word]).map fun value => (none, value))
    Act.assignItems name adds items.flatten
    pure (name ++ (if adds then "+=" else "=") ++ "()")

/-- Why a command cannot be run, and the status for it. -/
def startFault (large : Bool) (name : String) (e : OsError) : String × Nat :=
  let missing := [OsError.notFound, .notDirectory, .nameTooLong, .tooManyLinks].contains e
  let reason :=
    if large then
      if e = .notFound then
        if name.contains '/' then e.reason else "command not found"
      else e.reason
    else if e = .notFound || e = .notDirectory then "not found"
    else e.reason
  (name ++ ": " ++ reason, if missing then 127 else 126)

/-- The lines about a fault in a program. -/
def syntaxMessage (s : State) (e : SyntaxFault) : String :=
  if !s.isLarge then s.label ++ "Syntax error: " ++ e.cause.text ++ "\n"
  else
    let label := s.name ++ ": " ++ (if s.isGiven then "-c: " else "")
      ++ (s.builtin.map (· ++ ": ")).getD "" ++ s!"line {e.line}: "
    let unclosed (sign : Char) : String :=
      label ++ "unexpected EOF while looking for matching \x60" ++ String.singleton sign ++ "\x27\n"
    let near (token : String) : String :=
      if token.isEmpty then label ++ "syntax error: unexpected end of file\n"
      else
        label ++ "syntax error near unexpected token \x60" ++ token ++ "\x27\n" ++ label ++ "\x60"
          ++ e.source ++ "\x27\n"
    match e.cause with
    | .misplaced _ token _ => near token
    | .loopVariable token => near token
    | .functionName => near "("
    | .openQuote c => unclosed c
    | .openBackquote => unclosed '\x60'
    | .openBraces => unclosed '\x7d'
    | .openArithmetic => unclosed ')'

mutual

/-- What commands write, without the ends of lines behind it. -/
def takeOutput (fuel : Nat) (body : List Command) : Act String :=
  match fuel with
  | 0 => Act.leave (.exit 2)
  | fuel + 1 => do
    let (fd, w) ← Act.openPipe fun pid k => k.freeDescriptor pid 10
    discard Act.takeNumber
    let child ← Act.split (fun ds => (1, w) :: ds.filter fun d => d.1 != 1 && d.1 != fd)
      (finish fuel (sequence fuel false true body))
    let text := match ← Program.readAll fd Program.plenty [] with
      | .ok text => text
      | .error _ => ""
    Program.close fd
    let status := (← Act.collect [child]).headD 0
    Act.update fun s => { s with outputStatus := status }
    let kept := text.toList.filter (· != '\x00')
    pure (String.ofList (kept.reverse.dropWhile (· = '\n')).reverse)

/-- Lets commands write to, or read from, a pipe with a path. -/
def openChannel (fuel : Nat) (isInput : Bool) (body : List Command) : Act String :=
  match fuel with
  | 0 => Act.leave (.exit 2)
  | fuel + 1 => do
    let (r, w) ← Program.access fun _ k => k.newPipe
    let (mine, other, theirs) := if isInput then (r, w, 1) else (w, r, 0)
    let fd ← Program.access fun pid k =>
      let fd := ((List.range 60).find? fun n =>
        ((k.descriptors pid).lookup (63 - n)).isNone).getD 0
      (63 - fd, k.connect pid (63 - fd) mine)
    discard (Act.split (fun ds => (theirs, other) :: ds.filter fun d => d.1 != theirs && d.1 != fd)
      (finish fuel (sequence fuel false true body)))
    pure s!"/dev/fd/{fd}"

/-- Carries out commands in order. -/
def sequence (fuel : Nat) (tested tail : Bool) (commands : List Command) : Act Unit :=
  match fuel with
  | 0 => Act.leave (.exit 2)
  | fuel + 1 =>
    match commands with
    | [] => pure ()
    | [c] => exec fuel tested tail c
    | c :: rest => do
      exec fuel tested false c
      sequence fuel tested tail rest

def exec (fuel : Nat) (tested tail : Bool) (command : Command) : Act Unit :=
  match fuel with
  | 0 => Act.leave (.exit 2)
  | fuel + 1 => do
    let h : Hooks := ⟨takeOutput fuel, openChannel fuel⟩
    if (← Act.state).has "noexec" then pure ()
    else match command with
    | .simple assignments words redirects line => do
      Act.update fun s => { s with line := line, outputStatus := 0 }
      simple fuel tail assignments words redirects
      heed fuel
      Act.check tested
    | .pipeline commands => do
      discard Act.takeNumber
      Act.putAside
      let pids ← stages fuel tested none commands
      Act.dropAside
      let statuses ← Act.collect pids
      let s ← Act.state
      let status := if s.has "pipefail" then ((statuses.reverse.find? (· != 0)).getD 0)
        else statuses.getLast?.getD 0
      Act.update fun s => { s with status := status, stageStatuses := statuses }
      heed fuel
      Act.check tested
    | .negated c => do
      exec fuel true false c
      Act.setStatus (if (← Act.status) = 0 then 1 else 0)
    | .both l r => do
      exec fuel true false l
      if (← Act.status) = 0 then exec fuel tested tail r
    | .either l r => do
      exec fuel true false l
      if (← Act.status) != 0 then exec fuel tested tail r
    | .sequence commands => sequence fuel tested tail commands
    | .background c text => do
      let number ← Act.takeNumber
      match c with
      | .pipeline commands => do
        Act.putAside
        let pids ← stages fuel false none (.background (.sequence []) "" :: commands)
        Act.dropAside
        Act.addJob number pids text
      | c => do
        let child ← Act.split id do
          Act.readNothing
          Act.ignoreKeys
          finish fuel (exec fuel false true c)
        Act.addJob number [child] text
      Act.setStatus 0
      heed fuel
    | .subshell c => do
      if tail && !(← Act.state).hasTraps then do
        Act.update fun s => { s with isCopy := true, reached := 1 }
        exec fuel tested true c
      else do
        discard Act.takeNumber
        let child ← Act.split id (finish fuel (exec fuel tested true c))
        Act.setStatus ((← Act.collect [child]).headD 0)
        heed fuel
        Act.check tested
    | .branch test yes no => do
      exec fuel true false test
      if (← Act.status) = 0 then exec fuel tested tail yes
      else match no with
        | some no => exec fuel tested tail no
        | none => Act.setStatus 0
    | .loop untilSuccess test body => Act.looping (loop fuel tested untilSuccess test body 0)
    | .each name words body line => do
      Act.update fun s => { s with line := line }
      let values ← match words with
        | some words => expandFields h fuel words
        | none => do pure (← Act.state).args
      Act.setStatus 0
      Act.looping (each fuel tested name body values)
    | .count start test step body => do
      let number (w : Word) (usual : Int) : Act Int := do
        let text ← expandText h fuel .text w
        if text.toList.all (· = ' ') then pure usual else Act.evaluate text
      discard (number start 0)
      Act.setStatus 0
      Act.looping (count fuel tested test step body)
    | .choose word clauses line => do
      Act.update fun s => { s with line := line, outputStatus := 0 }
      let text ← expandText h fuel .text word
      choose fuel tested tail text none clauses
    | .define name body => do
      Act.update fun s => { s with functions := s.functions.insert name body }
      Act.setStatus 0
    | .redirected c redirects line => do
      Act.update fun s => { s with line := line }
      Act.keepingDescriptors do
        if ← redirect h fuel redirects then exec fuel tested false c
        else Act.setStatus (← Act.faultStatus)
      match c with
      | .subshell _ => Act.check tested
      | _ => pure ()
    | .arithmetic body line => do
      Act.update fun s => { s with line := line }
      let text ← expandText h fuel .text body
      match ← Act.tryEvaluate text with
      | .ok n => Act.setStatus (if n = 0 then 1 else 0)
      | .error message => Act.refuse ("((: " ++ message) 1
      Act.check tested
    | .condition c line => do
      Act.update fun s => { s with line := line, status := 0 }
      match ← Act.attempt (holds h fuel c) with
      | .ok true => Act.setStatus 0
      | .ok false => Act.setStatus (if (← Act.status) = 2 then 2 else 1)
      | .error (.fault code) => Act.setStatus code
      | .error flow => Act.leave flow
      Act.check tested

/-- The turns of a loop. `last` is the status of the last one. -/
def loop (fuel : Nat) (tested : Bool) (untilSuccess : Bool) (test body : Command)
    (last : Nat) : Act Unit :=
  match fuel with
  | 0 => Act.leave (.exit 2)
  | fuel + 1 => do
    let outcome ← Act.attempt (exec fuel true false test)
    let goesOn := ((← Act.status) == 0) != untilSuccess
    match outcome with
    | .ok () =>
      if !goesOn then Act.setStatus last
      else do
        let result ← Act.attempt (exec fuel tested false body)
        match ← Act.turn result with
        | .stop => pure ()
        | .next => do
          let status ← Act.status
          loop fuel tested untilSuccess test body status
    | left =>
      match ← Act.turn left with
      | .stop => pure ()
      | .next => loop fuel tested untilSuccess test body last

/-- A turn of a loop for each value. -/
def each (fuel : Nat) (tested : Bool) (name : String) (body : Command)
    (values : List String) : Act Unit :=
  match fuel with
  | 0 => Act.leave (.exit 2)
  | fuel + 1 =>
    match values with
    | [] => pure ()
    | value :: rest => do
      Act.assignText name false value
      let result ← Act.attempt (exec fuel tested false body)
      match ← Act.turn result with
      | .stop => pure ()
      | .next => each fuel tested name body rest

/-- The turns of a loop that counts. -/
def count (fuel : Nat) (tested : Bool) (test step : Word) (body : Command) : Act Unit :=
  match fuel with
  | 0 => Act.leave (.exit 2)
  | fuel + 1 => do
    let h : Hooks := ⟨takeOutput fuel, openChannel fuel⟩
    let number (w : Word) : Act Int := do
      let text ← expandText h fuel .text w
      if text.toList.all (· = ' ') then pure 1 else Act.evaluate text
    if (← number test) = 0 then pure ()
    else do
      let result ← Act.attempt (exec fuel tested false body)
      match ← Act.turn result with
      | .stop => pure ()
      | .next => do
        discard (number step)
        count fuel tested test step body

/-- Carries out the first clause with a pattern that the text matches. `before` is what the clause
that was carried out last asks for. -/
def choose (fuel : Nat) (tested tail : Bool) (text : String) (before : Option AfterClause)
    (clauses : List (List Word × Command × AfterClause)) : Act Unit :=
  match fuel with
  | 0 => Act.leave (.exit 2)
  | fuel + 1 =>
    match clauses with
    | [] => if before.isSome then pure () else Act.setStatus 0
    | (patterns, body, ending) :: rest => do
      let found ← if before = some .next then pure true else matchesAny fuel text patterns
      if found then do
        match body with
        | .sequence [] => Act.setStatus 0
        | body => exec fuel tested (tail && ending = .done) body
        if ending != .done then choose fuel tested tail text (some ending) rest
      else choose fuel tested tail text before rest

def matchesAny (fuel : Nat) (text : String) (patterns : List Word) : Act Bool :=
  match fuel with
  | 0 => Act.leave (.exit 2)
  | fuel + 1 =>
    match patterns with
    | [] => pure false
    | word :: rest => do
      let s ← Act.state
      let lower (t : String) : String := if s.has "nocasematch" then t.map Char.toLower else t
      let pieces := (← expand ⟨takeOutput fuel, openChannel fuel⟩ fuel .text word).flatMap
        Piece.pattern
      let pieces := if s.has "nocasematch" then pieces.map fun p => (p.1.toLower, p.2) else pieces
      if (Pattern.read s.isLarge pieces).isMatch (lower text).toList then pure true
      else matchesAny fuel text rest

/-- Splits off the commands of a pipeline, each in a process of its own, and gives the numbers of
these. A background command without content in front of them says that they run there. -/
def stages (fuel : Nat) (tested : Bool) (input : Option Nat) (commands : List Command) :
    Act (List Nat) :=
  match fuel with
  | 0 => Act.leave (.exit 2)
  | fuel + 1 =>
    let (inBackground, commands) : Bool × List Command := match commands with
      | .background _ _ :: rest => (true, rest)
      | commands => (false, commands)
    let start (c : Command) (output : Option Nat) : Act Nat :=
      Act.split (fun ds =>
        let ds := match input with
          | some r => (0, r) :: ds.filter (·.1 != 0)
          | none => ds
        match output with
        | some w => (1, w) :: ds.filter (·.1 != 1)
        | none => ds) do
        if inBackground then do
          if input.isNone then Act.readNothing
          Act.ignoreKeys
        finish fuel (exec fuel tested true c)
    match commands with
    | [] => pure []
    | [c] => do pure [← start c none]
    | c :: rest => do
      let (r, w) ← Act.putPipeAside
      let pid ← start c (some w)
      let more ← stages fuel tested (some r)
        (if inBackground then .background (.sequence []) "" :: rest else rest)
      pure (pid :: more)

/-- A command that is made of assignments and words. -/
def simple (fuel : Nat) (tail : Bool) (assignments : List Assignment)
    (words : List Word) (redirects : List Redirect) : Act Unit :=
  match fuel with
  | 0 => Act.leave (.exit 2)
  | fuel + 1 => do
    let h : Hooks := ⟨takeOutput fuel, openChannel fuel⟩
    let fields ← commandFields h fuel [] words
    let s ← Act.state
    let start : Act String := do
      let s ← Act.state
      expandText h fuel .text (readText (s.context 0 []) ((s.parameter? "PS4").getD "").toList)
    match fields with
    | [] =>
      let act : Act Unit := do
        if ← redirect h fuel redirects then do
          for a in assignments do
            let shown ← carryOut h fuel a
            Act.trace start [shown]
          Act.setStatus (← Act.state).outputStatus
        else Act.setStatus (← Act.faultStatus)
      if redirects.isEmpty then act else Act.keepingDescriptors act
    | name :: args =>
      let isFunction := s.functions.contains name
      let isSpecial := !isFunction && Builtin.isSpecial s.dialect name
      let declares := s.isLarge && Builtin.takesAssignments s.dialect name
      let (before, after) := if declares then (assignments.filter Assignment.isPlain,
        assignments.filter fun a => !a.isPlain) else (assignments, [])
      let run (shown : List String) : Act Unit := do
        Act.trace start (shown ++ fields)
        call fuel tail isSpecial name args
        for a in after do
          discard (carryOut h fuel a)
      let act : Act Unit := do
        if ← redirect h fuel redirects then
          if before.isEmpty then run []
          else if isSpecial then do
            let shown ← before.mapM (carryOut h fuel)
            if name = "exec" then Act.update fun s => { s with
              exported := s.exported.insertMany (before.map Assignment.name) }
            run shown
          else do
            let olds := before.map fun a => Builtin.saved s a.name
            let result ← Act.attempt do
              let shown ← before.mapM fun a => do
                let shown ← carryOut h fuel a
                Act.update fun s => { s with exported := s.exported.insert a.name }
                pure shown
              run shown
            Act.update fun s => olds.reverse.foldl Builtin.putBack s
            Act.resume result
        else if isSpecial then Act.leave (.fault 2)
        else if name = "exec" && s.isLarge then Act.leave (.exit 1)
        else Act.setStatus (← Act.faultStatus)
      if redirects.isEmpty || (name = "exec" && args.isEmpty) then act
      else Act.keepingDescriptors act

/-- Calls a function, a built-in command or a program. -/
def call (fuel : Nat) (tail isSpecial : Bool) (name : String) (args : List String) : Act Unit :=
  match fuel with
  | 0 => Act.leave (.exit 2)
  | fuel + 1 => do
    let before ← Act.state
    match before.functions[name]? with
    | some body => do
      Act.update fun s =>
        { s with
          args := args
          locals := [] :: s.locals
          loops := 0
          calls := name :: s.calls
          optionIndex := 1
          optionOffset := 0 }
      let result ← Act.attempt (exec fuel false false body)
      Act.update fun s =>
        { Builtin.endLocals s with
          args := before.args
          loops := before.loops
          calls := before.calls
          optionIndex := if s.isLarge then s.optionIndex else before.optionIndex
          optionOffset := if s.isLarge then s.optionOffset else before.optionOffset }
      match result with
      | .error (.back code) => Act.setStatus code
      | result => Act.resume result
    | none => callNamed fuel tail isSpecial none name args

/-- Calls a built-in command or a program. -/
def callNamed (fuel : Nat) (tail isSpecial : Bool) (searchPath : Option String) (name : String)
    (args : List String) : Act Unit :=
  match fuel with
  | 0 => Act.leave (.exit 2)
  | fuel + 1 => do
    let s ← Act.state
    let guarded (a : Act Unit) : Act Unit := do
      match ← Act.attempt a with
      | .error (.fault code) =>
        if isSpecial then Act.leave (.fault code) else Act.setStatus code
      | result => Act.resume result
    if !Builtin.isBuiltin s.dialect name then runProgram fuel tail searchPath name args
    else match Builtin.find? s.dialect name with
    | some builtin => guarded (Builtin.audible name (builtin args))
    | none =>
      match name with
      | "type" => guarded (Builtin.audible "type" (Builtin.type args))
      | "hash" => guarded (Builtin.audible "hash" (Builtin.hash args))
      | "eval" => do
        let args := if s.isLarge && args.head? = some "--" then args.tail else args
        Act.setStatus 0
        if s.isLarge then nested fuel (s.line - 1) false (" ".intercalate args)
        else guarded (Builtin.named "eval" (nested fuel 0 false (" ".intercalate args)))
      | "exec" => guarded (become fuel args)
      | "." => guarded (source fuel name args)
      | "source" => guarded (source fuel name args)
      | "builtin" =>
        match args with
        | [] => Act.setStatus 0
        | name :: args =>
          if Builtin.isBuiltin s.dialect name then callNamed fuel tail isSpecial none name args
          else guarded (Builtin.named "builtin" (Act.fail s!"{name}: not a shell builtin"))
      | "command" => guarded do
        let (given, rest) ← Builtin.named "command" (Builtin.options "pvV" args)
        let has (c : Char) : Bool := given.any fun g => g.1 = c
        let searchPath := if has 'p' then some Executable.usualPath else none
        let kind := ((given.map (·.1)).filter (· != 'p')).getLast?
        match kind, rest with
        | _, [] => Act.setStatus 0
        | some kind, names =>
          Builtin.audible "command" (Builtin.describe (kind = 'V') searchPath
            (if s.isLarge then names else names.take 1))
        | none, name :: args => callNamed fuel tail false searchPath name args
      | "pushd" => guarded (Builtin.audible "pushd" (Builtin.cd args))
      | _ => Act.setStatus 0

/-- Carries out the program in a file. -/
def source (fuel : Nat) (name : String) (args : List String) : Act Unit :=
  match fuel with
  | 0 => Act.leave (.exit 2)
  | fuel + 1 => do
    let s ← Act.state
    match ← Builtin.named name (Builtin.options "" args) with
    | (_, []) =>
      if s.isLarge then Builtin.named name do
        Act.complain "filename argument required"
        Builtin.showUsage
      else Act.setStatus 0
    | (_, file :: more) => do
      let files ← Program.files
      let folder ← Program.folder
      let paths := if file.contains '/' then [file]
        else Executable.candidates ((s.parameter? "PATH").getD "") file
          ++ if s.isLarge then [file] else []
      let isFile (path : String) : Bool := match files.lookup true folder path with
        | .ok (_, .folder) => false
        | .ok _ => true
        | .error _ => false
      match if file.contains '/' then some file else paths.find? isFile with
      | none =>
        if s.isLarge then do
          Act.complain s!"{file}: No such file or directory"
          Act.leave (.fault 1)
        else Builtin.named name (Act.fail s!"{file}: not found")
      | some path =>
        let text ← Program.readFile path
        match if text matches .error .isDirectory && !s.isLarge then .ok "" else text with
        | .error e =>
          if s.isLarge then do
            Act.complain (file ++ ": " ++ (if e = .isDirectory then "is a directory" else e.reason))
            Act.leave (.fault 1)
          else Builtin.named name (Act.fail ("cannot open " ++ file ++ ": "
            ++ if e = .notFound || e = .notDirectory then "No such file" else e.reason))
        | .ok text => do
          Act.setStatus 0
          if s.isLarge then Act.update fun s => { s with name := file, calls := "source" :: s.calls,
                                                         isGiven := false }
          let withArgs := s.isLarge && !more.isEmpty
          if withArgs then Act.update fun s => { s with args := more }
          let body := nested fuel 0 false text
          let result ← Act.attempt (if s.isLarge then body else Builtin.named path body)
          Act.update fun now => { now with
            name := s.name
            calls := s.calls
            isGiven := s.isGiven
            args := if withArgs then s.args else now.args }
          match result with
          | .error (.back code) => Act.setStatus code
          | result => Act.resume result

/-- Acts on the signals that were sent to the shell. -/
def heed (fuel : Nat) : Act Unit :=
  match fuel with
  | 0 => Act.leave (.exit 2)
  | fuel + 1 => do
    match ← Act.nextSignal with
    | none => pure ()
    | some signal => do
      let s ← Act.state
      match s.trap? signal with
      | some text => do
        Act.update fun s => { s with savedStatus := some s.status }
        let result ← Act.attempt (nested fuel (if s.isLarge then s.line - 1 else 0) false text)
        Act.update fun now => { now with savedStatus := s.savedStatus, status := s.status }
        Act.resume result
      | none => pure ()
      heed fuel

/-- Runs a program in place of the shell, or keeps the descriptors as they are. -/
def become (fuel : Nat) (args : List String) : Act Unit :=
  match fuel with
  | 0 => Act.leave (.exit 2)
  | fuel + 1 => do
    let large := (← Act.state).isLarge
    let (given, args) ← if large then Builtin.named "exec" (Builtin.options "cla:" args)
      else pure ([], args)
    match args with
    | [] => Act.setStatus 0
    | name :: args => do
      let title := ((given.lookup 'a').getD name)
      let s ← Act.state
      let env := if given.any fun g => g.1 = 'c' then [] else s.environment
      let e ← startNamed fuel none name title args env
      let (message, code) := startFault s.isLarge name e
      let message := if s.isLarge && !name.contains '/' then name ++ ": not found" else message
      Builtin.named "exec" (Act.complain message)
      Act.leave (.exit code)

/-- Goes on as a program, or tells why that cannot be done. -/
def startNamed (fuel : Nat) (searchPath : Option String) (name title : String)
    (args : List String) (env : Environment) : Act OsError :=
  match fuel with
  | 0 => Act.leave (.exit 2)
  | fuel + 1 => do
    match ← Builtin.pathOf? searchPath name with
    | .error e => pure e
    | .ok path => Act.ofProgram (startPath fuel path title args env)

/-- Runs a program and waits for its end. -/
def runProgram (fuel : Nat) (tail : Bool) (searchPath : Option String) (name : String)
    (args : List String) : Act Unit :=
  match fuel with
  | 0 => Act.leave (.exit 2)
  | fuel + 1 => do
    let s ← Act.state
    let failed : Act Nat := do
      let e ← startNamed fuel searchPath name name args s.environment
      let (message, code) := startFault s.isLarge name e
      Act.complain message
      pure code
    if name.contains '/' then start s failed
    else match ← Builtin.pathOf? searchPath name with
      | .ok path => do
        Act.update fun s => s.track name path
        start s failed
      | .error .permissionDenied =>
        if s.isLarge then start s failed
        else do
          Act.complain (startFault false name .permissionDenied).1
          Act.setStatus 127
      | .error _ => do
        Act.complain (startFault s.isLarge name .notFound).1
        Act.setStatus 127
where
  start (s : State) (failed : Act Nat) : Act Unit := do
    if tail && !s.hasTraps then do Act.leave (.exit (← failed))
    else do
      discard Act.takeNumber
      let child ← Act.split id failed
      Act.setStatus ((← Act.collect [child]).headD 0)

/-- Goes on as the program at a path. -/
def startPath (fuel : Nat) (path title : String) (args : List String) (env : Environment) :
    Program OsError :=
  match fuel with
  | 0 => Program.exit 2
  | fuel + 1 => do
    let files ← Program.files
    let folder ← Program.folder
    let tooLong (text : String) : Bool := 131071 < text.length
    let enter (program : String) (words : List String) : Program OsError := fun _ =>
      (do
        Program.change fun pid k => k.changeProcess pid fun p =>
          { p with caught := [], pending := [], held := [] }
        Program.spend 400
        launch fuel program words env : Program Nat).toProc
    if (title :: args).any tooLong || env.any fun v => tooLong (v.1 ++ v.2) then
      pure .argumentsTooLong
    else match Executable.resolve files folder Executable.maxDepth path title args with
      | .ok (program, words) => enter program words
      | .error .notExecutable => enter "sh" ("/bin/sh" :: path :: args)
      | .error e => pure e

/-- Runs a program of the system, called with these words. -/
def launch (fuel : Nat) (program : String) (words : List String) (env : Environment) :
    Program Nat :=
  match fuel with
  | 0 => Program.exit 2
  | fuel + 1 =>
    match program with
    | "sh" => shell fuel .plain words env
    | "dash" => shell fuel .plain words env
    | "bash" => shell fuel .large words env
    | program =>
      match Utility.find? program with
      | none => Program.exit 127
      | some u => u {
          name := words.headD program
          args := words.tail
          vars := env
          become := fun name args env => do
            let files ← Program.files
            let folder ← Program.folder
            let path := (env.lookup "PATH").getD "/bin:/usr/bin"
            match Executable.search files folder path name with
            | .error e => pure e
            | .ok path => startPath fuel path name args env }

/-- Runs a shell: with the program as an argument, from a file, or from its input. -/
def shell (fuel : Nat) (d : Dialect) (words : List String) (env : Environment) : Program Nat :=
  match fuel with
  | 0 => Program.exit 2
  | fuel + 1 => do
    let name := words.headD "sh"
    let parent ← Program.look fun pid k => ((k.process? pid).map (·.parent)).getD 1
    let first := State.initial d name (← Program.pid) parent (← Program.folder)
      (← Program.files) env
    let first := { first with begun := ← Program.now }
    let call := Invocation.take { state := first } false words.tail
    let large := d = .large
    let run (name : String) (args : List String) (isGiven : Bool) (text : String) : Program Nat :=
      let s := { call.state with
        name := name, args := args, isGiven := isGiven }
      (finish fuel (lines fuel text.toList text.toList)).toProgram s
    let ofInput (args : List String) : Program Nat := do
      let text := match ← Program.readAll 0 Program.plenty [] with
        | .ok text => text
        | .error _ => ""
      let call := { call with state := call.state.setOption true "stdin" }
      (finish fuel (lines fuel text.toList text.toList)).toProgram { call.state with args := args }
    let refuse (message : String) (code : Nat) : Program Nat := do
      Program.tell 2 (name ++ ": " ++ (if large then "" else "0: ") ++ message ++ "\n")
      pure code
    match call.fault, call.isGiven, call.args with
    | some (message, code), _, _ => refuse message code
    | none, true, [] =>
      refuse (if large then "-c: option requires an argument" else "-c requires an argument") 2
    | none, true, [text] => run name [] true text
    | none, true, text :: name :: args => run name args true text
    | none, false, [] => ofInput []
    | none, false, file :: args =>
      if call.fromInput then ofInput (file :: args)
      else match ← Program.readFile file with
      | .ok text =>
        if large && (text.toList.take 80).contains '\x00' then
          refuse s!"{file}: cannot execute binary file" 126
        else run file args false text
      | .error e =>
        let missing := e = .notFound || e = .notDirectory
        if large then
          refuse (file ++ ": " ++ if e = .isDirectory then "Is a directory" else e.reason)
            (if missing then 127 else 126)
        else
          let reason := if missing then "No such file" else e.reason
          refuse s!"cannot open {file}: {reason}" 2

/-- Carries a program out inside the running one, below so many lines. -/
def nested (fuel base : Nat) (tested : Bool) (text : String) : Act Unit :=
  match fuel with
  | 0 => Act.leave (.exit 2)
  | fuel + 1 => do
    let before ← Act.state
    let result ← Act.attempt (innerLines fuel base tested text.toList text.toList)
    Act.update fun s => { s with line := before.line, reached := before.reached }
    Act.resume result

/-- Reads and carries out one line after the other of a program inside another. -/
def innerLines (fuel base : Nat) (tested : Bool) (text rest : List Char) : Act Unit :=
  match fuel with
  | 0 => Act.leave (.exit 2)
  | fuel + 1 => do
    let s ← Act.state
    let cx := s.context base text
    match readLine cx rest with
    | .error e => do
      Act.update fun s => { s with line := e.line }
      let s ← Act.state
      Act.print 2 (syntaxMessage s e)
      Act.leave (.fault 2)
    | .ok (commands, rest) => do
      Act.update fun s => { s with reached := cx.lineAt (rest.dropWhile isHidden).length }
      sequence fuel tested false commands
      if rest.isEmpty then pure () else innerLines fuel base tested text rest

/-- Reads and carries out one line after the other of the outermost program. -/
def lines (fuel : Nat) (text rest : List Char) : Act Unit :=
  match fuel with
  | 0 => Act.leave (.exit 2)
  | fuel + 1 => do
    let s ← Act.state
    let cx := s.context 0 text
    match readLine cx rest with
    | .error e => do
      Act.update fun s => { s with line := e.line }
      let s ← Act.state
      Act.print 2 (syntaxMessage s e)
      Act.leave (.exit 2)
    | .ok (commands, after) => do
      let next := after.dropWhile isHidden
      Act.update fun s => { s with reached := cx.lineAt next.length }
      if s.has "verbose" && !s.isGiven then
        let unread := text.drop (text.length - rest.length)
        Act.print 2 (String.ofList (unread.take (rest.length - next.length)))
      let tail := after.isEmpty && rest.getLast? != some '\n'
      match ← Act.attempt (sequence fuel false tail commands) with
      | .error (.fault code) =>
        if s.isLarge && !s.isGiven && !s.isCopy then Act.setStatus code
        else Act.leave (.fault code)
      | result => Act.resume result
      if next.isEmpty then pure () else lines fuel text next

/-- Brings a process to its end, with what it wants done there, and gives its exit code. -/
def finish (fuel : Nat) (body : Act Unit) : Act Nat :=
  match fuel with
  | 0 => Act.leave (.exit 2)
  | fuel + 1 => do
    let code := (← Act.ending (← Act.attempt body)) % 256
    match (← Act.state).trap? 0 with
    | none => pure code
    | some text => do
      Act.update fun s => { s.setTrap 0 none with status := code, savedStatus := some code }
      match ← Act.attempt (nested fuel 0 false text) with
      | .error (.exit code) => pure (code % 256)
      | _ => pure code

end

end HostFleet.Shell

import HostFleet.Utility.Records.State
import HostFleet.Utility.Records.Token

/-!
# Reading and writing

The records of the files that the arguments name, and the other files and commands that a script
reads and writes.
-/

namespace HostFleet.Utility.Records

open Machine

namespace Work

variable (c : Call)

/-- The descriptors that are not for commands. -/
def ownDescriptors : Work (List Nat) := do
  let s ← get
  pure ((s.outputs.map (·.fd) ++ s.inputs.map (·.2.fd)
    ++ (s.main.map (·.fd)).toList).filter (· != 0))

/-! ## Output -/

/-- Writes what was put aside. -/
def emptyInto (fd : Nat) (name : String) (h : Held) : Work Held := do
  let text := String.join h.pieces.reverse
  if text.isEmpty then pure {}
  else
    match ← ask (Program.write fd text) with
    | .ok () => pure {}
    | .error e => throw (.fault ("close failed on file \x22" ++ name ++ "\x22 ("
        ++ e.reason ++ ")") false)

def flushMain : Work Unit := do
  let held := (← get).held
  modify fun s => { s with held := {} }
  discard (emptyInto 1 "/dev/stdout" held)

def flushAll : Work Unit := do
  flushMain
  let outputs ← (← get).outputs.mapM fun o => do
    pure { o with held := ← emptyInto o.fd o.name o.held }
  modify fun s => { s with outputs := outputs }

def addHeld (fd : Nat) (name : String) (h : Held) (text : String) : Work Held := do
  let h : Held := ⟨text :: h.pieces, h.size + text.length⟩
  if h.size < Held.limit then pure h else emptyInto fd name h

def put (text : String) : Work Unit := do
  let held := (← get).held
  modify fun s => { s with held := {} }
  let held ← addHeld 1 "/dev/stdout" held text
  modify fun s => { s with held := held }

/-- The output of this name, which is opened if need be. It comes to stand in front. -/
def openOutput (channel : Channel) (name : String) : Work Output := do
  let isSame (o : Output) : Bool :=
    o.name == name && (o.channel == .command) == (channel == .command)
  match (← get).outputs.find? isSame with
  | some o => do
    modify fun s => { s with outputs := o :: s.outputs.filter fun o => !isSame o }
    pure o
  | none => do
    let o : Output ← match channel with
      | .command => do
        flushAll
        let (fd, child) ← ask (c.writeTo (← ownDescriptors) name)
        pure { channel := channel, name := name, fd := fd, child := some child }
      | channel => do
        let adds := channel == .addition
        match ← ask (Program.openPath name
            { write := true, create := true, truncate := !adds, append := adds }) with
        | .ok fd => pure { channel := channel, name := name, fd := fd }
        | .error e => throw (.fault ("cannot open \x22" ++ name ++ "\x22 for output ("
            ++ e.reason ++ ")") false)
    modify fun s => { s with outputs := o :: s.outputs }
    pure o

def putTo (channel : Channel) (name text : String) : Work Unit := do
  if channel != .command && name = "/dev/stdout" then put text
  else if channel != .command && name = "/dev/stderr" then ask (Program.tell 2 text)
  else
    let o ← openOutput c channel name
    let held ← addHeld o.fd o.name o.held text
    modify fun s => { s with outputs := { o with held := held } :: s.outputs.tail }

/-! ## Closing -/

/-- How a command ended, as a number. -/
def endingCode : Option Ending → Int
  | some (.exited code) => code
  | some (.killed signal) => 256 + signal
  | none => -1

def closeOutput (o : Output) : Work Int := do
  discard (emptyInto o.fd o.name o.held)
  ask (Program.close o.fd)
  match o.child with
  | none => pure 0
  | some child => pure (endingCode (← ask (Program.waitFor child)))

def closeInput (i : Input) : Work Int := do
  if i.fd != 0 then ask (Program.close i.fd)
  match i.child with
  | none => pure 0
  | some child => pure (endingCode (← ask (Program.waitFor child)))

/-- Closes all that has this name. -/
def close (name : String) : Work Int := do
  let s ← get
  let outputs := s.outputs.filter fun o => o.name == name
  let inputs := s.inputs.filter fun i => i.1.2 == name
  set { s with
    outputs := s.outputs.filter fun o => o.name != name
    inputs := s.inputs.filter fun i => i.1.2 != name }
  if outputs.any fun o => o.child.isSome then flushMain
  let codes ← outputs.mapM closeOutput
  let more ← inputs.mapM fun i => closeInput i.2
  pure ((codes ++ more).getLastD (-1))

/-- Ends all output. Commands are waited for before the main output is written. -/
def finish : Work Unit := do
  let outputs := (← get).outputs
  modify fun s => { s with outputs := [] }
  for o in outputs do
    discard (closeOutput o)
  flushMain

def system (command : String) : Work Int := do
  flushAll
  pure (endingCode (← ask (c.system (← ownDescriptors) command)))

/-- Writes all that was put aside for a name, if there is something of that name. -/
def flush (name : String) : Work Int := do
  if name = "/dev/stdout" then
    flushMain
    pure 0
  else if (← get).outputs.any fun o => o.name == name then
    flushAll
    pure 0
  else pure (-1)

/-! ## Input -/

/-- The input of this name, which is opened if need be. -/
def openInput (isCommand : Bool) (name : String) : Work (Option Input) := do
  match (← get).inputs.lookup (isCommand, name) with
  | some i => pure (some i)
  | none =>
    if isCommand then do
      flushAll
      let (fd, child) ← ask (c.readFrom (← ownDescriptors) name)
      pure (some { fd := fd, child := some child })
    else if name = "-" || name = "/dev/stdin" then pure (some { fd := 0 })
    else
      match ← ask (Program.openPath name { read := true }) with
      | .ok fd => pure (some { fd := fd })
      | .error _ => pure none

/-- The next record of an input. -/
def take (i : Input) : Work (Option String × Input) := do
  match ← ask (i.next (← get).boundary Program.plenty) with
  | (.ok r, i) => pure (r, i)
  | (.error e, _) => throw (.fault ("read error (" ++ e.reason ++ ")") false)

/-- The next record of a file or command, or nothing at its end. Fails if there is no such file. -/
def recordFrom (isCommand : Bool) (name : String) : Work (Option (Option String)) := do
  match ← openInput c isCommand name with
  | none => pure none
  | some i => do
    let (r, i) ← take i
    let key := (isCommand, name)
    modify fun s => { s with inputs := (key, i) :: s.inputs.filter fun other => other.1 != key }
    pure (some r)

/-- The name and the value that an argument gives, if it does. -/
def assignment? (text : String) : Option (String × String) :=
  match splitAssignment text with
  | (name, some value) =>
    let isName := match name.toList with
      | c :: cs => Token.isNameChar c && !c.isDigit && cs.all Token.isNameChar
      | [] => false
    if isName then some (name, value) else none
  | _ => none

/-- Gives a variable the value that stands in an argument. -/
def assignText (name value : String) : Work Unit :=
  write (.global name) (.given (Token.plainText value))

/-- Opens a file that is named in the arguments. -/
def openMain (name : String) : Work Unit := do
  putVariable "FILENAME" (.given name)
  putVariable "FNR" (.number 0)
  let fd ← if name = "-" || name = "/dev/stdin" then pure 0 else do
    match ← ask (Program.openPath name { read := true }) with
    | .ok fd => pure fd
    | .error e => throw (.fault ("cannot open \x22" ++ name ++ "\x22 (" ++ e.reason ++ ")") false)
  modify fun s => { s with main := some { fd := fd }, hasRead := true }

/-- Opens the next file. Tells whether there is one. -/
def advance (fuel : Nat) : Work Bool :=
  match fuel with
  | 0 => pure false
  | fuel + 1 => do
    let s ← get
    let count := toInt (← variable' "ARGC").toNumber
    if (s.argument : Int) < count then
      set { s with argument := s.argument + 1 }
      let n ← tableOf (.global "ARGV")
      let known ← changeTable n fun t =>
        let (isThere, t) := t.use (.number s.argument) false
        (if isThere then t.get (.number s.argument) else .missing, t)
      let name ← textOf (known.getD .missing)
      if name.isEmpty then advance fuel
      else match assignment? name with
        | some (name, value) => do
          assignText name value
          advance fuel
        | none => do
          openMain name
          pure true
    else if s.hasRead then pure false
    else do
      openMain "-"
      pure true

/-- Gives the file up that is read. -/
def leaveFile : Work Unit := do
  match (← get).main with
  | some i => if i.fd != 0 then ask (Program.close i.fd)
  | none => pure ()
  modify fun s => { s with main := none }

/-- The next record of the files in the arguments. -/
def nextRecord (fuel : Nat) : Work (Option String) :=
  match fuel with
  | 0 => pure none
  | fuel + 1 => do
    let s ← get
    if s.isOver then pure none
    else match s.main with
      | none => do
        if ← advance Program.plenty then nextRecord fuel
        else
          modify fun s => { s with isOver := true }
          pure none
      | some i => do
        let (r, i) ← take i
        modify fun s => { s with main := some i }
        match r with
        | some r => pure (some r)
        | none => do
          leaveFile
          nextRecord fuel

/-- Counts a record. -/
def countRecord : Work Unit := do
  let add (name : String) : Work Unit := do
    putVariable name (.number ((← variable' name).toNumber + 1))
  add "NR"
  add "FNR"

end Work

end HostFleet.Utility.Records

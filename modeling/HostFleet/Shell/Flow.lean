import HostFleet.Machine.Program
import HostFleet.Shell.Arithmetic
import HostFleet.Shell.State

/-!
# Flow of control

An `Act` is a piece of a running shell: it changes the state of the shell, asks things of the
kernel, and gives a value, unless the flow of control leaves it: at the end of the shell, of a
function or of a loop, or at an error.
-/

namespace HostFleet.Shell

open Machine

inductive Flow where
  | exit (code : Nat)
  /-- An error that ends the shell with this status, unless a built-in command may fail. -/
  | fault (code : Nat)
  /-- Ends the running function. -/
  | back (code : Nat)
  /-- Ends this many of the running loops. -/
  | leave (levels : Nat)
  /-- Ends all but the outermost of this many running loops, and goes on with that one. -/
  | again (levels : Nat)
  deriving DecidableEq, Repr

def Act (α : Type) : Type := State → (Except Flow α → State → Proc) → Proc

namespace Act

instance : Monad Act where
  pure a := fun s next => next (.ok a) s
  bind x f := fun s next => x s fun r s => match r with
    | .ok a => f a s next
    | .error flow => next (.error flow) s

def leave {α : Type} (flow : Flow) : Act α := fun s next => next (.error flow) s

/-- What a program does is part of the shell. -/
def ofProgram {α : Type} (p : Program α) : Act α := fun s next => p fun a => next (.ok a) s

instance : MonadLift Program Act := ⟨ofProgram⟩

def state : Act State := fun s next => next (.ok s) s

def update (change : State → State) : Act Unit := fun s next => next (.ok ()) (change s)

/-- Carries an act out and tells how it left. -/
def attempt {α : Type} (a : Act α) : Act (Except Flow α) := fun s next =>
  a s fun r s => next (.ok r) s

/-- Goes on where an attempt left. -/
def resume {α : Type} : Except Flow α → Act α
  | .ok v => pure v
  | .error f => leave f

def status : Act Nat := do pure (← state).status

def setStatus (n : Nat) : Act Unit := update ({ · with status := n })

/-- Writes to a descriptor. Output that nothing takes is noted. -/
def print (fd : Nat) (text : String) : Act Unit := do
  if text.isEmpty then pure ()
  else match ← Program.write fd text with
    | .ok () => pure ()
    | .error e => if fd = 1 then update ({ · with refusal := some e }) else pure ()

def complain (message : String) : Act Unit := do
  print 2 ((← state).label ++ message ++ "\n")

/-- An error with a status. It ends the shell, unless a built-in command may fail that way. -/
def failWith {α : Type} (code : Nat) (message : String) : Act α := do
  complain message
  leave (.fault code)

/-- An error with the usual status of the dialect. -/
def fail {α : Type} (message : String) : Act α := do
  failWith (if (← state).isLarge then 1 else 2) message

/-- A message and the status that goes with it. -/
def refuse (message : String) (code : Nat) : Act Unit := do
  complain message
  setStatus code

/-- The value of a variable in the form the variable has. -/
def formed (s : State) (name value : String) : String :=
  match s.forms[name]? with
  | some 'l' => String.ofList (value.toList.map Char.toLower)
  | some 'u' => String.ofList (value.toList.map Char.toUpper)
  | _ => value

/-- Refuses to change a variable that keeps its value. -/
def guard (name : String) : Act Unit := do
  let s ← state
  if s.frozen.contains name then
    fail (name ++ if s.isLarge then ": readonly variable" else ": is read only")
  else pure ()

/-- Gives a variable a value. -/
def assign (name value : String) : Act Unit := do
  let s ← state
  let name := s.resolve name
  guard name
  update (State.setVariable · name (formed s name value))

/-! ## Arithmetic and arrays -/

/-- The variables as arithmetic sees them. -/
def numbers (s : State) : NameMap String :=
  let vars := if s.isLarge then (s.vars.insert "LINENO" (toString s.line)).insert "RANDOM"
    (toString (s.seed / 65536 % 32768)) else s.vars
  s.arrays.foldl (fun vars name a =>
    a.items.foldl (fun vars item =>
      vars.insert (if item.1 == "0" then name else name ++ "[" ++ item.1 ++ "]") item.2) vars) vars

/-- Gives a value to a variable or to an item that is named with its number. -/
def assignNumbered (name value : String) : Act Unit := do
  let array := String.ofList (name.toList.takeWhile (· != '['))
  let key := String.ofList ((name.toList.drop (array.length + 1)).dropLast)
  if array = name then assign name value
  else do
    guard array
    update fun s =>
      let a := s.arrays[array]?.getD { items := (s.vars[array]?.map fun v => ("0", v)).toList }
      { s with arrays := s.arrays.insert array (a.insert key value) }

/-- The value of an arithmetic expression, which can change variables, or what is wrong. -/
def tryEvaluate (text : String) : Act (Except String Int) := do
  let s ← state
  let before := numbers s
  match Arithmetic.eval s.dialect before text with
  | .error message => pure (.error message)
  | .ok (n, after) => do
    for (name, value) in after.toList do
      if before[name]? != some value then assignNumbered name value
    if s.isLarge then update fun s => { s with seed := s.seed * 1103515245 % Nat.pow 2 31 + 12345 }
    pure (.ok n)

def evaluate (text : String) : Act Int := do
  match ← tryEvaluate text with
  | .ok n => pure n
  | .error message => fail message

/-- The key of an item: a number, unless the array has keys of any kind. -/
def keyOf (name key : String) : Act String := do
  let s ← state
  let array := s.arrays[name]?
  match array.map (·.isKeyed) with
  | some true => pure key
  | _ => do
    let n ← evaluate key
    if 0 ≤ n then pure (toString n)
    else
      let n := ((array.map (·.next)).getD 0 : Int) + n
      if n < 0 then fail (name ++ "[" ++ key ++ "]: bad array subscript") else pure (toString n)

/-- Changes an array. A variable with one value becomes one first. -/
def changeArray (name : String) (change : ArrayValue → ArrayValue) : Act Unit := do
  let name := (← state).resolve name
  guard name
  update fun s =>
    let a := s.arrays[name]?.getD { items := (s.vars[name]?.map fun v => ("0", v)).toList }
    { s with arrays := s.arrays.insert name (change a), vars := s.vars.erase name }

/-- The value of a variable after an assignment, which may add to what it was. -/
def assigned (name : String) (old : Option String) (adds : Bool) (value : String) :
    Act String := do
  let s ← state
  match s.forms[name]? with
  | some 'i' => do
    let n ← evaluate value
    let before ← if adds then evaluate (old.getD "") else pure 0
    pure (toString (before + n))
  | _ => pure (formed s name (if adds then old.getD "" ++ value else value))

/-- Carries out an assignment to a variable. -/
def assignText (name : String) (adds : Bool) (value : String) : Act Unit := do
  let s ← state
  let name := s.resolve name
  assign name (← assigned name (s.stored? name) adds value)

/-- Carries out an assignment to an item of an array. -/
def assignItem (name key : String) (adds : Bool) (value : String) : Act Unit := do
  let name := (← state).resolve name
  let key ← keyOf name key
  let s ← state
  let old := match s.arrays[name]? with
    | some a => a.get? key
    | none => if key = "0" then s.vars[name]? else none
  let value ← assigned name old adds value
  changeArray name (·.insert key value)

/-- Gives an array its items; those without a key come after the one before. -/
def assignItems (name : String) (adds : Bool) (items : List (Option String × String)) :
    Act Unit := do
  if !adds then changeArray name fun a => { a with items := [] }
  else changeArray name id
  for (key, value) in items do
    match key with
    | some key => assignItem name key false value
    | none => changeArray name fun a => a.insert (toString a.next) value

/-- The descriptors of the process. -/
def descriptors : Act Descriptors := Program.look fun pid k => k.descriptors pid

def setDescriptors (ds : Descriptors) : Act Unit :=
  Program.change fun pid k => k.setDescriptors pid ds

/-- Leaves the descriptors as they were. -/
def keepingDescriptors {α : Type} (a : Act α) : Act α := do
  Program.change fun pid k => k.changeProcess pid fun p =>
    { p with held := p.descriptors :: p.held }
  let result ← attempt a
  Program.change fun pid k => k.changeProcess pid fun p =>
    match p.held with
    | ds :: held => { p with descriptors := ds, held := held }
    | [] => p
  resume result

/-- Lets go of the descriptors that would come back, so that the present ones stay. -/
def adoptDescriptors : Act Unit :=
  Program.change fun pid k => k.changeProcess pid fun p =>
    match p.held with
    | _ :: held => { p with held := p.descriptors :: held }
    | [] => p

/-- How a loop goes on after its body was left. -/
inductive Turn where
  | next
  | stop

/-- What leaving the body of a loop means for the loop. -/
def turn : Except Flow Unit → Act Turn
  | .ok () => pure .next
  | .error (.leave n) => if n ≤ 1 then pure .stop else leave (.leave (n - 1))
  | .error (.again n) => if n ≤ 1 then pure .next else leave (.again (n - 1))
  | .error f => leave f

/-- The status a shell ends with, whichever way it ends. -/
def ending : Except Flow Unit → Act Nat
  | .ok () => status
  | .error (.exit code) => pure code
  | .error (.fault code) => pure code
  | .error (.back code) => pure code
  | .error (.leave _) => pure 0
  | .error (.again _) => pure 0

end Act

end HostFleet.Shell

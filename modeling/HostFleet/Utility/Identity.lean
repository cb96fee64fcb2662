import HostFleet.Utility.Options

/-!
# Users and machines

`id`, `whoami`, `groups` and `getent` tell what the lists of users and groups say; `uname`, `arch`,
`hostname`, `nproc`, `tty` and others tell what the machine is.
-/

namespace HostFleet.Utility

open Machine

/-- An entry of the list of users. -/
structure User where
  name : String
  id : Nat
  group : Nat

/-- An entry of the list of groups. -/
structure Group where
  name : String
  id : Nat
  members : List String

namespace User

def ofLine? (line : String) : Option User :=
  match line.splitOn ":" with
  | name :: _ :: id :: group :: _ => do some ⟨name, ← natural? id, ← natural? group⟩
  | _ => none

/-- The users of the machine. -/
def all : Program (List User) := do
  match ← Program.readFile "/etc/passwd" with
  | .ok text => pure ((text.splitOn "\n").filterMap ofLine?)
  | .error _ => pure []

end User

namespace Group

def ofLine? (line : String) : Option Group :=
  match line.splitOn ":" with
  | name :: _ :: id :: members :: _ => do
    some ⟨name, ← natural? id, (members.splitOn ",").filter (!·.isEmpty)⟩
  | _ => none

def all : Program (List Group) := do
  match ← Program.readFile "/etc/group" with
  | .ok text => pure ((text.splitOn "\n").filterMap ofLine?)
  | .error _ => pure []

/-- The groups of a user: its own, then those that list it. -/
def ofUser (groups : List Group) (u : User) : List Nat :=
  (u.group :: (groups.filter fun g => g.members.contains u.name).map (·.id)).eraseDups

end Group

/-- The user that the programs run as. -/
def superuser : User := ⟨"root", 0, 0⟩

/-- What one is known under, and that in parentheses if there is a name for it. -/
def withName (n : Nat) (name : Option String) : String :=
  toString n ++ match name with
    | some name => "(" ++ name ++ ")"
    | none => ""

def identityOptions : Options where
  short := "aGgnruzZ"
  long := [("context", .none, "Z"), ("group", .none, "g"), ("groups", .none, "G"),
    ("name", .none, "n"), ("real", .none, "r"), ("user", .none, "u"), ("zero", .none, "z")]

def identity : Utility := fun c => do
  let p ← identityOptions.of c 1
  let kinds := ["G", "g", "u"].filter p.has
  if p.has "Z" then c.fail "--context (-Z) works only on an SELinux-enabled kernel" 1
  if 1 < kinds.length then c.fail "cannot print \x22only\x22 of more than one choice" 1
  if kinds.isEmpty && (p.has "n" || p.has "r") then
    c.fail "cannot print only names or real IDs in default format" 1
  if kinds.isEmpty && p.has "z" then c.fail "option --zero not permitted in default format" 1
  let users ← User.all
  let groups ← Group.all
  let groupName (n : Nat) : Option String := (groups.find? (·.id = n)).map (·.name)
  let show' (u : User) : String :=
    let short (name : Option String) (n : Nat) : String :=
      if p.has "n" then name.getD (toString n) else toString n
    match kinds with
    | "u" :: _ => short (some u.name) u.id
    | "g" :: _ => short (groupName u.group) u.group
    | "G" :: _ =>
      (if p.has "z" then "\x00" else " ").intercalate
        ((Group.ofUser groups u).map fun n => short (groupName n) n)
    | _ => "uid=" ++ withName u.id (some u.name) ++ " gid=" ++ withName u.group (groupName u.group)
      ++ " groups=" ++ ",".intercalate
        ((Group.ofUser groups u).map fun n => withName n (groupName n))
  let stop := if !p.has "z" then "\n"
    else if p.has "G" && 1 < p.operands.length then "\x00\x00" else "\x00"
  if p.operands.isEmpty then do
    c.put (show' ((users.find? (·.id = 0)).getD superuser) ++ stop)
    pure 0
  else
    let mut fine := true
    for name in p.operands do
      let number := natural? (if name.startsWith "+" then dropFront 1 name else name)
      match users.find? fun u => u.name = name || some u.id == number with
      | some u => c.put (show' u ++ stop)
      | none => do
        c.warn (inQuotes name ++ ": no such user")
        fine := false
    pure (if fine then 0 else 1)

/-- Refuses operands. -/
def noOperands (c : Call) (p : Parsed) (code : Nat) : Program Unit :=
  match p.operands with
  | [] => pure ()
  | extra :: _ => c.misuse ("extra operand " ++ inQuotes extra) code

/-- A program that writes one line and takes no operands. -/
def sayOnly (line : Program String) : Utility := fun c => do
  noOperands c (← ({ short := "" } : Options).of c 1) 1
  c.put ((← line) ++ "\n")
  pure 0

def whoami : Utility := sayOnly do
  pure ((((← User.all).find? (·.id = 0)).getD superuser).name)

def logname : Utility := fun c => do
  noOperands c (← ({ short := "" } : Options).of c 1) 1
  c.fail "no login name" 1

def groupNames : Utility := fun c => do
  let p ← ({ short := "" } : Options).of c 1
  let users ← User.all
  let groups ← Group.all
  let names (u : User) : String := " ".intercalate ((Group.ofUser groups u).map fun n =>
    ((groups.find? (·.id = n)).map (·.name)).getD (toString n))
  if p.operands.isEmpty then do
    c.put (names superuser ++ "\n")
    pure 0
  else
    let mut fine := true
    for name in p.operands do
      match users.find? (·.name = name) with
      | some u => c.put (name ++ " : " ++ names u ++ "\n")
      | none => do
        c.warn (inQuotes name ++ ": no such user")
        fine := false
    pure (if fine then 0 else 1)

/-- A list of those who are logged in: nobody is. -/
def nobody : Utility := fun c => do
  discard (({ short := "abdHilmpqrsTtuw" } : Options).of c 1)
  pure 0

def tty : Utility := fun c => do
  let o : Options := { short := "s", long := [("silent", .none, "s"), ("quiet", .none, "s")] }
  let p ← o.of c 2
  noOperands c p 2
  if !p.has "s" then c.put "not a tty\n"
  pure 1

/-! ## The machine -/

def hostName : Program String := do
  match ← Program.readFile "/etc/hostname" with
  | .ok text => pure (String.ofList (text.toList.takeWhile (· != '\n')))
  | .error _ => pure "localhost"

/-- What `uname` can tell: letter, long name, and the text. -/
def machineFacts (name : String) : List (String × String × String) :=
  [("s", "kernel-name", "Linux"), ("n", "nodename", name), ("r", "kernel-release", "6.1.0"),
    ("v", "kernel-version", "#1 SMP PREEMPT_DYNAMIC"), ("m", "machine", "x86_64"),
    ("p", "processor", "unknown"), ("i", "hardware-platform", "unknown"),
    ("o", "operating-system", "GNU/Linux")]

def uname : Utility := fun c => do
  let facts := machineFacts (← hostName)
  let o : Options :=
    { short := "asnrvmpio"
      long := ("all", .none, "a") :: ("sysname", .none, "s") :: ("release", .none, "r")
        :: facts.map fun (f : String × String × String) => (f.2.1, Arity.none, f.1) }
  let p ← o.of c 1
  noOperands c p 1
  let wanted := if p.has "a" then facts.filter (·.2.2 != "unknown")
    else if p.options.isEmpty then facts.take 1
    else facts.filter fun f => p.has f.1
  c.put (" ".intercalate (wanted.map (·.2.2)) ++ "\n")
  pure 0

def arch : Utility := sayOnly (pure "x86_64")

def hostid : Utility := sayOnly (pure "007f0100")

def hostname : Utility := fun c => do
  let p ← ({ short := "aAbdfFiIsy", long := [("short", .none, "s"), ("fqdn", .none, "f")] } :
    Options).of c 4
  match p.operands with
  | [] => do
    let name ← hostName
    c.put ((if p.has "s" then (cutAt (· = '.') name).1 else if p.has "d" then "" else name) ++ "\n")
    pure 0
  | _ => c.fail "you must be root to change the host name" 1

def nproc : Utility := fun c => do
  let o : Options :=
    { short := "", long := [("all", .none, "all"), ("ignore", .required, "ignore")] }
  let p ← o.of c 1
  noOperands c p 1
  match (p.value? "ignore").map natural? with
  | some none => c.fail ("invalid number: " ++ inQuotes ((p.value? "ignore").getD "")) 1
  | _ => do
    c.put "1\n"
    pure 0

def sync : Utility := fun c => do
  let o : Options :=
    { short := "df", long := [("data", .none, "d"), ("file-system", .none, "f")] }
  let p ← o.of c 1
  if p.has "d" && p.operands.isEmpty then c.fail "--data needs at least one argument" 1
  let mut fine := true
  for name in p.operands do
    match ← Program.openPath name { read := true } with
    | .ok fd => Program.close fd
    | .error e => do
      c.warn ("error opening " ++ inQuotes name ++ ": " ++ e.reason)
      fine := false
  pure (if fine then 0 else 1)

/-- Looks up entries of the lists of the system. -/
def getent : Utility := fun c => do
  let hint := "Try \x60" ++ c.name ++ " --help' or \x60" ++ c.name
    ++ " --usage' for more information."
  match c.args with
  | [] => do
    c.warn ("wrong number of arguments\n" ++ hint)
    pure 1
  | base :: keys =>
    match [("passwd", "/etc/passwd"), ("group", "/etc/group"), ("hosts", "/etc/hosts")].lookup
      base with
    | none => do
      Program.tell 2 ("Unknown database: " ++ base ++ "\n" ++ hint ++ "\n")
      pure 1
    | some path => do
      let text := match ← Program.readFile path with
        | .ok text => text
        | .error _ => ""
      let lines := (text.splitOn "\n").filter (!·.isEmpty)
      let shown (line : String) : String :=
        if base != "hosts" then line ++ "\n"
        else match line.splitOn "\t" with
          | address :: names => padRight 16 address ++ " ".intercalate names ++ "\n"
          | [] => ""
      if keys.isEmpty then do
        c.put (String.join (lines.map shown))
        pure 0
      else
        let mut fine := true
        for key in keys do
          let isAbout (line : String) : Bool :=
            if base = "hosts" then (line.splitOn "\t").contains key
            else match line.splitOn ":" with
              | name :: _ :: number :: _ => name = key || number = key
              | _ => false
          match lines.find? isAbout with
          | some line => c.put (shown line)
          | none => fine := false
        pure (if fine then 0 else 2)

end HostFleet.Utility

import HostFleet.CommandLine.Help
import HostFleet.Description
import HostFleet.Inventory.Loader
import HostFleet.Settings
import HostFleet.Transport.Carry

/-!
# The program

From the arguments of the command line to the exit code: finding the settings, bringing the
inventory up, and answering the request. Everything the program finds around it is a value, and
so is everything it leaves behind.
-/

namespace HostFleet.CommandLine

/-- What the program finds around it. -/
structure Surroundings where
  person : Person
  /-- The variable that names a settings file. -/
  settingsVariable : Option String
  machine : LocalMachine
  reply : ServiceReply
  now : Instant

/-- Why a request could not be answered. -/
inductive Failure where
  | settings (e : SettingsError)
  | query (e : QueryError)
  /-- A single host was wanted. -/
  | notOne (selected : Nat)
  | ssh (e : ExecFault)
  deriving DecidableEq, Repr

/-- The message and what caused it. -/
def Failure.chain : Failure → List String
  | .settings e => e.chain
  | .query e => [e.text]
  | .notOne n => [s!"expression must select exactly one host, got {n}"]
  | .ssh e => ["invalid ssh configuration", e.text]

/-- What is told to the user besides the answer. -/
inductive Message where
  | notice (n : Notice)
  | nothingSelected
  | failure (f : Failure)
  deriving DecidableEq, Repr

def Message.lines : Message → List String
  | .notice n => [n.text]
  | .nothingSelected => ["Empty hostlist"]
  | .failure f => f.chain

/-- What the program leaves behind. -/
structure Answer where
  code : Nat
  output : Bytes := []
  messages : List Message := []
  /-- Changes to files. -/
  steps : List FileStep := []

namespace Answer

def failed (f : Failure) : Answer := { code := 1, messages := [.failure f] }

def printed (text : String) : Answer := { code := 0, output := Utf8.encode text }

/-- The exit code of arguments that make no sense. -/
def usageCode : Nat := 2

/-- The exit code after a run that could not be set up. -/
def abortCode : Nat := 101

end Answer

namespace Surroundings

/-- Where settings are looked for if no file is named. -/
def usualSettings (s : Surroundings) : List String :=
  ["fleetx.toml", Path.join s.person.home ".config/fleetx/fleetx.toml"]

/-- The settings file to use: one that was asked for, or the one in the variable, or the first
that exists. -/
def settingsPath? (s : Surroundings) (asked : Option String) : Option String :=
  (asked.or s.settingsVariable).or (s.usualSettings.find? s.machine.files.holds)

def settings (s : Surroundings) (asked : Option String) : Except SettingsError Settings :=
  match s.settingsPath? asked with
  | none => .ok (.defaults s.person)
  | some path => Settings.decode s.person path (s.machine.files.read path)

end Surroundings

/-- The names that an expression selects for a run. None at all is told, and is no failure. -/
def selectHosts (store : Store) (expr : String) : Except Answer (List String) :=
  match store.resolveNonempty expr with
  | .ok hosts => .ok hosts
  | .error .emptyHostList => .error { code := 1, messages := [.nothingSelected] }
  | .error e => .error (.failed (.query e))

/-- The transport that the settings choose. -/
def transport (s : MainSettings) : Except Failure Transport :=
  match s.carrier with
  | .ssh => ((Ssh.build none s.sshOptions).map Transport.ssh).mapError Failure.ssh
  | .here => .ok .here

/-- Runs a command on hosts. The code tells whether it succeeded on all of them. -/
def runOn (machine : LocalMachine) (t : Transport) (settings : RunSettings) (hosts : List String)
    (command : String) : Answer :=
  match Run.run settings (t.executor machine) hosts command with
  | .ok r =>
    { code := if r.report.counters.error = 0 then 0 else 1, output := r.writes.flatten }
  | .error .emptyHostList => .failed (.query .emptyHostList)
  | .error _ => { code := Answer.abortCode }

def hostlist (store : Store) (expr : String) : Answer :=
  match store.resolve expr with
  | .error e => .failed (.query (.selector e))
  | .ok names =>
    .printed (if names.isEmpty then "Empty list\n"
      else String.join (names.toList.map (· ++ "\n")))

def describe (store : Store) (expr : String) : Answer :=
  match store.resolveNonempty expr with
  | .error e => .failed (.query e)
  | .ok [host] =>
    match store.describe host with
    | .ok d => .printed d.text
    | .error e => .failed (.query e)
  | .ok hosts => .failed (.notOne hosts.length)

/-- Runs a command on the selected hosts. Options win over settings. -/
def exec (machine : LocalMachine) (main : MainSettings) (store : Store) (mode : Option Mode)
    (user : Option String) (threads : Option Nat) (expr : String) (words : List String) : Answer :=
  match selectHosts store expr with
  | .error a => a
  | .ok hosts =>
    match transport main with
    | .error f => .failed f
    | .ok t =>
      let settings : RunSettings :=
        ⟨mode.getD main.mode, threads.getD main.sshThreads, user.getD main.user⟩
      runOn machine t settings hosts (" ".intercalate words)

def ping (machine : LocalMachine) (main : MainSettings) (store : Store) (expr : String)
    (count : Option Nat) : Answer :=
  match selectHosts store expr with
  | .error a => a
  | .ok hosts =>
    runOn machine (.ping ⟨"ping", count.getD main.pingCount⟩)
      ⟨.parallel, main.sshThreads, main.user⟩ hosts "ping"

/-- An answer that is given once the inventory is up. -/
def Answer.after (a : Answer) (f : Inventory.Fetch) (now : Instant) : Answer :=
  { a with
    messages := f.notices.map .notice ++ a.messages
    steps := f.steps now ++ a.steps }

/-- Answers a request under settings. -/
def answer (s : Surroundings) (settings : Settings) (command : Command) : Answer :=
  let inventory := Inventory.new settings.inventory
  let read := s.machine.files.read
  let opened := (inventory.start read s.reply s.now).1
  let withStore (a : Store → Answer) : Answer := (a opened.inventory.store).after opened s.now
  match command with
  | .reload =>
    let f := inventory.reload read s.reply s.now
    Answer.after { code := if f.outcome = .fetched then 0 else 1 } f s.now
  | .hostlist expr => withStore fun store => hostlist store expr
  | .describe expr => withStore fun store => describe store expr
  | .exec mode user threads expr words =>
    withStore fun store => exec s.machine settings.main store mode user threads expr words
  | .ping expr count => withStore fun store => ping s.machine settings.main store expr count

/-- The settings with the cache left aside. -/
def droppingCache (s : Settings) : Settings :=
  { s with inventory := { s.inventory with dropCache := true } }

/-- Runs the program. -/
def run (s : Surroundings) (args : List String) : Answer :=
  match Request.ofArgs args with
  | .error .usage => { code := Answer.usageCode }
  | .error (.help name) => .printed (Help.page name).text
  | .error .version => .printed Help.version
  | .ok request =>
    match s.settings request.settings with
    | .error e => .failed (.settings e)
    | .ok settings =>
      answer s (if request.dropCache then droppingCache settings else settings) request.command

end HostFleet.CommandLine

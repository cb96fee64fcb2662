import HostFleet.CommandLine.Request

/-!
# Help

The pages on the program and its commands.
-/

namespace HostFleet.CommandLine.Help

/-- The left and the right side of a line in a table. -/
abbrev Entry := String × String

/-- A page has a title, a line on usage, and tables with headings. -/
structure Page where
  title : String
  usage : String
  tables : List (String × List Entry)

/-- A table with the right sides below each other. -/
def table (heading : String) (entries : List Entry) : String :=
  let width := (entries.map fun e => e.1.length).foldl max 0
  let line (e : Entry) : String :=
    "  " ++ e.1.pushn ' ' (width - e.1.length) ++ "  " ++ e.2 ++ "\n"
  heading ++ ":\n" ++ String.join (entries.map line)

def Page.text (p : Page) : String :=
  "\n".intercalate
    ([p.title ++ "\n", "Usage: " ++ p.usage ++ "\n"] ++ p.tables.map fun t => table t.1 t.2)

def configEntry : Entry :=
  ("    --config <CONFIG>",
    "Config file (default: $FLEETX_CONFIG, ./fleetx.toml, ~/.config/fleetx/fleetx.toml)")

def dropCacheEntry : Entry :=
  ("    --drop-cache", "Ignore the inventory cache and fetch fresh data")

def helpEntry : Entry := ("-h, --help", "Print help")

/-- The tables of a command that has the common options only. -/
def usualTables (arguments : List Entry) : List (String × List Entry) :=
  (if arguments.isEmpty then [] else [("Arguments", arguments)]) ++
    [("Options", [configEntry, dropCacheEntry, helpEntry])]

def titles : List (String × String) :=
  [("hostlist", "Print the hosts an expression selects"),
    ("exec", "Run a command on the selected hosts"),
    ("ping", "Ping the selected hosts in parallel"),
    ("describe", "Show inventory metadata of a single host"),
    ("reload", "Fetch fresh inventory data and rewrite the cache"),
    ("help", "Print this message or the help of the given subcommand(s)")]

def title (name : String) : String := (titles.lookup name).getD ""

/-- The page on a command, or on the program. -/
def page : Option String → Page
  | some "hostlist" =>
    ⟨title "hostlist", "fleetx hostlist [OPTIONS] <EXPR>", usualTables [("<EXPR>", "")]⟩
  | some "exec" =>
    ⟨title "exec", "fleetx exec [OPTIONS] <EXPR> <CMD>...",
      [("Arguments", [("<EXPR>", ""), ("<CMD>...", "")]),
        ("Options", [configEntry, ("    --mode <MODE>", "serial, parallel or collapse"),
          dropCacheEntry, ("-u, --user <USER>", "Remote user"),
          ("-t, --threads <THREADS>", "Hosts executing at once"), helpEntry])]⟩
  | some "ping" =>
    ⟨title "ping", "fleetx ping [OPTIONS] <EXPR> [COUNT]",
      usualTables [("<EXPR>", ""),
        ("[COUNT]", "Echo requests per host; 0 pings until interrupted")]⟩
  | some "describe" =>
    ⟨title "describe", "fleetx describe [OPTIONS] <EXPR>", usualTables [("<EXPR>", "")]⟩
  | some "reload" => ⟨title "reload", "fleetx reload [OPTIONS]", usualTables []⟩
  | some "help" =>
    ⟨title "help", "fleetx help [COMMAND]...",
      [("Arguments", [("[COMMAND]...", "Print help for the subcommand(s)")])]⟩
  | _ =>
    ⟨"Run commands across inventory-selected hosts", "fleetx [OPTIONS] <COMMAND>",
      [("Commands", titles),
        ("Options", [configEntry, dropCacheEntry, helpEntry,
          ("-V, --version", "Print version")])]⟩

def version : String := "fleetx 0.1.0\n"

end HostFleet.CommandLine.Help

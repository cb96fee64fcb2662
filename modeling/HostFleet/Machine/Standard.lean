import HostFleet.Machine.Executable
import HostFleet.Utility.Catalog

/-!
# The usual files

The folders, links, devices, programs and lists that stand on every machine.
-/

namespace HostFleet.Machine

def usualFolders : List String :=
  ["/boot", "/dev", "/dev/fd", "/dev/shm", "/etc", "/etc/alternatives", "/home", "/media", "/mnt",
    "/opt", "/proc", "/root", "/run", "/srv", "/sys", "/tmp", "/usr", "/usr/bin", "/usr/lib",
    "/usr/local", "/usr/local/bin", "/usr/sbin", "/usr/share", "/var", "/var/lib", "/var/log",
    "/var/tmp"]

def usualLinks : List (String × String) :=
  [("/bin", "usr/bin"), ("/sbin", "usr/sbin"), ("/lib", "usr/lib"), ("/var/run", "/run"),
    ("/usr/bin/sh", "dash"), ("/usr/bin/rbash", "bash"),
    ("/usr/bin/awk", "/etc/alternatives/awk"), ("/etc/alternatives/awk", "/usr/bin/mawk")]

def usualDevices : List (String × Device) :=
  [("/dev/null", .null), ("/dev/zero", .zeros), ("/dev/full", .full), ("/dev/random", .random),
    ("/dev/urandom", .random), ("/dev/tty", .terminal), ("/dev/stdin", .descriptor 0),
    ("/dev/stdout", .descriptor 1), ("/dev/stderr", .descriptor 2)]
    ++ (List.range 64).map fun n => ("/dev/fd/" ++ toString n, .descriptor n)

/-- The list of users. -/
def users : String :=
  String.join (([("root", 0, "root", "/root", "/bin/bash"),
    ("daemon", 1, "daemon", "/usr/sbin", "/usr/sbin/nologin"),
    ("bin", 2, "bin", "/bin", "/usr/sbin/nologin"),
    ("sys", 3, "sys", "/dev", "/usr/sbin/nologin"),
    ("sync", 4, "sync", "/bin", "/bin/sync"),
    ("games", 5, "games", "/usr/games", "/usr/sbin/nologin"),
    ("man", 6, "man", "/var/cache/man", "/usr/sbin/nologin"),
    ("lp", 7, "lp", "/var/spool/lpd", "/usr/sbin/nologin"),
    ("mail", 8, "mail", "/var/mail", "/usr/sbin/nologin"),
    ("news", 9, "news", "/var/spool/news", "/usr/sbin/nologin"),
    ("uucp", 10, "uucp", "/var/spool/uucp", "/usr/sbin/nologin"),
    ("proxy", 13, "proxy", "/bin", "/usr/sbin/nologin"),
    ("www-data", 33, "www-data", "/var/www", "/usr/sbin/nologin"),
    ("backup", 34, "backup", "/var/backups", "/usr/sbin/nologin"),
    ("list", 38, "Mailing List Manager", "/var/list", "/usr/sbin/nologin"),
    ("irc", 39, "ircd", "/run/ircd", "/usr/sbin/nologin"),
    ("_apt", 42, "", "/nonexistent", "/usr/sbin/nologin"),
    ("nobody", 65534, "nobody", "/nonexistent", "/usr/sbin/nologin")] :
      List (String × Nat × String × String × String)).map fun (name, id, title, home, shell) =>
    let group := if id = 4 || id = 42 then 65534 else if id = 5 then 60 else if id = 6 then 12
      else id
    s!"{name}:x:{id}:{group}:{title}:{home}:{shell}\n")

/-- The list of groups. -/
def groups : String :=
  String.join (([("root", 0), ("daemon", 1), ("bin", 2), ("sys", 3), ("adm", 4), ("tty", 5),
    ("disk", 6), ("lp", 7), ("mail", 8), ("news", 9), ("uucp", 10), ("man", 12), ("proxy", 13),
    ("kmem", 15), ("dialout", 20), ("fax", 21), ("voice", 22), ("cdrom", 24), ("floppy", 25),
    ("tape", 26), ("sudo", 27), ("audio", 29), ("dip", 30), ("www-data", 33), ("backup", 34),
    ("operator", 37), ("list", 38), ("irc", 39), ("src", 40), ("shadow", 42), ("utmp", 43),
    ("video", 44), ("sasl", 45), ("plugdev", 46), ("staff", 50), ("games", 60), ("users", 100),
    ("nogroup", 65534)] : List (String × Nat)).map fun (name, id) => s!"{name}:x:{id}:\n")

def usualFiles : List (String × String) :=
  [("/etc/passwd", users), ("/etc/group", groups), ("/etc/hostname", "localhost\n"),
    ("/etc/hosts", "127.0.0.1\tlocalhost\n"),
    ("/etc/shells", "# /etc/shells: valid login shells\n/bin/sh\n/usr/bin/sh\n/bin/bash\n"
      ++ "/usr/bin/bash\n/bin/rbash\n/usr/bin/rbash\n/usr/bin/dash\n"),
    ("/etc/resolv.conf", "nameserver 127.0.0.11\n"), ("/etc/fstab", "# UNCONFIGURED FSTAB\n"),
    ("/etc/profile", "# /etc/profile\n")]

/-- The names of the programs that are there. -/
def programNames : List String := ["dash", "bash"] ++ Utility.programs.map Prod.fst

/-- A tree with the usual folders, files and programs. -/
def usualTree : FileTree :=
  let t := usualFolders.foldl (fun (t : FileTree) path =>
    t.put (Path.parts path).reverse .folder) {}
  let t := usualFiles.foldl (fun (t : FileTree) (path, text) =>
    t.put (Path.parts path).reverse (.file (ByteText.toBytes text))) t
  programNames.foldl (fun (t : FileTree) name =>
    t.put [name, "bin", "usr"] (.file (programFile name))) t

/-- The files of a machine with this tree, on which the programs of the system and some other
files can be run. -/
def Files.ofTree (t : FileTree) (scripts : NameSet) : Files :=
  { tree := t
    links := Std.ExtTreeMap.ofList usualLinks
    devices := Std.ExtTreeMap.ofList usualDevices
    modes := Std.ExtTreeMap.ofList
      (programNames.map (fun name => ("/usr/bin/" ++ name, 0o755))
        ++ scripts.toList.map (fun path => (path, 0o755)) ++ [("/root", 0o700)]) }

end HostFleet.Machine

import HostFleet.Utility.Arranging
import HostFleet.Utility.Calendar
import HostFleet.Utility.CharMap
import HostFleet.Utility.Columns
import HostFleet.Utility.Comparison
import HostFleet.Utility.Concatenation
import HostFleet.Utility.Copying
import HostFleet.Utility.Digests
import HostFleet.Utility.Dump
import HostFleet.Utility.Editing
import HostFleet.Utility.Encoding
import HostFleet.Utility.Excerpt
import HostFleet.Utility.Expression
import HostFleet.Utility.Finding
import HostFleet.Utility.Folders
import HostFleet.Utility.Identity
import HostFleet.Utility.Listing
import HostFleet.Utility.Marking
import HostFleet.Utility.PathNames
import HostFleet.Utility.Printing
import HostFleet.Utility.Records
import HostFleet.Utility.Removal
import HostFleet.Utility.Repetition
import HostFleet.Utility.Running
import HostFleet.Utility.Search
import HostFleet.Utility.Sequence
import HostFleet.Utility.Sorting
import HostFleet.Utility.Splitting
import HostFleet.Utility.Tally
import HostFleet.Utility.Transfer

/-!
# The utilities by name
-/

namespace HostFleet.Utility

open Machine

def succeed : Utility := fun _ => pure 0

def refuse : Utility := fun _ => pure 1

/-- The programs of the system, besides the shells. -/
def programs : List (String × Utility) :=
  [("true", succeed), ("false", refuse), ("cat", cat), ("tac", tac), ("rev", rev), ("nl", nl),
    ("tee", tee), ("head", head), ("tail", tail), ("wc", wc), ("sort", sort), ("uniq", uniq),
    ("comm", comm), ("join", join), ("cut", cut), ("paste", paste), ("fold", fold),
    ("expand", expand), ("unexpand", unexpand), ("tr", tr), ("seq", seq), ("yes", yes),
    ("factor", factor), ("expr", expr), ("echo", echo), ("printf", printf), ("test", test),
    ("[", bracket), ("pwd", pwd), ("env", env), ("printenv", printenv), ("sleep", sleep),
    ("timeout", timeout), ("nohup", nohup), ("nice", nice), ("setsid", setsid),
    ("stdbuf", stdbuf), ("xargs", xargs), ("kill", kill), ("which", which),
    ("grep", grep), ("egrep", egrep), ("fgrep", fgrep), ("sed", sed), ("awk", awk),
    ("mawk", awk), ("mkdir", mkdir), ("rmdir", rmdir), ("rm", rm),
    ("unlink", unlink), ("cp", cp), ("mv", mv), ("ln", ln), ("touch", touch), ("chmod", chmod),
    ("chown", chown), ("chgrp", chown), ("truncate", truncate), ("basename", basename),
    ("dirname", dirname), ("realpath", realpath), ("readlink", readlink), ("mktemp", mktemp),
    ("ls", ls), ("dir", dir), ("vdir", vdir), ("stat", stat), ("date", date),
    ("md5sum", digestSum "md5"), ("sha1sum", digestSum "sha1"), ("sha224sum", digestSum "sha224"),
    ("sha256sum", digestSum "sha256"), ("sha384sum", digestSum "sha384"),
    ("sha512sum", digestSum "sha512"), ("b2sum", digestSum "blake2b"), ("cksum", cksum),
    ("sum", sum), ("base64", base64), ("base32", base32), ("basenc", basenc), ("od", od),
    ("dd", dd), ("id", identity), ("whoami", whoami), ("logname", logname), ("groups", groupNames),
    ("users", nobody), ("who", nobody), ("tty", tty), ("uname", uname), ("arch", arch),
    ("hostid", hostid), ("hostname", hostname), ("nproc", nproc), ("sync", sync),
    ("getent", getent), ("cmp", cmp), ("diff", diff), ("find", find), ("split", split),
    ("tsort", tsort), ("shuf", shuf)]

def find? (name : String) : Option Utility := programs.lookup name

end HostFleet.Utility

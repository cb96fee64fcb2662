/-!
# Signals

The signals by number and name, what they do to a process that has made no provisions, and what
is said about a process that one has ended.
-/

namespace HostFleet.Machine

/-- The signals by name. -/
def signals : List (String × Nat) :=
  [("HUP", 1), ("INT", 2), ("QUIT", 3), ("ILL", 4), ("TRAP", 5), ("ABRT", 6), ("BUS", 7),
    ("FPE", 8), ("KILL", 9), ("USR1", 10), ("SEGV", 11), ("USR2", 12), ("PIPE", 13), ("ALRM", 14),
    ("TERM", 15), ("STKFLT", 16), ("CHLD", 17), ("CONT", 18), ("STOP", 19), ("TSTP", 20),
    ("TTIN", 21), ("TTOU", 22), ("URG", 23), ("XCPU", 24), ("XFSZ", 25), ("VTALRM", 26),
    ("PROF", 27), ("WINCH", 28), ("IO", 29), ("PWR", 30), ("SYS", 31)]

/-- The signals for real-time use, by name. -/
def realtimeSignals : List (String × Nat) :=
  ("RTMIN", 34) :: ("RTMAX", 64)
    :: ((List.range 15).map fun i => ("RTMIN+" ++ toString (i + 1), 35 + i))
    ++ ((List.range 14).map fun i => ("RTMAX-" ++ toString (14 - i), 50 + i))

/-- The number of the signal with this name. -/
def signalNumber? (name : String) : Option Nat := (signals ++ realtimeSignals).lookup name

/-- The name of a signal, or its number if it has none. -/
def signalName (n : Nat) : String :=
  match (signals ++ realtimeSignals).find? fun p => p.2 == n with
  | some p => p.1
  | none => toString n

/-- Whether a process goes on after this signal unless it has made provisions. -/
def isHarmless (signal : Nat) : Bool := [0, 17, 18, 23, 28].contains signal

/-- Whether a signal holds a process up until it is told to go on. -/
def isStopping (signal : Nat) : Bool := [19, 20, 21, 22].contains signal

/-- Whether a signal leaves a picture of the process it ends. -/
def leavesCore (signal : Nat) : Bool := [3, 4, 5, 6, 7, 8, 11, 24, 25, 31].contains signal

/-- What a signal is called in a message. -/
def signalText (signal : Nat) : String :=
  let texts := ["Hangup", "Interrupt", "Quit", "Illegal instruction", "Trace/breakpoint trap",
    "Aborted", "Bus error", "Floating point exception", "Killed", "User defined signal 1",
    "Segmentation fault", "User defined signal 2", "Broken pipe", "Alarm clock", "Terminated",
    "Stack fault", "Child exited", "Continued", "Stopped (signal)", "Stopped",
    "Stopped (tty input)", "Stopped (tty output)", "Urgent I/O condition",
    "CPU time limit exceeded", "File size limit exceeded", "Virtual timer expired",
    "Profiling timer expired", "Window changed", "I/O possible", "Power failure",
    "Bad system call"]
  match texts[signal - 1]? with
  | some text => text
  | none =>
    if 34 ≤ signal && signal ≤ 64 then "Real-time signal " ++ toString (signal - 34)
    else "Unknown signal " ++ toString signal

end HostFleet.Machine

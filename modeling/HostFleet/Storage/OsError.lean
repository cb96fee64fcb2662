/-!
# Refusals of the operating system

Why a file or a program could not be used, with the text and the number by which the system
names the reason.
-/

namespace HostFleet

inductive OsError where
  | notPermitted
  | notFound
  | noSuchDevice
  | argumentsTooLong
  | notExecutable
  | badDescriptor
  | permissionDenied
  | busy
  | fileExists
  | notDirectory
  | isDirectory
  | invalidArgument
  | noSpace
  | illegalSeek
  | brokenPipe
  | nameTooLong
  | notEmpty
  | tooManyLinks
  /-- A name holds a zero byte. The system is never asked about it. -/
  | zeroInName
  /-- An argument of a program holds a zero byte. -/
  | zeroInArgument
  /-- A text file is not UTF-8. -/
  | notText
  deriving DecidableEq, Repr

namespace OsError

/-- What the system says, and the number it gives the reason. -/
def parts : OsError → String × Option Nat
  | .notPermitted => ("Operation not permitted", some 1)
  | .notFound => ("No such file or directory", some 2)
  | .noSuchDevice => ("No such device or address", some 6)
  | .argumentsTooLong => ("Argument list too long", some 7)
  | .notExecutable => ("Exec format error", some 8)
  | .badDescriptor => ("Bad file descriptor", some 9)
  | .permissionDenied => ("Permission denied", some 13)
  | .busy => ("Device or resource busy", some 16)
  | .fileExists => ("File exists", some 17)
  | .notDirectory => ("Not a directory", some 20)
  | .isDirectory => ("Is a directory", some 21)
  | .invalidArgument => ("Invalid argument", some 22)
  | .noSpace => ("No space left on device", some 28)
  | .illegalSeek => ("Illegal seek", some 29)
  | .brokenPipe => ("Broken pipe", some 32)
  | .nameTooLong => ("File name too long", some 36)
  | .notEmpty => ("Directory not empty", some 39)
  | .tooManyLinks => ("Too many levels of symbolic links", some 40)
  | .zeroInName => ("file name contained an unexpected NUL byte", none)
  | .zeroInArgument => ("nul byte found in provided data", none)
  | .notText => ("stream did not contain valid UTF-8", none)

/-- The reason without its number. -/
def reason (e : OsError) : String := e.parts.1

def text (e : OsError) : String :=
  match e.parts with
  | (reason, some n) => reason ++ " (os error " ++ toString n ++ ")"
  | (reason, none) => reason

end OsError

end HostFleet

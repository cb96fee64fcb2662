import HostFleet.Document.Basic
import HostFleet.Text.Utf8

/-!
# Writing JSON

The shortest form, without blanks. Quotes, backslashes and control characters are escaped, and
all else stands as it is.
-/

namespace HostFleet.Json

def hexDigit (n : Nat) : Char := Nat.digitChar (n % 16)

def escapeChar (c : Char) : List Char :=
  if c = '\x22' then ['\x5c', '\x22']
  else if c = '\x5c' then ['\x5c', '\x5c']
  else if c = '\n' then ['\x5c', 'n']
  else if c = '\r' then ['\x5c', 'r']
  else if c = '\t' then ['\x5c', 't']
  else if c.toNat = 8 then ['\x5c', 'b']
  else if c.toNat = 12 then ['\x5c', 'f']
  else if c.toNat < 32 then ['\x5c', 'u', '0', '0', hexDigit (c.toNat / 16), hexDigit c.toNat]
  else [c]

def writeText (s : String) : List Char :=
  '\x22' :: s.toList.flatMap escapeChar ++ ['\x22']

mutual

def write : Document → List Char
  | .null => "null".toList
  | .bool b => (if b then "true" else "false").toList
  | .int n => (toString n).toList
  | .decimal literal => literal.toList
  | .text s => writeText s
  | .moment literal => writeText literal
  | .garbled => "null".toList
  | .list items => '[' :: writeItems items ++ [']']
  | .record members => '\x7b' :: writeMembers members ++ ['\x7d']

def writeItems : List Document → List Char
  | [] => []
  | [d] => write d
  | d :: rest => write d ++ ',' :: writeItems rest

def writeMembers : List (String × Document) → List Char
  | [] => []
  | [m] => writeMember m
  | m :: rest => writeMember m ++ ',' :: writeMembers rest

def writeMember : String × Document → List Char
  | (name, d) => writeText name ++ ':' :: write d

end

@[simp] theorem write_int (n : Int) : write (.int n) = (toString n).toList := by
  rw [write]

/-- The bytes of the document as JSON. -/
def encode (d : Document) : Bytes := Utf8.encode (String.ofList (write d))

end HostFleet.Json

import HostFleet.Text.Unprintable

/-!
# Quoted text

How a message shows text it was given: in quotes, with a backslash before the quote in use and
before a backslash, short forms for four controls, and the number of any other character that
shows nothing by itself.
-/

namespace HostFleet.Quoted

def hexDigits (n : Nat) : List Char := Nat.toDigits 16 n

/-- A character as it stands between quotes of the kind `quote`. -/
def escape (quote c : Char) : List Char :=
  if c = quote || c = '\x5c' then ['\x5c', c]
  else if c = '\x00' then ['\x5c', '0']
  else if c = '\t' then ['\x5c', 't']
  else if c = '\r' then ['\x5c', 'r']
  else if c = '\n' then ['\x5c', 'n']
  else if isUnprintable c then ['\x5c', 'u', '\x7b'] ++ hexDigits c.toNat ++ ['\x7d']
  else [c]

def between (quote : Char) (cs : List Char) : String :=
  String.ofList ([quote] ++ cs.flatMap (escape quote) ++ [quote])

def text (s : String) : String := between '\x22' s.toList

def char (c : Char) : String := between '\x27' [c]

end HostFleet.Quoted

/-!
# Classes of characters

The classes that patterns name, as far as they hold characters of ASCII.
-/

namespace HostFleet.CharClass

/-- Whether a character belongs to a class with a name. -/
def isOfClass (name : String) (c : Char) : Bool :=
  let isPrint : Bool := 32 ≤ c.toNat && c.toNat ≤ 126
  match name with
  | "alpha" => c.isAlpha
  | "digit" => c.isDigit
  | "alnum" => c.isAlphanum
  | "upper" => c.isUpper
  | "lower" => c.isLower
  | "space" => c = ' ' || (9 ≤ c.toNat && c.toNat ≤ 13)
  | "blank" => c = ' ' || c = '\t'
  | "punct" => isPrint && c != ' ' && !c.isAlphanum
  | "print" => isPrint
  | "graph" => isPrint && c != ' '
  | "cntrl" => c.toNat < 32 || c.toNat = 127
  | "xdigit" => c.isDigit || ('a' ≤ c.toLower && c.toLower ≤ 'f')
  | "word" => c.isAlphanum || c = '_'
  | _ => false

def classNames : List String :=
  ["alpha", "digit", "alnum", "upper", "lower", "space", "blank", "punct", "print", "graph",
    "cntrl", "xdigit"]

end HostFleet.CharClass

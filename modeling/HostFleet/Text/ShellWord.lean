import HostFleet.Text.CharClass

/-!
# Words of the shell

How programs and shells write a byte text so that a shell reads it as one word with that value.
-/

namespace HostFleet.ShellWord

def isPrintable (c : Char) : Bool := 32 ≤ c.toNat && c.toNat ≤ 126

/-- The letters that stand for control characters behind a backslash. -/
def controls : List (Char × Char) :=
  [('\x07', 'a'), ('\x08', 'b'), ('\t', 't'), ('\n', 'n'), ('\x0b', 'v'), ('\x0c', 'f'),
    ('\r', 'r')]

/-- A byte as three octal digits behind a backslash. -/
def octal (c : Char) : List Char :=
  let n := c.toNat
  '\x5c' :: [n / 64 % 8, n / 8 % 8, n % 8].map fun d => Char.ofNat (48 + d)

/-- A character that cannot be printed, behind a backslash. -/
def escape (c : Char) : List Char :=
  match controls.lookup c with
  | some letter => ['\x5c', letter]
  | none => octal c

/-! ## As programs write names -/

/-- Whether a character has a meaning to the shell at its place in a word. -/
def isSpecial (isFirst isOnly : Bool) (c : Char) : Bool :=
  " !\x22$&()*;<=>[^\x60|?\x5c\x27".toList.contains c || !isPrintable c
    || (isFirst && (c = '#' || c = '~')) || (isOnly && (c = '\x7b' || c = '\x7d'))

/-- Whether a character keeps its meaning between double quotes. -/
def isTame (c : Char) : Bool := c.isAlphanum || " %+,-./:]_\x7b\x7d\x27".toList.contains c

/-- The inside of single quotes. Characters that cannot be printed leave the quotes. -/
def body (outside : Bool) : List Char → List Char
  | [] => []
  | c :: rest =>
    if !isPrintable c then
      (if outside then [] else ['\x27', '$', '\x27']) ++ escape c ++ body true rest
    else
      let back := if outside then ['\x27', '\x27'] else []
      if c = '\x27' then back ++ ['\x27', '\x5c', '\x27', '\x27'] ++ body false rest
      else back ++ c :: body false rest

/-- A text between quotes. -/
def always (s : String) : String :=
  let cs := s.toList
  if cs.contains '\x27' && cs.all isTame then "\x22" ++ s ++ "\x22"
  else String.ofList ('\x27' :: body false cs ++ ['\x27'])

/-- A text between quotes if it needs any. -/
def quoted (s : String) : String :=
  let cs := s.toList
  let isOnly := cs.length = 1
  let needsQuotes := cs.isEmpty || (cs.take 1).any (isSpecial true isOnly)
    || (cs.drop 1).any (isSpecial false false)
  if needsQuotes then always s else s

/-- A text between quotes, with backslashes where it could not be read otherwise. -/
def shown (s : String) : String :=
  let one (c : Char) : List Char :=
    if c = '\x27' || c = '\x5c' then ['\x5c', c]
    else if isPrintable c then [c] else escape c
  "\x27" ++ String.ofList (s.toList.flatMap one) ++ "\x27"

/-! ## As the shells write values -/

/-- A text between single quotes, with escapes. -/
def escaped (s : String) : String :=
  let one (c : Char) : List Char :=
    if c = '\x27' || c = '\x5c' then ['\x5c', c]
    else if c = '\x1b' then ['\x5c', 'E']
    else if isPrintable c then [c] else escape c
  "$\x27" ++ String.ofList (s.toList.flatMap one) ++ "\x27"

/-- A text between single quotes. -/
def single (s : String) : String :=
  if s = "\x27" then "\x5c\x27"
  else "\x27" ++ "\x27\x5c\x27\x27".intercalate (s.splitOn "\x27") ++ "\x27"

/-- A text between single quotes, with its own single quotes between double ones. -/
def paired (s : String) : String := String.ofList (go (s.length + 1) s.toList)
where
  go (fuel : Nat) (cs : List Char) : List Char :=
    let front := cs.takeWhile (· != '\x27')
    let rest := cs.drop front.length
    let marks := rest.takeWhile (· = '\x27')
    let first := '\x27' :: front ++ ['\x27']
    if marks.isEmpty then first
    else
      let rest := rest.drop marks.length
      let both := first ++ '\x22' :: marks ++ ['\x22']
      match fuel with
      | 0 => both
      | fuel + 1 => if rest.isEmpty then both else both ++ go fuel rest

/-- Whether some character of a word has a meaning to the large shell. -/
def hasMeaning (before : Option Char) : List Char → Bool
  | [] => false
  | c :: rest =>
    " \t\n\x27\x22\x5c|&;()<>!\x7b\x7d*[]?^$\x60".toList.contains c
      || (c = '~' && (before = none || before = some '=' || before = some ':'))
      || (c = '#' && (before = none || before = some ' ' || before = some '\t'))
      || hasMeaning (some c) rest

/-- A word as the large shell shows what it carries out. -/
def traced (s : String) : String :=
  if s.isEmpty then "\x27\x27"
  else if hasMeaning none s.toList then single s
  else if s.toList.all isPrintable then s else escaped s

/-- A value as the large shell lists it. -/
def listed (s : String) : String :=
  if !s.toList.all isPrintable then escaped s
  else if hasMeaning none s.toList then single s else s

/-- A value between double quotes. -/
def double (s : String) : String :=
  if !s.toList.all isPrintable then escaped s
  else
    let one (c : Char) : List Char :=
      if ['$', '\x60', '\x22', '\x5c'].contains c then ['\x5c', c] else [c]
    "\x22" ++ String.ofList (s.toList.flatMap one) ++ "\x22"

/-- A text with a backslash before each character with a meaning. -/
def backslashed (s : String) : String :=
  let rec go (before : Option Char) : List Char → List Char
    | [] => []
    | c :: rest =>
      let marked := ",\x7d".toList.contains c || (c = '~' && before = none)
        || hasMeaning before [c]
      (if marked then ['\x5c', c] else [c]) ++ go (some c) rest
  if s.isEmpty then "\x27\x27"
  else if !s.toList.all isPrintable then escaped s
  else String.ofList (go none s.toList)

end HostFleet.ShellWord

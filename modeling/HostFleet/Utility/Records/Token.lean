import HostFleet.Utility.Records.Pattern
import HostFleet.Utility.Records.Script

/-!
# Tokens

The words and signs of a script. Ends of lines count, but for those behind signs that cannot stand
at the end of a statement. In front of a closing brace stands a semicolon, which is supplied if
need be.
-/

namespace HostFleet.Utility.Records

namespace Token

inductive Kind where
  | number (x : Float) (text : String)
  | text (s : String)
  /-- An expression between slashes. -/
  | pattern (s : String)
  /-- A name, and whether a parenthesis is opened right behind it. -/
  | name (s : String) (isCall : Bool)
  | known (f : Known) (name : String)
  /-- A word or a sign of the language. -/
  | word (s : String)
  | newline
  /-- A semicolon that a closing brace supplies. -/
  | supplied
  | finish
  /-- A sign that closes what is not open. -/
  | extra (c : Char)
  /-- A character that means nothing. -/
  | stray (c : Char)
  /-- A text or pattern without end. -/
  | runaway (message : String)
  deriving Inhabited, Repr

end Token

structure Token where
  kind : Token.Kind
  /-- The file of the script, if it is in one, and the line, counted from one. -/
  file : Option String := none
  line : Nat := 1
  /-- How many parentheses and braces are open. -/
  parentheses : Nat := 0
  braces : Nat := 0
  deriving Inhabited, Repr

namespace Token

/-- How messages name a token. -/
def shown (t : Token) : String :=
  match t.kind with
  | .number _ text => text
  | .text s => s
  | .pattern s => "/" ++ s ++ "/"
  | .name s _ => s
  | .known _ name => name
  | .word s => s
  | .newline => "end of line"
  | .supplied => "\x7d"
  | .finish => "end of file"
  | .extra c => String.singleton c
  | .stray c => String.singleton c
  | .runaway s => s

def isWord (t : Token) (s : String) : Bool :=
  match t.kind with
  | .word w => w == s
  | _ => false

/-- The words with a meaning of their own. -/
def words : List String :=
  ["BEGIN", "END", "function", "print", "printf", "delete", "in", "if", "else", "while", "do",
    "for", "break", "continue", "next", "nextfile", "exit", "return", "getline", "match", "split",
    "sub", "gsub"]

def knownFunctions : List (String × Known) :=
  [("atan2", .arcTangent), ("close", .close), ("cos", .cosine), ("exp", .exponential),
    ("fflush", .flush), ("index", .index), ("int", .whole), ("length", .length),
    ("log", .logarithm), ("mktime", .makeTime), ("rand", .random), ("srand", .seed), ("sin", .sine),
    ("sprintf", .format), ("sqrt", .squareRoot), ("strftime", .formatTime), ("substr", .part),
    ("system", .system), ("systime", .time), ("tolower", .lower), ("toupper", .upper)]

/-- The signs, longer ones first. -/
def signs : List String :=
  ["&&", "||", "++", "--", "+=", "-=", "*=", "/=", "%=", "^=", "==", "!=", "<=", ">=", ">>", "!~",
    "\x7b", "\x7d", "(", ")", "[", "]", ";", ",", "+", "-", "*", "/", "%", "^", "!", "<", ">", "=",
    "~", "?", ":", "|", "$"]

/-- Whether ends of lines behind a token are skipped. -/
def skipsLines (k : Kind) : Bool :=
  match k with
  | .newline => true
  | .word s => ["\x7b", "&&", "||", ",", "do", "else", ";"].contains s
  | _ => false

/-- Whether a slash behind a token divides. -/
def isOperand (k : Kind) : Bool :=
  match k with
  | .number .. => true
  | .text _ => true
  | .pattern _ => true
  | .name .. => true
  | .word s => [")", "]", "getline", "++", "--"].contains s
  | _ => false

def isNameChar (c : Char) : Bool := c.isAlphanum || c = '_'

/-- Spaces and comments left out, and ends of lines too if they do not count: what follows, and how
many lines were left. -/
def skipBlanks (fuel : Nat) (lines : Bool) (count : Nat) (cs : List Char) : List Char × Nat :=
  match fuel, cs with
  | fuel + 1, ' ' :: rest => skipBlanks fuel lines count rest
  | fuel + 1, '\t' :: rest => skipBlanks fuel lines count rest
  | fuel + 1, '\r' :: rest => skipBlanks fuel lines count rest
  | fuel + 1, '\x0b' :: rest => skipBlanks fuel lines count rest
  | fuel + 1, '\x0c' :: rest => skipBlanks fuel lines count rest
  | fuel + 1, '\x5c' :: '\n' :: rest => skipBlanks fuel lines (count + 1) rest
  | fuel + 1, '\x5c' :: '\r' :: '\n' :: rest => skipBlanks fuel lines (count + 1) rest
  | fuel + 1, '#' :: rest => skipBlanks fuel lines count (rest.dropWhile (· != '\n'))
  | fuel + 1, '\n' :: rest =>
    if lines then skipBlanks fuel lines (count + 1) rest else ('\n' :: rest, count)
  | _, cs => (cs, count)

/-- What stands between quotes, how many ends of lines it holds, and what follows; nothing if the
quote is not closed. -/
def quoted (fuel : Nat) (done : List Char) (lines : Nat) (cs : List Char) :
    Option (List Char × Nat × List Char) × List Char :=
  match fuel, cs with
  | fuel + 1, '\x5c' :: '\n' :: rest => quoted fuel done (lines + 1) rest
  | fuel + 1, '\x5c' :: c :: rest => quoted fuel (c :: '\x5c' :: done) lines rest
  | _, '\x22' :: rest => (some (done.reverse, lines, rest), [])
  | _, '\n' :: _ => (none, done.reverse)
  | fuel + 1, c :: rest => quoted fuel (c :: done) lines rest
  | _, _ => (none, done.reverse)

/-- What stands between slashes. Those in brackets do not count. -/
def slashed (fuel : Nat) (done : List Char) (bracket : Option Nat) (cs : List Char) :
    Option (List Char × List Char) × List Char :=
  match fuel, cs with
  | fuel + 1, '\x5c' :: '/' :: rest => slashed fuel ('/' :: done) (bracket.map (· + 1)) rest
  | fuel + 1, '\x5c' :: c :: rest =>
    if c = '\n' then (none, done.reverse)
    else slashed fuel (c :: '\x5c' :: done) (bracket.map (· + 1)) rest
  | _, '\n' :: _ => (none, done.reverse)
  | fuel + 1, c :: rest =>
    match bracket with
    | none =>
      if c = '/' then (some (done.reverse, rest), [])
      else slashed fuel (c :: done) (if c = '[' then some 0 else none) rest
    | some n =>
      let isStart := n = 0 && c = '^'
      let closes := c = ']' && n != 0
      let isClass := c = '[' && rest.head? = some ':'
      match if isClass then Regex.namedMember? ':' (rest.drop 1) else none with
      | some (name, more) =>
        slashed fuel (']' :: ':' :: name.reverse ++ ':' :: '[' :: done) (some (n + 1)) more
      | none => slashed fuel (c :: done) (if closes then none else if isStart then some 0
          else some (n + 1)) rest
  | _, _ => (none, done.reverse)

/-- The text with its escapes replaced. Those that are none stay as they are. -/
def unescape (fuel : Nat) (cs : List Char) : List Char :=
  match fuel, cs with
  | fuel + 1, '\x5c' :: c :: rest =>
    if "\x22\x5cabfnrtvx".toList.contains c || Format.isOctal c then
      let (d, rest) := Pattern.escaped (c :: rest)
      d :: unescape fuel rest
    else '\x5c' :: c :: unescape fuel rest
  | fuel + 1, c :: rest => c :: unescape fuel rest
  | _, _ => []

/-- A text as it stands between quotes, with its escapes replaced. -/
def plainText (s : String) : String := String.ofList (unescape (s.length + 1) s.toList)

/-- A number in decimal digits at the front, and what follows it. -/
def decimal (cs : List Char) : List Char × List Char :=
  let whole := cs.takeWhile Char.isDigit
  let rest := cs.drop whole.length
  let fraction := match rest with
    | '.' :: more => '.' :: more.takeWhile Char.isDigit
    | _ => []
  let rest := rest.drop fraction.length
  let power := match rest with
    | e :: more =>
      if e = 'e' || e = 'E' then
        let sign := more.take 1 |>.filter fun c => c = '+' || c = '-'
        let ds := (more.drop sign.length).takeWhile Char.isDigit
        if ds.isEmpty then [] else e :: sign ++ ds
      else []
    | [] => []
  (whole ++ fraction ++ power, rest.drop power.length)

/-- The kind of the token at the front, how many ends of lines it holds, and what follows it. -/
def front (before : Option Kind) (cs : List Char) : Kind × Nat × List Char :=
  match cs with
  | [] => (.finish, 0, [])
  | '\n' :: rest => (.newline, 1, rest)
  | '\x22' :: rest =>
    match quoted (rest.length + 1) [] 0 rest with
    | (some (s, lines, rest), _) => (.text (plainText (String.ofList s)), lines, rest)
    | (none, s) =>
      (.runaway ("runaway string constant \x22" ++ String.ofList (s.take 10) ++ " ..."), 0, [])
  | c :: rest =>
    if c = '/' && !before.any isOperand then
      match slashed (rest.length + 1) [] none rest with
      | (some (s, rest), _) => (.pattern (String.ofList s), 0, rest)
      | (none, s) =>
        (.runaway ("runaway regular expression /" ++ String.ofList (s.take 10) ++ " ..."), 0, [])
    else if c.isDigit || (c = '.' && rest.head?.any Char.isDigit) then
      let (digits, rest) := decimal cs
      let s := String.ofList digits
      (.number (frontNumber s) s, 0, rest)
    else if isNameChar c then
      let name := cs.takeWhile isNameChar
      let rest := cs.drop name.length
      let s := String.ofList name
      match knownFunctions.lookup s with
      | some f => (.known f s, 0, rest)
      | none => (if words.contains s then .word s else .name s (rest.head? = some '('), 0, rest)
    else
      match signs.find? fun s => s.toList.isPrefixOf cs with
      | some s => (.word s, 0, cs.drop s.length)
      | none => (.stray c, 0, rest)

/-- The tokens of a script. -/
def scan (file : Option String) (fuel : Nat) (line parentheses braces : Nat)
    (before : Option Kind) (cs : List Char) : List Token :=
  match fuel with
  | 0 => []
  | fuel + 1 =>
    let (cs, skipped) := skipBlanks (cs.length + 1)
      (match before with
        | some k => skipsLines k
        | none => true) 0 cs
    let line := line + skipped
    let (k, lines, rest) := front before cs
    let token (k : Kind) (parentheses braces : Nat) : Token :=
      { kind := k, file := file, line := line, parentheses := parentheses, braces := braces }
    let go (parentheses braces : Nat) : List Token :=
      token k parentheses braces ::
        scan file fuel (line + lines) parentheses braces (some k) rest
    match k with
    | .finish => [token .finish parentheses braces]
    | .runaway _ => [token k parentheses braces, token .finish parentheses braces]
    | .word "(" => go (parentheses + 1) braces
    | .word ")" =>
      if parentheses = 0 then
        token (.extra ')') 0 braces :: scan file fuel line 0 braces before rest
      else go (parentheses - 1) braces
    | .word "\x7b" => go parentheses (braces + 1)
    | .word "\x7d" =>
      if braces = 0 then
        token (.extra '\x7d') parentheses 0 :: scan file fuel line parentheses 0 before rest
      else
        let isReady := match before with
          | some .newline => true
          | some .supplied => true
          | some (.word s) => s = ";" || s = "\x7d"
          | _ => false
        if !isReady then
          token .supplied parentheses braces ::
            scan file fuel line parentheses braces (some .supplied) cs
        else
          let rest := if braces = 1 then
              match skipBlanks (rest.length + 1) false 0 rest with
              | (';' :: rest, _) => rest
              | _ => rest
            else rest
          let (rest, skipped) := skipBlanks (rest.length + 1) true 0 rest
          token k parentheses (braces - 1) ::
            scan file fuel (line + skipped) parentheses (braces - 1) (some k) rest
    | _ => go parentheses braces

/-- The tokens of a script, which may stand in a file. -/
def ofText (file : Option String) (text : String) : List Token :=
  let cs := (text.push '\n').toList
  scan file (2 * cs.length + 2) 1 0 0 none cs

end Token

end HostFleet.Utility.Records

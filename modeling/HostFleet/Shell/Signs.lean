import HostFleet.Shell.Program
import HostFleet.Text.ByteText

/-!
# The signs of shell programs

What stands at the front of a text: blanks and comments, signs, reserved words, redirections,
here-documents and escapes. The text is a list of bytes. Characters above them stand for bytes
that were read as a here-document; they are blanks that keep their place, so that the number of
characters left tells the line.
-/

namespace HostFleet.Shell

/-- Why a text is no program. -/
inductive SyntaxCause where
  /-- A sign or word that does not belong there: what it is, how it is written, and what is
  expected in its place. -/
  | misplaced (name token : String) (expected : Option String)
  | openQuote (quote : Char)
  | openBackquote
  | openBraces
  | openArithmetic
  | loopVariable (token : String)
  | functionName

/-- What the plain dialect says about it. -/
def SyntaxCause.text : SyntaxCause → String
  | .misplaced name _ expected =>
    name ++ " unexpected" ++ (expected.map fun e => " (expecting " ++ e ++ ")").getD ""
  | .openQuote _ => "Unterminated quoted string"
  | .openBackquote => "EOF in backquote substitution"
  | .openBraces => "Missing '\x7d'"
  | .openArithmetic => "Missing '))'"
  | .loopVariable _ => "Bad for loop variable"
  | .functionName => "Bad function name"

/-- What is wrong with a program, on which line, and the text of that line. -/
structure SyntaxFault where
  cause : SyntaxCause
  line : Nat
  source : String

/-- The fault of a here-document, whose quotes end with it, and with them its last line. -/
def SyntaxFault.inHere (e : SyntaxFault) : SyntaxFault :=
  match e.cause with
  | .openQuote _ => { e with cause := .openBraces, line := e.line + 1 }
  | .openBraces => { e with line := e.line + 1 }
  | _ => e

/-- What was read, and what follows it. -/
abbrev Read (α : Type) := α × List Char

/-- What has to follow the commands that are being read. -/
inductive Closer where
  | nothing
  | token (text : String)
  /-- The end of a clause of a `case`. -/
  | clause
  deriving DecidableEq

/-- What a message says is expected. -/
def Closer.expected : Closer → Option String
  | .token text => some ("\"" ++ text ++ "\"")
  | _ => none

/-- What the meaning of a text depends on. -/
structure Context where
  dialect : Dialect := .plain
  /-- Names that stand for texts where a command begins. -/
  aliases : NameMap String := ∅
  /-- The text that lines are counted in, and how many stand before it. -/
  text : List Char := []
  base : Nat := 0
  closer : Closer := .nothing

namespace Context

def isLarge (cx : Context) : Bool := cx.dialect = .large

/-- The line on which this many characters are left. -/
def lineAt (cx : Context) (left : Nat) : Nat :=
  cx.base + ((cx.text.take (cx.text.length - left)).filter (· = '\n')).length + 1

/-- A fault where this many characters are left. -/
def fault (cx : Context) (cause : SyntaxCause) (left : Nat) : SyntaxFault :=
  let line := cx.lineAt left
  ⟨cause, line, (((String.ofList cx.text).splitOn "\n")[line - cx.base - 1]?).getD ""⟩

/-- The fault of a text that is too deep. -/
def exhausted {α : Type} (cx : Context) : Except SyntaxFault α :=
  .error (cx.fault (.misplaced "end of file" "" none) 0)

end Context

def isNameStart (c : Char) : Bool := c.isAlpha || c = '_'
def isNameChar (c : Char) : Bool := c.isAlphanum || c = '_'

/-- Whether a text can name a variable. -/
def isName (s : String) : Bool :=
  match s.toList with
  | [] => false
  | c :: cs => isNameStart c && cs.all isNameChar

/-- The characters that end a word. -/
def isMeta (c : Char) : Bool :=
  c = ' ' || c = '\t' || c = '\n' || c = ';' || c = '&' || c = '|' || c = '<' || c = '>' ||
    c = '(' || c = ')'

/-- A byte that was read before its place in the text was reached. -/
def hide (c : Char) : Char := Char.ofNat (c.toNat + 256)

def isHidden (c : Char) : Bool := 256 ≤ c.toNat

/-- Skips blanks and joined lines. -/
def skipBlanks : List Char → List Char
  | '\x5c' :: '\n' :: rest => skipBlanks rest
  | c :: rest => if c = ' ' || c = '\t' || isHidden c then skipBlanks rest else c :: rest
  | [] => []

/-- Skips to the next word or sign of the line: blanks and a comment. -/
def skipToToken (cs : List Char) : List Char :=
  match skipBlanks cs with
  | '#' :: rest => rest.dropWhile (· != '\n')
  | cs => cs

/-- Skips blanks, comments and line breaks. -/
def skipLines (inComment : Bool) : List Char → List Char
  | [] => []
  | '\n' :: rest => skipLines false rest
  | '\x5c' :: '\n' :: rest => if inComment then skipLines true rest else skipLines false rest
  | c :: rest =>
    if inComment then skipLines true rest
    else if c = ' ' || c = '\t' || isHidden c then skipLines false rest
    else if c = '#' then skipLines true rest
    else c :: rest

/-- The words with a meaning of their own. -/
def reserved : List String :=
  ["if", "then", "else", "elif", "fi", "while", "until", "do", "done", "for", "case", "esac",
    "in", "\x7b", "\x7d", "!"]

/-- The sign or word at the front. -/
def frontToken (cs : List Char) : String :=
  match cs with
  | [] => ""
  | '\n' :: _ => "newline"
  | ';' :: ';' :: _ => ";;"
  | '&' :: '&' :: _ => "&&"
  | '|' :: '|' :: _ => "||"
  | c :: rest =>
    if isMeta c then String.singleton c
    else String.ofList ((c :: rest).takeWhile fun c => !isMeta c)

/-- The names of built-in commands that no function can have. -/
def ruling : List String :=
  [".", ":", "break", "continue", "eval", "exec", "exit", "export", "readonly", "local", "return",
    "set", "shift", "times", "trap", "unset"]

/-- Whether a redirection stands at the front: its sign, perhaps after a descriptor. -/
def startsRedirect (cs : List Char) : Bool :=
  match cs with
  | '<' :: _ => true
  | '>' :: _ => true
  | c :: '<' :: _ => c.isDigit
  | c :: '>' :: _ => c.isDigit
  | _ => false

/-- The sign at the front, as a message names it. Where no command can begin, reserved words are
words like others. -/
def signName (reserves : Bool) (cs : List Char) : String :=
  let inQuotes (s : String) := "\"" ++ s ++ "\""
  match cs with
  | [] => "end of file"
  | '\n' :: _ => "newline"
  | c :: _ =>
    let token := frontToken cs
    if startsRedirect cs then "redirection"
    else if isMeta c || (reserves && reserved.contains token) then inQuotes token
    else "word"

/-- The word at the front, if it is bare and followed by the end of a word. -/
def bareWord? (cs : List Char) : Option (String × List Char) :=
  let word := cs.takeWhile fun c => c.isAlpha || c = '\x7b' || c = '\x7d' || c = '!'
  let rest := cs.drop word.length
  if word.isEmpty then none
  else match rest with
    | [] => some (String.ofList word, [])
    | c :: _ => if isMeta c then some (String.ofList word, rest) else none

/-- What follows a reserved word at the front. -/
def keyword? (word : String) (cs : List Char) : Option (List Char) :=
  match bareWord? cs with
  | some (w, rest) => if w = word then some rest else none
  | none => none

/-- The text between backquotes, without the backslashes that protect it, and what follows. -/
def backquoted (quoted : Bool) : List Char → Option (List Char × List Char)
  | [] => none
  | '\x60' :: rest => some ([], rest)
  | '\x5c' :: c :: rest =>
    let protects := c = '\x60' || c = '\x5c' || c = '$' || (quoted && c = '\x22')
    (backquoted quoted rest).map fun (text, rest) =>
      (if protects then c :: text else '\x5c' :: c :: text, rest)
  | c :: rest => (backquoted quoted rest).map fun (text, rest) => (c :: text, rest)

/-- The name of a parameter at the front: a name, a number, or a sign. -/
def parameterName (inBraces : Bool) (cs : List Char) : Option (String × List Char) :=
  match cs with
  | [] => none
  | c :: rest =>
    if isNameStart c then
      some (String.ofList (cs.takeWhile isNameChar), cs.dropWhile isNameChar)
    else if c.isDigit then
      if inBraces then some (String.ofList (cs.takeWhile Char.isDigit), cs.dropWhile Char.isDigit)
      else some (String.singleton c, rest)
    else if ['#', '?', '*', '@', '$', '!', '-'].contains c then some (String.singleton c, rest)
    else none

/-- The way a parameter in braces is treated, and whether a word follows. -/
def treatment? : List Char → Option (Treatment × List Char)
  | ':' :: '-' :: rest => some (.orElse true, rest)
  | ':' :: '=' :: rest => some (.orSet true, rest)
  | ':' :: '?' :: rest => some (.orFail true, rest)
  | ':' :: '+' :: rest => some (.andThen true, rest)
  | '-' :: rest => some (.orElse false, rest)
  | '=' :: rest => some (.orSet false, rest)
  | '?' :: rest => some (.orFail false, rest)
  | '+' :: rest => some (.andThen false, rest)
  | '#' :: '#' :: rest => some (.trim true true, rest)
  | '#' :: rest => some (.trim true false, rest)
  | '%' :: '%' :: rest => some (.trim false true, rest)
  | '%' :: rest => some (.trim false false, rest)
  | _ => none

/-- The treatments that only the large dialect knows. -/
def largeTreatment? : List Char → Option (Treatment × List Char)
  | ':' :: rest => some (.slice, rest)
  | '/' :: '/' :: rest => some (.replace true false false, rest)
  | '/' :: '#' :: rest => some (.replace false true false, rest)
  | '/' :: '%' :: rest => some (.replace false false true, rest)
  | '/' :: rest => some (.replace false false false, rest)
  | '^' :: '^' :: rest => some (.recase true true, rest)
  | '^' :: rest => some (.recase true false, rest)
  | ',' :: ',' :: rest => some (.recase false true, rest)
  | ',' :: rest => some (.recase false false, rest)
  | '@' :: c :: '\x7d' :: rest => some (.transform c, '\x7d' :: rest)
  | _ => none

/-- The lines of a here-document up to its delimiter, and what follows it. -/
def hereLines (delimiter : List Char) (stripTabs : Bool) :
    Nat → List Char → List Char × List Char
  | 0, cs => ([], cs)
  | fuel + 1, cs =>
    if cs.isEmpty then ([], [])
    else
      let line := cs.takeWhile (· != '\n')
      let rest := (cs.dropWhile (· != '\n')).drop 1
      let ended := line.length < cs.length
      let line := if stripTabs then line.dropWhile (· = '\t') else line
      if line = delimiter then ([], rest)
      else
        let (more, rest) := hereLines delimiter stripTabs fuel rest
        (line ++ (if ended then ['\n'] else []) ++ more, rest)

/-- The text of a word without expansions, and whether part of it is in quotes. -/
def staticText (w : Word) : String × Bool :=
  (String.join (w.map fun
    | .plain s => s
    | .fixed s => s
    | _ => ""), w.any fun
    | .fixed _ => true
    | _ => false)

/-- The name at the front of a word, and the rest of the word, if the name ends in the open. -/
def leadingName? : Word → Option (String × Word)
  | .plain s :: rest =>
    let name := s.toList.takeWhile isNameChar
    match name with
    | c :: _ =>
      if isNameStart c then
        let more := s.toList.drop name.length
        some (String.ofList name,
          if more.isEmpty then rest else .plain (String.ofList more) :: rest)
      else none
    | [] => none
  | _ => none

/-- A word without these characters at its front. -/
def dropSign (sign : String) : Word → Option Word
  | .plain s :: rest =>
    if s.startsWith sign then
      let more := s.toList.drop sign.length
      some (if more.isEmpty then rest else .plain (String.ofList more) :: rest)
    else none
  | _ => none

/-- A word of the form `name=value` as an assignment. -/
def assignment? (large : Bool) (w : Word) : Option Assignment := do
  let (name, rest) ← leadingName? w
  match dropSign "=" rest, if large then dropSign "+=" rest else none with
  | some value, _ => some (.value name none false value)
  | none, some value => some (.value name none true value)
  | none, none => none

/-- The sign of a redirection at the front, with the descriptor it is about, which only the large
dialect writes with more than one digit. A here-document also tells whether tabs are stripped. -/
def redirectSign? (large : Bool) (cs : List Char) :
    Option (Nat × RedirectKind × Bool × List Char) :=
  let digits := if large then cs.takeWhile Char.isDigit else (cs.take 1).takeWhile Char.isDigit
  let fd (standard : Nat) :=
    if digits.isEmpty then standard
    else digits.foldl (fun n c => n * 10 + (c.toNat - '0'.toNat)) 0
  match cs.drop digits.length with
  | '<' :: '<' :: '-' :: rest => some (fd 0, .here, true, rest)
  | '<' :: '<' :: '<' :: rest =>
    if large then some (fd 0, .hereWord, false, rest) else some (fd 0, .here, false, '<' :: rest)
  | '<' :: '<' :: rest => some (fd 0, .here, false, rest)
  | '<' :: '&' :: rest => some (fd 0, .duplicate, false, rest)
  | '<' :: '>' :: rest => some (fd 0, .readWrite, false, rest)
  | '<' :: '(' :: rest =>
    if large then none else some (fd 0, .read, false, '(' :: rest)
  | '<' :: rest => some (fd 0, .read, false, rest)
  | '>' :: '>' :: rest => some (fd 1, .append, false, rest)
  | '>' :: '&' :: rest => some (fd 1, .duplicate, false, rest)
  | '>' :: '|' :: rest => some (fd 1, .clobber, false, rest)
  | '>' :: '(' :: rest =>
    if large then none else some (fd 1, .write, false, '(' :: rest)
  | '>' :: rest => some (fd 1, .write, false, rest)
  | '&' :: '>' :: '>' :: rest =>
    if large && digits.isEmpty then some (1, .writeBoth true, false, rest) else none
  | '&' :: '>' :: rest =>
    if large && digits.isEmpty then some (1, .writeBoth false, false, rest) else none
  | _ => none

/-- What follows the sign at the front, if one stands there. -/
def afterSign? (cs : List Char) : Option (List Char) :=
  match cs, redirectSign? false cs with
  | _, some (_, _, _, rest) => some rest
  | ';' :: ';' :: rest, none => some rest
  | '&' :: '&' :: rest, none => some rest
  | '|' :: '|' :: rest, none => some rest
  | c :: rest, none => if isMeta c then some rest else none
  | [], none => none

/-- The characters up to the end of the line. Quotes and joined lines go on over line breaks. -/
def restOfLine (quote : Option Char) (isFresh : Bool) : List Char → List Char
  | [] => []
  | '\x5c' :: c :: rest =>
    if quote = some '\x27' then '\x5c' :: restOfLine quote false (c :: rest)
    else '\x5c' :: c :: restOfLine quote false rest
  | c :: rest =>
    match quote with
    | some q => c :: restOfLine (if c = q then none else quote) false rest
    | none =>
      if c = '\n' then []
      else if c = '#' && isFresh then c :: rest.takeWhile (· != '\n')
      else if c = '\x22' || c = '\x27' then c :: restOfLine (some c) false rest
      else c :: restOfLine none (isMeta c) rest

/-- The word that ends a here-document, whether it has quotes, and what follows it. -/
def readDelimiter? (quote : Option Char) : List Char → Option (List Char × Bool × List Char)
  | [] => if quote.isSome then none else some ([], false, [])
  | '\x5c' :: c :: rest =>
    let protects := quote.isNone ||
      (quote = some '\x22' && ['$', '\x60', '\x22', '\x5c'].contains c)
    if protects then
      (readDelimiter? quote rest).map fun (word, _, rest) => (c :: word, true, rest)
    else
      (readDelimiter? quote (c :: rest)).map fun (word, _, rest) => ('\x5c' :: word, true, rest)
  | c :: rest =>
    match quote with
    | some q =>
      (readDelimiter? (if c = q then none else quote) rest).map fun (word, _, rest) =>
        (if c = q then word else c :: word, true, rest)
    | none =>
      if isMeta c then some ([], false, c :: rest)
      else if c = '\x22' || c = '\x27' then
        (readDelimiter? (some c) rest).map fun (word, _, rest) => (word, true, rest)
      else
        (readDelimiter? none rest).map fun (word, literal, rest) =>
          (c :: word, literal || c = '\x60', rest)

/-- Puts texts in the place of the names at the front that stand for them. -/
def expandAliases (aliases : NameMap String) (fuel : Nat) (busy : List String)
    (cs : List Char) : List Char :=
  match fuel with
  | 0 => cs
  | fuel + 1 =>
    let start := skipBlanks cs
    let word := start.takeWhile fun c =>
      !isMeta c && c != '$' && c != '\x22' && c != '\x27' && c != '\x60' && c != '\x5c'
    let name := String.ofList word
    let rest := start.drop word.length
    let isWhole : Bool := match rest with
      | [] => true
      | c :: _ => isMeta c
    match if isWhole && !busy.contains name then aliases[name]? else none with
    | none => cs
    | some text =>
      let rest := if text.endsWith " " || text.endsWith "\t" then
          ' ' :: expandAliases aliases fuel busy rest
        else rest
      expandAliases aliases fuel (name :: busy) (text.toList ++ rest)

/-- The escapes of a text between `$'` and a quote, and what follows it. -/
def escapedText : List Char → Option (List Char × List Char)
  | [] => none
  | '\x27' :: rest => some ([], rest)
  | '\x5c' :: c :: rest =>
    (escapedText rest).map fun (text, rest) => ('\x5c' :: c :: text, rest)
  | c :: rest => (escapedText rest).map fun (text, rest) => (c :: text, rest)

/-- The text that escapes stand for. -/
def unescaped (fuel : Nat) (cs : List Char) : List Char :=
  let isHex (c : Char) : Bool := c.isDigit || ('a' ≤ c.toLower && c.toLower ≤ 'f')
  let isOctal (c : Char) : Bool := '0' ≤ c && c ≤ '7'
  let value (base : Nat) (ds : List Char) : Nat := ds.foldl (fun n c =>
    n * base + (if c.isDigit then c.toNat - 48 else c.toLower.toNat - 87)) 0
  match fuel, cs with
  | 0, _ => []
  | _, [] => []
  | fuel + 1, '\x5c' :: c :: rest =>
    let simple := [('a', 7), ('b', 8), ('e', 27), ('E', 27), ('f', 12), ('n', 10), ('r', 13),
      ('t', 9), ('v', 11), ('\x5c', 92), ('\x27', 39), ('\x22', 34), ('?', 63)]
    match simple.lookup c with
    | some n => Char.ofNat n :: unescaped fuel rest
    | none =>
      if isOctal c then
        let ds := ((c :: rest).take 3).takeWhile isOctal
        Char.ofNat (value 8 ds % 256) :: unescaped fuel ((c :: rest).drop ds.length)
      else if c = 'x' && rest.head?.any isHex then
        let ds := (rest.take 2).takeWhile isHex
        Char.ofNat (value 16 ds) :: unescaped fuel (rest.drop ds.length)
      else if (c = 'u' || c = 'U') && rest.head?.any isHex then
        let ds := (rest.take (if c = 'u' then 4 else 8)).takeWhile isHex
        (ByteText.ofText (String.singleton (Char.ofNat (value 16 ds)))).toList
          ++ unescaped fuel (rest.drop ds.length)
      else if c = 'c' then
        match rest with
        | d :: rest => Char.ofNat (d.toNat % 32) :: unescaped fuel rest
        | [] => []
      else '\x5c' :: c :: unescaped fuel rest
  | fuel + 1, c :: rest => c :: unescaped fuel rest

/-- The commands whose arguments can be assignments of arrays. -/
def declaring : List String := ["declare", "typeset", "local", "export", "readonly"]

/-- The parts of an arithmetic text between semicolons. -/
def splitSteps (w : Word) : List Word :=
  let (done, last) := w.foldl (fun (done, current) part =>
    match part with
    | .fixed s =>
      match s.splitOn ";" with
      | [] => (done, current)
      | first :: more =>
        more.foldl (fun (done, current) piece => (current :: done, [Part.fixed piece]))
          (done, current ++ [.fixed first])
    | part => (done, current ++ [part])) (([] : List Word), ([] : Word))
  (last :: done).reverse

end HostFleet.Shell

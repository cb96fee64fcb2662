import HostFleet.Shell.Signs

/-!
# Reading shell programs

A program is read one line at a time, because a line is carried out before the next is looked at.
A line goes on over line breaks as long as a command is not complete. The depth of nesting that
can be read is bounded by `fuel`, which the length of the text is enough for.
-/

namespace HostFleet.Shell

/-- Where a word is read: in the open, in double quotes, in braces, in an arithmetic expression
with open parentheses, as the text of a here-document, in brackets, or as a regular expression
with open parentheses. In braces, a slash or a colon may end the word, and quotes inside quotes
keep it from ending. What has an end of its own knows how much was left of the text where it
began. -/
inductive Setting where
  | bare
  | double (start : Nat)
  | braces (start : Nat) (quoted inner : Bool) (stop : Option Char)
  | arithmetic (start depth : Nat)
  | here
  | brackets
  | regex (depth : Nat)
  deriving DecidableEq

/-- Whether expansions stand in quotes. -/
def Setting.isQuoted : Setting → Bool
  | .bare => false
  | .double _ => true
  | .braces _ quoted _ _ => quoted
  | .arithmetic .. => true
  | .here => true
  | .brackets => true
  | .regex _ => false

/-- Joins a character with the text before it. -/
def addChar (fixed : Bool) (c : Char) (done : List Part) : List Part :=
  match fixed, done with
  | true, .fixed s :: more => .fixed (s.push c) :: more
  | false, .plain s :: more => .plain (s.push c) :: more
  | true, more => .fixed (String.singleton c) :: more
  | false, more => .plain (String.singleton c) :: more

/-- Whether double quotes around these parts stand for an empty text if there are no arguments. -/
def leavesEmpty (large : Bool) (inner : List Part) : Bool :=
  let isList : Part → Bool
    | .parameter _ name _ _ _ => name == "@"
    | _ => false
  match inner with
  | [.parameter _ "@" none .value []] => false
  | inner => if large then inner.isEmpty else inner.all isList

mutual

/-- The parts of a word up to its end, after the parts read before, which come last first. -/
def readParts (cx : Context) (fuel : Nat) (setting : Setting) (done : List Part)
    (cs : List Char) : Except SyntaxFault (Read (List Part)) :=
  match fuel with
  | 0 => cx.exhausted
  | fuel + 1 =>
    match cs with
    | [] =>
      let unclosed (cause : SyntaxCause) (start : Nat) : Except SyntaxFault (Read (List Part)) :=
        .error (cx.fault cause (if cx.isLarge then start else 0))
      match setting with
      | .bare => .ok (done.reverse, [])
      | .regex _ => .ok (done.reverse, [])
      | .here => .ok (done.reverse, [])
      | .double start => unclosed (.openQuote '\x22') start
      | .brackets => unclosed (.openQuote ']') 0
      | .braces start quoted _ _ =>
        unclosed (if quoted && !cx.isLarge then .openQuote '\x22' else .openBraces) start
      | .arithmetic start _ => unclosed .openArithmetic start
    | '\x5c' :: '\n' :: rest => readParts cx fuel setting done rest
    | '\x5c' :: c :: rest =>
      let isOpen := match setting with
        | .bare => true
        | .regex _ => true
        | .braces _ quoted _ _ => !quoted
        | _ => false
      if isOpen then readParts cx fuel setting (addChar true c done) rest
      else
        let inBraces := match setting with
          | .braces .. => true
          | _ => false
        let protects := c = '$' || c = '\x60' || c = '\x5c' ||
          (c = '\x22' && setting != .here) || (c = '\x7d' && inBraces)
        if protects then readParts cx fuel setting (addChar true c done) rest
        else readParts cx fuel setting (addChar true c (addChar true '\x5c' done)) rest
    | '$' :: '\x27' :: rest =>
      if cx.isLarge && !setting.isQuoted then
        match escapedText rest with
        | none => .error (cx.fault (.openQuote '\x27') cs.length)
        | some (text, rest) =>
          let text := String.ofList (unescaped (text.length + 1) text)
          readParts cx fuel setting (.fixed text :: done) rest
      else readParts cx fuel setting (addChar true '$' done) ('\x27' :: rest)
    | '$' :: '\x22' :: rest =>
      if cx.isLarge && !setting.isQuoted then readParts cx fuel setting done ('\x22' :: rest)
      else readParts cx fuel setting (addChar true '$' done) ('\x22' :: rest)
    | '$' :: rest =>
      match readDollar cx fuel setting.isQuoted rest with
      | .error e => .error e
      | .ok (some part, rest) => readParts cx fuel setting (part :: done) rest
      | .ok (none, rest) => readParts cx fuel setting (addChar true '$' done) rest
    | '\x60' :: rest =>
      let inDouble := match setting with
        | .double _ => true
        | _ => false
      match backquoted inDouble rest with
      | none => .error (cx.fault .openBackquote (if cx.isLarge then cs.length else 0))
      | some (text, rest) =>
        let base := if cx.isLarge then cx.lineAt cs.length - 1 else 0
        match readAll { cx with text := text, base := base } fuel text with
        | .error e => .error e
        | .ok (body, _) => readParts cx fuel setting (.output setting.isQuoted body :: done) rest
    | c :: rest =>
      let doubleQuoted (rest : List Char) : Except SyntaxFault (Read (List Part)) :=
        match readParts cx fuel (.double cs.length) [] rest with
        | .error e => .error e
        | .ok (inner, rest) =>
          let inner := if leavesEmpty cx.isLarge inner then inner ++ [.fixed ""] else inner
          readParts cx fuel setting (inner.reverse ++ done) rest
      let singleQuoted (rest : List Char) : Except SyntaxFault (Read (List Part)) :=
        let text := rest.takeWhile (· != '\x27')
        match rest.drop text.length with
        | [] => .error (cx.fault (.openQuote c) (if cx.isLarge then cs.length else 0))
        | _ :: rest => readParts cx fuel setting (.fixed (String.ofList text) :: done) rest
      match setting with
      | .bare =>
        if cx.isLarge && (c = '<' || c = '>') && rest.head? = some '(' && done.isEmpty then
          match readEnclosed cx fuel rest.tail with
          | .error e => .error e
          | .ok (body, rest) => readParts cx fuel setting (.channel (c = '<') body :: done) rest
        else if isMeta c then
          match cx.isLarge && c = '(', done with
          | true, .plain s :: _ =>
            if s.endsWith "@" || s.endsWith "?" || s.endsWith "*" || s.endsWith "+"
                || s.endsWith "!" then
              match readParts cx fuel (.regex 0) [.plain "("] rest with
              | .error e => .error e
              | .ok (inner, rest) => readParts cx fuel setting (inner.reverse ++ done) rest
            else .ok (done.reverse, cs)
          | _, _ => .ok (done.reverse, cs)
        else if c = '\x22' then doubleQuoted rest
        else if c = '\x27' then singleQuoted rest
        else readParts cx fuel setting (addChar false c done) rest
      | .double _ =>
        if c = '\x22' then .ok (done.reverse, rest)
        else readParts cx fuel setting (addChar true c done) rest
      | .here => readParts cx fuel setting (addChar true c done) rest
      | .regex depth =>
        if c = '\x22' then doubleQuoted rest
        else if c = '\x27' then singleQuoted rest
        else if c = '(' then readParts cx fuel (.regex (depth + 1)) (addChar false c done) rest
        else if c = ')' then
          match depth with
          | 0 => .ok ((addChar false c done).reverse, rest)
          | depth + 1 => readParts cx fuel (.regex depth) (addChar false c done) rest
        else readParts cx fuel setting (addChar false c done) rest
      | .brackets =>
        if c = ']' then .ok (done.reverse, rest)
        else if c = '\x22' then doubleQuoted rest
        else if c = '\x27' then singleQuoted rest
        else readParts cx fuel setting (addChar true c done) rest
      | .braces start quoted inner stop =>
        if c = '\x7d' && !inner then .ok (done.reverse, cs)
        else if stop = some c then .ok (done.reverse, cs)
        else if c = '\x22' && !quoted then doubleQuoted rest
        else if c = '\x22' then readParts cx fuel (.braces start quoted (!inner) stop) done rest
        else if c = '\x27' && !quoted then singleQuoted rest
        else readParts cx fuel setting (addChar quoted c done) rest
      | .arithmetic start depth =>
        if c = '(' then
          readParts cx fuel (.arithmetic start (depth + 1)) (addChar true c done) rest
        else if c = ')' then
          match depth, rest with
          | 0, ')' :: rest => .ok (done.reverse, rest)
          | 0, _ =>
            if cx.isLarge then .error (cx.fault .openArithmetic rest.length)
            else readParts cx fuel setting (addChar true c done) rest
          | depth + 1, _ => readParts cx fuel (.arithmetic start depth) (addChar true c done) rest
        else if c = '\x22' && cx.isLarge then readParts cx fuel setting done rest
        else readParts cx fuel setting (addChar true c done) rest

/-- What stands after a dollar sign, if it is an expansion. -/
def readDollar (cx : Context) (fuel : Nat) (quoted : Bool) (cs : List Char) :
    Except SyntaxFault (Read (Option Part)) :=
  match fuel with
  | 0 => cx.exhausted
  | fuel + 1 =>
    let commands (rest : List Char) : Except SyntaxFault (Read (Option Part)) :=
      match readEnclosed cx fuel rest with
      | .error e => .error e
      | .ok (body, rest) => .ok (some (.output quoted body), rest)
    match cs with
    | '(' :: '(' :: rest =>
      match readParts cx fuel (.arithmetic cs.length 0) [] rest with
      | .error e => if cx.isLarge then commands ('(' :: rest) else .error e
      | .ok (body, rest) => .ok (some (.arithmetic quoted body), rest)
    | '(' :: rest => commands rest
    | '\x7b' :: '#' :: '\x7d' :: rest => .ok (some (.parameter quoted "#" none .value []), rest)
    | '\x7b' :: '#' :: rest =>
      match parameterName true rest with
      | some (name, '\x7d' :: rest) => .ok (some (.parameter quoted name none .length []), rest)
      | some (name, '[' :: after) =>
        if cx.isLarge then
          match readParts cx fuel .brackets [] after with
          | .error e => .error e
          | .ok (subscript, '\x7d' :: rest) =>
            .ok (some (.parameter quoted name (some subscript) .length []), rest)
          | .ok (_, rest) => .ok (some (.bad (String.ofList rest)), rest)
        else readBraces cx fuel quoted ('#' :: rest)
      | _ => readBraces cx fuel quoted ('#' :: rest)
    | '\x7b' :: '!' :: c :: rest =>
      if cx.isLarge && isNameStart c then
        let name := String.ofList ((c :: rest).takeWhile isNameChar)
        match (c :: rest).drop name.length with
        | '\x7d' :: rest => .ok (some (.parameter quoted name none .indirect []), rest)
        | '*' :: '\x7d' :: rest => .ok (some (.parameter quoted name none .names []), rest)
        | '@' :: '\x7d' :: rest => .ok (some (.parameter quoted name none .names []), rest)
        | '[' :: all :: ']' :: '\x7d' :: rest =>
          .ok (some (.parameter quoted name (some [.fixed (String.singleton all)]) .names []), rest)
        | _ => readBraces cx fuel quoted ('!' :: c :: rest)
      else if cx.isLarge && c.isDigit && rest.head? = some '\x7d' then
        .ok (some (.parameter quoted (String.singleton c) none .indirect []), rest.tail)
      else readBraces cx fuel quoted ('!' :: c :: rest)
    | '\x7b' :: rest => readBraces cx fuel quoted rest
    | _ =>
      match parameterName false cs with
      | some (name, rest) => .ok (some (.parameter quoted name none .value []), rest)
      | none => .ok (none, cs)

/-- The rest of a parameter in braces. -/
def readBraces (cx : Context) (fuel : Nat) (quoted : Bool) (cs : List Char) :
    Except SyntaxFault (Read (Option Part)) :=
  match fuel with
  | 0 => cx.exhausted
  | fuel + 1 =>
    let skipBad (rest : List Char) : Except SyntaxFault (Read (Option Part)) :=
      match readParts cx fuel (.braces cs.length quoted false none) [] rest with
      | .error e => .error e
      | .ok (_, rest) =>
        .ok (some (.bad (String.ofList ('$' :: '\x7b' :: cs.take (cs.length - rest.length + 1)))),
          rest.drop 1)
    match parameterName true cs with
    | none => skipBad cs
    | some (name, rest) =>
      let subscripted : Except SyntaxFault (Read (Option (List Part))) :=
        match rest with
        | '[' :: after =>
          if cx.isLarge then (readParts cx fuel .brackets [] after).map fun (w, r) => (some w, r)
          else .ok (none, rest)
        | rest => .ok (none, rest)
      match subscripted with
      | .error e => .error e
      | .ok (subscript, '\x7d' :: rest) =>
        .ok (some (.parameter quoted name subscript .value []), rest)
      | .ok (subscript, rest) =>
        match (treatment? rest).or (if cx.isLarge then largeTreatment? rest else none) with
        | none => skipBad rest
        | some (t, rest) =>
          let (isOpen, stop) : Bool × Option Char := match t with
            | .trim .. => (true, none)
            | .replace .. => (true, some '/')
            | .recase .. => (true, none)
            | .slice => (false, some ':')
            | _ => (false, none)
          match readParts cx fuel (.braces cs.length (quoted && !isOpen) false stop) [] rest with
          | .error e => .error e
          | .ok (word, '\x7d' :: rest) =>
            .ok (some (.parameter quoted name subscript t [word]), rest)
          | .ok (word, rest) =>
            match readParts cx fuel (.braces cs.length quoted false none) [] (rest.drop 1) with
            | .error e => .error e
            | .ok (second, rest) =>
              .ok (some (.parameter quoted name subscript t [word, second]), rest.drop 1)

/-- The redirection at the front, if one stands there. -/
def readRedirect? (cx : Context) (fuel : Nat) (cs : List Char) :
    Except SyntaxFault (Read (Option Redirect)) :=
  match fuel with
  | 0 => cx.exhausted
  | fuel + 1 =>
    match redirectSign? cx.isLarge cs with
    | none => .ok (none, cs)
    | some (fd, kind, stripTabs, rest) =>
      let rest := skipToToken rest
      let isMissing := match rest with
        | [] => true
        | '<' :: '(' :: _ => !cx.isLarge
        | '>' :: '(' :: _ => !cx.isLarge
        | c :: _ => isMeta c || startsRedirect rest
      if isMissing then .error (misplaced cx fuel false none rest)
      else if kind = .here && !cx.isLarge then
        match readDelimiter? none rest with
        | none => .error (cx.fault (.openQuote '\x22') 0)
        | some (delimiter, literal, rest) =>
          readHere cx fuel fd stripTabs delimiter literal rest
      else
        match readParts cx fuel .bare [] rest with
        | .error e => .error e
        | .ok (word, rest) =>
          if kind != .here then .ok (some (.mk fd kind word), rest)
          else
            let (delimiter, literal) := staticText word
            readHere cx fuel fd stripTabs delimiter.toList literal rest

/-- A here-document below the line. The lines stay in their place, hidden. -/
def readHere (cx : Context) (fuel fd : Nat) (stripTabs : Bool) (delimiter : List Char)
    (literal : Bool) (cs : List Char) : Except SyntaxFault (Read (Option Redirect)) :=
  match fuel with
  | 0 => cx.exhausted
  | fuel + 1 =>
    let line := restOfLine none true cs
    let below := (cs.drop line.length).drop 1
    let start := below.dropWhile isHidden
    let (text, after) := hereLines delimiter stripTabs start.length start
    let rest := line ++ ((cs.drop line.length).take 1) ++ below.takeWhile isHidden
      ++ (start.take (start.length - after.length)).map hide ++ after
    if literal then .ok (some (.mk fd .here [.fixed (String.ofList text)]), rest)
    else
      let inner := { cx with text := text, base := cx.lineAt start.length - 1, closer := .nothing }
      match readParts inner fuel .here [] text with
      | .error e => .error (if cx.isLarge then e else e.inHere)
      | .ok (body, _) => .ok (some (.mk fd .here body), rest)

/-- The redirections at the front. -/
def readRedirects (cx : Context) (fuel : Nat) (cs : List Char) :
    Except SyntaxFault (Read (List Redirect)) :=
  match fuel with
  | 0 => cx.exhausted
  | fuel + 1 =>
    match readRedirect? cx fuel (skipBlanks cs) with
    | .error e => .error e
    | .ok (none, rest) => .ok ([], rest)
    | .ok (some r, rest) =>
      match readRedirects cx fuel rest with
      | .error e => .error e
      | .ok (rs, rest) => .ok (r :: rs, rest)

/-- The items of an array up to its parenthesis. -/
def readItems (cx : Context) (fuel : Nat) (cs : List Char) :
    Except SyntaxFault (Read (List (Option Word × Word))) :=
  match fuel with
  | 0 => cx.exhausted
  | fuel + 1 =>
    match skipLines false cs with
    | ')' :: rest => .ok ([], rest)
    | '[' :: rest =>
      match readParts cx fuel .brackets [] rest with
      | .error e => .error e
      | .ok (key, '=' :: rest) =>
        match readParts cx fuel .bare [] rest with
        | .error e => .error e
        | .ok (word, rest) =>
          match readItems cx fuel rest with
          | .error e => .error e
          | .ok (more, rest) => .ok ((some key, word) :: more, rest)
      | .ok (_, _) => readItem cx fuel ('[' :: rest)
    | rest => readItem cx fuel rest

/-- An item of an array without a key, and the items after it. -/
def readItem (cx : Context) (fuel : Nat) (cs : List Char) :
    Except SyntaxFault (Read (List (Option Word × Word))) :=
  match fuel with
  | 0 => cx.exhausted
  | fuel + 1 =>
    match readParts cx fuel .bare [] cs with
    | .error e => .error e
    | .ok ([], rest) => .error (misplaced cx fuel true none rest)
    | .ok (word, rest) =>
      match readItems cx fuel rest with
      | .error e => .error e
      | .ok (more, rest) => .ok ((none, word) :: more, rest)

/-- The assignment at the front, if one stands there that is more than a word. -/
def readAssignment? (cx : Context) (fuel : Nat) (cs : List Char) :
    Except SyntaxFault (Read (Option Assignment)) :=
  match fuel with
  | 0 => cx.exhausted
  | fuel + 1 =>
    let name := cs.takeWhile isNameChar
    let isNamed := cx.isLarge && name.head?.any isNameStart
    if !isNamed then .ok (none, cs)
    else
      let array (adds : Bool) (rest : List Char) : Except SyntaxFault (Read (Option Assignment)) :=
        match readItems cx fuel rest with
        | .error e => .error e
        | .ok (items, rest) => .ok (some (.array (String.ofList name) adds items), rest)
      match cs.drop name.length with
      | '=' :: '(' :: rest => array false rest
      | '+' :: '=' :: '(' :: rest => array true rest
      | '[' :: rest =>
        match readParts cx fuel .brackets [] rest with
        | .error _ => .ok (none, cs)
        | .ok (key, rest) =>
          let value (adds : Bool) (rest : List Char) :
              Except SyntaxFault (Read (Option Assignment)) :=
            match readParts cx fuel .bare [] rest with
            | .error e => .error e
            | .ok (word, rest) =>
              .ok (some (.value (String.ofList name) (some key) adds word), rest)
          match rest with
          | '=' :: rest => value false rest
          | '+' :: '=' :: rest => value true rest
          | _ => .ok (none, cs)
      | _ => .ok (none, cs)

/-- The rest of a simple command: assignments, words and redirections, each last first. -/
def readSimple (cx : Context) (fuel : Nat) (assignments : List Assignment) (words : List Word)
    (redirects : List Redirect) (line : Nat) (cs : List Char) : Except SyntaxFault (Read Command) :=
  match fuel with
  | 0 => cx.exhausted
  | fuel + 1 =>
    match readRedirect? cx fuel (skipToToken cs) with
    | .error e => .error e
    | .ok (some r, rest) => readSimple cx fuel assignments words (r :: redirects) line rest
    | .ok (none, rest) =>
      let declares : Bool := match words.getLast? with
        | none => true
        | some w => declaring.contains (staticText w).1
      match if declares then readAssignment? cx fuel rest else .ok (none, rest) with
      | .error e => .error e
      | .ok (some a, rest) =>
        match a, words with
        | .array name .., _ :: _ =>
          readSimple cx fuel (a :: assignments) ([.plain name] :: words) redirects line rest
        | a, [] => readSimple cx fuel (a :: assignments) words redirects line rest
        | .value name _ _ _, _ =>
          readSimple cx fuel (a :: assignments) ([.plain name] :: words) redirects line rest
      | .ok (none, rest) =>
        match readParts cx fuel .bare [] rest with
        | .error e => .error e
        | .ok ([], rest) =>
          if assignments.isEmpty && words.isEmpty && redirects.isEmpty then
            .error (misplaced cx fuel true none rest)
          else .ok (.simple assignments.reverse words.reverse redirects.reverse line, rest)
        | .ok (word, rest) =>
          match words, assignment? cx.isLarge word with
          | [], some a => readSimple cx fuel (a :: assignments) [] redirects line rest
          | [], none =>
            match assignments.isEmpty && redirects.isEmpty, skipToToken rest with
            | true, '(' :: afterOpen => readFunction cx fuel word afterOpen
            | _, _ => readSimple cx fuel assignments [word] redirects line rest
          | words, _ => readSimple cx fuel assignments (word :: words) redirects line rest

/-- A function after its name and an open parenthesis. -/
def readFunction (cx : Context) (fuel : Nat) (word : Word) (cs : List Char) :
    Except SyntaxFault (Read Command) :=
  match fuel with
  | 0 => cx.exhausted
  | fuel + 1 =>
    match skipToToken cs with
    | ')' :: rest =>
      let name? := match word with
        | [.plain name] =>
          if cx.isLarge || (isName name && !ruling.contains name) then some name else none
        | _ => none
      match name? with
      | none => .error (if cx.isLarge then misplaced cx fuel true none ('(' :: cs)
          else cx.fault .functionName rest.length)
      | some name =>
        match readCommand cx fuel (skipLines false rest) with
        | .error e => .error e
        | .ok (body, rest) => .ok (.define name body, rest)
    | rest => .error (misplaced cx fuel false (some "\")\"") rest)

/-- The words of a `for` up to the end of the line. -/
def readWords (cx : Context) (fuel : Nat) (cs : List Char) :
    Except SyntaxFault (Read (List Word)) :=
  match fuel with
  | 0 => cx.exhausted
  | fuel + 1 =>
    match readParts cx fuel .bare [] (skipToToken cs) with
    | .error e => .error e
    | .ok ([], rest) => .ok ([], rest)
    | .ok (word, rest) =>
      match readWords cx fuel rest with
      | .error e => .error e
      | .ok (words, rest) => .ok (word :: words, rest)

/-- The patterns of a clause up to its parenthesis. In the plain dialect a sign in the place of a
pattern stands for the word before it. -/
def readPatterns (cx : Context) (fuel : Nat) (before : Word) (cs : List Char) :
    Except SyntaxFault (Read (List Word)) :=
  match fuel with
  | 0 => cx.exhausted
  | fuel + 1 =>
    let more (word : Word) (rest : List Char) : Except SyntaxFault (Read (List Word)) :=
      let rest := skipToToken rest
      match rest with
      | ')' :: rest => .ok ([word], rest)
      | '|' :: after =>
        if after.head? = some '|' then .error (misplaced cx fuel false (some "\")\"") rest)
        else
          match readPatterns cx fuel word after with
          | .error e => .error e
          | .ok (words, rest) => .ok (word :: words, rest)
      | rest => .error (misplaced cx fuel false (some "\")\"") rest)
    let start := skipToToken cs
    match if cx.isLarge then none else afterSign? start with
    | some rest => more before rest
    | none =>
      match readParts cx fuel .bare [] start with
      | .error e => .error e
      | .ok ([], []) => .error (misplaced cx fuel false (some "\")\"") [])
      | .ok ([], rest) => .error (misplaced cx fuel false none rest)
      | .ok (word, rest) => more word rest

/-- The clauses of a `case` up to its end. -/
def readClauses (cx : Context) (fuel : Nat) (cs : List Char) :
    Except SyntaxFault (Read (List (List Word × Command × AfterClause))) :=
  match fuel with
  | 0 => cx.exhausted
  | fuel + 1 =>
    let cs := skipLines false cs
    match keyword? "esac" cs with
    | some rest => .ok ([], rest)
    | none =>
      let start := match cs with
        | '(' :: rest => rest
        | cs => cs
      match readPatterns cx fuel [.plain "in"] start with
      | .error e => .error e
      | .ok (patterns, rest) =>
        match readList { cx with closer := .clause } fuel rest with
        | .error e => .error e
        | .ok (body, rest) =>
          let more (ending : AfterClause) (rest : List Char) :
              Except SyntaxFault (Read (List (List Word × Command × AfterClause))) :=
            match readClauses cx fuel rest with
            | .error e => .error e
            | .ok (more, rest) => .ok ((patterns, .sequence body, ending) :: more, rest)
          match skipLines false rest with
          | ';' :: ';' :: '&' :: rest =>
            if cx.isLarge then more .search rest else more .done ('&' :: rest)
          | ';' :: ';' :: rest => more .done rest
          | ';' :: '&' :: rest =>
            if cx.isLarge then more .next rest
            else .error (misplaced cx fuel true (some "\";;\"") (';' :: '&' :: rest))
          | rest =>
            match keyword? "esac" rest with
            | some rest => .ok ([(patterns, .sequence body, .done)], rest)
            | none => .error (misplaced cx fuel true (some "\";;\"") rest)

/-- The rest of an `if` after its first word. -/
def readBranch (cx : Context) (fuel : Nat) (cs : List Char) : Except SyntaxFault (Read Command) :=
  match fuel with
  | 0 => cx.exhausted
  | fuel + 1 => do
    let (test, rest) ← readBody cx fuel "then" cs
    let rest ← expectWord cx fuel "then" rest
    let (yes, rest) ← readBody cx fuel "fi" rest
    let rest := skipLines false rest
    match keyword? "elif" rest, keyword? "else" rest with
    | some rest, _ => do
      let (no, rest) ← readBranch cx fuel rest
      .ok (.branch test yes (some no), rest)
    | none, some rest => do
      let (no, rest) ← readBody cx fuel "fi" rest
      let rest ← expectWord cx fuel "fi" rest
      .ok (.branch test yes (some no), rest)
    | none, none => do
      let rest ← expectWord cx fuel "fi" rest
      .ok (.branch test yes none, rest)

/-- A list of commands that is not empty, up to a word or sign. -/
def readBody (cx : Context) (fuel : Nat) (closer : String) (cs : List Char) :
    Except SyntaxFault (Read Command) :=
  match fuel with
  | 0 => cx.exhausted
  | fuel + 1 =>
    match readList { cx with closer := .token closer } fuel cs with
    | .error e => .error e
    | .ok ([], c :: rest) => .error (misplaced cx fuel true none (c :: rest))
    | .ok (body, rest) => .ok (.sequence body, rest)

/-- A list of commands up to a parenthesis. -/
def readEnclosed (cx : Context) (fuel : Nat) (cs : List Char) :
    Except SyntaxFault (Read (List Command)) :=
  match fuel with
  | 0 => cx.exhausted
  | fuel + 1 =>
    match readList { cx with closer := .token ")" } fuel cs with
    | .error e => .error e
    | .ok (body, rest) =>
      match skipLines false rest with
      | ')' :: rest => .ok (body, rest)
      | rest => .error (misplaced cx fuel true (some "\")\"") rest)

/-- What follows a reserved word. -/
def expectWord (cx : Context) (fuel : Nat) (word : String) (cs : List Char) :
    Except SyntaxFault (List Char) :=
  match fuel with
  | 0 => cx.exhausted
  | fuel + 1 =>
    let cs := skipLines false cs
    match keyword? word cs with
    | some rest => .ok rest
    | none => .error (misplaced cx fuel true (some ("\"" ++ word ++ "\"")) cs)

/-- The fault of a sign or word that does not belong at the front. A word is read to its end. -/
def misplaced (cx : Context) (fuel : Nat) (reserves : Bool) (expected : Option String)
    (cs : List Char) : SyntaxFault :=
  let name := signName reserves cs
  let cause := .misplaced name (frontToken cs) expected
  match fuel with
  | 0 => cx.fault cause cs.length
  | fuel + 1 =>
    if cx.isLarge then cx.fault cause cs.length
    else match cs with
      | '\n' :: rest => cx.fault cause rest.length
      | cs =>
        if name != "word" then cx.fault cause cs.length
        else match readParts cx fuel .bare [] cs with
          | .error e => e
          | .ok (_, rest) => cx.fault cause rest.length

/-- The body of a loop. -/
def readLoopBody (cx : Context) (fuel : Nat) (cs : List Char) :
    Except SyntaxFault (Read Command) :=
  match fuel with
  | 0 => cx.exhausted
  | fuel + 1 =>
    match cx.isLarge, keyword? "\x7b" (skipLines false cs) with
    | true, some rest => do
      let (body, rest) ← readBody cx fuel "\x7d" rest
      let rest ← expectWord cx fuel "\x7d" rest
      .ok (body, rest)
    | _, _ => do
      let rest ← expectWord cx fuel "do" cs
      let (body, rest) ← readBody cx fuel "done" rest
      let rest ← expectWord cx fuel "done" rest
      .ok (body, rest)

/-- A word of a condition between double brackets. -/
def readOperand (cx : Context) (fuel : Nat) (cs : List Char) : Except SyntaxFault (Read Word) :=
  match fuel with
  | 0 => cx.exhausted
  | fuel + 1 =>
    match readParts cx fuel .bare [] (skipLines false cs) with
    | .error e => .error e
    | .ok ([], rest) => .error (misplaced cx fuel true none rest)
    | .ok (w, rest) => .ok (w, rest)

/-- A regular expression, which parentheses and bars do not end. -/
def readRegex (cx : Context) (fuel : Nat) (done : List Part) (cs : List Char) :
    Except SyntaxFault (Read Word) :=
  match fuel with
  | 0 => cx.exhausted
  | fuel + 1 =>
    match readParts cx fuel .bare done cs with
    | .error e => .error e
    | .ok (w, '(' :: rest) =>
      match readParts cx fuel (.regex 0) [.plain "("] rest with
      | .error e => .error e
      | .ok (inner, rest) => readRegex cx fuel (inner.reverse ++ w.reverse) rest
    | .ok (w, '|' :: c :: rest) =>
      if c = '|' then .ok (w, '|' :: c :: rest)
      else readRegex cx fuel (.plain "|" :: w.reverse) (c :: rest)
    | .ok (w, rest) => .ok (w, rest)

/-- A condition that does not fall apart. -/
def readTest (cx : Context) (fuel : Nat) (cs : List Char) : Except SyntaxFault (Read Condition) :=
  match fuel with
  | 0 => cx.exhausted
  | fuel + 1 =>
    match skipLines false cs with
    | '!' :: ' ' :: rest => do
      let (c, rest) ← readTest cx fuel rest
      .ok (.negation c, rest)
    | '(' :: rest => do
      let (c, rest) ← readEither cx fuel rest
      match skipLines false rest with
      | ')' :: rest => .ok (c, rest)
      | rest => .error (misplaced cx fuel true (some "\")\"") rest)
    | rest => do
      let (w, rest) ← readOperand cx fuel rest
      let after := skipBlanks rest
      let isUnary : Bool := match w with
        | [.plain op] => op.length = 2 && op.startsWith "-"
        | _ => false
      match after with
      | '<' :: rest => do
        let (r, rest) ← readOperand cx fuel rest
        .ok (.binary w "<" r, rest)
      | '>' :: rest => do
        let (r, rest) ← readOperand cx fuel rest
        .ok (.binary w ">" r, rest)
      | '=' :: '~' :: rest => do
        let (r, rest) ← readRegex cx fuel [] (skipBlanks rest)
        .ok (.binary w "=~" r, rest)
      | after =>
        let ends : Bool := match after with
          | [] => true
          | ']' :: ']' :: _ => true
          | c :: _ => isMeta c
        if ends then .ok (.word w, after)
        else do
          let (op, rest) ← readOperand cx fuel after
          if isUnary then .ok (.unary (staticText w).1 op, rest)
          else do
            let (r, rest) ← readOperand cx fuel rest
            .ok (.binary w (staticText op).1 r, rest)

def readBothTests (cx : Context) (fuel : Nat) (cs : List Char) :
    Except SyntaxFault (Read Condition) :=
  match fuel with
  | 0 => cx.exhausted
  | fuel + 1 => do
    let (l, rest) ← readTest cx fuel cs
    match skipLines false rest with
    | '&' :: '&' :: rest => do
      let (r, rest) ← readBothTests cx fuel rest
      .ok (.both l r, rest)
    | rest => .ok (l, rest)

def readEither (cx : Context) (fuel : Nat) (cs : List Char) :
    Except SyntaxFault (Read Condition) :=
  match fuel with
  | 0 => cx.exhausted
  | fuel + 1 => do
    let (l, rest) ← readBothTests cx fuel cs
    match skipLines false rest with
    | '|' :: '|' :: rest => do
      let (r, rest) ← readEither cx fuel rest
      .ok (.either l r, rest)
    | rest => .ok (l, rest)

/-- A command of the large dialect with its own words at both ends. -/
def readLarge? (cx : Context) (fuel : Nat) (cs : List Char) :
    Except SyntaxFault (Read (Option Command)) :=
  match fuel with
  | 0 => cx.exhausted
  | fuel + 1 =>
    match cs with
    | '(' :: '(' :: rest =>
      match readParts cx fuel (.arithmetic cs.length 0) [] rest with
      | .error _ => .ok (none, cs)
      | .ok (body, rest) => .ok (some (.arithmetic body (cx.lineAt cs.length)), rest)
    | '[' :: '[' :: c :: rest =>
      if c = ' ' || c = '\n' || c = '\t' then do
        let (test, rest) ← readEither cx fuel rest
        match skipLines false rest with
        | ']' :: ']' :: rest => .ok (some (.condition test (cx.lineAt cs.length)), rest)
        | rest => .error (misplaced cx fuel true (some "\"]]\"") rest)
      else .ok (none, cs)
    | cs =>
      match bareWord? cs with
      | some ("function", rest) => do
        let start := skipBlanks rest
        let name := start.takeWhile fun c => !isMeta c
        let rest := skipBlanks (start.drop name.length)
        let rest := match rest with
          | '(' :: after =>
            match skipBlanks after with
            | ')' :: after => after
            | _ => rest
          | rest => rest
        let (body, rest) ← readCommand cx fuel (skipLines false rest)
        .ok (some (.define (String.ofList name) body), rest)
      | some ("for", rest) =>
        match skipBlanks rest with
        | '(' :: '(' :: rest => do
          let (body, rest) ← readParts cx fuel (.arithmetic cs.length 0) [] rest
          let rest := skipToToken rest
          let rest := if rest.head? = some ';' then rest.drop 1 else rest
          let (loop, rest) ← readLoopBody cx fuel rest
          match splitSteps body with
          | [start, test, step] => .ok (some (.count start test step loop), rest)
          | _ => .error (misplaced cx fuel true none rest)
        | _ => .ok (none, cs)
      | _ => .ok (none, cs)

/-- A command with its own words at both ends, if one stands at the front. -/
def readCompound? (cx : Context) (fuel : Nat) (cs : List Char) :
    Except SyntaxFault (Read (Option Command)) :=
  match fuel with
  | 0 => cx.exhausted
  | fuel + 1 =>
    match if cx.isLarge then readLarge? cx fuel cs else .ok (none, cs) with
    | .error e => .error e
    | .ok (some c, rest) => .ok (some c, rest)
    | .ok (none, _) =>
    match cs with
    | '(' :: rest => do
      let (body, rest) ← readBody cx fuel ")" rest
      match skipLines false rest with
      | ')' :: rest => .ok (some (.subshell body), rest)
      | rest => .error (misplaced cx fuel true (some "\")\"") rest)
    | cs =>
      match bareWord? cs with
      | some ("\x7b", rest) => do
        let (body, rest) ← readBody cx fuel "\x7d" rest
        let rest ← expectWord cx fuel "\x7d" rest
        .ok (some body, rest)
      | some ("if", rest) => do
        let (c, rest) ← readBranch cx fuel rest
        .ok (some c, rest)
      | some ("while", rest) => do
        let (test, rest) ← readBody cx fuel "do" rest
        let (body, rest) ← readLoopBody cx fuel rest
        .ok (some (.loop false test body), rest)
      | some ("until", rest) => do
        let (test, rest) ← readBody cx fuel "do" rest
        let (body, rest) ← readLoopBody cx fuel rest
        .ok (some (.loop true test body), rest)
      | some ("for", rest) => do
        let (c, rest) ← readEach cx fuel cs.length rest
        .ok (some c, rest)
      | some ("case", rest) => do
        let start := skipToToken rest
        if !cx.isLarge && startsRedirect start then
          .error (misplaced cx fuel false (some "word") start)
        let (word, rest) ← readParts cx fuel .bare [] start
        if word.isEmpty then .error (misplaced cx fuel false (some "word") start)
        let rest ← expectWord cx fuel "in" rest
        let (clauses, rest) ← readClauses cx fuel rest
        .ok (some (.choose word clauses (cx.lineAt cs.length)), rest)
      | _ => .ok (none, cs)

/-- A loop over words, after `for`. -/
def readEach (cx : Context) (fuel start : Nat) (cs : List Char) :
    Except SyntaxFault (Read Command) :=
  match fuel with
  | 0 => cx.exhausted
  | fuel + 1 => do
    let cs := skipToToken cs
    let line := cx.lineAt start
    let afterSign (rest : List Char) : List Char :=
      match rest with
      | ';' :: ';' :: _ => rest
      | ';' :: rest => rest
      | _ => rest
    let (word, rest) ← readParts cx fuel .bare [] cs
    match word with
    | [.plain name] =>
      if !isName name then .error (cx.fault (.loopVariable (frontToken cs)) rest.length)
      else
        match keyword? "in" (skipLines false rest) with
        | some rest => do
          let (words, rest) ← readWords cx fuel rest
          let rest := skipToToken rest
          let ends : Bool := match rest with
            | ';' :: c :: _ => c != ';'
            | c :: _ => c = '\n' || c = ';'
            | [] => false
          if !ends then .error (misplaced cx fuel false none rest)
          let (body, rest) ← readLoopBody cx fuel (afterSign rest)
          .ok (.each name (some words) body line, rest)
        | none => do
          let rest := if cx.isLarge then skipToToken rest else skipLines false rest
          let (body, rest) ← readLoopBody cx fuel (afterSign rest)
          .ok (.each name none body line, rest)
    | [] =>
      .error (cx.fault (.loopVariable (frontToken cs)) (if cs.head? = some '\n' then rest.length - 1
        else rest.length))
    | _ => .error (cx.fault (.loopVariable (frontToken cs)) rest.length)

/-- One command with its redirections. -/
def readCommand (cx : Context) (fuel : Nat) (cs : List Char) : Except SyntaxFault (Read Command) :=
  match fuel with
  | 0 => cx.exhausted
  | fuel + 1 =>
    let cs := skipToToken (if cx.aliases.isEmpty then cs else expandAliases cx.aliases 100 [] cs)
    match readCompound? cx fuel cs with
    | .error e => .error e
    | .ok (some c, rest) => do
      let (redirects, rest) ← readRedirects cx fuel rest
      if redirects.isEmpty then .ok (c, rest)
      else
        let next := skipToToken rest
        let refuses := !cx.isLarge && cx.closer != .clause && signName false next = "word"
        if refuses then .error (misplaced cx fuel false cx.closer.expected next)
        else .ok (.redirected c redirects (cx.lineAt cs.length), rest)
    | .ok (none, cs) =>
      match bareWord? cs with
      | some (word, _) =>
        if reserved.contains word then .error (misplaced cx fuel true none cs)
        else readSimple cx fuel [] [] [] (cx.lineAt cs.length) cs
      | none => readSimple cx fuel [] [] [] (cx.lineAt cs.length) cs

/-- Commands with bars between them. -/
def readStages (cx : Context) (fuel : Nat) (cs : List Char) :
    Except SyntaxFault (Read (List Command)) :=
  match fuel with
  | 0 => cx.exhausted
  | fuel + 1 => do
    let (c, rest) ← readCommand cx fuel cs
    match skipToToken rest with
    | '|' :: '|' :: _ => .ok ([c], rest)
    | '|' :: '&' :: rest =>
      if cx.isLarge then do
        let (more, rest) ← readStages cx fuel (skipLines false rest)
        .ok (.redirected c [.mk 2 .duplicate [.fixed "1"]] (cx.lineAt cs.length) :: more, rest)
      else .error (misplaced cx fuel true none ('&' :: rest))
    | '|' :: rest => do
      let (more, rest) ← readStages cx fuel (skipLines false rest)
      .ok (c :: more, rest)
    | rest => .ok ([c], rest)

/-- A pipeline, perhaps with its result turned round. -/
def readPipeline (cx : Context) (fuel : Nat) (cs : List Char) :
    Except SyntaxFault (Read Command) :=
  match fuel with
  | 0 => cx.exhausted
  | fuel + 1 =>
    let plain (cs : List Char) : Except SyntaxFault (Read Command) := do
      let (stages, rest) ← readStages cx fuel cs
      match stages with
      | [c] => .ok (c, rest)
      | stages => .ok (.pipeline stages, rest)
    match keyword? "!" cs with
    | some rest => do
      let (c, rest) ← if cx.isLarge then readPipeline cx fuel (skipToToken rest)
        else plain (skipToToken rest)
      .ok (.negated c, rest)
    | none => plain cs

/-- Pipelines joined by `&&` and `||`, after the ones read before. -/
def readAndOr (cx : Context) (fuel : Nat) (before : Option (Bool × Command)) (cs : List Char) :
    Except SyntaxFault (Read Command) :=
  match fuel with
  | 0 => cx.exhausted
  | fuel + 1 => do
    let (c, rest) ← readPipeline cx fuel cs
    let c := match before with
      | none => c
      | some (true, l) => .both l c
      | some (false, l) => .either l c
    match skipToToken rest with
    | '&' :: '&' :: rest => readAndOr cx fuel (some (true, c)) (skipLines false rest)
    | '|' :: '|' :: rest => readAndOr cx fuel (some (false, c)) (skipLines false rest)
    | rest => .ok (c, rest)

/-- Commands up to a word or sign that ends a list. With `oneLine`, up to the end of the line. -/
def readUntil (cx : Context) (fuel : Nat) (oneLine : Bool) (cs : List Char) :
    Except SyntaxFault (Read (List Command)) :=
  match fuel with
  | 0 => cx.exhausted
  | fuel + 1 =>
    let cs := if oneLine then skipToToken cs else skipLines false cs
    let ends := match cs with
      | [] => true
      | ')' :: _ => true
      | ';' :: ';' :: _ => true
      | ';' :: '&' :: _ => cx.isLarge
      | '\n' :: _ => true
      | cs =>
        match bareWord? cs with
        | some (word, _) =>
          ["then", "else", "elif", "fi", "do", "done", "esac", "\x7d"].contains word
        | none => false
    if ends then .ok ([], cs)
    else do
      let (c, rest) ← readAndOr cx fuel none cs
      match skipToToken rest with
      | ';' :: ';' :: _ => .ok ([c], rest)
      | ';' :: '&' :: more =>
        if cx.isLarge then .ok ([c], rest)
        else do
          let (more, rest) ← readUntil cx fuel oneLine ('&' :: more)
          .ok (c :: more, rest)
      | ';' :: rest => do
        let (more, rest) ← readUntil cx fuel oneLine rest
        .ok (c :: more, rest)
      | '&' :: after => do
        let (more, rest) ← readUntil cx fuel oneLine after
        let text := (cs.take (cs.length - after.length - 1)).filter (!isHidden ·)
        let text := (text.dropWhile Char.isWhitespace).reverse.dropWhile Char.isWhitespace
        .ok (.background c (String.ofList text.reverse) :: more, rest)
      | '\n' :: rest =>
        if oneLine then .ok ([c], '\n' :: rest)
        else do
          let (more, rest) ← readUntil cx fuel oneLine rest
          .ok (c :: more, rest)
      | rest => .ok ([c], rest)

/-- Commands over any number of lines, up to a word or sign that ends them. -/
def readList (cx : Context) (fuel : Nat) (cs : List Char) :
    Except SyntaxFault (Read (List Command)) :=
  match fuel with
  | 0 => cx.exhausted
  | fuel + 1 => readUntil cx fuel false cs

/-- All commands of a text. The plain dialect does not mind what follows them. -/
def readAll (cx : Context) (fuel : Nat) (cs : List Char) :
    Except SyntaxFault (Read (List Command)) :=
  match fuel with
  | 0 => cx.exhausted
  | fuel + 1 => do
    let (body, rest) ← readList { cx with closer := .nothing } fuel cs
    match skipLines false rest with
    | [] => .ok (body, [])
    | rest =>
      if cx.isLarge then .error (misplaced cx fuel true none rest)
      else .ok (body, [])

end

/-- Deep enough for every text of this length. -/
def fuelFor (cx : Context) (cs : List Char) : Nat :=
  20 * cs.length + 100 + 1000 * cx.aliases.size

/-- The commands of the first line, and the lines after it. -/
def readLine (cx : Context) (cs : List Char) : Except SyntaxFault (Read (List Command)) :=
  let cs := skipLines false cs
  match readUntil cx (fuelFor cx cs) true cs with
  | .error e => .error e
  | .ok (body, rest) =>
    match skipToToken rest with
    | [] => .ok (body, [])
    | '\n' :: rest => .ok (body, rest)
    | rest => .error (misplaced cx (fuelFor cx cs) true none rest)

/-- The parts of a text in which only expansions are carried out. -/
def readText (cx : Context) (cs : List Char) : Word :=
  match readParts cx (fuelFor cx cs) .here [] cs with
  | .ok (w, _) => w
  | .error _ => [.fixed (String.ofList cs)]

end HostFleet.Shell

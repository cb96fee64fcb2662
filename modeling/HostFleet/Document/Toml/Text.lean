/-!
# Strings and blanks of TOML

What may stand between the parts of a TOML text, and its four kinds of strings: with escapes or
without, on one line or on several.
-/

namespace HostFleet.Toml

def isSpace (c : Char) : Bool := c = ' ' || c = '\t'

def skipSpaces (cs : List Char) : List Char := cs.dropWhile isSpace

/-- The characters that stand for themselves in comments and strings. -/
def isPlain (c : Char) : Bool := c = '\t' || (c.toNat ≥ 0x20 && c.toNat ≠ 0x7f)

/-- What follows a line break. -/
def newline? : List Char → Option (List Char)
  | '\n' :: rest => some rest
  | '\r' :: '\n' :: rest => some rest
  | _ => none

/-- What follows the end of a line: blanks, perhaps a comment, and a line break or the end of the
text. -/
def lineEnd? (cs : List Char) : Option (List Char) :=
  let rest := match skipSpaces cs with
    | '#' :: comment => comment.dropWhile isPlain
    | cs => cs
  if rest.isEmpty then some [] else newline? rest

/-- Skips blanks, line breaks and comments. -/
def skipFiller (inComment : Bool) : List Char → List Char
  | [] => []
  | '\n' :: rest => skipFiller false rest
  | '\r' :: '\n' :: rest => skipFiller false rest
  | c :: rest =>
    if inComment then if isPlain c then skipFiller true rest else c :: rest
    else if isSpace c then skipFiller false rest
    else if c = '#' then skipFiller true rest
    else c :: rest

def hexValue? (c : Char) : Option Nat :=
  if c.isDigit then some (c.toNat - 48)
  else if 'a' ≤ c && c ≤ 'f' then some (c.toNat - 87)
  else if 'A' ≤ c && c ≤ 'F' then some (c.toNat - 55)
  else none

/-- The number that exactly `count` hexadecimal digits at the front spell. -/
def hexNumber? (count : Nat) (cs : List Char) : Option Nat := do
  let digits ← (cs.take count).mapM hexValue?
  if digits.length = count then some (digits.foldl (fun n d => n * 16 + d) 0) else none

/-- The character of a code point that is one. -/
def charOf? (n : Nat) : Option Char :=
  if n.isValidChar then some (Char.ofNat n) else none

/-- The character that an escape stands for, and how many characters follow the backslash. -/
def escape? : List Char → Option (Char × Nat)
  | [] => none
  | c :: rest =>
    let numbered (count : Nat) : Option (Char × Nat) := do
      some (← charOf? (← hexNumber? count rest), count + 1)
    if c = 'b' then some ('\x08', 1)
    else if c = 't' then some ('\t', 1)
    else if c = 'n' then some ('\n', 1)
    else if c = 'f' then some ('\x0c', 1)
    else if c = 'r' then some ('\r', 1)
    else if c = 'e' then some ('\x1b', 1)
    else if c = '\x22' || c = '\x5c' then some (c, 1)
    else if c = 'x' then numbered 2
    else if c = 'u' then numbered 4
    else if c = 'U' then numbered 8
    else none

/-- A string as far as it was read, and what follows it. -/
abbrev Reading := List Char × List Char

def Reading.cons (c : Char) (r : Reading) : Reading := (c :: r.1, r.2)

/-- The rest of a string with escapes on one line, after its opening quote. -/
def escaped? (cs : List Char) : Option Reading :=
  match cs with
  | [] => none
  | '\x22' :: rest => some ([], rest)
  | '\x5c' :: rest => do
    let (c, count) ← escape? rest
    (← escaped? (rest.drop count)).cons c
  | c :: rest => if isPlain c then (escaped? rest).map (Reading.cons c) else none
termination_by cs.length
decreasing_by
  · simp only [List.length_drop, List.length_cons]
    omega
  · simp

/-- The rest of a string without escapes on one line, after its opening quote. -/
def literal? (cs : List Char) : Option Reading :=
  let isInside (c : Char) := isPlain c && c != '\x27'
  match cs.dropWhile isInside with
  | '\x27' :: rest => some (cs.takeWhile isInside, rest)
  | _ => none

/-- The quotes at the front of a string on several lines: how many belong to the string, and
what follows them. Three end the string, and up to two may stand before these. -/
def closing? (quote : Char) (cs : List Char) : Option Reading :=
  let count := min (cs.takeWhile (· = quote)).length 5
  if 3 ≤ count then some (List.replicate (count - 3) quote, cs.drop count) else none

theorem length_skipFiller (b : Bool) (cs : List Char) :
    (skipFiller b cs).length ≤ cs.length := by
  fun_induction skipFiller b cs <;> simp_all <;> omega

/-- Skips blanks and line breaks. -/
def skipBlankLines : List Char → List Char
  | [] => []
  | '\r' :: '\n' :: rest => skipBlankLines rest
  | c :: rest => if isSpace c || c = '\n' then skipBlankLines rest else c :: rest

theorem length_skipBlankLines (cs : List Char) : (skipBlankLines cs).length ≤ cs.length := by
  fun_induction skipBlankLines cs <;> simp_all <;> omega

/-- The rest of a string with escapes on several lines. A backslash at the end of a line joins it
with the next word. Line breaks are kept as they are written. -/
def escapedBlock? (cs : List Char) : Option Reading :=
  match cs with
  | [] => none
  | '\x5c' :: rest =>
    if (newline? (skipSpaces rest)).isSome then escapedBlock? (skipBlankLines rest)
    else do
      let (c, count) ← escape? rest
      (← escapedBlock? (rest.drop count)).cons c
  | '\r' :: '\n' :: rest =>
    (escapedBlock? rest).map fun r => (r.cons '\n').cons '\r'
  | c :: rest =>
    match closing? '\x22' (c :: rest) with
    | some r => some r
    | none =>
      if isPlain c || c = '\n' then (escapedBlock? rest).map (Reading.cons c) else none
termination_by cs.length
decreasing_by
  · have := length_skipBlankLines rest
    simp only [List.length_cons]
    omega
  · simp only [List.length_drop, List.length_cons]
    omega
  · simp only [List.length_cons]
    omega
  · simp only [List.length_cons]
    omega

/-- The rest of a string without escapes on several lines. -/
def literalBlock? : List Char → Option Reading
  | [] => none
  | '\r' :: '\n' :: rest => (literalBlock? rest).map fun r => (r.cons '\n').cons '\r'
  | c :: rest =>
    match closing? '\x27' (c :: rest) with
    | some r => some r
    | none => if isPlain c || c = '\n' then (literalBlock? rest).map (Reading.cons c) else none

/-- Skips the line break behind the quotes that open a string on several lines. -/
def afterOpening (cs : List Char) : List Char := (newline? cs).getD cs

/-- The string at the front, and what follows it. -/
def text? : List Char → Option Reading
  | '\x22' :: '\x22' :: '\x22' :: rest => escapedBlock? (afterOpening rest)
  | '\x22' :: rest => escaped? rest
  | '\x27' :: '\x27' :: '\x27' :: rest => literalBlock? (afterOpening rest)
  | '\x27' :: rest => literal? rest
  | _ => none

def isKeyChar (c : Char) : Bool := c.isAlphanum || c = '_' || c = '-'

/-- One part of a key: a bare word, or a string on one line. -/
def keyPart? (cs : List Char) : Option Reading :=
  match cs with
  | '\x22' :: rest => escaped? rest
  | '\x27' :: rest => literal? rest
  | _ =>
    match cs.takeWhile isKeyChar with
    | [] => none
    | word => some (word, cs.dropWhile isKeyChar)

/-- How many parts a key can have, and how deep lists and tables in braces can lie in one
another. -/
def maxDepth : Nat := 80

/-- The parts of a key with dots at the front, at most `count`, and what follows it. -/
def keyParts? : Nat → List Char → Option (List String × List Char)
  | 0, _ => none
  | count + 1, cs => do
    let (part, rest) ← keyPart? cs
    match skipSpaces rest with
    | '.' :: rest =>
      let (more, rest) ← keyParts? count (skipSpaces rest)
      some (String.ofList part :: more, rest)
    | _ => some ([String.ofList part], rest)

/-- The key at the front, and what follows it. -/
def key? (cs : List Char) : Option (List String × List Char) := keyParts? maxDepth cs

end HostFleet.Toml

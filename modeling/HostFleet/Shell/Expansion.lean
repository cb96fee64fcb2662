import HostFleet.Shell.Fields
import HostFleet.Shell.Flow

/-!
# Expansion

Words stand for texts that depend on the state of the shell: on parameters, on arithmetic, and on
what commands write. How commands are carried out is given from outside.
-/

namespace HostFleet.Shell

open Machine

/-- How expansion has commands carried out. -/
structure Hooks where
  /-- The output of commands. -/
  output : List Command → Act String
  /-- The path of a pipe that commands write to, or read from. -/
  channel : Bool → List Command → Act String

/-- What a word is expanded to. -/
inductive Mode where
  | fields
  | text
  /-- A text in which paths can follow colons. -/
  | assignment
  deriving DecidableEq

/-- The values of a parameter. -/
structure Values where
  texts : List String
  /-- Whether each value is an argument of its own. -/
  isList : Bool := false
  /-- Whether the arguments are joined in quotes. -/
  isStar : Bool := false

namespace Values

/-- The text between joined values. -/
def separator (s : State) : String :=
  match s.parameter? "IFS" with
  | none => " "
  | some separators => String.ofList (separators.toList.take 1)

/-- The pieces of the values. -/
def pieces (s : State) (mode : Mode) (quoted : Bool) (v : Values) : List Piece :=
  let spread := (v.texts.map (Piece.held quoted)).intersperse .gap
  if !v.isList then v.texts.map (Piece.held quoted)
  else if mode = .fields then
    if quoted && v.isStar then [.fixed ((separator s).intercalate v.texts)]
    else if quoted && !s.isLarge && !v.texts.isEmpty then spread ++ [.close]
    else spread
  else
    let between := if s.isLarge && !v.isStar then " " else separator s
    [.held quoted (between.intercalate v.texts)]

def text (v : Values) : String := " ".intercalate v.texts

/-- The arguments as one text. Those that stay apart have null characters between them. -/
def joined (s : State) (mode : Mode) (quoted : Bool) (v : Values) : String :=
  let apart := mode = .fields && (if quoted then !v.isStar else (s.parameter? "IFS").isSome)
  (if apart then "\x00" else separator s).intercalate v.texts

/-- The pieces of arguments that are trimmed as one text. A match ends at the first null
character. -/
def trimmedPieces (s : State) (mode : Mode) (quoted front longest : Bool) (p : Pattern)
    (v : Values) : List Piece :=
  let cs := (v.joined s mode quoted).toList
  let upToNull (cs : List Char) : List Char := cs.takeWhile (· != '\x00')
  let all := List.range (cs.length + 1)
  let first := List.range ((upToNull cs).length + 1)
  let cut? : Option Nat :=
    if front then (if longest then all.reverse else first).find? fun n =>
      p.isMatch (upToNull (cs.take n))
    else (if longest then first else all.reverse).find? fun n => p.isMatch (upToNull (cs.drop n))
  let rest := match cut? with
    | none => cs
    | some n => if front then cs.drop n else cs.take n
  (((String.ofList rest).splitOn "\x00").map (Piece.held quoted)).intersperse .gap

end Values

/-- An array that the large shell fills itself. -/
def State.ownArray? (s : State) (name : String) : Option ArrayValue :=
  let numbered (texts : List String) : Option ArrayValue :=
    some { items := texts.zipIdx.map fun (t, i) => (toString i, t) }
  match name with
  | "PIPESTATUS" => numbered (s.stageStatuses.map toString)
  | "FUNCNAME" => if s.calls.isEmpty then none else numbered (s.calls ++ ["main"])
  | "BASH_SOURCE" => numbered (if s.calls.isEmpty then [s.name] else s.calls.map (fun _ => s.name))
  | "BASH_VERSINFO" =>
    numbered ["5", "2", "15", "1", "release", "x86_64-pc-linux-gnu"]
  | "GROUPS" => numbered ["0"]
  | "DIRSTACK" => numbered [s.folder]
  | _ => none

/-- The array of this name. -/
def State.array? (s : State) (name : String) : Option ArrayValue :=
  match s.arrays[name]? with
  | some a => some a
  | none => if s.isLarge then s.ownArray? name else none

/-- The value of a parameter that the large shell works out itself. -/
def State.ownValue? (s : State) (now : Nat) (name : String) : Option String :=
  match name with
  | "RANDOM" => some (toString (s.seed / 65536 % 32768))
  | "SECONDS" => some (toString ((now - s.begun) / 1000000))
  | "EPOCHSECONDS" => some (toString (Machine.clockStart + now / 1000000))
  | "BASHPID" => some (toString s.pid)
  | "BASH_SUBSHELL" => some (if s.isCopy then "1" else "0")
  | "LINENO" => some (toString s.line)
  | name => (s.ownArray? name).bind fun a => a.get? "0"

/-! ## Tildes -/

/-- The home folder of a user, by the list of users. -/
def homeOf? (s : State) (users : String) (name : String) : Option String :=
  if name.isEmpty then s.parameter? "HOME"
  else if s.isLarge && name = "+" then some s.folder
  else if s.isLarge && name = "-" then s.parameter? "OLDPWD"
  else (ByteText.lines users).findSome? fun line =>
    match line.splitOn ":" with
    | [user, _, _, _, _, home, _] => if user = name then some home else none
    | _ => none

/-- The parts of a text that begins with a tilde. The name of a user ends at a slash, at the end
of the word, or at a colon if these separate paths. -/
def tildeParts (s : State) (users : String) (colons isLast : Bool) (text : String) :
    List Part :=
  match text.toList with
  | '~' :: cs =>
    let name := cs.takeWhile fun c => c != '/' && !(colons && c = ':')
    let rest := cs.drop name.length
    if rest.isEmpty && !isLast then [.plain text]
    else match homeOf? s users (String.ofList name) with
      | some home => .fixed home :: if rest.isEmpty then [] else [.plain (String.ofList rest)]
      | none => [.plain text]
  | _ => [.plain text]

/-- Tildes of a word as home folders. -/
def tildes (s : State) (users : String) (colons : Bool) (atFront : Bool) : Word → Word
  | [] => []
  | .plain text :: rest =>
    let here :=
      if colons then
        let texts := text.splitOn ":"
        let last := texts.length - 1
        ((texts.zipIdx.map fun (t, i) =>
          if i = 0 && !atFront then [Part.plain t]
          else tildeParts s users true (i < last || rest.isEmpty) t).intersperse
            [.plain ":"]).flatten
      else if atFront then tildeParts s users false rest.isEmpty text
      else [.plain text]
    here ++ tildes s users colons (colons && text.endsWith ":") rest
  | part :: rest => part :: tildes s users colons false rest

def hasTilde (w : Word) : Bool :=
  w.any fun
    | .plain text => text.contains '~'
    | _ => false

/-! ## Braces -/

/-- A character outside quotes, or a part of a word. -/
inductive Atom where
  | char (c : Char)
  | part (p : Part)

def Atom.ofWord (w : Word) : List Atom :=
  w.flatMap fun
    | .plain s => s.toList.map .char
    | p => [.part p]

def Atom.toWord (as : List Atom) : Word :=
  as.foldr (fun a w =>
    match a, w with
    | .char c, .plain s :: rest => .plain (String.singleton c ++ s) :: rest
    | .char c, w => .plain (String.singleton c) :: w
    | .part p, w => p :: w) []

/-- The parts between commas of what stands in braces, and what follows. -/
def braceParts (depth : Nat) (current : List Atom) (done : List (List Atom)) :
    List Atom → Option (List (List Atom) × List Atom)
  | [] => none
  | .char c :: rest =>
    if c = '\x7b' then braceParts (depth + 1) (.char c :: current) done rest
    else if c = '\x7d' then
      match depth with
      | 0 => some ((current.reverse :: done).reverse, rest)
      | depth + 1 => braceParts depth (.char c :: current) done rest
    else if c = ',' && depth = 0 then braceParts depth [] (current.reverse :: done) rest
    else braceParts depth (.char c :: current) done rest
  | a :: rest => braceParts depth (a :: current) done rest

/-- Numbers or letters from one to another. -/
def braceRange? (text : String) : Option (List String) :=
  let integer? (s : String) : Option Int :=
    match s.toList with
    | '-' :: ds => if !ds.isEmpty && ds.all Char.isDigit then s.toInt? else none
    | ds => if !ds.isEmpty && ds.all Char.isDigit then s.toInt? else none
  let steps (a b : Int) (by' : Nat) : List Int :=
    let by' := max by' 1
    let count := (b - a).natAbs / by' + 1
    (List.range count).map fun (i : Nat) =>
      if a ≤ b then a + (i * by' : Nat) else a - (i * by' : Nat)
  let make (a b : String) (by' : Nat) : Option (List String) :=
    match integer? a, integer? b with
    | some m, some n =>
      let padded (s : String) : Bool :=
        (s.startsWith "0" && 1 < s.length) || s.startsWith "-0"
      let width := if padded a || padded b then max a.length b.length else 0
      some ((steps m n by').map fun i =>
        let ds := toString i.natAbs
        let sign := if i < 0 then "-" else ""
        sign ++ "".pushn '0' (width - sign.length - ds.length) ++ ds)
    | _, _ =>
      match a.toList, b.toList with
      | [c], [d] =>
        if c.isAlpha && d.isAlpha then
          some ((steps c.toNat d.toNat by').map fun i => String.singleton (Char.ofNat i.toNat))
        else none
      | _, _ => none
  match text.splitOn ".." with
  | [a, b] => make a b 1
  | [a, b, c] => (integer? c).bind fun n => make a b n.natAbs
  | _ => none

/-- The words that braces make of a word. -/
def spread (fuel : Nat) (front : List Atom) (as : List Atom) : List (List Atom) :=
  match fuel, as with
  | 0, as => [front.reverse ++ as]
  | _, [] => [front.reverse]
  | fuel + 1, .char c :: rest =>
    if c != '\x7b' then spread fuel (.char c :: front) rest
    else
      let plain := spread fuel (.char c :: front) rest
      match braceParts 0 [] [] rest with
      | none => plain
      | some ([inner], after) =>
        let text := String.ofList (inner.filterMap fun
          | .char c => some c
          | .part _ => none)
        match if inner.length = text.length then braceRange? text else none with
        | some items => items.flatMap fun item =>
          spread fuel ((item.toList.map Atom.char).reverse ++ front) after
        | none => plain
      | some (choices, after) => choices.flatMap fun choice =>
        (spread fuel [] choice).flatMap fun inner =>
          spread fuel (inner.reverse ++ front) after
  | fuel + 1, a :: rest => spread fuel (a :: front) rest

/-- The words that braces make of a word, which is left alone if it has none. -/
def spreadBraces (w : Word) : List Word :=
  let as := Atom.ofWord w
  let opens := as.any fun
    | .char c => c = '\x7b'
    | .part _ => false
  if opens then (spread (4 * as.length + 10) [] as).map Atom.toWord else [w]

/-! ## Treatments of the large dialect -/

def recase (large : Bool) (c : Char) : Char := if large then c.toUpper else c.toLower

/-- The text with its first, or all, matching characters in large or small letters. -/
def recased (large all : Bool) (pattern : Option Pattern) (text : String) : String :=
  let change (c : Char) : Char :=
    match pattern with
    | some p => if p.isMatch [c] then recase large c else c
    | none => recase large c
  if all then text.map change
  else match text.toList with
    | [] => ""
    | c :: cs => String.ofList (change c :: cs)

/-- The text with a word in place of what the pattern matches, which can be nothing in front of a
character. An ampersand in the word is what was matched. -/
def replaced (fuel : Nat) (everywhere : Bool) (p : Pattern) (word : List PatternChar)
    (cs : List Char) : List Char :=
  match fuel, cs with
  | 0, cs => cs
  | _, [] => []
  | fuel + 1, c :: rest =>
    match p.longestFront? (c :: rest) with
    | some (n + 1) =>
      let found := (c :: rest).take (n + 1)
      let after := (c :: rest).drop (n + 1)
      substitute word found ++ if everywhere then replaced fuel true p word after else after
    | some 0 =>
      if p.isEmpty then cs
      else substitute word [] ++ c :: if everywhere then replaced fuel true p word rest else rest
    | none => c :: replaced fuel everywhere p word rest
where
  substitute (word : List PatternChar) (found : List Char) : List Char :=
    word.flatMap fun (c, quoted) => if c = '&' && !quoted then found else [c]

def beginsWithStar : Pattern → Bool
  | .many :: _ => true
  | .group '*' _ :: _ => true
  | _ => false

/-- The text with a word in place of a match at its front or its end. -/
def replacedAt (front : Bool) (p : Pattern) (word : List PatternChar) (text : String) : String :=
  let cs := text.toList
  if front then
    match p.longestFront? cs with
    | some n => String.ofList (replaced.substitute word (cs.take n) ++ cs.drop n)
    | none => text
  else
    match p.longestBack? cs with
    | some n =>
      let start := cs.length - n
      String.ofList (cs.take start ++ replaced.substitute word (cs.drop start))
    | none => text

/-- A value as the large shell quotes it. -/
def quotedValue (s : String) : String :=
  if s.toList.all ShellWord.isPrintable then "\x27" ++ "\x27\x5c\x27\x27".intercalate
    (s.splitOn "\x27") ++ "\x27"
  else ShellWord.escaped s

/-! ## Expansion -/

/-- Part of a text, or of a list, from an offset on. -/
def slice {α : Type} (whole : List α) (offset : Int) (length : Option Int) :
    Except Unit (List α) :=
  let size : Int := whole.length
  let start := if offset < 0 then size + offset else offset
  if start < 0 || size < start then .ok []
  else match length with
    | none => .ok (whole.drop start.toNat)
    | some n =>
      if 0 ≤ n then .ok ((whole.drop start.toNat).take n.toNat)
      else
        let stop := size + n
        if stop < start then .error () else .ok ((whole.take stop.toNat).drop start.toNat)

mutual

/-- The pieces that a word expands to. -/
def expand (h : Hooks) (fuel : Nat) (mode : Mode) (word : Word) : Act (List Piece) :=
  match fuel with
  | 0 => Act.leave (.exit 2)
  | fuel + 1 => do
    let word ← if hasTilde word then do
        let users ← Program.look fun _ k =>
          match k.files.lookup true "/" "/etc/passwd" with
          | .ok (_, .file content) => ByteText.ofBytes content
          | _ => ""
        pure (tildes (← Act.state) users (mode = .assignment) true word)
      else pure word
    pure (← word.mapM (expandPart h fuel mode)).flatten

def expandPart (h : Hooks) (fuel : Nat) (mode : Mode) (part : Part) : Act (List Piece) :=
  match fuel with
  | 0 => Act.leave (.exit 2)
  | fuel + 1 =>
    match part with
    | .plain s => pure [.plain s]
    | .fixed s => pure [.fixed s]
    | .bad text => do
      if (← Act.state).isLarge then Act.fail s!"{text}: bad substitution"
      else Act.fail "Bad substitution"
    | .arithmetic quoted body => do
      let text ← expandText h fuel .text body
      pure [.held quoted (toString (← Act.evaluate text))]
    | .output quoted body => do pure [.held quoted (← h.output body)]
    | .channel isInput body => do pure [.fixed (← h.channel isInput body)]
    | .parameter quoted name subscript treatment words =>
      expandParameter h fuel mode quoted name subscript treatment words

/-- The values of a parameter, if it is set. -/
def values? (h : Hooks) (fuel : Nat) (name : String) (subscript : Option Word) :
    Act (Option Values) :=
  match fuel with
  | 0 => Act.leave (.exit 2)
  | fuel + 1 => do
    let s ← Act.state
    let name := s.resolve name
    match name, subscript with
    | "@", _ =>
      pure (if s.args.isEmpty && s.isLarge then none else some ⟨s.args, true, false⟩)
    | "*", _ => pure (if s.args.isEmpty && s.isLarge then none else some ⟨s.args, true, true⟩)
    | name, none =>
      match s.parameter? name with
      | some value => pure (some ⟨[value], false, false⟩)
      | none =>
        if s.isLarge then do
          let own := s.ownValue? (← Program.now) name
          if name = "RANDOM" then
            Act.update fun s => { s with seed := s.seed * 1103515245 % Nat.pow 2 31 + 12345 }
          pure (own.map fun value => ⟨[value], false, false⟩)
        else pure none
    | name, some subscript => do
      let array := s.array? name
      match subscript with
      | [.fixed "@"] => pure (all array s name false)
      | [.fixed "*"] => pure (all array s name true)
      | subscript => do
        let text ← expandText h fuel .text subscript
        let key ← Act.keyOf name text
        let s ← Act.state
        let value := match s.array? name with
          | some a => a.get? key
          | none => if key = "0" then s.parameter? name else none
        pure (value.map fun v => ⟨[v], false, false⟩)
where
  all (array : Option ArrayValue) (s : State) (name : String) (isStar : Bool) : Option Values :=
    match array with
    | some a => if a.items.isEmpty then none else some ⟨a.items.map Prod.snd, true, isStar⟩
    | none => (s.parameter? name).map fun v => ⟨[v], true, isStar⟩

def expandParameter (h : Hooks) (fuel : Nat) (mode : Mode) (quoted : Bool) (name : String)
    (subscript : Option Word) (treatment : Treatment) (words : List Word) : Act (List Piece) :=
  match fuel with
  | 0 => Act.leave (.exit 2)
  | fuel + 1 => do
    let values ← values? h fuel name subscript
    let s ← Act.state
    let word := words.headD []
    let isSpread : Bool := name == "@" || name == "*" || match subscript with
      | some [.fixed text] => text == "@" || text == "*"
      | _ => false
    let unset : List Piece :=
      if !quoted then [.loose ""]
      else if name == "@" || (isSpread && s.isLarge && name != "*"
        && !(match subscript with
          | some [.fixed text] => text == "*"
          | _ => false)) then []
      else [.fixed ""]
    let own : List Piece := match values with
      | some v => v.pieces s mode quoted
      | none => unset
    let value := (values.map Values.text).getD ""
    let isMissing (orEmpty : Bool) : Bool := values.isNone || (orEmpty && value.isEmpty)
    let instead : Act (List Piece) := do
      pure ((← expand h fuel mode word).map fun
        | .plain text => .held quoted text
        | piece => piece)
    let shownName := name ++ match subscript with
      | some [.fixed text] => "[" ++ text ++ "]"
      | _ => ""
    let demand : Act Unit := do
      if values.isNone && s.has "nounset" && !isSpread then
        if s.isLarge then do
          Act.complain s!"{shownName}: unbound variable"
          Act.leave (.exit (if s.isGiven then 127 else 1))
        else Act.fail s!"{name}: parameter not set"
    let each (change : String → String) : List Piece := match values with
      | some v => { v with texts := v.texts.map change }.pieces s mode quoted
      | none => unset
    let patternOf (word : Word) : Act Pattern := do
      pure (Pattern.read s.isLarge ((← expand h fuel .text word).flatMap Piece.pattern))
    match treatment with
    | .value => do
      demand
      pure own
    | .length => do
      demand
      if isSpread && (s.isLarge || subscript.isSome) then
        pure [.held quoted (toString ((values.map (·.texts.length)).getD 0))]
      else
        let text := match values with
          | some v => if v.isList then v.joined s .text quoted else value
          | none => value
        pure [.held quoted (toString text.length)]
    | .orElse orEmpty => if isMissing orEmpty then instead else pure own
    | .andThen orEmpty => if isMissing orEmpty then pure unset else instead
    | .orSet orEmpty =>
      if isMissing orEmpty then do
        let text ← expandText h fuel .text word
        if isName name then
          match subscript with
          | some subscript => Act.assignItem name (← expandText h fuel .text subscript) false text
          | none => Act.assignText name false text
        else if s.isLarge then Act.fail s!"${name}: cannot assign in this way"
        else Act.fail s!"{name}: bad variable name"
        pure [.held quoted text]
      else pure own
    | .orFail orEmpty =>
      if isMissing orEmpty then do
        let text ← expandText h fuel .text word
        if s.isLarge then do
          let usual := if orEmpty then "parameter null or not set" else "parameter not set"
          Act.complain (shownName ++ ": " ++ if word.isEmpty then usual else text)
          Act.leave (.exit (if s.isGiven then 127 else 1))
        else
          let usual := if orEmpty then "parameter not set or null" else "parameter not set"
          Act.fail (name ++ ": " ++ if word.isEmpty then usual else text)
      else pure own
    | .trim front longest => do
      demand
      if values.isNone && !s.isLarge then pure unset
      else
      let p ← patternOf word
      let trimmed (text : String) : String :=
        if front then p.trimFront longest text else p.trimBack longest text
      match values with
      | some v =>
        if v.isList && !s.isLarge then pure (v.trimmedPieces s mode quoted front longest p)
        else pure (each trimmed)
      | none => pure (each trimmed)
    | .slice => do
      demand
      let number (w : Word) : Act Int := do Act.evaluate (← expandText h fuel .text w)
      let offset ← number word
      let length ← match words with
        | [_, w] => do pure (some (← number w))
        | _ => pure none
      let beyond : Act (List Piece) := do
        Act.fail s!"{length.getD 0}: substring expression < 0"
      match values with
      | none => pure unset
      | some v =>
        if v.isList then
          let texts := if subscript.isSome then v.texts else s.name :: v.texts
          match slice texts offset length with
          | .ok texts => pure ({ v with texts := texts }.pieces s mode quoted)
          | .error () => beyond
        else match slice value.toList offset length with
          | .ok cs => pure [.held quoted (String.ofList cs)]
          | .error () => beyond
    | .replace everywhere atFront atEnd => do
      demand
      let p ← patternOf word
      let word ← match words with
        | [_, w] => do pure ((← expand h fuel .text w).flatMap Piece.pattern)
        | _ => pure []
      pure (each fun text =>
        if atFront then replacedAt true p word text
        else if atEnd then replacedAt false p word text
        else if text.isEmpty && beginsWithStar p && p.isMatch [] then
          String.ofList (replaced.substitute word [])
        else String.ofList (replaced (text.length + 1) everywhere p word text.toList))
    | .recase large all => do
      demand
      let p ← if word.isEmpty then pure none else do pure (some (← patternOf word))
      pure (each (recased large all p))
    | .indirect => do
      demand
      if (s.references[name]?).isSome then pure [.held quoted (s.references[name]?.getD "")]
      else if value.isEmpty then Act.fail s!"{name}: invalid indirect expansion"
      else
        let target := String.ofList (value.toList.takeWhile (· != '['))
        let key := String.ofList ((value.toList.drop (target.length + 1)).dropLast)
        expandParameter h fuel mode quoted target
          (if target = value then none else some [.fixed key]) .value []
    | .names =>
      match subscript with
      | some [.fixed sign] =>
        let keys := match s.array? name with
          | some a => a.items.map Prod.fst
          | none => if (s.parameter? name).isSome then ["0"] else []
        pure (if keys.isEmpty then [] else
          ({ texts := keys, isList := true, isStar := sign == "*" } : Values).pieces s mode quoted)
      | _ =>
        let names := (Std.ExtTreeSet.ofList (s.vars.keys ++ s.arrays.keys) : NameSet).toList
        let names := names.filter fun n => n.startsWith name
        pure (if names.isEmpty then [] else
          ({ texts := names, isList := true } : Values).pieces s mode quoted)
    | .transform how => do
      demand
      pure (each fun text =>
        match how with
        | 'Q' => quotedValue text
        | 'U' => text.map Char.toUpper
        | 'L' => text.map Char.toLower
        | 'u' => recased true false none text
        | 'E' => String.ofList (unescaped (text.length + 1) text.toList)
        | 'A' => name ++ "=" ++ quotedValue text
        | _ => text)

/-- The text that a word expands to where no fields are wanted. -/
def expandText (h : Hooks) (fuel : Nat) (mode : Mode) (word : Word) : Act String :=
  match fuel with
  | 0 => Act.leave (.exit 2)
  | fuel + 1 => do
    pure (String.join ((← expand h fuel mode word).map Piece.text))

end

/-- The fields that words expand to. -/
def expandFields (h : Hooks) (fuel : Nat) (words : List Word) : Act (List String) := do
  let large := (← Act.state).isLarge
  let words := if large && (← Act.state).has "braceexpand" then words.flatMap spreadBraces
    else words
  let fields ← words.mapM fun word => do
    let pieces ← expand h fuel .fields word
    let s ← Act.state
    let split := Splitter.fields s.separators pieces
    if s.has "noglob" || !(split.any Field.isPattern) then pure (split.map Field.text)
    else do
      let g : Globbing := {
        files := ← Program.files
        folder := ← Program.folder
        groups := s.isLarge && s.has "extglob"
        dropsEmpty := s.has "nullglob"
        showsHidden := s.has "dotglob" }
      pure (split.flatMap (Field.paths g))
  pure fields.flatten

/-- The pattern that a word expands to. -/
def expandPattern (h : Hooks) (fuel : Nat) (word : Word) : Act Pattern := do
  let s ← Act.state
  pure (Pattern.read s.isLarge ((← expand h fuel .text word).flatMap Piece.pattern))

end HostFleet.Shell

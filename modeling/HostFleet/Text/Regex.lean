import HostFleet.Text.CharClass

/-!
# Regular expressions

The two notations of regular expressions in system programs, basic and extended, and matching by
the rule that of all matches the first one counts, and of those at one place the longest.
-/

namespace HostFleet

/-- A member of a bracket: characters from one to another, or those of a class. -/
inductive Regex.Member where
  | range (lo hi : Char)
  | ofClass (name : String)
  deriving Repr, DecidableEq

inductive Regex where
  | empty
  | char (c : Char)
  | any
  | oneOf (outside : Bool) (members : List Regex.Member)
  | seq (a b : Regex)
  | alt (a b : Regex)
  | group (n : Nat) (r : Regex)
  /-- At least so often, and at most so often if there is a bound. -/
  | repeated (r : Regex) (least : Nat) (most : Option Nat)
  | lineStart
  | lineEnd
  /-- The edge of a word: any, no, the first or the last one; or a place with no word before or
  behind it. -/
  | edge (kind : Char)
  /-- What a group has matched. -/
  | back (n : Nat)
  deriving Repr, Inhabited

namespace Regex

/-- How texts are compared. -/
structure Options where
  ignoreCase : Bool := false
  /-- Whether lines begin and end inside a text too. -/
  multiline : Bool := false
  /-- Whether the text begins in the middle of a line. -/
  notStart : Bool := false
  deriving Repr

/-! ## Matching -/

def isWordChar (c : Char) : Bool := c.isAlphanum || c = '_'

def Member.accepts (o : Options) (c : Char) : Member → Bool
  | .range lo hi =>
    (lo ≤ c && c ≤ hi) || (o.ignoreCase &&
      ((lo ≤ c.toLower && c.toLower ≤ hi) || (lo ≤ c.toUpper && c.toUpper ≤ hi)))
  | .ofClass name =>
    CharClass.isOfClass (if o.ignoreCase && (name = "upper" || name = "lower") then "alpha"
      else name) c

/-- What the groups have matched: places from and to. -/
abbrev Groups := List (Nat × Nat × Nat)

/-- The best match so far: where it ends, and what its groups matched. -/
abbrev Best := Option (Nat × Groups)

/-- Goes on after a part has matched. -/
abbrev Next := Nat → Groups → Best → Best

/-- Whether no better match can be found. -/
def isDone (text : Array Char) : Best → Bool
  | some (stop, _) => stop == text.size
  | none => false

/-- Repeats a part as often as it can, then less often. -/
def repeatMatch (one : Nat → Groups → Best → Next → Best) (text : Array Char) (fuel : Nat)
    (least : Nat) (most : Option Nat) (i : Nat) (gs : Groups) (best : Best) (next : Next) : Best :=
  match fuel with
  | 0 => best
  | fuel + 1 =>
    if isDone text best then best
    else
      let best := if most = some 0 then best
        else one i gs best fun j gs best =>
          if j = i && least = 0 then best
          else repeatMatch one text fuel (least - 1) (most.map (· - 1)) j gs best next
      if 0 < least then best else next i gs best

def matchAt (o : Options) (text : Array Char) (r : Regex) (i : Nat) (gs : Groups) (best : Best)
    (next : Next) : Best :=
  if isDone text best then best
  else
    let same (a b : Char) : Bool := a == b || (o.ignoreCase && a.toLower == b.toLower)
    let step (p : Char → Bool) : Best :=
      match text[i]? with
      | some c => if p c then next (i + 1) gs best else best
      | none => best
    let before := if i = 0 then none else text[i - 1]?
    let when' (b : Bool) : Best := if b then next i gs best else best
    match r with
    | .empty => next i gs best
    | .char c => step (same c)
    | .any => step fun _ => true
    | .oneOf outside members => step fun c =>
      outside != members.any (Member.accepts o c)
    | .seq a b => matchAt o text a i gs best fun j gs best => matchAt o text b j gs best next
    | .alt a b =>
      let best := matchAt o text a i gs best next
      matchAt o text b i gs best next
    | .group n r => matchAt o text r i gs best fun j gs best =>
      next j ((n, i, j) :: gs.filter (·.1 != n)) best
    | .repeated r least most =>
      repeatMatch (fun i gs best next => matchAt o text r i gs best next) text
        (text.size + least + 2) least most i gs best next
    | .lineStart => when' ((i = 0 && !o.notStart) || (o.multiline && before == some '\n'))
    | .lineEnd => when' (i = text.size || (o.multiline && text[i]? == some '\n'))
    | .edge kind =>
      let l := before.any isWordChar
      let r := text[i]?.any isWordChar
      when' (match kind with
        | 'b' => l != r
        | 'B' => l == r
        | '<' => !l && r
        | 'l' => !l
        | 'r' => !r
        | '>' => l && !r
        | '\x60' => i = 0
        | _ => i = text.size)
    | .back n =>
      match gs.find? (·.1 == n) with
      | none => best
      | some (_, lo, hi) =>
        let isSame := (List.range (hi - lo)).all fun k =>
          match text[lo + k]?, text[i + k]? with
          | some a, some b => same a b
          | _, _ => false
        if isSame then next (i + (hi - lo)) gs best else best

/-- A match: from where to where, and what the groups matched. -/
structure Match where
  start : Nat
  stop : Nat
  groups : Groups := []
  deriving Repr

/-- The longest match at a place. -/
def longestAt? (o : Options) (r : Regex) (text : Array Char) (i : Nat) : Option Match :=
  (matchAt o text r i [] none fun j gs best =>
    match best with
    | some (stop, _) => if stop < j then some (j, gs) else best
    | none => some (j, gs)).map fun (stop, gs) => ⟨i, stop, gs⟩

/-- The characters with which a match can begin, if only some can. -/
def firstChars? : Regex → Option (List Char)
  | .char c => some [c]
  | .seq a b => match firstChars? a with
    | some cs => some cs
    | none => match a with
      | .empty => firstChars? b
      | _ => none
  | .group _ r => firstChars? r
  | .alt a b => do some ((← firstChars? a) ++ (← firstChars? b))
  | .repeated r least _ => if 0 < least then firstChars? r else none
  | _ => none

/-- The first match at one of `count` places from `i` on. -/
def firstMatch? (o : Options) (r : Regex) (text : Array Char) (starts : Option (List Char))
    (count i : Nat) : Option Match :=
  match count with
  | 0 => none
  | count + 1 =>
    let fits := match starts, text[i]? with
      | some cs, some c => cs.contains c
      | some _, none => false
      | none, _ => true
    match if fits then longestAt? o r text i else none with
    | some m => some m
    | none => firstMatch? o r text starts count (i + 1)

/-- The first match from a place on. -/
def search? (o : Options) (r : Regex) (text : Array Char) (from' : Nat) : Option Match :=
  firstMatch? o r text (if o.ignoreCase then none else firstChars? r) (text.size + 1 - from')
    from'

def isMatch (o : Options) (r : Regex) (text : String) : Bool :=
  (search? o r text.toList.toArray 0).isSome

/-- The matches one after the other. An empty one does not touch the one before. -/
def allMatches (o : Options) (r : Regex) (text : Array Char) (fuel : Nat) (from' : Nat)
    (last : Option Nat) : List Match :=
  match fuel with
  | 0 => []
  | fuel + 1 =>
    match search? o r text from' with
    | none => []
    | some m =>
      if m.start = m.stop then
        if last = some m.start then
          if m.stop < text.size then allMatches o r text fuel (m.stop + 1) none else []
        else
          m :: if m.stop < text.size then allMatches o r text fuel (m.stop + 1) none else []
      else m :: allMatches o r text fuel m.stop (some m.stop)

def Match.text (m : Match) (text : Array Char) : List Char :=
  (text.extract m.start m.stop).toList

/-- What a group has matched. -/
def Match.group? (m : Match) (text : Array Char) (n : Nat) : Option (List Char) :=
  if n = 0 then some (m.text text)
  else (m.groups.find? (·.1 == n)).map fun g => (text.extract g.2.1 g.2.2).toList

/-! ## Notation -/

/-- What is wrong with an expression. -/
inductive Fault where
  | bracket
  | parenthesis
  | closing
  | brace
  | braceContent
  | backslash
  | back
  | range
  | nothingToRepeat
  | className
  | collation
  | tooBig
  | incomplete
  deriving DecidableEq, Repr

def Fault.message : Fault → String
  | .bracket => "Unmatched [, [^, [:, [., or [="
  | .parenthesis => "Unmatched ( or \x5c("
  | .closing => "Unmatched ) or \x5c)"
  | .brace => "Unmatched \x5c\x7b"
  | .braceContent => "Invalid content of \x5c\x7b\x5c\x7d"
  | .backslash => "Trailing backslash"
  | .back => "Invalid back reference"
  | .range => "Invalid range end"
  | .nothingToRepeat => "Invalid preceding regular expression"
  | .className => "Invalid character class name"
  | .collation => "Invalid collation character"
  | .incomplete => "Invalid regular expression"
  | .tooBig => "Regular expression too big"

/-- Which notation is read. -/
structure Style where
  extended : Bool
  /-- Whether a backslash gives words, edges and groups of the past a meaning. -/
  extras : Bool := true
  /-- Whether signs for repetition are taken as they come, even if there is nothing to repeat. -/
  isLenient : Bool := true
  /-- Whether a parenthesis that closes nothing stands for itself. -/
  hasPlainClosing : Bool := true
  /-- Whether the part that is read stands in parentheses. -/
  isInside : Bool := false
  deriving Repr

/-- An expression read so far, how many groups it has, and what follows. -/
abbrev Reading := Except Fault (Regex × Nat × List Char)

/-- A member of a bracket with a name, such as a class, and what follows. -/
def namedMember? (mark : Char) (cs : List Char) : Option (List Char × List Char) :=
  let name := cs.takeWhile (· != mark)
  match cs.drop name.length with
  | _ :: ']' :: rest => some (name, rest)
  | _ => none

/-- The members of a bracket up to its end. -/
def members (escapes : Bool) (fuel : Nat) (first : Bool) (done : List Member) (cs : List Char) :
    Except Fault (List Member × List Char) :=
  match fuel, cs with
  | 0, _ => .error .bracket
  | _, [] => .error (if first then .incomplete else .bracket)
  | fuel + 1, ']' :: rest =>
    if first then after fuel done ']' rest else .ok (done.reverse, rest)
  | fuel + 1, '[' :: ':' :: rest =>
    match namedMember? ':' rest with
    | some (name, rest) =>
      let name := String.ofList name
      if CharClass.classNames.contains name then
        members escapes fuel false (.ofClass name :: done) rest
      else .error .className
    | none => .error .bracket
  | fuel + 1, '[' :: '=' :: rest =>
    match namedMember? '=' rest with
    | some ([c], rest) => members escapes fuel false (.range c c :: done) rest
    | some _ => .error .collation
    | none => .error .bracket
  | fuel + 1, '[' :: '.' :: rest =>
    match namedMember? '.' rest with
    | some ([c], rest) => after fuel done c rest
    | some _ => .error .collation
    | none => .error .bracket
  | fuel + 1, '\x5c' :: c :: rest =>
    if escapes then
      let c := match c with
        | 'n' => '\n'
        | 't' => '\t'
        | 'r' => '\r'
        | 'f' => '\x0c'
        | 'v' => '\x0b'
        | 'a' => '\x07'
        | c => c
      after fuel done c rest
    else after fuel done '\x5c' (c :: rest)
  | fuel + 1, c :: rest => after fuel done c rest
where
  /-- A character, which may begin a range. -/
  after (fuel : Nat) (done : List Member) (c : Char) (rest : List Char) :
      Except Fault (List Member × List Char) :=
    match rest with
    | '-' :: d :: more =>
      if d = ']' then members escapes fuel false (.range c c :: done) rest
      else if d = '[' && more.head? = some '.' then
        match namedMember? '.' more.tail with
        | some ([e], more) => ranged fuel done c e more
        | _ => .error .bracket
      else if d = '\x5c' && escapes then
        match more with
        | e :: more => ranged fuel done c e more
        | [] => .error .bracket
      else ranged fuel done c d more
    | rest => members escapes fuel false (.range c c :: done) rest
  ranged (fuel : Nat) (done : List Member) (c d : Char) (rest : List Char) :
      Except Fault (List Member × List Char) :=
    if d < c then .error .range else members escapes fuel false (.range c d :: done) rest

/-- The sign at the front that tells how often a part is repeated, and what follows. -/
def interval? (st : Style) (cs : List Char) :
    Except Fault (Option ((Nat × Option Nat) × List Char)) :=
  let number (cs : List Char) : Option Nat × List Char :=
    let ds := cs.takeWhile Char.isDigit
    (if ds.isEmpty then none else some (ds.foldl (fun n c => n * 10 + (c.toNat - 48)) 0),
      cs.drop ds.length)
  let isEnd (cs : List Char) : Option (List Char) := match st.extended, cs with
    | true, '\x7d' :: rest => some rest
    | false, '\x5c' :: '\x7d' :: rest => some rest
    | _, _ => none
  let bounds (rest : List Char) : Except Fault (Option ((Nat × Option Nat) × List Char)) :=
    let (lo, rest) := number rest
    let wrong : Except Fault (Option ((Nat × Option Nat) × List Char)) :=
      if st.extended && st.isLenient then .ok none
      else if rest.isEmpty then .error .brace else .error .braceContent
    match isEnd rest, lo with
    | some after, some n =>
      if 32767 < n then .error .tooBig else .ok (some ((n, some n), after))
    | some _, none => wrong
    | none, lo =>
      match rest with
      | ',' :: rest =>
        let (hi, rest) := number rest
        match isEnd rest with
        | some after =>
          if hi.any fun h => h < lo.getD 0 then .error .braceContent
          else if (hi.getD 0) > 32767 then .error .tooBig
          else .ok (some ((lo.getD 0, hi), after))
        | none => wrong
      | _ => wrong
  match st.extended, cs with
  | true, '\x7b' :: rest => bounds rest
  | false, '\x5c' :: '\x7b' :: rest => bounds rest
  | _, _ => .ok none

/-- How often a part is repeated by the sign at the front, if one stands there. -/
def repetition? (st : Style) (cs : List Char) :
    Except Fault (Option ((Nat × Option Nat) × List Char)) :=
  match cs with
  | '*' :: rest => .ok (some ((0, none), rest))
  | '+' :: rest => if st.extended then .ok (some ((1, none), rest)) else .ok none
  | '?' :: rest => if st.extended then .ok (some ((0, some 1), rest)) else .ok none
  | '\x5c' :: '+' :: rest =>
    if !st.extended && st.extras then .ok (some ((1, none), rest)) else .ok none
  | '\x5c' :: '?' :: rest =>
    if !st.extended && st.extras then .ok (some ((0, some 1), rest)) else .ok none
  | cs => interval? st cs

/-- A part with the signs behind it that tell how often it is repeated. -/
def withRepetitions (st : Style) (fuel : Nat) (r : Regex) (cs : List Char) :
    Except Fault (Regex × List Char) :=
  match fuel with
  | 0 => .ok (r, cs)
  | fuel + 1 =>
    match repetition? st cs with
    | .error e => .error e
    | .ok none => .ok (r, cs)
    | .ok (some ((least, most), rest)) =>
      let again := match rest with
        | '*' :: _ => true
        | '\x5c' :: '\x7b' :: _ => true
        | _ => false
      if again && !st.extended && !st.isLenient then .error .nothingToRepeat
      else withRepetitions st fuel (.repeated r least most) rest

/-- Whether an expression, or a part of it in parentheses, ends here. -/
def isPartEnd (st : Style) : List Char → Bool
  | [] => true
  | '|' :: _ => st.extended
  | ')' :: _ => st.extended && (st.isInside || !st.hasPlainClosing)
  | '\x5c' :: '|' :: _ => !st.extended && st.extras
  | '\x5c' :: ')' :: _ => !st.extended
  | _ => false

/-- An escape with a meaning of its own. -/
def escaped? (st : Style) (groups : Nat) (c : Char) : Except Fault Regex :=
  if !st.extras then .ok (.char c)
  else match c with
    | 'w' => .ok (.oneOf false [.ofClass "word"])
    | 'W' => .ok (.oneOf true [.ofClass "word"])
    | 's' => .ok (.oneOf false [.ofClass "space"])
    | 'S' => .ok (.oneOf true [.ofClass "space"])
    | 'n' => .ok (.char '\n')
    | c =>
      if ['b', 'B', '<', '>', '\x60', '\x27'].contains c then .ok (.edge c)
      else if c.isDigit && c != '0' then
        let n := c.toNat - 48
        if groups < n then .error .back else .ok (.back n)
      else .ok (.char c)

mutual

/-- Expressions with bars between them. -/
def readChoices (st : Style) (fuel groups : Nat) (cs : List Char) : Reading :=
  match fuel with
  | 0 => .error .tooBig
  | fuel + 1 =>
    match readSequence st fuel groups true .empty cs with
    | .error e => .error e
    | .ok (a, groups, rest) =>
      let bar : Option (List Char) := match st.extended, rest with
        | true, '|' :: rest => some rest
        | false, '\x5c' :: '|' :: rest => if st.extras then some rest else none
        | _, _ => none
      match bar with
      | none => .ok (a, groups, rest)
      | some rest =>
        match readChoices st fuel groups rest with
        | .error e => .error e
        | .ok (b, groups, rest) => .ok (.alt a b, groups, rest)

/-- Parts one after the other, after those read before. -/
def readSequence (st : Style) (fuel groups : Nat) (first : Bool) (done : Regex)
    (cs : List Char) : Reading :=
  match fuel with
  | 0 => .error .tooBig
  | fuel + 1 =>
    if isPartEnd st cs then .ok (done, groups, cs)
    else
      let anchors : Bool := match st.extended, cs with
        | true, '^' :: _ => true
        | false, '^' :: _ => first
        | _, _ => false
      match readPart st fuel groups (first || done matches .lineStart) cs with
      | .error e => .error e
      | .ok (r, groups, rest) =>
        let repeatable := !(anchors && !st.extended)
        let isLoose := match anchors, rest with
          | true, '*' :: _ => st.extended && !st.isLenient
          | true, '+' :: _ => st.extended && !st.isLenient
          | _, _ => false
        if isLoose then .error .nothingToRepeat
        else match if repeatable then withRepetitions st rest.length r rest else .ok (r, rest) with
        | .error e => .error e
        | .ok (r, rest) =>
          readSequence st fuel groups false (if done matches .empty then r else .seq done r) rest

/-- One part without what tells how often it is repeated. -/
def readPart (st : Style) (fuel groups : Nat) (first : Bool) (cs : List Char) : Reading :=
  match fuel with
  | 0 => .error .tooBig
  | fuel + 1 =>
    let inside (rest : List Char) : Reading :=
      let n := groups + 1
      match readChoices { st with isInside := true } fuel n rest with
      | .error e => .error e
      | .ok (r, groups, rest) =>
        match st.extended, rest with
        | true, ')' :: rest => .ok (.group n r, groups, rest)
        | false, '\x5c' :: ')' :: rest => .ok (.group n r, groups, rest)
        | _, _ => .error .parenthesis
    let loose (rest : List Char) : Reading :=
      if st.isLenient then .ok (.empty, groups, rest) else .error .nothingToRepeat
    match cs with
    | [] => .ok (.empty, groups, [])
    | '.' :: rest => .ok (.any, groups, rest)
    | '[' :: rest =>
      let (outside, rest) := match rest with
        | '^' :: rest => (true, rest)
        | rest => (false, rest)
      match members (!st.extras && st.extended) (rest.length + 1) true [] rest with
      | .error e => .error e
      | .ok (ms, rest) => .ok (.oneOf outside ms, groups, rest)
    | '*' :: rest =>
      if st.extended then loose rest else .ok (.char '*', groups, rest)
    | '^' :: rest =>
      if st.extended || first then .ok (.lineStart, groups, rest)
      else .ok (.char '^', groups, rest)
    | '$' :: rest =>
      if st.extended || isPartEnd st rest then .ok (.lineEnd, groups, rest)
      else .ok (.char '$', groups, rest)
    | '(' :: rest => if st.extended then inside rest else .ok (.char '(', groups, rest)
    | '\x5c' :: '(' :: rest =>
      if st.extended then .ok (.char '(', groups, rest) else inside rest
    | '\x5c' :: c :: rest =>
      if c = '\x7b' && !st.extended then .error .nothingToRepeat
      else match escaped? st groups c with
        | .error e => .error e
        | .ok r => .ok (r, groups, rest)
    | ['\x5c'] => .error .backslash
    | '+' :: rest => if st.extended then loose rest else .ok (.char '+', groups, rest)
    | '?' :: rest => if st.extended then loose rest else .ok (.char '?', groups, rest)
    | '\x7b' :: rest =>
      if !st.extended then .ok (.char '\x7b', groups, rest)
      else match interval? st cs with
        | .ok (some (_, rest)) => loose rest
        | .ok none => .ok (.char '\x7b', groups, rest)
        | .error e => .error e
    | c :: rest => .ok (.char c, groups, rest)

end

/-- The expression that a text describes, with the number of its groups. -/
def read (st : Style) (text : String) : Except Fault (Regex × Nat) :=
  match readChoices st (4 * text.length + 20) 0 text.toList with
  | .error e => .error e
  | .ok (r, groups, []) => .ok (r, groups)
  | .ok (_, _, _) => .error .closing

def basic : Style := { extended := false }

def extended : Style := { extended := true }

/-- The notations without signs for repetition that repeat nothing. -/
def strictBasic : Style := { extended := false, isLenient := false }

def strictExtended : Style := { extended := true, isLenient := false }

end Regex

end HostFleet

import HostFleet.Utility.Records.Exchange

/-!
# Running scripts

What expressions come to, what statements do, and which rules are for a record.
-/

namespace HostFleet.Utility.Records

open Machine

/-! ## Functions that every script knows -/

/-- So much of a text from a place on. Characters are counted from one. -/
def partOf (text : String) (start : Float) (length : Option Float) : String :=
  let first := toInt start
  let count : Int := match length with
    | some n => toInt n
    | none => text.length + 1 + first.natAbs
  let (first, count) := if first < 1 then (1, count + (first - 1)) else (first, count)
  String.ofList ((text.toList.drop (first - 1).toNat).take count.toNat)

/-- Where a text stands in another, counted from one. -/
def indexOf (fuel at' : Nat) (part : List Char) (text : List Char) : Nat :=
  match fuel with
  | 0 => 0
  | fuel + 1 =>
    if part.isPrefixOf text then at'
    else match text with
      | [] => 0
      | _ :: rest => indexOf fuel (at' + 1) part rest

/-- What takes the place of a match: a sign for the match stands for it, and backslashes in front of
the sign can make it plain. -/
def imageOf (fuel : Nat) (found : List Char) (cs : List Char) : List Char :=
  match fuel, cs with
  | fuel + 1, '\x5c' :: _ =>
    let slashes := cs.takeWhile (· = '\x5c')
    match cs.drop slashes.length with
    | '&' :: rest =>
      slashes.take (slashes.length / 2) ++ (if slashes.length % 2 = 1 then ['&'] else found)
        ++ imageOf fuel found rest
    | rest => slashes ++ imageOf fuel found rest
  | fuel + 1, '&' :: rest => found ++ imageOf fuel found rest
  | fuel + 1, c :: rest => c :: imageOf fuel found rest
  | _, _ => []

/-- A text with matches replaced, and how many were. -/
def replaced (isGlobal : Bool) (r : Regex) (image text : String) : String × Nat :=
  let text := text.toList.toArray
  let found := if isGlobal then r.allMatches {} text (text.size + 1) 0 none
    else (r.search? {} text 0).toList
  let image := image.toList
  let (pieces, last) := found.foldl (fun ((pieces, last) : List (List Char) × Nat) m =>
    (imageOf (image.length + 1) (m.text text) image
      :: (text.extract last m.start).toList :: pieces, m.stop)) ([], 0)
  (String.ofList ((text.extract last text.size).toList :: pieces).reverse.flatten, found.length)

/-- The time that numbers in a text describe: the year, the month, the day, the hour, the minute and
the second. -/
def timeOfText (zone : Zone) (text : String) : Int :=
  let numbers := (Separator.words [] text.toList).map fun s =>
    if (spelledNumber? s).isSome then some (toInt (frontNumber s)) else none
  match numbers.take 6 with
  | [some y, some mo, some d, some h, some mi, some s] =>
    let day := Instant.dayOfDate (y + (mo - 1).fdiv 12) ((mo - 1).fmod 12 + 1).toNat 1 + (d - 1)
    day * 86400 + h * 3600 + mi * 60 + s - zone.offset
  | _ => -1

namespace Work

variable (c : Call) (script : Script)

def operate (op : Operator) (a b : Float) : Float :=
  match op with
  | .add => a + b
  | .subtract => a - b
  | .multiply => a * b
  | .divide => a / b
  | .remainder => remainder a b
  | .power => a ^ b

/-- A template with values in it. What is wrong with the template ends the script; `begun` is done
before that with what comes before the fault. -/
def filled (name : String) (begun : String → Work Unit) (values : List Value) : Work String := do
  match values with
  | [] => pure ""
  | t :: args => do
    let format ← textOf t
    let convert ← template
    match fillTemplate (Value.toText convert) (format.length + 1) 1 [] format.toList args with
    | (text, none) => pure text
    | (text, some fault) => do
      begun text
      let whole := name ++ "(\x22" ++ format ++ "\x22)"
      match fault with
      | .tooFew => located ("not enough arguments passed to " ++ whole)
      | .improper n => located ("improper conversion(number " ++ toString n ++ ") in " ++ whole)

/-- Whether a value matches a pattern. -/
def hasMatch (r : Regex) (v : Value) : Work Bool := do
  pure (r.isMatch {} (← textOf v))

def separatorOfValue (v : Value) : Work Separator := do
  separatorOf Separator.ofText (← textOf v)

/-- Begins the random numbers anew. -/
def sow (v : Value) : Work Value := do
  let old := (← get).seed
  let number : Int := toInt v.toNumber
  modify fun s => { s with
    seed := v, generator := Generator.ofSeed (number % Int.pow 2 32).toNat.toUInt32 }
  pure old

def currentSecond : Work Int := do
  pure (← ask c.moment).seconds

/-- What a function that every script knows comes to. -/
def applyKnown (f : Known) (args : List Value) : Work Value := do
  let number (g : Float → Float) : Work Value :=
    pure (.number (g ((args.head?).getD .missing).toNumber))
  let text (i : Nat) : Work String := textOf (args.getD i .missing)
  match f with
  | .arcTangent =>
    pure (.number (Float.atan2 (args.getD 0 .missing).toNumber (args.getD 1 .missing).toNumber))
  | .close => do pure (.number (ofInt (← close (← text 0))))
  | .cosine => number Float.cos
  | .exponential => number Float.exp
  | .flush =>
    if args.isEmpty then do
      flushMain
      pure (.number 0)
    else do pure (.number (ofInt (← flush (← text 0))))
  | .index => do
    let s ← text 0
    pure (.ofNat (indexOf (s.length + 1) 1 (← text 1).toList s.toList))
  | .whole => number fun x => if x < 0 then x.ceil else x.floor
  | .length =>
    if args.isEmpty then do pure (.ofNat (← textOf (← field 0)).length)
    else do pure (.ofNat (← text 0).length)
  | .logarithm => number Float.log
  | .makeTime => do pure (.number (ofInt (timeOfText c.zone (← text 0))))
  | .random => do
    let (n, g) := (← get).generator.next
    modify fun s => { s with generator := g }
    pure (.number (n.toFloat / 2147483647))
  | .seed =>
    match args with
    | [] => do sow (.number (ofInt (← currentSecond c)))
    | v :: _ => sow v
  | .sine => number Float.sin
  | .format => do pure (.text (← filled "sprintf" (fun _ => pure ()) args))
  | .squareRoot => number Float.sqrt
  | .formatTime => do
    let template ← match args with
      | [] => pure ""
      | v :: _ => textOf v
    let seconds ← match args with
      | _ :: v :: _ => pure (toInt v.toNumber)
      | _ => currentSecond c
    let zone := if (args.getD 2 .missing).isTrue then {} else c.zone
    let moment : Moment := { seconds := seconds, zone := zone }
    pure (.text (moment.format (if template.isEmpty then "%c" else template)))
  | .part => do
    pure (.text (partOf (← text 0) (args.getD 1 .missing).toNumber (args[2]?.map Value.toNumber)))
  | .system => do pure (.number (ofInt (← system c (← text 0))))
  | .time => do pure (.number (ofInt (← currentSecond c)))
  | .lower => do pure (.text ((← text 0).map Char.toLower))
  | .upper => do pure (.text ((← text 0).map Char.toUpper))

/-- Something that can have a value, found. -/
inductive Spot where
  | variable (v : Variable)
  | element (table : Nat) (key : Key)
  | field (n : Nat)

def readSpot : Spot → Work Value
  | .variable v => read v
  | .element n key => element n key
  | .field n => field n

def writeSpot (v : Value) : Spot → Work Unit
  | .variable x => write x v
  | .element n key => putElement n key v
  | .field n => putField n v

/-- The number of a field. -/
def fieldNumber (v : Value) : Work Nat := do
  let n := toInt v.toNumber
  if n < 0 then located ("negative field index $" ++ toString n)
  else pure n.toNat

/-- The table that an argument is, or its value. -/
def isTable (v : Variable) : Work Bool := do
  match v with
  | .global name => pure (script.tables.contains name)
  | .parameter i => pure (match (← get).parameters[i]? with
    | some (.table _) => true
    | _ => false)

/-- Catches what ends a turn of a loop. Tells whether the loop goes on. -/
def turn (body : Work Unit) : Work Bool :=
  tryCatch (do
    body
    ask (Program.spend 1)
    pure true) fun h => match h with
    | .leaveLoop => pure false
    | .nextTurn => do
      ask (Program.spend 1)
      pure true
    | h => throw h

mutual

/-- The pattern that an expression stands for. -/
def pattern (fuel : Nat) (e : Expr) : Work Regex :=
  match fuel with
  | 0 => pure .empty
  | fuel + 1 =>
    match e with
    | .pattern r => pure r
    | e => do patternOf (← textOf (← eval fuel e))

def locate (fuel : Nat) (l : Location) : Work Spot :=
  match fuel with
  | 0 => pure (.field 0)
  | fuel + 1 =>
    match l with
    | .variable v => pure (.variable v)
    | .element table keys => do
      let key ← keyFor fuel keys
      pure (.element (← tableOf table) key)
    | .field e => do pure (.field (← fieldNumber (← eval fuel e)))

/-- The key that expressions give together. -/
def keyFor (fuel : Nat) (es : List Expr) : Work Key :=
  match fuel with
  | 0 => pure (.text "")
  | fuel + 1 => do
    match ← evalAll fuel es with
    | [v] => keyOf v
    | vs => do
      let between ← textOf (← variable' "SUBSEP")
      pure (.text (between.intercalate (← vs.mapM textOf)))

def evalAll (fuel : Nat) (es : List Expr) : Work (List Value) :=
  match fuel with
  | 0 => pure []
  | fuel + 1 =>
    match es with
    | [] => pure []
    | e :: es => do
      let v ← eval fuel e
      let vs ← evalAll fuel es
      pure (v :: vs)

/-- What an expression comes to. -/
def eval (fuel : Nat) (e : Expr) : Work Value :=
  match fuel with
  | 0 => pure .missing
  | fuel + 1 =>
    match e with
    | .number x => pure (.number x)
    | .text s => pure (.text s)
    | .pattern r => do pure (.ofBool (← hasMatch r (← field 0)))
    | .location l => do readSpot (← locate fuel l)
    | .assign l op e => do
      let spot ← locate fuel l
      let v ← eval fuel e
      let v ← match op with
        | none => pure v
        | some op => do pure (.number (operate op (← readSpot spot).toNumber v.toNumber))
      writeSpot v spot
      pure v
    | .count l isUp isBefore => do
      let spot ← locate fuel l
      let old := (← readSpot spot).toNumber
      let new := if isUp then old + 1 else old - 1
      writeSpot (.number new) spot
      pure (.number (if isBefore then new else old))
    | .operation op a b => do
      let a ← eval fuel a
      let b ← eval fuel b
      pure (.number (operate op a.toNumber b.toNumber))
    | .minus e => do pure (.number (-(← eval fuel e).toNumber))
    | .plus e => do pure (.number (← eval fuel e).toNumber)
    | .not e => do pure (.ofBool !(← eval fuel e).isTrue)
    | .join a b => do
      let a ← eval fuel a
      let b ← eval fuel b
      pure (.text ((← textOf a) ++ (← textOf b)))
    | .relation r a b => do
      let a ← eval fuel a
      let b ← eval fuel b
      pure (.ofBool (r.holds (Value.compare (← template) a b)))
    | .matching isNegated a p => do
      let a ← eval fuel a
      let r ← pattern fuel p
      pure (.ofBool ((← hasMatch r a) != isNegated))
    | .both a b => do
      if (← eval fuel a).isTrue then
        let b ← eval fuel b
        pure (.ofBool b.isTrue)
      else pure (.ofBool false)
    | .either a b => do
      if (← eval fuel a).isTrue then pure (.ofBool true)
      else
        let b ← eval fuel b
        pure (.ofBool b.isTrue)
    | .choice e a b => do
      if (← eval fuel e).isTrue then eval fuel a else eval fuel b
    | .isKey keys table => do
      let key ← keyFor fuel keys
      let isThere ← changeTable (← tableOf table) fun t => t.use key false
      pure (.ofBool (isThere.getD false))
    | .call name args => call fuel name args
    | .known .length [.location (.variable v)] => do
      if ← isTable script v then
        let n ← changeTable (← tableOf v) fun t => (t.size, t)
        pure (.ofNat (n.getD 0))
      else pure (.ofNat (← textOf (← read v)).length)
    | .known f args => do applyKnown c f (← evalAll fuel args)
    | .place a p => do
      let text := (← textOf (← eval fuel a)).toList.toArray
      let r ← pattern fuel p
      let (start, length) : Float × Float := match r.search? {} text 0 with
        | some m => ((m.start + 1).toFloat, (m.stop - m.start).toFloat)
        | none => (0, -1)
      putVariable "RSTART" (.number start)
      putVariable "RLENGTH" (.number length)
      pure (.number start)
    | .split a table by' => do
      let text ← textOf (← eval fuel a)
      let separator ← match by' with
        | none => do pure (← get).separator
        | some (.pattern r) => pure (.pattern r)
        | some e => do separatorOfValue (← eval fuel e)
      let fields := separator.fields text
      discard (changeTable (← tableOf table) fun _ =>
        ((), if fields.isEmpty then {} else Table.ofList (fields.map .given)))
      pure (.ofNat fields.length)
    | .substitute isGlobal p image target => do
      let r ← pattern fuel p
      let image ← textOf (← eval fuel image)
      let spot ← locate fuel target
      let text ← textOf (← readSpot spot)
      let (text, count) := replaced isGlobal r image text
      if 0 < count then writeSpot (.text text) spot
      pure (.ofNat count)
    | .next origin target => do
      let found : Option (Option String) ← match origin with
        | .records => do pure (some (← nextRecord Program.plenty))
        | .file e => do recordFrom c false (← textOf (← eval fuel e))
        | .command e => do recordFrom c true (← textOf (← eval fuel e))
      match found with
      | none => pure (.number (-1))
      | some none => pure (.number 0)
      | some (some r) => do
        match origin with
        | .records => countRecord
        | _ => pure ()
        match target with
        | none => setRecord r
        | some l => do writeSpot (.given r) (← locate fuel l)
        pure (.number 1)

/-- Calls a function. Its tables are those of the caller, its other parameters are its own. -/
def call (fuel : Nat) (name : String) (args : List Expr) : Work Value :=
  match fuel with
  | 0 => pure .missing
  | fuel + 1 =>
    match script.functions[name]? with
    | none => pure .missing
    | some f => do
      let outer := (← get).tables.size
      let slots ← slotsFor fuel f.tables args
      let s ← get
      set { s with parameters := slots.toArray }
      ask (Program.spend 1)
      let v ← tryCatch (do
        exec fuel f.body
        pure .missing) fun h => match h with
        | .result v => pure v
        | h => throw h
      modify fun now => { now with
        parameters := s.parameters
        tables := if s.tables.size = outer then now.tables else now.tables.extract 0 outer }
      pure v

/-- What the parameters of a function are, of which some are tables. -/
def slotsFor (fuel : Nat) (tables : List Bool) (args : List Expr) : Work (List Slot) :=
  match fuel with
  | 0 => pure []
  | fuel + 1 =>
    match tables, args with
    | [], _ => pure []
    | isTable :: tables, args => do
      let slot ← match isTable, args with
        | true, .location (.variable v) :: _ => do pure (Slot.table (← tableOf v))
        | true, _ => do pure (Slot.table (← newTable))
        | false, e :: _ => do pure (Slot.value (← eval fuel e))
        | false, [] => pure (Slot.value .missing)
      let rest ← slotsFor fuel tables args.tail
      pure (slot :: rest)

/-- Writes a text to where it is to go. -/
def output (fuel : Nat) (text : String) (target : Option (Channel × Expr)) : Work Unit :=
  match fuel with
  | 0 => pure ()
  | fuel + 1 =>
    match target with
    | none => put text
    | some (channel, e) => do putTo c channel (← textOf (← eval fuel e)) text

/-- Does what a statement says. -/
def exec (fuel : Nat) (s : Statement) : Work Unit :=
  match fuel with
  | 0 => pure ()
  | fuel + 1 =>
    match s with
    | .nothing => pure ()
    | .expr e => discard (eval fuel e)
    | .print args target => do
      let vs ← if args.isEmpty then do pure [← field 0] else evalAll fuel args
      let format := (← variable' "OFMT").toText "%.6g"
      let texts := vs.map (Value.toText format)
      let between ← textOf (← variable' "OFS")
      let behind ← textOf (← variable' "ORS")
      output fuel (between.intercalate texts ++ behind) target
    | .printTemplate args target => do
      let vs ← evalAll fuel args
      let text ← filled "printf" (fun text => output fuel text target) vs
      output fuel text target
    | .sequence a b => do
      exec fuel a
      exec fuel b
    | .branch e a b => do
      if (← eval fuel e).isTrue then exec fuel a else exec fuel b
    | .loop isBefore condition step body => do
      let goesOn ← match isBefore, condition with
        | true, some e => do pure (← eval fuel e).isTrue
        | _, _ => pure true
      if goesOn then
        if ← turn (exec fuel body) then
          exec fuel step
          let again ← match isBefore, condition with
            | false, some e => do pure (← eval fuel e).isTrue
            | _, _ => pure true
          if again then exec fuel (.loop isBefore condition step body)
    | .each v table body => do
      let keys ← changeTable (← tableOf table) Table.keys
      execEach fuel v body (keys.getD [])
    | .delete table none => do
      discard (changeTable (← tableOf table) fun _ => ((), ({} : Table)))
    | .delete table (some keys) => do
      let key ← keyFor fuel keys
      discard (changeTable (← tableOf table) fun t => ((), t.erase key))
    | .leaveLoop => throw .leaveLoop
    | .nextTurn => throw .nextTurn
    | .nextRecord => throw .nextRecord
    | .nextFile => throw .nextFile
    | .stop none => throw .stop
    | .stop (some e) => do
      let code := (toInt (← eval fuel e).toNumber % 256).toNat
      modify fun s => { s with code := code }
      throw .stop
    | .result none => throw (.result .missing)
    | .result (some e) => do throw (.result (← eval fuel e))

/-- Does something for each key. -/
def execEach (fuel : Nat) (v : Variable) (body : Statement) (keys : List String) : Work Unit :=
  match fuel with
  | 0 => pure ()
  | fuel + 1 =>
    match keys with
    | [] => pure ()
    | key :: keys => do
      write v (.text key)
      if ← turn (exec fuel body) then execEach fuel v body keys

end

/-! ## Records -/

/-- Whether a rule is for the record, by its number. -/
def selects (n : Nat) (selector : Selector) : Work Bool := do
  let holds (e : Expr) : Work Bool := do
    pure (← eval c script Program.plenty e).isTrue
  match selector with
  | .all => pure true
  | .one e => holds e
  | .span first last => do
    let isActive := (← get).active.getD n false
    let begins ← if isActive then pure true else holds first
    if !begins then pure false
    else
      let stops ← holds last
      modify fun s => { s with active := s.active.setIfInBounds n !stops }
      pure true

/-- Goes through the rules for a record. -/
def applyRules (n : Nat) : List Rule → Work Unit
  | [] => pure ()
  | r :: rest => do
    if ← selects c script n r.selector then
      match r.action with
      | some action => exec c script Program.plenty action
      | none => exec c script Program.plenty (.print [] none)
    applyRules (n + 1) rest

/-- Goes through all records. -/
def records (fuel : Nat) : Work Unit :=
  match fuel with
  | 0 => pure ()
  | fuel + 1 => do
    match ← nextRecord Program.plenty with
    | none => pure ()
    | some r => do
      countRecord
      setRecord r
      tryCatch (applyRules c script 0 script.rules.toList) fun h => match h with
        | .nextRecord => pure ()
        | .nextFile => leaveFile
        | h => throw h
      records fuel

/-- Does something up to where the script stops. -/
def untilStop (w : Work Unit) : Work Bool :=
  tryCatch (do
    w
    pure true) fun h => match h with
    | .stop => pure false
    | h => throw h

/-- Runs a script. -/
def runScript : Work Unit := do
  let execAll (ss : List Statement) : Work Unit := ss.forM (exec c script Program.plenty)
  let goesOn ← untilStop (execAll script.first)
  if goesOn && script.readsRecords then
    discard (untilStop (records c script Program.plenty))
  discard (untilStop (execAll script.last))

end Work

end HostFleet.Utility.Records

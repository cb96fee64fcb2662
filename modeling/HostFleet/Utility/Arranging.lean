import HostFleet.Number.Random
import HostFleet.Utility.Excerpt

/-!
# Orders

`tsort` puts names into an order in which each comes after those that have to come before it, and
`shuf` puts lines into an order that nobody can tell.
-/

namespace HostFleet.Utility

open Machine

/-! ## Names after others -/

/-- A name, how many have to come before it, and the places of those that come after it. -/
structure Precedence where
  name : String
  waiting : Nat := 0
  followers : List Nat := []
  isDone : Bool := false
  /-- The next place on the way back along a loop. -/
  trail : Option Nat := none

namespace Precedence

/-- The names of pairs in their order, with what each pair says. -/
def ofPairs (pairs : List (String × String)) : Array Precedence :=
  let names := ((pairs.flatMap fun (a, b) => [a, b]).mergeSort fun a b => decide (a ≤ b)).eraseReps
  let start := (names.map fun name => ({ name := name } : Precedence)).toArray
  pairs.foldl (fun all (a, b) =>
    if a = b then all
    else match names.findIdx? (· = a), names.findIdx? (· = b) with
      | some i, some j =>
        (all.modify i fun p => { p with followers := j :: p.followers }).modify j fun p =>
          { p with waiting := p.waiting + 1 }
      | _, _ => all) start

/-- Takes names from the front of a queue; those that wait for nothing any more go to its end. -/
def drain (fuel : Nat) (all : Array Precedence) (queue : List Nat) (done : List String) :
    Array Precedence × List String :=
  match fuel, queue with
  | 0, _ => (all, done)
  | _, [] => (all, done)
  | fuel + 1, i :: rest =>
    let p := all.getD i { name := "" }
    let all := all.modify i fun p => { p with isDone := true }
    let (all, ready) := p.followers.foldl (fun ((all, ready) : Array Precedence × List Nat) j =>
      let left := (all.getD j { name := "" }).waiting - 1
      (all.modify j fun p => { p with waiting := left }, if left = 0 then j :: ready else ready))
      (all, [])
    drain fuel all (rest ++ ready.reverse) (p.name :: done)

/-- The names on the way from the end of a loop back to its start. -/
def trailNames (all : Array Precedence) (fuel i last : Nat) : List Nat :=
  match fuel with
  | 0 => []
  | fuel + 1 =>
    if i = last then [i]
    else match (all.getD i { name := "" }).trail with
      | some j => i :: trailNames all fuel j last
      | none => [i]

/-- One walk over the names in search of a loop. `head` is the end of the trail so far. A loop that
is found is given by its names, and one relation of it is forgotten. -/
def seek (all : Array Precedence) (head : Option Nat) :
    List Nat → Array Precedence × Option Nat × Option (List Nat)
  | [] => (all, head, none)
  | i :: rest =>
    let p := all.getD i { name := "" }
    if p.waiting = 0 then seek all head rest
    else match head with
      | none => seek all (some i) rest
      | some h =>
        if !p.followers.contains h then seek all head rest
        else if p.trail.isNone then
          seek (all.modify i fun p => { p with trail := some h }) (some i) rest
        else
          let loop := trailNames all all.size h i
          let all := all.modify i fun p => { p with followers := p.followers.erase h }
          let all := all.modify h fun p => { p with waiting := p.waiting - 1 }
          (all.map fun p => { p with trail := none }, none, some loop)

/-- Walks until a loop is found. -/
def findLoop (fuel : Nat) (all : Array Precedence) (head : Option Nat) :
    Array Precedence × List Nat :=
  match fuel with
  | 0 => (all, [])
  | fuel + 1 =>
    match seek all head (List.range all.size) with
    | (all, _, some loop) => (all, loop)
    | (all, none, none) => (all, [])
    | (all, head, none) => findLoop fuel all head

/-- Writes all names, and reports each loop. -/
def settle (c : Call) (list : String) (fuel : Nat) (all : Array Precedence) (fine : Bool) :
    Program Bool :=
  match fuel with
  | 0 => pure fine
  | fuel + 1 => do
    let ready := (List.range all.size).filter fun i =>
      match all[i]? with
      | some p => p.waiting = 0 && !p.isDone
      | none => false
    let (all, done) := drain (all.size + 1) all ready []
    c.put (String.join (done.reverse.map (· ++ "\n")))
    if all.all (·.isDone) then pure fine
    else do
      c.warn (list ++ ": input contains a loop:")
      let (all, loop) := findLoop (2 * all.size + 2) all none
      for i in loop do
        c.warn (all.getD i { name := "" }).name
      settle c list fuel all false

end Precedence

/-- The words of a text two by two; nothing if one is left over. -/
def inPairs? : List String → Option (List (String × String))
  | [] => some []
  | [_] => none
  | a :: b :: rest => (inPairs? rest).map ((a, b) :: ·)

def tsort : Utility := fun c => do
  let p ← ({ short := "" } : Options).of c 1
  match p.operands with
  | _ :: extra :: _ => c.misuse ("extra operand " ++ inQuotes extra) 1
  | names => do
    let name := names.headD "-"
    match ← Call.slurp name with
    | .error e => c.fail (nameText name ++ (if e = .isDirectory then ": read error: " else ": ")
        ++ e.reason) 1
    | .ok text =>
      let blank (ch : Char) : Bool := ch = ' ' || ch = '\t' || ch = '\n'
      let words := (text.split blank).toStringList.filter (!·.isEmpty)
      match inPairs? words with
      | none => c.fail (nameText name ++ ": input contains an odd number of tokens") 1
      | some pairs => do
        let fine ← Precedence.settle c (nameText name) (pairs.length + 2)
          (Precedence.ofPairs pairs) true
        pure (if fine then 0 else 1)

/-! ## Lines in any order -/

/-- The elements of a list in an order that a seed decides. -/
def shuffled {α : Type} (fuel seed : Nat) (xs : List α) : List α :=
  match fuel with
  | 0 => []
  | fuel + 1 =>
    let next := (seed * 6364136223846793005 + 1442695040888963407) % Nat.pow 2 64
    let i := next / Nat.pow 2 33 % max 1 xs.length
    match xs[i]? with
    | some x => x :: shuffled fuel next (xs.eraseIdx i)
    | none => []

/-- Elements of a list, each chosen anew. -/
def chosen {α : Type} (count seed : Nat) (xs : List α) : List α :=
  match count with
  | 0 => []
  | count + 1 =>
    let next := (seed * 6364136223846793005 + 1442695040888963407) % Nat.pow 2 64
    (xs[next / Nat.pow 2 33 % max 1 xs.length]?).toList ++ chosen count next xs

def shufOptions : Options where
  short := "ei:n:o:rz"
  long := [("echo", .none, "e"), ("input-range", .required, "i"), ("head-count", .required, "n"),
    ("output", .required, "o"), ("random-source", .required, "source"), ("repeat", .none, "r"),
    ("zero-terminated", .none, "z")]

def shuf : Utility := fun c => do
  let p ← shufOptions.of c 1
  let counts ← (p.options.filter (·.1 = "n")).mapM fun (_, text) =>
    match natural? text with
    | some n => pure n
    | none => c.fail ("invalid line count: " ++ inQuotes text) 1
  let most := counts.foldl (fun (m : Option Nat) n => some (min n (m.getD n))) none
  let stop := if p.has "z" then '\x00' else '\n'
  if 1 < (p.options.filter (·.1 = "i")).length then c.fail "multiple -i options specified" 1
  if p.has "e" && p.has "i" then c.misuse "cannot combine -e and -i options" 1
  let lines ← match p.value? "i" with
    | some text =>
      match text.splitOn "-" with
      | [low, high] =>
        match natural? low, natural? high with
        | some low, some high => do
          if high + 1 < low then c.fail ("invalid input range: " ++ inQuotes text) 1
          match p.operands with
          | extra :: _ => c.misuse ("extra operand " ++ inQuotes extra) 1
          | [] => pure ((List.range (high + 1 - low)).map fun i => toString (low + i))
        | _, _ => c.fail ("invalid input range: " ++ inQuotes text) 1
      | _ => c.fail ("invalid input range: " ++ inQuotes text) 1
    | none =>
      if p.has "e" then pure p.operands
      else match p.operands with
        | _ :: extra :: _ => c.misuse ("extra operand " ++ inQuotes extra) 1
        | names => do
          let name := names.headD "-"
          match ← Call.slurp name with
          | .ok text => pure ((Line.ofText stop text).map (·.text))
          | .error e => c.fail ((if e = .isDirectory then "read error" else nameText name) ++ ": "
              ++ e.reason) 1
  let seed ← Program.now
  if p.has "r" && lines.isEmpty && most != some 0 then c.fail "no lines to repeat" 1
  let mixed := if p.has "r" then chosen (most.getD 100000) seed lines
    else
      let all := shuffled lines.length seed lines
      match most with
      | some n => all.take n
      | none => all
  let text := String.join (mixed.map (·.push stop))
  match p.value? "o" with
  | none => c.put text
  | some name =>
    match ← Program.openPath name { write := true, create := true, truncate := true } with
    | .ok fd => discard (Program.write fd text)
    | .error e => c.fail (nameText name ++ ": " ++ e.reason) 1
  pure 0

end HostFleet.Utility

import HostFleet.Text.Regex
import HostFleet.Utility.Records.Value
import Std.Data.HashMap

/-!
# Scripts for records

A script is a list of rules: what is to be done with which records, and what before the first and
after the last one. It is written in a language of its own, with functions and tables.
-/

namespace HostFleet.Utility.Records

inductive Variable where
  | global (name : String)
  /-- A parameter of the function that is called, by its number. -/
  | parameter (n : Nat)
  deriving DecidableEq, Repr, Inhabited

inductive Operator where
  | add
  | subtract
  | multiply
  | divide
  | remainder
  | power
  deriving DecidableEq, Repr

inductive Relation where
  | less
  | lessEqual
  | equal
  | unequal
  | greaterEqual
  | greater
  deriving DecidableEq, Repr

def Relation.holds (o : Ordering) : Relation → Bool
  | .less => o == .lt
  | .lessEqual => o != .gt
  | .equal => o == .eq
  | .unequal => o != .eq
  | .greaterEqual => o != .lt
  | .greater => o == .gt

/-- The functions that every script knows. -/
inductive Known where
  | arcTangent
  | close
  | cosine
  | exponential
  | flush
  | index
  | whole
  | length
  | logarithm
  | makeTime
  | random
  | seed
  | sine
  | format
  | squareRoot
  | formatTime
  | part
  | system
  | time
  | lower
  | upper
  deriving DecidableEq, Repr

mutual

inductive Expr where
  | number (x : Float)
  | text (s : String)
  | pattern (r : Regex)
  | location (l : Location)
  /-- Gives a value, or one made from the old one by an operator. -/
  | assign (l : Location) (op : Option Operator) (e : Expr)
  /-- Counts up or down; the value is that before or after. -/
  | count (l : Location) (isUp isBefore : Bool)
  | operation (op : Operator) (a b : Expr)
  | minus (e : Expr)
  | plus (e : Expr)
  | not (e : Expr)
  | join (a b : Expr)
  | relation (r : Relation) (a b : Expr)
  | matching (isNegated : Bool) (a pattern : Expr)
  | both (a b : Expr)
  | either (a b : Expr)
  | choice (condition a b : Expr)
  | isKey (keys : List Expr) (table : Variable)
  | call (name : String) (args : List Expr)
  | known (f : Known) (args : List Expr)
  /-- Where a pattern has its first match. -/
  | place (text pattern : Expr)
  | split (text : Expr) (table : Variable) (separator : Option Expr)
  | substitute (isGlobal : Bool) (pattern image : Expr) (target : Location)
  | next (origin : Origin) (target : Option Location)

/-- What can have a value. -/
inductive Location where
  | variable (v : Variable)
  | element (table : Variable) (keys : List Expr)
  | field (e : Expr)

/-- Where a record is taken from. -/
inductive Origin where
  | records
  | file (e : Expr)
  | command (e : Expr)

end

instance : Inhabited Expr := ⟨.number 0⟩

instance : Inhabited Location := ⟨.variable default⟩

/-- How output goes to where it goes. -/
inductive Channel where
  | file
  | addition
  | command
  deriving DecidableEq, Repr

inductive Statement where
  | nothing
  | expr (e : Expr)
  | print (args : List Expr) (target : Option (Channel × Expr))
  | printTemplate (args : List Expr) (target : Option (Channel × Expr))
  | sequence (a b : Statement)
  | branch (condition : Expr) (a b : Statement)
  /-- Goes on as long as the condition holds; whether it is asked before the first time, and what
  is done behind each turn. -/
  | loop (isBefore : Bool) (condition : Option Expr) (step body : Statement)
  | each (v table : Variable) (body : Statement)
  | delete (table : Variable) (keys : Option (List Expr))
  | leaveLoop
  | nextTurn
  | nextRecord
  | nextFile
  | stop (code : Option Expr)
  | result (e : Option Expr)
  deriving Inhabited

/-- The records that a rule is for. -/
inductive Selector where
  | all
  | one (e : Expr)
  /-- Those from one to another. -/
  | span (first last : Expr)
  deriving Inhabited

structure Rule where
  selector : Selector
  /-- What is done; a rule without it writes the record. -/
  action : Option Statement
  deriving Inhabited

structure Function where
  parameters : List String
  /-- Which of the parameters are tables, and which are used as values. -/
  tables : List Bool := []
  values : List Bool := []
  body : Statement := .nothing
  deriving Inhabited

structure Script where
  first : List Statement := []
  rules : Array Rule := #[]
  last : List Statement := []
  functions : Std.HashMap String Function := {}
  /-- The variables that are tables. -/
  tables : List String := []
  deriving Inhabited

namespace Script

/-- Whether records have to be read. -/
def readsRecords (s : Script) : Bool := !s.rules.isEmpty || !s.last.isEmpty

end Script

end HostFleet.Utility.Records

/-!
# Changes between lists

How one list of lines becomes another: runs of lines that are taken out and put in, as few lines as
can be. A search from both ends finds a place in the middle of a shortest way, and the parts before
and behind it are treated alike.
-/

namespace HostFleet

/-- Lines that are taken out at one place and put in at another. Lines are counted from zero. -/
structure Change where
  oldStart : Nat
  newStart : Nat
  deleted : Nat
  inserted : Nat
  deriving DecidableEq, Repr

namespace Change

/-- Two lists of which equal lines have equal numbers. -/
structure Sides where
  old : Array Nat
  new : Array Nat

namespace Sides

def equal (s : Sides) (x y : Nat) : Bool := s.old[x]? == s.new[y]? && x < s.old.size

/-- How many lines in a row are equal from two places on, before the ends of two ranges. -/
def slideDown (s : Sides) (fuel x y xEnd yEnd : Nat) : Nat :=
  match fuel with
  | 0 => 0
  | fuel + 1 =>
    if x < xEnd && y < yEnd && s.equal x y then slideDown s fuel (x + 1) (y + 1) xEnd yEnd + 1
    else 0

/-- How many lines in a row are equal in front of two places, behind the starts of two ranges. -/
def slideUp (s : Sides) (fuel x y xStart yStart : Nat) : Nat :=
  match fuel with
  | 0 => 0
  | fuel + 1 =>
    if xStart < x && yStart < y && s.equal (x - 1) (y - 1) then
      slideUp s fuel (x - 1) (y - 1) xStart yStart + 1
    else 0

end Sides

/-- A part of both lists. -/
structure Window where
  xStart : Nat
  xEnd : Nat
  yStart : Nat
  yEnd : Nat

/-- How far a search has come on each diagonal, and the diagonals that it has reached. -/
structure Front where
  reach : Array Int
  low : Int
  high : Int

namespace Front

/-- Widens a search by one diagonal on each side, where there is one. -/
def widen (f : Front) (shift lowest highest beyond : Int) : Front :=
  let put (xs : Array Int) (d : Int) : Array Int := xs.setIfInBounds (d + shift).toNat beyond
  let f := if lowest < f.low then { f with low := f.low - 1, reach := put f.reach (f.low - 2) }
    else { f with low := f.low + 1 }
  if f.high < highest then { f with high := f.high + 1, reach := put f.reach (f.high + 2) }
  else { f with high := f.high - 1 }

def at' (f : Front) (shift d : Int) : Int := f.reach.getD (d + shift).toNat 0

/-- Every second diagonal, from the highest down. -/
def diagonals (f : Front) : List Int :=
  (List.range ((f.high - f.low + 2) / 2).toNat).map fun (i : Nat) => f.high - 2 * (i : Int)

end Front

/-- One step of the search from the start on each of these diagonals, up to where it meets the
other search. -/
def stepDown (s : Sides) (w : Window) (shift : Int) (meets : Bool) (back : Front) :
    List Int → Front → Front × Option (Nat × Nat)
  | [], f => (f, none)
  | d :: ds, f =>
    let lower := f.at' shift (d - 1)
    let upper := f.at' shift (d + 1)
    let x := if lower < upper then upper else lower + 1
    let n := s.slideDown s.old.size x.toNat (x - d).toNat w.xEnd w.yEnd
    let x := x + n
    let f := { f with reach := f.reach.setIfInBounds (d + shift).toNat x }
    if meets && back.low ≤ d && d ≤ back.high && back.at' shift d ≤ x then
      (f, some (x.toNat, (x - d).toNat))
    else stepDown s w shift meets back ds f

/-- One step of the search from the end on each of these diagonals. -/
def stepUp (s : Sides) (w : Window) (shift : Int) (meets : Bool) (front : Front) :
    List Int → Front → Front × Option (Nat × Nat)
  | [], b => (b, none)
  | d :: ds, b =>
    let lower := b.at' shift (d - 1)
    let upper := b.at' shift (d + 1)
    let x := if lower < upper then lower else upper - 1
    let n := s.slideUp s.old.size x.toNat (x - d).toNat w.xStart w.yStart
    let x := x - n
    let b := { b with reach := b.reach.setIfInBounds (d + shift).toNat x }
    if meets && front.low ≤ d && d ≤ front.high && x ≤ front.at' shift d then
      (b, some (x.toNat, (x - d).toNat))
    else stepUp s w shift meets front ds b

/-- Searches from both ends in turn. -/
def search (s : Sides) (w : Window) (shift lowest highest : Int) (isOdd : Bool) (fuel : Nat)
    (f b : Front) : Nat × Nat :=
  match fuel with
  | 0 => (w.xStart, w.yStart)
  | fuel + 1 =>
    let f := f.widen shift lowest highest (-1)
    match stepDown s w shift isOdd b f.diagonals f with
    | (_, some place) => place
    | (f, none) =>
      let b := b.widen shift lowest highest (s.old.size + s.new.size + 1)
      match stepUp s w shift (!isOdd) f b.diagonals b with
      | (_, some place) => place
      | (b, none) => search s w shift lowest highest isOdd fuel f b

/-- A place in the middle of a shortest way through a window. -/
def middle (s : Sides) (w : Window) : Nat × Nat :=
  let shift : Int := s.new.size + 1
  let lowest : Int := (w.xStart : Int) - w.yEnd
  let highest : Int := (w.xEnd : Int) - w.yStart
  let down : Int := (w.xStart : Int) - w.yStart
  let up : Int := (w.xEnd : Int) - w.yEnd
  let blank := Array.replicate (s.old.size + s.new.size + 3) (0 : Int)
  search s w shift lowest highest ((down - up) % 2 != 0)
    (w.xEnd - w.xStart + (w.yEnd - w.yStart) + 1)
    ⟨blank.setIfInBounds (down + shift).toNat w.xStart, down, down⟩
    ⟨blank.setIfInBounds (up + shift).toNat w.xEnd, up, up⟩

/-- The lines of each list that are not kept. -/
structure Marks where
  old : Array Bool
  new : Array Bool

def markAll (marks : Array Bool) (start stop : Nat) : Array Bool :=
  (List.range (stop - start)).foldl (fun marks i => marks.setIfInBounds (start + i) true) marks

/-- Marks the lines of a window that are not kept. -/
def mark (s : Sides) (fuel : Nat) (w : Window) (m : Marks) : Marks :=
  match fuel with
  | 0 => m
  | fuel + 1 =>
    let n := s.slideDown s.old.size w.xStart w.yStart w.xEnd w.yEnd
    let w := { w with xStart := w.xStart + n, yStart := w.yStart + n }
    let n := s.slideUp s.old.size w.xEnd w.yEnd w.xStart w.yStart
    let w := { w with xEnd := w.xEnd - n, yEnd := w.yEnd - n }
    if w.xStart = w.xEnd then { m with new := markAll m.new w.yStart w.yEnd }
    else if w.yStart = w.yEnd then { m with old := markAll m.old w.xStart w.xEnd }
    else
      let (x, y) := middle s w
      mark s fuel { w with xStart := x, yStart := y }
        (mark s fuel { w with xEnd := x, yEnd := y } m)

/-! ## Where changes stand -/

/-- The first line from a place on that is kept. -/
def nextKept (marks : Array Bool) (fuel i : Nat) : Nat :=
  match fuel with
  | 0 => i
  | fuel + 1 => if marks.getD i false then nextKept marks fuel (i + 1) else i

/-- The start of the marked lines that end in front of a place. -/
def runStart (marks : Array Bool) : Nat → Nat
  | 0 => 0
  | i + 1 => if marks.getD i false then runStart marks i else i + 1

/-- The last line in front of a place that is kept. -/
def lastKept (marks : Array Bool) (i : Nat) : Nat := runStart marks i - 1

/-- A run of marked lines of one list, and the place in the other that belongs to its end. -/
structure Run where
  marks : Array Bool
  start : Nat
  stop : Nat
  other : Nat

namespace Run

/-- Moves a run one line back. -/
def back (r : Run) (otherMarks : Array Bool) : Run :=
  let marks := (r.marks.setIfInBounds (r.start - 1) true).setIfInBounds (r.stop - 1) false
  ⟨marks, runStart marks (r.start - 1), r.stop - 1, lastKept otherMarks r.other⟩

/-- Moves a run back as long as the line before it equals its last one. -/
def backAll (lines : Array Nat) (otherMarks : Array Bool) (fuel : Nat) (r : Run) : Run :=
  match fuel with
  | 0 => r
  | fuel + 1 =>
    if 0 < r.start && lines[r.start - 1]? == lines[r.stop - 1]? then
      backAll lines otherMarks fuel (r.back otherMarks)
    else r

/-- Moves a run on as long as the line behind it equals its first one. The last place at which it
meets a run of the other list is noted. -/
def onAll (lines : Array Nat) (otherMarks : Array Bool) (fuel : Nat) (r : Run)
    (corresponding : Nat) : Run × Nat :=
  match fuel with
  | 0 => (r, corresponding)
  | fuel + 1 =>
    if r.stop < lines.size && lines[r.start]? == lines[r.stop]? then
      let marks := (r.marks.setIfInBounds r.start false).setIfInBounds r.stop true
      let stop := nextKept marks marks.size (r.stop + 1)
      let other := nextKept otherMarks otherMarks.size (r.other + 1)
      onAll lines otherMarks fuel ⟨marks, r.start + 1, stop, other⟩
        (if r.other + 1 < other then stop else corresponding)
    else (r, corresponding)

/-- Moves a run back and on until it does not grow any more. -/
def settle (lines : Array Nat) (otherMarks : Array Bool) (fuel : Nat) (r : Run) : Run × Nat :=
  match fuel with
  | 0 => (r, lines.size)
  | fuel + 1 =>
    let length := r.stop - r.start
    let r := backAll lines otherMarks lines.size r
    let meets := 0 < r.other && otherMarks.getD (r.other - 1) false
    let (r, corresponding) := onAll lines otherMarks lines.size r
      (if meets then r.stop else lines.size)
    if r.stop - r.start = length then (r, corresponding) else settle lines otherMarks fuel r

/-- Moves a run back to where it meets one of the other list. -/
def backTo (otherMarks : Array Bool) (place fuel : Nat) (r : Run) : Run :=
  match fuel with
  | 0 => r
  | fuel + 1 =>
    if place < r.stop then
      let marks := (r.marks.setIfInBounds (r.start - 1) true).setIfInBounds (r.stop - 1) false
      backTo otherMarks place fuel ⟨marks, r.start - 1, r.stop - 1, lastKept otherMarks r.other⟩
    else r

end Run

/-- Moves the runs of one list to where they stand best. -/
def shift (lines : Array Nat) (otherMarks : Array Bool) (fuel i j : Nat) (marks : Array Bool) :
    Array Bool :=
  match fuel with
  | 0 => marks
  | fuel + 1 =>
    if lines.size ≤ i then marks
    else if !marks.getD i false then
      shift lines otherMarks fuel (i + 1) (nextKept otherMarks otherMarks.size j + 1) marks
    else
      let stop := nextKept marks marks.size i
      let other := nextKept otherMarks otherMarks.size j
      let (r, corresponding) :=
        Run.settle lines otherMarks (lines.size + 1) ⟨marks, i, stop, other⟩
      let r := Run.backTo otherMarks corresponding lines.size r
      shift lines otherMarks fuel r.stop r.other r.marks

/-- The changes that marks stand for. -/
def ofMarks (m : Marks) (fuel i j : Nat) : List Change :=
  match fuel with
  | 0 => []
  | fuel + 1 =>
    if m.old.size ≤ i && m.new.size ≤ j then []
    else
      let x := nextKept m.old m.old.size i
      let y := nextKept m.new m.new.size j
      let rest := ofMarks m fuel (x + 1) (y + 1)
      if x = i && y = j then rest else ⟨i, j, x - i, y - j⟩ :: rest

/-- The lines that have an equal in the other list, by their places. -/
def matched (own other : Array Nat) : List Nat :=
  let seen := other.toList.mergeSort
  let seen := seen.eraseReps.toArray
  let has (n : Nat) : Bool := seen.binSearchContains n (· < ·)
  (List.range own.size).filter fun i => has (own.getD i 0)

/-- The changes that make one list of lines the other. -/
def betweenAll (old new : Array Nat) : List Change :=
  let keptOld := (matched old new).toArray
  let keptNew := (matched new old).toArray
  let s : Sides := ⟨keptOld.map (old.getD · 0), keptNew.map (new.getD · 0)⟩
  let m := mark s (s.old.size + s.new.size + 2) ⟨0, s.old.size, 0, s.new.size⟩
    ⟨Array.replicate s.old.size false, Array.replicate s.new.size false⟩
  let spread (kept : Array Nat) (marks : Array Bool) (size : Nat) : Array Bool :=
    kept.zipIdx.foldl (fun all (place, i) => all.setIfInBounds place (marks.getD i false))
      (Array.replicate size true)
  let oldMarks := spread keptOld m.old old.size
  let newMarks := spread keptNew m.new new.size
  let fuel := old.size + new.size + 2
  let oldMarks := shift old newMarks fuel 0 0 oldMarks
  let newMarks := shift new oldMarks fuel 0 0 newMarks
  ofMarks ⟨oldMarks, newMarks⟩ fuel 0 0

/-- The changes that make one list of lines the other. Lines that both have in front and at the back
are not looked at, but for so many next to the rest. -/
def between (horizon : Nat) (old new : Array Nat) : List Change :=
  let s : Sides := ⟨old, new⟩
  let same := s.slideDown old.size 0 0 old.size new.size
  let front := same - horizon
  let tail := s.slideUp old.size old.size new.size same same - horizon
  (betweenAll (old.extract front (old.size - tail)) (new.extract front (new.size - tail))).map
    fun c => { c with oldStart := c.oldStart + front, newStart := c.newStart + front }

end Change

end HostFleet

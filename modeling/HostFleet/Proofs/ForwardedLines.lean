import HostFleet.Proofs.Utf8Text
import HostFleet.Run.Console
import HostFleet.Transport.Carry

/-!
# Forwarded lines

The output of a child comes through two pipes. Each has a reader of its own that sends one line at
a time until it gets nothing, whether anybody listens or not. In whatever order the readers take
their turns, what one of them sends are the lines of all that was written to its pipe: nothing is
lost, merged or cut elsewhere than behind a newline. So each is shown as one line under the name of
its host.

What carries this is that the lines of what is left in a pipe are those that were not yet sent.
-/

namespace HostFleet.Proofs
open Utf8

/-- Bytes cut into lines. Only the last line can lack the newline at its end. -/
structure LinesOf (written : Bytes) (lines : List Bytes) : Prop where
  whole : lines.flatten = written
  nonempty : [] ∉ lines
  inner : ∀ line ∈ lines, newline ∉ line.dropLast
  terminated : ∀ line ∈ lines.dropLast, line.getLast? = some newline

/-- The bytes are one line that begins with the name of the host. -/
structure Attributed (host : String) (bytes : Bytes) : Prop where
  starts : encode (host ++ ": ") <+: bytes
  line : ∃ front, bytes = front ++ [newline] ∧ newline ∉ front

/-- What a reader takes from a pipe at a time, with what it leaves: the bytes up to the next newline
and with it, or all of them. It gets nothing only at the end. -/
structure ReadsLines (read : Bytes → Bytes × Bytes) : Prop where
  whole (left : Bytes) : (read left).1 ++ (read left).2 = left
  inner (left : Bytes) : newline ∉ (read left).1.dropLast
  stops (left : Bytes) : (read left).1.getLast? = some newline ∨ (read left).2 = []
  atEnd (left : Bytes) : (read left).1 = [] → left = []

/-- What is left in the pipes of a child, whose readers have returned, and the lines that were sent
and heard so far. -/
structure Forwarding where
  left : Channel → Bytes
  returned : Channel → Bool
  listening : Bool
  sent : List OutputLine
  heard : List OutputLine

/-- One of the readers takes its turn, or the receiver is closed. -/
inductive Turn where
  | read (c : Channel)
  | hangUp
  deriving DecidableEq

namespace Forwarding

def start (written : Channel → Bytes) : Forwarding := ⟨written, fun _ => false, true, [], []⟩

/-- The reader of one channel got nothing. -/
def finish (f : Forwarding) (c : Channel) : Forwarding :=
  { f with returned := Function.update f.returned c true }

/-- The reader of one channel got a line. Whether it is heard makes no difference to it. -/
def forward (f : Forwarding) (c : Channel) (line left : Bytes) : Forwarding :=
  { f with
    left := Function.update f.left c left
    sent := f.sent ++ [⟨c, line⟩]
    heard := if f.listening then f.heard ++ [⟨c, line⟩] else f.heard }

def turn (read : Bytes → Bytes × Bytes) (f : Forwarding) : Turn → Forwarding
  | .hangUp => { f with listening := false }
  | .read c =>
    if f.returned c then f
    else if (read (f.left c)).1 = [] then f.finish c
    else f.forward c (read (f.left c)).1 (read (f.left c)).2

def run (read : Bytes → Bytes × Bytes) (written : Channel → Bytes) (turns : List Turn) :
    Forwarding :=
  turns.foldl (turn read) (start written)

/-- What was sent of the lines of one channel. -/
def sentOn (f : Forwarding) (c : Channel) : List Bytes :=
  (f.sent.filter (·.channel = c)).map OutputLine.bytes

end Forwarding

open Forwarding

/-! ### Lines of bytes -/

section Lines

variable {line rest front written : Bytes} {lines : List Bytes}

lemma splitLines_append_newline (h : newline ∉ front) :
    splitLines (front ++ newline :: rest) = (front ++ [newline]) :: splitLines rest := by
  induction front with
  | nil => simp only [List.nil_append, splitLines, if_pos]
  | cons b front ih =>
    obtain ⟨hb, hfront⟩ := List.ne_and_not_mem_of_not_mem_cons h
    simp only [List.cons_append, splitLines, if_neg (Ne.symm hb), ih hfront]

lemma splitLines_of_not_mem (hne : line ≠ []) (h : newline ∉ line) : splitLines line = [line] := by
  induction line with
  | nil => exact absurd rfl hne
  | cons b line ih =>
    obtain ⟨hb, hline⟩ := List.ne_and_not_mem_of_not_mem_cons h
    rw [splitLines, if_neg (Ne.symm hb)]
    cases line with
    | nil => rfl
    | cons d line => rw [ih (List.cons_ne_nil d line) hline]

lemma newline_not_mem_of_dropLast (h : newline ∉ line.dropLast)
    (hlast : line.getLast? ≠ some newline) : newline ∉ line := by
  intro hmem
  have hne := List.ne_nil_of_mem hmem
  rw [← List.dropLast_append_getLast hne, List.mem_append, List.mem_singleton] at hmem
  obtain hfront | heq := hmem
  · exact h hfront
  · exact hlast (by rw [List.getLast?_eq_some_getLast hne, heq])

/-- A line that ends with a newline, or that nothing follows, is the first one. -/
lemma splitLines_append (hne : line ≠ []) (hinner : newline ∉ line.dropLast)
    (hstops : line.getLast? = some newline ∨ rest = []) :
    splitLines (line ++ rest) = line :: splitLines rest := by
  by_cases hlast : line.getLast? = some newline
  · obtain ⟨front, rfl⟩ := List.getLast?_eq_some_iff.mp hlast
    rw [List.dropLast_concat] at hinner
    rw [List.append_assoc]
    exact splitLines_append_newline hinner
  · obtain rfl := hstops.resolve_left hlast
    rw [List.append_nil, splitLines_of_not_mem hne (newline_not_mem_of_dropLast hinner hlast)]
    rfl

lemma LinesOf.cons (h : LinesOf rest lines) (hne : line ≠ []) (hinner : newline ∉ line.dropLast)
    (hstops : line.getLast? = some newline ∨ lines = []) : LinesOf (line ++ rest) (line :: lines) where
  whole := by rw [List.flatten_cons, h.whole]
  nonempty := by
    rw [List.mem_cons]
    rintro (heq | hmem)
    · exact hne heq.symm
    · exact h.nonempty hmem
  inner := by
    rw [List.forall_mem_cons]
    exact ⟨hinner, h.inner⟩
  terminated := by
    cases lines with
    | nil => simp
    | cons first more =>
      rw [List.dropLast_cons_cons, List.forall_mem_cons]
      exact ⟨hstops.resolve_right (List.cons_ne_nil first more), h.terminated⟩

lemma LinesOf.tail (h : LinesOf written (line :: lines)) : LinesOf lines.flatten lines where
  whole := rfl
  nonempty := fun hmem => h.nonempty (List.mem_cons_of_mem line hmem)
  inner := fun l hl => h.inner l (List.mem_cons_of_mem line hl)
  terminated := fun l hl => by
    cases lines with
    | nil => cases hl
    | cons first more => exact h.terminated l (List.mem_cons_of_mem line hl)

lemma ReadsLines.fst_eq_nil_iff {read : Bytes → Bytes × Bytes} (h : ReadsLines read)
    {left : Bytes} : (read left).1 = [] ↔ left = [] := by
  refine ⟨h.atEnd left, ?_⟩
  rintro rfl
  exact (List.append_eq_nil_iff.mp (h.whole [])).1

lemma ReadsLines.splitLines_eq {read : Bytes → Bytes × Bytes} (h : ReadsLines read) {left : Bytes}
    (hne : left ≠ []) : splitLines left = (read left).1 :: splitLines (read left).2 := by
  rw [← splitLines_append (mt h.fst_eq_nil_iff.mp hne) (h.inner left) (h.stops left), h.whole left]

/-- A reader as it should be. -/
def readLine : Bytes → Bytes × Bytes
  | [] => ([], [])
  | b :: rest => if b = newline then ([b], rest) else (b :: (readLine rest).1, (readLine rest).2)

lemma readLine_fst_eq_nil {left : Bytes} (h : (readLine left).1 = []) : left = [] := by
  cases left with
  | nil => rfl
  | cons b rest =>
    rw [readLine] at h
    split at h <;> cases h

lemma readsLines_readLine : ReadsLines readLine where
  whole left := by
    induction left with
    | nil => rfl
    | cons b rest ih =>
      rw [readLine]
      split
      · rfl
      · exact congrArg (b :: ·) ih
  inner left := by
    induction left with
    | nil => simp [readLine]
    | cons b rest ih =>
      rw [readLine]
      split
      · simp
      rename_i hb
      by_cases hrest : (readLine rest).1 = []
      · rw [hrest]
        simp
      · rw [List.dropLast_cons_of_ne_nil hrest, List.mem_cons]
        rintro (heq | hmem)
        · exact hb heq.symm
        · exact ih hmem
  stops left := by
    induction left with
    | nil => exact .inr rfl
    | cons b rest ih =>
      rw [readLine]
      split
      · rename_i hb
        exact .inl (congrArg some hb)
      · obtain hlast | hnil := ih
        · left
          rw [List.getLast?_cons, hlast]
          rfl
        · exact .inr hnil
  atEnd _ := readLine_fst_eq_nil

lemma linesOf_splitLines (written : Bytes) : LinesOf written (splitLines written) := by
  by_cases hne : written = []
  · subst hne
    exact ⟨rfl, List.not_mem_nil, List.forall_mem_nil _, List.forall_mem_nil _⟩
  · have hread := readsLines_readLine
    have hline : (readLine written).1 ≠ [] := mt hread.fst_eq_nil_iff.mp hne
    have hshorter : (readLine written).2.length < written.length := by
      have hlength := congrArg List.length (hread.whole written)
      rw [List.length_append] at hlength
      have := List.length_pos_iff.mpr hline
      omega
    have hrest := linesOf_splitLines (readLine written).2
    rw [hread.splitLines_eq hne]
    nth_rewrite 1 [← hread.whole written]
    refine hrest.cons hline (hread.inner written) ?_
    obtain hlast | hnil := hread.stops written
    · exact .inl hlast
    · rw [hnil]
      exact .inr rfl
termination_by written.length

/-- There is one way to cut bytes into lines. -/
theorem linesOf_iff : LinesOf written lines ↔ lines = splitLines written := by
  constructor
  · intro h
    induction lines generalizing written with
    | nil =>
      rw [← h.whole]
      rfl
    | cons line lines ih =>
      have hne : line ≠ [] := fun heq => h.nonempty (heq ▸ List.mem_cons_self)
      have hstops : line.getLast? = some newline ∨ lines.flatten = [] := by
        cases lines with
        | nil => exact .inr rfl
        | cons first more => exact .inl (h.terminated line List.mem_cons_self)
      rw [← h.whole, List.flatten_cons,
        splitLines_append hne (h.inner line List.mem_cons_self) hstops, ← ih h.tail]
  · rintro rfl
    exact linesOf_splitLines written

lemma splitLines_eq_nil (h : splitLines written = []) : written = [] := by
  rw [← (linesOf_splitLines written).whole, h]
  rfl

end Lines

/-! ### Lines that are shown -/

section Shown

variable {host : String} {l : OutputLine}

lemma newline_not_mem_body (h : newline ∉ l.bytes.dropLast) : newline ∉ l.body := by
  rw [OutputLine.body]
  split
  · exact h
  · rename_i hlast
    exact newline_not_mem_of_dropLast h hlast

/-- A line of output is shown as one line, under the name of its host. -/
theorem attributed_hostLine (hhost : '\n' ∉ host.toList) (h : newline ∉ l.bytes.dropLast) :
    Attributed host (Console.hostLine host l) := by
  have hshown : Console.hostLine host l = encode (host ++ ": ") ++ encode l.text ++ [newline] := by
    rw [← encode_append]
    exact encode_append _ "\n"
  have htext : newline ∉ encode l.text := fun hmem =>
    newline_not_mem_decodeLossy (newline_not_mem_body h) (newline_mem_encode_iff.mp hmem)
  have hname : newline ∉ encode (host ++ ": ") := by
    rw [newline_mem_encode_iff, String.toList_append, List.mem_append]
    rintro (hmem | hmem)
    · exact hhost hmem
    · exact absurd hmem (by decide)
  refine ⟨?_, encode (host ++ ": ") ++ encode l.text, hshown, ?_⟩
  · rw [hshown, List.append_assoc]
    exact List.prefix_append _ _
  · rw [List.mem_append]
    rintro (hmem | hmem)
    · exact hname hmem
    · exact htext hmem

end Shown

/-! ### Readers that take turns -/

section Turns

variable {read : Bytes → Bytes × Bytes} {c : Channel} {n : Nat} {lines : List Bytes}
  {f : Forwarding} {turns : List Turn}

section Updates

variable {d : Channel} {line left : Bytes}

lemma left_forward_self : (f.forward c line left).left c = left := Function.update_self ..

lemma left_forward_of_ne (h : c ≠ d) : (f.forward d line left).left c = f.left c :=
  Function.update_of_ne h ..

lemma returned_finish_self : (f.finish c).returned c = true := Function.update_self ..

lemma returned_finish_of_ne (h : c ≠ d) : (f.finish d).returned c = f.returned c :=
  Function.update_of_ne h ..

lemma sentOn_forward :
    (f.forward d line left).sentOn c = f.sentOn c ++ if d = c then [line] else [] := by
  simp only [sentOn, forward, List.filter_append, List.map_append]
  congr 1
  by_cases hd : d = c <;> simp [hd]

end Updates

/-- After `n` turns of its reader, these of the lines in a pipe were sent, and the others are
left. -/
structure ReadSoFar (lines : List Bytes) (c : Channel) (n : Nat) (f : Forwarding) : Prop where
  sent : f.sentOn c = lines.take n
  left : splitLines (f.left c) = lines.drop n
  returned : f.returned c = true ↔ lines.length < n

lemma readSoFar_start (written : Channel → Bytes) (c : Channel) :
    ReadSoFar (splitLines (written c)) c 0 (start written) :=
  ⟨rfl, rfl, by simp [start]⟩

lemma ReadSoFar.step (h : ReadSoFar lines c n f) (hread : ReadsLines read) :
    ReadSoFar lines c (n + 1) (f.turn read (.read c)) := by
  have hbeyond (hn : lines.length ≤ n) :
      lines.take n = lines.take (n + 1) ∧ lines.drop n = lines.drop (n + 1) := by
    constructor
    · rw [List.take_of_length_le hn, List.take_of_length_le (by omega)]
    · rw [List.drop_of_length_le hn, List.drop_of_length_le (by omega)]
  rw [turn]
  split
  · -- The reader has returned.
    rename_i hreturned
    have hn := h.returned.mp hreturned
    obtain ⟨htake, hdrop⟩ := hbeyond (Nat.le_of_lt hn)
    exact ⟨h.sent.trans htake, h.left.trans hdrop, iff_of_true hreturned (by omega)⟩
  rename_i hreturned
  split
  · -- It is at the end.
    rename_i hline
    have hnil := h.left
    rw [hread.fst_eq_nil_iff.mp hline] at hnil
    have hn : lines.length ≤ n := List.drop_eq_nil_iff.mp hnil.symm
    obtain ⟨htake, hdrop⟩ := hbeyond hn
    exact ⟨h.sent.trans htake, h.left.trans hdrop, iff_of_true returned_finish_self (by omega)⟩
  · -- There is one more line.
    rename_i hline
    have hdrop := h.left.symm.trans (hread.splitLines_eq (mt hread.fst_eq_nil_iff.mpr hline))
    have hn : n < lines.length := by
      by_contra hge
      rw [List.drop_of_length_le (by omega)] at hdrop
      cases hdrop
    rw [List.drop_eq_getElem_cons hn, List.cons.injEq] at hdrop
    refine ⟨?_, ?_, ?_⟩
    · rw [sentOn_forward, if_pos rfl, h.sent, List.take_succ_eq_append_getElem hn, hdrop.1]
    · rw [left_forward_self, hdrop.2]
    · exact iff_of_false hreturned (by omega)

/-- Turns that are not those of its reader change nothing about a pipe. -/
lemma ReadSoFar.other {t : Turn} (h : ReadSoFar lines c n f) (ht : t ≠ .read c) :
    ReadSoFar lines c n (f.turn read t) := by
  cases t with
  | hangUp => exact ⟨h.sent, h.left, h.returned⟩
  | read d =>
    have hd : c ≠ d := fun heq => ht (heq ▸ rfl)
    rw [turn]
    split
    · exact h
    split
    · refine ⟨h.sent, h.left, ?_⟩
      rw [returned_finish_of_ne hd, h.returned]
    · refine ⟨?_, ?_, h.returned⟩
      · rw [sentOn_forward, if_neg (Ne.symm hd), List.append_nil, h.sent]
      · rw [left_forward_of_ne hd, h.left]

lemma ReadSoFar.foldl (h : ReadSoFar lines c n f) (hread : ReadsLines read) (turns : List Turn) :
    ReadSoFar lines c (n + turns.count (.read c)) (turns.foldl (turn read) f) := by
  induction turns generalizing n f with
  | nil => exact h
  | cons t turns ih =>
    by_cases ht : t = .read c
    · subst ht
      rw [List.count_cons_self, Nat.add_comm _ 1, ← Nat.add_assoc]
      exact ih (h.step hread)
    · rw [List.count_cons_of_ne ht]
      exact ih (h.other ht)

theorem readSoFar_run (hread : ReadsLines read) (written : Channel → Bytes) (turns : List Turn)
    (c : Channel) :
    ReadSoFar (splitLines (written c)) c (turns.count (.read c)) (run read written turns) := by
  have h := (readSoFar_start written c).foldl hread turns
  rwa [Nat.zero_add] at h

lemma mem_sent_run (hread : ReadsLines read) {written : Channel → Bytes} {l : OutputLine}
    (hl : l ∈ (run read written turns).sent) : l.bytes ∈ splitLines (written l.channel) := by
  have hmem : l.bytes ∈ (run read written turns).sentOn l.channel :=
    List.mem_map_of_mem (List.mem_filter.mpr ⟨hl, decide_eq_true rfl⟩)
  rw [(readSoFar_run hread written turns l.channel).sent] at hmem
  exact List.mem_of_mem_take hmem

/-- A closed receiver hears nothing more. -/
lemma heard_foldl_of_not_listening (h : f.listening = false) (turns : List Turn) :
    (turns.foldl (turn read) f).heard = f.heard := by
  induction turns generalizing f with
  | nil => rfl
  | cons t turns ih =>
    rw [List.foldl_cons]
    cases t with
    | hangUp => exact ih rfl
    | read c =>
      rw [turn]
      split
      · exact ih h
      split
      · exact ih h
      · refine (ih (f := f.forward c _ _) h).trans ?_
        rw [forward, if_neg (by simp [h])]

lemma heard_foldl (hlistening : f.listening = true) (hheard : f.heard = f.sent)
    (turns : List Turn) :
    (turns.foldl (turn read) f).heard =
      ((turns.takeWhile (· ≠ .hangUp)).foldl (turn read) f).sent := by
  induction turns generalizing f with
  | nil => exact hheard
  | cons t turns ih =>
    cases t with
    | hangUp =>
      rw [List.foldl_cons, List.takeWhile_cons_of_neg (by simp)]
      exact (heard_foldl_of_not_listening rfl turns).trans hheard
    | read c =>
      rw [List.takeWhile_cons_of_pos (by simp), List.foldl_cons, List.foldl_cons, turn]
      split
      · exact ih hlistening hheard
      split
      · exact ih hlistening hheard
      · refine ih hlistening ?_
        rw [forward, if_pos hlistening, hheard]

end Turns

/-! ### Commands that ended -/

section Ended

open Transport

/-- All that a command wrote to one channel. -/
def writtenTo (e : Ended) : Channel → Bytes
  | .out => e.out.flatMap Prod.snd
  | .err => e.err.flatMap Prod.snd

lemma map_timedLines (c : Channel) (closed : Nat) (pieces : List (Nat × Bytes)) :
    (timedLines c closed pieces).map Prod.snd = OutputLine.ofStream c (pieces.flatMap Prod.snd) := by
  have hgo : ∀ (lines : List OutputLine) (marks : List (Nat × Nat)) (offset : Nat),
      (timedLines.go closed marks offset lines).map Prod.snd = lines := by
    intro lines
    induction lines with
    | nil => exact fun _ _ => rfl
    | cons line rest ih =>
      intro marks offset
      rw [timedLines.go, List.map_cons, ih]
  exact hgo ..

/-- Lines that are heard together stay in order as far as they are of one channel. -/
lemma filter_heardTogether {p : OutputLine → Bool} {fuel : Nat} {out err : List (Nat × OutputLine)}
    (h : (out.map Prod.snd).filter p = [] ∨ (err.map Prod.snd).filter p = []) :
    (heardTogether fuel out err).filter p =
      (out.map Prod.snd).filter p ++ (err.map Prod.snd).filter p := by
  fun_induction heardTogether fuel out err with
  | case1 out err => rw [List.map_append, List.filter_append]
  | case2 => rfl
  | case3 => rw [List.map_nil, List.filter_nil, List.append_nil]
  | case4 fuel o out e err limit isHeard out' err' ih =>
    have hsplit (lines : List (Nat × OutputLine)) : (lines.map Prod.snd).filter p =
        ((lines.takeWhile isHeard).map Prod.snd).filter p ++
          ((lines.dropWhile isHeard).map Prod.snd).filter p := by
      rw [← List.filter_append, ← List.map_append, List.takeWhile_append_dropWhile]
    rw [hsplit (o :: out), hsplit (e :: err), List.append_eq_nil_iff, List.append_eq_nil_iff] at h
    rw [List.filter_append, List.filter_append, ih (h.imp And.right And.right),
      hsplit (o :: out), hsplit (e :: err)]
    obtain ⟨htake, hdrop⟩ | ⟨htake, hdrop⟩ := h
    · simp only [out', htake, hdrop, List.nil_append]
      rfl
    · simp only [err', htake, hdrop, List.append_nil]
      rfl

lemma filter_ofStream (c d : Channel) (written : Bytes) :
    (OutputLine.ofStream d written).filter (·.channel = c) =
      if d = c then OutputLine.ofStream d written else [] := by
  by_cases hd : d = c <;> simp [OutputLine.ofStream, List.filter_map, Function.comp_def, hd]

/-- The lines that are heard of a command are those of all that it wrote. -/
lemma filter_heardLines (e : Ended) (c : Channel) :
    (heardLines e).filter (·.channel = c) = OutputLine.ofStream c (writtenTo e c) := by
  rw [heardLines, filter_heardTogether]
  · simp only [map_timedLines, filter_ofStream]
    cases c with
    | out => exact List.append_nil _
    | err => rfl
  · simp only [map_timedLines, filter_ofStream]
    cases c with
    | out => exact .inr rfl
    | err => exact .inl rfl

end Ended

/-- The readers of a child send the lines of all that it wrote, whether the receiver is closed in
between or not, and they return as soon as each has had one turn more than there are lines. What was
sent before the receiver was closed is heard. Where a command is run, its lines are heard, and each
is shown as one line under the name of its host. -/
theorem forwarded_lines {read : Bytes → Bytes × Bytes} (hread : ReadsLines read) (e : Ended)
    (turns : List Turn) :
    let f := run read (writtenTo e) turns
    (∀ c, (f.returned c = true ↔ (splitLines (writtenTo e c)).length < turns.count (.read c)) ∧
      (f.returned c = true → f.left c = [] ∧ LinesOf (writtenTo e c) (f.sentOn c))) ∧
    f.heard = (run read (writtenTo e) (turns.takeWhile (· ≠ .hangUp))).sent ∧
    (∀ c, LinesOf (writtenTo e c)
      (((Transport.heardLines e).filter (·.channel = c)).map OutputLine.bytes)) ∧
    ∀ host : String, '\n' ∉ host.toList → ∀ l, l ∈ f.sent ∨ l ∈ Transport.heardLines e →
      Attributed host (Console.hostLine host l) := by
  intro f
  have hlines (c : Channel) := linesOf_splitLines (writtenTo e c)
  have hheard (c : Channel) :
      ((Transport.heardLines e).filter (·.channel = c)).map OutputLine.bytes =
        splitLines (writtenTo e c) := by
    rw [filter_heardLines, OutputLine.ofStream, List.map_map]
    exact List.map_id _
  refine ⟨fun c => ?_, heard_foldl rfl rfl turns, fun c => ?_, fun host hhost l hl => ?_⟩
  · have h := readSoFar_run hread (writtenTo e) turns c
    refine ⟨h.returned, fun hreturned => ?_⟩
    have hlength := h.returned.mp hreturned
    constructor
    · exact splitLines_eq_nil (h.left.trans (List.drop_of_length_le (by omega)))
    · rw [h.sent, List.take_of_length_le (by omega)]
      exact hlines c
  · rw [hheard c]
    exact hlines c
  · have hmem : l.bytes ∈ splitLines (writtenTo e l.channel) := by
      obtain hsent | hshown := hl
      · exact mem_sent_run hread hsent
      · rw [← hheard l.channel]
        exact List.mem_map_of_mem (List.mem_filter.mpr ⟨hshown, decide_eq_true rfl⟩)
    exact attributed_hostLine hhost ((hlines l.channel).inner l.bytes hmem)

/-- The receiver is closed after the first line. The child writes a blank line, a carriage return,
a byte that is no text, and no newline at the end. -/
theorem forwarded_lines_after_hangUp : ∃ (e : Ended) (turns : List Turn) (f : Forwarding),
    writtenTo e .out = [0x61, 0x0a, 0xff] ∧ writtenTo e .err = [0x0a, 0x78, 0x0d, 0x0a] ∧
    ReadsLines readLine ∧ f = run readLine (writtenTo e) turns ∧ turns[1]? = some .hangUp ∧
    (f.returned .out = true ∧ f.left .out = [] ∧ f.sentOn .out = [[0x61, 0x0a], [0xff]] ∧
      LinesOf (writtenTo e .out) (f.sentOn .out)) ∧
    (f.returned .err = true ∧ f.left .err = [] ∧ f.sentOn .err = [[0x0a], [0x78, 0x0d, 0x0a]] ∧
      LinesOf (writtenTo e .err) (f.sentOn .err)) ∧
    f.heard = [⟨.out, [0x61, 0x0a]⟩] ∧
    '\n' ∉ "web".toList ∧ Attributed "web" (Console.hostLine "web" ⟨.out, [0xff]⟩) := by
  let e : Ended := ⟨[(1, [0x61]), (2, [0x0a, 0xff])], [(2, [0x0a, 0x78, 0x0d, 0x0a])], 0⟩
  let turns : List Turn :=
    [.read .out, .hangUp, .read .err, .read .out, .read .err, .read .out, .read .err]
  have h := forwarded_lines readsLines_readLine e turns
  -- Nothing is evaluated but what the decisions ask for.
  obtain ⟨f, hf⟩ : ∃ f, f = run readLine (writtenTo e) turns := ⟨_, rfl⟩
  dsimp only at h
  rw [← hf] at h
  obtain ⟨hsent, -, -, hshown⟩ := h
  have hout : f.returned .out = true := (hsent .out).1.mpr (by decide +kernel)
  have herr : f.returned .err = true := (hsent .err).1.mpr (by decide +kernel)
  obtain ⟨hleftOut, hlinesOut⟩ := (hsent .out).2 hout
  obtain ⟨hleftErr, hlinesErr⟩ := (hsent .err).2 herr
  have hlast : ⟨.out, [0xff]⟩ ∈ f.sent := by
    rw [hf]
    decide +kernel
  refine ⟨e, turns, f, by decide, by decide, readsLines_readLine, hf, rfl,
    ⟨hout, hleftOut, ?_, hlinesOut⟩, ⟨herr, hleftErr, ?_, hlinesErr⟩, ?_, by decide,
    hshown "web" (by decide) ⟨.out, [0xff]⟩ (.inl hlast)⟩
  all_goals
    rw [hf]
    decide +kernel

end HostFleet.Proofs

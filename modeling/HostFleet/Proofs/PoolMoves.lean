import HostFleet.Run.Pool
import HostFleet.Proofs.RunReports

/-!
# Moves of a pool

A move of a pool takes one task on, or the joiner waits for the next one. The rules of `TaskStep`
say how a task goes on and what it shows outside, on the console or to the aggregator, and those
of `PoolStep` what becomes of the pool then; `Reached` follows the rules in any order and keeps
all that was shown. A pool follows the rules just when it makes a move, each brings the run nearer
to its end, and only at the end there is none.
-/

namespace HostFleet.Proofs
open Pool

/-- What a task shows outside of the pool. -/
inductive Event where
  | wrote (bytes : Bytes)
  | reported (f : Finished)

def Event.bytes? : Event → Option Bytes
  | .wrote bytes => some bytes
  | .reported _ => none

def Event.report? : Event → Option Finished
  | .wrote _ => none
  | .reported f => some f

@[simp] lemma bytes?_wrote (bytes : Bytes) : (Event.wrote bytes).bytes? = some bytes := rfl

@[simp] lemma bytes?_reported (f : Finished) : (Event.reported f).bytes? = none := rfl

@[simp] lemma report?_wrote (bytes : Bytes) : (Event.wrote bytes).report? = none := rfl

@[simp] lemma report?_reported (f : Finished) : (Event.reported f).report? = some f := rfl

/-- What is shown of a line that is taken. -/
def lineEvents (collapse : Bool) (host : String) (l : OutputLine) : List Event :=
  if collapse then [] else [.wrote (Console.hostLine host l)]

/-- What is gathered with a line that is taken. -/
def gather (collapse : Bool) (gathered : Bytes) (l : OutputLine) : Bytes :=
  if collapse then gathered ++ l.bytes else gathered

/-- What is shown of the status of a command. -/
def statusEvents (collapse : Bool) (host : String) (status : Status) : List Event :=
  (errorWrites collapse host status).map .wrote

/-- How the task of a job goes on, with what it shows. A crashed task does not go on by itself. -/
inductive TaskStep (collapse : Bool) (job : Job) : Task → List Event → Task → Prop where
  | begin : TaskStep collapse job .waiting [] (.running job.response.lines [] [])
  | send (l : OutputLine) (coming queue : List OutputLine) (gathered : Bytes) :
    TaskStep collapse job (.running (l :: coming) queue gathered) []
      (.running coming (queue ++ [l]) gathered)
  | take (l : OutputLine) (coming queue : List OutputLine) (gathered : Bytes) :
    TaskStep collapse job (.running coming (l :: queue) gathered) (lineEvents collapse job.host l)
      (.running coming queue (gather collapse gathered l))
  | takeLate (status : Status) (l : OutputLine) (queue : List OutputLine) (gathered : Bytes) :
    TaskStep collapse job (.ended status (l :: queue) gathered) (lineEvents collapse job.host l)
      (.ended status queue (gather collapse gathered l))
  | stop {lines : List OutputLine} {status : Status} (h : job.response = .finished lines status)
    (queue : List OutputLine) (gathered : Bytes) :
    TaskStep collapse job (.running [] queue gathered) [] (.ended status queue gathered)
  | crash {lines : List OutputLine} (h : job.response = .crashed lines)
    (queue : List OutputLine) (gathered : Bytes) :
    TaskStep collapse job (.running [] queue gathered) [] .crashed
  | leave (status : Status) (gathered : Bytes) :
    TaskStep collapse job (.ended status [] gathered) (statusEvents collapse job.host status)
      (.leaving ⟨job.host, status, outputOf collapse status gathered⟩)
  | report (f : Finished) : TaskStep collapse job (.leaving f) [.reported f] .reported

/-- The permits that a task holds. -/
def permits : Task → Nat
  | .running .. => 1
  | .ended .. => 1
  | _ => 0

/-- The pool when the task at a position has come to `t` and has shown `es`. -/
def goOn (p : Pool) (i : Nat) (t : Task) (free : Nat) (es : List Event) : Pool :=
  { p with
    free := free
    tasks := p.tasks.set i t
    aggregator := (es.filterMap Event.report?).foldl Aggregator.record p.aggregator
    writes := p.writes ++ es.filterMap Event.bytes? }

/-- The moves of a pool, with what is shown in them and the position that it is about. -/
inductive PoolStep (p : Pool) : List (Nat × Event) → Pool → Prop where
  | task {i free : Nat} {job : Job} {t t' : Task} {es : List Event}
    (hjob : p.jobs[i]? = some job) (htask : p.tasks[i]? = some t)
    (h : TaskStep p.collapse job t es t') (hfree : free + permits t' = p.free + permits t) :
    PoolStep p (es.map (i, ·)) (goOn p i t' free es)
  | join {job : Job} (hjob : p.jobs[p.joined]? = some job)
    (htask : p.tasks[p.joined]? = some .reported) :
    PoolStep p [] { p with joined := p.joined + 1 }
  | collect {job : Job} (hjob : p.jobs[p.joined]? = some job)
    (htask : p.tasks[p.joined]? = some .crashed) :
    PoolStep p [(p.joined, .reported (crashReport job.host))]
      { goOn p p.joined .reported p.free [.reported (crashReport job.host)] with
        joined := p.joined + 1 }

/-- What can become of a pool, with all that was shown on the way. -/
inductive Reached (start : Pool) : List (Nat × Event) → Pool → Prop where
  | start : Reached start [] start
  | step {log es : List (Nat × Event)} {p q : Pool} (h : Reached start log p)
    (hstep : PoolStep p es q) : Reached start (log ++ es) q

/-! ### Rules and moves -/

section Moves

variable {p q : Pool} {i : Nat} {job : Job}

lemma takeLine_eq (p : Pool) (host : String) (l : OutputLine) (gathered : Bytes) :
    p.takeLine host l gathered =
      ({ p with writes := p.writes ++ (lineEvents p.collapse host l).filterMap Event.bytes? },
        gather p.collapse gathered l) := by
  rw [takeLine, lineEvents, gather]
  split <;> simp

lemma reports_lineEvents (collapse : Bool) (host : String) (l : OutputLine) :
    (lineEvents collapse host l).filterMap Event.report? = [] := by
  rw [lineEvents]
  split <;> rfl

lemma reports_statusEvents (collapse : Bool) (host : String) (status : Status) :
    (statusEvents collapse host status).filterMap Event.report? = [] := by
  simp [statusEvents, Function.comp_def]

lemma bytes_statusEvents (collapse : Bool) (host : String) (status : Status) :
    (statusEvents collapse host status).filterMap Event.bytes? =
      errorWrites collapse host status := by
  simp [statusEvents, Function.comp_def]

/-- A pool that has a task for each of its jobs. -/
def Matched (p : Pool) : Prop := p.tasks.length = p.jobs.length

lemma Matched.exists_job (h : Matched p) {t : Task} (htask : p.tasks[i]? = some t) :
    ∃ job, p.jobs[i]? = some job := by
  obtain ⟨hi, -⟩ := List.getElem?_eq_some_iff.mp htask
  exact ⟨_, List.getElem?_eq_getElem (h ▸ hi)⟩

lemma exists_of_taskStep {t t' : Task} {es : List Event} {free : Nat}
    (h : TaskStep p.collapse job t es t') (hjob : p.jobs[i]? = some job)
    (htask : p.tasks[i]? = some t) (hfree : free + permits t' = p.free + permits t)
    (hq : q = goOn p i t' free es) : ∃ es, PoolStep p es q := by
  rw [hq]
  exact ⟨_, .task hjob htask h hfree⟩

/-- Every move follows a rule. -/
lemma exists_poolStep (hmatched : Matched p) {m : Move} (h : p.step? m = some q) :
    ∃ es, PoolStep p es q := by
  cases m with
  | begin i =>
    simp only [step?] at h
    split at h
    · next job free hjob htask hfree =>
      obtain rfl := Option.some.inj h
      have hpermits : free + permits (.running job.response.lines [] []) =
          p.free + permits .waiting := by
        simp [permits, hfree]
      exact exists_of_taskStep .begin hjob htask hpermits (by simp [goOn, setTask])
    · cases h
  | send i =>
    simp only [step?] at h
    split at h
    · next l coming queue gathered htask =>
      obtain rfl := Option.some.inj h
      obtain ⟨job, hjob⟩ := hmatched.exists_job htask
      exact exists_of_taskStep (.send l coming queue gathered) hjob htask rfl
        (by simp [goOn, setTask])
    · cases h
  | take i =>
    simp only [step?, takeLine_eq] at h
    split at h
    · next job coming l queue gathered hjob htask =>
      obtain rfl := Option.some.inj h
      exact exists_of_taskStep (.take l coming queue gathered) hjob htask rfl
        (by simp [goOn, setTask, reports_lineEvents])
    · next job status l queue gathered hjob htask =>
      obtain rfl := Option.some.inj h
      exact exists_of_taskStep (.takeLate status l queue gathered) hjob htask rfl
        (by simp [goOn, setTask, reports_lineEvents])
    · cases h
  | stop i =>
    simp only [step?] at h
    split at h
    · next job queue gathered hjob htask =>
      split at h
      · next lines status hresponse =>
        obtain rfl := Option.some.inj h
        exact exists_of_taskStep (.stop hresponse queue gathered) hjob htask rfl
          (by simp [goOn, setTask])
      · next lines hresponse =>
        obtain rfl := Option.some.inj h
        exact exists_of_taskStep (.crash hresponse queue gathered) hjob htask rfl
          (by simp [goOn, setTask])
    · cases h
  | leave i =>
    simp only [step?] at h
    split at h
    · next job status gathered hjob htask =>
      obtain rfl := Option.some.inj h
      exact exists_of_taskStep (.leave status gathered) hjob htask rfl
        (by simp [goOn, setTask, reports_statusEvents, bytes_statusEvents])
    · cases h
  | report i =>
    simp only [step?] at h
    split at h
    · next f htask =>
      obtain rfl := Option.some.inj h
      obtain ⟨job, hjob⟩ := hmatched.exists_job htask
      exact exists_of_taskStep (.report f) hjob htask rfl
        (by simp [goOn, setTask])
    · cases h
  | join =>
    simp only [step?] at h
    split at h
    · next job hjob htask =>
      obtain rfl := Option.some.inj h
      exact ⟨_, .join hjob htask⟩
    · next job hjob htask =>
      obtain rfl := Option.some.inj h
      have hstep := PoolStep.collect hjob htask
      simp only [goOn, List.filterMap_cons, List.filterMap_nil, report?_reported, bytes?_reported,
        List.foldl_cons, List.foldl_nil, List.append_nil] at hstep
      exact ⟨_, hstep⟩
    · cases h

/-- Every rule is followed by a move. -/
lemma exists_move {es : List (Nat × Event)} (h : PoolStep p es q) : ∃ m, p.step? m = some q := by
  cases h with
  | @task i free job t t' es hjob htask h hfree =>
    cases h with
    | begin =>
      obtain hfree : p.free = free + 1 := by simpa [permits] using hfree.symm
      exact ⟨.begin i, by simp [step?, hjob, htask, hfree, goOn, setTask]⟩
    | send l coming queue gathered =>
      obtain rfl : free = p.free := by simpa [permits] using hfree
      exact ⟨.send i, by simp [step?, htask, goOn, setTask]⟩
    | take l coming queue gathered =>
      obtain rfl : free = p.free := by simpa [permits] using hfree
      exact ⟨.take i, by
        simp [step?, hjob, htask, goOn, setTask, takeLine_eq, reports_lineEvents]⟩
    | takeLate status l queue gathered =>
      obtain rfl : free = p.free := by simpa [permits] using hfree
      exact ⟨.take i, by
        simp [step?, hjob, htask, goOn, setTask, takeLine_eq, reports_lineEvents]⟩
    | stop hresponse queue gathered =>
      obtain rfl : free = p.free := by simpa [permits] using hfree
      exact ⟨.stop i, by simp [step?, hjob, htask, hresponse, goOn, setTask]⟩
    | crash hresponse queue gathered =>
      obtain rfl : free = p.free + 1 := by simpa [permits] using hfree
      exact ⟨.stop i, by simp [step?, hjob, htask, hresponse, goOn, setTask]⟩
    | leave status gathered =>
      obtain rfl : free = p.free + 1 := by simpa [permits] using hfree
      exact ⟨.leave i, by
        simp [step?, hjob, htask, goOn, setTask, reports_statusEvents, bytes_statusEvents]⟩
    | report f =>
      obtain rfl : free = p.free := by simpa [permits] using hfree
      exact ⟨.report i, by simp [step?, htask, goOn, setTask]⟩
  | join hjob htask => exact ⟨.join, by simp [step?, hjob, htask]⟩
  | collect hjob htask =>
    exact ⟨.join, by simp [step?, hjob, htask, goOn, setTask]⟩

/-- The rules are those that the moves follow. -/
theorem exists_poolStep_iff (hmatched : Matched p) :
    (∃ es, PoolStep p es q) ↔ ∃ m, p.step? m = some q :=
  ⟨fun ⟨_, h⟩ => exists_move h, fun ⟨_, h⟩ => exists_poolStep hmatched h⟩

end Moves

/-! ### Runs come to an end -/

section Work

variable {p q : Pool}

/-- The moves that a task can still make. -/
def taskWork (job : Job) : Task → Nat
  | .waiting => 2 * job.response.lines.length + 4
  | .running coming queue _ => 2 * coming.length + queue.length + 3
  | .ended _ queue _ => queue.length + 2
  | .leaving _ => 1
  | .crashed => 1
  | .reported => 0

/-- The moves that a pool can still make. -/
def work (p : Pool) : Nat :=
  (List.zipWith taskWork p.jobs p.tasks).sum + (p.jobs.length - p.joined)

lemma sum_set {l : List Nat} {i a b : Nat} (h : l[i]? = some a) :
    (l.set i b).sum + a = l.sum + b := by
  induction l generalizing i with
  | nil => cases h
  | cons x l ih =>
    cases i with
    | zero =>
      obtain rfl : x = a := by simpa using h
      simp only [List.set_cons_zero, List.sum_cons]
      omega
    | succ i =>
      have hrest := ih (i := i) (by simpa using h)
      simp only [List.set_cons_succ, List.sum_cons]
      omega

lemma sum_zipWith_set {α β : Type} {f : α → β → Nat} {xs : List α} {ys : List β} {i : Nat} {x : α}
    {y : β} (hx : xs[i]? = some x) (hy : ys[i]? = some y) (y' : β) :
    (List.zipWith f xs (ys.set i y')).sum + f x y = (List.zipWith f xs ys).sum + f x y' := by
  obtain ⟨hi, hxi⟩ := List.getElem?_eq_some_iff.mp hx
  obtain ⟨hi', hyi⟩ := List.getElem?_eq_some_iff.mp hy
  have hset : List.zipWith f xs (ys.set i y') = (List.zipWith f xs ys).set i (f x y') := by
    refine List.ext_getElem? fun j => ?_
    by_cases hj : i = j
    · subst hj
      simp [hi, hi', hxi]
    · simp [List.getElem?_zipWith, List.getElem?_set_ne hj]
  rw [hset]
  exact sum_set (by simp [hi, hi', hxi, hyi])

lemma taskWork_lt {collapse : Bool} {job : Job} {t t' : Task} {es : List Event}
    (h : TaskStep collapse job t es t') : taskWork job t' < taskWork job t := by
  cases h <;> simp only [taskWork, List.length_cons, List.length_append, List.length_nil] <;> omega

theorem work_lt {es : List (Nat × Event)} (h : PoolStep p es q) : work q < work p := by
  cases h with
  | @task i free job t t' es hjob htask h =>
    have hlt := taskWork_lt h
    have hsum := sum_zipWith_set (f := taskWork) hjob htask t'
    simp only [work, goOn]
    omega
  | join hjob htask =>
    have hlt := (List.getElem?_eq_some_iff.mp hjob).1
    simp only [work]
    omega
  | @collect job hjob htask =>
    have hlt := (List.getElem?_eq_some_iff.mp hjob).1
    have hsum := sum_zipWith_set (f := taskWork) hjob htask .reported
    simp only [taskWork] at hsum
    simp only [work, goOn]
    omega

end Work

end HostFleet.Proofs

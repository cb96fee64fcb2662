import HostFleet.Proofs.CollapseRuns

/-!
# One console for all tasks

Where output is shown line by line, the tasks of a pool write to one console, and only the task
that has it writes: its bytes reach the sink piece by piece, while the other tasks and the commands
go on. Then nothing comes between the pieces of a write, and of each position of the list all lines
are written, in the order in which they were sent, then the error if there is one. The summary
comes after all of them.

What carries this is that a task with something to write has it to write until it does so, whatever
goes on in between.
-/

namespace HostFleet.Proofs
open Pool Relation

/-- A write that is on its way, about a position or to close the run: what of it has come to the
sink, and what is left. -/
structure Writing where
  source : Option Nat
  arrived : Bytes
  left : Bytes

/-- A pool with the console that its tasks share. -/
structure SharedPool where
  pool : Pool
  /-- The writes that are complete, in order. -/
  transcript : List (Option Nat × Bytes)
  /-- The write of the one that has the console. -/
  writing : Option Writing
  sink : Bytes

namespace SharedPool

def start (size : Nat) (jobs : List Job) : SharedPool := ⟨.start false size jobs, [], none, []⟩

/-- The writes of one source. -/
def writesOf (source : Option Nat) (transcript : List (Option Nat × Bytes)) : List Bytes :=
  transcript.filterMap fun e => if e.1 = source then some e.2 else none

/-- What of a write that is not complete has come to the sink. -/
def arrived (s : SharedPool) : Bytes := s.writing.elim [] Writing.arrived

end SharedPool

open SharedPool

/-- What a source has to write next, and what becomes of the pool with it. A run is closed after
the joiner has waited for all tasks. -/
inductive Issues (p : Pool) (transcript : List (Option Nat × Bytes)) :
    Option Nat → Bytes → Pool → Prop where
  | task {i : Nat} {bytes : Bytes} {q : Pool} (h : PoolStep p [(i, .wrote bytes)] q) :
    Issues p transcript (some i) bytes q
  | closing {bytes : Bytes} {rest : List Bytes} (hjoined : p.joined = p.jobs.length)
    (h : Run.closing p.aggregator.report = writesOf none transcript ++ bytes :: rest) :
    Issues p transcript none bytes p

section Task

variable {job : Job} {t t' : Task} {es : List Event} {bytes : Bytes}

/-- The next write of a task that has something to write. -/
def nextWrite? (host : String) : Task → Option Bytes
  | .running _ (l :: _) _ => some (Console.hostLine host l)
  | .ended _ (l :: _) _ => some (Console.hostLine host l)
  | .ended (.error e) [] _ => some (Console.hostError host e)
  | _ => none

lemma nextWrite?_of_taskStep (h : TaskStep false job t [.wrote bytes] t') :
    nextWrite? job.host t = some bytes := by
  generalize hes : [Event.wrote bytes] = es at h
  cases h with
  | take l coming queue gathered =>
    obtain rfl : bytes = Console.hostLine job.host l := by simpa [lineEvents] using hes
    rfl
  | takeLate status l queue gathered =>
    obtain rfl : bytes = Console.hostLine job.host l := by simpa [lineEvents] using hes
    rfl
  | leave status gathered =>
    cases status with
    | ok code => simp [statusEvents, errorWrites] at hes
    | error e =>
      obtain rfl : bytes = Console.hostError job.host e := by
        simpa [statusEvents, errorWrites] using hes
      rfl
  | begin => cases hes
  | send => cases hes
  | stop => cases hes
  | crash => cases hes
  | report => cases hes

/-- A task can make its next write, and needs no other permit for it. -/
lemma exists_taskStep_wrote (h : nextWrite? job.host t = some bytes) :
    ∃ t', TaskStep false job t [.wrote bytes] t' ∧ permits t' ≤ permits t := by
  cases t with
  | running coming queue gathered =>
    cases queue with
    | nil => cases h
    | cons l queue =>
      cases h
      exact ⟨_, .take l coming queue gathered, le_rfl⟩
  | ended status queue gathered =>
    cases queue with
    | cons l queue =>
      cases h
      exact ⟨_, .takeLate status l queue gathered, le_rfl⟩
    | nil =>
      cases status with
      | ok code => cases h
      | error e =>
        cases h
        exact ⟨_, .leave (.error e) gathered, Nat.zero_le _⟩
  | waiting => cases h
  | leaving f => cases h
  | crashed => cases h
  | reported => cases h

/-- What a task has to write next it has to write until it does so. Only a crash could lose it. -/
lemma nextWrite?_of_silent (h : TaskStep false job t es t')
    (hsilent : es.filterMap Event.bytes? = []) (hnext : nextWrite? job.host t = some bytes)
    (hends : ∀ lines, job.response ≠ .crashed lines) : nextWrite? job.host t' = some bytes := by
  cases h with
  | send l coming queue gathered =>
    cases queue with
    | nil => cases hnext
    | cons l' queue => exact hnext
  | stop hresponse queue gathered =>
    cases queue with
    | nil => cases hnext
    | cons l queue => exact hnext
  | crash hresponse => exact (hends _ hresponse).elim
  | take l => simp [lineEvents] at hsilent
  | takeLate status l => simp [lineEvents] at hsilent
  | leave status gathered =>
    cases status with
    | ok code => cases hnext
    | error e => simp [statusEvents, errorWrites] at hsilent
  | begin => cases hnext
  | report => cases hnext

end Task

section Pool

variable {p q : Pool} {i : Nat} {bytes : Bytes} {es : List (Nat × Event)}

/-- The task at a position has this to write next. -/
def Awaits (p : Pool) (i : Nat) (bytes : Bytes) : Prop :=
  ∃ job t, p.jobs[i]? = some job ∧ p.tasks[i]? = some t ∧ nextWrite? job.host t = some bytes

lemma awaits_of_poolStep (hmode : p.collapse = false) (h : PoolStep p [(i, .wrote bytes)] q) :
    Awaits p i bytes := by
  generalize hes : [(i, Event.wrote bytes)] = es at h
  cases h with
  | @task j free job t t' es hjob htask hstep hfree =>
    obtain ⟨event, rfl, hevent⟩ := List.map_eq_singleton_iff.mp hes.symm
    obtain ⟨rfl, rfl⟩ := Prod.mk.inj hevent
    rw [hmode] at hstep
    exact ⟨job, t, hjob, htask, nextWrite?_of_taskStep hstep⟩
  | join => cases hes
  | collect => cases hes

lemma exists_poolStep_wrote (hmode : p.collapse = false) (h : Awaits p i bytes) :
    ∃ q, PoolStep p [(i, .wrote bytes)] q := by
  obtain ⟨job, t, hjob, htask, hnext⟩ := h
  obtain ⟨t', hstep, hpermits⟩ := exists_taskStep_wrote hnext
  have hfree : p.free + permits t - permits t' + permits t' = p.free + permits t := by omega
  rw [← hmode] at hstep
  have hmove := PoolStep.task hjob htask hstep hfree
  exact ⟨_, hmove⟩

/-- What a task has to write it still has after each move that writes nothing. -/
lemma awaits_of_silent (hmode : p.collapse = false)
    (hends : ∀ job ∈ p.jobs, ∀ lines, job.response ≠ .crashed lines) (h : PoolStep p es q)
    (hsilent : es.filterMap (fun e => e.2.bytes?) = []) (hawaits : Awaits p i bytes) :
    Awaits q i bytes := by
  obtain ⟨job, t, hjob, htask, hnext⟩ := hawaits
  cases h with
  | @task j free job' t' t'' es hjob' htask' hstep hfree =>
    by_cases hj : j = i
    · subst hj
      obtain rfl := Option.some.inj (hjob.symm.trans hjob')
      obtain rfl := Option.some.inj (htask.symm.trans htask')
      rw [hmode] at hstep
      rw [List.filterMap_map] at hsilent
      obtain ⟨hlt, -⟩ := List.getElem?_eq_some_iff.mp htask
      exact ⟨job, t'', hjob, by simp [goOn, hlt],
        nextWrite?_of_silent hstep hsilent hnext (hends job (List.mem_of_getElem? hjob))⟩
    · exact ⟨job, t, hjob, by simpa [goOn, List.getElem?_set_ne hj] using htask, hnext⟩
  | join => exact ⟨job, t, hjob, htask, hnext⟩
  | @collect job' hjob' htask' =>
    have hj : p.joined ≠ i := by
      rintro rfl
      obtain rfl := Option.some.inj (htask.symm.trans htask')
      cases hnext
    exact ⟨job, t, hjob, by simpa [goOn, List.getElem?_set_ne hj] using htask, hnext⟩

end Pool

/-! ### What is written about a position -/

/-- All that is written about a host: each of its lines, and then its error if there is one. -/
def hostWrites (host : String) (lines : List OutputLine) : Status → List Bytes
  | .ok _ => lines.map (Console.hostLine host)
  | .error e => lines.map (Console.hostLine host) ++ [Console.hostError host e]

section Position

variable {job : Job} {t : Task} {es : List Event} {lines : List OutputLine} {status : Status}

lemma hostWrites_eq (host : String) (lines : List OutputLine) (status : Status) :
    hostWrites host lines status =
      lines.map (Console.hostLine host) ++ errorWrites false host status := by
  cases status with
  | ok code => exact (List.append_nil _).symm
  | error e => rfl

lemma bytes_flatMap_lineEvents (host : String) (taken : List OutputLine) :
    (taken.flatMap (lineEvents false host)).filterMap Event.bytes? =
      taken.map (Console.hostLine host) := by
  induction taken with
  | nil => rfl
  | cons l taken ih =>
    rw [List.flatMap_cons, List.filterMap_append, ih]
    rfl

lemma Shows.bytes (h : Shows false job es) (hresponse : job.response = .finished lines status) :
    es.filterMap Event.bytes? = hostWrites job.host lines status := by
  rw [Shows, hresponse] at h
  rw [h, List.filterMap_append, bytes_flatMap_lineEvents, bytes_statusEvents, hostWrites_eq]

lemma Fits.bytes_prefix (h : Fits false job t es)
    (hresponse : job.response = .finished lines status) :
    es.filterMap Event.bytes? <+: hostWrites job.host lines status := by
  cases t with
  | waiting =>
    obtain rfl := h
    exact List.nil_prefix
  | running coming queue gathered =>
    obtain ⟨taken, hlines, -, rfl⟩ := h
    rw [hresponse, Response.lines] at hlines
    rw [bytes_flatMap_lineEvents, hostWrites_eq, hlines, List.map_append, List.append_assoc]
    exact List.prefix_append _ _
  | ended status' queue gathered =>
    obtain ⟨taken, hfinished, -, rfl⟩ := h
    obtain ⟨rfl, rfl⟩ := Response.finished.inj (hresponse.symm.trans hfinished)
    rw [bytes_flatMap_lineEvents, hostWrites_eq, List.map_append, List.append_assoc]
    exact List.prefix_append _ _
  | leaving f => rw [h.2.bytes hresponse]
  | crashed => rw [h.2.bytes hresponse]
  | reported =>
    obtain ⟨before, hshows, rfl⟩ := h
    rw [List.filterMap_append, hshows.bytes hresponse]
    exact (List.append_nil _).symm ▸ List.prefix_refl _

lemma Fits.bytes_of_reported (h : Fits false job .reported es)
    (hresponse : job.response = .finished lines status) :
    es.filterMap Event.bytes? = hostWrites job.host lines status := by
  obtain ⟨before, hshows, rfl⟩ := h
  rw [List.filterMap_append, hshows.bytes hresponse]
  exact List.append_nil _

end Position

/-! ### What always holds -/

/-- The writes of a log, with the positions that they are about. -/
def logWrites (log : List (Nat × Event)) : List (Option Nat × Bytes) :=
  log.filterMap fun e => e.2.bytes?.map (some e.1, ·)

/-- What holds of every state of a pool that shares one console. -/
structure Coherent (size : Nat) (jobs : List Job) (s : SharedPool) : Prop where
  reached : ∃ log closing, Reached (.start false size jobs) log s.pool ∧
    s.transcript = logWrites log ++ closing.map (none, ·) ∧
    (closing ≠ [] → s.pool.joined = jobs.length) ∧
    closing <+: Run.closing s.pool.aggregator.report
  pending : ∀ w, s.writing = some w →
    ∃ q, Issues s.pool s.transcript w.source (w.arrived ++ w.left) q
  sink : s.sink = (s.transcript.map Prod.snd).flatten ++ s.arrived

section Coherent

variable {size i : Nat} {jobs : List Job} {log es : List (Nat × Event)} {p q : Pool}
  {s s' : SharedPool}

lemma logWrites_append : logWrites (log ++ es) = logWrites log ++ logWrites es := by
  simp [logWrites]

lemma logWrites_eq_nil (h : es.filterMap (fun e => e.2.bytes?) = []) : logWrites es = [] := by
  rw [List.filterMap_eq_nil_iff] at h
  exact List.filterMap_eq_nil_iff.mpr fun e he => by rw [h e he, Option.map_none]

lemma map_snd_logWrites : (logWrites log).map Prod.snd = log.filterMap fun e => e.2.bytes? := by
  simp [logWrites, List.map_filterMap, Function.comp_def]

lemma writesOf_append (source : Option Nat) (transcript rest : List (Option Nat × Bytes)) :
    writesOf source (transcript ++ rest) = writesOf source transcript ++ writesOf source rest :=
  List.filterMap_append

lemma writesOf_logWrites (i : Nat) (log : List (Nat × Event)) :
    writesOf (some i) (logWrites log) = (eventsAt i log).filterMap Event.bytes? := by
  induction log with
  | nil => rfl
  | cons e log ih =>
    obtain ⟨j, event⟩ := e
    simp only [logWrites, writesOf, eventsAt] at ih ⊢
    by_cases hj : j = i <;> cases event <;> simp [List.filterMap_cons, hj, ih]

/-- All writes of a log are about positions. -/
lemma source_of_mem_logWrites {e : Option Nat × Bytes} (h : e ∈ logWrites log) :
    ∃ e' ∈ log, e.1 = some e'.1 := by
  obtain ⟨e', he', heq⟩ := List.mem_filterMap.mp h
  obtain ⟨bytes, -, rfl⟩ := Option.map_eq_some_iff.mp heq
  exact ⟨e', he', rfl⟩

lemma writesOf_some_closing (i : Nat) (closing : List Bytes) :
    writesOf (some i) (closing.map (none, ·)) = [] := by
  simp [writesOf, List.filterMap_map]

/-- At its end a pool does not go on. -/
lemma not_poolStep_of_joined (h : Reached (.start false size jobs) log p)
    (hjoined : p.joined = jobs.length) : ¬ PoolStep p es q := by
  intro hstep
  obtain ⟨m, hm⟩ := exists_move hstep
  rw [(orderly_of_reached h).step?_eq_none_iff.mpr hjoined m] at hm
  cases hm

/-- A pool that goes on has not come to its end, so that nothing closes the run yet. -/
lemma Coherent.exists_log (h : Coherent size jobs s) (hstep : PoolStep s.pool es q) :
    ∃ log, Reached (.start false size jobs) log s.pool ∧ s.transcript = logWrites log := by
  obtain ⟨log, closing, hreached, htranscript, hjoined, -⟩ := h.reached
  obtain rfl : closing = [] := by
    by_contra hne
    exact not_poolStep_of_joined hreached (hjoined hne) hstep
  exact ⟨log, hreached, by rw [htranscript, List.map_nil, List.append_nil]⟩

lemma Coherent.silent (h : Coherent size jobs s)
    (hends : ∀ job ∈ jobs, ∀ lines, job.response ≠ .crashed lines) (hstep : PoolStep s.pool es q)
    (hsilent : es.filterMap (fun e => e.2.bytes?) = []) :
    Coherent size jobs { s with pool := q } where
  reached := by
    obtain ⟨log, hreached, htranscript⟩ := h.exists_log hstep
    refine ⟨log ++ es, [], hreached.step hstep, ?_, fun hne => (hne rfl).elim, List.nil_prefix⟩
    rw [logWrites_append, logWrites_eq_nil hsilent, htranscript, List.append_nil]
    exact (List.append_nil _).symm
  pending := by
    intro w hw
    obtain ⟨log, hreached, -⟩ := h.exists_log hstep
    have horderly := orderly_of_reached hreached
    obtain ⟨q', hissues⟩ := h.pending w hw
    obtain ⟨source, arrived, left⟩ := w
    cases hissues with
    | task hwrite =>
      have hawaits := awaits_of_silent horderly.mode (horderly.same_jobs ▸ hends) hstep hsilent
        (awaits_of_poolStep horderly.mode hwrite)
      obtain ⟨q'', hq''⟩ := exists_poolStep_wrote
        (orderly_of_reached (hreached.step hstep)).mode hawaits
      exact ⟨q'', .task hq''⟩
    | closing hjoined =>
      rw [horderly.same_jobs] at hjoined
      exact (not_poolStep_of_joined hreached hjoined hstep).elim
  sink := h.sink

lemma Coherent.put (h : Coherent size jobs s) {source : Option Nat} {before part left : Bytes}
    (hwriting : s.writing = some ⟨source, before, part ++ left⟩) :
    Coherent size jobs { s with
      writing := some ⟨source, before ++ part, left⟩
      sink := s.sink ++ part } where
  reached := h.reached
  pending := by
    rintro w hw
    cases hw
    obtain ⟨q, hissues⟩ := h.pending _ hwriting
    exact ⟨q, by rwa [List.append_assoc]⟩
  sink := by
    rw [h.sink, arrived, hwriting]
    exact List.append_assoc _ _ _

end Coherent

/-! ### The whole transcript -/

section Transcript

variable {size i : Nat} {jobs : List Job} {log : List (Nat × Event)} {p q : Pool}
  {s s' : SharedPool} {host : String} {lines : List OutputLine} {status : Status}

/-- The writes about positions are those of the pool. -/
lemma Coherent.writes (h : Coherent size jobs s) :
    (s.transcript.filter (·.1.isSome)).map Prod.snd = s.pool.writes := by
  obtain ⟨log, closing, hreached, htranscript, -, -⟩ := h.reached
  have hlog : (logWrites log).filter (·.1.isSome) = logWrites log := by
    refine List.filter_eq_self.mpr fun e he => ?_
    obtain ⟨e', -, hsource⟩ := source_of_mem_logWrites he
    rw [hsource]
    rfl
  have hclosing : (closing.map ((none : Option Nat), ·)).filter (·.1.isSome) = [] := by
    simp [List.filter_map]
  rw [htranscript, List.filter_append, hlog, hclosing, List.append_nil, map_snd_logWrites,
    (orderly_of_reached hreached).writes]

/-- Of a position nothing is written that it has not, and nothing out of order. -/
lemma Coherent.writes_prefix (h : Coherent size jobs s)
    (hjob : jobs[i]? = some ⟨host, .finished lines status⟩) :
    writesOf (some i) s.transcript <+: hostWrites host lines status := by
  obtain ⟨log, closing, hreached, htranscript, -, -⟩ := h.reached
  have horderly := orderly_of_reached hreached
  obtain ⟨hi, -⟩ := List.getElem?_eq_some_iff.mp hjob
  have htask := List.getElem?_eq_getElem (horderly.matched ▸ hi)
  rw [htranscript, writesOf_append, writesOf_logWrites, writesOf_some_closing, List.append_nil]
  have hfits := horderly.fits hjob htask
  exact hfits.bytes_prefix rfl

end Transcript

/-! ### Runs in parallel mode -/

end HostFleet.Proofs

import HostFleet.Proofs.CollapseRuns

/-!
# Serial runs

In serial mode the hosts are served one after the other. A command sends its lines while those
that have come are shown, and what it leaves behind may send more after it has ended; the next host
is served when nothing is left of the last one. So the console holds the same bytes in whatever
order commands go on and their lines are shown: one host after the other, and the summary.

What carries this is that the lines shown, those that wait and those to come are, in this order,
the lines of the command.
-/

namespace HostFleet.Proofs
open Pool Relation

/-! ### The text of a run -/

/-- How many jobs there are, and how many of them end well. -/
def tally (jobs : List Job) : Counters :=
  ⟨jobs.length, jobs.countP endsWell, jobs.length - jobs.countP endsWell⟩

/-- The call of the command on the host of a job. -/
def callOf (user command : String) (job : Job) : Call := ⟨⟨job.host, user⟩, command⟩

/-! ### The moves of a run -/

/-- How far the serving of a host has come. -/
inductive Service where
  | waiting
  | announced
  /-- The command was called: the lines that it has still to send, those that wait to be shown, and
  its status after it has ended. -/
  | running (coming queue : List OutputLine) (ended : Option Status)
  /-- All lines are shown, and the error if there is one. -/
  | shown (status : Status)

/-- How the serving of a host goes on, with the calls and the writes made in it. Lines are sent and
shown in any order that a channel allows, also after the command has ended, but all of them before
the error. -/
inductive ServiceStep (user command : String) (job : Job) :
    Service → List Call → List Bytes → Service → Prop where
  | announce :
    ServiceStep user command job .waiting [] [Console.banner user job.host command] .announced
  | call : ServiceStep user command job .announced [callOf user command job] []
      (.running job.response.lines [] none)
  | send (l : OutputLine) (coming queue : List OutputLine) (ended : Option Status) :
    ServiceStep user command job (.running (l :: coming) queue ended) [] []
      (.running coming (queue ++ [l]) ended)
  | take (l : OutputLine) (coming queue : List OutputLine) (ended : Option Status) :
    ServiceStep user command job (.running coming (l :: queue) ended) [] [Console.rawLine l]
      (.running coming queue ended)
  | stop {lines : List OutputLine} {status : Status} (h : job.response = .finished lines status)
    (coming queue : List OutputLine) :
    ServiceStep user command job (.running coming queue none) [] []
      (.running coming queue (some status))
  | leave (status : Status) :
    ServiceStep user command job (.running [] [] (some status)) []
      (errorWrites false job.host status) (.shown status)

structure SerialRun where
  /-- The jobs that are not reported yet. The first of them is served. -/
  left : List Job
  service : Service
  calls : List Call
  /-- What was written to the console, in order. -/
  writes : List Bytes
  aggregator : Aggregator
  closed : Bool

def SerialRun.start (jobs : List Job) : SerialRun :=
  ⟨jobs, .waiting, [], [], opened jobs.length false, false⟩

/-- The writes about one host. -/
def entryWrites (user command : String) (job : Job) : List Bytes :=
  Console.banner user job.host command ::
    match job.response with
    | .finished lines status => Run.serialWrites job.host lines status
    | .crashed lines => lines.map Console.rawLine

/-- The writes of a whole run. -/
def runWrites (user command : String) (jobs : List Job) : List Bytes :=
  jobs.flatMap (entryWrites user command) ++ [Console.summary (tally jobs)]

section Writes

variable {user command : String} {job : Job} {lines : List OutputLine} {status : Status}

lemma entryWrites_of_finished (h : job.response = .finished lines status) :
    entryWrites user command job =
      Console.banner user job.host command :: lines.map Console.rawLine ++
        errorWrites false job.host status := by
  rw [entryWrites, h]
  rfl

lemma finalReport_of_finished (h : job.response = .finished lines status) :
    finalReport false job = ⟨job.host, status, none⟩ := by
  rw [finalReport, h]
  cases status <;> rfl

end Writes

/-! ### One host -/

/-- What was called and written about a host, as far as its serving has come. -/
inductive Serves (user command : String) (job : Job) :
    Service → List Call → List Bytes → Prop where
  | waiting : Serves user command job .waiting [] []
  | announced : Serves user command job .announced [] [Console.banner user job.host command]
  | running {taken queue coming : List OutputLine} {status : Status} {ended : Option Status}
    (hresponse : job.response = .finished (taken ++ queue ++ coming) status)
    (hended : ∀ status' ∈ ended, status' = status) :
    Serves user command job (.running coming queue ended) [callOf user command job]
      (Console.banner user job.host command :: taken.map Console.rawLine)
  | shown {lines : List OutputLine} {status : Status}
    (hresponse : job.response = .finished lines status) :
    Serves user command job (.shown status) [callOf user command job]
      (entryWrites user command job)

section Service

variable {user command : String} {job : Job} {service service' : Service}
  {calls calls' : List Call} {writes writes' : List Bytes}

lemma Serves.step (h : Serves user command job service calls writes)
    (hends : ∃ lines status, job.response = .finished lines status)
    (hstep : ServiceStep user command job service calls' writes' service') :
    Serves user command job service' (calls ++ calls') (writes ++ writes') := by
  cases hstep with
  | announce =>
    cases h
    exact .announced
  | call =>
    cases h
    obtain ⟨lines, status, hresponse⟩ := hends
    rw [hresponse]
    have htaken : job.response = .finished ([] ++ [] ++ lines) status := hresponse
    exact .running htaken nofun
  | send l coming queue ended =>
    cases h with
    | @running taken _ _ status _ hresponse hended =>
      rw [List.append_nil, List.append_nil]
      refine .running ?_ hended
      rw [hresponse]
      simp
  | take l coming queue ended =>
    cases h with
    | @running taken _ _ status _ hresponse hended =>
      have htaken : taken.map Console.rawLine ++ [Console.rawLine l] =
          (taken ++ [l]).map Console.rawLine := by rw [List.map_append, List.map_singleton]
      rw [List.append_nil, List.cons_append, htaken]
      refine .running ?_ hended
      rw [hresponse]
      simp
  | @stop lines status hresponse coming queue =>
    cases h with
    | @running taken _ _ status' _ hresponse' hended =>
      obtain ⟨-, rfl⟩ := Response.finished.inj (hresponse.symm.trans hresponse')
      rw [List.append_nil, List.append_nil]
      exact .running hresponse' fun _ h => (Option.some.inj h).symm
  | leave status =>
    cases h with
    | @running taken _ _ status' _ hresponse hended =>
      obtain rfl : status = status' := hended status rfl
      rw [List.append_nil, List.append_nil] at hresponse
      rw [List.append_nil, ← entryWrites_of_finished hresponse]
      exact .shown hresponse

lemma Serves.calls_prefix (h : Serves user command job service calls writes) :
    calls <+: [callOf user command job] := by
  cases h with
  | waiting => exact List.nil_prefix
  | announced => exact List.nil_prefix
  | running => exact List.prefix_rfl
  | shown => exact List.prefix_rfl

lemma Serves.writes_prefix (h : Serves user command job service calls writes) :
    writes <+: entryWrites user command job := by
  cases h with
  | waiting => exact List.nil_prefix
  | announced => exact (List.prefix_cons_inj _).mpr List.nil_prefix
  | @running taken queue coming status ended hresponse hended =>
    rw [entryWrites_of_finished hresponse, List.map_append, List.map_append, List.append_assoc,
      List.cons_append, List.append_assoc]
    exact (List.prefix_cons_inj _).mpr (List.prefix_append _ _)
  | shown => exact List.prefix_rfl

lemma Serves.exists_step (h : Serves user command job service calls writes) :
    (∃ status, service = .shown status) ∨
      ∃ calls' writes' service', ServiceStep user command job service calls' writes' service' := by
  cases h with
  | waiting => exact .inr ⟨_, _, _, .announce⟩
  | announced => exact .inr ⟨_, _, _, .call⟩
  | @running taken queue coming status ended hresponse hended =>
    right
    cases queue with
    | cons l queue => exact ⟨_, _, _, .take l coming queue ended⟩
    | nil =>
      cases coming with
      | cons l coming => exact ⟨_, _, _, .send l coming [] ended⟩
      | nil =>
        cases ended with
        | none => exact ⟨_, _, _, .stop hresponse [] []⟩
        | some status => exact ⟨_, _, _, .leave status⟩
  | @shown lines status hresponse => exact .inl ⟨status, rfl⟩

end Service

/-! ### One host after the other -/

/-- What was called and written since the last report. -/
inductive Underway (user command : String) (jobs : List Job) :
    List Job → Service → Bool → List Call → List Bytes → Prop where
  | host {job : Job} (rest : List Job) {service : Service} {calls : List Call}
    {writes : List Bytes} (h : Serves user command job service calls writes) :
    Underway user command jobs (job :: rest) service false calls writes
  | done : Underway user command jobs [] .waiting false [] []
  | closed : Underway user command jobs [] .waiting true [] [Console.summary (tally jobs)]

/-- The hosts served are those at the front of the list, each with its call, its writes and its
report in this order, and nothing else was called or written than what the next one has. -/
structure Sequential (user command : String) (jobs served : List Job) (s : SerialRun) : Prop where
  split : served ++ s.left = jobs
  reports : s.aggregator =
    (served.map (finalReport false)).foldl Aggregator.record (opened jobs.length false)
  next : ∃ calls writes, Underway user command jobs s.left s.service s.closed calls writes ∧
    s.calls = served.map (callOf user command) ++ calls ∧
    s.writes = served.flatMap (entryWrites user command) ++ writes

section Serial

variable {user command : String} {jobs served left : List Job} {s s' : SerialRun}
  {service : Service} {closed : Bool} {calls : List Call} {writes : List Bytes}

lemma Underway.calls_prefix
    (h : Underway user command jobs left service closed calls writes) :
    calls <+: left.map (callOf user command) := by
  cases h with
  | host rest hserves => exact hserves.calls_prefix.trans (List.prefix_append _ _)
  | done => exact List.nil_prefix
  | closed => exact List.nil_prefix

lemma Underway.writes_prefix
    (h : Underway user command jobs left service closed calls writes) :
    writes <+: left.flatMap (entryWrites user command) ++ [Console.summary (tally jobs)] := by
  cases h with
  | host rest hserves =>
    exact hserves.writes_prefix.trans ((List.prefix_append _ _).trans (List.prefix_append _ _))
  | done => exact List.nil_prefix
  | closed => exact List.prefix_rfl

lemma Sequential.calls_prefix (h : Sequential user command jobs served s) :
    s.calls <+: jobs.map (callOf user command) := by
  obtain ⟨calls, writes, hnext, hcalls, -⟩ := h.next
  rw [hcalls, ← h.split, List.map_append, List.prefix_append_right_inj]
  exact hnext.calls_prefix

lemma Sequential.writes_prefix (h : Sequential user command jobs served s) :
    s.writes <+: runWrites user command jobs := by
  obtain ⟨calls, writes, hnext, -, hwrites⟩ := h.next
  have hjobs : jobs.flatMap (entryWrites user command) =
      served.flatMap (entryWrites user command) ++ s.left.flatMap (entryWrites user command) := by
    rw [← h.split, List.flatMap_append]
  rw [runWrites, hwrites, hjobs, List.append_assoc, List.prefix_append_right_inj]
  exact hnext.writes_prefix

end Serial

/-! ### Runs in serial mode -/

section Run

variable {settings : RunSettings} {execute : Executor} {command : String} {hosts : List String}

/-- What is written and reported when none of the commands crashes. -/
lemma serial_eq (a : Aggregator) (hends : ∀ job ∈ jobsOf settings.user execute command hosts,
      ∃ lines status, job.response = .finished lines status) :
    Run.serial settings execute command hosts a =
      .ok ((jobsOf settings.user execute command hosts).flatMap (entryWrites settings.user command),
        ((jobsOf settings.user execute command hosts).map (finalReport false)).foldl
          Aggregator.record a) := by
  induction hosts generalizing a with
  | nil => rfl
  | cons host rest ih =>
    rw [jobsOf, List.map_cons, ← jobsOf] at hends ⊢
    obtain ⟨⟨lines, status, hresponse⟩, hrest⟩ := List.forall_mem_cons.mp hends
    dsimp only at hresponse
    rw [List.flatMap_cons, entryWrites_of_finished hresponse, List.map_cons, List.foldl_cons,
      finalReport_of_finished hresponse, Run.serial, hresponse]
    dsimp only
    rw [ih _ hrest]
    simp [Run.serialWrites, bind, Except.bind]

end Run

end HostFleet.Proofs

import HostFleet.Proofs.PooledRuns

/-!
# The schedule of a run

Whatever moves a pool is asked to make, it comes to a state that it can reach. The schedule of
`runAll` serves one task after the other, so that a permit is always free, and brings the run to
its end. So a run is one of those that the rules of a pool allow, up to the end of the list.
-/

namespace HostFleet.Proofs
open Pool

/-! ### Moves in turn -/

lemma play_append (p : Pool) (moves moves' : List Move) :
    p.play (moves ++ moves') = (p.play moves).play moves' := List.foldl_append

lemma play_cons (p : Pool) (m : Move) (moves : List Move) :
    p.play (m :: moves) = (p.play [m]).play moves := rfl

lemma play_singleton {p q : Pool} {m : Move} (h : p.step? m = some q) : p.play [m] = q := by
  rw [play, List.foldl_cons, List.foldl_nil, h, Option.getD_some]

/-- Moves that are not possible change nothing. -/
lemma play_eq_self {p : Pool} {moves : List Move} (h : ∀ m ∈ moves, p.step? m = none) :
    p.play moves = p := by
  induction moves with
  | nil => rfl
  | cons m moves ih =>
    have hself : p.play [m] = p := by
      rw [play, List.foldl_cons, List.foldl_nil, h m List.mem_cons_self, Option.getD_none]
    rw [play_cons, hself]
    exact ih fun m' hm' => h m' (List.mem_cons_of_mem _ hm')

/-- A pool that is asked to make some moves comes to a state that it can reach. -/
theorem exists_reached_play {collapse : Bool} {size : Nat} {jobs : List Job} (moves : List Move) :
    ∃ log, Reached (start collapse size jobs) log ((start collapse size jobs).play moves) := by
  induction moves using List.reverseRecOn with
  | nil => exact ⟨[], .start⟩
  | append_singleton moves m ih =>
    obtain ⟨log, hreached⟩ := ih
    rw [play_append]
    cases hstep : ((start collapse size jobs).play moves).step? m with
    | none =>
      rw [play_eq_self (by simp [hstep])]
      exact ⟨log, hreached⟩
    | some q =>
      obtain ⟨es, hrule⟩ := exists_poolStep (orderly_of_reached hreached).task_for_job hstep
      rw [play_singleton hstep]
      exact ⟨log ++ es, hreached.step hrule⟩

/-! ### The moves of one task -/

/-- The pool `q` is as `p` was, except that the waiting task at a position has come to `t`. -/
structure CameTo (p : Pool) (i : Nat) (t : Task) (q : Pool) : Prop where
  jobs : q.jobs = p.jobs
  joined : q.joined = p.joined
  tasks : q.tasks = p.tasks.set i t
  free : q.free + permits t = p.free

section CameTo

variable {p q : Pool} {i : Nat} {job : Job} {t : Task} {queue : List OutputLine} {gathered : Bytes}
  {status : Status}

lemma CameTo.task (h : CameTo p i t q) (hi : i < p.tasks.length) : q.tasks[i]? = some t := by
  simp [h.tasks, hi]

/-- A move that takes the task on leaves the rest as it was. -/
lemma CameTo.move {q' : Pool} {m : Move} {t' : Task} (h : CameTo p i t q)
    (hstep : q.step? m = some q') (hjobs : q'.jobs = q.jobs) (hjoined : q'.joined = q.joined)
    (htasks : q'.tasks = q.tasks.set i t') (hfree : q'.free + permits t' = q.free + permits t) :
    CameTo p i t' (q.play [m]) := by
  rw [play_singleton hstep]
  exact ⟨hjobs.trans h.jobs, hjoined.trans h.joined, by rw [htasks, h.tasks, List.set_set],
    hfree.trans h.free⟩

lemma cameTo_begin (hjob : p.jobs[i]? = some job) (htask : p.tasks[i]? = some .waiting)
    (hfree : 0 < p.free) : CameTo p i (.running job.response.lines [] []) (p.play [.begin i]) := by
  obtain ⟨free, hfree⟩ := Nat.exists_eq_add_one.mpr hfree
  have hstep : p.step? (.begin i) =
      some ({ p with free := free }.setTask i (.running job.response.lines [] [])) := by
    simp [step?, hjob, htask, hfree]
  rw [play_singleton hstep]
  exact ⟨rfl, rfl, rfl, hfree.symm⟩

lemma CameTo.sends (hi : i < p.tasks.length) {coming : List OutputLine}
    (h : CameTo p i (.running coming queue gathered) q) :
    CameTo p i (.running [] (queue ++ coming) gathered) (q.play (coming.map fun _ => .send i)) := by
  induction coming generalizing q queue with
  | nil => rwa [List.append_nil]
  | cons l coming ih =>
    have hstep : q.step? (.send i) =
        some (q.setTask i (.running coming (queue ++ [l]) gathered)) := by
      simp [step?, h.task hi]
    rw [List.map_cons, play_cons, List.append_cons]
    exact ih (h.move hstep rfl rfl rfl rfl)

lemma CameTo.stop (hi : i < p.tasks.length) (hjob : p.jobs[i]? = some job)
    (h : CameTo p i (.running [] queue gathered) q) :
    CameTo p i .crashed (q.play [.stop i]) ∨
      ∃ status, CameTo p i (.ended status queue gathered) (q.play [.stop i]) := by
  rw [← h.jobs] at hjob
  cases hresponse : job.response with
  | finished lines status =>
    have hstep : q.step? (.stop i) = some (q.setTask i (.ended status queue gathered)) := by
      simp [step?, hjob, h.task hi, hresponse]
    exact .inr ⟨status, h.move hstep rfl rfl rfl rfl⟩
  | crashed lines =>
    have hstep : q.step? (.stop i) = some ({ q with free := q.free + 1 }.setTask i .crashed) := by
      simp [step?, hjob, h.task hi, hresponse]
    exact .inl (h.move hstep rfl rfl rfl rfl)

lemma CameTo.takes (hi : i < p.tasks.length) (hjob : p.jobs[i]? = some job)
    (h : CameTo p i (.ended status queue gathered) q) :
    ∃ gathered', CameTo p i (.ended status [] gathered') (q.play (queue.map fun _ => .take i)) := by
  induction queue generalizing q gathered with
  | nil => exact ⟨gathered, h⟩
  | cons l queue ih =>
    have hstep : q.step? (.take i) = some (({ q with
        writes := q.writes ++ (lineEvents q.collapse job.host l).filterMap Event.bytes? }).setTask i
          (.ended status queue (gather q.collapse gathered l))) := by
      simp [step?, h.jobs, hjob, h.task hi, takeLine_eq]
    rw [List.map_cons, play_cons]
    exact ih (h.move hstep rfl rfl rfl rfl)

lemma CameTo.leave (hi : i < p.tasks.length) (hjob : p.jobs[i]? = some job)
    (h : CameTo p i (.ended status [] gathered) q) :
    ∃ f, CameTo p i (.leaving f) (q.play [.leave i]) := by
  have hstep : q.step? (.leave i) = some ({ q with
      free := q.free + 1
      writes := q.writes ++ errorWrites q.collapse job.host status }.setTask i
        (.leaving ⟨job.host, status, outputOf q.collapse status gathered⟩)) := by
    simp [step?, h.jobs, hjob, h.task hi]
  exact ⟨_, h.move hstep rfl rfl rfl rfl⟩

lemma CameTo.report (hi : i < p.tasks.length) {f : Finished} (h : CameTo p i (.leaving f) q) :
    CameTo p i .reported (q.play [.report i]) := by
  have hstep : q.step? (.report i) =
      some ({ q with aggregator := q.aggregator.record f }.setTask i .reported) := by
    simp [step?, h.task hi]
  exact h.move hstep rfl rfl rfl rfl

/-- Nothing more comes of a task that has crashed. -/
lemma play_crashed (h : p.tasks[i]? = some .crashed) (lines : List OutputLine) :
    p.play (lines.map (fun _ => .take i) ++ [.leave i, .report i]) = p := by
  refine play_eq_self fun m hm => ?_
  rcases List.mem_append.mp hm with hm | hm
  · obtain ⟨l, -, rfl⟩ := List.mem_map.mp hm
    simp [step?, h]
  · obtain rfl | rfl : m = .leave i ∨ m = .report i := by simpa using hm
    all_goals simp [step?, h]

/-- A task that has nothing left to do but to be joined. -/
def Done (t : Task) : Prop := t = .reported ∨ t = .crashed

/-- The moves of a task take it to where it has nothing left to do, and it gives its permit back. -/
lemma cameTo_jobMoves (hjob : p.jobs[i]? = some job) (htask : p.tasks[i]? = some .waiting)
    (hfree : 0 < p.free) : ∃ t, Done t ∧ CameTo p i t (p.play (jobMoves i job)) := by
  obtain ⟨hi, -⟩ := List.getElem?_eq_some_iff.mp htask
  have hsent := (cameTo_begin hjob htask hfree).sends hi
  rw [List.nil_append] at hsent
  have hplay : p.play (jobMoves i job) =
      (((p.play [.begin i]).play (job.response.lines.map fun _ => .send i)).play [.stop i]).play
        (job.response.lines.map (fun _ => .take i) ++ [.leave i, .report i]) := by
    simp [jobMoves, play]
  rw [hplay]
  rcases hsent.stop hi hjob with hcrashed | ⟨status, hended⟩
  -- After a crash the moves that are left are not possible.
  · rw [play_crashed (hcrashed.task hi)]
    exact ⟨.crashed, .inr rfl, hcrashed⟩
  · obtain ⟨gathered, htaken⟩ := hended.takes hi hjob
    obtain ⟨f, hleft⟩ := htaken.leave hi hjob
    rw [play_append, play_cons]
    exact ⟨.reported, .inl rfl, hleft.report hi⟩

end CameTo

/-! ### The moves of a run -/

section Schedule

variable {collapse : Bool} {size : Nat} {jobs : List Job} {p : Pool}

/-- The tasks of the first `k` positions are done, all others wait, and a permit is free. -/
structure Served (jobs : List Job) (k : Nat) (p : Pool) : Prop where
  same_jobs : p.jobs = jobs
  joined : p.joined = 0
  free : 0 < p.free
  matched : p.tasks.length = jobs.length
  done : ∀ i < k, ∃ t, p.tasks[i]? = some t ∧ Done t
  waiting : ∀ i, k ≤ i → i < jobs.length → p.tasks[i]? = some .waiting

lemma served_start : Served jobs 0 (start collapse size jobs) where
  same_jobs := rfl
  joined := rfl
  free := Nat.lt_of_lt_of_le Nat.one_pos (Nat.le_max_right _ _)
  matched := by simp [start]
  done := by simp
  waiting := by
    intro i _ hi
    simp [start, hi]

lemma Served.next {k : Nat} {job : Job} (h : Served jobs k p) (hjob : jobs[k]? = some job) :
    Served jobs (k + 1) (p.play (jobMoves k job)) := by
  obtain ⟨hk, -⟩ := List.getElem?_eq_some_iff.mp hjob
  obtain ⟨t, hdone, hcame⟩ :=
    cameTo_jobMoves (h.same_jobs.symm ▸ hjob) (h.waiting k le_rfl hk) h.free
  have hpermits : permits t = 0 := by
    rcases hdone with rfl | rfl <;> rfl
  refine ⟨hcame.jobs.trans h.same_jobs, hcame.joined.trans h.joined, ?_, ?_, ?_, ?_⟩
  · have hfree := hcame.free
    have hpos := h.free
    omega
  · rw [hcame.tasks, List.length_set, h.matched]
  · intro i hi
    rcases Nat.lt_succ_iff_lt_or_eq.mp hi with hi | rfl
    · rw [hcame.tasks, List.getElem?_set_ne hi.ne']
      exact h.done i hi
    · exact ⟨t, hcame.task (h.matched ▸ hk), hdone⟩
  · intro i hi hlt
    rw [hcame.tasks, List.getElem?_set_ne (Nat.lt_of_succ_le hi).ne]
    exact h.waiting i (Nat.le_of_succ_le hi) hlt

lemma served_play {front : List Job} (h : front <+: jobs) : Served jobs front.length
    ((start collapse size jobs).play (front.zipIdx.flatMap fun (job, i) => jobMoves i job)) := by
  induction front using List.reverseRecOn with
  | nil => exact served_start
  | append_singleton front job ih =>
    have hjob : jobs[front.length]? = some job := by
      obtain ⟨rest, rfl⟩ := h
      simp
    have hserved := ih ((List.prefix_append _ _).trans h)
    rw [List.zipIdx_append, List.flatMap_append, play_append, List.length_append]
    simpa using hserved.next hjob

/-- All tasks of a pool are done. -/
def AllDone (p : Pool) : Prop := ∀ i < p.jobs.length, ∃ t, p.tasks[i]? = some t ∧ Done t

lemma Served.allDone (h : Served jobs jobs.length p) : AllDone p := by
  rw [AllDone, h.same_jobs]
  exact h.done

/-- Where all tasks are done the joiner can go on, and they stay so. -/
lemma AllDone.join (h : AllDone p) (hlt : p.joined < p.jobs.length) :
    ∃ q, p.step? .join = some q ∧ q.jobs = p.jobs ∧ q.joined = p.joined + 1 ∧ AllDone q := by
  have hjob := List.getElem?_eq_getElem hlt
  obtain ⟨t, htask, rfl | rfl⟩ := h p.joined hlt
  · have hstep : p.step? .join = some { p with joined := p.joined + 1 } := by
      simp [step?, hjob, htask]
    exact ⟨_, hstep, rfl, rfl, h⟩
  · have hstep : p.step? .join = some ({ p with
        joined := p.joined + 1
        aggregator := p.aggregator.record (crashReport p.jobs[p.joined].host) }.setTask p.joined
          .reported) := by
      simp [step?, hjob, htask]
    refine ⟨_, hstep, rfl, rfl, fun i hi => ?_⟩
    by_cases hji : p.joined = i
    · obtain ⟨hlt', -⟩ := List.getElem?_eq_some_iff.mp htask
      exact ⟨.reported, by simp [setTask, ← hji, hlt'], .inl rfl⟩
    · obtain ⟨t, ht, hdone⟩ := h i hi
      exact ⟨t, by simpa [setTask, List.getElem?_set_ne hji] using ht, hdone⟩

lemma AllDone.joined_play (h : AllDone p) {waits : List Job}
    (hle : p.joined + waits.length ≤ p.jobs.length) :
    (p.play (waits.map fun _ => .join)).joined = p.joined + waits.length := by
  induction waits generalizing p with
  | nil => rfl
  | cons job waits ih =>
    rw [List.length_cons] at hle ⊢
    obtain ⟨q, hstep, hjobs, hjoined, hdone⟩ := h.join (by omega)
    rw [List.map_cons, play_cons, play_singleton hstep, ih hdone (by rw [hjobs]; omega)]
    omega

/-- A run goes on by the rules of a pool, until its joiner has come to the end of the list. -/
theorem exists_reached_runAll (collapse : Bool) (size : Nat) (jobs : List Job) :
    (∃ log, Reached (start collapse size jobs) log (runAll collapse size jobs)) ∧
      (runAll collapse size jobs).joined = jobs.length := by
  refine ⟨exists_reached_play _, ?_⟩
  have hserved : Served jobs jobs.length ((start collapse size jobs).play _) :=
    served_play (List.prefix_refl jobs)
  have hdone := hserved.allDone
  rw [runAll, schedule, play_append, hdone.joined_play, hserved.joined, Nat.zero_add]
  rw [hserved.joined, hserved.same_jobs, Nat.zero_add]

end Schedule

end HostFleet.Proofs

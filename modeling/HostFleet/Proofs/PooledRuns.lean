import HostFleet.Proofs.PoolMoves

/-!
# Pooled runs

In whatever order the tasks of a pool go on, never more commands run than there are permits, no
position of the list is reported twice, and no state is stuck before all are reported. At the end
every position was reported once with the outcome of its own command, crashed or not.

What carries this is the history of each task: how far it is tells what it has shown so far.
-/

namespace HostFleet.Proofs
open Pool

/-! ### Histories of tasks -/

/-- What is gathered of some lines. -/
def gatheredOf (collapse : Bool) (taken : List OutputLine) : Bytes :=
  if collapse then taken.flatMap OutputLine.bytes else []

/-- The report on a job, by its own task or by the joiner. -/
def finalReport (collapse : Bool) (job : Job) : Finished :=
  match job.response with
  | .finished lines status =>
    ⟨job.host, status, outputOf collapse status (gatheredOf collapse lines)⟩
  | .crashed _ => crashReport job.host

/-- All that the task of a job shows before the report. The last lines of a crashed one are lost. -/
def Shows (collapse : Bool) (job : Job) (es : List Event) : Prop :=
  match job.response with
  | .finished lines status =>
    es = lines.flatMap (lineEvents collapse job.host) ++ statusEvents collapse job.host status
  | .crashed lines => ∃ taken, taken <+: lines ∧ es = taken.flatMap (lineEvents collapse job.host)

/-- What the task of a job has shown when it is as far as this. -/
def Fits (collapse : Bool) (job : Job) : Task → List Event → Prop
  | .waiting, es => es = []
  | .running coming queue gathered, es => ∃ taken,
    job.response.lines = taken ++ (queue ++ coming) ∧ gathered = gatheredOf collapse taken ∧
      es = taken.flatMap (lineEvents collapse job.host)
  | .ended status queue gathered, es => ∃ taken,
    job.response = .finished (taken ++ queue) status ∧ gathered = gatheredOf collapse taken ∧
      es = taken.flatMap (lineEvents collapse job.host)
  | .leaving f, es => f = finalReport collapse job ∧ Shows collapse job es
  | .crashed, es => finalReport collapse job = crashReport job.host ∧ Shows collapse job es
  | .reported, es => ∃ before, Shows collapse job before ∧
    es = before ++ [.reported (finalReport collapse job)]

section Fits

variable {collapse : Bool} {job : Job} {t t' : Task} {es es' : List Event}

lemma gatheredOf_append (taken : List OutputLine) (l : OutputLine) :
    gather collapse (gatheredOf collapse taken) l = gatheredOf collapse (taken ++ [l]) := by
  cases collapse <;> simp [gather, gatheredOf]

lemma flatMap_lineEvents_append (host : String) (taken : List OutputLine) (l : OutputLine) :
    taken.flatMap (lineEvents collapse host) ++ lineEvents collapse host l =
      (taken ++ [l]).flatMap (lineEvents collapse host) := by
  simp

/-- A task that goes on adds to its history what it shows. -/
lemma fits_of_taskStep (h : TaskStep collapse job t es' t') (hfits : Fits collapse job t es) :
    Fits collapse job t' (es ++ es') := by
  cases h with
  | begin =>
    obtain rfl := hfits
    exact ⟨[], by simp, by simp [gatheredOf], rfl⟩
  | send l coming queue gathered =>
    obtain ⟨taken, hlines, rfl, rfl⟩ := hfits
    exact ⟨taken, by simp [hlines], rfl, by simp⟩
  | take l coming queue gathered =>
    obtain ⟨taken, hlines, rfl, rfl⟩ := hfits
    exact ⟨taken ++ [l], by simp [hlines], gatheredOf_append taken l,
      flatMap_lineEvents_append _ taken l⟩
  | takeLate status l queue gathered =>
    obtain ⟨taken, hresponse, rfl, rfl⟩ := hfits
    exact ⟨taken ++ [l], by simp [hresponse], gatheredOf_append taken l,
      flatMap_lineEvents_append _ taken l⟩
  | stop hresponse queue gathered =>
    obtain ⟨taken, hlines, rfl, rfl⟩ := hfits
    rw [hresponse, Response.lines, List.append_nil] at hlines
    exact ⟨taken, hlines ▸ hresponse, rfl, by simp⟩
  | crash hresponse queue gathered =>
    obtain ⟨taken, hlines, rfl, rfl⟩ := hfits
    rw [hresponse, Response.lines, List.append_nil] at hlines
    refine ⟨by rw [finalReport, hresponse], ?_⟩
    rw [Shows, hresponse]
    exact ⟨taken, ⟨queue, hlines.symm⟩, by simp⟩
  | leave status gathered =>
    obtain ⟨taken, hresponse, rfl, rfl⟩ := hfits
    rw [List.append_nil] at hresponse
    refine ⟨by rw [finalReport, hresponse], ?_⟩
    rw [Shows, hresponse]
  | report f =>
    obtain ⟨rfl, hshows⟩ := hfits
    exact ⟨es, hshows, rfl⟩

lemma reports_flatMap_lineEvents (host : String) (taken : List OutputLine) :
    (taken.flatMap (lineEvents collapse host)).filterMap Event.report? = [] := by
  simp [List.filterMap_flatMap, reports_lineEvents]

lemma Shows.reports_eq_nil (h : Shows collapse job es) : es.filterMap Event.report? = [] := by
  rw [Shows] at h
  split at h
  · rw [h, List.filterMap_append, reports_flatMap_lineEvents, reports_statusEvents,
      List.append_nil]
  · obtain ⟨taken, -, rfl⟩ := h
    exact reports_flatMap_lineEvents _ taken

/-- A task has reported once when it is at its end, and before that not at all. -/
lemma Fits.reports (h : Fits collapse job t es) :
    t = .reported ∧ es.filterMap Event.report? = [finalReport collapse job] ∨
      t ≠ .reported ∧ es.filterMap Event.report? = [] := by
  cases t with
  | waiting =>
    obtain rfl := h
    exact .inr ⟨nofun, rfl⟩
  | running coming queue gathered =>
    obtain ⟨taken, -, -, rfl⟩ := h
    exact .inr ⟨nofun, reports_flatMap_lineEvents _ taken⟩
  | ended status queue gathered =>
    obtain ⟨taken, -, -, rfl⟩ := h
    exact .inr ⟨nofun, reports_flatMap_lineEvents _ taken⟩
  | leaving f => exact .inr ⟨nofun, h.2.reports_eq_nil⟩
  | crashed => exact .inr ⟨nofun, h.2.reports_eq_nil⟩
  | reported =>
    obtain ⟨before, hshows, rfl⟩ := h
    exact .inl ⟨rfl, by simp [hshows.reports_eq_nil]⟩

end Fits

/-! ### What always holds -/

/-- What was shown about one position. -/
def eventsAt (i : Nat) (log : List (Nat × Event)) : List Event :=
  log.filterMap fun e => if e.1 = i then some e.2 else none

/-- The reports with their positions. -/
def reportsAt (log : List (Nat × Event)) : List (Nat × Finished) :=
  log.filterMap fun e => e.2.report?.map (e.1, ·)

/-- What holds of every state of a pooled run. -/
structure Orderly (collapse : Bool) (size : Nat) (jobs : List Job) (log : List (Nat × Event))
    (p : Pool) : Prop where
  mode : p.collapse = collapse
  same_jobs : p.jobs = jobs
  matched : p.tasks.length = jobs.length
  held : p.free + (p.tasks.map permits).sum = max size 1
  fits : ∀ {i job t}, jobs[i]? = some job → p.tasks[i]? = some t →
    Fits collapse job t (eventsAt i log)
  within : ∀ e ∈ log, e.1 < jobs.length
  joined_le : p.joined ≤ jobs.length
  settled : ∀ i < p.joined, p.tasks[i]? = some .reported
  aggregator : p.aggregator =
    ((reportsAt log).map Prod.snd).foldl Aggregator.record (opened jobs.length collapse)
  writes : p.writes = log.filterMap fun e => e.2.bytes?

section Orderly

variable {collapse : Bool} {size i : Nat} {jobs : List Job} {log es : List (Nat × Event)}
  {p q : Pool} {job : Job} {t t' : Task}

lemma eventsAt_append (es : List (Nat × Event)) :
    eventsAt i (log ++ es) = eventsAt i log ++ eventsAt i es := by
  simp [eventsAt]

lemma eventsAt_map_self (es : List Event) : eventsAt i (es.map (i, ·)) = es := by
  simp [eventsAt]

lemma eventsAt_map_ne {j : Nat} (h : i ≠ j) (es : List Event) :
    eventsAt j (es.map (i, ·)) = [] := by
  simp [eventsAt, h]

lemma reportsAt_append (es : List (Nat × Event)) :
    reportsAt (log ++ es) = reportsAt log ++ reportsAt es := by
  simp [reportsAt]

lemma map_reportsAt_map (es : List Event) :
    (reportsAt (es.map (i, ·))).map Prod.snd = es.filterMap Event.report? := by
  simp [reportsAt, List.map_filterMap, List.filterMap_map, Function.comp_def]

lemma orderly_start : Orderly collapse size jobs [] (start collapse size jobs) where
  mode := rfl
  same_jobs := rfl
  matched := by simp [start]
  held := by simp [start, permits]
  fits := by
    intro i job t hjob htask
    change (jobs.map fun _ => Task.waiting)[i]? = some t at htask
    rw [List.getElem?_map, hjob] at htask
    cases htask
    rfl
  within := by simp
  joined_le := Nat.zero_le _
  settled := by simp [start]
  aggregator := rfl
  writes := rfl

/-- The task at a position goes on. -/
lemma Orderly.goOn (h : Orderly collapse size jobs log p) (hjob : jobs[i]? = some job)
    (htask : p.tasks[i]? = some t) (hne : t ≠ .reported) {es : List Event} {free : Nat}
    (hfits : Fits collapse job t' (eventsAt i log ++ es))
    (hfree : free + permits t' = p.free + permits t) :
    Orderly collapse size jobs (log ++ es.map (i, ·)) (goOn p i t' free es) where
  mode := h.mode
  same_jobs := h.same_jobs
  matched := by simp [Proofs.goOn, h.matched]
  held := by
    have hsum := sum_set (l := p.tasks.map permits) (i := i) (b := permits t') (a := permits t)
      (by simp [htask])
    have hheld := h.held
    simp only [Proofs.goOn, List.map_set]
    omega
  fits := by
    intro j job' t'' hjob' htask'
    rw [eventsAt_append]
    by_cases hj : i = j
    · subst hj
      obtain ⟨hi, -⟩ := List.getElem?_eq_some_iff.mp htask
      obtain rfl : job = job' := by simpa [hjob] using hjob'
      obtain rfl : t' = t'' := by simpa [Proofs.goOn, hi] using htask'
      rwa [eventsAt_map_self]
    · rw [eventsAt_map_ne hj, List.append_nil]
      exact h.fits hjob' (by simpa [Proofs.goOn, List.getElem?_set_ne hj] using htask')
  within := by
    intro e he
    rcases List.mem_append.mp he with he | he
    · exact h.within e he
    · obtain ⟨event, -, rfl⟩ := List.mem_map.mp he
      exact (List.getElem?_eq_some_iff.mp hjob).1
  joined_le := h.joined_le
  settled := by
    intro j hj
    have hreported := h.settled j hj
    have hij : i ≠ j := by
      rintro rfl
      exact hne (Option.some.inj (htask.symm.trans hreported))
    simpa [Proofs.goOn, List.getElem?_set_ne hij] using hreported
  aggregator := by
    simp only [Proofs.goOn]
    rw [reportsAt_append, List.map_append, List.foldl_append, ← h.aggregator, map_reportsAt_map]
  writes := by
    simp [Proofs.goOn, h.writes, List.filterMap_map]

/-- The joiner goes on. -/
lemma Orderly.join (h : Orderly collapse size jobs log p) (hlt : p.joined < jobs.length)
    (htask : p.tasks[p.joined]? = some .reported) :
    Orderly collapse size jobs log { p with joined := p.joined + 1 } :=
  { h with
    joined_le := hlt
    settled := by
      intro i hi
      rcases Nat.lt_succ_iff_lt_or_eq.mp hi with hi | rfl
      · exact h.settled i hi
      · exact htask }

theorem orderly_of_step (h : Orderly collapse size jobs log p) (hstep : PoolStep p es q) :
    Orderly collapse size jobs (log ++ es) q := by
  cases hstep with
  | @task i free job t t' es hjob htask hstep hfree =>
    rw [h.same_jobs] at hjob
    rw [h.mode] at hstep
    have hne : t ≠ .reported := by
      rintro rfl
      cases hstep
    exact h.goOn hjob htask hne (fits_of_taskStep hstep (h.fits hjob htask)) hfree
  | join hjob htask =>
    rw [h.same_jobs] at hjob
    rw [List.append_nil]
    exact h.join (List.getElem?_eq_some_iff.mp hjob).1 htask
  | @collect job hjob htask =>
    rw [h.same_jobs] at hjob
    obtain ⟨hlt, -⟩ := List.getElem?_eq_some_iff.mp hjob
    obtain ⟨hreport, hshows⟩ := h.fits hjob htask
    have hfits : Fits collapse job .reported
        (eventsAt p.joined log ++ [.reported (crashReport job.host)]) :=
      ⟨_, hshows, by rw [hreport]⟩
    refine (h.goOn hjob htask nofun hfits rfl).join hlt ?_
    simp [goOn, h.matched, hlt]

/-- What always holds holds however the run goes. -/
theorem orderly_of_reached (h : Reached (start collapse size jobs) log p) :
    Orderly collapse size jobs log p := by
  induction h with
  | start => exact orderly_start
  | step _ hstep ih => exact orderly_of_step ih hstep

end Orderly

/-! ### Every position is reported once -/

section Reports

variable {collapse : Bool} {size i : Nat} {jobs : List Job} {log : List (Nat × Event)} {p : Pool}
  {job : Job} {t : Task} {f : Finished}

lemma reportsAt_filter (i : Nat) (log : List (Nat × Event)) :
    ((reportsAt log).filter (·.1 = i)).map Prod.snd = (eventsAt i log).filterMap Event.report? := by
  induction log with
  | nil => rfl
  | cons e log ih =>
    obtain ⟨j, event⟩ := e
    simp only [reportsAt, eventsAt] at ih ⊢
    by_cases hj : j = i <;> cases event <;> simp [List.filterMap_cons, hj, ih]

lemma mem_reportsAt : (i, f) ∈ reportsAt log ↔ f ∈ (eventsAt i log).filterMap Event.report? := by
  rw [← reportsAt_filter]
  simp

/-- What has been reported about a position. -/
lemma Orderly.reports_at (h : Orderly collapse size jobs log p) (i : Nat) :
    (∃ job, jobs[i]? = some job ∧ p.tasks[i]? = some .reported ∧
      (eventsAt i log).filterMap Event.report? = [finalReport collapse job]) ∨
    p.tasks[i]? ≠ some .reported ∧ (eventsAt i log).filterMap Event.report? = [] := by
  by_cases hi : i < jobs.length
  · have hjob := List.getElem?_eq_getElem hi
    have htask := List.getElem?_eq_getElem (h.matched ▸ hi)
    rcases (h.fits hjob htask).reports with ⟨ht, hreports⟩ | ⟨ht, hreports⟩
    · exact .inl ⟨_, hjob, ht ▸ htask, hreports⟩
    · exact .inr ⟨htask ▸ fun heq => ht (Option.some.inj heq), hreports⟩
  · have hnone : eventsAt i log = [] := by
      refine List.filterMap_eq_nil_iff.mpr fun e he => if_neg ?_
      rintro rfl
      exact hi (h.within e he)
    have hlength := h.matched
    refine .inr ⟨?_, by rw [hnone, List.filterMap_nil]⟩
    rw [List.getElem?_eq_none (by omega)]
    nofun

/-- Each position that is reported is that of a task at its end. -/
lemma Orderly.mem_reportsAt_iff (h : Orderly collapse size jobs log p) :
    (i, f) ∈ reportsAt log ↔ p.tasks[i]? = some .reported ∧
      ∃ job, jobs[i]? = some job ∧ f = finalReport collapse job := by
  rw [mem_reportsAt]
  rcases h.reports_at i with ⟨job, hjob, htask, hreports⟩ | ⟨htask, hreports⟩
  · simp [hreports, hjob, htask]
  · simp [hreports, htask]

/-- No position is reported twice. -/
lemma Orderly.nodup_positions (h : Orderly collapse size jobs log p) :
    ((reportsAt log).map Prod.fst).Nodup := by
  refine List.nodup_iff_count_le_one.mpr fun i => ?_
  have hcount : ((reportsAt log).map Prod.fst).count i =
      ((eventsAt i log).filterMap Event.report?).length := by
    rw [← reportsAt_filter, List.length_map, ← List.countP_eq_length_filter, List.count_eq_countP,
      List.countP_map]
    congr 1
  rw [hcount]
  rcases h.reports_at i with ⟨job, -, -, hreports⟩ | ⟨-, hreports⟩
  · rw [hreports, List.length_singleton]
  · rw [hreports]
    exact Nat.zero_le _

/-- What is reported about each position in the end. -/
def finalReports (collapse : Bool) (jobs : List Job) : List (Nat × Finished) :=
  jobs.zipIdx.map fun (job, i) => (i, finalReport collapse job)

lemma map_fst_finalReports :
    (finalReports collapse jobs).map Prod.fst = List.range jobs.length := by
  rw [finalReports, List.map_map, List.range_eq_range', ← List.zipIdx_map_snd 0 jobs]
  rfl

lemma map_snd_finalReports :
    (finalReports collapse jobs).map Prod.snd = jobs.map (finalReport collapse) := by
  conv_rhs => rw [← List.zipIdx_map_fst 0 jobs, List.map_map]
  rw [finalReports, List.map_map]
  rfl

/-- At the end every position has been reported, with the outcome of its own command. -/
lemma Orderly.reports_of_joined (h : Orderly collapse size jobs log p)
    (hjoined : p.joined = jobs.length) : (reportsAt log).Perm (finalReports collapse jobs) := by
  refine (List.perm_ext_iff_of_nodup h.nodup_positions.of_map ?_).mpr fun ⟨i, f⟩ => ?_
  · exact List.Nodup.of_map Prod.fst (map_fst_finalReports ▸ List.nodup_range)
  · rw [h.mem_reportsAt_iff, finalReports, List.mem_map]
    constructor
    · rintro ⟨-, job, hjob, rfl⟩
      exact ⟨(job, i), List.mem_zipIdx_iff_getElem?.mpr hjob, rfl⟩
    · rintro ⟨⟨job, j⟩, hmem, heq⟩
      obtain ⟨rfl, rfl⟩ := Prod.mk.inj heq
      have hjob := List.mem_zipIdx_iff_getElem?.mp hmem
      obtain ⟨hlt, -⟩ := List.getElem?_eq_some_iff.mp hjob
      exact ⟨h.settled _ (hjoined ▸ hlt), job, hjob, rfl⟩

end Reports

/-! ### No state is stuck -/

section Progress

variable {collapse : Bool} {size : Nat} {jobs : List Job} {log : List (Nat × Event)} {p : Pool}

/-- A task that holds a permit or is about to report goes on by itself, and needs no other
permit. -/
lemma exists_taskStep (collapse : Bool) (job : Job) {t : Task}
    (h : 0 < permits t ∨ ∃ f, t = .leaving f) :
    ∃ es t', TaskStep collapse job t es t' ∧ permits t' ≤ permits t := by
  cases t with
  | waiting => simp [permits] at h
  | running coming queue gathered =>
    cases coming with
    | cons l coming => exact ⟨_, _, .send l coming queue gathered, le_rfl⟩
    | nil =>
      cases hresponse : job.response with
      | finished lines status => exact ⟨_, _, .stop hresponse queue gathered, le_rfl⟩
      | crashed lines => exact ⟨_, _, .crash hresponse queue gathered, Nat.zero_le _⟩
  | ended status queue gathered =>
    cases queue with
    | cons l queue => exact ⟨_, _, .takeLate status l queue gathered, le_rfl⟩
    | nil => exact ⟨_, _, .leave status gathered, Nat.zero_le _⟩
  | leaving f => exact ⟨_, _, .report f, le_rfl⟩
  | crashed => simp [permits] at h
  | reported => simp [permits] at h

lemma Orderly.task_for_job (h : Orderly collapse size jobs log p) : Matched p := by
  rw [Matched, h.matched, h.same_jobs]

lemma Orderly.exists_step_at (h : Orderly collapse size jobs log p) {i : Nat} {t : Task}
    (htask : p.tasks[i]? = some t) (hgoing : 0 < permits t ∨ ∃ f, t = .leaving f) :
    ∃ es q, PoolStep p es q := by
  obtain ⟨job, hjob⟩ := h.task_for_job.exists_job htask
  obtain ⟨es, t', hstep, hpermits⟩ := exists_taskStep p.collapse job hgoing
  have hfree : p.free + permits t - permits t' + permits t' = p.free + permits t := by omega
  exact ⟨_, _, .task hjob htask hstep hfree⟩

/-- As long as the joiner has not come to the end of the list, there is a move: of the task that it
waits for, or of one that holds a permit which that task needs. -/
theorem Orderly.exists_step (h : Orderly collapse size jobs log p) (hlt : p.joined < jobs.length) :
    ∃ es q, PoolStep p es q := by
  obtain ⟨t, htask⟩ : ∃ t, p.tasks[p.joined]? = some t :=
    ⟨_, List.getElem?_eq_getElem (h.matched ▸ hlt)⟩
  obtain ⟨job, hjob⟩ := h.task_for_job.exists_job htask
  cases t with
  | waiting =>
    cases hfree : p.free with
    | succ free =>
      have hpermits : free + permits (.running job.response.lines [] []) =
          p.free + permits .waiting := by
        simp [permits, hfree]
      exact ⟨_, _, .task hjob htask .begin hpermits⟩
    | zero =>
      -- No permit is free, so another task holds one, and that task can go on.
      have hheld := h.held
      have hpos : 0 < (p.tasks.map permits).sum := by omega
      obtain ⟨n, hn, hne⟩ := List.exists_mem_ne_zero_of_sum_ne_zero hpos.ne'
      obtain ⟨t, hmem, rfl⟩ := List.mem_map.mp hn
      obtain ⟨i, hi⟩ := List.mem_iff_getElem?.mp hmem
      exact h.exists_step_at hi (.inl (Nat.pos_of_ne_zero hne))
  | crashed => exact ⟨_, _, .collect hjob htask⟩
  | reported => exact ⟨_, _, .join hjob htask⟩
  | running coming queue gathered => exact h.exists_step_at htask (.inl Nat.one_pos)
  | ended status queue gathered => exact h.exists_step_at htask (.inl Nat.one_pos)
  | leaving f => exact h.exists_step_at htask (.inr ⟨f, rfl⟩)

/-- Only when the joiner is at the end of the list no move is possible. -/
lemma Orderly.step?_eq_none_iff (h : Orderly collapse size jobs log p) :
    (∀ m, p.step? m = none) ↔ p.joined = jobs.length := by
  constructor
  · intro hnone
    by_contra hne
    obtain ⟨es, q, hstep⟩ := h.exists_step (lt_of_le_of_ne h.joined_le hne)
    obtain ⟨m, hm⟩ := exists_move hstep
    rw [hnone m] at hm
    cases hm
  · intro hjoined m
    refine Option.eq_none_iff_forall_ne_some.mpr fun q hq => ?_
    obtain ⟨es, hstep⟩ := exists_poolStep h.task_for_job hq
    have hnone : p.jobs[p.joined]? = none := by
      rw [h.same_jobs, hjoined]
      exact List.getElem?_eq_none le_rfl
    cases hstep with
    | @task i free job t t' es hjob htask hstep hfree =>
      obtain ⟨hi, -⟩ := List.getElem?_eq_some_iff.mp htask
      have hreported := h.settled i (hjoined ▸ h.matched ▸ hi)
      obtain rfl := Option.some.inj (htask.symm.trans hreported)
      cases hstep
    | join hjob => simp [hnone] at hjob
    | collect hjob => simp [hnone] at hjob

/-- Every run can be brought to its end. -/
theorem exists_reached_joined (h : Reached (start collapse size jobs) log p) :
    ∃ log' q, Reached (start collapse size jobs) log' q ∧ q.joined = jobs.length := by
  induction hwork : work p using Nat.strong_induction_on generalizing log p with
  | _ n ih =>
    have horderly := orderly_of_reached h
    by_cases hjoined : p.joined = jobs.length
    · exact ⟨log, p, h, hjoined⟩
    · obtain ⟨es, q, hstep⟩ := horderly.exists_step (lt_of_le_of_ne horderly.joined_le hjoined)
      exact ih (work q) (hwork ▸ work_lt hstep) (h.step hstep) rfl

end Progress

/-! ### The whole run -/

section Run

variable {collapse : Bool} {size : Nat} {jobs : List Job} {log : List (Nat × Event)} {p : Pool}

/-- The command has not ended. -/
def isRunning : Task → Bool
  | .running .. => true
  | _ => false

/-- The command of a job ends with the exit code zero. -/
def endsWell (job : Job) : Bool :=
  match job.response with
  | .finished _ (.ok 0) => true
  | _ => false

lemma countP_isRunning_le (ts : List Task) : ts.countP isRunning ≤ (ts.map permits).sum := by
  induction ts with
  | nil => rfl
  | cons t ts ih =>
    rw [List.countP_cons, List.map_cons, List.sum_cons]
    cases t <;> simp [isRunning, permits] <;> omega

lemma succeeds_finalReport (collapse : Bool) (job : Job) :
    decide (Succeeds (finalReport collapse job)) = endsWell job := by
  rw [Bool.eq_iff_iff, decide_eq_true_iff, Succeeds, finalReport, endsWell]
  cases job.response with
  | crashed lines => simp [crashReport]
  | finished lines status =>
    dsimp only
    split <;> simp_all

/-- After the reports on some jobs these are counted, in whatever order they came. -/
lemma Holds.counters_of_perm {expected : Nat} {fs : List Finished} {a : Aggregator}
    (h : Holds expected collapse (fs.map .finished) a)
    (hperm : fs.Perm (jobs.map (finalReport collapse))) :
    a.counters = ⟨jobs.length, jobs.countP endsWell, jobs.length - jobs.countP endsWell⟩ := by
  have hcount : fs.countP (Succeeds ·) = jobs.countP endsWell := by
    rw [hperm.countP_eq, List.countP_map]
    exact List.countP_congr (by simp [succeeds_finalReport])
  rw [h.counters_eq, reportsIn_map_finished, hcount, hperm.length_eq, List.length_map]

lemma Orderly.holds (h : Orderly collapse size jobs log p) :
    Holds jobs.length collapse (((reportsAt log).map Prod.snd).map .finished) p.aggregator :=
  h.aggregator ▸ holds_foldl_record jobs.length collapse _

/-- The observer has heard of every report, in turn. -/
lemma Orderly.heard (h : Orderly collapse size jobs log p) :
    p.aggregator.heard.map (fun s => (s.done, s.total)) =
      (List.range' 1 (reportsAt log).length).map (·, jobs.length) := by
  have hlength : (reportsAt log).length = ((reportsAt log).map Prod.snd).length :=
    (List.length_map _).symm
  rw [h.holds.heard, reportsIn_map_finished, List.map_map, hlength, ← List.zipIdx_map_snd 1,
    List.map_map, List.zipIdx_succ, List.map_map]
  rfl

lemma Orderly.counters_of_joined (h : Orderly collapse size jobs log p)
    (hjoined : p.joined = jobs.length) : p.aggregator.counters =
      ⟨jobs.length, jobs.countP endsWell, jobs.length - jobs.countP endsWell⟩ := by
  have hperm := (h.reports_of_joined hjoined).map Prod.snd
  rw [map_snd_finalReports] at hperm
  exact h.holds.counters_of_perm hperm

/-- In every state of a pooled run no more commands run than there are permits, no position of the
list has been reported twice, the reports are all that the aggregator has been sent, and the
observer has heard of each in turn; a move is possible as long as a position is not reported, and
until the joiner has come to the end of the list. There every position has been reported, with the
outcome of its own command, and is counted as that. -/
theorem reported_once_of_reached (h : Reached (start collapse size jobs) log p) :
    p.tasks.countP isRunning ≤ max size 1 ∧
    ((reportsAt log).map Prod.fst).Nodup ∧
    p.aggregator =
      ((reportsAt log).map Prod.snd).foldl Aggregator.record (opened jobs.length collapse) ∧
    p.aggregator.heard.map (fun s => (s.done, s.total)) =
      (List.range' 1 (reportsAt log).length).map (·, jobs.length) ∧
    (∀ i < jobs.length, i ∉ (reportsAt log).map Prod.fst → ∃ m q, p.step? m = some q) ∧
    (∀ q, (∃ es, PoolStep p es q) ↔ ∃ m, p.step? m = some q) ∧
    ((∀ m, p.step? m = none) ↔ p.joined = jobs.length) ∧
    (p.joined = jobs.length →
      (reportsAt log).Perm (finalReports collapse jobs) ∧
      p.aggregator.finish.1.counters =
        ⟨jobs.length, jobs.countP endsWell, jobs.length - jobs.countP endsWell⟩ ∧
      p.aggregator.heard.map Progress.done = List.range' 1 jobs.length) := by
  have horderly := orderly_of_reached h
  have hrunning : p.tasks.countP isRunning ≤ max size 1 := by
    have hheld := horderly.held
    have hle := countP_isRunning_le p.tasks
    omega
  refine ⟨hrunning, horderly.nodup_positions, horderly.aggregator, horderly.heard, ?_,
    fun q => exists_poolStep_iff horderly.task_for_job, horderly.step?_eq_none_iff, ?_⟩
  · intro i hi hunreported
    have hne : p.joined ≠ jobs.length := by
      intro hjoined
      have hmem := (horderly.reports_of_joined hjoined).map Prod.fst
      rw [map_fst_finalReports] at hmem
      exact hunreported (hmem.mem_iff.mpr (List.mem_range.mpr hi))
    obtain ⟨es, q, hstep⟩ := horderly.exists_step (lt_of_le_of_ne horderly.joined_le hne)
    obtain ⟨m, hm⟩ := exists_move hstep
    exact ⟨m, q, hm⟩
  · intro hjoined
    have hperm := horderly.reports_of_joined hjoined
    refine ⟨hperm, horderly.counters_of_joined hjoined, ?_⟩
    have hheard := congrArg (List.map Prod.fst) horderly.heard
    rw [List.map_map, List.map_map, hperm.length_eq, finalReports, List.length_map,
      List.length_zipIdx] at hheard
    simpa [Function.comp_def] using hheard

/-- One permit for three positions, two of them of one host; one command crashes. -/
theorem reported_once_of_reached_of_three : ∃ log p,
    Reached (start true 0 [⟨"a", .finished [⟨.out, [0x6b]⟩] (.ok 0)⟩, ⟨"a", .crashed []⟩,
      ⟨"b", .finished [] (.error (.spawn "no such file"))⟩]) log p ∧ p.joined = 3 ∧
      p.aggregator.finish.1.counters = ⟨3, 1, 2⟩ ∧
      p.aggregator.heard.map Progress.done = [1, 2, 3] := by
  have hstart : Reached (start true 0 [⟨"a", .finished [⟨.out, [0x6b]⟩] (.ok 0)⟩,
      ⟨"a", .crashed []⟩, ⟨"b", .finished [] (.error (.spawn "no such file"))⟩]) [] _ := .start
  obtain ⟨log, p, hreached, hjoined⟩ := exists_reached_joined hstart
  obtain ⟨-, -, -, -, -, -, -, hend⟩ := reported_once_of_reached hreached
  exact ⟨log, p, hreached, hjoined, (hend hjoined).2.1, (hend hjoined).2.2⟩

end Run

end HostFleet.Proofs

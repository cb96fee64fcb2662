import HostFleet.Run.Engine
import HostFleet.Proofs.RunSchedule

/-!
# Collapse runs

Where equal outputs are shown together nothing is written before the run is closed, and its groups
are those of the reports at its end. They are the same in whatever order the tasks go on and however
many permits there are, so that every such run of one command leaves the same report and writes the
same bytes.
-/

namespace HostFleet.Proofs
open Pool

/-! ### What is shown of a host -/

/-- What stands in its group for the output of a host: its error if it wrote nothing, and the text
that stands for nothing if there is no error either, or none that could be told. -/
def shownOutput : Response → Bytes
  | .finished lines status =>
    match lines.flatMap OutputLine.bytes, status with
    | [], .ok _ => noOutput
    | [], .error e => Utf8.encode s!"error: {e.text}\n"
    | b :: bs, _ => b :: bs
  | .crashed _ => noOutput

lemma encode_error_ne_nil (e : ExecFault) : Utf8.encode s!"error: {e.text}\n" ≠ [] := by
  have hmem : 'e' ∈ s!"error: {e.text}\n".toList := by
    rw [String.toList_append, String.toList_append, List.append_assoc]
    exact List.mem_append_left _ (by decide)
  exact fun h => String.utf8EncodeChar_ne_nil (List.flatMap_eq_nil_iff.mp h _ hmem)

/-- A host is put under what is shown of it. -/
lemma outputOf_finalReport (job : Job) :
    Aggregator.outputOf (finalReport true job) = shownOutput job.response := by
  rw [outputOf_eq, finalReport]
  cases job.response with
  | crashed lines => rfl
  | finished lines status =>
    simp only [shownOutput, gatheredOf, if_true]
    cases lines.flatMap OutputLine.bytes with
    | nil =>
      cases status with
      | ok code => rfl
      | error e => exact if_neg (encode_error_ne_nil e)
    | cons b bs => cases status <;> rfl

/-! ### What a run leaves behind -/

section Runs

variable {size size' : Nat} {jobs : List Job} {log : List (Nat × Event)} {p : Pool} {job : Job}
  {t : Task} {es : List Event}

lemma Shows.silent (h : Shows true job es) : es = [] := by
  rw [Shows] at h
  split at h
  · next lines status hresponse =>
    cases status <;> simp [h, lineEvents, statusEvents, errorWrites]
  · obtain ⟨taken, -, rfl⟩ := h
    simp [lineEvents]

/-- A task whose output is gathered writes nothing. -/
lemma Fits.silent (h : Fits true job t es) : es.filterMap Event.bytes? = [] := by
  cases t with
  | waiting =>
    obtain rfl := h
    rfl
  | running coming queue gathered =>
    obtain ⟨taken, -, -, rfl⟩ := h
    simp [lineEvents]
  | ended status queue gathered =>
    obtain ⟨taken, -, -, rfl⟩ := h
    simp [lineEvents]
  | leaving f => rw [h.2.silent, List.filterMap_nil]
  | crashed => rw [h.2.silent, List.filterMap_nil]
  | reported =>
    obtain ⟨before, hshows, rfl⟩ := h
    simp [hshows.silent]

lemma Orderly.writes_eq_nil (h : Orderly true size jobs log p) : p.writes = [] := by
  rw [h.writes, List.filterMap_eq_nil_iff]
  rintro ⟨i, event⟩ he
  have hi := h.within _ he
  have hsilent := (h.fits (List.getElem?_eq_getElem hi)
    (List.getElem?_eq_getElem (h.matched ▸ hi))).silent
  refine List.filterMap_eq_nil_iff.mp hsilent event (List.mem_filterMap.mpr ⟨(i, event), he, ?_⟩)
  exact if_pos rfl

lemma Keeps.of_perm {fs fs' : List Finished} {outputs : Std.ExtTreeMap Bytes NameSet}
    (h : Keeps outputs fs) (hperm : fs.Perm fs') : Keeps outputs fs' :=
  { h with mem_iff := fun output host => by simp only [h.mem_iff, hperm.mem_iff] }

/-- At the end the outputs of the commands are kept. -/
lemma Orderly.keeps (h : Orderly true size jobs log p) (hjoined : p.joined = jobs.length) :
    Keeps p.aggregator.outputs (jobs.map (finalReport true)) := by
  have houtputs := h.holds.outputs
  rw [if_pos rfl, openReports_map_finished] at houtputs
  have hperm := (h.reports_of_joined hjoined).map Prod.snd
  rw [map_snd_finalReports] at hperm
  exact houtputs.of_perm hperm

/-- At the end the groups are those of the outcomes of the commands. -/
lemma Orderly.grouped (h : Orderly true size jobs log p) (hjoined : p.joined = jobs.length) :
    Grouped (jobs.map (finalReport true)) p.aggregator.groups := (h.keeps hjoined).grouped

/-- A run of these jobs with so many permits can end with this report and these bytes on the
console. -/
def Leaves (size : Nat) (jobs : List Job) (report : RunReport) (written : Bytes) : Prop :=
  ∃ log p, Reached (start true size jobs) log p ∧ p.joined = jobs.length ∧
    p.aggregator.finish.1 = report ∧ (p.writes ++ Run.closing report).flatten = written

variable {report report' : RunReport} {written written' : Bytes}

lemma host_finalReport (collapse : Bool) (job : Job) :
    (finalReport collapse job).host = job.host := by
  rw [finalReport]
  cases job.response <;> rfl

lemma map_host_finalReport (collapse : Bool) (jobs : List Job) :
    (jobs.map (finalReport collapse)).map Finished.host = jobs.map Job.host := by
  simp [host_finalReport]

/-- What a run leaves is told from its jobs, as far as the groups can be. -/
lemma Leaves.eq (h : Leaves size jobs report written) :
    report.counters = ⟨jobs.length, jobs.countP endsWell, jobs.length - jobs.countP endsWell⟩ ∧
      Grouped (jobs.map (finalReport true)) report.groups ∧
      written = (Run.closing report).flatten := by
  obtain ⟨log, p, hreached, hjoined, rfl, rfl⟩ := h
  have horderly := orderly_of_reached hreached
  rw [horderly.writes_eq_nil, List.nil_append]
  exact ⟨horderly.counters_of_joined hjoined, horderly.grouped hjoined, rfl⟩

/-- Two runs of different hosts leave the same. -/
theorem Leaves.unique (h : Leaves size jobs report written)
    (h' : Leaves size' jobs report' written') (hd : (jobs.map Job.host).Nodup) :
    report = report' ∧ written = written' := by
  obtain ⟨hcounters, hgrouped, rfl⟩ := h.eq
  obtain ⟨hcounters', hgrouped', rfl⟩ := h'.eq
  have hgroups : report.groups = report'.groups :=
    hgrouped.unique hgrouped' (map_host_finalReport true jobs ▸ hd) (List.Perm.refl _)
  obtain rfl : report = report' := by
    cases report
    cases report'
    exact congrArg₂ RunReport.mk (hcounters.trans hcounters'.symm) hgroups
  exact ⟨rfl, rfl⟩

end Runs

/-! ### Runs of a command -/

section Run

variable {settings : RunSettings} {hosts : List String}

/-- What is to be done in a run. -/
def jobsOf (user : String) (execute : Executor) (command : String) (hosts : List String) :
    List Job := hosts.map fun host => ⟨host, execute ⟨host, user⟩ command⟩

lemma length_jobsOf (user : String) {execute : Executor} {command : String} :
    (jobsOf user execute command hosts).length = hosts.length := List.length_map _

lemma exists_finalReport_iff {execute : Executor} {command user host : String} {output : Bytes} :
    (∃ f ∈ (jobsOf user execute command hosts).map (finalReport true),
      f.host = host ∧ Aggregator.outputOf f = output) ↔
      host ∈ hosts ∧ shownOutput (execute ⟨host, user⟩ command) = output := by
  simp [jobsOf, host_finalReport, outputOf_finalReport]

/-- A run that serves many hosts at once goes on by the rules of a pool, up to its end. -/
lemma exists_run_pooled (hmode : settings.mode ≠ .serial) (hsize : settings.poolSize ≤ maxPermits)
    (hne : hosts ≠ []) (execute : Executor) (command : String) :
    ∃ log p r, Reached (.start (settings.mode == .collapse) settings.poolSize
        (jobsOf settings.user execute command hosts)) log p ∧
      p.joined = (jobsOf settings.user execute command hosts).length ∧
      Run.run settings execute hosts command = .ok r ∧ r.report = p.aggregator.report ∧
      r.writes = p.writes ++ Run.closing p.aggregator.report := by
  let p := runAll (settings.mode == .collapse) settings.poolSize
    (jobsOf settings.user execute command hosts)
  obtain ⟨⟨log, hreached⟩, hjoined⟩ := exists_reached_runAll (settings.mode == .collapse)
    settings.poolSize (jobsOf settings.user execute command hosts)
  have hpooled : Run.pooled settings execute command hosts = .ok (p.writes, p.aggregator) := by
    rw [Run.pooled, if_neg (not_lt.mpr hsize)]
    rfl
  have hrun : Run.run settings execute hosts command = .ok
      { report := p.aggregator.report
        writes := p.writes ++ Run.closing p.aggregator.report
        calls := hosts.map fun host => ⟨⟨host, settings.user⟩, command⟩
        heard := p.aggregator.heard } := by
    rw [Run.run, if_neg (by simpa using hne), if_neg hmode, hpooled]
    rfl
  exact ⟨log, p, _, hreached, hjoined, hrun, rfl, rfl⟩

end Run

end HostFleet.Proofs

import HostFleet.Proofs.SerialRuns
import HostFleet.Proofs.SharedConsole
import HostFleet.Proofs.Utf8Text

/-!
# Failures on the console

The error of a command that failed without an exit code is on the console when the run is over, in
serial and in parallel mode whatever was written before, and in collapse mode for a host that wrote
nothing: there its error stands for the output. In collapse mode a failure after some output is
hidden. The console is the same, byte for byte, as if the command had ended with an exit code other
than zero.
-/

namespace HostFleet.Proofs
open Pool

/-- How an error is told on the console. -/
def errorText (e : ExecFault) : Bytes := Utf8.encode ("error: " ++ e.text)

/-- What a run of a command can write, in whatever order its tasks go on. -/
inductive Prints (settings : RunSettings) (execute : Executor) (command : String)
    (hosts : List String) : List Bytes → Prop where
  | serial (hmode : settings.mode = .serial) {writes : List Bytes} {a : Aggregator}
    (h : Run.serial settings execute command hosts (opened hosts.length false) = .ok (writes, a)) :
    Prints settings execute command hosts (writes ++ Run.closing a.report)
  | pooled (hmode : settings.mode ≠ .serial) {log : List (Nat × Event)} {p : Pool}
    (h : Reached (.start (settings.mode == .collapse) settings.poolSize
      (jobsOf settings.user execute command hosts)) log p) (hjoined : p.joined = hosts.length) :
    Prints settings execute command hosts (p.writes ++ Run.closing p.aggregator.report)

/-- The second response is as the first, but a failure after some output is an exit code other than
zero. -/
inductive Hushed : Response → Response → Prop where
  | same (r : Response) : Hushed r r
  | failure {lines : List OutputLine} (houtput : lines.flatMap OutputLine.bytes ≠ [])
    (e : ExecFault) {code : Int} (hcode : code ≠ 0) :
    Hushed (.finished lines (.error e)) (.finished lines (.ok code))

/-! ### The text of an error -/

section Text

variable {e : ExecFault} {host : String}

lemma errorText_infix_hostError : errorText e <:+: Console.hostError host e := by
  refine ⟨Utf8.encode (host ++ ": "), Utf8.encode "\n", ?_⟩
  rw [errorText, Console.hostError, ← encode_append, ← encode_append]
  congr 1
  apply String.toList_injective
  simp [toString]

lemma infix_terminated (bytes : Bytes) : bytes <:+: Console.terminated bytes := by
  rw [Console.terminated]
  split
  · exact List.infix_rfl
  · exact (List.prefix_append _ _).isInfix

/-- The error that stands for the output of a host is on the console with its group. -/
lemma errorText_infix_group {g : OutputGroup}
    (h : g.output = Utf8.encode s!"error: {e.text}\n") : errorText e <:+: Console.group g := by
  have houtput : errorText e <:+: g.output := by
    refine ⟨[], Utf8.encode "\n", ?_⟩
    rw [h, errorText, List.nil_append, ← encode_append]
    rfl
  exact (houtput.trans (infix_terminated _)).trans (List.suffix_append _ _).isInfix

end Text

/-! ### Errors that are shown -/

section Shown

variable {settings : RunSettings} {execute : Executor} {command host : String}
  {hosts : List String} {lines : List OutputLine} {status : Status} {e : ExecFault}

/-- In serial mode each host is served. -/
lemma exists_serial (a : Aggregator) (hends : ∀ host ∈ hosts, ∃ lines status,
    execute ⟨host, settings.user⟩ command = .finished lines status) :
    ∃ writes a', Run.serial settings execute command hosts a = .ok (writes, a') ∧
      ∀ host ∈ hosts, ∀ lines status,
        execute ⟨host, settings.user⟩ command = .finished lines status →
        ∀ bytes ∈ Run.serialWrites host lines status, bytes ∈ writes := by
  refine ⟨_, _, serial_eq a (List.forall_mem_map.mpr hends), ?_⟩
  intro host hhost lines status hresponse bytes hbytes
  refine List.mem_flatMap.mpr ⟨_, List.mem_map_of_mem hhost, ?_⟩
  rw [entryWrites, hresponse]
  exact List.mem_cons_of_mem _ hbytes

/-- In parallel mode all is written that there is about a host. -/
lemma mem_writes_of_parallel {size : Nat} {log : List (Nat × Event)} {p : Pool}
    (h : Reached (.start false size (jobsOf settings.user execute command hosts)) log p)
    (hjoined : p.joined = hosts.length) (hhost : host ∈ hosts)
    (hresponse : execute ⟨host, settings.user⟩ command = .finished lines status) {bytes : Bytes}
    (hbytes : bytes ∈ hostWrites host lines status) : bytes ∈ p.writes := by
  have horderly := orderly_of_reached h
  obtain ⟨i, hi, rfl⟩ := List.mem_iff_getElem.mp hhost
  have hjob : (jobsOf settings.user execute command hosts)[i]? =
      some ⟨hosts[i], .finished lines status⟩ := by
    rw [jobsOf, List.getElem?_map, List.getElem?_eq_getElem hi, Option.map_some, hresponse]
  have hfits := horderly.fits hjob (horderly.settled i (hjoined ▸ hi))
  rw [← hfits.bytes_of_reported rfl] at hbytes
  obtain ⟨event, hevent, hwrote⟩ := List.mem_filterMap.mp hbytes
  obtain ⟨e, he, hat⟩ := List.mem_filterMap.mp hevent
  rw [horderly.writes]
  refine List.mem_filterMap.mpr ⟨e, he, ?_⟩
  split at hat
  · rw [Option.some.inj hat, hwrote]
  · cases hat

/-- In collapse mode each host is in the group of what is shown of it. -/
lemma exists_group_of_collapse {size : Nat} {log : List (Nat × Event)} {p : Pool}
    (h : Reached (.start true size (jobsOf settings.user execute command hosts)) log p)
    (hjoined : p.joined = hosts.length) (hhost : host ∈ hosts) :
    ∃ g ∈ p.aggregator.groups, host ∈ g.hosts ∧
      g.output = shownOutput (execute ⟨host, settings.user⟩ command) := by
  have hgrouped := (orderly_of_reached h).grouped (hjoined.trans (length_jobsOf _).symm)
  obtain ⟨g, hg, houtput, hin⟩ :=
    (hgrouped.mem_iff host _).mpr (exists_finalReport_iff.mpr ⟨hhost, rfl⟩)
  exact ⟨g, hg, hin, houtput⟩

lemma shownOutput_error (h : lines.flatMap OutputLine.bytes = []) (e : ExecFault) :
    shownOutput (.finished lines (.error e)) = Utf8.encode s!"error: {e.text}\n" := by
  simp only [shownOutput, h]

/-- The error of a host is on the console, unless it comes after some output in collapse mode. -/
lemma Prints.errorText_infix {writes : List Bytes}
    (h : Prints settings execute command hosts writes)
    (hends : ∀ host ∈ hosts, ∃ lines status,
      execute ⟨host, settings.user⟩ command = .finished lines status)
    (hhost : host ∈ hosts)
    (hresponse : execute ⟨host, settings.user⟩ command = .finished lines (.error e))
    (hsilent : settings.mode = .collapse → lines.flatMap OutputLine.bytes = []) :
    errorText e <:+: writes.flatten := by
  cases h with
  | @serial hmode writes a h =>
    obtain ⟨writes', a', hserial, hwrites⟩ := exists_serial (opened hosts.length false) hends
    obtain ⟨rfl, rfl⟩ := Prod.mk.inj (Except.ok.inj (h.symm.trans hserial))
    have herror := hwrites host hhost lines (.error e) hresponse (Console.hostError host e)
      (List.mem_append_right _ List.mem_cons_self)
    exact errorText_infix_hostError.trans
      (List.infix_of_mem_flatten (List.mem_append_left _ herror))
  | @pooled hmode log p h hjoined =>
    by_cases hcollapse : settings.mode = .collapse
    · have hshown : (settings.mode == .collapse) = true := by simp [hcollapse]
      rw [hshown] at h
      obtain ⟨g, hg, -, houtput⟩ := exists_group_of_collapse h hjoined hhost
      rw [hresponse, shownOutput_error (hsilent hcollapse)] at houtput
      have hgroup : Console.group g ∈ Run.closing p.aggregator.report :=
        List.mem_append_left _ (List.mem_map_of_mem hg)
      exact (errorText_infix_group houtput).trans
        (List.infix_of_mem_flatten (List.mem_append_right _ hgroup))
    · have hshown : (settings.mode == .collapse) = false := by simp [hcollapse]
      rw [hshown] at h
      have herror := mem_writes_of_parallel h hjoined hhost hresponse
        (List.mem_append_right _ List.mem_cons_self)
      exact errorText_infix_hostError.trans
        (List.infix_of_mem_flatten (List.mem_append_left _ herror))

end Shown

/-! ### Errors that are hidden -/

section Hidden

variable {settings : RunSettings} {execute execute' : Executor} {command host user : String}
  {hosts : List String} {r r' : Response}

lemma Hushed.shownOutput_eq (h : Hushed r r') : shownOutput r' = shownOutput r := by
  cases h with
  | same => rfl
  | @failure lines houtput e code hcode =>
    simp only [shownOutput]
    cases hbytes : lines.flatMap OutputLine.bytes with
    | nil => exact (houtput hbytes).elim
    | cons b bs => rfl

lemma Hushed.endsWell_eq (h : Hushed r r') : endsWell ⟨host, r'⟩ = endsWell ⟨host, r⟩ := by
  cases h with
  | same => rfl
  | failure houtput e hcode =>
    simp only [endsWell]
    split
    · next heq =>
      cases heq
      exact (hcode rfl).elim
    · rfl

/-- A run in collapse mode leaves the same report if some failures are hushed, in whatever order its
tasks go on. -/
lemma report_congr {size size' : Nat} {log log' : List (Nat × Event)} {p p' : Pool}
    (hhushed : ∀ host ∈ hosts,
      Hushed (execute ⟨host, user⟩ command) (execute' ⟨host, user⟩ command))
    (h : Reached (.start true size (jobsOf user execute command hosts)) log p)
    (h' : Reached (.start true size' (jobsOf user execute' command hosts)) log' p')
    (hjoined : p.joined = hosts.length) (hjoined' : p'.joined = hosts.length) :
    p'.aggregator.report = p.aggregator.report := by
  have horderly := orderly_of_reached h
  have horderly' := orderly_of_reached h'
  have hcount : (jobsOf user execute' command hosts).countP endsWell =
      (jobsOf user execute command hosts).countP endsWell := by
    rw [jobsOf, jobsOf, List.countP_map, List.countP_map]
    refine List.countP_congr fun host hhost => ?_
    rw [Function.comp_apply, Function.comp_apply, (hhushed host hhost).endsWell_eq]
  have hcounters : p'.aggregator.counters = p.aggregator.counters := by
    rw [horderly.counters_of_joined (hjoined.trans (length_jobsOf _).symm),
      horderly'.counters_of_joined (hjoined'.trans (length_jobsOf _).symm), length_jobsOf,
      length_jobsOf, hcount]
  have houtputs : p'.aggregator.outputs = p.aggregator.outputs := by
    refine (horderly'.keeps (hjoined'.trans (length_jobsOf _).symm)).unique
      (horderly.keeps (hjoined.trans (length_jobsOf _).symm)) fun host output => ?_
    rw [exists_finalReport_iff, exists_finalReport_iff]
    refine and_congr_right fun hhost => ?_
    rw [(hhushed host hhost).shownOutput_eq]
  rw [Aggregator.report, Aggregator.report, hcounters, Aggregator.groups, Aggregator.groups,
    houtputs]

lemma Prints.eq_of_hushed {writes writes' : List Bytes} (hmode : settings.mode = .collapse)
    (hhushed : ∀ host ∈ hosts, Hushed (execute ⟨host, settings.user⟩ command)
      (execute' ⟨host, settings.user⟩ command))
    (h : Prints settings execute command hosts writes)
    (h' : Prints settings execute' command hosts writes') : writes' = writes := by
  have hshown : (settings.mode == .collapse) = true := by simp [hmode]
  cases h with
  | serial hserial => simp [hmode] at hserial
  | pooled _ h hjoined =>
    cases h' with
    | serial hserial => simp [hmode] at hserial
    | pooled _ h' hjoined' =>
      rw [hshown] at h h'
      rw [(orderly_of_reached h).writes_eq_nil, (orderly_of_reached h').writes_eq_nil,
        report_congr hhushed h h' hjoined hjoined']

lemma exists_prints (hmode : settings.mode ≠ .serial) :
    ∃ writes, Prints settings execute command hosts writes := by
  have hstart : Reached (.start (settings.mode == .collapse) settings.poolSize
    (jobsOf settings.user execute command hosts)) [] _ := .start
  obtain ⟨log, p, hreached, hjoined⟩ := exists_reached_joined hstart
  exact ⟨_, .pooled hmode hreached (hjoined.trans (length_jobsOf _))⟩

end Hidden

/-- A run of a command on hosts none of which crashes comes to its end, and what it writes holds the
error of each host that failed, in whatever order its tasks go on, except for those that failed in
collapse mode after some output. There nothing can be told of the failure: the same is written as
when the command ends on such hosts with an exit code other than zero. -/
theorem error_shown_of_prints {settings : RunSettings} {execute : Executor} {command : String}
    {hosts : List String} (hne : hosts ≠ []) (hends : ∀ host ∈ hosts, ∃ lines status,
      execute ⟨host, settings.user⟩ command = .finished lines status) :
    (settings.mode = .serial ∨ settings.poolSize ≤ maxPermits → ∃ r,
      Run.run settings execute hosts command = .ok r ∧
        Prints settings execute command hosts r.writes) ∧
    (∀ writes, Prints settings execute command hosts writes →
      ∀ host ∈ hosts, ∀ lines e,
        execute ⟨host, settings.user⟩ command = .finished lines (.error e) →
        (settings.mode = .collapse → lines.flatMap OutputLine.bytes = []) →
        errorText e <:+: writes.flatten) ∧
    (settings.mode = .collapse → ∀ execute' : Executor,
      (∀ host ∈ hosts, Hushed (execute ⟨host, settings.user⟩ command)
        (execute' ⟨host, settings.user⟩ command)) →
      ∀ writes, Prints settings execute' command hosts writes ↔
        Prints settings execute command hosts writes) := by
  refine ⟨fun hsize => ?_, fun writes hprints host hhost lines e hresponse hsilent =>
    hprints.errorText_infix hends hhost hresponse hsilent,
    fun hmode execute' hhushed writes => ⟨fun h => ?_, fun h => ?_⟩⟩
  · by_cases hmode : settings.mode = .serial
    · obtain ⟨writes, a, hserial, -⟩ := exists_serial (opened hosts.length false) hends
      refine ⟨⟨a.report, writes ++ Run.closing a.report,
        hosts.map fun host => ⟨⟨host, settings.user⟩, command⟩, a.heard⟩, ?_,
        .serial hmode hserial⟩
      rw [opened] at hserial
      rw [Run.run, if_neg (by simpa using hne), if_pos hmode, hserial]
      rfl
    · obtain ⟨log, p, r, hreached, hjoined, hrun, -, hwrites⟩ :=
        exists_run_pooled hmode (hsize.resolve_left hmode) hne execute command
      refine ⟨r, hrun, ?_⟩
      rw [hwrites]
      exact .pooled hmode hreached (hjoined.trans (length_jobsOf _))
  · obtain ⟨writes', h'⟩ : ∃ writes', Prints settings execute command hosts writes' :=
      exists_prints (by simp [hmode])
    rwa [h'.eq_of_hushed hmode hhushed h]
  · obtain ⟨writes', h'⟩ : ∃ writes', Prints settings execute' command hosts writes' :=
      exists_prints (by simp [hmode])
    rwa [← h.eq_of_hushed hmode hhushed h']

/-- A connection that breaks after some output, and one that breaks before it. -/
theorem error_shown_of_broken_pipe :
    let up : OutputLine := ⟨.out, Utf8.encode "up\n"⟩
    let fault : ExecFault := .io "broken pipe"
    let execute : Executor := fun target _ =>
      .finished (if target.host = "a" then [up] else []) (.error fault)
    let execute' : Executor := fun target _ =>
      if target.host = "a" then .finished [up] (.ok 1) else .finished [] (.error fault)
    ∃ r, Run.run ⟨.collapse, 2, "root"⟩ execute ["a", "b"] "uptime" = .ok r ∧
      errorText fault <:+: r.writes.flatten ∧
      Prints ⟨.collapse, 2, "root"⟩ execute' "uptime" ["a", "b"] r.writes := by
  intro up fault execute execute'
  have hends : ∀ host ∈ ["a", "b"], ∃ lines status,
      execute ⟨host, "root"⟩ "uptime" = .finished lines status :=
    fun host _ => ⟨_, _, rfl⟩
  obtain ⟨hrun, hshown, hhidden⟩ :=
    @error_shown_of_prints ⟨.collapse, 2, "root"⟩ execute "uptime" ["a", "b"] (by simp) hends
  obtain ⟨r, hr, hprints⟩ := hrun (.inr (by decide))
  refine ⟨r, hr, ?_, ?_⟩
  · exact hshown _ hprints "b" (by simp) [] fault (by simp [execute]) (by simp)
  · refine (hhidden rfl execute' ?_ _).mpr hprints
    intro host hhost
    have hup : [up].flatMap OutputLine.bytes ≠ [] := by decide
    rcases List.mem_pair.mp hhost with rfl | rfl
    · simpa [execute, execute'] using Hushed.failure hup fault one_ne_zero
    · simpa [execute, execute'] using Hushed.same (.finished [] (.error fault))

end HostFleet.Proofs

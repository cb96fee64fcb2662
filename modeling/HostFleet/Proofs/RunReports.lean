import HostFleet.Proofs.OutputGroups

/-!
# Reports of runs

An aggregator is sent the reports of hosts, and it is closed any number of times. Every report is
counted and heard of once and forever, and it is in the groups of the next closing only. Hosts are
in one group when they wrote the same, and also when one of them wrote nothing and the other what
stands for it.
-/

namespace HostFleet.Proofs
open Aggregator

/-- What an aggregator is sent. -/
inductive Message where
  | finished (f : Finished)
  | finish

/-- The answer to a message, a report when the run is closed, and the aggregator after it. -/
def answer (a : Aggregator) : Message → Option RunReport × Aggregator
  | .finished f => (none, a.record f)
  | .finish => (some a.finish.1, a.finish.2)

/-- The answers to messages in turn. -/
def answers (a : Aggregator) : List Message → List (Option RunReport) × Aggregator
  | [] => ([], a)
  | m :: ms =>
    let (r, a) := answer a m
    let (rs, a) := answers a ms
    (r :: rs, a)

def Message.report? : Message → Option Finished
  | .finished f => some f
  | .finish => none

/-- The reports among the messages. -/
def reportsIn (ms : List Message) : List Finished := ms.filterMap Message.report?

/-- The reports since the run was last closed. -/
def openReports (ms : List Message) : List Finished :=
  reportsIn (ms.rtakeWhile fun m => m.report?.isSome)

/-- An aggregator at the start of a run. -/
def opened (expected : Nat) (collapse : Bool) : Aggregator :=
  { expected := expected, collapse := collapse }

/-- The command ended with the exit code zero. -/
def Succeeds (f : Finished) : Prop := f.status = .ok 0

instance : DecidablePred Succeeds := fun f => decEq f.status (.ok 0)

lemma succeeded_eq (f : Finished) : f.status.succeeded = decide (Succeeds f) := by
  rw [Bool.eq_iff_iff, decide_eq_true_iff, Succeeds]
  cases f.status <;> simp [Status.succeeded]

/-! ### The state after some messages -/

/-- What an aggregator holds after some messages. -/
structure Holds (expected : Nat) (collapse : Bool) (ms : List Message) (a : Aggregator) :
    Prop where
  size : a.expected = expected
  mode : a.collapse = collapse
  total : a.counters.total = (reportsIn ms).length
  success : a.counters.success = (reportsIn ms).countP (Succeeds ·)
  sum : a.counters.total = a.counters.success + a.counters.error
  heard : a.heard = (reportsIn ms).zipIdx.map fun (f, k) => ⟨f.host, k + 1, expected⟩
  outputs : if collapse then Keeps a.outputs (openReports ms) else a.outputs = ∅

section Holds

variable {expected : Nat} {collapse : Bool} {ms : List Message} {a : Aggregator}

lemma reportsIn_finished (f : Finished) :
    reportsIn (ms ++ [.finished f]) = reportsIn ms ++ [f] := by
  simp [reportsIn, Message.report?]

lemma reportsIn_finish : reportsIn (ms ++ [.finish]) = reportsIn ms := by
  simp [reportsIn, Message.report?]

lemma openReports_finished (f : Finished) :
    openReports (ms ++ [.finished f]) = openReports ms ++ [f] := by
  rw [openReports, List.rtakeWhile_concat_pos _ _ _ rfl, reportsIn_finished, openReports]

lemma openReports_finish : openReports (ms ++ [.finish]) = [] := by
  rw [openReports, List.rtakeWhile_concat_neg _ _ _ (by simp [Message.report?]), reportsIn,
    List.filterMap_nil]

lemma openReports_map_finished (fs : List Finished) : openReports (fs.map .finished) = fs := by
  induction fs using List.reverseRecOn with
  | nil => rfl
  | append_singleton fs f ih =>
    rw [List.map_append, List.map_singleton, openReports_finished, ih]

lemma holds_opened : Holds expected collapse [] (opened expected collapse) where
  size := rfl
  mode := rfl
  total := rfl
  success := rfl
  sum := rfl
  heard := rfl
  outputs := by
    cases collapse
    · rfl
    · exact keeps_nil

lemma Holds.record (h : Holds expected collapse ms a) (f : Finished) :
    Holds expected collapse (ms ++ [.finished f]) (a.record f) where
  size := h.size
  mode := h.mode
  total := by
    rw [reportsIn_finished, List.length_append, ← h.total, Aggregator.record, Counters.add]
    split <;> rfl
  success := by
    rw [reportsIn_finished, List.countP_append, ← h.success, Aggregator.record, Counters.add,
      succeeded_eq]
    split <;> simp_all
  sum := by
    have hsum := h.sum
    rw [Aggregator.record, Counters.add]
    split <;> dsimp only <;> omega
  heard := by
    have htotal : (a.counters.add f.status).total = a.counters.total + 1 := by
      rw [Counters.add]
      split <;> rfl
    rw [reportsIn_finished, List.zipIdx_append, List.map_append, ← h.heard]
    simp [Aggregator.record, htotal, h.total, h.size]
  outputs := by
    have houtputs := h.outputs
    rw [openReports_finished]
    cases collapse
    · simp_all [Aggregator.record, h.mode]
    · exact Keeps.record houtputs h.mode f

lemma Holds.finish (h : Holds expected collapse ms a) :
    Holds expected collapse (ms ++ [.finish]) a.finish.2 where
  size := h.size
  mode := h.mode
  total := reportsIn_finish.symm ▸ h.total
  success := reportsIn_finish.symm ▸ h.success
  sum := h.sum
  heard := reportsIn_finish.symm ▸ h.heard
  outputs := by
    rw [openReports_finish]
    cases collapse
    · rfl
    · exact keeps_nil

lemma Holds.answer (h : Holds expected collapse ms a) (m : Message) :
    Holds expected collapse (ms ++ [m]) (answer a m).2 := by
  cases m with
  | finished f => exact h.record f
  | finish => exact h.finish

theorem Holds.answers (h : Holds expected collapse ms a) (ms' : List Message) :
    Holds expected collapse (ms ++ ms') (answers a ms').2 := by
  induction ms' generalizing ms a with
  | nil => exact (List.append_nil ms).symm ▸ h
  | cons m ms' ih => exact List.append_cons ms m ms' ▸ ih (h.answer m)

/-- What an aggregator holds after the messages of a run up to now. -/
lemma holds_answers (expected : Nat) (collapse : Bool) (ms : List Message) :
    Holds expected collapse ms (Proofs.answers (opened expected collapse) ms).2 :=
  holds_opened.answers ms

lemma reportsIn_map_finished (fs : List Finished) : reportsIn (fs.map .finished) = fs := by
  simp [reportsIn, List.filterMap_map, Function.comp_def, Message.report?]

/-- What an aggregator holds after some reports and no closing. -/
theorem holds_foldl_record (expected : Nat) (collapse : Bool) (fs : List Finished) :
    Holds expected collapse (fs.map .finished)
      (fs.foldl Aggregator.record (opened expected collapse)) := by
  induction fs using List.reverseRecOn with
  | nil => exact holds_opened
  | append_singleton fs f ih =>
    rw [List.map_append, List.foldl_append]
    exact ih.record f

/-- The counters are told from the reports. -/
lemma Holds.counters_eq (h : Holds expected collapse ms a) :
    a.counters = ⟨(reportsIn ms).length, (reportsIn ms).countP (Succeeds ·),
      (reportsIn ms).length - (reportsIn ms).countP (Succeeds ·)⟩ := by
  have hsum := h.sum
  rw [← h.total, ← h.success]
  cases hc : a.counters with
  | mk total success error =>
    rw [hc] at hsum
    dsimp only at hsum ⊢
    congr 1
    omega

/-- A message is answered by the aggregator that the messages before it have left. -/
lemma getElem?_answers (ms after : List Message) (m : Message) (a : Aggregator) :
    (Proofs.answers a (ms ++ m :: after)).1[ms.length]? =
      some (Proofs.answer (Proofs.answers a ms).2 m).1 := by
  induction ms generalizing a with
  | nil => rfl
  | cons m' ms ih => exact ih (Proofs.answer a m').2

/-- The groups of a report. -/
lemma Holds.groups (h : Holds expected collapse ms a) :
    if collapse then Grouped (openReports ms) a.groups else a.groups = [] := by
  have houtputs := h.outputs
  cases collapse
  · exact groups_eq_nil houtputs
  · exact Keeps.grouped houtputs

end Holds

/-- Every report is heard of once, in turn, and a closing is answered with all that was reported
up to then, counted, and with the groups of what was reported since the last one. -/
theorem answers_of_messages (expected : Nat) (collapse : Bool) (ms after : List Message) :
    (answers (opened expected collapse) ms).2.heard =
        (reportsIn ms).zipIdx.map (fun (f, k) => ⟨f.host, k + 1, expected⟩) ∧
      ∃ r, (answers (opened expected collapse) (ms ++ .finish :: after)).1[ms.length]? =
          some (some r) ∧
        r.counters.total = (reportsIn ms).length ∧
        r.counters.success = (reportsIn ms).countP (Succeeds ·) ∧
        r.counters.total = r.counters.success + r.counters.error ∧
        if collapse then Grouped (openReports ms) r.groups else r.groups = [] := by
  have h := holds_answers expected collapse ms
  exact ⟨h.heard, _, getElem?_answers ms after .finish _, h.total, h.success, h.sum, h.groups⟩

/-! ### One group or two -/

/-- What a host wrote. Without an output it wrote nothing. -/
def written (f : Finished) : Bytes := f.output.getD []

lemma outputOf_eq (f : Finished) : outputOf f = if written f = [] then noOutput else written f := by
  rw [outputOf, written]
  cases f.output with
  | none => rfl
  | some bytes => cases bytes <;> rfl

lemma outputOf_eq_iff {f g : Finished} : outputOf f = outputOf g ↔
    written f = written g ∨ written f = [] ∧ written g = noOutput ∨
      written f = noOutput ∧ written g = [] := by
  have hne : noOutput ≠ [] := by decide
  rw [outputOf_eq, outputOf_eq]
  by_cases hf : written f = [] <;> by_cases hg : written g = []
  · simp [hf, hg]
  · simp [hf, hg, hne.symm, eq_comm]
  · simp [hf, hg, hne.symm]
  · simp [hf, hg]

/-- Hosts are in one group when they wrote the same, and when one of them wrote nothing and the
other the text that stands for nothing. -/
theorem same_group_iff (expected : Nat) {fs : List Finished} (hd : (fs.map Finished.host).Nodup)
    {f g : Finished} (hf : f ∈ fs) (hg : g ∈ fs) :
    ∃ r, (answers (opened expected true) (fs.map .finished ++ [.finish])).1[fs.length]? =
        some (some r) ∧
      ((∃ group ∈ r.groups, f.host ∈ group.hosts ∧ g.host ∈ group.hosts) ↔
        written f = written g ∨ written f = [] ∧ written g = noOutput ∨
          written f = noOutput ∧ written g = []) := by
  have hgrouped : Grouped fs _ :=
    openReports_map_finished fs ▸ (holds_answers expected true (fs.map .finished)).groups
  have hanswer := getElem?_answers (fs.map .finished) [] .finish (opened expected true)
  rw [List.length_map] at hanswer
  refine ⟨_, hanswer, ?_⟩
  rw [← outputOf_eq_iff]
  constructor
  · rintro ⟨group, hgroup, hfgroup, hggroup⟩
    rw [hgrouped.host_mem_iff hd hgroup hf] at hfgroup
    rw [hgrouped.host_mem_iff hd hgroup hg] at hggroup
    exact hfgroup.trans hggroup.symm
  · intro houtput
    obtain ⟨group, hgroup, hfgroup, hhost⟩ := (hgrouped.mem_iff _ _).mpr ⟨f, hf, rfl, rfl⟩
    have hggroup := (hgrouped.host_mem_iff hd hgroup hg).mpr (houtput.symm.trans hfgroup.symm)
    exact ⟨group, hgroup, hhost, hggroup⟩

/-- A host that wrote the text that stands for nothing is in one group with a host that wrote
nothing. -/
theorem same_group_iff_of_placeholder : ∃ r,
    (answers (opened 2 true) [.finished ⟨"a", .ok 0, some noOutput⟩, .finished ⟨"b", .ok 0, none⟩,
      .finish]).1[2]? = some (some r) ∧
    (∃ group ∈ r.groups, "a" ∈ group.hosts ∧ "b" ∈ group.hosts) ∧
    written ⟨"a", .ok 0, some noOutput⟩ ≠ written ⟨"b", .ok 0, none⟩ := by
  have hd : (List.map Finished.host [⟨"a", .ok 0, some noOutput⟩, ⟨"b", .ok 0, none⟩]).Nodup := by
    decide
  obtain ⟨r, hr, hiff⟩ := same_group_iff 2 hd List.mem_cons_self
    (List.mem_cons_of_mem _ List.mem_cons_self)
  exact ⟨r, hr, hiff.mpr (.inr (.inr ⟨rfl, rfl⟩)), by decide⟩

end HostFleet.Proofs

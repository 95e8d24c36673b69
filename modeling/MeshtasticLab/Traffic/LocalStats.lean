/-
  Traffic/LocalStats.lean --- when the failed receptions of a run are complete.

  WHAT THIS FILE IS FOR

  A terminal result says whether the failed receptions cover the whole run: every
  node had a total when the run started and one in a sample taken after its last
  message.  Both `stop` and `fail` and the run task that drained sample before
  they call `_finish`; the exception branch of `_run` does not.  In a run in which
  that branch is only taken while a total is missing the flag is sound.
-/
import MeshtasticLab.Traffic.Evidence
import MeshtasticLab.Traffic.NativeCounters

set_option autoImplicit false

namespace MeshtasticLab.Traffic

open MeshtasticLab.Foundation MeshtasticLab.Gateway MeshtasticLab.Metrics MeshtasticLab.Models
open TrafficController

/-! ## Exceptions of the run task -/

/-- A step of the tasks, or an exception in the run task. -/
inductive Occurrence where
  | action (a : TrafficTasks.Action)
  | raised (m : Moment) (exception : String)

namespace TrafficTasks

/-- An exception in the run task where it is suspended.  Before its first sleep the
task is not in its `try` block yet, and what persisting raises is caught where it
is awaited. -/
def raise (s : TrafficTasks) (m : Moment) (exception : String) : Option TrafficTasks :=
  match s.runTask with
  | .scheduled => some { s with runTask := .done }
  | .settling | .draining _ =>
      some ({ s with controller := s.controller.endDrain }.runFailed m exception)
  | .finishing target (.awaiting _) => some (s.runAfterFinish m target (.raised exception))
  | .finishing _ (.persisting _) => none
  | .finishing target _ =>
      let released := { s with controller := { s.controller with finalizationDone := true } }.wake
      some (released.runAfterFinish m target (.raised exception))
  | .done => none
  | _ => some (s.runFailed m exception)

/-- One step of the tasks, in which the run task may also raise. -/
def stepOrRaise (pb : Protobuf) (s : TrafficTasks) : Occurrence → Option TrafficTasks
  | .action a => step pb s a
  | .raised m exception => if s.cancelRequested then none else s.raise m exception

/-- The next message makes the run task raise. -/
def submitRaises (pb : Protobuf) (s : TrafficTasks) (m : Moment) (flow source pick : Nat)
    (draws : List Nat) : Bool :=
  match s.submission flow source pick with
  | none => true
  | some (source, destination, name) =>
      match s.controller.submit pb m source destination draws name with
      | some (_, .error _) => true
      | _ => false

/-- The run task has begun and has not called `_finish` yet. -/
def RunPc.works : RunPc → Bool
  | .scheduled => false
  | .finishing .. => false
  | .done => false
  | _ => true

/-- The run task raises before it applied a final sample. -/
def failsEarly (pb : Protobuf) (s : TrafficTasks) : Occurrence → Bool
  | .raised .. => RunPc.works s.runTask
  | .action (.run m (.submit flow source pick draws)) => s.submitRaises pb m flow source pick draws
  | .action _ => false

/-- When the run task raises before it applied a final sample, local statistics of some
node are missing. -/
def FailsIncomplete (pb : Protobuf) (s : TrafficTasks) (o : Occurrence) : Prop :=
  s.failsEarly pb o = true → ∀ run ∈ s.controller.current, run.missingLocalStatsNodes ≠ []

instance (pb : Protobuf) (s : TrafficTasks) (o : Occurrence) :
    Decidable (FailsIncomplete pb s o) :=
  inferInstanceAs (Decidable (_ → ∀ run ∈ s.controller.current, _))

end TrafficTasks

/-! ## What a run was measured by -/

/-- The baseline that a run started with and the samples that were applied to it. -/
structure StatsHistory where
  baseline : Option FailedReceptionSample := none
  samples : List FailedReceptionSample := []

/-- The sampler answered, unless it raised. -/
def StatsHistory.sampled (h : StatsHistory) (answer : Option FailedReceptionSample) :
    StatsHistory :=
  { h with samples := h.samples ++ answer.toList }

/-- The history after a step. -/
def TrafficTasks.noteStats (h : StatsHistory) (s : TrafficTasks) (o : Occurrence)
    (t : TrafficTasks) : StatsHistory :=
  match o with
  | .action (.start _ _ _ _ baseline) =>
      if s.runTask = .done ∧ t.runTask = .scheduled then { baseline := baseline } else h
  | .action (.run _ (.sampled answer)) => h.sampled answer
  | .action (.resume _ _ (.sampled answer)) => h.sampled answer
  | _ => h

namespace RunEvidence

/-- A node without missing statistics was in the baseline. -/
def Based (h : StatsHistory) (r : RunEvidence) : Prop :=
  r.missingLocalStatsNodes = [] → ∀ nodeId ∈ r.scenarioSnapshot.nodeIds,
    ∃ baseline ∈ h.baseline, baseline.totals.contains nodeId = true

/-- A node without missing statistics was in a sample. -/
def Covered (h : StatsHistory) (r : RunEvidence) : Prop :=
  r.missingLocalStatsNodes = [] → ∀ nodeId ∈ r.scenarioSnapshot.nodeIds,
    ∃ sample ∈ h.samples, sample.totals.contains nodeId = true

/-- What is said of a run that is not over. -/
structure Supported (h : StatsHistory) (scenario : Scenario) (r : RunEvidence) : Prop where
  complete : r.failedReceptionMetricsComplete = r.missingLocalStatsNodes.isEmpty
  snapshot : r.scenarioSnapshot = scenario
  based : r.Based h

/-- What is said of a run that is over. -/
structure Certified (h : StatsHistory) (scenario : Scenario) (r : RunEvidence) : Prop
    extends Supported h scenario r where
  covered : r.Covered h

/-- The missing nodes are known anew. -/
def withMissing (missing : List String) (r : RunEvidence) : RunEvidence :=
  { r with missingLocalStatsNodes := missing, failedReceptionMetricsComplete := missing.isEmpty }

/-- The changes of the topology are others. -/
def changeTopology (changes : List TopologyChange → List TopologyChange) (r : RunEvidence) :
    RunEvidence :=
  { r with topologyChanges := changes r.topologyChanges }

variable {h : StatsHistory} {scenario : Scenario} {r : RunEvidence}

theorem Covered.sampled (hcovered : r.Covered h) (answer : Option FailedReceptionSample) :
    r.Covered (h.sampled answer) := by
  intro hnone nodeId hmember
  obtain ⟨sample, hsample, htotal⟩ := hcovered hnone nodeId hmember
  exact ⟨sample, List.mem_append_left _ hsample, htotal⟩

theorem Supported.sampled (hsupported : r.Supported h scenario)
    (answer : Option FailedReceptionSample) : r.Supported (h.sampled answer) scenario :=
  ⟨hsupported.complete, hsupported.snapshot, hsupported.based⟩

theorem Certified.sampled (hcertified : r.Certified h scenario)
    (answer : Option FailedReceptionSample) : r.Certified (h.sampled answer) scenario :=
  ⟨hcertified.toSupported.sampled answer, hcertified.covered.sampled answer⟩

/-- A sample that leaves nothing missing covers the run. -/
theorem Supported.withMissing (hsupported : r.Supported h scenario) {missing : List String}
    (answer : Option FailedReceptionSample)
    (hmissing : missing = [] → r.missingLocalStatsNodes = [] ∧
      ∀ nodeId ∈ scenario.nodeIds, ∃ sample ∈ answer, sample.totals.contains nodeId = true) :
    (r.withMissing missing).Certified (h.sampled answer) scenario where
  complete := rfl
  snapshot := hsupported.snapshot
  based hnone := hsupported.based (hmissing hnone).1
  covered hnone nodeId hmember := by
    have hnode : nodeId ∈ scenario.nodeIds := by
      rw [← hsupported.snapshot]
      exact hmember
    obtain ⟨sample, hsample, htotal⟩ := (hmissing hnone).2 nodeId hnode
    exact ⟨sample, List.mem_append_right _ (Option.mem_toList.mpr hsample), htotal⟩

end RunEvidence

namespace Evidence

/-- What the open run says covers its samples already. -/
def Ready (h : StatsHistory) (e : Evidence) : Prop := ∀ r ∈ e.run, r.Covered h

/-- What every suspension point finds of the results of a controller. -/
structure Vouched (h : StatsHistory) (e : Evidence) : Prop where
  run : ∀ r ∈ e.run, r.Supported h e.runScenario
  frozen : ∀ r ∈ e.frozen, r.Certified h e.runScenario
  isOver : e.frozen ≠ [] → e.Ready h
  unsampled : e.failedReceptionSampler = false → e.Ready h

variable {h : StatsHistory} {e : Evidence}

theorem Ready.sampled (hready : e.Ready h) (answer : Option FailedReceptionSample) :
    e.Ready (h.sampled answer) :=
  fun r hr => (hready r hr).sampled answer

/-- A write that changes nothing but the topology. -/
theorem Vouched.changeTopology (hvouched : e.Vouched h)
    (changes : List TopologyChange → List TopologyChange) :
    (e.modifyCurrent (RunEvidence.changeTopology changes)).Vouched h ∧
      (e.Ready h → (e.modifyCurrent (RunEvidence.changeTopology changes)).Ready h) := by
  unfold modifyCurrent
  split
  · next hfrozen =>
      have hready : e.Ready h → ∀ r ∈ e.run.map (RunEvidence.changeTopology changes),
          r.Covered h := by
        intro hready r hr
        obtain ⟨before, hbefore, rfl⟩ := Option.map_eq_some_iff.mp hr
        exact hready before hbefore
      refine ⟨⟨?_, hvouched.frozen, fun hne => absurd hfrozen hne, ?_⟩, hready⟩
      · intro r hr
        obtain ⟨before, hbefore, rfl⟩ := Option.map_eq_some_iff.mp hr
        have hsupported := hvouched.run before hbefore
        exact ⟨hsupported.complete, hsupported.snapshot, hsupported.based⟩
      · exact fun hunsampled => hready (hvouched.unsampled hunsampled)
  · next frozen older hfrozen =>
      have hover := hvouched.isOver (by simp [hfrozen])
      refine ⟨⟨hvouched.run, ?_, fun _ => hover, fun _ => hover⟩, fun _ => hover⟩
      intro r hr
      rcases List.mem_cons.mp hr with rfl | holder
      · have hhead := hvouched.frozen frozen (by simp [hfrozen])
        exact ⟨⟨hhead.complete, hhead.snapshot, hhead.based⟩, hhead.covered⟩
      · exact hvouched.frozen r (by simp [hfrozen, holder])

/-- After a final sample the open run is covered. -/
theorem Vouched.withMissing (hvouched : e.Vouched h) {missing : List String}
    (answer : Option FailedReceptionSample)
    (hmissing : missing = [] → (∀ r ∈ e.current, r.missingLocalStatsNodes = []) ∧
      ∀ nodeId ∈ e.runScenario.nodeIds,
        ∃ sample ∈ answer, sample.totals.contains nodeId = true) :
    (e.modifyCurrent (RunEvidence.withMissing missing)).Vouched (h.sampled answer) ∧
      (e.modifyCurrent (RunEvidence.withMissing missing)).Ready (h.sampled answer) := by
  unfold current at hmissing
  unfold modifyCurrent
  cases hfrozen : e.frozen with
  | nil =>
      rw [hfrozen] at hmissing
      have hcertified : ∀ r ∈ e.run.map (RunEvidence.withMissing missing),
          r.Certified (h.sampled answer) e.runScenario := by
        intro r hr
        obtain ⟨open_, hopen, rfl⟩ := Option.map_eq_some_iff.mp hr
        refine (hvouched.run open_ hopen).withMissing answer ?_
        exact fun hnone => ⟨(hmissing hnone).1 open_ hopen, (hmissing hnone).2⟩
      have hready : ∀ r ∈ e.run.map (RunEvidence.withMissing missing),
          r.Covered (h.sampled answer) := fun r hr => (hcertified r hr).covered
      refine ⟨⟨fun r hr => (hcertified r hr).toSupported, ?_, ?_, fun _ => hready⟩, hready⟩
      · exact fun r hr => absurd hr List.not_mem_nil
      · exact fun _ => hready
  | cons frozen older =>
      rw [hfrozen] at hmissing
      have hready : e.Ready (h.sampled answer) :=
        (hvouched.isOver (by simp [hfrozen])).sampled answer
      refine ⟨⟨fun r hr => (hvouched.run r hr).sampled answer, ?_, fun _ => hready,
        fun _ => hready⟩, hready⟩
      intro r hr
      rcases List.mem_cons.mp hr with rfl | holder
      · have hhead := hvouched.frozen frozen (by simp [hfrozen])
        refine hhead.toSupported.withMissing answer ?_
        exact fun hnone => ⟨(hmissing hnone).1 frozen rfl, (hmissing hnone).2⟩
      · exact (hvouched.frozen r (by simp [hfrozen, holder])).sampled answer

theorem Vouched.sampled (hvouched : e.Vouched h) (answer : Option FailedReceptionSample) :
    e.Vouched (h.sampled answer) where
  run r hr := (hvouched.run r hr).sampled answer
  frozen r hr := (hvouched.frozen r hr).sampled answer
  isOver hover := (hvouched.isOver hover).sampled answer
  unsampled hnone := (hvouched.unsampled hnone).sampled answer

end Evidence

namespace TrafficController

variable {c : TrafficController} {h : StatsHistory}

theorem sortedNames_eq_nil {names : List String} : sortedNames names = [] ↔ names = [] := by
  unfold sortedNames
  rw [← List.length_eq_zero_iff, List.length_mergeSort, List.length_eq_zero_iff,
    List.dedup_eq_nil]

/-- Nothing is missing after a final sample only if it has a total of every node and
nothing was missing before. -/
theorem missingAfterSample_eq_nil {run : TrafficRunResult} {sample : FailedReceptionSample}
    (hnone : c.missingAfterSample run sample = []) : run.missingLocalStatsNodes = [] ∧
      ∀ nodeId ∈ c.runScenario.nodeIds, sample.totals.contains nodeId = true := by
  unfold missingAfterSample at hnone
  rw [sortedNames_eq_nil, List.append_eq_nil_iff, List.append_eq_nil_iff,
    List.append_eq_nil_iff] at hnone
  obtain ⟨⟨⟨hbefore, _⟩, _⟩, hexpected⟩ := hnone
  refine ⟨hbefore, ?_⟩
  intro nodeId hmember
  have hfound := List.filter_eq_nil_iff.mp hexpected nodeId hmember
  simpa using hfound

/-- The final sample names what is missing, and changes no other evidence. -/
theorem evidence_applyFinalSample (m : Moment) (answer : Option FailedReceptionSample)
    {run : TrafficRunResult} (hcurrent : c.current = some run) :
    (c.applyFinalSample m answer).evidence = c.evidence.modifyCurrent
      (.withMissing (c.missingAfterSample run (answer.getD c.unavailableSample))) := by
  unfold applyFinalSample
  rw [hcurrent]
  dsimp only
  rw [evidence_write (g := .withMissing (c.missingAfterSample run
    (answer.getD c.unavailableSample))) _ fun _ => rfl, evidence_foldl, evidence_foldl]
  · intro d entry
    split
    · exact evidence_recordFailedReceptions d m _ _
    · rfl
  · intro d entry
    split
    · exact evidence_recordDuplicateReceptions d m _ _
    · rfl

theorem runScenario_applyFinalSample (c : TrafficController) (m : Moment)
    (answer : Option FailedReceptionSample) :
    (c.applyFinalSample m answer).runScenario = c.runScenario := by
  cases hcurrent : c.current with
  | none =>
      unfold applyFinalSample
      rw [hcurrent]
  | some run =>
      have hsame := congrArg Evidence.runScenario (evidence_applyFinalSample m answer hcurrent)
      unfold Evidence.modifyCurrent at hsame
      split at hsame <;> exact hsame

/-- After a final sample the results are vouched for, and the open run is covered. -/
theorem vouched_applyFinalSample (hvouched : c.evidence.Vouched h) (m : Moment)
    (answer : Option FailedReceptionSample) :
    (c.applyFinalSample m answer).evidence.Vouched (h.sampled answer) ∧
      (c.applyFinalSample m answer).evidence.Ready (h.sampled answer) := by
  cases hcurrent : c.current with
  | none =>
      have hsame : c.applyFinalSample m answer = c := by
        unfold applyFinalSample
        rw [hcurrent]
      rw [hsame]
      refine ⟨hvouched.sampled answer, ?_⟩
      intro r hr
      obtain ⟨run, hrun, _⟩ := Option.map_eq_some_iff.mp hr
      unfold current at hcurrent
      split at hcurrent
      · rw [hcurrent] at hrun
        cases hrun
      · cases hcurrent
  | some run =>
      rw [evidence_applyFinalSample m answer hcurrent]
      refine hvouched.withMissing answer ?_
      intro hnone
      obtain ⟨hbefore, hall⟩ := missingAfterSample_eq_nil hnone
      constructor
      · intro r hr
        rw [current_evidence, hcurrent] at hr
        cases hr
        exact hbefore
      · intro nodeId hmember
        cases answer with
        | none => cases hall nodeId hmember
        | some sample => exact ⟨sample, rfl, hall nodeId hmember⟩

/-! ## Starting -/

/-- The evidence of a run that has just started. -/
def begunEvidence (c : TrafficController) (runId : String) (snapshot : Scenario)
    (baseline : Option FailedReceptionSample) : Evidence :=
  let missing := sortedNames (c.missingStatsNodes snapshot baseline)
  { run := some
      { runId := runId
        scenarioSnapshot := snapshot
        topologyChanges := []
        missingLocalStatsNodes := missing
        failedReceptionMetricsComplete := missing.isEmpty }
    frozen := []
    runScenario := snapshot
    failedReceptionSampler := c.failedReceptionSampler
    sequence := 0 }

/-- A call of `start` raises and leaves the evidence, or a run has begun. -/
theorem evidence_start {d : TrafficController} {m : Moment} {runId : String} {taskActive : Bool}
    {request : TrafficRunRequest} {scenarioSnapshot : Option Scenario}
    {baseline : Option FailedReceptionSample} {outcome : Except TrafficError String}
    (hstart : c.start m runId taskActive request scenarioSnapshot baseline = (d, outcome)) :
    (∃ error, outcome = .error error ∧ d.evidence = c.evidence) ∨
    (outcome = .ok runId ∧ taskActive = false ∧
      d.evidence = c.begunEvidence runId (scenarioSnapshot.getD c.scenario) baseline) := by
  unfold start at hstart
  dsimp only at hstart
  split at hstart
  · cases hstart
    exact Or.inl ⟨_, rfl, rfl⟩
  · next hactive =>
      split at hstart
      · cases hstart
        exact Or.inl ⟨_, rfl, rfl⟩
      · split at hstart
        · cases hstart
          exact Or.inl ⟨_, rfl, rfl⟩
        · split at hstart
          · cases hstart
            exact Or.inl ⟨_, rfl, rfl⟩
          · split at hstart
            · next error hreset =>
                cases hstart
                unfold resetAccumulators at hreset
                split at hreset <;> cases hreset
                exact Or.inl ⟨_, rfl, rfl⟩
            · next reset hreset =>
                unfold resetAccumulators at hreset
                split at hreset <;> cases hreset
                split at hstart
                · next hraised => exact absurd hraised (liveMetricsSnapshot_ne_error _ _)
                · cases hstart
                  exact Or.inr ⟨rfl, by simpa using hactive, rfl⟩

/-- Nothing is missing when a run starts only if there is a sampler and a baseline with
a total of every node, or no node. -/
theorem missingStatsNodes_eq_nil {snapshot : Scenario} {baseline : Option FailedReceptionSample}
    (hnone : c.missingStatsNodes snapshot baseline = []) {nodeId : String}
    (hmember : nodeId ∈ snapshot.nodeIds) : c.failedReceptionSampler = true ∧
      ∃ sample ∈ baseline, sample.totals.contains nodeId = true := by
  unfold missingStatsNodes at hnone
  dsimp only at hnone
  split at hnone
  · rw [(List.append_eq_nil_iff.mp hnone).2] at hmember
    cases hmember
  · next hsampled =>
      rw [not_or, not_not] at hsampled
      obtain ⟨hsampler, hbaseline⟩ := hsampled
      have hfound := List.filter_eq_nil_iff.mp (List.append_eq_nil_iff.mp hnone).2 nodeId hmember
      obtain ⟨sample, rfl⟩ := Option.ne_none_iff_exists'.mp hbaseline
      exact ⟨hsampler, sample, rfl, by simpa using hfound⟩

/-- A run that has just started is vouched for by its baseline. -/
theorem vouched_begunEvidence (c : TrafficController) (runId : String) (snapshot : Scenario)
    (baseline : Option FailedReceptionSample) :
    (c.begunEvidence runId snapshot baseline).Vouched { baseline := baseline } where
  run := by
    rintro r ⟨⟩
    refine ⟨rfl, rfl, ?_⟩
    intro hnone nodeId hmember
    exact (missingStatsNodes_eq_nil (sortedNames_eq_nil.mp hnone) hmember).2
  frozen r hr := absurd hr List.not_mem_nil
  isOver hne := absurd rfl hne
  unsampled := by
    rintro hunsampled r ⟨⟩ hnone nodeId hmember
    obtain ⟨hsampler, _⟩ := missingStatsNodes_eq_nil (sortedNames_eq_nil.mp hnone) hmember
    exact absurd (hsampler.symm.trans hunsampled) (by simp)

end TrafficController

/-! ## Positions -/

/-- What a call of `_finish` holds is certified. -/
def FinishPc.Backed (h : StatsHistory) (scenario : Scenario) : FinishPc → Prop
  | .persisting terminal => terminal.evidence.Certified h scenario
  | .copying terminal => terminal.evidence.Certified h scenario
  | _ => True

/-- The run task calls `_finish` only when the open run is covered. -/
def RunPc.Backed (h : StatsHistory) (e : Evidence) : RunPc → Prop
  | .finishing _ pc => e.Ready h ∧ pc.Backed h e.runScenario
  | _ => True

/-- So do `stop` and `fail`, and they sample when the run task is over. -/
def CallerPc.Backed (h : StatsHistory) (e : Evidence) (runTask : RunPc) : CallerPc → Prop
  | .sampling _ => runTask = .done
  | .finishing _ pc => e.Ready h ∧ pc.Backed h e.runScenario
  | _ => True

/-- A step of `_finish` leaves something certified in hand, if anything. -/
def FinishOutcome.Backed (h : StatsHistory) (scenario : Scenario) : FinishOutcome → Prop
  | .suspended pc => pc.Backed h scenario
  | _ => True

section Positions

variable {h : StatsHistory} {e : Evidence} {runTask : RunPc}

theorem FinishPc.Backed.sampled {scenario : Scenario} {pc : FinishPc}
    (hbacked : pc.Backed h scenario) (answer : Option FailedReceptionSample) :
    pc.Backed (h.sampled answer) scenario := by
  cases pc with
  | persisting terminal => exact RunEvidence.Certified.sampled hbacked answer
  | copying terminal => exact RunEvidence.Certified.sampled hbacked answer
  | _ => trivial

theorem FinishPc.backed_wake {scenario : Scenario} {pc : FinishPc} :
    pc.wake.Backed h scenario ↔ pc.Backed h scenario := by
  cases pc <;> rfl

theorem RunPc.Backed.wake {pc : RunPc} (hbacked : pc.Backed h e) : pc.wake.Backed h e := by
  cases pc with
  | finishing target pc => exact ⟨hbacked.1, FinishPc.backed_wake.mpr hbacked.2⟩
  | _ => trivial

theorem RunPc.wake_eq_done {pc : RunPc} : pc.wake = .done ↔ pc = .done := by
  cases pc <;> simp [RunPc.wake]

theorem CallerPc.Backed.wake {pc : CallerPc} (hbacked : pc.Backed h e runTask) :
    pc.wake.Backed h e runTask.wake := by
  cases pc with
  | finishing target pc => exact ⟨hbacked.1, FinishPc.backed_wake.mpr hbacked.2⟩
  | sampling runFailed => exact RunPc.wake_eq_done.mpr hbacked
  | _ => trivial

end Positions

namespace TrafficTasks

/-- In every state the results are vouched for, and what is in hand is certified. -/
structure Backed (h : StatsHistory) (s : TrafficTasks) : Prop where
  vouched : s.controller.evidence.Vouched h
  run : s.runTask.Backed h s.controller.evidence
  callers : ∀ caller ∈ s.callers, caller.pc.Backed h s.controller.evidence s.runTask
  persisted : ∀ terminal ∈ s.persistCalls,
    terminal.evidence.Certified h s.controller.runScenario
  exported : ∀ terminal ∈ s.exported, terminal.evidence.Certified h s.controller.runScenario

variable {h : StatsHistory} {s t : TrafficTasks}

/-- Another controller for which everything is still backed. -/
theorem Backed.replace (hbacked : Backed h s) {c : TrafficController}
    (hscenario : c.runScenario = s.controller.runScenario)
    (hvouched : c.evidence.Vouched h)
    (hready : s.controller.evidence.Ready h → c.evidence.Ready h) :
    Backed h (s.withController c) := by
  have hpcs : ∀ pc : FinishPc, s.controller.evidence.Ready h ∧
      pc.Backed h s.controller.runScenario → c.evidence.Ready h ∧ pc.Backed h c.runScenario :=
    fun pc hpc => ⟨hready hpc.1, hscenario ▸ hpc.2⟩
  refine ⟨hvouched, ?_, ?_, ?_, ?_⟩
  · change s.runTask.Backed h c.evidence
    have hrun := hbacked.run
    cases hpc : s.runTask with
    | finishing target pc =>
        rw [hpc] at hrun
        exact hpcs pc hrun
    | _ => trivial
  · intro caller hmember
    have hcaller := hbacked.callers caller hmember
    change caller.pc.Backed h c.evidence s.runTask
    cases hpc : caller.pc with
    | finishing target pc =>
        rw [hpc] at hcaller
        exact hpcs pc hcaller
    | sampling runFailed =>
        rw [hpc] at hcaller
        exact hcaller
    | _ => trivial
  · change ∀ terminal ∈ s.persistCalls, terminal.evidence.Certified h c.runScenario
    rw [hscenario]
    exact hbacked.persisted
  · change ∀ terminal ∈ s.exported, terminal.evidence.Certified h c.runScenario
    rw [hscenario]
    exact hbacked.exported

/-- A change of the controller that leaves the evidence. -/
theorem Backed.withController (hbacked : Backed h s) {c : TrafficController}
    (hsame : c.evidence = s.controller.evidence) : Backed h (s.withController c) := by
  refine hbacked.replace (congrArg Evidence.runScenario hsame) ?_ ?_
  · rw [hsame]
    exact hbacked.vouched
  · rw [hsame]
    exact id

/-- A change of the controller that only gives out a sequence number. -/
theorem Backed.withSequence (hbacked : Backed h s) {c : TrafficController} {sequence : Nat}
    (hsame : c.evidence = { s.controller.evidence with sequence := sequence }) :
    Backed h (s.withController c) ∧
      (s.controller.evidence.Ready h → c.evidence.Ready h) := by
  have hready : s.controller.evidence.Ready h → c.evidence.Ready h := by
    rw [hsame]
    exact id
  refine ⟨hbacked.replace (congrArg Evidence.runScenario hsame) ?_ hready, hready⟩
  rw [hsame]
  exact ⟨hbacked.vouched.run, hbacked.vouched.frozen, hbacked.vouched.isOver,
    hbacked.vouched.unsampled⟩

/-- A recorded change of the topology. -/
theorem Backed.recordTopologyChange (hbacked : Backed h s) (event : PacketEvent)
    (link : DirectedLink) :
    Backed h (s.withController (s.controller.recordTopologyChange event link).1) := by
  rcases evidence_recordTopologyChange s.controller event link with hsame | hchanged
  · exact hbacked.withController hsame
  · have hvouched := hbacked.vouched.changeTopology (· ++
      [{ eventSequence := event.sequence
         monotonicSeconds := event.monotonicSeconds
         link := link }])
    have hscenario : (s.controller.recordTopologyChange event link).1.runScenario =
        s.controller.runScenario := by
      have hfield := congrArg Evidence.runScenario hchanged
      unfold Evidence.modifyCurrent at hfield
      split at hfield <;> exact hfield
    refine hbacked.replace hscenario ?_ ?_
    · rw [hchanged]
      exact hvouched.1
    · rw [hchanged]
      exact hvouched.2

theorem Backed.wake (hbacked : Backed h s) : Backed h s.wake where
  vouched := hbacked.vouched
  run := hbacked.run.wake
  callers caller hmember := by
    obtain ⟨old, hold, rfl⟩ := List.mem_map.mp hmember
    exact (hbacked.callers old hold).wake
  persisted := hbacked.persisted
  exported := hbacked.exported

/-- The run task moves on. -/
theorem Backed.putRun (hbacked : Backed h s) (hactive : s.runTask ≠ .done) {pc : RunPc}
    (hpc : pc.Backed h s.controller.evidence) : Backed h { s with runTask := pc } where
  vouched := hbacked.vouched
  run := hpc
  callers caller hmember := by
    have hold := hbacked.callers caller hmember
    cases hcaller : caller.pc with
    | sampling runFailed =>
        rw [hcaller] at hold
        exact absurd hold hactive
    | finishing target pc =>
        rw [hcaller] at hold
        exact hold
    | _ => trivial
  persisted := hbacked.persisted
  exported := hbacked.exported

theorem Backed.sampled (hbacked : Backed h s) (answer : Option FailedReceptionSample) :
    Backed (h.sampled answer) s where
  vouched := hbacked.vouched.sampled answer
  run := by
    have hrun := hbacked.run
    cases hpc : s.runTask with
    | finishing target pc =>
        rw [hpc] at hrun
        exact ⟨hrun.1.sampled answer, hrun.2.sampled answer⟩
    | _ => trivial
  callers caller hmember := by
    have hcaller := hbacked.callers caller hmember
    cases hpc : caller.pc with
    | finishing target pc =>
        rw [hpc] at hcaller
        exact ⟨hcaller.1.sampled answer, hcaller.2.sampled answer⟩
    | sampling runFailed =>
        rw [hpc] at hcaller
        exact hcaller
    | _ => trivial
  persisted terminal hmember := (hbacked.persisted terminal hmember).sampled answer
  exported terminal hmember := (hbacked.exported terminal hmember).sampled answer

/-- A sample is applied, and the run is covered from then on. -/
theorem Backed.applyFinalSample (hbacked : Backed h s) (m : Moment)
    (answer : Option FailedReceptionSample) :
    Backed (h.sampled answer)
        (s.withController (s.controller.applyFinalSample m answer)) ∧
      (s.controller.applyFinalSample m answer).evidence.Ready (h.sampled answer) := by
  obtain ⟨hvouched, hready⟩ := vouched_applyFinalSample hbacked.vouched m answer
  refine ⟨(hbacked.sampled answer).replace ?_ hvouched fun _ => hready, hready⟩
  exact runScenario_applyFinalSample _ m answer

/-! ## `_finish` -/

/-- What a step of `_finish` comes to while the open run is covered. -/
structure Finished (h : StatsHistory) (s : TrafficTasks) (entry : TrafficTasks × FinishOutcome) :
    Prop where
  backed : Backed h entry.1
  ready : entry.1.controller.evidence.Ready h
  outcome : entry.2.Backed h entry.1.controller.runScenario
  active : s.runTask ≠ .done → entry.1.runTask ≠ .done

/-- The controller changes no evidence, and nothing certified is needed for what comes. -/
theorem Finished.of_same (hbacked : Backed h s) (hready : s.controller.evidence.Ready h)
    (c : TrafficController) (hsame : c.evidence = s.controller.evidence)
    (outcome : FinishOutcome) (houtcome : outcome.Backed h c.runScenario) :
    Finished h s (s.withController c, outcome) where
  backed := hbacked.withController hsame
  ready := by
    change c.evidence.Ready h
    rw [hsame]
    exact hready
  outcome := houtcome
  active := id

theorem finished_proceedFinish (hbacked : Backed h s) (hready : s.controller.evidence.Ready h)
    (m : Moment) : Finished h s (s.proceedFinish m) :=
  .of_same hbacked hready _ (evidence_beginFinalization s.controller m) _ trivial

theorem finished_enterFinish (hbacked : Backed h s) (hready : s.controller.evidence.Ready h)
    (m : Moment) : Finished h s (s.enterFinish m) := by
  rcases enterFinish_cases s m with ⟨value, heq⟩ | ⟨_, heq⟩ | ⟨_, _, heq⟩
  · rw [heq]
    exact .of_same hbacked hready s.controller rfl _ trivial
  · rw [heq]
    exact .of_same hbacked hready s.controller rfl _ trivial
  · rw [heq]
    exact finished_proceedFinish hbacked hready m

/-- Whoever waits is woken. -/
theorem Finished.wake {entry : TrafficTasks × FinishOutcome} (hfinished : Finished h s entry) :
    Finished h s (entry.1.wake, entry.2) where
  backed := hfinished.backed.wake
  ready := hfinished.ready
  outcome := hfinished.outcome
  active hactive hdone := hfinished.active hactive (RunPc.wake_eq_done.mp hdone)

theorem finished_completeFinish (hbacked : Backed h s) (hready : s.controller.evidence.Ready h)
    {frozen : TrafficRunResult}
    (hcertified : frozen.evidence.Certified h s.controller.runScenario) :
    Finished h s (s.completeFinish frozen) := by
  have hfrozen : Finished h s
      (s.withController (s.controller.freeze frozen), .returned true) := by
    refine ⟨⟨⟨hbacked.vouched.run, ?_, fun _ => hready, fun _ => hready⟩, hbacked.run,
      hbacked.callers, hbacked.persisted, hbacked.exported⟩, hready, trivial, id⟩
    intro r hr
    rcases List.mem_cons.mp hr with rfl | holder
    · exact hcertified
    · exact hbacked.vouched.frozen r holder
  exact hfrozen.wake

/-- What `_finish` captured is certified while the open run is covered. -/
theorem certified_capturedResult (hbacked : Backed h s)
    (hready : s.controller.evidence.Ready h) {captured : Nat} {result : TrafficRunResult}
    (hcaptured : capturedResult s.controller captured = some result) :
    result.evidence.Certified h s.controller.runScenario := by
  cases captured with
  | zero =>
      have hrun : result.evidence ∈ s.controller.evidence.run :=
        Option.mem_map_of_mem _ hcaptured
      exact ⟨hbacked.vouched.run _ hrun, hready _ hrun⟩
  | succ captured =>
      have hmember : result ∈ s.controller.frozenResults :=
        List.mem_reverse.mp (List.mem_of_getElem? hcaptured)
      exact hbacked.vouched.frozen _ (List.mem_map_of_mem hmember)

/-- A certified result is handed to persistence. -/
theorem finished_handed (hbacked : Backed h s) (hready : s.controller.evidence.Ready h)
    (m : Moment) (values : List (String × MetricValue)) {terminal : TrafficRunResult}
    (hcertified : terminal.evidence.Certified h s.controller.runScenario) :
    Finished h s
      ({ s with
          controller := s.controller.publishMetricUpdate m values "snapshot"
          persistCalls := terminal :: s.persistCalls },
        .suspended (.persisting terminal)) := by
  have hsame := evidence_publishMetricUpdate s.controller m values "snapshot"
  have hpublished := hbacked.withController hsame
  have hterminal : terminal.evidence.Certified h
      (s.controller.publishMetricUpdate m values "snapshot").runScenario := by
    have hscenario : (s.controller.publishMetricUpdate m values "snapshot").runScenario =
        s.controller.runScenario := congrArg Evidence.runScenario hsame
    rw [hscenario]
    exact hcertified
  refine ⟨⟨hpublished.vouched, hpublished.run, hpublished.callers, ?_, hpublished.exported⟩,
    ?_, hterminal, id⟩
  · intro other hmember
    rcases List.mem_cons.mp hmember with rfl | hold
    · exact hterminal
    · exact hpublished.persisted other hold
  · exact hsame ▸ hready

theorem finished_resumeFinish (hbacked : Backed h s) (hready : s.controller.evidence.Ready h)
    {pc : FinishPc} (hpc : pc.Backed h s.controller.runScenario) {m : Moment}
    {target : TrafficRunState} {input : FinishInput} {entry : TrafficTasks × FinishOutcome}
    (hresume : s.resumeFinish m target pc input = some entry) : Finished h s entry := by
  cases pc with
  | awaiting woken =>
      cases input with
      | woken =>
          cases woken with
          | true =>
              cases hresume
              exact finished_proceedFinish hbacked hready m
          | false => cases hresume
      | timeout =>
          have htimedOut := Finished.of_same hbacked hready
            { s.controller with finalizationWaitTimedOut := true } rfl (.returned false) trivial
          cases woken <;> cases hresume <;> exact htimedOut
      | _ => cases woken <;> cases hresume
  | computing captured =>
      cases input with
      | computed =>
          unfold resumeFinish at hresume
          dsimp only at hresume
          split at hresume
          · next message hraised =>
              cases hresume
              have hreleased := Finished.of_same hbacked hready
                { s.controller with finalizationDone := true } rfl (.raised message) trivial
              exact hreleased.wake
          · cases hresume
          · next metrics result _ hcaptured =>
              cases hresume
              have hcertified := certified_capturedResult hbacked hready hcaptured
              refine finished_handed hbacked hready m _ ?_
              rw [evidence_terminalResult]
              exact hcertified
      | _ => cases hresume
  | persisting terminal =>
      cases input with
      | persisted =>
          cases hresume
          have hexported : Backed h { s with exported := some terminal } := by
            refine ⟨hbacked.vouched, hbacked.run, hbacked.callers, hbacked.persisted, ?_⟩
            intro exported hexported
            cases hexported
            exact hpc
          have hcompleted := finished_completeFinish hexported hready hpc
          exact ⟨hcompleted.backed, hcompleted.ready, hcompleted.outcome, hcompleted.active⟩
      | persistenceRaised exception =>
          cases hresume
          have hunexported : Backed h { s with exported := none } := by
            refine ⟨hbacked.vouched, hbacked.run, hbacked.callers, hbacked.persisted, ?_⟩
            intro exported hexported
            cases hexported
          have hfailed : (persistenceFailed terminal exception).evidence.Certified h
              s.controller.runScenario := by
            rw [evidence_persistenceFailed]
            exact hpc
          exact ⟨hunexported, hready, hfailed, id⟩
      | _ => cases hresume
  | copying terminal =>
      cases input with
      | copied =>
          cases hresume
          exact finished_completeFinish hbacked hready hpc
      | _ => cases hresume

/-! ## `stop` and `fail` -/

/-- What a call of `stop` or `fail` comes to. -/
def Called (h : StatsHistory) (entry : TrafficTasks × CallerPc) : Prop :=
  Backed h entry.1 ∧ entry.2.Backed h entry.1.controller.evidence entry.1.runTask

theorem Finished.called {entry : TrafficTasks × FinishOutcome}
    (hfinished : Finished h s entry) (target : TrafficRunState) :
    Called h (entry.1, callerAfter target entry.2) := by
  refine ⟨hfinished.backed, ?_⟩
  have houtcome := hfinished.outcome
  cases hentry : entry.2 with
  | suspended pc =>
      rw [hentry] at houtcome
      exact ⟨hfinished.ready, houtcome⟩
  | _ => trivial

theorem called_afterSampling (hbacked : Backed h s) (hready : s.controller.evidence.Ready h)
    (m : Moment) (kind : CallerKind) (runFailed : Bool) :
    Called h (s.afterSampling m kind runFailed) := by
  unfold afterSampling
  split
  · exact ⟨hbacked, trivial⟩
  · exact (finished_enterFinish hbacked hready m).called _

theorem called_afterCancel (hbacked : Backed h s) (hover : s.runTask = .done) (m : Moment)
    (kind : CallerKind) (runFailed : Bool) : Called h (s.afterCancel m kind runFailed) := by
  have hsettled : ∀ u : TrafficTasks, Backed h u → u.runTask = .done →
      Called h (if u.controller.failedReceptionSampler then (u, .sampling runFailed)
        else u.afterSampling m kind runFailed) := by
    intro u hu hdone
    split
    · exact ⟨hu, hdone⟩
    · next hnone =>
        have hunsampled : u.controller.failedReceptionSampler = false := by simpa using hnone
        exact called_afterSampling hu (hu.vouched.unsampled hunsampled) m kind _
  unfold afterCancel
  dsimp only
  cases runFailed with
  | true => exact hsettled s hbacked hover
  | false =>
      exact hsettled _ (hbacked.withController
        (evidence_finalizePendingSubmissions s.controller m)) hover

theorem called_cancelRunTask (hbacked : Backed h s) (m : Moment) (kind : CallerKind)
    (runFailed : Bool) : Called h (s.cancelRunTask m kind runFailed) := by
  unfold cancelRunTask
  split
  · next hover => exact called_afterCancel hbacked hover m kind runFailed
  · exact ⟨⟨hbacked.vouched, hbacked.run, hbacked.callers, hbacked.persisted,
      hbacked.exported⟩, trivial⟩

theorem evidence_setFailure (c : TrafficController) (state : TrafficRunState)
    (failure : Option String) :
    ({ c with state := state }.modifyCurrent
      fun run => { run with failure := failure }).evidence = c.evidence :=
  evidence_modifyCurrent { c with state := state } fun _ => rfl

theorem called_afterWait (hbacked : Backed h s) (m : Moment) (kind : CallerKind) :
    Called h (s.afterWait m kind) := by
  unfold afterWait
  cases kind with
  | stop =>
      dsimp only
      split
      · exact called_cancelRunTask hbacked m .stop true
      · split
        · exact ⟨hbacked, trivial⟩
        · have hstopping : Backed h
              (s.withController { s.controller with state := .stopping }) :=
            hbacked.withController rfl
          exact called_cancelRunTask hstopping m .stop false
  | fail reason =>
      dsimp only
      split
      · exact ⟨hbacked, trivial⟩
      · exact called_cancelRunTask
          (hbacked.withController (evidence_setFailure s.controller _ _)) m _ false

theorem called_enterCall (hbacked : Backed h s) (m : Moment) (kind : CallerKind) :
    Called h (s.enterCall m kind) := by
  unfold enterCall
  dsimp only
  split
  · exact ⟨hbacked, trivial⟩
  · split
    · exact called_afterWait hbacked m kind
    · split <;> exact ⟨hbacked, trivial⟩

/-- The history after a call of `stop` or `fail` was resumed. -/
def CallerInput.note (h : StatsHistory) : CallerInput → StatsHistory
  | .sampled answer => h.sampled answer
  | _ => h

theorem called_resumeCall (hbacked : Backed h s) {pc : CallerPc}
    (hpc : pc.Backed h s.controller.evidence s.runTask) {m : Moment} {kind : CallerKind}
    {input : CallerInput} {entry : TrafficTasks × CallerPc}
    (hresume : s.resumeCall m kind pc input = some entry) : Called (input.note h) entry := by
  cases pc with
  | awaiting woken =>
      cases input with
      | woken =>
          cases woken with
          | true =>
              cases hresume
              exact called_afterWait hbacked m kind
          | false => cases hresume
      | timeout =>
          have htimedOut : Called h (s.withController
              { s.controller with finalizationWaitTimedOut := true }, .returned false) :=
            ⟨hbacked.withController rfl, trivial⟩
          cases woken <;> cases hresume <;> exact htimedOut
      | _ => cases woken <;> cases hresume
  | cancelling runFailed =>
      cases input with
      | runTaskDone =>
          unfold resumeCall at hresume
          dsimp only at hresume
          split at hresume
          · next hover =>
              cases hresume
              exact called_afterCancel hbacked hover m kind runFailed
          · cases hresume
      | _ => cases hresume
  | sampling runFailed =>
      cases input with
      | sampled answer =>
          cases hresume
          obtain ⟨hsampled, hready⟩ := hbacked.applyFinalSample m answer
          exact called_afterSampling hsampled hready m kind runFailed
      | _ => cases hresume
  | finishing target pc =>
      cases input with
      | finish input =>
          obtain ⟨resumed, hfinish, rfl⟩ := Option.map_eq_some_iff.mp hresume
          exact (finished_resumeFinish hbacked hpc.1 hpc.2 hfinish).called target
      | _ => cases hresume
  | returned value => cases input <;> cases hresume
  | raised message => cases input <;> cases hresume

/-! ## The run task -/

/-- The run task waits in the call of `_finish`. -/
theorem Finished.putRun {entry : TrafficTasks × FinishOutcome}
    (hfinished : Finished h s entry) (hactive : s.runTask ≠ .done) {pc : FinishPc}
    (hpc : entry.2 = .suspended pc) (target : TrafficRunState) :
    Backed h { entry.1 with runTask := .finishing target pc } := by
  have houtcome := hfinished.outcome
  rw [hpc] at houtcome
  exact hfinished.backed.putRun (hfinished.active hactive) ⟨hfinished.ready, houtcome⟩

theorem backed_runAfterFinish (hbacked : Backed h s) (hready : s.controller.evidence.Ready h)
    (hactive : s.runTask ≠ .done) (m : Moment) (target : TrafficRunState)
    {outcome : FinishOutcome} (houtcome : outcome.Backed h s.controller.runScenario) :
    Backed h (s.runAfterFinish m target outcome) := by
  unfold runAfterFinish
  cases outcome with
  | suspended pc => exact hbacked.putRun hactive ⟨hready, houtcome⟩
  | returned value => exact hbacked.putRun hactive trivial
  | raised message =>
      dsimp only
      split
      · exact hbacked.putRun hactive trivial
      · have hsame := evidence_setFailure s.controller .stopping (some message)
        have hfailed := hbacked.withController hsame
        have hentered := finished_enterFinish hfailed (hsame ▸ hready) m
        split
        · next pc hpc => exact hentered.putRun hactive hpc .failed
        · exact hentered.backed.putRun (hentered.active hactive) trivial

theorem backed_runFinish (hbacked : Backed h s) (hready : s.controller.evidence.Ready h)
    (hactive : s.runTask ≠ .done) (m : Moment) (target : TrafficRunState) :
    Backed h (s.runFinish m target) := by
  have hentered := finished_enterFinish hbacked hready m
  exact backed_runAfterFinish hentered.backed hentered.ready (hentered.active hactive) m target
    hentered.outcome

theorem backed_runFailed (hbacked : Backed h s) (hready : s.controller.evidence.Ready h)
    (hactive : s.runTask ≠ .done) (m : Moment) (exception : String) :
    Backed h (s.runFailed m exception) := by
  have hsame := evidence_setFailure s.controller .stopping (some exception)
  exact backed_runFinish (hbacked.withController hsame) (hsame ▸ hready) hactive m .failed

theorem backed_afterDrain (hbacked : Backed h s) (hactive : s.runTask ≠ .done) (m : Moment) :
    Backed h (s.afterDrain m) := by
  have hdrained : Backed h (s.withController s.controller.endDrain) :=
    hbacked.withController rfl
  unfold afterDrain
  dsimp only
  split
  · exact hdrained.putRun hactive trivial
  · next hnone =>
      have hunsampled : s.controller.failedReceptionSampler = false := by
        simpa [endDrain] using hnone
      exact backed_runFinish hdrained (hbacked.vouched.unsampled hunsampled) hactive m .completed

theorem backed_expired (hbacked : Backed h s) (hactive : s.runTask ≠ .done) (m : Moment) :
    Backed h ((s.withController (s.controller.finalizePendingSubmissions m)).afterDrain m) :=
  backed_afterDrain (hbacked.withController
    (evidence_finalizePendingSubmissions s.controller m)) hactive m

theorem backed_enterDrain (hbacked : Backed h s) (hactive : s.runTask ≠ .done) (m : Moment) :
    Backed h (s.enterDrain m) := by
  have hbegun : Backed h (s.withController (s.controller.beginDrain m)) :=
    hbacked.withController rfl
  unfold enterDrain
  dsimp only
  split
  · exact hbegun.putRun hactive trivial
  · split
    · exact backed_afterDrain hbegun hactive m
    · exact backed_expired hbegun hactive m
    · have hwaiting : Backed h (s.withController
          { s.controller.beginDrain m with activityChanged := false }) :=
        hbacked.withController rfl
      exact hwaiting.putRun hactive trivial

/-- A run of which a node is missing is covered. -/
theorem Backed.ready_of_missing (hbacked : Backed h s)
    (hmissing : ∀ run ∈ s.controller.current, run.missingLocalStatsNodes ≠ []) :
    s.controller.evidence.Ready h := by
  cases hfrozen : s.controller.frozenResults with
  | cons frozen older =>
      apply hbacked.vouched.isOver
      simp [evidence, hfrozen]
  | nil =>
      intro r hr hnone
      obtain ⟨run, hrun, rfl⟩ := Option.map_eq_some_iff.mp hr
      have hcurrent : run ∈ s.controller.current := by
        unfold current
        rw [hfrozen]
        exact hrun
      exact absurd hnone (hmissing run hcurrent)

theorem backed_runSubmit (pb : Protobuf) (hbacked : Backed h s) (hactive : s.runTask ≠ .done)
    {m : Moment} {flow source pick : Nat} {draws : List Nat}
    (hready : s.submitRaises pb m flow source pick draws = true →
      s.controller.evidence.Ready h)
    (hsubmit : s.runSubmit pb m flow source pick draws = some t) : Backed h t := by
  unfold runSubmit at hsubmit
  unfold submitRaises submission at hready
  obtain ⟨run, hrun, hsubmit⟩ := Option.bind_eq_some_iff.mp hsubmit
  obtain ⟨entry, hflow, hsubmit⟩ := Option.bind_eq_some_iff.mp hsubmit
  obtain ⟨from_, hsource, hsubmit⟩ := Option.bind_eq_some_iff.mp hsubmit
  simp only [hrun, hflow, hsource, Option.bind_eq_bind, Option.bind_some] at hready
  split at hsubmit
  · next error hchoose =>
      cases hsubmit
      rw [hchoose] at hready
      exact backed_runFailed hbacked (hready rfl) hactive m _
  · next destination hchoose =>
      rw [hchoose] at hready
      obtain ⟨⟨c, outcome⟩, hcall, hsubmit⟩ := Option.bind_eq_some_iff.mp hsubmit
      obtain ⟨hsubmitted, hcovered⟩ := hbacked.withSequence (evidence_submit hrun hcall)
      simp only [hcall] at hready
      cases outcome with
      | error error =>
          cases hsubmit
          exact backed_runFailed hsubmitted (hcovered (hready rfl)) hactive m _
      | ok sent =>
          cases sent with
          | none => cases hsubmit
          | some sent =>
              cases hsubmit
              exact hsubmitted.putRun hactive trivial

/-- The history after the run task was resumed. -/
def RunInput.note (h : StatsHistory) : RunInput → StatsHistory
  | .sampled answer => h.sampled answer
  | _ => h

theorem backed_resumeRun (pb : Protobuf) (hbacked : Backed h s) {m : Moment} {input : RunInput}
    (hready : ∀ flow source pick draws, input = .submit flow source pick draws →
      s.submitRaises pb m flow source pick draws = true → s.controller.evidence.Ready h)
    (hresume : s.resumeRun pb m s.runTask input = some t) : Backed (input.note h) t := by
  have hactive : s.runTask ≠ .done := by
    intro hdone
    rw [hdone] at hresume
    cases input <;> cases hresume
  have hpc := hbacked.run
  cases hrun : s.runTask with
  | scheduled =>
      rw [hrun] at hresume
      cases input with
      | begun =>
          cases hresume
          exact hbacked.putRun hactive trivial
      | _ => cases hresume
  | sleeping =>
      rw [hrun] at hresume
      cases input with
      | submit flow source pick draws =>
          exact backed_runSubmit pb hbacked hactive (hready flow source pick draws rfl) hresume
      | _ => cases hresume
  | sending source ref =>
      rw [hrun] at hresume
      cases input with
      | sent exception last =>
          unfold resumeRun at hresume
          dsimp only at hresume
          have hsent : ∀ c : TrafficController, c.evidence = s.controller.evidence →
              (if last then some ((s.withController c).enterDrain m)
                else some { s.withController c with runTask := .sleeping }) = some t →
              Backed h t := by
            intro c hsame hnext
            have hchanged := hbacked.withController hsame
            split at hnext
            · cases hnext
              exact backed_enterDrain hchanged hactive m
            · cases hnext
              exact hchanged.putRun hactive trivial
          cases exception with
          | none => exact hsent _ rfl hresume
          | some exception =>
              exact hsent _ (evidence_submitFailed s.controller m source ref exception) hresume
      | _ => cases hresume
  | settling =>
      rw [hrun] at hresume
      cases input with
      | drained =>
          cases hresume
          exact backed_expired hbacked hactive m
      | _ => cases hresume
  | draining deadline =>
      rw [hrun] at hresume
      cases input with
      | drained =>
          unfold resumeRun at hresume
          dsimp only at hresume
          split at hresume
          · cases hresume
            exact backed_afterDrain hbacked hactive m
          · cases hresume
            exact backed_expired hbacked hactive m
          · cases hresume
            have hwaiting : Backed h (s.withController
                { s.controller with activityChanged := false }) := hbacked.withController rfl
            exact hwaiting
      | _ => cases hresume
  | sampling =>
      rw [hrun] at hresume
      cases input with
      | sampled answer =>
          cases hresume
          obtain ⟨hsampled, hcovered⟩ := hbacked.applyFinalSample m answer
          exact backed_runFinish hsampled hcovered hactive m .completed
      | _ => cases hresume
  | finishing target pc =>
      rw [hrun] at hresume hpc
      cases input with
      | finish input =>
          obtain ⟨resumed, hfinish, rfl⟩ := Option.map_eq_some_iff.mp hresume
          have hfinished := finished_resumeFinish hbacked hpc.1 hpc.2 hfinish
          exact backed_runAfterFinish hfinished.backed hfinished.ready
            (hfinished.active hactive) m target hfinished.outcome
      | _ => cases hresume
  | done => exact absurd hrun hactive

/-- An exception in the run task. -/
theorem backed_raise (hbacked : Backed h s) {m : Moment} {exception : String}
    (hready : RunPc.works s.runTask = true → s.controller.evidence.Ready h)
    (hraise : s.raise m exception = some t) : Backed h t := by
  have hpc := hbacked.run
  have hfails : ∀ c : TrafficController, c.evidence = s.controller.evidence →
      RunPc.works s.runTask = true → Backed h ((s.withController c).runFailed m exception) := by
    intro c hsame hworks
    refine backed_runFailed (hbacked.withController hsame) (hsame ▸ hready hworks) ?_ m exception
    intro hdone
    rw [show s.runTask = .done from hdone] at hworks
    cases hworks
  have hraised : FinishOutcome.Backed h s.controller.runScenario (.raised exception) := trivial
  unfold raise at hraise
  split at hraise
  · next hrun =>
      cases hraise
      exact hbacked.putRun (by simp [hrun]) trivial
  · next hrun =>
      cases hraise
      exact hfails s.controller.endDrain rfl (by simp [hrun, RunPc.works])
  · next hrun =>
      cases hraise
      exact hfails s.controller.endDrain rfl (by simp [hrun, RunPc.works])
  · next target woken hrun =>
      cases hraise
      rw [hrun] at hpc
      exact backed_runAfterFinish hbacked hpc.1 (by simp [hrun]) m target hraised
  · cases hraise
  · next target held _ _ hrun =>
      cases hraise
      rw [hrun] at hpc
      let released := { s.controller with finalizationDone := true }
      have hreleased : Backed h (s.withController released) := hbacked.withController rfl
      have hawake : s.runTask.wake ≠ .done := by simp [hrun, RunPc.wake]
      exact backed_runAfterFinish hreleased.wake hpc.1 hawake m target hraised
  · cases hraise
  · next hscheduled hsettling hdraining _ _ hfinishing hdone =>
      cases hraise
      refine hfails s.controller rfl ?_
      cases hrun : s.runTask with
      | scheduled => exact absurd hrun hscheduled
      | done => exact absurd hrun hdone
      | finishing target pc => exact absurd hrun (hfinishing target pc)
      | _ => rfl

/-- The run task observes its cancellation. -/
theorem backed_cancelled (hbacked : Backed h s) (hactive : s.runTask ≠ .done) :
    Backed h s.cancelled := by
  have hover : Backed h { s with runTask := .done } := hbacked.putRun hactive trivial
  have hdrained : Backed h (s.withController s.controller.endDrain) :=
    hbacked.withController rfl
  let released := { s.controller with finalizationDone := true }
  have hreleased : Backed h (s.withController released) := hbacked.withController rfl
  have hawake : s.runTask.wake ≠ .done := fun hdone => hactive (RunPc.wake_eq_done.mp hdone)
  unfold cancelled
  split
  · exact hdrained.putRun hactive trivial
  · exact hdrained.putRun hactive trivial
  · exact hover
  · exact hreleased.wake.putRun hawake trivial
  · exact hover

/-! ## Runs -/

/-- A call of `start` raises, or a run has begun. -/
theorem backed_started (hbacked : Backed h s) (m : Moment) (runId : String)
    (request : TrafficRunRequest) (scenarioSnapshot : Option Scenario)
    (baseline : Option FailedReceptionSample) :
    let t := s.started m runId request scenarioSnapshot baseline
    (¬(s.runTask = .done ∧ t.runTask = .scheduled) ∧ Backed h t) ∨
      ((s.runTask = .done ∧ t.runTask = .scheduled) ∧ Backed { baseline := baseline } t) := by
  dsimp only
  unfold started
  split
  · next c error hstart =>
      rcases evidence_start hstart with ⟨_, _, hsame⟩ | ⟨hok, _, _⟩
      · refine Or.inl ⟨?_, hbacked.withController hsame⟩
        rintro ⟨hdone, hscheduled⟩
        rw [show s.runTask = .scheduled from hscheduled] at hdone
        cases hdone
      · cases hok
  · next c _ hstart =>
      rcases evidence_start hstart with ⟨_, hraised, _⟩ | ⟨_, hover, hbegun⟩
      · cases hraised
      · refine Or.inr ⟨⟨by simpa using hover, rfl⟩, ?_, trivial, ?_, ?_, ?_⟩
        · change c.evidence.Vouched _
          rw [hbegun]
          exact vouched_begunEvidence _ _ _ _
        · exact fun caller hmember => absurd hmember List.not_mem_nil
        · exact fun terminal hmember => absurd hmember List.not_mem_nil
        · intro terminal hmember
          cases hmember

/-- A step keeps the results backed while an exception before the final sample finds
local statistics missing. -/
theorem Backed.step (pb : Protobuf) (hbacked : Backed h s) {a : Action}
    (hready : ∀ m flow source pick draws, a = .run m (.submit flow source pick draws) →
      s.submitRaises pb m flow source pick draws = true → s.controller.evidence.Ready h)
    (hstep : step pb s a = some t) : Backed (noteStats h s (.action a) t) t := by
  cases a with
  | start m runId request scenarioSnapshot baseline =>
      unfold TrafficTasks.step at hstep
      dsimp only at hstep
      split at hstep
      · cases hstep
        unfold noteStats
        dsimp only
        rcases backed_started hbacked m runId request scenarioSnapshot baseline with
          ⟨hraised, hkept⟩ | ⟨hbegun, hstarted⟩
        · rw [if_neg hraised]
          exact hkept
        · rw [if_pos hbegun]
          exact hstarted
      · cases hstep
  | fromRadio m nodeId message =>
      cases hstep
      exact hbacked.withController (evidence_handleFromRadio pb s.controller m nodeId message)
  | rfTransmission m transmitter packet packetAirtimeMs =>
      cases hstep
      exact hbacked.withController
        (evidence_recordRfTransmission pb s.controller m transmitter packet packetAirtimeMs)
  | drop m transmitter packet reason =>
      cases hstep
      exact hbacked.withController (evidence_recordDrop pb s.controller m transmitter packet reason)
  | failedReceptions m nodeId total =>
      cases hstep
      exact hbacked.withController (evidence_recordFailedReceptions s.controller m nodeId total)
  | duplicateReceptions m nodeId total =>
      cases hstep
      exact hbacked.withController
        (evidence_recordDuplicateReceptions s.controller m nodeId total)
  | eventLoopLag m lagMs =>
      cases hstep
      exact hbacked.withController (evidence_setEventLoopLag s.controller m lagMs)
  | topologyChange event link =>
      cases hstep
      exact hbacked.recordTopologyChange event link
  | run m input =>
      unfold TrafficTasks.step at hstep
      dsimp only at hstep
      split at hstep
      · cases hstep
      · have hresumed := backed_resumeRun pb hbacked
          (fun flow source pick draws heq => hready m flow source pick draws (by rw [heq])) hstep
        cases input <;> exact hresumed
  | cancelled =>
      unfold TrafficTasks.step at hstep
      dsimp only at hstep
      split at hstep
      · next hrequested =>
          cases hstep
          exact backed_cancelled hbacked hrequested.2
      · cases hstep
  | call m kind =>
      cases hstep
      obtain ⟨hentered, hpc⟩ := called_enterCall hbacked m kind
      refine ⟨hentered.vouched, hentered.run, ?_, hentered.persisted, hentered.exported⟩
      intro caller hmember
      rcases List.mem_append.mp hmember with hold | hnew
      · exact hentered.callers caller hold
      · rw [List.mem_singleton.mp hnew]
        exact hpc
  | resume i m input =>
      unfold TrafficTasks.step at hstep
      dsimp only at hstep
      split at hstep
      · cases hstep
      · next caller hcaller =>
          obtain ⟨resumed, hresume, rfl⟩ := Option.map_eq_some_iff.mp hstep
          obtain ⟨hresumed, hpc⟩ := called_resumeCall hbacked
            (hbacked.callers caller (List.mem_of_getElem? hcaller)) hresume
          let callers := resumed.1.callers.set i { caller with pc := resumed.2 }
          have hset : Backed (input.note h) { resumed.1 with callers := callers } := by
            refine ⟨hresumed.vouched, hresumed.run, ?_, hresumed.persisted, hresumed.exported⟩
            intro other hmember
            rcases List.mem_or_eq_of_mem_set hmember with hold | hnew
            · exact hresumed.callers other hold
            · rw [hnew]
              exact hpc
          cases input <;> exact hset

/-- So does a step in which the run task may raise. -/
theorem Backed.stepOrRaise (pb : Protobuf) (hbacked : Backed h s) {o : Occurrence}
    (hfails : FailsIncomplete pb s o) (hstep : stepOrRaise pb s o = some t) :
    Backed (noteStats h s o t) t := by
  cases o with
  | action a =>
      refine hbacked.step pb ?_ hstep
      rintro m flow source pick draws rfl hraises
      exact hbacked.ready_of_missing (hfails hraises)
  | raised m exception =>
      unfold TrafficTasks.stepOrRaise at hstep
      dsimp only at hstep
      split at hstep
      · cases hstep
      · exact backed_raise hbacked (fun hworks => hbacked.ready_of_missing (hfails hworks)) hstep

/-! ## Terminal results -/

/-- The results that say how the run ended: frozen, handed to persistence or on disk. -/
def terminalResults (s : TrafficTasks) : List TrafficRunResult :=
  s.controller.frozenResults ++ s.persistCalls ++ s.exported.toList

/-- A terminal result without missing nodes is flagged as complete and no other is, and
then every node of the scenario had a baseline total and a total in a later sample. -/
def MetricsCovered (h : StatsHistory) (s : TrafficTasks) : Prop :=
  ∀ result ∈ s.terminalResults,
    (result.failedReceptionMetricsComplete = true ↔ result.missingLocalStatsNodes = []) ∧
      (result.failedReceptionMetricsComplete = true →
        ∀ nodeId ∈ result.scenarioSnapshot.nodeIds,
          (∃ baseline ∈ h.baseline, baseline.totals.contains nodeId = true) ∧
            ∃ sample ∈ h.samples, sample.totals.contains nodeId = true)

instance (h : StatsHistory) (s : TrafficTasks) : Decidable (MetricsCovered h s) :=
  inferInstanceAs (Decidable (∀ result ∈ s.terminalResults, _ ∧ _))

/-- Some task waits for the sampler. -/
def AwaitsSample (s : TrafficTasks) : Prop :=
  s.runTask = .sampling ∨ ∃ caller ∈ s.callers, ∃ runFailed, caller.pc = .sampling runFailed

/-- The run task generates messages. -/
def Generates (s : TrafficTasks) : Prop :=
  s.runTask = .scheduled ∨ s.runTask = .sleeping ∨ ∃ source ref, s.runTask = .sending source ref

theorem Backed.metricsCovered (hbacked : Backed h s) : MetricsCovered h s := by
  intro result hmember
  have hcertified : result.evidence.Certified h s.controller.runScenario := by
    rcases List.mem_append.mp hmember with hmember | hexported
    · rcases List.mem_append.mp hmember with hfrozen | hpersisted
      · exact hbacked.vouched.frozen _ (List.mem_map_of_mem hfrozen)
      · exact hbacked.persisted result hpersisted
    · exact hbacked.exported result (Option.mem_toList.mp hexported)
  have hcomplete : result.failedReceptionMetricsComplete =
      result.missingLocalStatsNodes.isEmpty := hcertified.complete
  have hflag : result.failedReceptionMetricsComplete = true ↔
      result.missingLocalStatsNodes = [] := by
    rw [hcomplete, List.isEmpty_iff]
  refine ⟨hflag, ?_⟩
  intro htrue nodeId hnode
  have hnone := hflag.mp htrue
  exact ⟨hcertified.based hnone nodeId hnode, hcertified.covered hnone nodeId hnode⟩

/-- A sample is taken after the run task has generated its messages. -/
theorem Backed.not_generates (hbacked : Backed h s) (hawaits : AwaitsSample s) :
    ¬Generates s := by
  have hover : s.runTask = .sampling ∨ s.runTask = .done := by
    rcases hawaits with hrun | ⟨caller, hmember, runFailed, hpc⟩
    · exact Or.inl hrun
    · have hcaller := hbacked.callers caller hmember
      rw [hpc] at hcaller
      exact Or.inr hcaller
  rintro (hgenerates | hgenerates | ⟨source, ref, hgenerates⟩) <;>
    rcases hover with hover | hover <;> simp [hgenerates] at hover

section Runs

variable {scenario : Scenario} {hardwareIds : Dict String Nat} {buildMetadata : BuildMetadata}
  {settleSeconds : Option ℚ} {failedReceptionSampler : Bool}

/-- In a run of the tasks in which an exception before the final sample finds local
statistics missing, the flag of a terminal result is sound, and samples are taken when
no more messages are generated. -/
theorem complete_metrics_covered (pb : Protobuf)
    (hrun : Run (recorded (TrafficTasks.stepOrRaise pb) noteStats)
      (fun u o => FailsIncomplete pb u.1 o)
      (.new scenario hardwareIds buildMetadata settleSeconds failedReceptionSampler, {})
      (s, h)) :
    MetricsCovered h s ∧ (AwaitsSample s → ¬Generates s) := by
  have hbacked : Backed h s := by
    refine hrun.invariant (I := fun u => Backed u.2 u.1) ?_ ?_
    · rintro ⟨u, g⟩ o v hbacked hfails hstep
      obtain ⟨hstep, hrecord⟩ := recorded_eq_some.mp hstep
      rw [hrecord]
      exact hbacked.stepOrRaise pb hfails hstep
    · constructor
      · refine ⟨?_, ?_, ?_, ?_⟩ <;> simp [TrafficTasks.new, evidence, Evidence.Ready]
      · trivial
      · simp [TrafficTasks.new]
      · simp [TrafficTasks.new]
      · simp [TrafficTasks.new]
  exact ⟨hbacked.metricsCovered, hbacked.not_generates⟩

end Runs

/-! ## A run that raises -/

section Pair

/-- The run starts with these totals of failed receptions. -/
def startedWith (totals : List (String × Nat)) : List Occurrence :=
  [.action (.start pairMoment "run"
      { kind := .directText, sourceNodes := ["node-1"], fixedDestination := some "node-2" }
      none (some { totals := (∅ : Dict String Nat).update totals })),
    .action (.run pairMoment .begun)]

/-- The run task raises between two messages, and the run is finalized. -/
def raisedOccurrences (totals : List (String × Nat)) : List Occurrence :=
  startedWith totals ++
    [.raised pairMoment "no running event loop",
      .action (.run pairMoment (.finish .computed)),
      .action (.run pairMoment (.finish .persisted))]

/-- A run with a baseline of every node raises before its final sample, and its result is
flagged as complete. -/
theorem raised_run_flagged_complete :
    ∃ s h, Run (recorded (TrafficTasks.stepOrRaise pairProtobuf) noteStats) Always
      (sampledPair, {}) (s, h) ∧ ¬MetricsCovered h s := by
  have hstate : (exec (recorded (TrafficTasks.stepOrRaise pairProtobuf) noteStats)
      (raisedOccurrences [("node-1", 5), ("node-2", 3)]) (sampledPair, {})).map
        (fun u => decide (MetricsCovered u.2 u.1)) = some false := by
    decide +kernel
  obtain ⟨⟨s, h⟩, hexec, hstate⟩ := Option.map_eq_some_iff.mp hstate
  exact ⟨s, h, .of_exec hexec (conforms_always _ _), of_decide_eq_false hstate⟩

/-- The run is stopped, and its final sample has a total of both nodes. -/
def stoppedOccurrences : List Occurrence :=
  startedWith [("node-1", 5), ("node-2", 3)] ++
    [.action (.call pairMoment .stop),
      .action .cancelled,
      .action (.resume 0 pairMoment .runTaskDone),
      .action (.resume 0 pairMoment (.sampled (some
        { totals := (∅ : Dict String Nat).update [("node-1", 7), ("node-2", 3)] }))),
      .action (.resume 0 pairMoment (.finish .computed)),
      .action (.resume 0 pairMoment (.finish .persisted))]

/-- The result of a run that was stopped is flagged as complete, and it is. -/
theorem stopped_run_covered :
    ∃ s h, exec (recorded (TrafficTasks.stepOrRaise pairProtobuf) noteStats) stoppedOccurrences
        (sampledPair, {}) = some (s, h) ∧
      (∃ result ∈ s.controller.frozenResult, result.failedReceptionMetricsComplete = true) ∧
      MetricsCovered h s := by
  have hflagged :
      (exec (recorded (TrafficTasks.stepOrRaise pairProtobuf) noteStats) stoppedOccurrences
      (sampledPair, {})).map (fun u => u.1.controller.frozenResult.map
        (·.failedReceptionMetricsComplete)) = some (some true) := by
    decide +kernel
  have hfails : Conforms (recorded (TrafficTasks.stepOrRaise pairProtobuf) noteStats)
      (fun u o => FailsIncomplete pairProtobuf u.1 o) stoppedOccurrences (sampledPair, {}) := by
    decide +kernel
  obtain ⟨⟨s, h⟩, hexec, hflagged⟩ := Option.map_eq_some_iff.mp hflagged
  refine ⟨s, h, hexec, Option.map_eq_some_iff.mp hflagged, ?_⟩
  exact (complete_metrics_covered pairProtobuf (.of_exec hexec hfails)).1

end Pair

end TrafficTasks

end MeshtasticLab.Traffic

/-
  Traffic/Frozen.lean --- a frozen result stays as it is.

  WHAT THIS FILE IS FOR

  After the freeze `self.current` is the frozen result itself, and `fail` and the
  final sample still write through it.  In a run that is `Undisturbed` after the
  freeze every step but a start leaves all that can be seen of the run, and what
  its files hold is the frozen result.
-/
import MeshtasticLab.Traffic.Finalization

set_option autoImplicit false

namespace MeshtasticLab.Traffic

open MeshtasticLab.Foundation MeshtasticLab.Gateway MeshtasticLab.Metrics MeshtasticLab.Models
open TrafficController

namespace TrafficController

/-- `fail` goes past its check of the state. -/
def Failable (c : TrafficController) : Prop :=
  c.current ≠ none ∧ (c.state = .running ∨ c.state = .stopping ∨ c.state = .failed)

instance (c : TrafficController) : Decidable c.Failable :=
  inferInstanceAs (Decidable (_ ∧ _))

/-- A final sample leaves the missing nodes of the run as they are. -/
def SampleKeeps (c : TrafficController) (answer : Option FailedReceptionSample) : Prop :=
  ∀ run ∈ c.current,
    c.missingAfterSample run (answer.getD c.unavailableSample) = run.missingLocalStatsNodes ∧
      run.failedReceptionMetricsComplete = run.missingLocalStatsNodes.isEmpty

instance (c : TrafficController) (answer : Option FailedReceptionSample) :
    Decidable (c.SampleKeeps answer) :=
  inferInstanceAs (Decidable (∀ run ∈ c.current, _ ∧ _))

variable {c : TrafficController}

/-- A write that puts back what is there changes nothing. -/
theorem modifyCurrent_of_fixed {f : TrafficRunResult → TrafficRunResult}
    (hfixed : ∀ run ∈ c.current, f run = run) : c.modifyCurrent f = c := by
  unfold modifyCurrent
  unfold current at hfixed
  split at hfixed
  · next hopen =>
      cases hrun : c.run with
      | none =>
          rw [Option.map_none, ← hrun]
      | some run =>
          rw [Option.map_some, hfixed run hrun, ← hrun]
  · next frozen older hfrozen =>
      rw [hfixed frozen rfl, ← hfrozen]

/-- A sample that leaves the missing nodes of a closed run changes nothing. -/
theorem applyFinalSample_of_keeps (hclosed : c.Closed) (m : Moment)
    {answer : Option FailedReceptionSample} (hkeeps : c.SampleKeeps answer) :
    c.applyFinalSample m answer = c := by
  cases hcurrent : c.current with
  | none =>
      unfold applyFinalSample
      rw [hcurrent]
  | some run =>
      obtain ⟨hmissing, hcomplete⟩ := hkeeps run hcurrent
      rw [applyFinalSample_of_closed hclosed m answer hcurrent, hmissing, ← hcomplete]
      apply modifyCurrent_of_fixed
      intro other hother
      rw [hcurrent] at hother
      cases hother
      rfl

end TrafficController

/-- The call is one of `fail`. -/
def CallerKind.isFail : CallerKind → Bool
  | .fail _ => true
  | .stop => false

/-- The answer of the sampler that an action brings. -/
def TrafficTasks.Action.sample : TrafficTasks.Action → Option (Option FailedReceptionSample)
  | .resume _ _ (.sampled answer) => some answer
  | _ => none

namespace TrafficTasks

variable {s t u : TrafficTasks}

/-! ## What is left alone -/

/-- The action brings a call of `fail` to its check of the state. -/
def looksToFail (s : TrafficTasks) : Action → Bool
  | .call _ kind => kind.isFail && s.controller.finalizationDone
  | .resume i _ .woken =>
      s.callers[i]?.any fun caller => caller.kind.isFail && caller.pc == .awaiting true
  | _ => false

/-- No call of `_finish` that waited goes on once a result is frozen, no call of `fail`
finds a frozen run that it can fail, and no final sample after the freeze changes the
missing nodes. -/
def Undisturbed (s : TrafficTasks) (a : Action) : Prop :=
  Rechecks s a ∧ (s.controller.frozenResult ≠ none →
    (s.looksToFail a = true → ¬s.controller.Failable) ∧
      ∀ answer ∈ a.sample, s.controller.SampleKeeps answer)

/-- An undisturbed step that starts no run. -/
def Later (s : TrafficTasks) (a : Action) : Prop :=
  Undisturbed s a ∧ a.starts = false

instance (s : TrafficTasks) (a : Action) : Decidable (Undisturbed s a) :=
  inferInstanceAs (Decidable (Rechecks s a ∧ (s.controller.frozenResult ≠ none →
    (s.looksToFail a = true → ¬s.controller.Failable) ∧
      ∀ answer ∈ a.sample, s.controller.SampleKeeps answer)))

instance (s : TrafficTasks) (a : Action) : Decidable (Later s a) :=
  inferInstanceAs (Decidable (Undisturbed s a ∧ a.starts = false))

/-- All that has changed is that a wait has timed out. -/
structure Kept (s t : TrafficTasks) : Prop where
  controller : ∃ timedOut,
    t.controller = { s.controller with finalizationWaitTimedOut := timedOut }
  exported : t.exported = s.exported

theorem Kept.refl (s : TrafficTasks) : Kept s s := ⟨⟨_, rfl⟩, rfl⟩

theorem Kept.trans (hfirst : Kept s t) (hsecond : Kept t u) : Kept s u := by
  obtain ⟨_, hfirst⟩ := hfirst.controller
  obtain ⟨timedOut, hlast⟩ := hsecond.controller
  refine ⟨⟨timedOut, ?_⟩, hsecond.exported.trans ‹Kept s t›.exported⟩
  rw [hlast, hfirst]

/-- What can be seen of a run with a frozen result. -/
structure Unchanged (s t : TrafficTasks) : Prop where
  result : t.controller.result = s.controller.result
  summary : ∀ now, t.controller.summary now = s.controller.summary now
  state : t.controller.state = s.controller.state
  phase : t.controller.phase = s.controller.phase
  exported : t.exported = s.exported
  filed : ∀ filed, t.exported = some filed → t.controller.result = some filed

/-! ## Steps after the freeze -/

/-- A run whose result is frozen: nothing is under way and nothing is pending. -/
structure AtRest (s : TrafficTasks) : Prop where
  frozen : s.controller.frozenResult ≠ none
  isOver : s.runTask = .done
  done : s.controller.finalizationDone = true
  closed : s.controller.Closed
  settled : s.controller.accumulators.pendingSubmissions = ∅
  idle : ∀ caller ∈ s.callers, caller.pc.active = false

theorem Orderly.atRest (h : Orderly s) (hfrozen : s.controller.frozenResult ≠ none) :
    AtRest s := by
  have hne : s.controller.frozenResults ≠ [] :=
    fun hnil => hfrozen (List.head?_eq_none_iff.mpr hnil)
  have hcontrolled := h.structured.controlled
  have hdone := h.single.isOver (List.length_pos_iff.mpr hne)
  have hclosed := hcontrolled.frozen hne
  refine ⟨hfrozen, h.structured.frozen hne, hdone, hclosed, hcontrolled.settled hclosed, ?_⟩
  intro caller hmember
  have hcount : s.callers.countP (fun caller => caller.pc.finishes FinishPc.active) = 0 :=
    (Nat.add_eq_zero_iff.mp (h.single.free hdone)).2
  have hidle := List.countP_eq_zero.mp hcount caller hmember
  rw [CallerPc.finishes_active] at hidle
  simpa using hidle

theorem AtRest.afterSampling (h : AtRest s) (m : Moment) (kind : CallerKind)
    (runFailed : Bool) : s.afterSampling m kind runFailed = (s, .returned true) :=
  if_pos h.frozen

theorem AtRest.afterCancel (h : AtRest s) (m : Moment) (kind : CallerKind) (runFailed : Bool) :
    (s.afterCancel m kind runFailed).1 = s := by
  unfold TrafficTasks.afterCancel
  rw [finalizePendingSubmissions_of_empty m h.settled, ite_self]
  dsimp only
  split
  · rfl
  · rw [h.afterSampling]

theorem AtRest.cancelRunTask (h : AtRest s) (m : Moment) (kind : CallerKind)
    (runFailed : Bool) : (s.cancelRunTask m kind runFailed).1 = s := by
  unfold TrafficTasks.cancelRunTask
  rw [if_pos h.isOver]
  exact h.afterCancel m kind runFailed

/-- A call that goes past its wait does nothing more, unless it is one of `fail` that
finds a run that it can fail. -/
theorem AtRest.afterWait (h : AtRest s) (m : Moment) {kind : CallerKind}
    (hfail : kind.isFail = true → ¬s.controller.Failable) : (s.afterWait m kind).1 = s := by
  unfold TrafficTasks.afterWait
  cases kind with
  | stop =>
      dsimp only
      split
      · exact h.cancelRunTask m .stop true
      · rw [if_pos h.isOver]
  | fail reason =>
      have hnot := hfail rfl
      dsimp only
      rw [if_pos]
      by_contra hpasses
      rw [not_or, not_and_or, not_and_or, not_not, not_not, not_not] at hpasses
      exact hnot hpasses

theorem AtRest.enterCall (h : AtRest s) (m : Moment) {kind : CallerKind}
    (hfail : kind.isFail = true → ¬s.controller.Failable) : (s.enterCall m kind).1 = s := by
  unfold TrafficTasks.enterCall
  dsimp only
  rw [if_pos h.done]
  split
  · rfl
  · exact h.afterWait m hfail

/-- What a call of `stop` or `fail` does after the freeze. -/
theorem AtRest.resumeCall (h : AtRest s) {m : Moment} {kind : CallerKind} {pc : CallerPc}
    (hidle : pc.active = false) {input : CallerInput} {entry : TrafficTasks × CallerPc}
    (hfail : pc = .awaiting true → input = .woken → kind.isFail = true → ¬s.controller.Failable)
    (hrechecks : CallerPc.woken pc = true → CallerInput.wakesFinish input = false)
    (hsample : ∀ answer, input = .sampled answer → s.controller.SampleKeeps answer)
    (hresume : s.resumeCall m kind pc input = some entry) : Kept s entry.1 := by
  have htimedOut : Kept s
      (s.withController { s.controller with finalizationWaitTimedOut := true }) := ⟨⟨_, rfl⟩, rfl⟩
  cases pc with
  | awaiting woken =>
      cases input with
      | woken =>
          cases woken with
          | true =>
              cases hresume
              rw [h.afterWait m (hfail rfl rfl)]
              exact .refl s
          | false => cases hresume
      | timeout =>
          cases woken <;> cases hresume <;> exact htimedOut
      | _ => cases woken <;> cases hresume
  | cancelling runFailed =>
      cases input with
      | runTaskDone =>
          unfold TrafficTasks.resumeCall at hresume
          dsimp only at hresume
          rw [if_pos h.isOver] at hresume
          cases hresume
          rw [h.afterCancel]
          exact .refl s
      | _ => cases hresume
  | sampling runFailed =>
      cases input with
      | sampled answer =>
          cases hresume
          rw [applyFinalSample_of_keeps h.closed m (hsample answer rfl)]
          rw [h.afterSampling]
          exact .refl s
      | _ => cases hresume
  | finishing target held =>
      cases input with
      | finish input =>
          obtain ⟨⟨t, outcome⟩, hfinish, rfl⟩ := Option.map_eq_some_iff.mp hresume
          cases held with
          | awaiting woken =>
              cases input with
              | woken =>
                  cases woken with
                  | true => cases hrechecks rfl
                  | false => cases hfinish
              | timeout => cases woken <;> cases hfinish <;> exact htimedOut
              | _ => cases woken <;> cases hfinish
          | _ => cases hidle
      | _ => cases hresume
  | returned value => cases input <;> cases hresume
  | raised message => cases input <;> cases hresume

/-- A step that is undisturbed and starts no run leaves a frozen run alone. -/
theorem AtRest.step (pb : Protobuf) (h : AtRest s) {a : Action} (hlater : Later s a)
    (hstep : step pb s a = some t) : Kept s t := by
  obtain ⟨⟨hrechecks, hundisturbed⟩, hstarts⟩ := hlater
  obtain ⟨hfails, hsample⟩ := hundisturbed h.frozen
  have hsame : ∀ c : TrafficController, c = s.controller → Kept s (s.withController c) := by
    rintro c rfl
    exact .refl s
  cases a with
  | start m runId request scenarioSnapshot baseline => cases hstarts
  | fromRadio m nodeId message =>
      cases hstep
      exact hsame _ (handleFromRadio_of_closed pb h.closed m nodeId message)
  | rfTransmission m transmitter packet packetAirtimeMs =>
      cases hstep
      exact hsame _ (recordRfTransmission_of_closed pb h.closed m transmitter packet _)
  | drop m transmitter packet reason =>
      cases hstep
      exact hsame _ (recordDrop_of_closed pb h.closed m transmitter packet reason)
  | failedReceptions m nodeId total =>
      cases hstep
      exact hsame _ (recordFailedReceptions_of_closed h.closed m nodeId total)
  | duplicateReceptions m nodeId total =>
      cases hstep
      exact hsame _ (recordDuplicateReceptions_of_closed h.closed m nodeId total)
  | eventLoopLag m lagMs =>
      cases hstep
      exact hsame _ (setEventLoopLag_of_closed h.closed m lagMs)
  | topologyChange event link =>
      cases hstep
      exact hsame _ (recordTopologyChange_of_closed h.closed event link)
  | run m input =>
      unfold TrafficTasks.step at hstep
      dsimp only at hstep
      split at hstep
      · cases hstep
      · rw [h.isOver] at hstep
        cases input <;> cases hstep
  | cancelled =>
      unfold TrafficTasks.step at hstep
      rw [if_neg (fun hcancel => hcancel.2 h.isOver)] at hstep
      cases hstep
  | call m kind =>
      cases hstep
      have hentered : (s.enterCall m kind).1 = s := by
        apply h.enterCall
        intro hkind
        exact hfails (by simp [looksToFail, hkind, h.done])
      exact ⟨⟨_, by rw [hentered]⟩, by rw [hentered]⟩
  | resume i m input =>
      unfold TrafficTasks.step at hstep
      dsimp only at hstep
      split at hstep
      · cases hstep
      · next caller hget =>
          obtain ⟨entry, hresume, rfl⟩ := Option.map_eq_some_iff.mp hstep
          have hkept : Kept s entry.1 := by
            refine h.resumeCall (h.idle caller (List.mem_of_getElem? hget)) ?_ ?_ ?_ hresume
            · rintro hpc rfl hkind
              exact hfails (by simp [looksToFail, hget, hkind, hpc])
            · intro hwoken
              by_contra hinput
              exact h.frozen (hrechecks (by simpa [resumesWoken, hget, hwoken] using hinput))
            · rintro answer rfl
              exact hsample answer rfl
          exact ⟨hkept.controller, hkept.exported⟩

/-! ## What the files hold -/

/-- What the files of the run hold is its frozen result. -/
def Filed (s : TrafficTasks) : Prop :=
  ∀ filed, s.exported = some filed → s.controller.frozenResult = some filed

theorem filed_of_none (hnone : s.exported = none) : Filed s := by
  intro filed hfiled
  rw [hnone] at hfiled
  cases hfiled

/-- A step of `_finish` writes no file but that of the result it freezes. -/
theorem Resumed.filed {held : FinishPc} {outcome : FinishOutcome} (hnone : s.exported = none)
    (hresumed : Resumed s held t outcome) : Filed t := by
  cases hresumed with
  | handed captured c terminal hview hfrozen hmirrors => exact filed_of_none hnone
  | unpersisted terminal failed hmirrors => exact filed_of_none rfl
  | persisted terminal => exact fun filed hfiled => hfiled
  | copied terminal => exact filed_of_none hnone

theorem CallMove.filed {strict : Prop} {entry : TrafficTasks × CallerPc}
    (hnone : s.exported = none) (hmove : CallMove strict s entry) : Filed entry.1 := by
  cases hmove with
  | idle t pc hneutral hphase hidle hwoken hfits =>
      exact filed_of_none (hneutral.exported.trans hnone)
  | cancels t runFailed hneutral hphase hdone =>
      exact filed_of_none (hneutral.exported.trans hnone)
  | begin t target m hneutral hphase hover hopen hdone =>
      exact filed_of_none (hneutral.exported.trans hnone)

theorem Move.filed {strict mayResume : Prop} (hnone : s.exported = none)
    (hmove : Move strict mayResume s t) : Filed t := by
  cases hmove with
  | event t hneutral hphase => exact filed_of_none (hneutral.exported.trans hnone)
  | run t hactive hcancel hmove =>
      cases hmove with
      | idle u pc hneutral hfree hidle hfits =>
          exact filed_of_none (hneutral.exported.trans hnone)
      | begin u target m hneutral hfree hopen =>
          exact filed_of_none (hneutral.exported.trans hnone)
      | finish target held m u outcome hpc hresumed =>
          have hfiled := hresumed.filed hnone
          cases houtcome : outcome with
          | suspended pc => exact hfiled
          | returned value => exact hfiled
          | raised message =>
              rw [houtcome] at hresumed
              cases hresumed
  | cancelled u hneutral hidle => exact filed_of_none (hneutral.exported.trans hnone)
  | call kind entry hmove => exact hmove.filed hnone
  | resume i caller entry hget hmove =>
      cases hmove with
      | call entry hidle hmove => exact hmove.filed hnone
      | woken target m hpc hmay => exact filed_of_none hnone
      | finish target held u outcome hpc hresumed =>
          have hfiled := hresumed.filed hnone
          exact hfiled

/-- A start that raises leaves the frozen result, one that does not has no files yet. -/
theorem Filed.started (h : Filed s) (m : Moment) (runId : String) (request : TrafficRunRequest)
    (scenarioSnapshot : Option Scenario) (baseline : Option FailedReceptionSample) :
    Filed (s.started m runId request scenarioSnapshot baseline) := by
  unfold TrafficTasks.started
  split
  · next c error hstart =>
      rcases start_cases False hstart with ⟨_, _, _, _, _, hfrozen⟩ | ⟨houtcome, _⟩
      · intro filed hfiled
        exact (congrArg List.head? hfrozen).trans (h filed hfiled)
      · cases houtcome
  · exact filed_of_none rfl

theorem Filed.kept (h : Filed s) (hkept : Kept s t) : Filed t := by
  obtain ⟨timedOut, hcontroller⟩ := hkept.controller
  intro filed hfiled
  rw [hcontroller]
  exact h filed (hkept.exported.symm.trans hfiled)

/-- An undisturbed step keeps the files in step with the frozen result. -/
theorem Filed.step (pb : Protobuf) (horderly : Orderly s) (h : Filed s) {a : Action}
    (hundisturbed : Undisturbed s a) (hstep : step pb s a = some t) : Filed t := by
  by_cases hfrozen : s.controller.frozenResult = none
  · have hnone : s.exported = none := by
      cases hexported : s.exported with
      | none => rfl
      | some filed =>
          rw [h filed hexported] at hfrozen
          cases hfrozen
    rcases step_cases False True pb horderly.structured False.elim False.elim
      (fun _ => trivial) hstep with hstarted | hmove
    · exact filed_of_none hstarted.exported
    · exact hmove.filed hnone
  · cases hstarts : a.starts with
    | false => exact h.kept ((horderly.atRest hfrozen).step pb ⟨hundisturbed, hstarts⟩ hstep)
    | true =>
        cases a with
        | start m runId request scenarioSnapshot baseline =>
            unfold TrafficTasks.step at hstep
            dsimp only at hstep
            split at hstep
            · cases hstep
              exact h.started m runId request scenarioSnapshot baseline
            · cases hstep
        | _ => cases hstarts

/-! ## Runs -/

/-- In a frozen run `result` is the frozen result. -/
theorem result_of_frozen {c : TrafficController} {frozen : TrafficRunResult}
    (hfrozen : c.frozenResult = some frozen) : c.result = some frozen := by
  obtain ⟨older, hresults⟩ := List.head?_eq_some_iff.mp hfrozen
  unfold result current
  rw [hresults]

/-- What is kept is unchanged. -/
theorem Kept.unchanged (hkept : Kept s t) (hfrozen : s.controller.frozenResult ≠ none)
    (hfiled : Filed t) : Unchanged s t := by
  obtain ⟨timedOut, hcontroller⟩ := hkept.controller
  constructor
  · rw [hcontroller]
    rfl
  · intro now
    obtain ⟨frozen, hsome⟩ := Option.ne_none_iff_exists'.mp hfrozen
    have hcurrent : s.controller.current = some frozen := result_of_frozen hsome
    rw [hcontroller]
    unfold summary
    rw [show ({ s.controller with finalizationWaitTimedOut := timedOut } :
      TrafficController).frozenResult = some frozen from hsome, hsome, hcurrent,
      show ({ s.controller with finalizationWaitTimedOut := timedOut } :
      TrafficController).current = some frozen from hcurrent]
  · rw [hcontroller]
  · rw [hcontroller]
  · exact hkept.exported
  · intro filed hexported
    exact result_of_frozen (hfiled filed hexported)

section Runs

variable {scenario : Scenario} {hardwareIds : Dict String Nat} {buildMetadata : BuildMetadata}
  {settleSeconds : Option ℚ} {failedReceptionSampler : Bool}

theorem filed_of_run (pb : Protobuf)
    (hrun : Run (step pb) Undisturbed
      (.new scenario hardwareIds buildMetadata settleSeconds failedReceptionSampler) s) :
    Orderly s ∧ Filed s := by
  refine hrun.invariant (I := fun s => Orderly s ∧ Filed s) ?_ ⟨?_, filed_of_none rfl⟩
  · rintro s a t ⟨horderly, hfiled⟩ hundisturbed hstep
    exact ⟨horderly.step pb hundisturbed.1 hstep, hfiled.step pb horderly hundisturbed hstep⟩
  · exact orderly_of_run pb (.refl _)

/-- Once the result of an undisturbed run is frozen, no undisturbed step but a start
changes what can be seen of the run. -/
theorem frozen_unchanged (pb : Protobuf)
    (hrun : Run (step pb) Undisturbed
      (.new scenario hardwareIds buildMetadata settleSeconds failedReceptionSampler) s)
    (hfrozen : s.controller.frozenResult ≠ none) (hlater : Run (step pb) Later s t) :
    Unchanged s t := by
  obtain ⟨horderly, hfiled⟩ := filed_of_run pb hrun
  have hkept : Kept s t ∧ Orderly t := by
    refine hlater.invariant (I := fun u => Kept s u ∧ Orderly u) ?_ ⟨.refl s, horderly⟩
    rintro u a v ⟨hkept, horderly⟩ hlater hstep
    obtain ⟨timedOut, hcontroller⟩ := hkept.controller
    have hrest : AtRest u := horderly.atRest (by rw [hcontroller]; exact hfrozen)
    exact ⟨hkept.trans (hrest.step pb hlater hstep), horderly.step pb hlater.1.1 hstep⟩
  exact hkept.1.unchanged hfrozen (hfiled.kept hkept.1)

end Runs

/-! ## A second failure -/

/-- A run fails, with a call of `stop` waiting for its finalization to end. -/
def failedRun : List Action :=
  pairSubmission ++
    [.call pairMoment (.fail "gateway"), .cancelled, .resume 0 pairMoment .runTaskDone,
      .call pairMoment .stop, .resume 0 pairMoment (.finish .computed),
      .resume 0 pairMoment (.finish .persisted)]

/-- Another failure is reported after the freeze. -/
def secondFailure : List Action := [.call pairMoment (.fail "medium")]

/-- A late message arrives and the call of `stop` goes on. -/
def lateMessage : List Action :=
  [.fromRadio pairMoment "node-1" (.queueStatus { meshPacketId := 7, res := 0 }),
    .resume 1 pairMoment .woken]

/-- The reason of the second failure is written into the frozen result, which its
files do not show, and the state of the run is no longer terminal. -/
theorem failed_result_rewritten :
    ∃ s t, Run (step pairProtobuf) Always pairTasks s ∧ s.controller.frozenResult ≠ none ∧
      Run (step pairProtobuf) (fun _ a => a.starts = false) s t ∧
      s.controller.state = .failed ∧ t.controller.state = .stopping ∧
      s.controller.result.map (·.failure) = some (some "gateway") ∧
      t.controller.result.map (·.failure) = some (some "medium") ∧ ¬Unchanged s t := by
  have hbefore : (exec (step pairProtobuf) failedRun pairTasks).map (fun s =>
      (s.controller.frozenResult.isSome, s.controller.state,
        s.controller.result.map (·.failure))) =
          some (true, .failed, some (some "gateway")) := by
    decide +kernel
  have hafter : ((exec (step pairProtobuf) failedRun pairTasks).bind
      (exec (step pairProtobuf) secondFailure)).map (fun t =>
        (t.controller.state, t.controller.result.map (·.failure))) =
          some (.stopping, some (some "medium")) := by
    decide +kernel
  obtain ⟨s, hexec, hs⟩ := Option.map_eq_some_iff.mp hbefore
  obtain ⟨hfrozen, hs⟩ := Prod.mk.inj hs
  obtain ⟨hfailed, hgateway⟩ := Prod.mk.inj hs
  obtain ⟨t, hlast, ht⟩ := Option.map_eq_some_iff.mp hafter
  obtain ⟨hstopping, hmedium⟩ := Prod.mk.inj ht
  rw [hexec, Option.bind_some] at hlast
  refine ⟨s, t, .of_exec hexec (conforms_always _ _), Option.isSome_iff_ne_none.mp hfrozen,
    .of_exec hlast ⟨rfl, fun _ _ => trivial⟩, hfailed, hstopping, hgateway, hmedium, ?_⟩
  intro hunchanged
  have hstate := hunchanged.state
  rw [hfailed, hstopping] at hstate
  cases hstate

/-- The late message and the call of `stop` change nothing. -/
theorem failed_result_unchanged :
    ∃ s t, exec (step pairProtobuf) failedRun pairTasks = some s ∧
      exec (step pairProtobuf) lateMessage s = some t ∧ Unchanged s t := by
  have hbefore : (exec (step pairProtobuf) failedRun pairTasks).map (fun s =>
      (s.controller.frozenResult.isSome,
        decide (Conforms (step pairProtobuf) Later lateMessage s))) = some (true, true) := by
    decide +kernel
  have hafter : ((exec (step pairProtobuf) failedRun pairTasks).bind
      (exec (step pairProtobuf) lateMessage)).isSome = true := by
    decide +kernel
  have hundisturbed : Conforms (step pairProtobuf) Undisturbed failedRun pairTasks := by
    decide +kernel
  obtain ⟨s, hexec, hs⟩ := Option.map_eq_some_iff.mp hbefore
  obtain ⟨hfrozen, hlater⟩ := Prod.mk.inj hs
  obtain ⟨t, hlast⟩ := Option.isSome_iff_exists.mp hafter
  rw [hexec, Option.bind_some] at hlast
  exact ⟨s, t, hexec, hlast, frozen_unchanged pairProtobuf (.of_exec hexec hundisturbed)
    (Option.isSome_iff_ne_none.mp hfrozen) (.of_exec hlast (of_decide_eq_true hlater))⟩

end TrafficTasks

end MeshtasticLab.Traffic

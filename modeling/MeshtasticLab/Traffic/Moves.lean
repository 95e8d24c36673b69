/-
  Traffic/Moves.lean --- what one step of the tasks can do.

  WHAT THIS FILE IS FOR

  `Structured` ties the position of every task to the phase of the run.  From a
  structured state a step starts a run or is a `Move`; the list of moves is all
  that the invariants of whole runs look at.  A move that is `Neutral` begins no
  finalization, freezes nothing and hands nothing to persistence.
-/
import MeshtasticLab.Traffic.Advance
import MeshtasticLab.Traffic.Tasks

set_option autoImplicit false

namespace MeshtasticLab.Traffic

open MeshtasticLab.Foundation MeshtasticLab.Gateway MeshtasticLab.Metrics MeshtasticLab.Models
open TrafficController

/-! ## Positions -/

/-- The call of `_finish` has begun its finalization. -/
def FinishPc.active : FinishPc → Bool
  | .awaiting _ => false
  | _ => true

/-- The call of `_finish` has handed its result to persistence. -/
def FinishPc.handed : FinishPc → Bool
  | .persisting _ => true
  | .copying _ => true
  | _ => false

/-- What a call of `_finish` holds shows the run. -/
def FinishPc.Fits (c : TrafficController) : FinishPc → Prop
  | .persisting terminal => Mirrors c.view terminal
  | .copying terminal => Mirrors c.view terminal
  | _ => True

/-- The run task has begun a finalization. -/
def RunPc.active : RunPc → Bool
  | .finishing _ pc => pc.active
  | _ => false

/-- A call of `stop` or `fail` has begun a finalization. -/
def CallerPc.active : CallerPc → Bool
  | .finishing _ pc => pc.active
  | _ => false

/-- The position of the run task and the phase of the run go together. -/
def RunPc.Fits (c : TrafficController) (cancelRequested : Bool) : RunPc → Prop
  | .scheduled => c.phase = .generating
  | .sleeping => c.phase = .generating
  | .sending source ref => c.phase = .generating ∧ c.view.Sent ref source
  | .settling => c.phase = .draining
  | .draining _ => c.phase = .draining
  | .sampling => c.phase = .draining
  | .finishing _ pc =>
      pc.active = true ∧ pc.Fits c ∧ c.phase = .finalizing ∧ c.finalizationDone = false ∧
        cancelRequested = false
  | .done => True

/-- So do the position of a call of `stop` or `fail`, the run task and the phase. -/
def CallerPc.Fits (c : TrafficController) (cancelRequested : Bool) (runTask : RunPc) :
    CallerPc → Prop
  | .awaiting woken => c.Closed ∧ (woken = true → runTask = .done)
  | .cancelling _ => cancelRequested = true ∨ runTask = .done
  | .sampling _ => runTask = .done
  | .finishing _ pc => runTask = .done ∧ c.Closed ∧ pc.Fits c
  | .returned _ => True
  | .raised _ => True

/-- What a call of `_finish` holds keeps showing a closed run. -/
theorem FinishPc.Fits.advance {strict : Prop} {c d : TrafficController}
    {pc : FinishPc} (h : pc.Fits c) (hclosed : c.Closed) (hadvance : Advance strict c d) :
    pc.Fits d := by
  cases pc with
  | awaiting woken => trivial
  | computing captured => trivial
  | persisting terminal => exact Mirrors.advance h hclosed hadvance
  | copying terminal => exact Mirrors.advance h hclosed hadvance

/-- A call stays where the run lets it be as the run advances. -/
theorem CallerPc.Fits.mono {strict : Prop} {c d : TrafficController} {cancel cancel' : Bool}
    {runTask runTask' : RunPc} {pc : CallerPc} (h : pc.Fits c cancel runTask)
    (hadvance : Advance strict c d)
    (hcancel : cancel = true → cancel' = true ∨ runTask' = .done)
    (hdone : runTask = .done → runTask' = .done) : pc.Fits d cancel' runTask' := by
  cases pc with
  | awaiting woken => exact ⟨hadvance.closed h.1, fun hwoken => hdone (h.2 hwoken)⟩
  | cancelling runFailed =>
      rcases h with hrequested | hover
      · exact hcancel hrequested
      · exact Or.inr (hdone hover)
  | sampling runFailed => exact hdone h
  | finishing target pc =>
      exact ⟨hdone h.1, hadvance.closed h.2.1, FinishPc.Fits.advance h.2.2 h.2.1 hadvance⟩
  | returned value => trivial
  | raised message => trivial

namespace TrafficTasks

/-- Every task is where the phase of the run lets it be. -/
structure Structured (s : TrafficTasks) : Prop where
  controlled : Controlled s.controller
  run : s.runTask.Fits s.controller s.cancelRequested
  frozen : s.controller.frozenResults ≠ [] → s.runTask = .done
  callers : ∀ caller ∈ s.callers,
    caller.pc.Fits s.controller s.cancelRequested s.runTask

variable {strict : Prop} {s t u : TrafficTasks}

/-- A change that begins no finalization, freezes nothing and persists nothing. -/
structure Neutral (strict : Prop) (s t : TrafficTasks) : Prop where
  advance : Advance strict s.controller t.controller
  finalizationDone : t.controller.finalizationDone = s.controller.finalizationDone
  frozen : t.controller.frozenResults.length = s.controller.frozenResults.length
  runTask : t.runTask = s.runTask
  callers : t.callers = s.callers
  persistCalls : t.persistCalls = s.persistCalls
  exported : t.exported = s.exported
  cancelRequested : t.cancelRequested = s.cancelRequested

theorem Neutral.refl (h : Controlled s.controller) : Neutral strict s s :=
  ⟨.refl h, rfl, rfl, rfl, rfl, rfl, rfl, rfl⟩

theorem Neutral.trans (hfirst : Neutral strict s t) (hsecond : Neutral strict t u) :
    Neutral strict s u where
  advance := hfirst.advance.trans hsecond.advance
  finalizationDone := hsecond.finalizationDone.trans hfirst.finalizationDone
  frozen := hsecond.frozen.trans hfirst.frozen
  runTask := hsecond.runTask.trans hfirst.runTask
  callers := hsecond.callers.trans hfirst.callers
  persistCalls := hsecond.persistCalls.trans hfirst.persistCalls
  exported := hsecond.exported.trans hfirst.exported
  cancelRequested := hsecond.cancelRequested.trans hfirst.cancelRequested

/-- A change of the controller under the same frame. -/
theorem Neutral.of_frame {c : TrafficController} (hadvance : Advance strict s.controller c)
    (hframe : c.frame = s.controller.frame) : Neutral strict s (s.withController c) where
  advance := hadvance
  finalizationDone := congrArg Frame.finalizationDone hframe
  frozen := congrArg Frame.frozen hframe
  runTask := rfl
  callers := rfl
  persistCalls := rfl
  exported := rfl
  cancelRequested := rfl

/-- A change of the control of the run that neither opens nor closes it. -/
theorem Neutral.of_control {c : TrafficController} (h : Controlled s.controller)
    (hrun : c.run = s.controller.run) (haccumulators : c.accumulators = s.controller.accumulators)
    (hids : c.packetIds = s.controller.packetIds)
    (hscenario : c.runScenario = s.controller.runScenario)
    (hfrozen : c.frozenResults = s.controller.frozenResults)
    (hclosed : c.Closed ↔ s.controller.Closed)
    (hdone : c.finalizationDone = s.controller.finalizationDone) :
    Neutral strict s (s.withController c) := by
  refine ⟨?_, hdone, congrArg List.length hfrozen, rfl, rfl, rfl, rfl, rfl⟩
  refine .of_control h hrun haccumulators hids hscenario hfrozen hclosed ?_
  intro hactive
  exact hclosed.mpr (h.active (hdone.symm.trans hactive))

/-- A write through `self.current` that a result shows nothing of. -/
theorem Neutral.modifyCurrent (h : Controlled s.controller)
    {f : TrafficRunResult → TrafficRunResult} (hkeeps : KeepsMirror f) :
    Neutral strict s (s.withController (s.controller.modifyCurrent f)) :=
  .of_frame (.modifyCurrent h hkeeps) (frame_modifyCurrent _ hkeeps)

/-! ## Positions after a neutral change -/

/-- A run task stays where its phase lets it be while the phase is the same. -/
theorem Neutral.runFits (hrun : s.runTask.Fits s.controller s.cancelRequested)
    (hneutral : Neutral strict s t) (hphase : t.controller.phase = s.controller.phase) :
    t.runTask.Fits t.controller t.cancelRequested := by
  rw [hneutral.runTask]
  cases hpc : s.runTask with
  | done => trivial
  | finishing target pc =>
      rw [hpc] at hrun
      obtain ⟨hactive, hfits, hfinalizing, hdone, hcancel⟩ := hrun
      refine ⟨hactive,
        FinishPc.Fits.advance hfits (Or.inl hfinalizing) hneutral.advance, ?_, ?_, ?_⟩
      · rw [hphase, hfinalizing]
      · rw [hneutral.finalizationDone, hdone]
      · rw [hneutral.cancelRequested, hcancel]
  | sending source ref =>
      rw [hpc] at hrun
      exact ⟨hphase.trans hrun.1, hrun.2.entries hneutral.advance.entries⟩
  | _ =>
      rw [hpc] at hrun
      exact hphase.trans hrun

/-! ## `_finish` -/

/-- What a call of `_finish` that holds a finalization does next. -/
inductive Resumed (s : TrafficTasks) : FinishPc → TrafficTasks → FinishOutcome → Prop where
  | handed (captured : Nat) (c : TrafficController) (terminal : TrafficRunResult)
      (hview : c.view = s.controller.view)
      (hfrozen : c.frozenResults = s.controller.frozenResults)
      (hmirrors : Mirrors s.controller.view terminal) :
      Resumed s (.computing captured)
        { s with controller := c, persistCalls := terminal :: s.persistCalls }
        (.suspended (.persisting terminal))
  | unpersisted (terminal failed : TrafficRunResult)
      (hmirrors : Mirrors s.controller.view failed) :
      Resumed s (.persisting terminal) { s with exported := none } (.suspended (.copying failed))
  | persisted (terminal : TrafficRunResult) :
      Resumed s (.persisting terminal)
        ({ s with controller := s.controller.freeze terminal, exported := some terminal }).wake
        (.returned true)
  | copied (terminal : TrafficRunResult) :
      Resumed s (.copying terminal)
        ({ s with controller := s.controller.freeze terminal }).wake (.returned true)

/-- What `_finish` captured has the messages and the identity of the run. -/
theorem capturedResult_copies {c : TrafficController} (h : Controlled c) {captured : Nat}
    {result : TrafficRunResult} (hcaptured : capturedResult c captured = some result) :
    result.generatedMessages = c.messages ∧
      c.frame.request = some (result.runId, result.request) := by
  cases captured with
  | zero =>
      change c.run = some result at hcaptured
      simp [messages, frame, hcaptured]
  | succ captured =>
      have hmember : result ∈ c.frozenResults :=
        List.mem_reverse.mp (List.mem_of_getElem? hcaptured)
      exact ⟨(h.mirrored result hmember).messages, (h.mirrored result hmember).identity⟩

theorem resumed_of_active (h : Controlled s.controller) {pc : FinishPc}
    (hactive : pc.active = true) (hfits : pc.Fits s.controller) {m : Moment}
    {target : TrafficRunState} {input : FinishInput} {outcome : FinishOutcome}
    (hresume : s.resumeFinish m target pc input = some (t, outcome)) :
    Resumed s pc t outcome := by
  cases pc with
  | awaiting woken => cases hactive
  | computing captured =>
      obtain ⟨metrics, hmetrics⟩ := finalMetrics_ok h.agreement
      cases input with
      | computed =>
          unfold resumeFinish at hresume
          dsimp only at hresume
          split at hresume
          · next hraised =>
              rw [hmetrics] at hraised
              cases hraised
          · cases hresume
          · next hcomputed hcaptured =>
              cases hresume
              obtain ⟨hmessages, hidentity⟩ := capturedResult_copies h hcaptured
              refine .handed captured _ _ (view_publishMetricUpdate _ _ _ _) ?_
                (mirrors_terminalResult hmessages hidentity
                  (metered_finalMetrics h.agreement hcomputed) _ _)
              unfold publishMetricUpdate
              split
              · rfl
              · split <;> rfl
      | _ => cases hresume
  | persisting terminal =>
      cases input with
      | persisted =>
          cases hresume
          exact .persisted terminal
      | persistenceRaised exception =>
          cases hresume
          exact .unpersisted terminal _ (mirrors_persistenceFailed hfits exception)
      | _ => cases hresume
  | copying terminal =>
      cases input with
      | copied =>
          cases hresume
          exact .copied terminal
      | _ => cases hresume

/-- A call of `_finish` returns, waits for a finalization under way or begins one. -/
theorem enterFinish_cases (s : TrafficTasks) (m : Moment) :
    (∃ value, s.enterFinish m = (s, .returned value)) ∨
    (s.controller.finalizationDone = false ∧
      s.enterFinish m = (s, .suspended (.awaiting false))) ∨
    (s.controller.frozenResults = [] ∧ s.controller.finalizationDone = true ∧
      s.enterFinish m = s.proceedFinish m) := by
  unfold enterFinish
  dsimp only
  split
  · exact Or.inl ⟨true, rfl⟩
  · next hcurrent =>
      split
      · next hdone =>
          refine Or.inr (Or.inr ⟨?_, hdone, rfl⟩)
          rw [not_or, not_not] at hcurrent
          exact List.head?_eq_none_iff.mp hcurrent.2
      · next hactive =>
          split
          · exact Or.inl ⟨false, rfl⟩
          · exact Or.inr (Or.inl ⟨by simpa using hactive, rfl⟩)

/-! ## `stop` and `fail` -/

/-- A call of `_finish` that the end of a finalization has woken. -/
def FinishPc.woken : FinishPc → Bool
  | .awaiting woken => woken
  | _ => false

/-- A call of `stop` or `fail` whose `_finish` has been woken. -/
def CallerPc.woken : CallerPc → Bool
  | .finishing _ pc => FinishPc.woken pc
  | _ => false

/-- What a call of `stop` or `fail` that holds no finalization does up to its next
suspension. -/
inductive CallMove (strict : Prop) (s : TrafficTasks) : TrafficTasks × CallerPc → Prop where
  | idle (t : TrafficTasks) (pc : CallerPc) (hneutral : Neutral strict s t)
      (hphase : t.controller.phase = s.controller.phase) (hidle : pc.active = false)
      (hwoken : CallerPc.woken pc = false)
      (hfits : pc.Fits t.controller t.cancelRequested t.runTask) :
      CallMove strict s (t, pc)
  | cancels (t : TrafficTasks) (runFailed : Bool) (hneutral : Neutral strict s t)
      (hphase : t.controller.phase = s.controller.phase)
      (hdone : t.controller.finalizationDone = true) :
      CallMove strict s ({ t with cancelRequested := true }, .cancelling runFailed)
  | begin (t : TrafficTasks) (target : TrafficRunState) (m : Moment)
      (hneutral : Neutral strict s t)
      (hphase : t.controller.phase = s.controller.phase) (hover : t.runTask = .done)
      (hopen : t.controller.frozenResults = []) (hdone : t.controller.finalizationDone = true) :
      CallMove strict s ({ t with controller := t.controller.beginFinalization m },
        .finishing target (.computing t.controller.frozenResults.length))

theorem CallMove.after {entry : TrafficTasks × CallerPc} (hneutral : Neutral strict s t)
    (hphase : t.controller.phase = s.controller.phase) (hmove : CallMove strict t entry) :
    CallMove strict s entry := by
  cases hmove with
  | idle u pc hneutral' hphase' hidle hwoken hfits =>
      exact .idle u pc (hneutral.trans hneutral') (hphase'.trans hphase) hidle hwoken hfits
  | cancels u runFailed hneutral' hphase' hdone =>
      exact .cancels u runFailed (hneutral.trans hneutral') (hphase'.trans hphase) hdone
  | begin u target m hneutral' hphase' hover hopen hdone =>
      exact .begin u target m (hneutral.trans hneutral') (hphase'.trans hphase) hover hopen hdone

/-- The call returns. -/
theorem CallMove.returned (h : Controlled s.controller) (value : Bool) :
    CallMove strict s (s, .returned value) :=
  .idle s _ (.refl h) rfl rfl rfl trivial

theorem callMove_finish (h : Controlled s.controller) (hover : s.runTask = .done) (m : Moment)
    (target : TrafficRunState) :
    CallMove strict s ((s.enterFinish m).1, callerAfter target (s.enterFinish m).2) := by
  rcases enterFinish_cases s m with ⟨value, hreturned⟩ | ⟨hactive, hwaits⟩ | ⟨hopen, hdone, hbegins⟩
  · rw [hreturned]
    exact .returned h value
  · rw [hwaits]
    exact .idle s _ (.refl h) rfl rfl rfl ⟨hover, h.active hactive, trivial⟩
  · rw [hbegins]
    exact .begin s target m (.refl h) rfl hover hopen hdone

theorem callMove_afterSampling (h : Controlled s.controller) (hover : s.runTask = .done)
    (m : Moment) (kind : CallerKind) (runFailed : Bool) :
    CallMove strict s (s.afterSampling m kind runFailed) := by
  unfold afterSampling
  split
  · exact .returned h true
  · exact callMove_finish h hover m _

theorem callMove_afterCancel (h : Controlled s.controller) (hover : s.runTask = .done)
    (m : Moment) (kind : CallerKind) (runFailed : Bool) :
    CallMove strict s (s.afterCancel m kind runFailed) := by
  have hpending : ∀ t : TrafficTasks, Controlled t.controller → t.runTask = .done →
      CallMove strict t (if t.controller.failedReceptionSampler then (t, .sampling runFailed)
        else t.afterSampling m kind runFailed) := by
    intro t ht hover
    split
    · exact .idle t _ (.refl ht) rfl rfl rfl hover
    · exact callMove_afterSampling ht hover m kind runFailed
  unfold afterCancel
  dsimp only
  split
  · exact hpending s h hover
  · obtain ⟨hadvance, hframe⟩ : Advance strict _ _ ∧ _ :=
      advance_finalizePendingSubmissions h m
    have hneutral := Neutral.of_frame (s := s) hadvance hframe
    exact (hpending (s.withController _) hadvance.controlled hover).after hneutral
      (congrArg Frame.phase hframe)

theorem callMove_cancelRunTask (h : Controlled s.controller)
    (hdone : s.runTask ≠ .done → s.controller.finalizationDone = true) (m : Moment)
    (kind : CallerKind) (runFailed : Bool) :
    CallMove strict s (s.cancelRunTask m kind runFailed) := by
  unfold cancelRunTask
  split
  · next hover => exact callMove_afterCancel h hover m kind runFailed
  · next hrunning => exact .cancels s runFailed (.refl h) rfl (hdone hrunning)

/-- A change of the state of the run is neutral. -/
theorem neutral_setState (h : Controlled s.controller) (state : TrafficRunState) :
    Neutral strict s (s.withController { s.controller with state := state }) :=
  .of_control h rfl rfl rfl rfl rfl Iff.rfl rfl

theorem callMove_afterWait (h : Controlled s.controller)
    (hdone : s.runTask ≠ .done → s.controller.finalizationDone = true) (m : Moment)
    (kind : CallerKind) : CallMove strict s (s.afterWait m kind) := by
  have hstopping : Neutral strict s _ := neutral_setState h .stopping
  unfold afterWait
  cases kind with
  | stop =>
      dsimp only
      split
      · exact callMove_cancelRunTask h hdone m .stop true
      · split
        · exact .returned h true
        · refine CallMove.after hstopping rfl ?_
          exact callMove_cancelRunTask hstopping.advance.controlled hdone m .stop false
  | fail reason =>
      dsimp only
      split
      · exact .returned h true
      · have hfailure := hstopping.trans
          (.modifyCurrent hstopping.advance.controlled (keeps_failure (some reason)))
        refine CallMove.after hfailure
          (congrArg Frame.phase (frame_modifyCurrent _ (keeps_failure (some reason)))) ?_
        refine callMove_cancelRunTask hfailure.advance.controlled ?_ m (.fail reason) false
        intro hrunning
        rw [hfailure.finalizationDone]
        exact hdone hrunning

theorem callMove_enterCall (h : Structured s) (m : Moment) (kind : CallerKind) :
    CallMove strict s (s.enterCall m kind) := by
  unfold enterCall
  dsimp only
  split
  · exact .returned h.controlled true
  · split
    · next hdone => exact callMove_afterWait h.controlled (fun _ => hdone) m kind
    · next hactive =>
        split
        · exact .returned h.controlled false
        · have hclosed := h.controlled.active (by simpa using hactive)
          exact .idle s _ (.refl h.controlled) rfl rfl rfl ⟨hclosed, fun hwoken => by cases hwoken⟩

/-- A wait that times out is neutral. -/
theorem neutral_timedOut (h : Controlled s.controller) :
    Neutral strict s
      (s.withController { s.controller with finalizationWaitTimedOut := true }) :=
  .of_control h rfl rfl rfl rfl rfl Iff.rfl rfl

/-- What a call of `stop` or `fail` can do from where it is suspended.  A woken
`_finish` goes on only when it may. -/
inductive ResumeMove (strict mayResume : Prop) (s : TrafficTasks) (pc : CallerPc) :
    TrafficTasks × CallerPc → Prop where
  | call (entry : TrafficTasks × CallerPc) (hidle : pc.active = false)
      (hmove : CallMove strict s entry) : ResumeMove strict mayResume s pc entry
  | woken (target : TrafficRunState) (m : Moment)
      (hpc : pc = .finishing target (.awaiting true)) (hmay : mayResume) :
      ResumeMove strict mayResume s pc ({ s with controller := s.controller.beginFinalization m },
        .finishing target (.computing s.controller.frozenResults.length))
  | finish (target : TrafficRunState) (held : FinishPc) (t : TrafficTasks)
      (outcome : FinishOutcome) (hpc : pc = .finishing target held)
      (hresumed : Resumed s held t outcome) :
      ResumeMove strict mayResume s pc (t, callerAfter target outcome)

/-- The end of its wait is what the call of `_finish` resumes with. -/
def CallerInput.wakesFinish : CallerInput → Bool
  | .finish .woken => true
  | _ => false

theorem resumeMove_resumeCall {mayResume : Prop} (h : Controlled s.controller) {m : Moment}
    {kind : CallerKind} {pc : CallerPc}
    (hfits : pc.Fits s.controller s.cancelRequested s.runTask) {input : CallerInput}
    {entry : TrafficTasks × CallerPc}
    (hmay : CallerPc.woken pc = true → CallerInput.wakesFinish input = true → mayResume)
    (hresume : s.resumeCall m kind pc input = some entry) :
    ResumeMove strict mayResume s pc entry := by
  cases pc with
  | awaiting woken =>
      have htimeout : CallMove strict s (s.withController
          { s.controller with finalizationWaitTimedOut := true }, .returned false) :=
        .idle _ _ (neutral_timedOut h) rfl rfl rfl trivial
      cases input with
      | woken =>
          cases woken with
          | true =>
              cases hresume
              exact .call _ rfl
                (callMove_afterWait h (fun hrunning => absurd (hfits.2 rfl) hrunning) m kind)
          | false => cases hresume
      | timeout =>
          cases woken <;> cases hresume <;> exact .call _ rfl htimeout
      | _ => cases woken <;> cases hresume
  | cancelling runFailed =>
      cases input with
      | runTaskDone =>
          unfold resumeCall at hresume
          dsimp only at hresume
          split at hresume
          · next hover =>
              cases hresume
              exact .call _ rfl (callMove_afterCancel h hover m kind runFailed)
          · cases hresume
      | _ => cases hresume
  | sampling runFailed =>
      cases input with
      | sampled answer =>
          cases hresume
          obtain ⟨hadvance, hframe⟩ : Advance strict _ _ ∧ _ :=
            advance_applyFinalSample h m answer
          have hneutral := Neutral.of_frame (s := s) hadvance hframe
          refine .call _ rfl (CallMove.after hneutral (congrArg Frame.phase hframe) ?_)
          exact callMove_afterSampling (s := s.withController _) hadvance.controlled hfits m kind
            runFailed
      | _ => cases hresume
  | finishing target held =>
      obtain ⟨hover, hclosed, hheld⟩ := hfits
      cases input with
      | finish input =>
          obtain ⟨⟨t, outcome⟩, hfinish, rfl⟩ := Option.map_eq_some_iff.mp hresume
          cases held with
          | awaiting woken =>
              have htimeout : CallMove strict s (s.withController
                  { s.controller with finalizationWaitTimedOut := true }, .returned false) :=
                .idle _ _ (neutral_timedOut h) rfl rfl rfl trivial
              cases input with
              | woken =>
                  cases woken with
                  | true =>
                      cases hfinish
                      exact .woken target m rfl (hmay rfl rfl)
                  | false => cases hfinish
              | timeout => cases woken <;> cases hfinish <;> exact .call _ rfl htimeout
              | _ => cases woken <;> cases hfinish
          | _ => exact .finish target _ t outcome rfl (resumed_of_active h rfl hheld hfinish)
      | _ => cases hresume
  | returned value => cases input <;> cases hresume
  | raised message => cases input <;> cases hresume

/-! ## The run task -/

/-- What the run task does up to its next suspension. -/
inductive RunMove (strict : Prop) (s : TrafficTasks) : TrafficTasks → Prop where
  | idle (t : TrafficTasks) (pc : RunPc) (hneutral : Neutral strict s t)
      (hfree : s.runTask.active = false) (hidle : pc.active = false)
      (hfits : pc.Fits t.controller t.cancelRequested) :
      RunMove strict s { t with runTask := pc }
  | begin (t : TrafficTasks) (target : TrafficRunState) (m : Moment)
      (hneutral : Neutral strict s t) (hfree : s.runTask.active = false)
      (hopen : ¬t.controller.Closed) :
      RunMove strict s
        { t with
          controller := t.controller.beginFinalization m
          runTask := .finishing target (.computing t.controller.frozenResults.length) }
  | finish (target : TrafficRunState) (held : FinishPc) (m : Moment) (t : TrafficTasks)
      (outcome : FinishOutcome) (hpc : s.runTask = .finishing target held)
      (hresumed : Resumed s held t outcome) :
      RunMove strict s (t.runAfterFinish m target outcome)

theorem RunMove.after (hneutral : Neutral strict s t) (hmove : RunMove strict t u)
    (hidle : t.runTask.active = false) : RunMove strict s u := by
  cases hmove with
  | idle v pc hneutral' hfree hidle' hfits =>
      rw [hneutral.runTask] at hfree
      exact .idle v pc (hneutral.trans hneutral') hfree hidle' hfits
  | begin v target m hneutral' hfree hopen =>
      rw [hneutral.runTask] at hfree
      exact .begin v target m (hneutral.trans hneutral') hfree hopen
  | finish target held m v outcome hpc hresumed =>
      rw [hpc] at hidle
      cases hresumed <;> cases hidle

theorem not_closed_of_generating {c : TrafficController} (hphase : c.phase = .generating) :
    ¬c.Closed := by
  unfold Closed
  simp [hphase]

theorem not_closed_of_draining {c : TrafficController} (hphase : c.phase = .draining) :
    ¬c.Closed := by
  unfold Closed
  simp [hphase]

theorem runMove_runFinish (h : Controlled s.controller) (hopen : ¬s.controller.Closed)
    (hidle : s.runTask.active = false) (m : Moment) (target : TrafficRunState) :
    RunMove strict s (s.runFinish m target) := by
  unfold runFinish
  dsimp only
  rcases enterFinish_cases s m with ⟨value, hreturned⟩ | ⟨hactive, _⟩ | ⟨_, _, hbegins⟩
  · rw [hreturned]
    exact .idle s .done (.refl h) hidle rfl trivial
  · exact absurd (h.active hactive) hopen
  · rw [hbegins]
    exact .begin s target m (.refl h) hidle hopen

theorem runMove_runFailed (h : Controlled s.controller) (hopen : ¬s.controller.Closed)
    (hidle : s.runTask.active = false) (m : Moment) (exception : String) :
    RunMove strict s (s.runFailed m exception) := by
  have hstopping : Neutral strict s _ := neutral_setState h .stopping
  have hfailure := hstopping.trans
    (.modifyCurrent hstopping.advance.controlled (keeps_failure (some exception)))
  have hframe := frame_modifyCurrent { s.controller with state := .stopping }
    (keeps_failure (some exception))
  have hstill : ¬({ s.controller with state := .stopping }.modifyCurrent
      fun run => { run with failure := some exception }).Closed := by
    unfold Closed
    rw [show TrafficController.phase _ = _ from congrArg Frame.phase hframe]
    exact hopen
  exact .after hfailure
    (runMove_runFinish (s := s.withController _) hfailure.advance.controlled hstill hidle m
      .failed)
    hidle

theorem runMove_afterDrain (h : Controlled s.controller)
    (hphase : s.controller.phase = .draining) (hidle : s.runTask.active = false) (m : Moment) :
    RunMove strict s (s.afterDrain m) := by
  have hended : Neutral strict s (s.withController s.controller.endDrain) :=
    .of_control h rfl rfl rfl rfl rfl Iff.rfl rfl
  unfold afterDrain
  dsimp only
  split
  · exact .idle _ .sampling hended hidle rfl hphase
  · refine .after hended ?_ hidle
    exact runMove_runFinish (s := s.withController _) hended.advance.controlled
      (not_closed_of_draining hphase) hidle m .completed

/-- What is pending is finalized before the drain ends. -/
theorem runMove_expired (h : Controlled s.controller)
    (hphase : s.controller.phase = .draining) (hidle : s.runTask.active = false) (m : Moment) :
    RunMove strict s
      ({ s with controller := s.controller.finalizePendingSubmissions m }.afterDrain m) := by
  obtain ⟨hadvance, hframe⟩ : Advance strict _ _ ∧ _ := advance_finalizePendingSubmissions h m
  refine .after (Neutral.of_frame (s := s) hadvance hframe) ?_ hidle
  exact runMove_afterDrain (s := s.withController _) hadvance.controlled
    ((congrArg Frame.phase hframe).trans hphase) hidle m

theorem runMove_enterDrain (h : Controlled s.controller)
    (hphase : s.controller.phase = .generating) (hidle : s.runTask.active = false)
    (m : Moment) : RunMove strict s (s.enterDrain m) := by
  have hopen := not_closed_of_generating hphase
  have hdrains : Neutral strict s (s.withController (s.controller.beginDrain m)) := by
    refine .of_control h rfl rfl rfl rfl rfl ?_ rfl
    exact ⟨fun hclosed => absurd hclosed (not_closed_of_draining rfl),
      fun hclosed => absurd hclosed hopen⟩
  have hcontrolled := hdrains.advance.controlled
  unfold enterDrain
  dsimp only
  split
  · exact .idle _ _ hdrains hidle rfl rfl
  · split
    · exact .after hdrains
        (runMove_afterDrain (s := s.withController _) hcontrolled rfl hidle m) hidle
    · exact .after hdrains
        (runMove_expired (s := s.withController _) hcontrolled rfl hidle m) hidle
    · have hwaits : Neutral strict s (s.withController
          { s.controller.beginDrain m with activityChanged := false }) :=
        hdrains.trans (.of_control hcontrolled rfl rfl rfl rfl rfl Iff.rfl rfl)
      exact .idle _ _ hwaits hidle rfl rfl

/-- Handlers that the run task calls while the run is open. -/
theorem neutral_of_books {c : TrafficController} (h : Controlled s.controller)
    (hopen : ¬s.controller.Closed) (hbooks : Books strict s.controller c) :
    Neutral strict s (s.withController c) :=
  .of_frame (.of_gated h hbooks fun hclosed => absurd hclosed hopen) hbooks.frame

theorem runMove_runSubmit (pb : Protobuf) (h : Controlled s.controller)
    (hphase : s.controller.phase = .generating) (hidle : s.runTask.active = false)
    {m : Moment} {flow source pick : Nat} {draws : List Nat}
    (hsubmit : s.runSubmit pb m flow source pick draws = some t) : RunMove strict s t := by
  have hopen := not_closed_of_generating hphase
  have hfrozen := h.open hopen
  unfold runSubmit at hsubmit
  obtain ⟨run, hcurrent, hsubmit⟩ := Option.bind_eq_some_iff.mp hsubmit
  obtain ⟨flow, hflow, hsubmit⟩ := Option.bind_eq_some_iff.mp hsubmit
  obtain ⟨source, hsource, hsubmit⟩ := Option.bind_eq_some_iff.mp hsubmit
  rw [current_of_open hfrozen] at hcurrent
  have hknown : source ∈ s.controller.view.nodeIds :=
    h.planned run.runId run.request (by simp [frame, hcurrent]) flow
      (List.mem_of_getElem? hflow) source (List.mem_of_getElem? hsource)
  split at hsubmit
  · cases hsubmit
    exact runMove_runFailed h hopen hidle m _
  · obtain ⟨⟨c, outcome⟩, hcall, hsubmit⟩ := Option.bind_eq_some_iff.mp hsubmit
    obtain ⟨hbooks, hsent⟩ : Books strict _ _ ∧ _ := books_submit hfrozen hcall fun _ => hknown
    have hneutral := neutral_of_books h hopen hbooks
    have hsame : c.phase = .generating := (congrArg Frame.phase hbooks.frame).trans hphase
    cases outcome with
    | error error =>
        cases hsubmit
        exact .after hneutral (runMove_runFailed (s := s.withController _)
          hneutral.advance.controlled (not_closed_of_generating hsame) hidle m _) hidle
    | ok sent =>
        cases sent with
        | none => cases hsubmit
        | some sent =>
            cases hsubmit
            exact .idle _ (.sending source sent.1) hneutral hidle rfl
              ⟨hsame, hsent sent.1 sent.2 rfl⟩

theorem runMove_resumeRun (pb : Protobuf) (h : Controlled s.controller)
    (hrun : s.runTask.Fits s.controller s.cancelRequested)
    (hadmitted : strict → s.controller.view.Admitted) {m : Moment} {input : RunInput}
    (hresume : s.resumeRun pb m s.runTask input = some t) : RunMove strict s t := by
  cases hpc : s.runTask with
  | scheduled =>
      rw [hpc] at hresume hrun
      cases input with
      | begun =>
          cases hresume
          exact .idle s .sleeping (.refl h) (by rw [hpc]; rfl) rfl hrun
      | _ => cases hresume
  | sleeping =>
      rw [hpc] at hresume hrun
      cases input with
      | submit flow source pick draws =>
        exact runMove_runSubmit pb h hrun (by rw [hpc]; rfl) hresume
      | _ => cases hresume
  | sending source ref =>
      rw [hpc] at hresume hrun
      obtain ⟨hphase, hsent⟩ := hrun
      have hopen := not_closed_of_generating hphase
      cases input with
      | sent exception last =>
          obtain ⟨c, hbooks, hsame⟩ : ∃ c, Books strict s.controller c ∧
              s.resumeRun pb m (.sending source ref) (.sent exception last) =
                if last then some ((s.withController c).enterDrain m)
                else some { s.withController c with runTask := .sleeping } := by
            cases exception with
            | none => exact ⟨_, .refl _, rfl⟩
            | some exception =>
                exact ⟨_, books_submitFailed (h.open hopen) m source ref exception hsent hadmitted,
                  rfl⟩
          have hneutral := neutral_of_books h hopen hbooks
          have hgenerating : c.phase = .generating :=
            (congrArg Frame.phase hbooks.frame).trans hphase
          have hidle : s.runTask.active = false := by
            rw [hpc]
            rfl
          rw [hsame] at hresume
          split at hresume
          · cases hresume
            exact .after hneutral (runMove_enterDrain (s := s.withController _)
              hneutral.advance.controlled hgenerating hidle m) hidle
          · cases hresume
            exact .idle _ .sleeping hneutral hidle rfl hgenerating
      | _ => cases hresume
  | settling =>
      rw [hpc] at hresume hrun
      cases input with
      | drained =>
          cases hresume
          exact runMove_expired h hrun (by rw [hpc]; rfl) m
      | _ => cases hresume
  | draining deadline =>
      rw [hpc] at hresume hrun
      have hidle : s.runTask.active = false := by
        rw [hpc]
        rfl
      cases input with
      | drained =>
          unfold resumeRun at hresume
          dsimp only at hresume
          split at hresume
          · cases hresume
            exact runMove_afterDrain h hrun hidle m
          · cases hresume
            exact runMove_expired h hrun hidle m
          · cases hresume
            have hwaits : Neutral strict s
                (s.withController { s.controller with activityChanged := false }) :=
              .of_control h rfl rfl rfl rfl rfl Iff.rfl rfl
            have hstays := RunMove.idle _ (.draining deadline) hwaits hidle rfl hrun
            rw [← hpc] at hstays
            exact hstays
      | _ => cases hresume
  | sampling =>
      rw [hpc] at hresume hrun
      cases input with
      | sampled answer =>
          cases hresume
          obtain ⟨hadvance, hframe⟩ : Advance strict _ _ ∧ _ :=
            advance_applyFinalSample h m answer
          have hopen : ¬(s.controller.applyFinalSample m answer).Closed :=
            not_closed_of_draining ((congrArg Frame.phase hframe).trans hrun)
          have hidle : s.runTask.active = false := by
            rw [hpc]
            rfl
          refine .after (Neutral.of_frame (s := s) hadvance hframe) ?_ hidle
          exact runMove_runFinish (s := s.withController _) hadvance.controlled hopen hidle m
            .completed
      | _ => cases hresume
  | finishing target held =>
      rw [hpc] at hresume hrun
      obtain ⟨hactive, hfits, _⟩ := hrun
      cases input with
      | finish input =>
          obtain ⟨⟨u, outcome⟩, hfinish, rfl⟩ := Option.map_eq_some_iff.mp hresume
          exact .finish target held m u outcome hpc (resumed_of_active h hactive hfits hfinish)
      | _ => cases hresume
  | done =>
      rw [hpc] at hresume
      cases input <;> cases hresume

/-! ## Steps -/

/-- What a step that starts no run does. -/
inductive Move (strict mayResume : Prop) (s : TrafficTasks) : TrafficTasks → Prop where
  | event (t : TrafficTasks) (hneutral : Neutral strict s t)
      (hphase : t.controller.phase = s.controller.phase) : Move strict mayResume s t
  | run (t : TrafficTasks) (hactive : s.runTask ≠ .done) (hcancel : s.cancelRequested = false)
      (hmove : RunMove strict s t) : Move strict mayResume s t
  | cancelled (t : TrafficTasks) (hneutral : Neutral strict s t)
      (hidle : s.runTask.active = false) : Move strict mayResume s { t with runTask := .done }
  | call (kind : CallerKind) (entry : TrafficTasks × CallerPc)
      (hmove : CallMove strict s entry) :
      Move strict mayResume s
        { entry.1 with callers := entry.1.callers ++ [{ kind := kind, pc := entry.2 }] }
  | resume (i : Nat) (caller : Caller) (entry : TrafficTasks × CallerPc)
      (hget : s.callers[i]? = some caller) (hmove : ResumeMove strict mayResume s caller.pc entry) :
      Move strict mayResume s
        { entry.1 with callers := entry.1.callers.set i { caller with pc := entry.2 } }

/-- An event that a closed run does not admit. -/
theorem move_of_gated {mayResume : Prop} (h : Controlled s.controller) {c : TrafficController}
    (hbooks : Books strict s.controller c) (hstill : s.controller.Closed → c = s.controller) :
    Move strict mayResume s (s.withController c) :=
  .event _ (.of_frame (.of_gated h hbooks hstill) hbooks.frame)
    (congrArg Frame.phase hbooks.frame)

/-- The run task ends when it observes its cancellation; it holds no finalization
then. -/
theorem move_cancelled {mayResume : Prop} (h : Structured s)
    (hrequested : s.cancelRequested = true) : Move strict mayResume s s.cancelled := by
  have hended : Neutral strict s (s.withController s.controller.endDrain) :=
    .of_control h.controlled rfl rfl rfl rfl rfl Iff.rfl rfl
  have hrun := h.run
  unfold cancelled
  cases hpc : s.runTask with
  | settling => exact .cancelled _ hended (by rw [hpc]; rfl)
  | draining deadline => exact .cancelled _ hended (by rw [hpc]; rfl)
  | finishing target held =>
      rw [hpc] at hrun
      obtain ⟨_, _, _, _, hcancel⟩ := hrun
      rw [hrequested] at hcancel
      cases hcancel
  | _ => exact .cancelled s (.refl h.controlled) (by rw [hpc]; rfl)

/-- The message from a radio that an action hands to `handle_from_radio`, and its node. -/
def Action.report : Action → Option (String × FromRadio)
  | .fromRadio _ nodeId message => some (nodeId, message)
  | _ => none

/-- `handle_from_radio` is called with node ids of the run scenario. -/
def FromScenario (s : TrafficTasks) (a : Action) : Prop :=
  ∀ report ∈ a.report, report.1 ∈ s.controller.runScenario.nodeIds

/-- A message from a radio attributes its rejection to the submission. -/
def AttributesRejection (pb : Protobuf) (s : TrafficTasks) (a : Action) : Prop :=
  ∀ report ∈ a.report, Attributed pb s.controller report.1 report.2

/-- The condition on a step under which the pending submissions stay in step with
the messages. -/
def Attributes (pb : Protobuf) (s : TrafficTasks) (a : Action) : Prop :=
  FromScenario s a ∧ AttributesRejection pb s a

instance (s : TrafficTasks) (a : Action) : Decidable (FromScenario s a) :=
  inferInstanceAs (Decidable (∀ report ∈ a.report, report.1 ∈ s.controller.runScenario.nodeIds))

instance (pb : Protobuf) (s : TrafficTasks) (a : Action) : Decidable (Attributes pb s a) :=
  inferInstanceAs (Decidable ((∀ report ∈ a.report, report.1 ∈ s.controller.runScenario.nodeIds) ∧
    ∀ report ∈ a.report, Attributed pb s.controller report.1 report.2))

/-- The state is one in which a run has just started. -/
structure Started (s t : TrafficTasks) : Prop where
  begun : Begun t.controller
  finalizationDone : t.controller.finalizationDone = s.controller.finalizationDone
  isOver : s.runTask = .done ∧ ∀ caller ∈ s.callers, CallerPc.isOver caller.pc = true
  runTask : t.runTask = .scheduled
  cancelRequested : t.cancelRequested = false
  callers : t.callers = []
  persistCalls : t.persistCalls = []
  exported : t.exported = none

/-- The action resumes a call of `_finish` that the end of a finalization has woken. -/
def resumesWoken (s : TrafficTasks) : Action → Bool
  | .resume i _ input =>
      CallerInput.wakesFinish input && s.callers[i]?.any fun caller => CallerPc.woken caller.pc
  | _ => false

/-- The action hands something to the controller and moves no task. -/
def Action.isEvent : Action → Bool
  | .fromRadio .. => true
  | .rfTransmission .. => true
  | .drop .. => true
  | .failedReceptions .. => true
  | .duplicateReceptions .. => true
  | .eventLoopLag .. => true
  | .topologyChange .. => true
  | _ => false

/-- What is handed to the controller makes entries, and a closed run does not admit it. -/
theorem event_step (strict : Prop) (pb : Protobuf) (hc : Controlled s.controller) {a : Action}
    (hevent : a.isEvent = true) (hattributes : strict → Attributes pb s a)
    (hstep : step pb s a = some t) :
    ∃ c, t = s.withController c ∧ Books strict s.controller c ∧
      (s.controller.Closed → c = s.controller) := by
  cases a with
  | fromRadio m nodeId message =>
      cases hstep
      exact ⟨_, rfl, books_handleFromRadio pb hc.frozen m nodeId message
        (fun hs => (hattributes hs).1 _ rfl) fun hs => (hattributes hs).2 _ rfl,
        fun hclosed => handleFromRadio_of_closed pb hclosed m nodeId message⟩
  | rfTransmission m transmitter packet packetAirtimeMs =>
      cases hstep
      exact ⟨_, rfl, books_recordRfTransmission pb _ m transmitter packet packetAirtimeMs,
        fun hclosed => recordRfTransmission_of_closed pb hclosed m transmitter packet _⟩
  | drop m transmitter packet reason =>
      cases hstep
      exact ⟨_, rfl, books_recordDrop pb _ m transmitter packet reason,
        fun hclosed => recordDrop_of_closed pb hclosed m transmitter packet reason⟩
  | failedReceptions m nodeId total =>
      cases hstep
      exact ⟨_, rfl, books_recordFailedReceptions _ m nodeId total,
        fun hclosed => recordFailedReceptions_of_closed hclosed m nodeId total⟩
  | duplicateReceptions m nodeId total =>
      cases hstep
      exact ⟨_, rfl, books_recordDuplicateReceptions _ m nodeId total,
        fun hclosed => recordDuplicateReceptions_of_closed hclosed m nodeId total⟩
  | eventLoopLag m lagMs =>
      cases hstep
      exact ⟨_, rfl, books_setEventLoopLag _ m lagMs,
        fun hclosed => setEventLoopLag_of_closed hclosed m lagMs⟩
  | topologyChange event link =>
      cases hstep
      exact ⟨_, rfl, books_recordTopologyChange _ event link,
        fun hclosed => recordTopologyChange_of_closed hclosed event link⟩
  | _ => cases hevent

/-- A step that starts no run is a move. -/
theorem move_of_step (strict mayResume : Prop) (pb : Protobuf) (h : Structured s) {a : Action}
    (hstarts : a.starts = false) (hattributes : strict → Attributes pb s a)
    (hadmitted : strict → s.controller.view.Admitted)
    (hmay : s.resumesWoken a = true → mayResume) (hstep : step pb s a = some t) :
    Move strict mayResume s t := by
  have hc := h.controlled
  have hgated : a.isEvent = true → Move strict mayResume s t := by
    intro hevent
    obtain ⟨c, rfl, hbooks, hstill⟩ := event_step strict pb hc hevent hattributes hstep
    exact move_of_gated hc hbooks hstill
  cases a with
  | start m runId request scenarioSnapshot baseline => cases hstarts
  | run m input =>
      unfold step at hstep
      dsimp only at hstep
      split at hstep
      · cases hstep
      · next hcancel =>
          refine .run t ?_ (by simpa using hcancel) (runMove_resumeRun pb hc h.run hadmitted hstep)
          intro hover
          rw [hover] at hstep
          cases input <;> cases hstep
  | cancelled =>
      unfold step at hstep
      dsimp only at hstep
      split at hstep
      · next hrequested =>
          cases hstep
          exact move_cancelled h hrequested.1
      · cases hstep
  | call m kind =>
      cases hstep
      exact .call kind _ (callMove_enterCall h m kind)
  | resume i m input =>
      unfold step at hstep
      dsimp only at hstep
      split at hstep
      · cases hstep
      · next caller hget =>
          obtain ⟨entry, hresume, rfl⟩ := Option.map_eq_some_iff.mp hstep
          refine .resume i caller entry hget
            (resumeMove_resumeCall hc (h.callers caller (List.mem_of_getElem? hget)) ?_ hresume)
          intro hwoken hinput
          apply hmay
          simp [resumesWoken, hget, hwoken, hinput]
  | _ => exact hgated rfl

/-- A step starts a run or is a move. -/
theorem step_cases (strict mayResume : Prop) (pb : Protobuf) (h : Structured s) {a : Action}
    (hattributes : strict → Attributes pb s a) (hadmitted : strict → s.controller.view.Admitted)
    (hmay : s.resumesWoken a = true → mayResume) (hstep : step pb s a = some t) :
    Started s t ∨ Move strict mayResume s t := by
  have hc := h.controlled
  cases a with
  | start m runId request scenarioSnapshot baseline =>
      unfold step at hstep
      dsimp only at hstep
      split at hstep
      · next hover =>
          cases hstep
          unfold started
          split
          · next c error hstart =>
              rcases start_cases strict hstart with
                ⟨_, _, hbooks, hmessages, haccumulators, hfrozen⟩ | hbegun
              · refine Or.inr (.event _ ?_ (congrArg Frame.phase hbooks.frame))
                exact .of_frame (.of_books hc hbooks fun _ => ⟨hmessages, haccumulators, hfrozen⟩)
                  hbooks.frame
              · cases hbegun.1
          · next c started hstart =>
              rcases start_cases strict hstart with ⟨_, houtcome, _⟩ | ⟨_, hactive, hbegun, hdone⟩
              · cases houtcome
              · refine Or.inl ⟨hbegun, hdone, ⟨?_, ?_⟩, rfl, rfl, rfl, rfl, rfl⟩
                · simpa using hactive
                · exact List.all_eq_true.mp hover
      · cases hstep
  | _ => exact Or.inr (move_of_step strict mayResume pb h rfl hattributes hadmitted hmay hstep)

end TrafficTasks

end MeshtasticLab.Traffic

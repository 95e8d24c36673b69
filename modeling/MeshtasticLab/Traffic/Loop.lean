/-
  Traffic/Loop.lean --- what comes between two messages of a run.

  WHAT THIS FILE IS FOR

  Only `_submit` gives out sequence numbers, and only the run task moves through its
  loop.  Packets, reports and calls of `stop` and `fail` leave both as they are; once
  the run task has left the loop it does not come back.
-/
import MeshtasticLab.Traffic.LocalStats

set_option autoImplicit false

namespace MeshtasticLab.Traffic

open MeshtasticLab.Foundation MeshtasticLab.Gateway MeshtasticLab.Metrics MeshtasticLab.Models
open TrafficController

/-! ## Positions -/

/-- The position of the run task, without that of a call of `_finish`. -/
def RunPc.kind : RunPc → RunPc
  | .finishing target _ => .finishing target (.awaiting false)
  | pc => pc

/-- The run task is in its loop, or about to enter it. -/
def RunPc.generates : RunPc → Bool
  | .scheduled => true
  | .sleeping => true
  | .sending .. => true
  | _ => false

theorem RunPc.kind_wake (pc : RunPc) : pc.wake.kind = pc.kind := by
  cases pc <;> rfl

/-- A position in the loop is that position. -/
theorem RunPc.eq_of_kind {pc pc' : RunPc} (h : pc.kind = pc'.kind)
    (hgenerates : pc.generates = true) : pc' = pc := by
  cases pc with
  | scheduled => cases pc' <;> first | rfl | cases h
  | sleeping => cases pc' <;> first | rfl | cases h
  | sending source ref => cases pc' <;> first | (cases h; rfl) | cases h
  | _ => cases hgenerates

namespace TrafficTasks

/-- No sequence number is given out, and the run task stays where it is. -/
structure Bystands (s t : TrafficTasks) : Prop where
  sequence : t.controller.accumulators.sequence = s.controller.accumulators.sequence
  kind : t.runTask.kind = s.runTask.kind

variable {s t u : TrafficTasks}

theorem Bystands.refl (s : TrafficTasks) : Bystands s s := ⟨rfl, rfl⟩

theorem Bystands.trans (hfirst : Bystands s t) (hsecond : Bystands t u) : Bystands s u :=
  ⟨hsecond.sequence.trans hfirst.sequence, hsecond.kind.trans hfirst.kind⟩

/-- The controller changes no evidence. -/
theorem Bystands.of_evidence (s : TrafficTasks) (c : TrafficController)
    (hsame : c.evidence = s.controller.evidence) : Bystands s (s.withController c) :=
  ⟨congrArg Evidence.sequence hsame, rfl⟩

theorem sequence_modifyCurrent {e : Evidence} (g : RunEvidence → RunEvidence) :
    (e.modifyCurrent g).sequence = e.sequence := by
  unfold Evidence.modifyCurrent
  split <;> rfl

theorem sequence_applyFinalSample (c : TrafficController) (m : Moment)
    (answer : Option FailedReceptionSample) :
    (c.applyFinalSample m answer).accumulators.sequence = c.accumulators.sequence := by
  cases hcurrent : c.current with
  | none =>
      unfold applyFinalSample
      rw [hcurrent]
  | some run =>
      have hsequence := congrArg Evidence.sequence (evidence_applyFinalSample m answer hcurrent)
      rw [sequence_modifyCurrent] at hsequence
      exact hsequence

/-! ## `_finish`, `stop` and `fail` -/

theorem bystands_enterFinish (s : TrafficTasks) (m : Moment) :
    Bystands s (s.enterFinish m).1 := by
  rcases enterFinish_cases s m with ⟨value, heq⟩ | ⟨_, heq⟩ | ⟨_, _, heq⟩ <;> rw [heq]
  · exact .refl s
  · exact .refl s
  · exact .of_evidence s _ (evidence_beginFinalization s.controller m)

theorem bystands_resumeFinish {pc : FinishPc} {m : Moment} {target : TrafficRunState}
    {input : FinishInput} {entry : TrafficTasks × FinishOutcome}
    (hresume : s.resumeFinish m target pc input = some entry) : Bystands s entry.1 := by
  cases pc with
  | awaiting woken =>
      cases input with
      | woken =>
          cases woken with
          | true =>
              cases hresume
              exact .of_evidence s _ (evidence_beginFinalization s.controller m)
          | false => cases hresume
      | timeout => cases woken <;> cases hresume <;> exact ⟨rfl, rfl⟩
      | _ => cases woken <;> cases hresume
  | computing captured =>
      cases input with
      | computed =>
          unfold resumeFinish at hresume
          dsimp only at hresume
          split at hresume
          · cases hresume
            exact ⟨rfl, RunPc.kind_wake _⟩
          · cases hresume
          · cases hresume
            exact ⟨congrArg Evidence.sequence
              (evidence_publishMetricUpdate s.controller m _ "snapshot"), rfl⟩
      | _ => cases hresume
  | persisting terminal =>
      cases input with
      | persisted =>
          cases hresume
          exact ⟨rfl, RunPc.kind_wake _⟩
      | persistenceRaised exception =>
          cases hresume
          exact ⟨rfl, rfl⟩
      | _ => cases hresume
  | copying terminal =>
      cases input with
      | copied =>
          cases hresume
          exact ⟨rfl, RunPc.kind_wake _⟩
      | _ => cases hresume

theorem bystands_afterSampling (s : TrafficTasks) (m : Moment) (kind : CallerKind)
    (runFailed : Bool) : Bystands s (s.afterSampling m kind runFailed).1 := by
  unfold afterSampling
  split
  · exact .refl s
  · exact bystands_enterFinish s m

theorem bystands_afterCancel (s : TrafficTasks) (m : Moment) (kind : CallerKind)
    (runFailed : Bool) : Bystands s (s.afterCancel m kind runFailed).1 := by
  have hsettled : ∀ u : TrafficTasks, Bystands s u →
      Bystands s (if u.controller.failedReceptionSampler then (u, CallerPc.sampling runFailed)
        else u.afterSampling m kind runFailed).1 := by
    intro u hu
    split
    · exact hu
    · exact hu.trans (bystands_afterSampling u m kind runFailed)
  unfold afterCancel
  dsimp only
  cases runFailed with
  | true => exact hsettled s (.refl s)
  | false =>
      exact hsettled _ (.of_evidence s _ (evidence_finalizePendingSubmissions s.controller m))

theorem bystands_cancelRunTask (s : TrafficTasks) (m : Moment) (kind : CallerKind)
    (runFailed : Bool) : Bystands s (s.cancelRunTask m kind runFailed).1 := by
  unfold cancelRunTask
  split
  · exact bystands_afterCancel s m kind runFailed
  · exact ⟨rfl, rfl⟩

theorem bystands_afterWait (s : TrafficTasks) (m : Moment) (kind : CallerKind) :
    Bystands s (s.afterWait m kind).1 := by
  unfold afterWait
  cases kind with
  | stop =>
      dsimp only
      split
      · exact bystands_cancelRunTask s m .stop true
      · split
        · exact .refl s
        · have hstopping : Bystands s
              (s.withController { s.controller with state := .stopping }) := ⟨rfl, rfl⟩
          exact hstopping.trans (bystands_cancelRunTask _ m .stop false)
  | fail reason =>
      dsimp only
      split
      · exact .refl s
      · have hfailed := Bystands.of_evidence s _
          (evidence_setFailure s.controller .stopping (some reason))
        exact hfailed.trans (bystands_cancelRunTask _ m _ false)

theorem bystands_enterCall (s : TrafficTasks) (m : Moment) (kind : CallerKind) :
    Bystands s (s.enterCall m kind).1 := by
  unfold enterCall
  dsimp only
  split
  · exact .refl s
  · split
    · exact bystands_afterWait s m kind
    · split <;> exact .refl s

theorem bystands_resumeCall {pc : CallerPc} {m : Moment} {kind : CallerKind}
    {input : CallerInput} {entry : TrafficTasks × CallerPc}
    (hresume : s.resumeCall m kind pc input = some entry) : Bystands s entry.1 := by
  cases pc with
  | awaiting woken =>
      cases input with
      | woken =>
          cases woken with
          | true =>
              cases hresume
              exact bystands_afterWait s m kind
          | false => cases hresume
      | timeout => cases woken <;> cases hresume <;> exact ⟨rfl, rfl⟩
      | _ => cases woken <;> cases hresume
  | cancelling runFailed =>
      cases input with
      | runTaskDone =>
          unfold resumeCall at hresume
          dsimp only at hresume
          split at hresume
          · cases hresume
            exact bystands_afterCancel s m kind runFailed
          · cases hresume
      | _ => cases hresume
  | sampling runFailed =>
      cases input with
      | sampled answer =>
          cases hresume
          have hsampled : Bystands s
              (s.withController (s.controller.applyFinalSample m answer)) :=
            ⟨sequence_applyFinalSample s.controller m answer, rfl⟩
          exact hsampled.trans (bystands_afterSampling _ m kind runFailed)
      | _ => cases hresume
  | finishing target pc =>
      cases input with
      | finish input =>
          obtain ⟨resumed, hfinish, rfl⟩ := Option.map_eq_some_iff.mp hresume
          exact bystands_resumeFinish hfinish
      | _ => cases hresume
  | returned value => cases input <;> cases hresume
  | raised message => cases input <;> cases hresume

/-! ## The run task outside its loop -/

/-- No sequence number is given out, and the run task is outside its loop. -/
structure Leaves (s t : TrafficTasks) : Prop where
  sequence : t.controller.accumulators.sequence = s.controller.accumulators.sequence
  outside : t.runTask.generates = false

theorem Leaves.after (hbystands : Bystands s t) (h : Leaves t u) : Leaves s u :=
  ⟨h.sequence.trans hbystands.sequence, h.outside⟩

theorem leaves_runAfterFinish (s : TrafficTasks) (m : Moment) (target : TrafficRunState)
    (outcome : FinishOutcome) : Leaves s (s.runAfterFinish m target outcome) := by
  unfold runAfterFinish
  cases outcome with
  | suspended pc => exact ⟨rfl, rfl⟩
  | returned value => exact ⟨rfl, rfl⟩
  | raised message =>
      dsimp only
      split
      · exact ⟨rfl, rfl⟩
      · have hfailed := Bystands.of_evidence s _
          (evidence_setFailure s.controller .stopping (some message))
        have hentered := hfailed.trans (bystands_enterFinish _ m)
        split
        · exact ⟨hentered.sequence, rfl⟩
        · exact ⟨hentered.sequence, rfl⟩

theorem leaves_runFinish (s : TrafficTasks) (m : Moment) (target : TrafficRunState) :
    Leaves s (s.runFinish m target) :=
  (leaves_runAfterFinish _ m target _).after (bystands_enterFinish s m)

theorem leaves_runFailed (s : TrafficTasks) (m : Moment) (exception : String) :
    Leaves s (s.runFailed m exception) := by
  have hfailed := Bystands.of_evidence s _
    (evidence_setFailure s.controller .stopping (some exception))
  exact (leaves_runFinish _ m .failed).after hfailed

theorem leaves_afterDrain (s : TrafficTasks) (m : Moment) : Leaves s (s.afterDrain m) := by
  unfold afterDrain
  dsimp only
  split
  · exact ⟨rfl, rfl⟩
  · have hdrained : Bystands s (s.withController s.controller.endDrain) := ⟨rfl, rfl⟩
    exact (leaves_runFinish _ m .completed).after hdrained

theorem leaves_expired (s : TrafficTasks) (m : Moment) :
    Leaves s
      ((s.withController (s.controller.finalizePendingSubmissions m)).afterDrain m) :=
  (leaves_afterDrain _ m).after
    (.of_evidence s _ (evidence_finalizePendingSubmissions s.controller m))

theorem leaves_enterDrain (s : TrafficTasks) (m : Moment) : Leaves s (s.enterDrain m) := by
  have hbegun : Bystands s (s.withController (s.controller.beginDrain m)) := ⟨rfl, rfl⟩
  unfold enterDrain
  dsimp only
  split
  · exact ⟨rfl, rfl⟩
  · split
    · exact (leaves_afterDrain _ m).after hbegun
    · exact (leaves_expired _ m).after hbegun
    · exact ⟨rfl, rfl⟩

/-- The run task goes on outside its loop. -/
theorem leaves_resumeRun (pb : Protobuf) {m : Moment} {input : RunInput}
    (houtside : s.runTask.generates = false)
    (hresume : s.resumeRun pb m s.runTask input = some t) :
    Leaves s t := by
  cases hrun : s.runTask with
  | settling =>
      rw [hrun] at hresume
      cases input with
      | drained =>
          cases hresume
          exact leaves_expired s m
      | _ => cases hresume
  | draining deadline =>
      rw [hrun] at hresume
      cases input with
      | drained =>
          unfold resumeRun at hresume
          dsimp only at hresume
          split at hresume
          · cases hresume
            exact leaves_afterDrain s m
          · cases hresume
            exact leaves_expired s m
          · cases hresume
            exact ⟨rfl, houtside⟩
      | _ => cases hresume
  | sampling =>
      rw [hrun] at hresume
      cases input with
      | sampled answer =>
          cases hresume
          have hsampled : Bystands s
              (s.withController (s.controller.applyFinalSample m answer)) :=
            ⟨sequence_applyFinalSample s.controller m answer, rfl⟩
          exact (leaves_runFinish _ m .completed).after hsampled
      | _ => cases hresume
  | finishing target pc =>
      rw [hrun] at hresume
      cases input with
      | finish input =>
          obtain ⟨resumed, hfinish, rfl⟩ := Option.map_eq_some_iff.mp hresume
          exact (leaves_runAfterFinish _ m target _).after (bystands_resumeFinish hfinish)
      | _ => cases hresume
  | done =>
      rw [hrun] at hresume
      cases input <;> cases hresume
  | _ =>
      rw [hrun] at houtside
      cases houtside

/-! ## Steps -/

/-- The action resumes the run task. -/
def Action.runs : Action → Bool
  | .run .. => true
  | _ => false

/-- A step of anything but the run task leaves the loop alone. -/
theorem step_bystands (pb : Protobuf) {a : Action} (hstarts : a.starts = false)
    (hruns : a.runs = false) (hcancelled : a ≠ .cancelled) (hstep : step pb s a = some t) :
    Bystands s t := by
  cases a with
  | start m runId request scenarioSnapshot baseline => cases hstarts
  | run m input => cases hruns
  | fromRadio m nodeId message =>
      cases hstep
      exact .of_evidence s _ (evidence_handleFromRadio pb s.controller m nodeId message)
  | rfTransmission m transmitter packet packetAirtimeMs =>
      cases hstep
      exact .of_evidence s _
        (evidence_recordRfTransmission pb s.controller m transmitter packet packetAirtimeMs)
  | drop m transmitter packet reason =>
      cases hstep
      exact .of_evidence s _
        (evidence_recordDrop pb s.controller m transmitter packet reason)
  | failedReceptions m nodeId total =>
      cases hstep
      exact .of_evidence s _
        (evidence_recordFailedReceptions s.controller m nodeId total)
  | duplicateReceptions m nodeId total =>
      cases hstep
      exact .of_evidence s _
        (evidence_recordDuplicateReceptions s.controller m nodeId total)
  | eventLoopLag m lagMs =>
      cases hstep
      exact .of_evidence s _ (evidence_setEventLoopLag s.controller m lagMs)
  | topologyChange event link =>
      cases hstep
      rcases evidence_recordTopologyChange s.controller event link with hsame | hchanged
      · exact .of_evidence s _ hsame
      · have hsequence := congrArg Evidence.sequence hchanged
        rw [sequence_modifyCurrent] at hsequence
        exact ⟨hsequence, rfl⟩
  | cancelled => exact absurd rfl hcancelled
  | call m kind =>
      cases hstep
      have hentered := bystands_enterCall s m kind
      exact ⟨hentered.sequence, hentered.kind⟩
  | resume i m input =>
      unfold TrafficTasks.step at hstep
      dsimp only at hstep
      split at hstep
      · cases hstep
      · obtain ⟨resumed, hresume, rfl⟩ := Option.map_eq_some_iff.mp hstep
        have hresumed := bystands_resumeCall hresume
        exact ⟨hresumed.sequence, hresumed.kind⟩

/-- The run task observes its cancellation. -/
theorem leaves_cancelled (pb : Protobuf) (hstep : step pb s .cancelled = some t) :
    Leaves s t := by
  unfold TrafficTasks.step at hstep
  dsimp only at hstep
  split at hstep
  · cases hstep
    unfold TrafficTasks.cancelled
    split <;> exact ⟨rfl, rfl⟩
  · cases hstep

/-- A step that starts no run advances the run. -/
theorem step_advance (pb : Protobuf) (h : Structured s) {a : Action}
    (hstarts : a.starts = false) (hstep : step pb s a = some t) :
    Advance False s.controller t.controller := by
  have hcases := step_cases False True pb h False.elim False.elim (fun _ => trivial) hstep
  rcases hcases with hstarted | hmove
  · exfalso
    have hscheduled := hstarted.runTask
    cases hruns : a.runs with
    | true =>
        cases a with
        | run m input =>
            unfold TrafficTasks.step at hstep
            rw [hstarted.isOver.1] at hstep
            dsimp only at hstep
            split at hstep
            · cases hstep
            · cases input <;> cases hstep
        | _ => cases hruns
    | false =>
        by_cases hcancelled : a = .cancelled
        · rw [hcancelled] at hstep
          have houtside := (leaves_cancelled pb hstep).outside
          rw [hscheduled] at houtside
          cases houtside
        · have hkind := (step_bystands pb hstarts hruns hcancelled hstep).kind
          rw [hscheduled, hstarted.isOver.1] at hkind
          cases hkind
  · exact hmove.advance h

/-- It keeps the request and the scenario of the run. -/
theorem step_identity (pb : Protobuf) (h : Structured s) {a : Action}
    (hstarts : a.starts = false) (hstep : step pb s a = some t) :
    t.controller.frame.request = s.controller.frame.request ∧
      t.controller.runScenario = s.controller.runScenario :=
  (step_advance pb h hstarts hstep).entries.identity

/-! ## The run task in its loop -/

/-- While the run task is at work its request is that of the run. -/
theorem Structured.request_of_current (h : Structured s) (hactive : s.runTask ≠ .done)
    {run : TrafficRunResult} (hcurrent : s.controller.current = some run) :
    s.controller.frame.request = some (run.runId, run.request) := by
  have hopen : s.controller.frozenResults = [] := by_contra fun hne => hactive (h.frozen hne)
  unfold current at hcurrent
  rw [hopen] at hcurrent
  unfold frame
  rw [show s.controller.run = some run from hcurrent]
  rfl

/-- What the next call of `_submit` is made with. -/
theorem submission_eq_some {flow source pick : Nat} {from_ destination name : String}
    (hcall : s.submission flow source pick = some (from_, destination, name)) :
    ∃ run entry, s.controller.current = some run ∧
      run.request.schedulingFlows[flow]? = some entry ∧
      entry.sourceNodes[source]? = some from_ ∧
      s.controller.chooseDestination run.request.kind entry.destinationStrategy
        entry.fixedDestination from_ pick = .ok destination := by
  unfold submission at hcall
  obtain ⟨run, hrun, hcall⟩ := Option.bind_eq_some_iff.mp hcall
  obtain ⟨entry, hentry, hcall⟩ := Option.bind_eq_some_iff.mp hcall
  obtain ⟨first, hfirst, hcall⟩ := Option.bind_eq_some_iff.mp hcall
  split at hcall
  · cases hcall
  · next hchoose =>
      cases hcall
      exact ⟨run, entry, hrun, hentry, hfirst, hchoose⟩

/-- The next message: the choice of its destination raises, or one sequence number is given
out and the run task waits for the gateway, unless `_submit` raises. -/
theorem runSubmit_cases (pb : Protobuf) {m : Moment} {flow source pick : Nat}
    {draws : List Nat} (hsubmit : s.runSubmit pb m flow source pick draws = some t) :
    (s.submission flow source pick = none ∧ Leaves s t) ∨
    ∃ call, s.submission flow source pick = some call ∧
      t.controller.accumulators.sequence = s.controller.accumulators.sequence + 1 ∧
      ((∃ from_ ref, t.runTask = .sending from_ ref) ∨ t.runTask.generates = false) := by
  unfold runSubmit at hsubmit
  unfold submission
  obtain ⟨run, hrun, hsubmit⟩ := Option.bind_eq_some_iff.mp hsubmit
  obtain ⟨entry, hflow, hsubmit⟩ := Option.bind_eq_some_iff.mp hsubmit
  obtain ⟨from_, hsource, hsubmit⟩ := Option.bind_eq_some_iff.mp hsubmit
  simp only [hrun, hflow, hsource, Option.bind_eq_bind, Option.bind_some]
  cases hchoose : s.controller.chooseDestination run.request.kind entry.destinationStrategy
      entry.fixedDestination from_ pick with
  | error error =>
      rw [hchoose] at hsubmit
      cases hsubmit
      exact Or.inl ⟨rfl, leaves_runFailed s m _⟩
  | ok destination =>
      rw [hchoose] at hsubmit
      right
      obtain ⟨⟨c, outcome⟩, hcall, hsubmit⟩ := Option.bind_eq_some_iff.mp hsubmit
      have hsequence : c.accumulators.sequence = s.controller.accumulators.sequence + 1 :=
        congrArg Evidence.sequence (evidence_submit hrun hcall)
      refine ⟨_, rfl, ?_⟩
      cases outcome with
      | error error =>
          cases hsubmit
          have hfailed : Leaves (s.withController c)
              ((s.withController c).runFailed m error.text) := leaves_runFailed _ m _
          exact ⟨hfailed.sequence.trans hsequence, Or.inr hfailed.outside⟩
      | ok sent =>
          cases sent with
          | none => cases hsubmit
          | some sent =>
              cases hsubmit
              exact ⟨hsequence, Or.inl ⟨from_, sent.1, rfl⟩⟩

/-- The run task submits when it wakes from its sleep. -/
theorem sleeping_of_submit {pb : Protobuf} {m : Moment} {flow source pick : Nat} {draws : List Nat}
    (hstep : step pb s (.run m (.submit flow source pick draws)) = some t) :
    s.runTask = .sleeping := by
  unfold TrafficTasks.step at hstep
  dsimp only at hstep
  split at hstep
  · cases hstep
  · cases hrun : s.runTask with
    | sleeping => rfl
    | _ =>
        rw [hrun] at hstep
        cases hstep

/-- After a message the run task sleeps until the next one or leaves its loop. -/
theorem resumeRun_sent (pb : Protobuf) {m : Moment} {from_ : String} {ref : Nat}
    {exception : Option String} {last : Bool}
    (hresume : s.resumeRun pb m (.sending from_ ref) (.sent exception last) = some t) :
    t.controller.accumulators.sequence = s.controller.accumulators.sequence ∧
      (last = true → t.runTask.generates = false) ∧
      (last = false → t.runTask = .sleeping) := by
  unfold resumeRun at hresume
  dsimp only at hresume
  have hsent : ∀ c : TrafficController, c.evidence = s.controller.evidence →
      (if last then some ((s.withController c).enterDrain m)
        else some { s.withController c with runTask := .sleeping }) = some t →
      t.controller.accumulators.sequence = s.controller.accumulators.sequence ∧
        (last = true → t.runTask.generates = false) ∧
        (last = false → t.runTask = .sleeping) := by
    intro c hsame hnext
    have hsequence := congrArg Evidence.sequence hsame
    cases last with
    | true =>
        cases hnext
        have hleaves := leaves_enterDrain (s.withController c) m
        exact ⟨hleaves.sequence.trans hsequence, fun _ => hleaves.outside, by simp⟩
    | false =>
        cases hnext
        exact ⟨hsequence, by simp, fun _ => rfl⟩
  cases exception with
  | none => exact hsent _ rfl hresume
  | some exception =>
      exact hsent _ (evidence_submitFailed s.controller m from_ ref exception) hresume

end TrafficTasks

end MeshtasticLab.Traffic

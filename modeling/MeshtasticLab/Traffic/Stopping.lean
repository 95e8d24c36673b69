/-
  Traffic/Stopping.lean --- a run that is stopped ends up closed.

  WHAT THIS FILE IS FOR

  A run task that has ended, or that is told to end, leaves a closed run behind, or a
  call of `stop` or `fail` that goes on to close it.  So when a call of `stop` is over
  and no other call is under way, the run accepts no more events, even if the call
  gave up waiting for a finalization.
-/
import MeshtasticLab.Traffic.Accounting
import MeshtasticLab.Traffic.Publications

set_option autoImplicit false

namespace MeshtasticLab.Traffic

open MeshtasticLab.Foundation MeshtasticLab.Gateway MeshtasticLab.Metrics MeshtasticLab.Models

/-- A call of `stop` or `fail` that goes on to close the run. -/
def CallerPc.stops : CallerPc → Bool
  | .cancelling _ => true
  | .sampling _ => true
  | _ => false

/-! ## Runs that can be closed -/

namespace TrafficController

variable {c d : TrafficController}

/-- There is a run, and nothing has ended it. -/
structure Alive (c : TrafficController) : Prop where
  currentId : c.currentId ≠ none
  frozen : c.frozenResults = []
  finalizationDone : c.finalizationDone = true

/-- Another controller with the same run. -/
theorem Alive.congr (h : Alive c) (hrun : d.currentId = c.currentId)
    (hfrozen : d.frozenResults = c.frozenResults)
    (hdone : d.finalizationDone = c.finalizationDone) : Alive d :=
  ⟨hrun ▸ h.currentId, hfrozen.trans h.frozen, hdone.trans h.finalizationDone⟩

/-- A handler leaves the run alive. -/
theorem Alive.framed (h : Alive c) (hframe : d.frame = c.frame) (hspeaks : Speaks c d) :
    Alive d where
  currentId := hspeaks.currentId ▸ h.currentId
  frozen := opened_of_frame hframe h.frozen
  finalizationDone := (congrArg Frame.finalizationDone hframe).trans h.finalizationDone

theorem Alive.finalizePendingSubmissions (h : Alive c) (m : Moment) :
    Alive (c.finalizePendingSubmissions m) := by
  have hbooks : Books False c (c.finalizePendingSubmissions m) :=
    books_finalizePendingSubmissions h.frozen m
  exact h.framed hbooks.frame (speaks_finalizePendingSubmissions c m)

theorem Alive.modifyCurrent (h : Alive c) {f : TrafficRunResult → TrafficRunResult}
    (hkeeps : ∀ run, (f run).runId = run.runId) : Alive (c.modifyCurrent f) := by
  refine h.congr (currentId_modifyCurrent c hkeeps) ?_ ?_
  · unfold TrafficController.modifyCurrent
    rw [h.frozen]
  · unfold TrafficController.modifyCurrent
    split <;> rfl

/-- The run has failed for a reason. -/
theorem Alive.failing (h : Alive c) (reason : String) :
    Alive ({ c with state := .stopping }.modifyCurrent fun run =>
      { run with failure := some reason }) :=
  Alive.modifyCurrent (c := { c with state := .stopping }) (h.congr rfl rfl rfl) fun _ => rfl

/-- The run is closed, or a finalization can close it. -/
def Closable (c : TrafficController) : Prop := Quiesced c ∨ Alive c

/-- A controlled run that there is can be closed. -/
theorem Controlled.closable (h : Controlled c) (hidle : c.currentId = none → c.Closed) :
    Closable c := by
  by_cases hclosed : c.Closed
  · exact Or.inl (h.quiesced hclosed)
  · exact Or.inr ⟨fun hnone => hclosed (hidle hnone), h.open hclosed, h.done hclosed⟩

theorem Closable.alive (h : Closable c) (hopen : ¬c.Closed) : Alive c :=
  h.resolve_left fun hquiesced => hopen hquiesced.closed

/-- A run with a frozen result, or with a finalization under way, is closed. -/
theorem Closable.closed (h : Closable c)
    (hended : c.frozenResult ≠ none ∨ c.finalizationDone = false) : c.Closed := by
  rcases h with hquiesced | halive
  · exact hquiesced.closed
  · rcases hended with hfrozen | hactive
    · exact absurd (by unfold frozenResult; rw [halive.frozen]; rfl) hfrozen
    · rw [halive.finalizationDone] at hactive
      cases hactive

theorem Closable.finalizePendingSubmissions (h : Closable c) (m : Moment) :
    Closable (c.finalizePendingSubmissions m) := by
  rcases h with hquiesced | halive
  · rw [finalizePendingSubmissions_of_empty m hquiesced.pending]
    exact Or.inl hquiesced
  · exact Or.inr (halive.finalizePendingSubmissions m)

theorem closed_beginFinalization (h : Closable c) (m : Moment) :
    (c.beginFinalization m).Closed := by
  rcases h with hquiesced | halive
  · have hpublishes : Publishes "" c (c.beginFinalization m) := publishes_beginFinalization c m
    exact (hpublishes.quiesced hquiesced).closed
  · have hbooks : Books False { c with finalizationDone := false, phase := .finalizing }
        (c.beginFinalization m) :=
      books_finalizePendingSubmissions
        (c := { c with finalizationDone := false, phase := .finalizing }) halive.frozen m
    exact Or.inl (congrArg Frame.phase hbooks.frame)

/-- The run is closed, and a finalization is under way or has frozen its result. -/
structure Concluding (c : TrafficController) : Prop where
  closed : c.Closed
  ended : c.finalizationDone = false ∨ c.frozenResult ≠ none

theorem concluding_beginFinalization (h : Alive c) (m : Moment) :
    Concluding (c.beginFinalization m) := by
  have hbooks : Books False { c with finalizationDone := false, phase := .finalizing }
      (c.beginFinalization m) :=
    books_finalizePendingSubmissions
      (c := { c with finalizationDone := false, phase := .finalizing }) h.frozen m
  exact ⟨closed_beginFinalization (Or.inr h) m,
    Or.inl (congrArg Frame.finalizationDone hbooks.frame)⟩

end TrafficController

namespace TrafficTasks

open TrafficController

variable {s t u : TrafficTasks}

/-! ## The run task -/

/-- A call of `_finish` begins the finalization of a run that is alive. -/
theorem enterFinish_alive (h : Alive s.controller) (m : Moment) :
    s.enterFinish m = s.proceedFinish m := by
  have hcurrent : ¬(s.controller.current = none ∨ s.controller.frozenResult ≠ none) := by
    rintro (hnone | hfrozen)
    · exact h.currentId (by unfold TrafficController.currentId; rw [hnone]; rfl)
    · exact hfrozen (by unfold frozenResult; rw [h.frozen]; rfl)
  unfold enterFinish
  dsimp only
  rw [if_neg hcurrent, if_pos h.finalizationDone]

/-- `_finish` closes a run that can be closed. -/
theorem closed_enterFinish (h : Closable s.controller) (m : Moment) :
    (s.enterFinish m).1.controller.Closed := by
  rcases h with hquiesced | halive
  · unfold enterFinish
    dsimp only
    split
    · exact hquiesced.closed
    · split
      · exact closed_beginFinalization (Or.inl hquiesced) m
      · split <;> exact hquiesced.closed
  · rw [enterFinish_alive halive]
    exact closed_beginFinalization (Or.inr halive) m

/-- A call of `_finish` does not raise before its first suspension. -/
theorem not_raised_enterFinish (s : TrafficTasks) (m : Moment) (message : String) :
    (s.enterFinish m).2 ≠ .raised message := by
  rcases enterFinish_cases s m with ⟨value, hreturned⟩ | ⟨_, hwaits⟩ | ⟨_, _, hbegins⟩
  · rw [hreturned]
    nofun
  · rw [hwaits]
    nofun
  · rw [hbegins]
    nofun

/-- The run task finalizes a run that is alive. -/
theorem concluding_runFinish (m : Moment) (target : TrafficRunState) (h : Alive s.controller) :
    Concluding (s.runFinish m target).controller := by
  unfold runFinish
  rw [enterFinish_alive h]
  exact concluding_beginFinalization h m

theorem concluding_runFailed (m : Moment) (exception : String) (h : Alive s.controller) :
    Concluding (s.runFailed m exception).controller :=
  concluding_runFinish (s := s.withController _) m .failed (h.failing exception)

/-- The run task goes on and the run is open, or the run is being concluded. -/
def Unended (s : TrafficTasks) : Prop :=
  (s.runTask ≠ .done ∧ ¬s.controller.Closed) ∨ Concluding s.controller

theorem unended_afterDrain (m : Moment) (h : Alive s.controller)
    (hphase : s.controller.phase = .draining) : Unended (s.afterDrain m) := by
  unfold afterDrain
  dsimp only
  split
  · exact Or.inl ⟨nofun, not_closed_of_draining hphase⟩
  · exact Or.inr (concluding_runFinish (s := s.withController _) m .completed
      (h.congr rfl rfl rfl))

theorem unended_expired (m : Moment) (h : Alive s.controller)
    (hphase : s.controller.phase = .draining) :
    Unended
      (({ s with controller := s.controller.finalizePendingSubmissions m }).afterDrain m) := by
  have hbooks : Books False s.controller (s.controller.finalizePendingSubmissions m) :=
    books_finalizePendingSubmissions h.frozen m
  exact unended_afterDrain (s := s.withController _) m (h.finalizePendingSubmissions m)
    ((congrArg Frame.phase hbooks.frame).trans hphase)

theorem unended_enterDrain (m : Moment) (h : Alive s.controller) : Unended (s.enterDrain m) := by
  have hbegun : Alive (s.controller.beginDrain m) := h.congr rfl rfl rfl
  unfold enterDrain
  dsimp only
  split
  · exact Or.inl ⟨nofun, not_closed_of_draining rfl⟩
  · split
    · exact unended_afterDrain (s := s.withController _) m hbegun rfl
    · exact unended_expired (s := s.withController _) m hbegun rfl
    · exact Or.inl ⟨nofun, not_closed_of_draining rfl⟩

theorem unended_runSubmit {pb : Protobuf} (halive : Alive s.controller)
    (hphase : s.controller.phase = .generating) {m : Moment}
    {flow source pick : Nat} {draws : List Nat}
    (hplanned : ∀ run, s.controller.run = some run →
      ∀ flow ∈ run.request.schedulingFlows, ∀ source ∈ flow.sourceNodes,
        source ∈ s.controller.view.nodeIds)
    (hsubmit : s.runSubmit pb m flow source pick draws = some t) : Unended t := by
  unfold runSubmit at hsubmit
  obtain ⟨run, hcurrent, hsubmit⟩ := Option.bind_eq_some_iff.mp hsubmit
  obtain ⟨flow, hflow, hsubmit⟩ := Option.bind_eq_some_iff.mp hsubmit
  obtain ⟨source, hsource, hsubmit⟩ := Option.bind_eq_some_iff.mp hsubmit
  rw [current_of_open halive.frozen] at hcurrent
  split at hsubmit
  · cases hsubmit
    exact Or.inr (concluding_runFailed m _ halive)
  · obtain ⟨⟨c, outcome⟩, hcall, hsubmit⟩ := Option.bind_eq_some_iff.mp hsubmit
    have hbooks : Books False s.controller c :=
      (books_submit halive.frozen hcall fun _ => hplanned run hcurrent flow
        (List.mem_of_getElem? hflow) source (List.mem_of_getElem? hsource)).1
    cases outcome with
    | error error =>
        cases hsubmit
        exact Or.inr (concluding_runFailed (s := s.withController c) m _
          (halive.framed hbooks.frame (speaks_submit hcall)))
    | ok sent =>
        cases sent with
        | none => cases hsubmit
        | some sent =>
            cases hsubmit
            exact Or.inl ⟨nofun,
              not_closed_of_generating ((congrArg Frame.phase hbooks.frame).trans hphase)⟩

/-- A run task that ends by itself leaves a run that is being concluded. -/
theorem unended_resumeRun (pb : Protobuf) (h : Structured s)
    (hidle : s.controller.currentId = none → s.controller.Closed) {m : Moment} {input : RunInput}
    (hresume : s.resumeRun pb m s.runTask input = some t) : Unended t := by
  have hrun := h.run
  have halive : ¬s.controller.Closed → Alive s.controller := fun hopen =>
    (h.controlled.closable hidle).alive hopen
  unfold resumeRun at hresume
  split at hresume
  · next hpc =>
      rw [hpc] at hrun
      cases hresume
      exact Or.inl ⟨by rintro ⟨⟩, not_closed_of_generating hrun⟩
  · next hpc =>
      rw [hpc] at hrun
      refine unended_runSubmit (halive (not_closed_of_generating hrun)) hrun ?_ hresume
      intro run hcurrent
      exact h.controlled.planned run.runId run.request (by simp [frame, hcurrent])
  · next source ref exception last hpc =>
      rw [hpc] at hrun
      have hopen := not_closed_of_generating hrun.1
      have hsent : ∀ c, Alive c → ¬c.Closed →
          (if last then some ((s.withController c).enterDrain m)
            else some { s.withController c with runTask := .sleeping }) = some t →
          Unended t := by
        intro c hsent hstill hresume
        split at hresume
        · cases hresume
          exact unended_enterDrain (s := s.withController c) m hsent
        · cases hresume
          exact Or.inl ⟨by rintro ⟨⟩, hstill⟩
      cases exception with
      | none => exact hsent _ (halive hopen) hopen hresume
      | some exception =>
          have hbooks : Books False s.controller
            (s.controller.submitFailed m source ref exception) :=
            books_submitFailed (halive hopen).frozen m source ref exception hrun.2 (by rintro ⟨⟩)
          exact hsent _ ((halive hopen).framed hbooks.frame
            (speaks_submitFailed _ m source ref exception))
            (not_closed_of_generating ((congrArg Frame.phase hbooks.frame).trans hrun.1)) hresume
  · next hpc =>
      rw [hpc] at hrun
      cases hresume
      exact unended_expired m (halive (not_closed_of_draining hrun)) hrun
  · next hpc =>
      rw [hpc] at hrun
      have hdraining := halive (not_closed_of_draining hrun)
      dsimp only at hresume
      split at hresume
      · cases hresume
        exact unended_afterDrain m hdraining hrun
      · cases hresume
        exact unended_expired m hdraining hrun
      · cases hresume
        refine Or.inl ⟨?_, not_closed_of_draining hrun⟩
        rw [hpc]
        rintro ⟨⟩
  · next answer hpc =>
      rw [hpc] at hrun
      cases hresume
      obtain ⟨_, hframe⟩ : Advance False _ _ ∧ _ := advance_applyFinalSample h.controlled m answer
      have hsampled := (halive (not_closed_of_draining hrun)).framed hframe
        (speaks_applyFinalSample _ m answer)
      exact Or.inr (concluding_runFinish (s := s.withController _) m .completed hsampled)
  · next target pc input hpc =>
      rw [hpc] at hrun
      obtain ⟨hactive, hfits, hphase, hdone, _⟩ := hrun
      obtain ⟨⟨u, outcome⟩, hresumed, rfl⟩ := Option.map_eq_some_iff.mp hresume
      cases resumed_of_active h.controlled hactive hfits hresumed with
      | handed captured c terminal hview hfrozen hmirrors =>
          have hframe : c.frame = s.controller.frame := congrArg View.frame hview
          exact Or.inr ⟨Or.inl ((congrArg Frame.phase hframe).trans hphase),
            Or.inl ((congrArg Frame.finalizationDone hframe).trans hdone)⟩
      | unpersisted terminal failed hmirrors => exact Or.inr ⟨Or.inl hphase, Or.inl hdone⟩
      | persisted terminal => exact Or.inr ⟨Or.inr rfl, Or.inr (by rintro ⟨⟩)⟩
      | copied terminal => exact Or.inr ⟨Or.inr rfl, Or.inr (by rintro ⟨⟩)⟩
  · cases hresume

/-! ## Calls of `stop` and `fail` -/

/-- A call goes on to close the run, or the run is closed. -/
def Reached (entry : TrafficTasks × CallerPc) : Prop :=
  entry.2.stops = true ∨
    (entry.1.controller.Closed ∧ ∀ message, entry.2 ≠ .raised message)

theorem Reached.not_raised {entry : TrafficTasks × CallerPc} (h : Reached entry)
    (message : String) : entry.2 ≠ .raised message := by
  rcases h with hstops | ⟨_, hraised⟩
  · intro hpc
    rw [hpc] at hstops
    cases hstops
  · exact hraised message

/-- A call of `_finish` that does not raise, on behalf of a call of `stop` or `fail`. -/
theorem not_raised_callerAfter (target : TrafficRunState) {outcome : FinishOutcome}
    (hraised : ∀ message, outcome ≠ .raised message) (message : String) :
    callerAfter target outcome ≠ .raised message := by
  cases outcome with
  | suspended pc => nofun
  | returned value => nofun
  | raised other => exact absurd rfl (hraised other)

theorem reached_afterSampling (h : Closable s.controller) (m : Moment) (kind : CallerKind)
    (runFailed : Bool) : Reached (s.afterSampling m kind runFailed) := by
  refine Or.inr ?_
  unfold afterSampling
  split
  · next hfrozen => exact ⟨h.closed (Or.inl hfrozen), nofun⟩
  · exact ⟨closed_enterFinish h m, not_raised_callerAfter _ (not_raised_enterFinish s m)⟩

theorem reached_afterCancel (h : Closable s.controller) (m : Moment) (kind : CallerKind)
    (runFailed : Bool) : Reached (s.afterCancel m kind runFailed) := by
  have hsampled : ∀ t : TrafficTasks, Closable t.controller →
      Reached (if t.controller.failedReceptionSampler then (t, .sampling runFailed)
        else t.afterSampling m kind runFailed) := by
    intro t ht
    split
    · exact Or.inl rfl
    · exact reached_afterSampling ht m kind runFailed
  unfold afterCancel
  dsimp only
  split
  · exact hsampled s h
  · exact hsampled (s.withController _) (h.finalizePendingSubmissions m)

theorem reached_cancelRunTask (h : Closable s.controller) (m : Moment) (kind : CallerKind)
    (runFailed : Bool) : Reached (s.cancelRunTask m kind runFailed) := by
  unfold cancelRunTask
  split
  · exact reached_afterCancel h m kind runFailed
  · exact Or.inl rfl

/-- A call leaves the run alone; `stop` does so only when the run task has ended. -/
def Refused (s : TrafficTasks) (kind : CallerKind) (entry : TrafficTasks × CallerPc) : Prop :=
  entry = (s, .returned true) ∧ (kind = .stop → s.runTask = .done)

theorem halts_afterWait (h : Closable s.controller) (m : Moment) (kind : CallerKind) :
    Reached (s.afterWait m kind) ∨ Refused s kind (s.afterWait m kind) := by
  unfold afterWait
  cases kind with
  | stop =>
      dsimp only
      split
      · exact Or.inl (reached_cancelRunTask h m .stop true)
      · split
        · next hover => exact Or.inr ⟨rfl, fun _ => hover⟩
        · refine Or.inl (reached_cancelRunTask (s := s.withController _) ?_ m .stop false)
          exact h.imp (fun hquiesced => ⟨hquiesced.closed, hquiesced.pending⟩)
            fun halive => halive.congr rfl rfl rfl
  | fail reason =>
      dsimp only
      split
      · exact Or.inr ⟨rfl, nofun⟩
      · refine Or.inl (reached_cancelRunTask (s := s.withController _) ?_ m (.fail reason) false)
        have hfailing : Publishes "" s.controller _ := publishes_failing s.controller reason
        exact h.imp hfailing.quiesced fun halive => halive.failing reason

theorem halts_enterCall (h : Closable s.controller) (m : Moment) (kind : CallerKind) :
    Reached (s.enterCall m kind) ∨ Refused s kind (s.enterCall m kind) := by
  unfold enterCall
  dsimp only
  split
  · next hfrozen => exact Or.inl (Or.inr ⟨h.closed (Or.inl hfrozen.2), nofun⟩)
  · split
    · exact halts_afterWait h m kind
    · next hactive =>
        have hclosed := h.closed (Or.inr (by simpa using hactive))
        split <;> exact Or.inl (Or.inr ⟨hclosed, nofun⟩)

/-- `_finish` does not raise, since the final metrics can be computed. -/
theorem not_raised_resumeFinish (h : Controlled s.controller) {m : Moment}
    {target : TrafficRunState} {pc : FinishPc} {input : FinishInput}
    {entry : TrafficTasks × FinishOutcome}
    (hresume : s.resumeFinish m target pc input = some entry) (message : String) :
    entry.2 ≠ .raised message := by
  obtain ⟨metrics, hmetrics⟩ := finalMetrics_ok h.agreement
  unfold resumeFinish at hresume
  split at hresume
  · cases hresume
    nofun
  · cases hresume
    nofun
  · split at hresume
    · next hraised =>
        rw [hmetrics] at hraised
        cases hraised
    · cases hresume
    · cases hresume
      nofun
  · cases hresume
    nofun
  · cases hresume
    nofun
  · cases hresume
    nofun
  · cases hresume

theorem reached_resumeCall (h : Controlled s.controller) (hclosable : Closable s.controller)
    {m : Moment} {kind : CallerKind} {pc : CallerPc}
    (hfits : pc.Fits s.controller s.cancelRequested s.runTask) {input : CallerInput}
    {entry : TrafficTasks × CallerPc} (hresume : s.resumeCall m kind pc input = some entry) :
    Reached entry := by
  have hstays : s.controller.Closed → entry.1.controller.Closed := by
    intro hclosed
    have hpublishes := publishes_resumeCall h rfl hfits hresume
    exact (hpublishes.quiesced (h.quiesced hclosed)).closed
  unfold resumeCall at hresume
  split at hresume
  · cases hresume
    rcases halts_afterWait hclosable m kind with hreached | ⟨hrefused, _⟩
    · exact hreached
    · refine Or.inr ⟨hstays hfits.1, ?_⟩
      rw [hrefused]
      nofun
  · cases hresume
    exact Or.inr ⟨hstays hfits.1, nofun⟩
  · split at hresume
    · cases hresume
      exact reached_afterCancel hclosable m kind _
    · cases hresume
  · next answer =>
      cases hresume
      obtain ⟨_, hframe⟩ : Advance False _ _ ∧ _ := advance_applyFinalSample h m answer
      have hsampled : Publishes "" _ _ := publishes_applyFinalSample s.controller m answer
      exact reached_afterSampling (s := s.withController _)
        (hclosable.imp hsampled.quiesced fun halive => halive.framed hframe hsampled.toSpeaks)
        m kind _
  · obtain ⟨resumed, hresumed, rfl⟩ := Option.map_eq_some_iff.mp hresume
    exact Or.inr ⟨hstays hfits.2.1,
      not_raised_callerAfter _ (not_raised_resumeFinish h hresumed)⟩
  · cases hresume

/-! ## The other calls -/

/-- The calls are as before, or the end of a finalization has woken them. -/
def SameCalls (callers later : List Caller) : Prop :=
  later = callers ∨ later = callers.map fun caller => { caller with pc := caller.pc.wake }

/-- A call that is over is not woken, and one that has raised was not asleep. -/
theorem SameCalls.of_mem {callers later : List Caller} (h : SameCalls callers later)
    {caller : Caller}
    (hmember : caller ∈ later) :
    ∃ old ∈ callers, CallerPc.isOver caller.pc = CallerPc.isOver old.pc ∧
      ∀ message, caller.pc = .raised message → old.pc = .raised message := by
  rcases h with rfl | rfl
  · exact ⟨caller, hmember, rfl, fun _ => id⟩
  · obtain ⟨old, hold, rfl⟩ := List.mem_map.mp hmember
    refine ⟨old, hold, ?_⟩
    dsimp only
    cases old.pc <;> exact ⟨rfl, fun _ => by first | exact id | nofun⟩

/-- A call that goes on to close the run is not asleep. -/
theorem SameCalls.stops {callers later : List Caller} (h : SameCalls callers later)
    (hstops : ∃ caller ∈ callers, caller.pc.stops = true) :
    ∃ caller ∈ later, caller.pc.stops = true := by
  rcases h with rfl | rfl
  · exact hstops
  · obtain ⟨caller, hmember, hcaller⟩ := hstops
    refine ⟨_, List.mem_map_of_mem hmember, ?_⟩
    dsimp only
    cases hpc : caller.pc with
    | cancelling runFailed => rfl
    | sampling runFailed => rfl
    | _ =>
        rw [hpc] at hcaller
        cases hcaller

theorem CallMove.sameCalls {strict : Prop} {entry : TrafficTasks × CallerPc}
    (hmove : CallMove strict s entry) : entry.1.callers = s.callers := by
  cases hmove with
  | idle t pc hneutral hphase hidle hwoken hfits => exact hneutral.callers
  | cancels t runFailed hneutral hphase hdone => exact hneutral.callers
  | begin t target m hneutral hphase hover hopen hdone => exact hneutral.callers

theorem Resumed.sameCalls {held : FinishPc} {outcome : FinishOutcome}
    (hresumed : Resumed s held t outcome) : SameCalls s.callers t.callers := by
  cases hresumed with
  | handed captured c terminal hview hfrozen hmirrors => exact Or.inl rfl
  | unpersisted terminal failed hmirrors => exact Or.inl rfl
  | persisted terminal => exact Or.inr rfl
  | copied terminal => exact Or.inr rfl

theorem ResumeMove.sameCalls {strict mayResume : Prop} {pc : CallerPc}
    {entry : TrafficTasks × CallerPc} (hmove : ResumeMove strict mayResume s pc entry) :
    SameCalls s.callers entry.1.callers := by
  cases hmove with
  | call entry hidle hmove => exact Or.inl hmove.sameCalls
  | woken target m hpc hmay => exact Or.inl rfl
  | finish target held t outcome hpc hresumed => exact hresumed.sameCalls

/-- The run task leaves the calls alone, and does not tell itself to end. -/
theorem RunMove.sameCalls {strict : Prop} (hmove : RunMove strict s t) :
    SameCalls s.callers t.callers ∧ t.cancelRequested = s.cancelRequested := by
  cases hmove with
  | idle u pc hneutral hfree hidle hfits =>
      exact ⟨Or.inl hneutral.callers, hneutral.cancelRequested⟩
  | begin u target m hneutral hfree hopen =>
      exact ⟨Or.inl hneutral.callers, hneutral.cancelRequested⟩
  | finish target held m u outcome hpc hresumed =>
      have hsame := hresumed.sameCalls
      cases hresumed with
      | handed captured c terminal hview hfrozen hmirrors => exact ⟨hsame, rfl⟩
      | unpersisted terminal failed hmirrors => exact ⟨hsame, rfl⟩
      | persisted terminal => exact ⟨hsame, rfl⟩
      | copied terminal => exact ⟨hsame, rfl⟩

/-- What a step that starts no run does to the calls. -/
inductive CallsMove (s : TrafficTasks) : Action → List Caller → Prop where
  | kept (a : Action) (later : List Caller) (hsame : SameCalls s.callers later) :
      CallsMove s a later
  | call (m : Moment) (kind : CallerKind) (pc : CallerPc) :
      CallsMove s (.call m kind) (s.callers ++ [{ kind := kind, pc := pc }])
  | resume (i : Nat) (m : Moment) (input : CallerInput) (caller : Caller) (pc : CallerPc)
      (later : List Caller) (hget : s.callers[i]? = some caller)
      (hsame : SameCalls s.callers later) :
      CallsMove s (.resume i m input) (later.set i { caller with pc := pc })

theorem callsMove_step (pb : Protobuf) (h : Structured s) {a : Action} (hstarts : a.starts = false)
    (hstep : step pb s a = some t) : CallsMove s a t.callers := by
  cases a with
  | start m runId request scenarioSnapshot baseline => cases hstarts
  | run m input =>
      unfold step at hstep
      dsimp only at hstep
      split at hstep
      · cases hstep
      · have hmove : RunMove False s t :=
          runMove_resumeRun pb h.controlled h.run False.elim hstep
        exact .kept _ _ hmove.sameCalls.1
  | cancelled =>
      have hcallers : s.cancelled.callers = s.callers ∨
          s.cancelled.callers = s.callers.map fun caller =>
            { caller with pc := caller.pc.wake } := by
        unfold cancelled
        split
        · exact Or.inl rfl
        · exact Or.inl rfl
        · exact Or.inl rfl
        · exact Or.inr rfl
        · exact Or.inl rfl
      unfold step at hstep
      dsimp only at hstep
      split at hstep <;> cases hstep
      exact .kept _ _ hcallers
  | call m kind =>
      cases hstep
      have hmove : CallMove False s (s.enterCall m kind) := callMove_enterCall h m kind
      dsimp only
      rw [hmove.sameCalls]
      exact .call m kind _
  | resume i m input =>
      unfold step at hstep
      dsimp only at hstep
      split at hstep
      · cases hstep
      · next caller hget =>
          obtain ⟨entry, hresume, rfl⟩ := Option.map_eq_some_iff.mp hstep
          have hmove : ResumeMove False True s caller.pc entry :=
            resumeMove_resumeCall h.controlled (h.callers caller (List.mem_of_getElem? hget))
              (fun _ _ => trivial) hresume
          exact .resume i m input caller entry.2 entry.1.callers hget hmove.sameCalls
  | _ =>
      cases hstep
      exact .kept _ _ (Or.inl rfl)

/-! ## What holds in every reachable state -/

/-- The run is closed, or a call goes on to close it. -/
def Ending (s : TrafficTasks) : Prop :=
  s.controller.Closed ∨ ∃ caller ∈ s.callers, caller.pc.stops = true

/-- A run task that has ended, or that is told to end, leaves a run that is ending. -/
structure Stopping (s : TrafficTasks) : Prop where
  idle : s.controller.currentId = none → s.controller.Closed
  ended : s.runTask = .done ∨ s.cancelRequested = true → Ending s
  raised : ∀ caller ∈ s.callers, ∀ message, caller.pc ≠ .raised message

theorem stopping_new (scenario : Scenario) (hardwareIds : Dict String Nat)
    (buildMetadata : BuildMetadata) (settleSeconds : Option ℚ) (failedReceptionSampler : Bool) :
    Stopping (.new scenario hardwareIds buildMetadata settleSeconds failedReceptionSampler) where
  idle _ := Or.inr rfl
  ended _ := Or.inl (Or.inr rfl)
  raised caller hmember := by cases hmember

theorem Stopping.closable (h : Stopping s) (hsound : Sound s) : Closable s.controller :=
  hsound.structured.controlled.closable h.idle

/-- What is published for a run keeps it closed. -/
theorem closed_of_publishes {streamId : String} (hsound : Sound s)
    (hpublishes : Publishes streamId s.controller t.controller) (hclosed : s.controller.Closed) :
    t.controller.Closed :=
  (hpublishes.quiesced (hsound.structured.controlled.quiesced hclosed)).closed

/-- A run that has started is open, and nobody stops it yet. -/
theorem Stopping.started (h : Stopping s) (m : Moment) (runId : String)
    (request : TrafficRunRequest) (scenarioSnapshot : Option Scenario)
    (baseline : Option FailedReceptionSample) :
    Stopping (s.started m runId request scenarioSnapshot baseline) := by
  unfold TrafficTasks.started
  split
  · next c error hstart =>
      rcases start_outcomes hstart with ⟨_, ids, _, rfl⟩ | ⟨houtcome, _⟩
      · exact ⟨h.idle, h.ended, h.raised⟩
      · cases houtcome
  · next c started hstart =>
      rcases start_outcomes hstart with
        ⟨_, _, houtcome, _⟩ | ⟨_, _, ids, accumulators, run, hrunId, _, rfl⟩
      · cases houtcome
      · refine ⟨?_, ?_, ?_⟩
        · intro hnone
          cases hnone
        · rintro (hover | hcancel)
          · cases hover
          · cases hcancel
        · intro caller hmember
          cases hmember

/-- The run task ends or goes on, and no call changes but by being woken. -/
theorem Stopping.kept {streamId : String} (h : Stopping s) (hsound : Sound s)
    (hpublishes : Publishes streamId s.controller t.controller)
    (hsame : SameCalls s.callers t.callers)
    (hended : t.runTask = .done ∨ t.cancelRequested = true →
      t.controller.Closed ∨ s.runTask = .done ∨ s.cancelRequested = true) : Stopping t where
  idle hnone := closed_of_publishes hsound hpublishes
    (h.idle (hpublishes.currentId.symm.trans hnone))
  ended hover := by
    rcases hended hover with hclosed | hbefore
    · exact Or.inl hclosed
    · exact (h.ended hbefore).imp (closed_of_publishes hsound hpublishes) hsame.stops
  raised caller hmember message hraised := by
    obtain ⟨old, hold, _, hbefore⟩ := hsame.of_mem hmember
    exact h.raised old hold message (hbefore message hraised)

/-- One call has gone on. -/
theorem Stopping.reached {streamId : String} (h : Stopping s) (hsound : Sound s)
    {entry : TrafficTasks × CallerPc} {callers later : List Caller} {kind : CallerKind}
    (hpublishes : Publishes streamId s.controller entry.1.controller) (hreached : Reached entry)
    (hsame : SameCalls s.callers callers) (hnew : { kind := kind, pc := entry.2 } ∈ later)
    (hlater : ∀ caller ∈ later, caller ∈ callers ∨ caller = { kind := kind, pc := entry.2 }) :
    Stopping { entry.1 with callers := later } where
  idle hnone := closed_of_publishes hsound hpublishes
    (h.idle (hpublishes.currentId.symm.trans hnone))
  ended _ := hreached.symm.imp And.left fun hstops => ⟨_, hnew, hstops⟩
  raised caller hmember message hraised := by
    rcases hlater caller hmember with hold | rfl
    · obtain ⟨old, hold, _, hbefore⟩ := hsame.of_mem hold
      exact h.raised old hold message (hbefore message hraised)
    · exact hreached.not_raised message hraised

theorem Stopping.call (h : Stopping s) (hsound : Sound s) (m : Moment) (kind : CallerKind) :
    Stopping { (s.enterCall m kind).1 with
      callers := (s.enterCall m kind).1.callers ++
        [{ kind := kind, pc := (s.enterCall m kind).2 }] } := by
  have hpublishes : Publishes "" _ _ := publishes_enterCall s m kind
  rcases halts_enterCall (h.closable hsound) m kind with hreached | ⟨hrefused, _⟩
  · have hmove : CallMove False s _ := callMove_enterCall hsound.structured m kind
    refine h.reached hsound hpublishes hreached (Or.inl rfl)
      (List.mem_append_right _ (List.mem_singleton.mpr rfl)) ?_
    intro caller hmember
    rw [hmove.sameCalls] at hmember
    exact (List.mem_append.mp hmember).imp id List.mem_singleton.mp
  · rw [hrefused]
    refine ⟨h.idle, ?_, ?_⟩
    · intro hended
      exact (h.ended hended).imp id fun ⟨caller, hmember, hstops⟩ =>
        ⟨caller, List.mem_append_left _ hmember, hstops⟩
    · intro caller hmember message
      rcases List.mem_append.mp hmember with hold | hnew
      · exact h.raised caller hold message
      · rw [List.mem_singleton.mp hnew]
        nofun

/-- Every step keeps what holds in every reachable state. -/
theorem Stopping.step (pb : Protobuf) (h : Stopping s) (hsound : Sound s) {a : Action}
    (hstep : step pb s a = some t) : Stopping t := by
  have hstructured := hsound.structured
  cases a with
  | start m runId request scenarioSnapshot baseline =>
      unfold TrafficTasks.step at hstep
      dsimp only at hstep
      split at hstep <;> cases hstep
      exact h.started m runId request scenarioSnapshot baseline
  | run m input =>
      have hpublishes : Publishes m.streamId _ _ :=
        publishes_step pb hstructured rfl (fun _ hm => by cases hm; rfl) hstep
      unfold TrafficTasks.step at hstep
      dsimp only at hstep
      split at hstep
      · cases hstep
      · next hcancel =>
          have hmove : RunMove False s t :=
            runMove_resumeRun pb hstructured.controlled hstructured.run False.elim hstep
          refine h.kept hsound hpublishes hmove.sameCalls.1 ?_
          rintro (hover | hrequested)
          · exact Or.inl ((unended_resumeRun pb hstructured h.idle hstep).resolve_left
              fun hactive => hactive.1 hover).closed
          · rw [hmove.sameCalls.2] at hrequested
            exact absurd hrequested hcancel
  | cancelled =>
      have hpublishes : Publishes "" _ _ := publishes_step pb hstructured rfl
        (fun _ hm => by cases hm) hstep
      have hcalls := callsMove_step pb hstructured rfl hstep
      unfold TrafficTasks.step at hstep
      dsimp only at hstep
      split at hstep
      · next hrequested =>
          cases hcalls with
          | kept _ _ hsame =>
              exact h.kept hsound hpublishes hsame fun _ => Or.inr (Or.inr hrequested.1)
      · cases hstep
  | call m kind =>
      cases hstep
      exact h.call hsound m kind
  | resume i m input =>
      unfold TrafficTasks.step at hstep
      dsimp only at hstep
      split at hstep
      · cases hstep
      · next caller hget =>
          obtain ⟨entry, hresume, rfl⟩ := Option.map_eq_some_iff.mp hstep
          have hfits := hstructured.callers caller (List.mem_of_getElem? hget)
          have hmove : ResumeMove False True s caller.pc entry :=
            resumeMove_resumeCall hstructured.controlled hfits (fun _ _ => trivial) hresume
          have hlength : entry.1.callers.length = s.callers.length := by
            rcases hmove.sameCalls with hsame | hwoken
            · rw [hsame]
            · rw [hwoken, List.length_map]
          refine h.reached hsound (publishes_resumeCall hstructured.controlled rfl hfits hresume)
            (reached_resumeCall hstructured.controlled (h.closable hsound) hfits hresume)
            hmove.sameCalls (List.mem_set ?_ _) fun _ => List.mem_or_eq_of_mem_set
          rw [hlength]
          exact (List.getElem?_eq_some_iff.mp hget).1
  | topologyChange event link =>
      have hpublishes : Publishes "" _ _ := publishes_step pb hstructured rfl
        (fun _ hm => by cases hm) hstep
      cases hstep
      exact h.kept hsound hpublishes (Or.inl rfl) Or.inr
  | fromRadio m _ _ | rfTransmission m _ _ _ | drop m _ _ _ | failedReceptions m _ _
  | duplicateReceptions m _ _ | eventLoopLag m _ =>
      have hpublishes : Publishes m.streamId _ _ :=
        publishes_step pb hstructured rfl (fun _ hm => by cases hm; rfl) hstep
      cases hstep
      exact h.kept hsound hpublishes (Or.inl rfl) Or.inr

/-- A call of `stop` ends the run. -/
theorem Stopping.ending_of_stop (h : Stopping s) (hsound : Sound s) (m : Moment) :
    Ending { (s.enterCall m .stop).1 with
      callers := (s.enterCall m .stop).1.callers ++
        [{ kind := .stop, pc := (s.enterCall m .stop).2 }] } := by
  rcases halts_enterCall (h.closable hsound) m .stop with
    (hstops | ⟨hclosed, _⟩) | ⟨hrefused, hdone⟩
  · exact Or.inr ⟨_, List.mem_append_right _ (List.mem_singleton.mpr rfl), hstops⟩
  · exact Or.inl hclosed
  · rw [hrefused]
    exact (h.ended (Or.inl (hdone rfl))).imp id fun ⟨caller, hmember, hstops⟩ =>
      ⟨caller, List.mem_append_left _ hmember, hstops⟩

/-- A run that is ending goes on to end. -/
theorem Ending.step (pb : Protobuf) (h : Ending s) (hstopping : Stopping s) (hsound : Sound s)
    {a : Action} (hstarts : a.starts = false) (hstep : TrafficTasks.step pb s a = some t) :
    Ending t := by
  rcases h with hclosed | hstops
  · obtain ⟨streamId, hclock⟩ : ∃ streamId, ∀ m ∈ a.moment, m.streamId = streamId := by
      cases a.moment with
      | none => exact ⟨"", fun m hm => by cases hm⟩
      | some m => exact ⟨m.streamId, fun _ hm => by cases hm; rfl⟩
    exact Or.inl (closed_of_publishes hsound
      (publishes_step pb hsound.structured hstarts hclock hstep) hclosed)
  · have hcalls := callsMove_step pb hsound.structured hstarts hstep
    generalize hlater : t.callers = later at hcalls
    cases hcalls with
    | kept _ _ hsame => exact Or.inr (hlater ▸ hsame.stops hstops)
    | call m kind pc =>
        obtain ⟨caller, hmember, hcaller⟩ := hstops
        exact Or.inr ⟨caller, hlater ▸ List.mem_append_left _ hmember, hcaller⟩
    | resume i m input caller pc callers hget hsame =>
        unfold TrafficTasks.step at hstep
        dsimp only at hstep
        rw [hget] at hstep
        obtain ⟨entry, hresume, rfl⟩ := Option.map_eq_some_iff.mp hstep
        have hfits := hsound.structured.callers caller (List.mem_of_getElem? hget)
        rcases reached_resumeCall hsound.structured.controlled (hstopping.closable hsound) hfits
          hresume with hgoes | ⟨hclosed, _⟩
        · have hmove : ResumeMove False True s caller.pc entry :=
            resumeMove_resumeCall hsound.structured.controlled hfits (fun _ _ => trivial) hresume
          have hbound : i < entry.1.callers.length := by
            have hplace := (List.getElem?_eq_some_iff.mp hget).1
            rcases hmove.sameCalls with hsame | hwoken
            · rwa [hsame]
            · rwa [hwoken, List.length_map]
          exact Or.inr ⟨_, List.mem_set hbound _, hgoes⟩
        · exact Or.inl hclosed

/-! ## Calls that are over -/

theorem not_over_of_stops {pc : CallerPc} (hstops : pc.stops = true) :
    CallerPc.isOver pc = false := by
  cases pc <;> first | rfl | cases hstops

theorem isOver_wake (pc : CallerPc) : CallerPc.isOver pc.wake = CallerPc.isOver pc := by
  cases pc <;> rfl

/-- A call that is over does not go on. -/
theorem not_over_of_resumeCall {m : Moment} {kind : CallerKind} {pc : CallerPc}
    {input : CallerInput} {entry : TrafficTasks × CallerPc}
    (hresume : s.resumeCall m kind pc input = some entry) : CallerPc.isOver pc = false := by
  cases pc with
  | returned value => cases input <;> cases hresume
  | raised message => cases input <;> cases hresume
  | _ => rfl

/-- A run that is ending is closed when all calls are over. -/
theorem Ending.closed (h : Ending s)
    (hover : ∀ caller ∈ s.callers, CallerPc.isOver caller.pc = true) : s.controller.Closed := by
  rcases h with hclosed | ⟨caller, hmember, hstops⟩
  · exact hclosed
  · have hended := hover caller hmember
    rw [not_over_of_stops hstops] at hended
    cases hended

/-- A call that is over leaves a closed run. -/
theorem Reached.closed {entry : TrafficTasks × CallerPc} (h : Reached entry)
    (hover : CallerPc.isOver entry.2 = true) : entry.1.controller.Closed := by
  rcases h with hstops | ⟨hclosed, _⟩
  · rw [not_over_of_stops hstops] at hover
    cases hover
  · exact hclosed

/-- A call of `stop` that is over while no other call is under way leaves a closed run. -/
theorem Stopping.closed_of_stop (h : Stopping s) (hsound : Sound s)
    (hfree : ∀ caller ∈ s.callers, CallerPc.isOver caller.pc = true) (m : Moment)
    (hover : CallerPc.isOver (s.enterCall m .stop).2 = true) :
    (s.enterCall m .stop).1.controller.Closed := by
  rcases halts_enterCall (h.closable hsound) m .stop with hreached | ⟨hrefused, hdone⟩
  · exact hreached.closed hover
  · rw [hrefused]
    exact (h.ended (Or.inl (hdone rfl))).closed hfree

/-- A call stays where it is unless it goes on itself, and it then ends only in a closed
run. -/
theorem Stopping.calls_step (pb : Protobuf) (h : Stopping s) (hsound : Sound s) {a : Action}
    (hstarts : a.starts = false) (hcall : ∀ m kind, a ≠ .call m kind)
    (hstep : TrafficTasks.step pb s a = some t) {i : Nat} {caller : Caller}
    (hget : t.callers[i]? = some caller) :
    ∃ old, s.callers[i]? = some old ∧ caller.kind = old.kind ∧
      (CallerPc.isOver old.pc = true → CallerPc.isOver caller.pc = true) ∧
      (CallerPc.isOver old.pc = false → CallerPc.isOver caller.pc = true →
        t.controller.Closed) := by
  have hstays : ∀ later, SameCalls s.callers later → later[i]? = some caller →
      ∃ old, s.callers[i]? = some old ∧ caller.kind = old.kind ∧
        (CallerPc.isOver old.pc = true → CallerPc.isOver caller.pc = true) ∧
        (CallerPc.isOver old.pc = false → CallerPc.isOver caller.pc = true →
          t.controller.Closed) := by
    intro later hsame hlater
    obtain ⟨old, hold, hkind, hover⟩ : ∃ old, s.callers[i]? = some old ∧
        caller.kind = old.kind ∧ CallerPc.isOver caller.pc = CallerPc.isOver old.pc := by
      rcases hsame with rfl | rfl
      · exact ⟨caller, hlater, rfl, rfl⟩
      · rw [List.getElem?_map] at hlater
        obtain ⟨old, hold, rfl⟩ := Option.map_eq_some_iff.mp hlater
        exact ⟨old, hold, rfl, isOver_wake old.pc⟩
    refine ⟨old, hold, hkind, fun hended => hover.trans hended, fun hactive hended => ?_⟩
    rw [hover, hactive] at hended
    cases hended
  have hcalls := callsMove_step pb hsound.structured hstarts hstep
  generalize hlater : t.callers = later at hcalls
  cases hcalls with
  | kept _ _ hsame => exact hstays later hsame (hlater ▸ hget)
  | call m kind pc => exact absurd rfl (hcall m kind)
  | resume j m input _ _ callers hget' hsame =>
      by_cases hij : j = i
      · subst hij
        unfold TrafficTasks.step at hstep
        dsimp only at hstep
        split at hstep
        · cases hstep
        · next old hold =>
            obtain ⟨entry, hresume, rfl⟩ := Option.map_eq_some_iff.mp hstep
            have hfits := hsound.structured.callers old (List.mem_of_getElem? hold)
            have hactive := not_over_of_resumeCall hresume
            rw [List.getElem?_set_self'] at hget
            obtain ⟨_, _, rfl⟩ := Option.map_eq_some_iff.mp hget
            refine ⟨old, hold, rfl, fun hended => ?_, fun _ hended => ?_⟩
            · rw [hactive] at hended
              cases hended
            · exact (reached_resumeCall hsound.structured.controlled (h.closable hsound) hfits
                hresume).closed hended
      · rw [hlater, List.getElem?_set_ne hij] at hget
        exact hstays callers hsame hget

/-! ## Before the first run -/

/-- No run has been started, and no call is under way. -/
structure Unstarted (s : TrafficTasks) : Prop where
  currentId : s.controller.currentId = none
  state : s.controller.state = .idle
  finalizationDone : s.controller.finalizationDone = true
  runTask : s.runTask = .done
  callers : ∀ caller ∈ s.callers, CallerPc.isOver caller.pc = true

theorem Unstarted.current (h : Unstarted s) : s.controller.current = none :=
  Option.map_eq_none_iff.mp h.currentId

theorem unstarted_new (scenario : Scenario) (hardwareIds : Dict String Nat)
    (buildMetadata : BuildMetadata) (settleSeconds : Option ℚ) (failedReceptionSampler : Bool) :
    Unstarted (.new scenario hardwareIds buildMetadata settleSeconds failedReceptionSampler) where
  currentId := rfl
  state := rfl
  finalizationDone := rfl
  runTask := rfl
  callers caller hmember := by cases hmember

/-- Nothing happens before the first run. -/
theorem Unstarted.step (pb : Protobuf) (h : Unstarted s) {a : Action} (hstarts : a.starts = false)
    (hcall : ∀ m kind, a ≠ .call m kind) (hstep : TrafficTasks.step pb s a = some t) : t = s := by
  have hcurrent := h.current
  cases a with
  | start m runId request scenarioSnapshot baseline => cases hstarts
  | call m kind => exact absurd rfl (hcall m kind)
  | fromRadio m nodeId message =>
      cases hstep
      unfold handleFromRadio
      rw [hcurrent]
      rfl
  | rfTransmission m transmitter packet packetAirtimeMs =>
      cases hstep
      unfold recordRfTransmission
      rw [hcurrent]
      rfl
  | drop m transmitter packet reason =>
      cases hstep
      unfold recordDrop
      rw [if_pos (Or.inl hcurrent)]
      rfl
  | failedReceptions m nodeId total =>
      cases hstep
      unfold recordFailedReceptions
      rw [if_pos (Or.inl hcurrent)]
      rfl
  | duplicateReceptions m nodeId total =>
      cases hstep
      unfold recordDuplicateReceptions
      rw [if_pos (Or.inl hcurrent)]
      rfl
  | eventLoopLag m lagMs =>
      cases hstep
      unfold setEventLoopLag
      rw [if_pos (Or.inl hcurrent)]
      rfl
  | topologyChange event link =>
      cases hstep
      unfold recordTopologyChange
      rw [if_pos (Or.inl hcurrent)]
      rfl
  | run m input =>
      unfold TrafficTasks.step at hstep
      dsimp only at hstep
      rw [h.runTask] at hstep
      split at hstep
      · cases hstep
      · cases input <;> cases hstep
  | cancelled =>
      unfold TrafficTasks.step at hstep
      dsimp only at hstep
      rw [if_neg fun hrequested => hrequested.2 h.runTask] at hstep
      cases hstep
  | resume i m input =>
      unfold TrafficTasks.step at hstep
      dsimp only at hstep
      split at hstep
      · cases hstep
      · next caller hget =>
          obtain ⟨entry, hresume, _⟩ := Option.map_eq_some_iff.mp hstep
          have hover := h.callers caller (List.mem_of_getElem? hget)
          rw [not_over_of_resumeCall hresume] at hover
          cases hover

/-- Before the first run `stop` returns at once. -/
theorem Unstarted.stop (h : Unstarted s) (m : Moment) :
    s.enterCall m .stop = (s, .returned true) := by
  have hfrozen : s.controller.frozenResult = none := by
    have hcurrent := h.current
    unfold TrafficController.current at hcurrent
    unfold frozenResult
    split at hcurrent
    · next hopen => rw [hopen]; rfl
    · cases hcurrent
  unfold enterCall
  dsimp only
  rw [if_neg fun hended => hended.2 hfrozen, if_pos h.finalizationDone]
  unfold afterWait
  dsimp only
  rw [h.state, if_neg nofun, if_pos h.runTask]

/-! ## Going on -/

/-- The tasks have gone on, and no run was started and no call made. -/
structure Onward (s t : TrafficTasks) : Prop where
  sound : Sound t
  stopping : Stopping t
  closed : s.controller.Closed → t.controller.Closed
  ending : Ending s → Ending t
  calls : ∀ (i : Nat) (caller : Caller), t.callers[i]? = some caller →
    ∃ old : Caller, s.callers[i]? = some old ∧
    (CallerPc.isOver old.pc = true → CallerPc.isOver caller.pc = true) ∧
    (CallerPc.isOver old.pc = false → CallerPc.isOver caller.pc = true → t.controller.Closed)
  unstarted : Unstarted s → Unstarted t

theorem Onward.refl (hsound : Sound s) (h : Stopping s) : Onward s s where
  sound := hsound
  stopping := h
  closed := id
  ending := id
  calls i caller hget := by
    refine ⟨caller, hget, id, fun hactive hended => ?_⟩
    rw [hactive] at hended
    cases hended
  unstarted := id

theorem Onward.trans (hfirst : Onward s t) (hsecond : Onward t u) : Onward s u where
  sound := hsecond.sound
  stopping := hsecond.stopping
  closed hclosed := hsecond.closed (hfirst.closed hclosed)
  ending hending := hsecond.ending (hfirst.ending hending)
  calls i caller hget := by
    obtain ⟨middle, hmiddle, hstays, hends⟩ := hsecond.calls i caller hget
    obtain ⟨old, hold, hstays', hends'⟩ := hfirst.calls i middle hmiddle
    refine ⟨old, hold, fun hover => hstays (hstays' hover), fun hactive hended => ?_⟩
    cases hover : CallerPc.isOver middle.pc with
    | true => exact hsecond.closed (hends' hactive hover)
    | false => exact hends hover hended
  unstarted h := hsecond.unstarted (hfirst.unstarted h)

theorem Stopping.onward (pb : Protobuf) (h : Stopping s) (hsound : Sound s) {a : Action}
    (hstarts : a.starts = false) (hcall : ∀ m kind, a ≠ .call m kind)
    (hstep : TrafficTasks.step pb s a = some t) : Onward s t where
  sound := hsound.step pb hstep
  stopping := h.step pb hsound hstep
  closed hclosed := by
    obtain ⟨streamId, hclock⟩ : ∃ streamId, ∀ m ∈ a.moment, m.streamId = streamId := by
      cases a.moment with
      | none => exact ⟨"", fun m hm => by cases hm⟩
      | some m => exact ⟨m.streamId, fun _ hm => by cases hm; rfl⟩
    exact closed_of_publishes hsound (publishes_step pb hsound.structured hstarts hclock hstep)
      hclosed
  ending hending := hending.step pb h hsound hstarts hstep
  calls i caller hget := by
    obtain ⟨old, hold, _, hover⟩ := h.calls_step pb hsound hstarts hcall hstep hget
    exact ⟨old, hold, hover⟩
  unstarted hunstarted := by
    rw [hunstarted.step pb hstarts hcall hstep]
    exact hunstarted

/-- The medium publishes an event. -/
theorem Stopping.publish (h : Stopping s) (hsound : Sound s) (event : PacketEvent) :
    Onward s (s.withController (s.controller.publish event)) := by
  have hneutral : Neutral False s (s.withController (s.controller.publish event)) :=
    .of_frame (.of_view hsound.structured.controlled rfl rfl) rfl
  have hpublished : Sound (s.withController (s.controller.publish event)) :=
    ⟨hsound.structured.neutral hneutral rfl, hsound.held.neutral hneutral, hsound.ledgered⟩
  have honward := Onward.refl hsound h
  exact ⟨hpublished, ⟨h.idle, h.ended, h.raised⟩, id, id, honward.calls, fun hunstarted =>
    ⟨hunstarted.currentId, hunstarted.state, hunstarted.finalizationDone, hunstarted.runTask,
      hunstarted.callers⟩⟩

end TrafficTasks

end MeshtasticLab.Traffic

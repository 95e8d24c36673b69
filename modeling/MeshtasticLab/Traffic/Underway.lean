/-
  Traffic/Underway.lean --- the state of a run before its result is frozen.

  WHAT THIS FILE IS FOR

  `start` sets the state to `RUNNING`, a call that ends the run sets it to `STOPPING`,
  and only the end of `_finish` sets any other.  So a run without a frozen result never
  shows a terminal state.  Until then only `record_topology_change` adds to the changes
  of the topology.
-/
import MeshtasticLab.Traffic.LocalStats
import MeshtasticLab.Traffic.Settling

set_option autoImplicit false

namespace MeshtasticLab.Traffic

open MeshtasticLab.Foundation MeshtasticLab.Gateway MeshtasticLab.Metrics MeshtasticLab.Models

namespace TrafficController

variable {c d e : TrafficController}

/-! ## Handlers of the run task -/

@[simp] theorem state_modifyCurrent (c : TrafficController)
    (f : TrafficRunResult → TrafficRunResult) : (c.modifyCurrent f).state = c.state := by
  unfold modifyCurrent
  split <;> rfl

@[simp] theorem state_publishMetricUpdate (c : TrafficController) (m : Moment)
    (values : List (String × MetricValue)) (result : String) :
    (c.publishMetricUpdate m values result).state = c.state := by
  unfold publishMetricUpdate
  split
  · rfl
  · split <;> rfl

@[simp] theorem state_markSubmitted (c : TrafficController) (ref : Nat) :
    (c.markSubmitted ref).state = c.state := by
  unfold markSubmitted
  exact state_modifyCurrent _ _

@[simp] theorem state_markFailed (c : TrafficController) (ref : Nat) (error : String) :
    (c.markFailed ref error).state = c.state := by
  unfold markFailed
  exact state_modifyCurrent _ _

@[simp] theorem state_resolveSubmission (c : TrafficController) (m : Moment) (source : String)
    (ref : Nat) (error : Option String) :
    (c.resolveSubmission m source ref error).state = c.state := by
  unfold resolveSubmission publishSubmissionCounts
  split
  · split
    · rfl
    · dsimp only
      refine (state_publishMetricUpdate _ m _ _).trans ?_
      cases error with
      | none => exact state_markSubmitted c ref
      | some error => exact state_markFailed c ref error
  · rfl

/-- A loop of changes that leave the state leaves it. -/
theorem state_foldl {α : Type} {f : TrafficController → α → TrafficController}
    (hstep : ∀ c x, (f c x).state = c.state) (l : List α) (c : TrafficController) :
    (l.foldl f c).state = c.state := by
  induction l generalizing c with
  | nil => rfl
  | cons first rest ih => exact (ih (f c first)).trans (hstep c first)

@[simp] theorem state_finalizePendingSubmissions (c : TrafficController) (m : Moment) :
    (c.finalizePendingSubmissions m).state = c.state := by
  unfold finalizePendingSubmissions
  exact state_foldl (fun c entry => state_resolveSubmission c m _ _ _) _ c

@[simp] theorem state_beginFinalization (c : TrafficController) (m : Moment) :
    (c.beginFinalization m).state = c.state := by
  unfold beginFinalization
  exact state_finalizePendingSubmissions _ m

@[simp] theorem state_recordFailedReceptions (c : TrafficController) (m : Moment) (nodeId : String)
    (total : Nat) : (c.recordFailedReceptions m nodeId total).state = c.state := by
  unfold recordFailedReceptions
  split
  · rfl
  · dsimp only
    split
    · rfl
    · split
      · rfl
      · exact state_publishMetricUpdate _ m _ _

@[simp] theorem state_recordDuplicateReceptions (c : TrafficController) (m : Moment)
    (nodeId : String) (total : Nat) :
    (c.recordDuplicateReceptions m nodeId total).state = c.state := by
  unfold recordDuplicateReceptions
  split
  · rfl
  · dsimp only
    split
    · rfl
    · split
      · rfl
      · exact state_publishMetricUpdate _ m _ _

@[simp] theorem state_applyFinalSample (c : TrafficController) (m : Moment)
    (answer : Option FailedReceptionSample) : (c.applyFinalSample m answer).state = c.state := by
  unfold applyFinalSample
  split
  · rfl
  · dsimp only
    rw [state_modifyCurrent]
    refine (state_foldl ?_ _ _).trans (state_foldl ?_ _ c)
    · intro c entry
      split
      · exact state_recordDuplicateReceptions c m _ _
      · rfl
    · intro c entry
      split
      · exact state_recordFailedReceptions c m _ _
      · rfl

theorem state_submit {pb : Protobuf} {m : Moment} {source destination flowName : String}
    {draws : List Nat} {outcome : Except TrafficError (Option (Nat × MeshPacket))}
    (hsubmit : c.submit pb m source destination draws flowName = some (d, outcome)) :
    d.state = c.state := by
  unfold submit addGenerated at hsubmit
  dsimp only at hsubmit
  split at hsubmit
  · cases hsubmit
    rfl
  · split at hsubmit
    · cases hsubmit
      rfl
    · split at hsubmit
      · cases hsubmit
      · split at hsubmit
        · cases hsubmit
          rfl
        · cases hsubmit
          rfl
        · split at hsubmit <;> cases hsubmit <;> simp [modifyAccumulators, noteActivity]

@[simp] theorem state_submitFailed (c : TrafficController) (m : Moment) (source : String)
    (ref : Nat) (exception : String) :
    (c.submitFailed m source ref exception).state = c.state := by
  unfold submitFailed
  split
  · rfl
  · exact state_resolveSubmission _ m source ref _

/-! ## Runs under way -/

/-- The scenario of the current run with the changes of its topology. -/
def history (c : TrafficController) : Option (Scenario × List TopologyChange) :=
  c.current.map fun run => (run.scenarioSnapshot, run.topologyChanges)

theorem history_eq (c : TrafficController) :
    c.history = c.evidence.current.map fun r => (r.scenarioSnapshot, r.topologyChanges) := by
  rw [current_evidence, Option.map_map]
  rfl

theorem history_of_evidence (h : d.evidence = c.evidence) : d.history = c.history := by
  rw [history_eq, h, ← history_eq]

/-- A write to the current run that leaves its scenario and its topology. -/
theorem history_modifyCurrent (c : TrafficController) {f : TrafficRunResult → TrafficRunResult}
    (hsame : ∀ run, (f run).scenarioSnapshot = run.scenarioSnapshot ∧
      (f run).topologyChanges = run.topologyChanges) : (c.modifyCurrent f).history = c.history := by
  unfold modifyCurrent history current
  cases c.frozenResults <;> simp [hsame, Function.comp_def]

theorem history_submit {pb : Protobuf} {m : Moment} {source destination flowName : String}
    {draws : List Nat} {outcome : Except TrafficError (Option (Nat × MeshPacket))}
    {run : TrafficRunResult} (hcurrent : c.current = some run)
    (hsubmit : c.submit pb m source destination draws flowName = some (d, outcome)) :
    d.history = c.history := by
  rw [history_eq, evidence_submit hcurrent hsubmit, history_eq]
  rfl

theorem history_applyFinalSample (c : TrafficController) (m : Moment)
    (answer : Option FailedReceptionSample) :
    (c.applyFinalSample m answer).history = c.history := by
  cases hcurrent : c.current with
  | none =>
      unfold applyFinalSample
      rw [hcurrent]
  | some run =>
      rw [history_eq, evidence_applyFinalSample m answer hcurrent, history_eq]
      unfold Evidence.modifyCurrent Evidence.current
      cases hfrozen : c.evidence.frozen with
      | nil =>
          dsimp only
          rw [Option.map_map]
          rfl
      | cons frozen older => rfl

/-- The run goes on with its topology, in its state or being stopped. -/
structure Stays (c d : TrafficController) : Prop where
  state : d.state = c.state ∨ d.state = .stopping
  history : d.history = c.history

theorem Stays.refl (c : TrafficController) : Stays c c := ⟨Or.inl rfl, rfl⟩

theorem Stays.trans (hfirst : Stays c d) (hsecond : Stays d e) : Stays c e := by
  refine ⟨?_, hsecond.history.trans hfirst.history⟩
  rcases hsecond.state with hsame | hstopping
  · exact hfirst.state.imp hsame.trans hsame.trans
  · exact Or.inr hstopping

/-- A handler leaves the state and the evidence. -/
theorem Stays.of_same (hstate : d.state = c.state) (hevidence : d.evidence = c.evidence) :
    Stays c d :=
  ⟨Or.inl hstate, history_of_evidence hevidence⟩

theorem stays_finalizePendingSubmissions (c : TrafficController) (m : Moment) :
    Stays c (c.finalizePendingSubmissions m) :=
  .of_same (state_finalizePendingSubmissions c m) (evidence_finalizePendingSubmissions c m)

theorem stays_beginFinalization (c : TrafficController) (m : Moment) :
    Stays c (c.beginFinalization m) :=
  .of_same (state_beginFinalization c m) (evidence_beginFinalization c m)

theorem stays_applyFinalSample (c : TrafficController) (m : Moment)
    (answer : Option FailedReceptionSample) : Stays c (c.applyFinalSample m answer) :=
  ⟨Or.inl (state_applyFinalSample c m answer), history_applyFinalSample c m answer⟩

/-- A run without a frozen result is running or being stopped. -/
def Underway (c : TrafficController) : Prop :=
  c.frozenResult = none → c.currentId ≠ none → c.state = .running ∨ c.state = .stopping

theorem Underway.goesOn (h : Underway c) (hcontinues : Continues c d)
    (hstate : d.frozenResult ≠ none ∨ d.state = c.state ∨ d.state = .stopping) : Underway d := by
  intro hopen hid
  have hbefore : c.frozenResult = none := by
    by_contra hfrozen
    exact hcontinues.frozenResult hfrozen hopen
  have hrunning := h hbefore (hcontinues.currentId ▸ hid)
  rcases hstate.resolve_left (fun hfrozen => hfrozen hopen) with hsame | hstopping
  · rw [hsame]
    exact hrunning
  · exact Or.inr hstopping

end TrafficController

open TrafficController

namespace TrafficTasks

variable {s t : TrafficTasks}

/-! ## `_finish`, `stop` and `fail` -/

theorem stays_enterFinish (s : TrafficTasks) (m : Moment) :
    Stays s.controller (s.enterFinish m).1.controller := by
  rcases enterFinish_cases s m with ⟨value, heq⟩ | ⟨_, heq⟩ | ⟨_, _, heq⟩ <;> rw [heq]
  · exact .refl _
  · exact .refl _
  · exact stays_beginFinalization s.controller m

/-- A step of `_finish` that does not freeze the result leaves the state. -/
theorem stays_resumeFinish {pc : FinishPc} {m : Moment} {target : TrafficRunState}
    {input : FinishInput} {entry : TrafficTasks × FinishOutcome}
    (hresume : s.resumeFinish m target pc input = some entry) :
    (entry.1.controller.frozenResult ≠ none ∧ entry.2 = .returned true) ∨
      Stays s.controller entry.1.controller := by
  cases pc with
  | awaiting woken =>
      cases input with
      | woken =>
          cases woken with
          | true =>
              cases hresume
              exact Or.inr (stays_beginFinalization s.controller m)
          | false => cases hresume
      | timeout => cases woken <;> cases hresume <;> exact Or.inr ⟨Or.inl rfl, rfl⟩
      | _ => cases woken <;> cases hresume
  | computing captured =>
      cases input with
      | computed =>
          unfold resumeFinish at hresume
          dsimp only at hresume
          split at hresume
          · cases hresume
            exact Or.inr ⟨Or.inl rfl, rfl⟩
          · cases hresume
          · cases hresume
            exact Or.inr (.of_same (state_publishMetricUpdate s.controller m _ "snapshot")
              (evidence_publishMetricUpdate s.controller m _ "snapshot"))
      | _ => cases hresume
  | persisting terminal =>
      cases input with
      | persisted =>
          cases hresume
          exact Or.inl ⟨nofun, rfl⟩
      | persistenceRaised exception =>
          cases hresume
          exact Or.inr (.refl _)
      | _ => cases hresume
  | copying terminal =>
      cases input with
      | copied =>
          cases hresume
          exact Or.inl ⟨nofun, rfl⟩
      | _ => cases hresume

theorem stays_afterSampling (s : TrafficTasks) (m : Moment) (kind : CallerKind)
    (runFailed : Bool) : Stays s.controller (s.afterSampling m kind runFailed).1.controller := by
  unfold afterSampling
  split
  · exact .refl _
  · exact stays_enterFinish s m

theorem stays_afterCancel (s : TrafficTasks) (m : Moment) (kind : CallerKind)
    (runFailed : Bool) : Stays s.controller (s.afterCancel m kind runFailed).1.controller := by
  have hsampled : ∀ u : TrafficTasks, Stays s.controller u.controller →
      Stays s.controller (if u.controller.failedReceptionSampler then
        (u, CallerPc.sampling runFailed) else u.afterSampling m kind runFailed).1.controller := by
    intro u hu
    split
    · exact hu
    · exact hu.trans (stays_afterSampling u m kind runFailed)
  unfold afterCancel
  dsimp only
  cases runFailed with
  | true => exact hsampled s (.refl _)
  | false => exact hsampled _ (stays_finalizePendingSubmissions s.controller m)

theorem stays_cancelRunTask (s : TrafficTasks) (m : Moment) (kind : CallerKind)
    (runFailed : Bool) : Stays s.controller (s.cancelRunTask m kind runFailed).1.controller := by
  unfold cancelRunTask
  split
  · exact stays_afterCancel s m kind runFailed
  · exact .refl _

/-- The run has failed for a reason. -/
theorem stays_failing (c : TrafficController) (reason : String) :
    Stays c ({ c with state := .stopping }.modifyCurrent fun run =>
      { run with failure := some reason }) :=
  ⟨Or.inr (state_modifyCurrent _ _), history_modifyCurrent _ fun _ => ⟨rfl, rfl⟩⟩

theorem stays_afterWait (s : TrafficTasks) (m : Moment) (kind : CallerKind) :
    Stays s.controller (s.afterWait m kind).1.controller := by
  unfold afterWait
  cases kind with
  | stop =>
      dsimp only
      split
      · exact stays_cancelRunTask s m .stop true
      · split
        · exact .refl _
        · have hstopping : Stays s.controller { s.controller with state := .stopping } :=
            ⟨Or.inr rfl, rfl⟩
          exact hstopping.trans (stays_cancelRunTask
            (s.withController { s.controller with state := .stopping }) m .stop false)
  | fail reason =>
      dsimp only
      split
      · exact .refl _
      · exact (stays_failing s.controller reason).trans
          (stays_cancelRunTask (s.withController _) m _ false)

theorem stays_enterCall (s : TrafficTasks) (m : Moment) (kind : CallerKind) :
    Stays s.controller (s.enterCall m kind).1.controller := by
  unfold enterCall
  dsimp only
  split
  · exact .refl _
  · split
    · exact stays_afterWait s m kind
    · split <;> exact .refl _

theorem stays_resumeCall {pc : CallerPc} {m : Moment} {kind : CallerKind}
    {input : CallerInput} {entry : TrafficTasks × CallerPc}
    (hresume : s.resumeCall m kind pc input = some entry) :
    entry.1.controller.frozenResult ≠ none ∨ Stays s.controller entry.1.controller := by
  cases pc with
  | awaiting woken =>
      cases input with
      | woken =>
          cases woken with
          | true =>
              cases hresume
              exact Or.inr (stays_afterWait s m kind)
          | false => cases hresume
      | timeout => cases woken <;> cases hresume <;> exact Or.inr ⟨Or.inl rfl, rfl⟩
      | _ => cases woken <;> cases hresume
  | cancelling runFailed =>
      cases input with
      | runTaskDone =>
          obtain ⟨_, hsome⟩ := Option.ite_none_right_eq_some.mp hresume
          cases hsome
          exact Or.inr (stays_afterCancel s m kind runFailed)
      | _ => cases hresume
  | sampling runFailed =>
      cases input with
      | sampled answer =>
          cases hresume
          have hsampled : Stays s.controller (s.controller.applyFinalSample m answer) :=
            stays_applyFinalSample s.controller m answer
          exact Or.inr (hsampled.trans (stays_afterSampling (s.withController _) m kind runFailed))
      | _ => cases hresume
  | finishing target pc =>
      cases input with
      | finish input =>
          obtain ⟨resumed, hfinish, rfl⟩ := Option.map_eq_some_iff.mp hresume
          exact (stays_resumeFinish hfinish).imp And.left id
      | _ => cases hresume
  | returned value => cases input <;> cases hresume
  | raised message => cases input <;> cases hresume

/-! ## The run task -/

theorem stays_runAfterFinish (s : TrafficTasks) (m : Moment) (target : TrafficRunState)
    (outcome : FinishOutcome) :
    Stays s.controller (s.runAfterFinish m target outcome).controller := by
  unfold runAfterFinish
  cases outcome with
  | suspended pc => exact .refl _
  | returned value => exact .refl _
  | raised message =>
      dsimp only
      split
      · exact .refl _
      · have hentered := (stays_failing s.controller message).trans
          (stays_enterFinish (s.withController _) m)
        split <;> exact hentered

theorem stays_runFinish (s : TrafficTasks) (m : Moment) (target : TrafficRunState) :
    Stays s.controller (s.runFinish m target).controller :=
  (stays_enterFinish s m).trans (stays_runAfterFinish _ m target _)

theorem stays_runFailed (s : TrafficTasks) (m : Moment) (exception : String) :
    Stays s.controller (s.runFailed m exception).controller :=
  (stays_failing s.controller exception).trans (stays_runFinish (s.withController _) m .failed)

theorem stays_afterDrain (s : TrafficTasks) (m : Moment) :
    Stays s.controller (s.afterDrain m).controller := by
  have hended : Stays s.controller s.controller.endDrain := ⟨Or.inl rfl, rfl⟩
  unfold afterDrain
  dsimp only
  split
  · exact hended
  · exact hended.trans (stays_runFinish (s.withController s.controller.endDrain) m .completed)

theorem stays_expired (s : TrafficTasks) (m : Moment) :
    Stays s.controller
      ((s.withController (s.controller.finalizePendingSubmissions m)).afterDrain m).controller :=
  (stays_finalizePendingSubmissions s.controller m).trans
    (stays_afterDrain (s.withController (s.controller.finalizePendingSubmissions m)) m)

theorem stays_enterDrain (s : TrafficTasks) (m : Moment) :
    Stays s.controller (s.enterDrain m).controller := by
  have hbegun : Stays s.controller (s.controller.beginDrain m) := ⟨Or.inl rfl, rfl⟩
  unfold enterDrain
  dsimp only
  split
  · exact hbegun
  · split
    · exact hbegun.trans (stays_afterDrain (s.withController (s.controller.beginDrain m)) m)
    · exact hbegun.trans (stays_expired (s.withController (s.controller.beginDrain m)) m)
    · exact ⟨Or.inl rfl, rfl⟩

theorem stays_runSubmit {pb : Protobuf} {m : Moment} {flow source pick : Nat} {draws : List Nat}
    (hsubmit : s.runSubmit pb m flow source pick draws = some t) :
    Stays s.controller t.controller := by
  unfold runSubmit at hsubmit
  obtain ⟨run, hcurrent, hsubmit⟩ := Option.bind_eq_some_iff.mp hsubmit
  obtain ⟨flow, _, hsubmit⟩ := Option.bind_eq_some_iff.mp hsubmit
  obtain ⟨source, _, hsubmit⟩ := Option.bind_eq_some_iff.mp hsubmit
  split at hsubmit
  · cases hsubmit
    exact stays_runFailed s m _
  · obtain ⟨⟨c, outcome⟩, hcall, hsubmit⟩ := Option.bind_eq_some_iff.mp hsubmit
    have hsame : Stays s.controller c :=
      ⟨Or.inl (state_submit hcall), history_submit hcurrent hcall⟩
    cases outcome with
    | error error =>
        cases hsubmit
        exact hsame.trans (stays_runFailed (s.withController c) m _)
    | ok sent =>
        cases sent with
        | none => cases hsubmit
        | some sent =>
            cases hsubmit
            exact hsame

theorem stays_resumeRun (pb : Protobuf) {m : Moment} {pc : RunPc} {input : RunInput}
    (hresume : s.resumeRun pb m pc input = some t) :
    t.controller.frozenResult ≠ none ∨ Stays s.controller t.controller := by
  cases pc with
  | scheduled =>
      cases input with
      | begun =>
          cases hresume
          exact Or.inr (.refl _)
      | _ => cases hresume
  | sleeping =>
      cases input with
      | submit flow source pick draws => exact Or.inr (stays_runSubmit hresume)
      | _ => cases hresume
  | sending source ref =>
      cases input with
      | sent exception last =>
          obtain ⟨c, hsame, hsent⟩ : ∃ c, Stays s.controller c ∧
              s.resumeRun pb m (.sending source ref) (.sent exception last) =
                if last then some ((s.withController c).enterDrain m)
                else some { s.withController c with runTask := .sleeping } := by
            cases exception with
            | none => exact ⟨s.controller, .refl _, rfl⟩
            | some exception =>
                exact ⟨_, .of_same (state_submitFailed ..) (evidence_submitFailed ..), rfl⟩
          rw [hsent] at hresume
          split at hresume <;> cases hresume
          · exact Or.inr (hsame.trans (stays_enterDrain (s.withController c) m))
          · exact Or.inr hsame
      | _ => cases hresume
  | settling =>
      cases input with
      | drained =>
          cases hresume
          exact Or.inr (stays_expired s m)
      | _ => cases hresume
  | draining deadline =>
      cases input with
      | drained =>
          unfold resumeRun at hresume
          dsimp only at hresume
          split at hresume <;> cases hresume
          · exact Or.inr (stays_afterDrain s m)
          · exact Or.inr (stays_expired s m)
          · exact Or.inr ⟨Or.inl rfl, rfl⟩
      | _ => cases hresume
  | sampling =>
      cases input with
      | sampled answer =>
          cases hresume
          have hsampled : Stays s.controller (s.controller.applyFinalSample m answer) :=
            stays_applyFinalSample s.controller m answer
          exact Or.inr (hsampled.trans (stays_runFinish (s.withController _) m .completed))
      | _ => cases hresume
  | finishing target pc =>
      cases input with
      | finish input =>
          obtain ⟨resumed, hfinish, rfl⟩ := Option.map_eq_some_iff.mp hresume
          rcases stays_resumeFinish hfinish with ⟨hfrozen, hreturned⟩ | hstays
          · rw [hreturned]
            exact Or.inl hfrozen
          · exact Or.inr (hstays.trans (stays_runAfterFinish _ m target _))
      | _ => cases hresume
  | done => cases input <;> cases hresume

/-! ## Steps -/

/-- The step records a change of the topology. -/
def Action.changesTopology : Action → Bool
  | .topologyChange .. => true
  | _ => false

/-- What the medium and the gateways report leaves the evidence. -/
theorem evidence_event (pb : Protobuf) {a : Action} (hevent : a.isEvent = true)
    (hchanges : a.changesTopology = false) (hstep : step pb s a = some t) :
    t.controller.evidence = s.controller.evidence := by
  cases a with
  | fromRadio m nodeId message =>
      cases hstep
      exact evidence_handleFromRadio pb s.controller m nodeId message
  | rfTransmission m transmitter packet packetAirtimeMs =>
      cases hstep
      exact evidence_recordRfTransmission pb s.controller m transmitter packet packetAirtimeMs
  | drop m transmitter packet reason =>
      cases hstep
      exact evidence_recordDrop pb s.controller m transmitter packet reason
  | failedReceptions m nodeId total =>
      cases hstep
      exact evidence_recordFailedReceptions s.controller m nodeId total
  | duplicateReceptions m nodeId total =>
      cases hstep
      exact evidence_recordDuplicateReceptions s.controller m nodeId total
  | eventLoopLag m lagMs =>
      cases hstep
      exact evidence_setEventLoopLag s.controller m lagMs
  | topologyChange event link => cases hchanges
  | _ => cases hevent

/-- A step that starts no run freezes the result or lets the run go on, with its topology unless
it records a change. -/
theorem stays_step (pb : Protobuf) (h : Controlled s.controller) {a : Action}
    (hstarts : a.starts = false) (hchanges : a.changesTopology = false)
    (hstep : step pb s a = some t) :
    t.controller.frozenResult ≠ none ∨ Stays s.controller t.controller := by
  have hreported : a.isEvent = true → Stays s.controller t.controller := by
    intro hevent
    refine .of_same ?_ (evidence_event pb hevent hchanges hstep)
    obtain ⟨c, rfl, hbooks, _⟩ := event_step False pb h hevent False.elim hstep
    exact congrArg Frame.state hbooks.frame
  cases a with
  | start m runId request scenarioSnapshot baseline => cases hstarts
  | run m input =>
      obtain ⟨_, hresume⟩ := Option.ite_none_left_eq_some.mp hstep
      exact stays_resumeRun pb hresume
  | cancelled =>
      obtain ⟨_, hsome⟩ := Option.ite_none_right_eq_some.mp hstep
      cases hsome
      unfold TrafficTasks.cancelled
      split <;> exact Or.inr ⟨Or.inl rfl, rfl⟩
  | call m kind =>
      cases hstep
      exact Or.inr (stays_enterCall s m kind)
  | resume i m input =>
      unfold step at hstep
      dsimp only at hstep
      split at hstep
      · cases hstep
      · obtain ⟨resumed, hresume, rfl⟩ := Option.map_eq_some_iff.mp hstep
        exact stays_resumeCall hresume
  | _ => exact Or.inr (hreported rfl)

/-- A run that is under way stays so until its result is frozen. -/
theorem underway_step (pb : Protobuf) (hstructured : Structured s) (h : Underway s.controller)
    {a : Action} (hstarts : a.starts = false) (hstep : step pb s a = some t) :
    Underway t.controller := by
  refine h.goesOn (continues_step pb hstructured hstarts hstep) ?_
  cases hchanges : a.changesTopology with
  | false =>
      exact (stays_step pb hstructured.controlled hstarts hchanges hstep).imp id Stays.state
  | true =>
      have hevent : a.isEvent = true := by
        cases a <;> first | rfl | cases hchanges
      obtain ⟨c, rfl, hbooks, _⟩ := event_step False pb hstructured.controlled hevent False.elim
        hstep
      exact Or.inr (Or.inl (congrArg Frame.state hbooks.frame))

end TrafficTasks

end MeshtasticLab.Traffic

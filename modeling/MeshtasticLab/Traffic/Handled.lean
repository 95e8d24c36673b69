/-
  Traffic/Handled.lean --- what one step of the tasks does to the watch.

  WHAT THIS FILE IS FOR

  A step that starts no run calls at most one handler, and otherwise publishes
  ordinary events.  `handled` is the controller as that handler leaves it; what a
  step does to identifiers, correlation, counters and evidence is what its handler
  does.
-/
import MeshtasticLab.Traffic.Accounting
import MeshtasticLab.Traffic.Deeds

set_option autoImplicit false

namespace MeshtasticLab.Traffic

open MeshtasticLab.Foundation MeshtasticLab.Gateway MeshtasticLab.Metrics MeshtasticLab.Models
open TrafficController

/-! ## Keys -/

/-- The deed changes no key. -/
def Deed.keyless : Deed → Bool
  | .respond .. => false
  | .reserve _ => false
  | .generate .. => false
  | _ => true

namespace Watch

variable {v w : Watch} {may : Watch → Deed → Prop}

/-- What the identities of the messages are looked up by. -/
structure SameKeys (v w : Watch) : Prop where
  identities : w.identities = v.identities
  packetIds : w.packetIds = v.packetIds
  messagesByPacket : w.messagesByPacket = v.messagesByPacket
  hardwareIds : w.hardwareIds = v.hardwareIds

/-- Deeds that change no key leave the keys. -/
theorem Does.sameKeys (h : Does may v w)
    (hkeyless : ∀ u deed, may u deed → deed.keyless = true) : SameKeys v w := by
  refine h.invariant ?_ ⟨rfl, rfl, rfl, rfl⟩
  intro u deed hsame hmay
  cases deed with
  | publish event =>
    exact ⟨hsame.identities, hsame.packetIds, hsame.messagesByPacket, hsame.hardwareIds⟩
  | respond key ref => cases hkeyless u _ hmay
  | reserve ids => cases hkeyless u _ hmay
  | generate source packetId hardwareId => cases hkeyless u _ hmay
  | _ => exact ⟨hsame.identities, hsame.packetIds, hsame.messagesByPacket, hsame.hardwareIds⟩

theorem Does.sameKeys_of_none (h : Does NoDeed v w) : SameKeys v w :=
  h.sameKeys fun _ _ hnone => hnone.elim

end Watch

namespace TrafficController

variable {c d e : TrafficController} {may : Watch → Deed → Prop}

theorem does_beginFinalization (c : TrafficController) (m : Moment) :
    Does may c (c.beginFinalization m) := by
  have hbegun : Does may c { c with finalizationDone := false, phase := .finalizing } :=
    .of_watch rfl
  exact hbegun.trans (does_finalizePendingSubmissions _ m)

theorem watch_setFailure (c : TrafficController) (state : TrafficRunState)
    (failure : Option String) :
    ({ c with state := state }.modifyCurrent
      fun run => { run with failure := failure }).watch = c.watch :=
  watch_modifyCurrent { c with state := state } fun _ => rfl

/-- Native totals are recorded, and nothing else. -/
def MaySample (_ : Watch) : Deed → Prop
  | .failedTotal .. => True
  | .duplicateTotal .. => True
  | _ => False

theorem samples_recordFailedReceptions (c : TrafficController) (m : Moment) (nodeId : String)
    (total : Nat) : Does MaySample c (c.recordFailedReceptions m nodeId total) := by
  by_cases haccepts : c.current ≠ none ∧ c.acceptsRunEvents true = true
  · exact Relation.ReflTransGen.trans (Watch.Does.single (.failedTotal nodeId total) trivial)
      (Watch.Does.of_none (does_recordFailedReceptions c m nodeId total haccepts))
  · unfold recordFailedReceptions
    rw [if_pos (by rw [not_and_or, not_not] at haccepts; exact haccepts)]
    exact .refl c

theorem samples_recordDuplicateReceptions (c : TrafficController) (m : Moment)
    (nodeId : String) (total : Nat) :
    Does MaySample c (c.recordDuplicateReceptions m nodeId total) := by
  by_cases haccepts : c.current ≠ none ∧ c.acceptsRunEvents true = true
  · exact Relation.ReflTransGen.trans (Watch.Does.single (.duplicateTotal nodeId total) trivial)
      (Watch.Does.of_none (does_recordDuplicateReceptions c m nodeId total haccepts))
  · unfold recordDuplicateReceptions
    rw [if_pos (by rw [not_and_or, not_not] at haccepts; exact haccepts)]
    exact .refl c

theorem samples_applyFinalSample (c : TrafficController) (m : Moment)
    (answer : Option FailedReceptionSample) : Does MaySample c (c.applyFinalSample m answer) := by
  unfold applyFinalSample
  split
  · exact .refl c
  · dsimp only
    refine Does.then_watch ?_ (watch_modifyCurrent _ fun _ => rfl)
    refine Does.trans (does_foldl ?_ _ c) (does_foldl ?_ _ _)
    · intro c entry
      split
      · exact samples_recordFailedReceptions c m entry.1 entry.2
      · exact .refl c
    · intro c entry
      split
      · exact samples_recordDuplicateReceptions c m entry.1 entry.2
      · exact .refl c

theorem keyless_mayReport {pb : Protobuf} (v : Watch) (deed : Deed)
    (hmay : MayReport pb c v deed) : deed.keyless = true := by
  cases deed <;> first | rfl | exact hmay.elim

theorem keyless_mayCount (v : Watch) (deed : Deed) (hmay : MayCount v deed) :
    deed.keyless = true := by
  cases deed <;> first | rfl | exact hmay.elim

theorem keyless_maySample (v : Watch) (deed : Deed) (hmay : MaySample v deed) :
    deed.keyless = true := by
  cases deed <;> first | rfl | exact hmay.elim

/-- What a call of `start` comes to, as far as it is watched: it raises before
anything happens, the quarantine is full, or a run has begun. -/
theorem start_watch {m : Moment} {runId : String} {taskActive : Bool}
    {request : TrafficRunRequest} {scenarioSnapshot : Option Scenario}
    {baseline : Option FailedReceptionSample} {outcome : Except TrafficError String}
    (hstart : c.start m runId taskActive request scenarioSnapshot baseline = (d, outcome)) :
    (∃ error, outcome = .error error ∧ d = c) ∨
    (∃ error ids, c.packetIds.retire m.now = (ids, .error error) ∧ outcome = .error error ∧
      d = { c with packetIds := ids }) ∨
    (∃ ids, c.packetIds.retire m.now = (ids, .ok ()) ∧ outcome = .ok runId ∧
      taskActive = false ∧ d.watch = c.watch.begun ids (baseline.getD { totals := ∅ })) := by
  unfold start at hstart
  dsimp only at hstart
  split at hstart
  · cases hstart
    exact Or.inl ⟨_, rfl, rfl⟩
  · next hactive =>
    split at hstart
    · cases hstart
      exact Or.inl ⟨_, rfl, rfl⟩
    · split at hstart
      · cases hstart
        exact Or.inl ⟨_, rfl, rfl⟩
      · split at hstart
        · cases hstart
          exact Or.inl ⟨_, rfl, rfl⟩
        · unfold resetAccumulators at hstart
          split at hstart
          · next error hreset =>
              cases hstart
              split at hreset
              · next ids _ hretire =>
                  cases hreset
                  exact Or.inr (Or.inl ⟨error, ids, hretire, rfl, rfl⟩)
              · cases hreset
          · next reset hreset =>
              split at hreset
              · cases hreset
              · next ids hretire =>
                  cases hreset
                  split at hstart
                  · next hraised => exact absurd hraised (liveMetricsSnapshot_ne_error _ _)
                  · cases hstart
                    exact Or.inr (Or.inr ⟨ids, hretire, rfl, by simpa using hactive, rfl⟩)

end TrafficController

namespace TrafficTasks

variable {s t : TrafficTasks} {may : Watch → Deed → Prop}

/-! ## `_finish` -/

theorem does_enterFinish (s : TrafficTasks) (m : Moment) :
    Does may s.controller (s.enterFinish m).1.controller := by
  rcases enterFinish_cases s m with ⟨value, hreturned⟩ | ⟨_, hwaits⟩ | ⟨_, _, hbegins⟩
  · rw [hreturned]
    exact .refl _
  · rw [hwaits]
    exact .refl _
  · rw [hbegins]
    exact does_beginFinalization s.controller m

theorem does_resumeFinish {m : Moment} {target : TrafficRunState} {pc : FinishPc}
    {input : FinishInput} {outcome : FinishOutcome}
    (hresume : s.resumeFinish m target pc input = some (t, outcome)) :
    Does may s.controller t.controller := by
  unfold resumeFinish at hresume
  split at hresume
  · cases hresume
    exact does_beginFinalization s.controller m
  · cases hresume
    exact .of_watch rfl
  · split at hresume
    · cases hresume
      exact .of_watch rfl
    · cases hresume
    · cases hresume
      exact does_publishMetricUpdate s.controller m _ _
  · cases hresume
    exact .of_watch rfl
  · cases hresume
    exact .of_watch rfl
  · cases hresume
    exact .of_watch rfl
  · cases hresume

/-! ## `stop` and `fail` -/

theorem does_afterSampling (s : TrafficTasks) (m : Moment) (kind : CallerKind)
    (runFailed : Bool) :
    Does may s.controller (s.afterSampling m kind runFailed).1.controller := by
  unfold afterSampling
  split
  · exact .refl _
  · exact does_enterFinish s m

theorem does_afterCancel (s : TrafficTasks) (m : Moment) (kind : CallerKind)
    (runFailed : Bool) :
    Does may s.controller (s.afterCancel m kind runFailed).1.controller := by
  have hsamples : ∀ t : TrafficTasks, Does may t.controller
      (if t.controller.failedReceptionSampler then (t, CallerPc.sampling runFailed)
        else t.afterSampling m kind runFailed).1.controller := by
    intro t
    split
    · exact .refl _
    · exact does_afterSampling t m kind runFailed
  unfold afterCancel
  dsimp only
  split
  · exact hsamples s
  · exact (does_finalizePendingSubmissions s.controller m).trans (hsamples (s.withController _))

theorem does_cancelRunTask (s : TrafficTasks) (m : Moment) (kind : CallerKind)
    (runFailed : Bool) :
    Does may s.controller (s.cancelRunTask m kind runFailed).1.controller := by
  unfold cancelRunTask
  split
  · exact does_afterCancel s m kind runFailed
  · exact .refl _

theorem does_afterWait (s : TrafficTasks) (m : Moment) (kind : CallerKind) :
    Does may s.controller (s.afterWait m kind).1.controller := by
  unfold afterWait
  cases kind with
  | stop =>
      dsimp only
      split
      · exact does_cancelRunTask s m .stop true
      · split
        · exact .refl _
        · exact does_cancelRunTask
            (s.withController { s.controller with state := .stopping }) m .stop false
  | fail reason =>
      dsimp only
      split
      · exact .refl _
      · exact Does.trans (.of_watch (watch_setFailure s.controller .stopping (some reason)))
          (does_cancelRunTask (s.withController _) m (.fail reason) false)

theorem does_enterCall (s : TrafficTasks) (m : Moment) (kind : CallerKind) :
    Does may s.controller (s.enterCall m kind).1.controller := by
  unfold enterCall
  dsimp only
  split
  · exact .refl _
  · split
    · exact does_afterWait s m kind
    · split
      · exact .refl _
      · exact .refl _

/-! ## The run task -/

theorem does_runFinish (s : TrafficTasks) (m : Moment) (target : TrafficRunState) :
    Does may s.controller (s.runFinish m target).controller := by
  unfold runFinish
  rcases enterFinish_cases s m with ⟨value, hreturned⟩ | ⟨_, hwaits⟩ | ⟨_, _, hbegins⟩
  · rw [hreturned]
    exact .refl _
  · rw [hwaits]
    exact .refl _
  · rw [hbegins]
    exact does_beginFinalization s.controller m

theorem does_runFailed (s : TrafficTasks) (m : Moment) (exception : String) :
    Does may s.controller (s.runFailed m exception).controller :=
  Does.trans (.of_watch (watch_setFailure s.controller .stopping (some exception)))
    (does_runFinish (s.withController _) m .failed)

theorem does_runAfterFinish (s : TrafficTasks) (m : Moment) (target : TrafficRunState)
    (outcome : FinishOutcome) :
    Does may s.controller (s.runAfterFinish m target outcome).controller := by
  unfold runAfterFinish
  split
  · exact .refl _
  · exact .refl _
  · next message =>
      split
      · exact .refl _
      · have hfailure : Does may s.controller _ :=
          .of_watch (watch_setFailure s.controller .stopping (some message))
        have hentered := hfailure.trans (does_enterFinish (s.withController _) m)
        dsimp only
        split
        · exact hentered
        · exact hentered

theorem does_afterDrain (s : TrafficTasks) (m : Moment) :
    Does may s.controller (s.afterDrain m).controller := by
  unfold afterDrain
  dsimp only
  split
  · exact .of_watch rfl
  · exact Does.trans (.of_watch rfl)
      (does_runFinish (s.withController s.controller.endDrain) m .completed)

theorem does_enterDrain (s : TrafficTasks) (m : Moment) :
    Does may s.controller (s.enterDrain m).controller := by
  have hdrains : Does may s.controller (s.controller.beginDrain m) := .of_watch rfl
  unfold enterDrain
  dsimp only
  split
  · exact hdrains
  · split
    · exact hdrains.trans (does_afterDrain (s.withController _) m)
    · exact (hdrains.trans (does_finalizePendingSubmissions _ m)).trans
        (does_afterDrain (s.withController _) m)
    · exact .of_watch rfl

/-- What the run task calls `_submit` with: the source, the destination and the name
of the flow. -/
def submission (s : TrafficTasks) (flow source pick : Nat) :
    Option (String × String × String) := do
  let run ← s.controller.current
  let flow ← run.request.schedulingFlows[flow]?
  let source ← flow.sourceNodes[source]?
  match s.controller.chooseDestination run.request.kind flow.destinationStrategy
      flow.fixedDestination source pick with
  | .error _ => none
  | .ok destination => some (source, destination, flow.name)

/-- The controller after the call of `_submit`. -/
def submitHandled (pb : Protobuf) (s : TrafficTasks) (m : Moment) (flow source pick : Nat)
    (draws : List Nat) : TrafficController :=
  match s.submission flow source pick with
  | none => s.controller
  | some (source, destination, name) =>
      match s.controller.submit pb m source destination draws name with
      | none => s.controller
      | some (c, _) => c

/-- A call of `_submit` that draws no fresh identifier allocates none. -/
theorem submitAllocation_of_stuck {pb : Protobuf} {c : TrafficController} {m : Moment}
    {source destination name : String} {draws : List Nat}
    (hstuck : c.submit pb m source destination draws name = none) :
    c.submitAllocation m source draws = none := by
  unfold submit at hstuck
  unfold submitAllocation
  cases hrun : c.current with
  | none => rfl
  | some run =>
      rw [hrun] at hstuck
      dsimp only at hstuck ⊢
      split at hstuck
      · cases hstuck
      · next hsize =>
          rw [if_neg hsize]
          split at hstuck
          · next hnone => exact hnone
          · split at hstuck
            · cases hstuck
            · cases hstuck
            · split at hstuck <;> cases hstuck

/-- The call of `_submit` that the run task makes. -/
theorem submitted_submitHandled (pb : Protobuf) (hopen : s.controller.frozenResults = [])
    (m : Moment) {flow source pick : Nat} {from_ destination name : String}
    (hcall : s.submission flow source pick = some (from_, destination, name))
    (draws : List Nat) :
    Submitted s.controller m from_ draws (s.submitHandled pb m flow source pick draws) := by
  unfold submitHandled
  rw [hcall]
  dsimp only
  split
  · next hstuck => exact .nothing (submitAllocation_of_stuck hstuck) rfl
  · next hsubmit => exact submitted_submit hopen hsubmit

theorem submitHandled_of_none (pb : Protobuf) (m : Moment) {flow source pick : Nat}
    (hcall : s.submission flow source pick = none) (draws : List Nat) :
    s.submitHandled pb m flow source pick draws = s.controller := by
  unfold submitHandled
  rw [hcall]

theorem does_runSubmit {pb : Protobuf} {m : Moment} {flow source pick : Nat} {draws : List Nat}
    (hsubmit : s.runSubmit pb m flow source pick draws = some t) :
    Does may (s.submitHandled pb m flow source pick draws) t.controller := by
  unfold runSubmit at hsubmit
  obtain ⟨run, hcurrent, hsubmit⟩ := Option.bind_eq_some_iff.mp hsubmit
  obtain ⟨named, hflow, hsubmit⟩ := Option.bind_eq_some_iff.mp hsubmit
  obtain ⟨from_, hsource, hsubmit⟩ := Option.bind_eq_some_iff.mp hsubmit
  have hcall : s.submission flow source pick =
      match s.controller.chooseDestination run.request.kind named.destinationStrategy
        named.fixedDestination from_ pick with
      | .error _ => none
      | .ok destination => some (from_, destination, named.name) := by
    simp [submission, hcurrent, hflow, hsource]
  unfold submitHandled
  rw [hcall]
  cases hchoice : s.controller.chooseDestination run.request.kind named.destinationStrategy
      named.fixedDestination from_ pick with
  | error error =>
      rw [hchoice] at hsubmit
      cases hsubmit
      exact does_runFailed s m error.text
  | ok destination =>
      rw [hchoice] at hsubmit
      obtain ⟨⟨c, outcome⟩, hdone, hsubmit⟩ := Option.bind_eq_some_iff.mp hsubmit
      dsimp only
      rw [hdone]
      cases outcome with
      | error error =>
          cases hsubmit
          exact does_runFailed (s.withController c) m error.text
      | ok sent =>
          cases sent with
          | none => cases hsubmit
          | some sent =>
              cases hsubmit
              exact .refl _

/-! ## Steps -/

/-- The controller as the handler that a step calls leaves it. -/
def handled (pb : Protobuf) (s : TrafficTasks) : Action → TrafficController
  | .fromRadio m nodeId message => (s.controller.handleFromRadio pb m nodeId message).1
  | .rfTransmission m transmitter packet packetAirtimeMs =>
      (s.controller.recordRfTransmission pb m transmitter packet packetAirtimeMs).1
  | .drop m transmitter packet reason => s.controller.recordDrop pb m transmitter packet reason
  | .failedReceptions m nodeId total => s.controller.recordFailedReceptions m nodeId total
  | .duplicateReceptions m nodeId total => s.controller.recordDuplicateReceptions m nodeId total
  | .run m (.submit flow source pick draws) => s.submitHandled pb m flow source pick draws
  | .run m (.sampled answer) => s.controller.applyFinalSample m answer
  | .resume _ m (.sampled answer) => s.controller.applyFinalSample m answer
  | _ => s.controller

theorem does_resumeRun (pb : Protobuf) {m : Moment} {pc : RunPc} {input : RunInput}
    (hresume : s.resumeRun pb m pc input = some t) :
    Does may (s.handled pb (.run m input)) t.controller := by
  unfold resumeRun at hresume
  split at hresume
  · cases hresume
    exact .refl _
  · exact does_runSubmit hresume
  · next source ref exception last =>
      have hsent : ∀ c, Does may s.controller c →
          (if last then some ((s.withController c).enterDrain m)
            else some { s.withController c with runTask := .sleeping }) = some t →
          Does may s.controller t.controller := by
        intro c hdoes hnext
        split at hnext
        · cases hnext
          exact hdoes.trans (does_enterDrain (s.withController c) m)
        · cases hnext
          exact hdoes
      cases exception with
      | none => exact hsent s.controller (.refl _) hresume
      | some exception =>
        exact hsent _ (does_submitFailed s.controller m source ref exception) hresume
  · cases hresume
    exact (does_finalizePendingSubmissions s.controller m).trans
      (does_afterDrain (s.withController _) m)
  · dsimp only at hresume
    split at hresume
    · cases hresume
      exact does_afterDrain s m
    · cases hresume
      exact (does_finalizePendingSubmissions s.controller m).trans
        (does_afterDrain (s.withController _) m)
    · cases hresume
      exact .of_watch rfl
  · cases hresume
    exact does_runFinish (s.withController _) m .completed
  · obtain ⟨⟨u, outcome⟩, hfinish, rfl⟩ := Option.map_eq_some_iff.mp hresume
    exact (does_resumeFinish hfinish).trans (does_runAfterFinish u m _ outcome)
  · cases hresume

theorem does_resumeCall (pb : Protobuf) {i : Nat} {m : Moment} {kind : CallerKind}
    {pc : CallerPc} {input : CallerInput} {entry : TrafficTasks × CallerPc}
    (hresume : s.resumeCall m kind pc input = some entry) :
    Does may (s.handled pb (.resume i m input)) entry.1.controller := by
  unfold resumeCall at hresume
  split at hresume
  · cases hresume
    exact does_afterWait s m kind
  · cases hresume
    exact .of_watch rfl
  · split at hresume
    · cases hresume
      exact does_afterCancel s m kind _
    · cases hresume
  · cases hresume
    exact does_afterSampling (s.withController _) m kind _
  · obtain ⟨⟨u, outcome⟩, hfinish, rfl⟩ := Option.map_eq_some_iff.mp hresume
    exact does_resumeFinish hfinish
  · cases hresume

theorem does_cancelled (s : TrafficTasks) : Does may s.controller s.cancelled.controller := by
  unfold cancelled
  split <;> exact .of_watch rfl

/-- What a step that starts no run does, its handler does. -/
theorem does_step (pb : Protobuf) {a : Action} (hstart : a.starts = false)
    (hstep : step pb s a = some t) : Does may (s.handled pb a) t.controller := by
  cases a with
  | start m runId request scenarioSnapshot baseline => cases hstart
  | fromRadio m nodeId message =>
      cases hstep
      exact .refl _
  | rfTransmission m transmitter packet packetAirtimeMs =>
      cases hstep
      exact .refl _
  | drop m transmitter packet reason =>
      cases hstep
      exact .refl _
  | failedReceptions m nodeId total =>
      cases hstep
      exact .refl _
  | duplicateReceptions m nodeId total =>
      cases hstep
      exact .refl _
  | eventLoopLag m lagMs =>
      cases hstep
      exact does_setEventLoopLag s.controller m lagMs
  | topologyChange event link =>
      cases hstep
      exact .of_watch (watch_recordTopologyChange s.controller event link)
  | run m input =>
      unfold step at hstep
      dsimp only at hstep
      split at hstep
      · cases hstep
      · exact does_resumeRun pb hstep
  | cancelled =>
      unfold step at hstep
      dsimp only at hstep
      split at hstep
      · cases hstep
        exact does_cancelled s
      · cases hstep
  | call m kind =>
      cases hstep
      exact does_enterCall s m kind
  | resume i m input =>
      unfold step at hstep
      dsimp only at hstep
      split at hstep
      · cases hstep
      · obtain ⟨entry, hresume, rfl⟩ := Option.map_eq_some_iff.mp hstep
        exact does_resumeCall pb hresume

/-- What a step that calls `start` comes to, as far as it is watched. -/
theorem watch_start {pb : Protobuf} {m : Moment} {runId : String} {request : TrafficRunRequest}
    {scenarioSnapshot : Option Scenario} {baseline : Option FailedReceptionSample}
    (hstep : step pb s (.start m runId request scenarioSnapshot baseline) = some t) :
    t = s ∨
    (∃ error ids, s.controller.packetIds.retire m.now = (ids, .error error) ∧
      t = s.withController { s.controller with packetIds := ids }) ∨
    (∃ ids, s.controller.packetIds.retire m.now = (ids, .ok ()) ∧ s.runTask = .done ∧
      t.runTask = .scheduled ∧
      t.controller.watch = s.controller.watch.begun ids (baseline.getD { totals := ∅ })) := by
  unfold step at hstep
  dsimp only at hstep
  split at hstep
  · cases hstep
    unfold started
    split
    · next c error hstart =>
        rcases start_watch hstart with
          ⟨_, _, rfl⟩ | ⟨_, ids, hretire, _, rfl⟩ | ⟨_, _, houtcome, _⟩
        · exact Or.inl rfl
        · exact Or.inr (Or.inl ⟨_, ids, hretire, rfl⟩)
        · cases houtcome
    · next c started hstart =>
        rcases start_watch hstart with
          ⟨_, houtcome, _⟩ | ⟨_, _, _, houtcome, _⟩ | ⟨ids, hretire, _, hactive, hwatch⟩
        · cases houtcome
        · cases houtcome
        · exact Or.inr (Or.inr ⟨ids, hretire, by simpa using hactive, rfl, hwatch⟩)
  · cases hstep

/-- The run task submits while no result is frozen. -/
theorem Structured.open_of_submit {pb : Protobuf} (h : Structured s) {m : Moment}
    {flow source pick : Nat} {draws : List Nat}
    (hstep : step pb s (.run m (.submit flow source pick draws)) = some t) :
    s.controller.frozenResults = [] := by
  by_contra hfrozen
  have hover := h.frozen hfrozen
  unfold step at hstep
  dsimp only at hstep
  split at hstep
  · cases hstep
  · rw [hover] at hstep
    cases hstep

end TrafficTasks

end MeshtasticLab.Traffic

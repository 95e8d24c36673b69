/-
  Traffic/Tasks.lean --- the tasks of one controller and their interleavings.

  Embeds the coroutines of `TrafficController`: `_run`, `stop`, `fail`, `_finish`
  and `_wait_for_active_finalization`.  Each is cut at its suspension points, and
  one step runs one task from a suspension point to the next, so that a run of
  `step` is an interleaving that the event loop can produce.

  WHAT IS LEFT OPEN

  A sleep, a wait with a timeout or a call into another component may end at any
  time and in any of its ways.  The run task submits what its flows allow, in any
  order and number.  A call of `start` is stepped when no call of `stop` or `fail`
  of the run before it is still under way, which the owner of the controller sees
  to by its topology lock.
-/
import MeshtasticLab.Foundation.Runs
import MeshtasticLab.Traffic.Lifecycle

set_option autoImplicit false

namespace MeshtasticLab.Traffic

open MeshtasticLab.Foundation MeshtasticLab.Gateway MeshtasticLab.Metrics MeshtasticLab.Models

/-! ## Positions -/

/-- Where a call of `_finish` is suspended: waiting for another finalization (whose
end may already have woken it), computing the final metrics of the result it
captured, persisting, or copying a result that could not be persisted.  A
captured result is named by the number of results frozen before it. -/
inductive FinishPc where
  | awaiting (woken : Bool)
  | computing (captured : Nat)
  | persisting (terminal : TrafficRunResult)
  | copying (terminal : TrafficRunResult)
  deriving DecidableEq

/-- Where the run task is. -/
inductive RunPc where
  | scheduled
  | sleeping
  | sending (source : String) (ref : Nat)
  | settling
  | draining (deadline : ℚ)
  | sampling
  | finishing (target : TrafficRunState) (pc : FinishPc)
  | done
  deriving DecidableEq

/-- A call of `stop` or `fail`. -/
inductive CallerKind where
  | stop
  | fail (reason : String)
  deriving DecidableEq

/-- Where a call of `stop` or `fail` is.  The flag says that `stop` found the run
failed, and then it finalizes no pending submissions. -/
inductive CallerPc where
  | awaiting (woken : Bool)
  | cancelling (runFailed : Bool)
  | sampling (runFailed : Bool)
  | finishing (target : TrafficRunState) (pc : FinishPc)
  | returned (value : Bool)
  | raised (message : String)
  deriving DecidableEq

/-- One call of `stop` or `fail` and where it is. -/
structure Caller where
  kind : CallerKind
  pc : CallerPc
  deriving DecidableEq

/-- The controller with the tasks that act on it.  `persistCalls` are the results
handed to `_freeze_and_persist` for this run, the newest first, and `exported` is
what its files hold. -/
structure TrafficTasks where
  controller : TrafficController
  runTask : RunPc := .done
  cancelRequested : Bool := false
  callers : List Caller := []
  persistCalls : List TrafficRunResult := []
  exported : Option TrafficRunResult := none

/-- The end of a finalization wakes a call of `_finish` that waits for it. -/
def FinishPc.wake : FinishPc → FinishPc
  | .awaiting _ => .awaiting true
  | pc => pc

/-- The end of a finalization wakes a call of `stop` or `fail` that waits for it. -/
def CallerPc.wake : CallerPc → CallerPc
  | .awaiting _ => .awaiting true
  | .finishing target pc => .finishing target pc.wake
  | pc => pc

def RunPc.wake : RunPc → RunPc
  | .finishing target pc => .finishing target pc.wake
  | pc => pc

/-- What a call of `_finish` comes to in one step. -/
inductive FinishOutcome where
  | suspended (pc : FinishPc)
  | returned (value : Bool)
  | raised (message : String)

/-- How a suspension of `_finish` ends. -/
inductive FinishInput where
  | woken
  | timeout
  | computed
  | persisted
  | persistenceRaised (exception : String)
  | copied
  deriving DecidableEq

namespace TrafficTasks

/-- Every call that waits for the finalization is woken. -/
def wake (s : TrafficTasks) : TrafficTasks :=
  { s with
    runTask := s.runTask.wake
    callers := s.callers.map fun caller => { caller with pc := caller.pc.wake } }

/-! ## `_finish` -/

/-- The result that `_finish` captured when this many had been frozen. -/
def capturedResult (c : TrafficController) : Nat → Option TrafficRunResult
  | 0 => c.run
  | captured + 1 => c.frozenResults.reverse[captured]?

/-- `_finish` after its wait. -/
def proceedFinish (s : TrafficTasks) (m : Moment) : TrafficTasks × FinishOutcome :=
  ({ s with controller := s.controller.beginFinalization m },
    .suspended (.computing s.controller.frozenResults.length))

/-- `_finish` from its call to its first suspension. -/
def enterFinish (s : TrafficTasks) (m : Moment) : TrafficTasks × FinishOutcome :=
  let c := s.controller
  if c.current = none ∨ c.frozenResult ≠ none then (s, .returned true)
  else if c.finalizationDone then s.proceedFinish m
  else if c.finalizationWaitTimedOut then (s, .returned false)
  else (s, .suspended (.awaiting false))

/-- The end of `_finish`: the result is frozen and who waits is woken. -/
def completeFinish (s : TrafficTasks) (frozen : TrafficRunResult) :
    TrafficTasks × FinishOutcome :=
  (({ s with controller := s.controller.freeze frozen }).wake, .returned true)

/-- `_finish` from one suspension to the next. -/
def resumeFinish (s : TrafficTasks) (m : Moment) (target : TrafficRunState) :
    FinishPc → FinishInput → Option (TrafficTasks × FinishOutcome)
  | .awaiting true, .woken => some (s.proceedFinish m)
  | .awaiting _, .timeout =>
      some ({ s with controller := { s.controller with finalizationWaitTimedOut := true } },
        .returned false)
  | .computing captured, .computed =>
      match s.controller.finalMetrics, capturedResult s.controller captured with
      | .error message, _ =>
          some (({ s with controller := { s.controller with finalizationDone := true } }).wake,
            .raised message)
      | .ok _, none => none
      | .ok metrics, some captured =>
          let terminal := s.controller.terminalResult captured target metrics m.wallClock
          some
            ({ s with
                controller := s.controller.publishMetricUpdate m
                  (TrafficController.summaryValues metrics.toMetricsSummary) "snapshot"
                persistCalls := terminal :: s.persistCalls },
              .suspended (.persisting terminal))
  | .persisting terminal, .persisted =>
      some ({ s with exported := some terminal }.completeFinish terminal)
  | .persisting terminal, .persistenceRaised exception =>
      some ({ s with exported := none },
        .suspended (.copying (TrafficController.persistenceFailed terminal exception)))
  | .copying terminal, .copied => some (s.completeFinish terminal)
  | _, _ => none

/-! ## `stop` and `fail` -/

/-- The position of a caller after a step of the `_finish` it called. -/
def callerAfter (target : TrafficRunState) : FinishOutcome → CallerPc
  | .suspended pc => .finishing target pc
  | .returned value => .returned value
  | .raised message => .raised message

/-- `stop` or `fail` after the final sample. -/
def afterSampling (s : TrafficTasks) (m : Moment) (kind : CallerKind) (runFailed : Bool) :
    TrafficTasks × CallerPc :=
  if s.controller.frozenResult ≠ none then (s, .returned true)
  else
    let target : TrafficRunState :=
      match kind with
      | .fail _ => .failed
      | .stop => if runFailed ∨ s.controller.state = .failed then .failed else .cancelled
    let entered := s.enterFinish m
    (entered.1, callerAfter target entered.2)

/-- `stop` or `fail` after the run task has ended. -/
def afterCancel (s : TrafficTasks) (m : Moment) (kind : CallerKind) (runFailed : Bool) :
    TrafficTasks × CallerPc :=
  let s :=
    if runFailed then s
    else { s with controller := s.controller.finalizePendingSubmissions m }
  if s.controller.failedReceptionSampler then (s, .sampling runFailed)
  else s.afterSampling m kind runFailed

/-- `_cancel_run_task` and what follows it. -/
def cancelRunTask (s : TrafficTasks) (m : Moment) (kind : CallerKind) (runFailed : Bool) :
    TrafficTasks × CallerPc :=
  if s.runTask = .done then s.afterCancel m kind runFailed
  else ({ s with cancelRequested := true }, .cancelling runFailed)

/-- `stop` or `fail` after the wait for an active finalization. -/
def afterWait (s : TrafficTasks) (m : Moment) (kind : CallerKind) : TrafficTasks × CallerPc :=
  let c := s.controller
  match kind with
  | .stop =>
      if c.state = .failed then s.cancelRunTask m kind true
      else if s.runTask = .done then (s, .returned true)
      else { s with controller := { c with state := .stopping } }.cancelRunTask m kind false
  | .fail reason =>
      if c.current = none ∨ (c.state ≠ .running ∧ c.state ≠ .stopping ∧ c.state ≠ .failed) then
        (s, .returned true)
      else
        let c := { c with state := .stopping }.modifyCurrent fun run =>
          { run with failure := some reason }
        { s with controller := c }.cancelRunTask m kind false

/-- A call of `stop` or `fail` up to its first suspension. -/
def enterCall (s : TrafficTasks) (m : Moment) (kind : CallerKind) : TrafficTasks × CallerPc :=
  let c := s.controller
  if kind = .stop ∧ c.frozenResult ≠ none then (s, .returned true)
  else if c.finalizationDone then s.afterWait m kind
  else if c.finalizationWaitTimedOut then (s, .returned false)
  else (s, .awaiting false)

/-- How a suspension of `stop` or `fail` ends. -/
inductive CallerInput where
  | woken
  | timeout
  | runTaskDone
  | sampled (answer : Option FailedReceptionSample)
  | finish (input : FinishInput)

/-- `stop` or `fail` from one suspension to the next. -/
def resumeCall (s : TrafficTasks) (m : Moment) (kind : CallerKind) :
    CallerPc → CallerInput → Option (TrafficTasks × CallerPc)
  | .awaiting true, .woken => some (s.afterWait m kind)
  | .awaiting _, .timeout =>
      some ({ s with controller := { s.controller with finalizationWaitTimedOut := true } },
        .returned false)
  | .cancelling runFailed, .runTaskDone =>
      if s.runTask = .done then some (s.afterCancel m kind runFailed) else none
  | .sampling runFailed, .sampled answer =>
      some ({ s with controller := s.controller.applyFinalSample m answer }.afterSampling m
        kind runFailed)
  | .finishing target pc, .finish input =>
      (s.resumeFinish m target pc input).map fun resumed =>
        (resumed.1, callerAfter target resumed.2)
  | _, _ => none

/-! ## The run task -/

/-- The run task after a step of the `_finish` it called; an exception of the first
call leads to the second, one of the second ends the task. -/
def runAfterFinish (s : TrafficTasks) (m : Moment) (target : TrafficRunState) :
    FinishOutcome → TrafficTasks
  | .suspended pc => { s with runTask := .finishing target pc }
  | .returned _ => { s with runTask := .done }
  | .raised message =>
      if target = .failed then { s with runTask := .done }
      else
        let c := { s.controller with state := .stopping }.modifyCurrent fun run =>
          { run with failure := some message }
        let entered := { s with controller := c }.enterFinish m
        match entered.2 with
        | .suspended pc => { entered.1 with runTask := .finishing .failed pc }
        | _ => { entered.1 with runTask := .done }

/-- `_run` calls `_finish`. -/
def runFinish (s : TrafficTasks) (m : Moment) (target : TrafficRunState) : TrafficTasks :=
  let entered := s.enterFinish m
  entered.1.runAfterFinish m target entered.2

/-- The exception branch of `_run`. -/
def runFailed (s : TrafficTasks) (m : Moment) (exception : String) : TrafficTasks :=
  let c := { s.controller with state := .stopping }.modifyCurrent fun run =>
    { run with failure := some exception }
  { s with controller := c }.runFinish m .failed

/-- `_run` after `_drain`. -/
def afterDrain (s : TrafficTasks) (m : Moment) : TrafficTasks :=
  let s := { s with controller := s.controller.endDrain }
  if s.controller.failedReceptionSampler then { s with runTask := .sampling }
  else s.runFinish m .completed

/-- `_run` after its last message: the first pass of `_drain`. -/
def enterDrain (s : TrafficTasks) (m : Moment) : TrafficTasks :=
  let c := s.controller.beginDrain m
  let s := { s with controller := c }
  match c.settleSeconds with
  | some _ => { s with runTask := .settling }
  | none =>
      let deadline := m.now + c.drainWindows.2
      match c.drainVerdict deadline m.now with
      | .settled => s.afterDrain m
      | .expired =>
          { s with controller := c.finalizePendingSubmissions m }.afterDrain m
      | .waiting =>
          { s with
            controller := { c with activityChanged := false }
            runTask := .draining deadline }

/-- How a suspension of the run task ends. -/
inductive RunInput where
  | begun
  | submit (flow source pick : Nat) (draws : List Nat)
  | sent (exception : Option String) (last : Bool)
  | drained
  | sampled (answer : Option FailedReceptionSample)
  | finish (input : FinishInput)

/-- The next message of `_run`, up to the suspension in `send_to_radio`. -/
def runSubmit (pb : Protobuf) (s : TrafficTasks) (m : Moment) (flow source pick : Nat)
    (draws : List Nat) : Option TrafficTasks := do
  let run ← s.controller.current
  let flow ← run.request.schedulingFlows[flow]?
  let source ← flow.sourceNodes[source]?
  match s.controller.chooseDestination run.request.kind flow.destinationStrategy
      flow.fixedDestination source pick with
  | .error error => some (s.runFailed m error.text)
  | .ok destination =>
      match ← s.controller.submit pb m source destination draws flow.name with
      | (c, .error error) => some ({ s with controller := c }.runFailed m error.text)
      | (_, .ok none) => none
      | (c, .ok (some (ref, _))) =>
          some { s with controller := c, runTask := .sending source ref }

/-- `_run` from one suspension to the next. -/
def resumeRun (pb : Protobuf) (s : TrafficTasks) (m : Moment) :
    RunPc → RunInput → Option TrafficTasks
  | .scheduled, .begun => some { s with runTask := .sleeping }
  | .sleeping, .submit flow source pick draws => s.runSubmit pb m flow source pick draws
  | .sending source ref, .sent exception last =>
      let c :=
        match exception with
        | none => s.controller
        | some exception => s.controller.submitFailed m source ref exception
      let s := { s with controller := c }
      if last then some (s.enterDrain m) else some { s with runTask := .sleeping }
  | .settling, .drained =>
      some ({ s with controller := s.controller.finalizePendingSubmissions m }.afterDrain m)
  | .draining deadline, .drained =>
      let c := s.controller
      match c.drainVerdict deadline m.now with
      | .settled => some (s.afterDrain m)
      | .expired =>
          some ({ s with controller := c.finalizePendingSubmissions m }.afterDrain m)
      | .waiting => some { s with controller := { c with activityChanged := false } }
  | .sampling, .sampled answer =>
      some ({ s with controller := s.controller.applyFinalSample m answer }.runFinish m
        .completed)
  | .finishing target pc, .finish input =>
      (s.resumeFinish m target pc input).map fun resumed =>
        resumed.1.runAfterFinish m target resumed.2
  | _, _ => none

/-- The run task observes its cancellation. -/
def cancelled (s : TrafficTasks) : TrafficTasks :=
  match s.runTask with
  | .settling | .draining _ =>
      { s with controller := s.controller.endDrain, runTask := .done }
  | .finishing _ (.awaiting _) => { s with runTask := .done }
  | .finishing _ _ =>
      { ({ s with controller := { s.controller with finalizationDone := true } }).wake with
        runTask := .done }
  | _ => { s with runTask := .done }

/-! ## Steps -/

/-- What can happen next. -/
inductive Action where
  | start (m : Moment) (runId : String) (request : TrafficRunRequest)
      (scenarioSnapshot : Option Scenario) (baseline : Option FailedReceptionSample)
  | fromRadio (m : Moment) (nodeId : String) (message : FromRadio)
  | rfTransmission (m : Moment) (transmitter : String) (packet : MeshPacket)
      (packetAirtimeMs : Nat)
  | drop (m : Moment) (transmitter : String) (packet : MeshPacket) (reason : String)
  | failedReceptions (m : Moment) (nodeId : String) (total : Nat)
  | duplicateReceptions (m : Moment) (nodeId : String) (total : Nat)
  | eventLoopLag (m : Moment) (lagMs : ℚ)
  | topologyChange (event : PacketEvent) (link : DirectedLink)
  | run (m : Moment) (input : RunInput)
  | cancelled
  | call (m : Moment) (kind : CallerKind)
  | resume (caller : Nat) (m : Moment) (input : CallerInput)

/-- What an action reads from outside. -/
def Action.moment : Action → Option Moment
  | .start m .. => some m
  | .fromRadio m .. => some m
  | .rfTransmission m .. => some m
  | .drop m .. => some m
  | .failedReceptions m .. => some m
  | .duplicateReceptions m .. => some m
  | .eventLoopLag m _ => some m
  | .topologyChange .. => none
  | .run m _ => some m
  | .cancelled => none
  | .call m _ => some m
  | .resume _ m _ => some m

/-- The action starts a run. -/
def Action.starts : Action → Bool
  | .start .. => true
  | _ => false

/-- How an action ends a suspension of `_finish`, if it does. -/
def Action.finishInput : Action → Option FinishInput
  | .run _ (.finish input) => some input
  | .resume _ _ (.finish input) => some input
  | _ => none

/-- The call is over. -/
def CallerPc.isOver : CallerPc → Bool
  | .returned _ => true
  | .raised _ => true
  | _ => false

/-- A step that only calls a method of the controller. -/
def withController (s : TrafficTasks) (c : TrafficController) : TrafficTasks :=
  { s with controller := c }

/-- `start`, which schedules the run task when it does not raise. -/
def started (s : TrafficTasks) (m : Moment) (runId : String) (request : TrafficRunRequest)
    (scenarioSnapshot : Option Scenario) (baseline : Option FailedReceptionSample) :
    TrafficTasks :=
  match s.controller.start m runId (s.runTask ≠ .done) request scenarioSnapshot baseline with
  | (c, .error _) => s.withController c
  | (c, .ok _) => { controller := c, runTask := .scheduled }

/-- One step of the tasks. -/
def step (pb : Protobuf) (s : TrafficTasks) : Action → Option TrafficTasks
  | .start m runId request scenarioSnapshot baseline =>
      if s.callers.all (fun caller => CallerPc.isOver caller.pc) then
        some (s.started m runId request scenarioSnapshot baseline)
      else none
  | .fromRadio m nodeId message =>
      some (s.withController (s.controller.handleFromRadio pb m nodeId message).1)
  | .rfTransmission m transmitter packet packetAirtimeMs =>
      some (s.withController
        (s.controller.recordRfTransmission pb m transmitter packet packetAirtimeMs).1)
  | .drop m transmitter packet reason =>
      some (s.withController (s.controller.recordDrop pb m transmitter packet reason))
  | .failedReceptions m nodeId total =>
      some (s.withController (s.controller.recordFailedReceptions m nodeId total))
  | .duplicateReceptions m nodeId total =>
      some (s.withController (s.controller.recordDuplicateReceptions m nodeId total))
  | .eventLoopLag m lagMs => some (s.withController (s.controller.setEventLoopLag m lagMs))
  | .topologyChange event link =>
      some (s.withController (s.controller.recordTopologyChange event link).1)
  | .run m input =>
      if s.cancelRequested then none else s.resumeRun pb m s.runTask input
  | .cancelled =>
      if s.cancelRequested ∧ s.runTask ≠ .done then some s.cancelled else none
  | .call m kind =>
      let entered := s.enterCall m kind
      some { entered.1 with callers := entered.1.callers ++ [{ kind := kind, pc := entered.2 }] }
  | .resume i m input =>
      match s.callers[i]? with
      | none => none
      | some caller =>
          (s.resumeCall m caller.kind caller.pc input).map fun resumed =>
            { resumed.1 with
              callers := resumed.1.callers.set i { caller with pc := resumed.2 } }

end TrafficTasks

/-- `TrafficController.__init__`, before any run. -/
def TrafficTasks.new (scenario : Scenario) (hardwareIds : Dict String Nat)
    (buildMetadata : BuildMetadata) (settleSeconds : Option ℚ)
    (failedReceptionSampler : Bool) : TrafficTasks where
  controller :=
    { scenario := scenario
      hardwareIds := hardwareIds
      buildMetadata := buildMetadata
      settleSeconds := settleSeconds
      failedReceptionSampler := failedReceptionSampler }

end MeshtasticLab.Traffic

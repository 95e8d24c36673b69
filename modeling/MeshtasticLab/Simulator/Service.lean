/-
  Simulator/Service.lean --- the simulator service.

  Embeds `SimulatorService` of `backend/app/simulator/service.py`: its lifecycle, its
  topology and traffic commands, and how it archives the result of a run.  The medium
  and the controller, which the source creates and drops together, are one
  `Simulation`; the controllers that cleanups dropped go on as `retired`.

  HOW THE COROUTINES ARE CUT

  A command runs from one suspension to the next in one step.  The lifecycle lock and
  the topology lock say who holds them and where that task is; a command that finds
  its lock taken waits, and so does nothing yet.  A call of `stop` or `fail` that a
  command awaits is a caller of the controller's tasks, by its position among them.
  The thread that persists a result renames the two files in steps of their own, and
  unlinks them in such steps after an exception.

  WHAT IS LEFT OPEN

  Sampling, starting and stopping the gateways and the processes, and the warm-up end
  at any time; starting them may also raise at any time.  The identifiers that the
  source draws with `uuid.uuid4()` are new ones.  The gateways, the records of the
  processes and the texts of the answers are left out.  `StatisticsTasks` is of the
  sampling and `Lab` of the processes and gateways; `Lifecycle` is what `Lab` and this
  file have in common.

  Left open is also who gets the lifecycle lock next, a command or the task that cleans
  up after a failure.  A command that is called after the failure awaits that task, but
  one that was called before may come first, and then the task finds another state and
  another simulation than those that failed.  No command is cancelled, and
  `_cleanup_lock`, which is never contended, is left out.
-/
import MeshtasticLab.Models.Topology
import MeshtasticLab.Simulator.Medium

set_option autoImplicit false

namespace MeshtasticLab.Simulator

open MeshtasticLab.Foundation MeshtasticLab.Gateway MeshtasticLab.Metrics MeshtasticLab.Models
open MeshtasticLab.Traffic

def MAX_VOLATILE_RESULTS : Nat := 8

/-- `LifecycleState`. -/
inductive LifecycleState where
  | stopped
  | starting
  | warmingUp
  | running
  | stopping
  | failed
  deriving DecidableEq, Repr

/-- `LifecycleState.value`. -/
def LifecycleState.value : LifecycleState → String
  | .stopped => "STOPPED"
  | .starting => "STARTING"
  | .warmingUp => "WARMING_UP"
  | .running => "RUNNING"
  | .stopping => "STOPPING"
  | .failed => "FAILED"

/-- What the commands raise. -/
inductive ServiceError where
  | simulationConflict (code message : String)
  | lookupError (error : LookupError)
  | valueError (message : String)
  | runtimeError (message : String)
  | fileNotFound (name : String)
  deriving DecidableEq

/-- The error is a `SimulationConflict`. -/
def ServiceError.isConflict : ServiceError → Bool
  | .simulationConflict .. => true
  | _ => false

/-- What `capabilities` says of the runtime. -/
structure Capabilities where
  collisionAvailable : Bool
  provenanceAvailable : Bool
  deriving DecidableEq, Repr

/-! ## Locks -/

/-- Which task cleans up: `stop`, the task that a runtime failure creates, `start` after
an exception, or `start` after a failure. -/
inductive TeardownKind where
  | stop
  | failure (reason : String)
  | startup
  | restart
  deriving DecidableEq

/-- The cleanup holds the topology lock. -/
def TeardownKind.locksTopology : TeardownKind → Bool
  | .stop => true
  | .failure _ => true
  | .startup => false
  | .restart => false

/-- Where a cleanup is: it waits for the topology lock, it awaits the `fail` or the `stop`
of the controller, it is about to clean up, or it stops the medium, the gateways and the
processes. -/
inductive TeardownPc where
  | locking
  | failing (caller : Nat)
  | cleaning
  | stopping (caller : Nat)
  | closing
  deriving DecidableEq

/-- Who holds the lifecycle lock. -/
inductive LifecycleHolder where
  | free
  | starting
  | tearingDown (kind : TeardownKind) (pc : TeardownPc)
  deriving DecidableEq

/-- Who holds the topology lock.  A simulation is named by the number of those before it. -/
inductive TopologyHolder where
  | free
  | sampling (request : TrafficRunRequest) (generation : Nat)
  | stopping (generation caller : Nat)
  | tearingDown
  deriving DecidableEq

/-- What the persistence thread of a result has done: renamed the export file, or the summary
file after it, or after an exception unlinked the first of them, or both. -/
inductive ThreadPc where
  | renamed
  | written
  | removing
  | removed
  deriving DecidableEq, Repr

/-- A file operation of the persistence thread. -/
inductive FileStep where
  | replaceResult
  | replaceSummary
  | unlinkResult
  | unlinkSummary
  deriving DecidableEq

/-- The files of `results_root`, and where the persistence threads of the controllers are that
have done something. -/
structure ResultsRoot where
  results : Dict String TrafficRunResult
  summaries : Dict String TrafficRunSummary
  threads : Dict Nat ThreadPc

/-- `temporary.replace(destination)`, `summary_temporary.replace(summary_destination)`, or
after an exception `destination.unlink()` and `summary_destination.unlink()`.  One that raises
does nothing, and after an `unlink` that raises the next one comes. -/
def ResultsRoot.fileStep (root : ResultsRoot) (generation : Nat) (terminal : TrafficRunResult) :
    FileStep → Option ResultsRoot
  | .replaceResult =>
      if root.threads.get? generation = none then
        some
          { root with
            results := root.results.set terminal.runId terminal
            threads := root.threads.set generation .renamed }
      else none
  | .replaceSummary =>
      if root.threads.get? generation = some .renamed then
        some
          { root with
            summaries := root.summaries.set terminal.runId (summarizeResult terminal)
            threads := root.threads.set generation .written }
      else none
  | .unlinkResult =>
      if root.threads.get? generation = none ∨ root.threads.get? generation = some .renamed then
        some
          { root with
            results := root.results.erase terminal.runId
            threads := root.threads.set generation .removing }
      else none
  | .unlinkSummary =>
      if root.threads.get? generation ≠ some .written ∧
          root.threads.get? generation ≠ some .removed then
        some
          { root with
            summaries := root.summaries.erase terminal.runId
            threads := root.threads.set generation .removed }
      else none

/-- A run that was started, with the stream id that the broker had. -/
structure StartedRun where
  runId : String
  streamId : String
  deriving DecidableEq

/-- `SimulatorService`.  `results` and `summaries` are the files of `results_root`,
`failureCleanup` is the reason of the cleanup task that waits for the lifecycle lock, and
`threads` says where the persistence threads of the controllers are.  The last six fields are
what has happened so far: the events that were published, the stream ids that the broker has
had, the runs that were started, the results that were frozen, the runs that were archived and
those whose persistence raised. -/
structure SimulatorService where
  buildMetadata : BuildMetadata := .unavailable
  scenario : Scenario := defaultScenario
  state : LifecycleState := .stopped
  message : String := "Ready to start"
  broker : EventBroker
  simulation : Option Simulation := none
  retired : List TrafficTasks := []
  results : Dict String TrafficRunResult := ∅
  summaries : Dict String TrafficRunSummary := ∅
  volatileResults : Dict String TrafficRunResult := ∅
  lateFinalizations : List Nat := []
  lifecycleLock : LifecycleHolder := .free
  topologyLock : TopologyHolder := .free
  failureCleanup : Option String := none
  threads : Dict Nat ThreadPc := ∅
  published : List PacketEvent := []
  streamIds : List String := [broker.streamId]
  startedRuns : List StartedRun := []
  ended : Dict String TrafficRunResult := ∅
  archived : List String := []
  unpersisted : List String := []

namespace SimulatorService

/-! ## Events -/

/-- The broker after `publish` of a list of events. -/
def brokerAfter (b : EventBroker) (events : List PacketEvent) : EventBroker :=
  events.foldl (fun b event => (b.publish event).2) b

/-- The events that `event_broker.publish` returns for a list of events. -/
def sequencedAll (b : EventBroker) : List PacketEvent → List PacketEvent
  | [] => []
  | event :: rest => (b.publish event).1 :: sequencedAll (b.publish event).2 rest

/-- `event_broker.publish` of a list of events. -/
def publishAll (s : SimulatorService) (events : List PacketEvent) : SimulatorService :=
  { s with
    broker := brokerAfter s.broker events
    published := s.published ++ sequencedAll s.broker events }

/-- `_publish_lifecycle`. -/
def publishLifecycle (s : SimulatorService) (m : Moment) : SimulatorService :=
  s.publishAll
    [{ monotonicSeconds := m.now
       eventType := .lifecycle
       result := some s.state.value
       detail := some s.message }]

/-- The service moves to a state. -/
def enter (s : SimulatorService) (m : Moment) (state : LifecycleState) (message : String) :
    SimulatorService :=
  { s with state := state, message := message }.publishLifecycle m

/-- What is seen of a step of a controller: its new events, and the result that it froze. -/
def follow (s : SimulatorService) (before after : TrafficController) : SimulatorService :=
  { s.publishAll (after.outbox.drop before.outbox.length) with
    ended :=
      match before.frozenResult, after.frozenResult with
      | none, some frozen => s.ended.set frozen.runId frozen
      | _, _ => s.ended }

/-- The current simulation has taken a step. -/
def adopt (s : SimulatorService) (before after : Simulation) : SimulatorService :=
  { s with simulation := some after }.follow before.controller after.controller

/-- The tasks of the current simulation have taken a step. -/
def adoptTasks (s : SimulatorService) (simulation : Simulation) (tasks : TrafficTasks) :
    SimulatorService :=
  s.adopt simulation { simulation with tasks := tasks }

/-- The tasks of all controllers, the current one last. -/
def controllers (s : SimulatorService) : List TrafficTasks :=
  s.retired ++ (s.simulation.map (·.tasks)).toList

/-! ## Results -/

/-- The files of the service. -/
def resultsRoot (s : SimulatorService) : ResultsRoot where
  results := s.results
  summaries := s.summaries
  threads := s.threads

/-- `result_is_finalized`. -/
def resultIsFinalized (c : TrafficController) (runId : String) : Bool :=
  c.frozenResult.any fun frozen => frozen.runId = runId

/-- The result that `_archive_unpersisted_traffic_result` archives, if there is one. -/
def unpersistedResult (s : SimulatorService) (c : TrafficController) : Option TrafficRunResult :=
  match c.current with
  | none => none
  | some current =>
      if ¬resultIsFinalized c current.runId then none
      else if s.results.contains current.runId then none
      else c.result.filter fun result => result.finishedAt ≠ none

/-- `_archive_unpersisted_traffic_result`, given the controller. -/
def archiveUnpersistedTrafficResult (s : SimulatorService) (c : TrafficController) :
    SimulatorService :=
  match s.unpersistedResult c with
  | none => s
  | some result =>
      { s with
        volatileResults :=
          (s.volatileResults.set result.runId result).keepLast MAX_VOLATILE_RESULTS
        archived := s.archived ++ [result.runId] }

/-- The controller of the current simulation, if the run is its current one. -/
def liveController (s : SimulatorService) (runId : String) : Option TrafficController :=
  (s.simulation.map (·.controller)).filter fun c =>
    c.current.any fun current => current.runId = runId

/-! ## Topology -/

/-- `replace_scenario`. -/
def replaceScenario (s : SimulatorService) (scenario : Scenario) :
    SimulatorService × Except ServiceError Scenario :=
  if s.state ≠ .stopped then
    (s, .error (.simulationConflict "SCENARIO_LOCKED"
      "node, identity, channel, and RF settings are editable only while stopped"))
  else ({ s with scenario := scenario }, .ok scenario)

/-- `changed` in `_apply_runtime_scenario`. -/
def changedLinks (previous : Dict (String × String) DirectedLink) :
    List DirectedLink → Except LookupError (List DirectedLink)
  | [] => .ok []
  | link :: rest =>
      match previous.get? link.key, changedLinks previous rest with
      | none, _ => .error (.keyError link.key)
      | some _, .error error => .error error
      | some old, .ok changed => .ok (if old ≠ link then link :: changed else changed)

/-- The loop of `_apply_runtime_scenario` that records the changes, with its `zip`. -/
def recordTopologyChanges (c : TrafficController) :
    List PacketEvent → List DirectedLink → TrafficController × Except ServiceError Unit
  | [], [] => (c, .ok ())
  | event :: events, link :: links =>
      match c.recordTopologyChange event link with
      | (c, .error error) => (c, .error (.runtimeError error.text))
      | (c, .ok ()) => recordTopologyChanges c events links
  | [], _ :: _ => (c, .error (.valueError "zip() argument 2 is longer than argument 1"))
  | _ :: _, [] => (c, .error (.valueError "zip() argument 2 is shorter than argument 1"))

/-- `_apply_runtime_scenario`. -/
def applyRuntimeScenario (s : SimulatorService) (now : ℚ) (updated : Scenario) :
    SimulatorService × Except ServiceError Unit :=
  match s.simulation with
  | none => (s, .error (.runtimeError "runtime medium is unavailable"))
  | some simulation =>
      match changedLinks s.scenario.linkMap updated.links with
      | .error error => (s, .error (.lookupError error))
      | .ok changed =>
          match simulation.controller.ensureTopologyChangeCapacity changed.length with
          | .error error =>
              (s, .error (.simulationConflict "TOPOLOGY_HISTORY_FULL" error.text))
          | .ok () =>
              match simulation.medium.applyLinks updated.links with
              | .error message => (s, .error (.valueError message))
              | .ok (medium, applied) =>
                  let events := applied.map fun link => DirectedMedium.linkUpdateEvent link now
                  let simulation := (simulation.withMedium medium).publishAll events
                  let recorded := recordTopologyChanges simulation.controller
                    (sequencedAll s.broker events) changed
                  ({ s.publishAll events with
                      scenario := updated
                      simulation := some (simulation.withController recorded.1) }, recorded.2)

/-- `update_links`, with the topology lock. -/
def updateLinks (s : SimulatorService) (now : ℚ) (updates : List DirectedLink) :
    SimulatorService × Except ServiceError (List DirectedLink) :=
  let updateMap := Scenario.linkMapOf updates
  if updates = [] then
    (s, .error (.simulationConflict "INVALID_LINK_UPDATE" "at least one link update is required"))
  else if updateMap.items.length ≠ updates.length then
    (s, .error (.simulationConflict "INVALID_LINK_UPDATE" "link updates must be unique"))
  else if s.state ≠ .running ∨ s.simulation.isNone then
    (s, .error (.simulationConflict "INVALID_LIFECYCLE_STATE"
      "runtime links require RUNNING state"))
  else
    match updateMap.keys.find? fun key => ¬s.scenario.linkMap.contains key with
    | some key =>
        (s, .error (.simulationConflict "UNKNOWN_LINK"
          s!"unknown directed link: {key.1} -> {key.2}"))
    | none =>
        let links := s.scenario.links.map fun current =>
          (updateMap.get? current.key).getD current
        match s.applyRuntimeScenario now { s.scenario with links := links } with
        | (s, .error error) => (s, .error error)
        | (s, .ok ()) => (s, .ok updates)

/-- `apply_topology`, with the topology lock. -/
def applyTopology (s : SimulatorService) (now : ℚ) (preset : TopologyPreset) :
    SimulatorService × Except ServiceError Scenario :=
  match applyTopologyPreset s.scenario preset with
  | .error error => (s, .error (.lookupError error))
  | .ok updated =>
      if s.state = .stopped then ({ s with scenario := updated }, .ok updated)
      else if s.state ≠ .running ∨ s.simulation.isNone then
        (s, .error (.simulationConflict "INVALID_LIFECYCLE_STATE"
          s!"cannot apply topology from {s.state.value}"))
      else
        match s.applyRuntimeScenario now updated with
        | (s, .error error) => (s, .error error)
        | (s, .ok ()) => (s, .ok updated)

/-! ## Traffic -/

/-- `start_traffic` up to its first suspension. -/
def startTraffic (s : SimulatorService) (request : TrafficRunRequest) :
    SimulatorService × Except ServiceError Unit :=
  match s.simulation with
  | none =>
      (s, .error (.simulationConflict "INVALID_LIFECYCLE_STATE" "traffic requires RUNNING state"))
  | some simulation =>
      if s.state ≠ .running then
        (s, .error (.simulationConflict "INVALID_LIFECYCLE_STATE"
          "traffic requires RUNNING state"))
      else if simulation.controller.state = .running ∨ simulation.controller.state = .stopping then
        (s, .error (.simulationConflict "TRAFFIC_RUN_ACTIVE" "a traffic run is already active"))
      else ({ s with topologyLock := .sampling request s.retired.length }, .ok ())

/-- The conflict that `start_traffic` makes of what `start` of the controller raises. -/
def startConflict : TrafficError → ServiceError
  | .packetIdQuarantineCapacityError message =>
      .simulationConflict "PACKET_ID_QUARANTINE_FULL" message
  | .runtimeError message => .simulationConflict "TRAFFIC_RUN_ACTIVE" message
  | error => .simulationConflict "INVALID_TRAFFIC_REQUEST" error.text

/-- The end of `start_traffic`: the controller starts a run of the current scenario. -/
def beginRun (s : SimulatorService) (m : Moment) (runId : String) (request : TrafficRunRequest)
    (simulation : Simulation) (baseline : FailedReceptionSample) :
    SimulatorService × Except ServiceError String :=
  let tasks := simulation.tasks
  let started := tasks.started m runId request (some s.scenario) (some baseline)
  match (tasks.controller.start m runId (tasks.runTask ≠ .done) request (some s.scenario)
      (some baseline)).2 with
  | .error error => (s.adoptTasks simulation started, .error (startConflict error))
  | .ok runId =>
      ({ s.adoptTasks simulation started with
          startedRuns := s.startedRuns ++ [{ runId := runId, streamId := m.streamId }] },
        .ok runId)

/-- `start_traffic` after its sample, or after the exception of the sampler. -/
def sampledTraffic (s : SimulatorService) (m : Moment) (runId : String)
    (request : TrafficRunRequest) (generation : Nat)
    (answer : Except String FailedReceptionSample) :
    SimulatorService × Except ServiceError String :=
  let s := { s with topologyLock := .free }
  match answer, s.simulation with
  | .error exception, _ =>
      (s, .error (.simulationConflict "LOCAL_STATS_UNAVAILABLE"
        s!"could not capture native local statistics: {exception}"))
  | .ok baseline, some simulation =>
      if s.state ≠ .running ∨ generation ≠ s.retired.length then
        (s, .error (.simulationConflict "INVALID_LIFECYCLE_STATE"
          "simulation stopped while traffic baselines were being captured"))
      else
        (s.archiveUnpersistedTrafficResult simulation.controller).beginRun m runId request
          simulation baseline
  | .ok _, none =>
      (s, .error (.simulationConflict "INVALID_LIFECYCLE_STATE"
        "simulation stopped while traffic baselines were being captured"))

/-- A call of `stop` or `fail` of the current controller, up to its first suspension. -/
def call (s : SimulatorService) (m : Moment) (simulation : Simulation) (kind : CallerKind) :
    SimulatorService :=
  let entered := simulation.tasks.enterCall m kind
  s.adoptTasks simulation
    { entered.1 with callers := entered.1.callers ++ [{ kind := kind, pc := entered.2 }] }

/-- What a call of a controller has come to. -/
def callOutcome (tasks : TrafficTasks) (caller : Nat) : Option CallerPc :=
  (tasks.callers[caller]?.map (·.pc)).filter TrafficTasks.CallerPc.isOver

/-- What the call of the current controller that a cleanup awaits has come to. -/
def outcome (s : SimulatorService) (caller : Nat) : Option CallerPc :=
  s.simulation.bind fun simulation => callOutcome simulation.tasks caller

/-- `stop_traffic` up to its first suspension, if it has one. -/
def stopTraffic (s : SimulatorService) (m : Moment) : SimulatorService :=
  match s.simulation with
  | none => s
  | some simulation =>
      let called := s.call m simulation .stop
      let caller := simulation.tasks.callers.length
      if (called.outcome caller).isSome then called
      else { called with topologyLock := .stopping s.retired.length caller }

/-! ## Lifecycle -/

/-- The rest of `start` before its first suspension. -/
def beginStart (s : SimulatorService) (m : Moment) (capabilities : Capabilities) :
    SimulatorService × Except ServiceError Unit :=
  let s := { s with lifecycleLock := .free }
  if ¬capabilities.collisionAvailable then
    (s, .error (.simulationConflict "NATIVE_COLLISION_UNAVAILABLE"
      ("the runtime does not contain a verified collision-enabled native firmware " ++
        "build")))
  else if ¬capabilities.provenanceAvailable then
    (s, .error (.simulationConflict "BUILD_METADATA_UNAVAILABLE"
      "the runtime does not contain build metadata for the native firmware artifact"))
  else
    ({ s.enter m .starting "Starting native firmware processes" with lifecycleLock := .starting },
      .ok ())

/-- `start` up to its first suspension, with the lifecycle lock. -/
def start (s : SimulatorService) (m : Moment) (capabilities : Capabilities) :
    SimulatorService × Except ServiceError Unit :=
  match s.state with
  | .running | .warmingUp => (s, .ok ())
  | .stopped => s.beginStart m capabilities
  | .failed => ({ s with lifecycleLock := .tearingDown .restart .cleaning }, .ok ())
  | .starting | .stopping =>
      (s, .error (.simulationConflict "INVALID_LIFECYCLE_STATE"
        s!"cannot start from {s.state.value}"))

/-- `start` creates the controller and the medium and begins the warm-up. -/
def createSimulation (s : SimulatorService) (m : Moment) (hardwareIds : Dict String Nat)
    (rfFrames : String → List MeshPacket) : SimulatorService :=
  { s with
    simulation := some (.new s.scenario hardwareIds s.buildMetadata rfFrames) }.enter m .warmingUp
    "Firmware is exchanging NodeInfo and establishing routes"

/-- `message` at the end of `start`; `observed` are the pairs that the warm-up saw and those
that it expected, when some are missing. -/
def runningMessage (gateways : Nat) (observed : Option (Nat × Nat)) : String :=
  s!"{gateways} native nodes are running" ++
    match observed with
    | none => ""
    | some (seen, expected) =>
        s!"; warm-up observed {seen} of {expected} graph-connected pairs"

/-- `start` after the warm-up. -/
def finishStart (s : SimulatorService) (m : Moment) (observed : Option (Nat × Nat)) :
    SimulatorService :=
  { s.enter m .running (runningMessage s.scenario.nodes.length observed) with
    lifecycleLock := .free }

/-- The exception branch of `start`, up to the cleanup. -/
def startupRaised (s : SimulatorService) (m : Moment) (exception : String) : SimulatorService :=
  { s.enter m .failed s!"Startup failed: {exception}" with
    lifecycleLock := .tearingDown .startup .cleaning }

/-- `_startup_task` is set. -/
def startupTask (s : SimulatorService) : Bool :=
  match s.lifecycleLock with
  | .starting => true
  | .tearingDown .startup _ => true
  | _ => false

/-- `_failure_cleanup_task` is there and not done. -/
def cleanupOutstanding (s : SimulatorService) : Bool :=
  match s.lifecycleLock with
  | .tearingDown (.failure _) _ => true
  | _ => s.failureCleanup.isSome

/-- `_schedule_runtime_failure`.  The task that it creates waits for the lifecycle lock;
`start` notices the failure by itself. -/
def scheduleRuntimeFailure (s : SimulatorService) (m : Moment) (category detail : String) :
    SimulatorService :=
  if s.state = .stopping ∨ s.state = .stopped ∨ s.state = .failed then s
  else
    let message := s!"{category}: {detail}"
    { s.enter m .failed message with
      failureCleanup :=
        if s.startupTask || s.cleanupOutstanding then s.failureCleanup else some message }

/-- `_fail_traffic_and_cleanup` gets the lifecycle lock, whatever the state is by then. -/
def cleanUpFailure (s : SimulatorService) (reason : String) : SimulatorService :=
  { s with
    failureCleanup := none
    lifecycleLock := .tearingDown (.failure reason) .locking }

/-- `stop` up to its wait for the topology lock, with the lifecycle lock. -/
def stop (s : SimulatorService) (m : Moment) : SimulatorService :=
  if s.state = .stopped then s
  else
    { s.enter m .stopping "Stopping traffic, gateways, and native processes" with
      lifecycleLock := .tearingDown .stop .locking }

/-- `reset`, with the lifecycle lock. -/
def reset (s : SimulatorService) (m : Moment) (streamId : String) :
    SimulatorService × Except ServiceError Unit :=
  if s.state ≠ .stopped then
    (s, .error (.simulationConflict "INVALID_LIFECYCLE_STATE"
      "reset is allowed only while stopped"))
  else
    let s := { s with
      scenario := defaultScenario
      message := "Scenario reset to the five-node full mesh; packet evidence and daemon logs " ++
        "were cleared; saved runs were preserved" }.publishLifecycle m
    ({ s with
        broker := s.broker.clear streamId m.now
        streamIds := s.streamIds ++ [streamId] }, .ok ())

/-! ## Cleanup -/

/-- The cleanup moves on. -/
def cleansUp (s : SimulatorService) (kind : TeardownKind) (pc : TeardownPc) : SimulatorService :=
  { s with lifecycleLock := .tearingDown kind pc }

/-- The cleanup ends and gives its locks back. -/
def release (s : SimulatorService) (kind : TeardownKind) : SimulatorService :=
  { s with
    lifecycleLock := .free
    topologyLock := if kind.locksTopology then .free else s.topologyLock }

/-- `_fail_traffic_and_cleanup` after it got its locks; `stop` goes on to clean up. -/
def lockedTeardown (s : SimulatorService) (m : Moment) (kind : TeardownKind) :
    SimulatorService :=
  let s := { s with topologyLock := .tearingDown }
  match kind, s.simulation with
  | .failure reason, some simulation =>
      (s.call m simulation (.fail reason)).cleansUp kind (.failing simulation.tasks.callers.length)
  | _, _ => s.cleansUp kind .cleaning

/-- `_cleanup_resources_unlocked` up to the `stop` of the controller. -/
def enterCleanup (s : SimulatorService) (m : Moment) (kind : TeardownKind) : SimulatorService :=
  match s.simulation with
  | none => s.cleansUp kind .closing
  | some simulation =>
      (s.call m simulation .stop).cleansUp kind (.stopping simulation.tasks.callers.length)

/-- `_cleanup_resources_unlocked` after the `stop` of the controller returned. -/
def stoppedTraffic (s : SimulatorService) (kind : TeardownKind) (finalized : Bool) :
    SimulatorService :=
  match s.simulation with
  | none => s.cleansUp kind .closing
  | some simulation =>
      if finalized then
        (s.archiveUnpersistedTrafficResult simulation.controller).cleansUp kind .closing
      else
        { s with
            lateFinalizations := s.lateFinalizations ++ [s.retired.length] }.cleansUp kind .closing

/-- The end of `_cleanup_resources_unlocked`: the medium and the controller are dropped. -/
def dropSimulation (s : SimulatorService) : SimulatorService :=
  { s with simulation := none, retired := s.controllers }

/-- The end of a cleanup and of the command that it belongs to; after it `start` goes on. -/
def finishTeardown (s : SimulatorService) (m : Moment) (capabilities : Capabilities)
    (kind : TeardownKind) : SimulatorService :=
  let s := s.dropSimulation.release kind
  match kind with
  | .stop => s.enter m .stopped "Stopped"
  | .restart => (s.beginStart m capabilities).1
  | .failure _ => s
  | .startup => s

/-- The task that cleans up, from one suspension to the next.  When the call that it awaits
has raised, it raises too. -/
def teardown (s : SimulatorService) (m : Moment) (capabilities : Capabilities)
    (kind : TeardownKind) : TeardownPc → Option SimulatorService
  | .locking => if s.topologyLock = .free then some (s.lockedTeardown m kind) else none
  | .failing caller =>
      (s.outcome caller).map fun
        | .raised _ => s.release kind
        | _ => s.cleansUp kind .cleaning
  | .cleaning => some (s.enterCleanup m kind)
  | .stopping caller =>
      (s.outcome caller).map fun
        | .returned finalized => s.stoppedTraffic kind finalized
        | _ => s.release kind
  | .closing => some (s.finishTeardown m capabilities kind)

/-- `_settle_late_traffic_finalization` after its wait. -/
def settleLate (s : SimulatorService) (generation : Nat) (c : TrafficController) :
    SimulatorService :=
  { s with lateFinalizations := s.lateFinalizations.erase generation
    }.archiveUnpersistedTrafficResult c

/-! ## Files -/

/-- The results that the calls of `_finish` have handed to the persistence thread. -/
def persisting (tasks : TrafficTasks) : List TrafficRunResult :=
  let inHand : FinishPc → Option TrafficRunResult
    | .persisting terminal => some terminal
    | _ => none
  let ofRun : RunPc → Option TrafficRunResult
    | .finishing _ pc => inHand pc
    | _ => none
  let ofCaller : CallerPc → Option TrafficRunResult
    | .finishing _ pc => inHand pc
    | _ => none
  (ofRun tasks.runTask).toList ++ tasks.callers.filterMap fun caller => ofCaller caller.pc

/-- The persistence thread of a controller returns when it has renamed both files, and it
raises only while it has not. -/
def ThreadAgrees (threads : Dict Nat ThreadPc) (generation : Nat) : Option FinishInput → Prop
  | some .persisted => threads.get? generation = some .written
  | some (.persistenceRaised _) => threads.get? generation ≠ some .written
  | _ => True

instance (threads : Dict Nat ThreadPc) (generation : Nat) (input : Option FinishInput) :
    Decidable (ThreadAgrees threads generation input) :=
  match input with
  | some .persisted => inferInstanceAs (Decidable (_ = _))
  | some (.persistenceRaised _) => inferInstanceAs (Decidable (_ ≠ _))
  | some .woken | some .timeout | some .computed | some .copied | none => .isTrue trivial

/-- The persistence thread of a controller is over when its result is. -/
def threadsAfter (threads : Dict Nat ThreadPc) (generation : Nat) :
    Option FinishInput → Dict Nat ThreadPc
  | some .persisted => threads.erase generation
  | some (.persistenceRaised _) => threads.erase generation
  | _ => threads

/-- The runs whose persistence raised, when it raises once more. -/
def unpersistedAfter (unpersisted : List String) (tasks : TrafficTasks) :
    Option FinishInput → List String
  | some (.persistenceRaised _) => unpersisted ++ (persisting tasks).map (·.runId)
  | _ => unpersisted

/-- The persistence thread of a controller has ended, if that is what its input says. -/
def endThread (s : SimulatorService) (generation : Nat) (tasks : TrafficTasks)
    (input : Option FinishInput) : SimulatorService :=
  { s with
    threads := threadsAfter s.threads generation input
    unpersisted := unpersistedAfter s.unpersisted tasks input }

/-- A file operation of the persistence thread. -/
def fileStep (s : SimulatorService) (generation : Nat) (terminal : TrafficRunResult)
    (fileStep : FileStep) : Option SimulatorService :=
  (s.resultsRoot.fileStep generation terminal fileStep).map fun root =>
    { s with results := root.results, summaries := root.summaries, threads := root.threads }

/-! ## Steps -/

/-- What can happen next.  A runtime failure is one that a gateway, a process or the medium
reports, and `trafficStopped` the end of `stop_traffic`. -/
inductive Action where
  | start (m : Moment) (capabilities : Capabilities)
  | createSimulation (m : Moment) (hardwareIds : Dict String Nat)
      (rfFrames : String → List MeshPacket)
  | finishStart (m : Moment) (observed : Option (Nat × Nat))
  | startupRaised (m : Moment) (exception : String)
  | runtimeFailure (m : Moment) (category detail : String)
  | cleanUpFailure
  | stop (m : Moment)
  | teardown (m : Moment) (capabilities : Capabilities)
  | reset (m : Moment) (streamId : String)
  | replaceScenario (scenario : AcceptedScenario)
  | updateLinks (now : ℚ) (updates : List DirectedLink)
  | applyTopology (now : ℚ) (preset : TopologyPreset)
  | startTraffic (request : TrafficRunRequest)
  | sampledTraffic (m : Moment) (runId : String) (answer : Except String FailedReceptionSample)
  | stopTraffic (m : Moment)
  | trafficStopped
  | simulation (a : Simulation.Action)
  | retired (generation : Nat) (a : TrafficTasks.Action)
  | file (generation : Nat) (fileStep : FileStep)
  | settleLate (generation : Nat)

/-- The moment at which an action of a simulation reads the clocks and the broker. -/
def simulationMoment : Simulation.Action → Option Moment
  | .transmit m _ => some m
  | .traffic a => TrafficTasks.Action.moment a
  | _ => none

/-- The moment at which an action reads the clocks and the broker. -/
def Action.moment : Action → Option Moment
  | .start m _ => some m
  | .createSimulation m .. => some m
  | .finishStart m _ => some m
  | .startupRaised m _ => some m
  | .runtimeFailure m .. => some m
  | .stop m => some m
  | .teardown m _ => some m
  | .reset m _ => some m
  | .sampledTraffic m .. => some m
  | .stopTraffic m => some m
  | .simulation a => simulationMoment a
  | .retired _ a => TrafficTasks.Action.moment a
  | _ => none

/-- The tasks of a controller take such a step by themselves. -/
def ofTasks : TrafficTasks.Action → Bool
  | .run .. => true
  | .cancelled => true
  | .resume .. => true
  | _ => false

/-- A simulation takes such a step by itself; the others are made by the commands of the
service. -/
def ofSimulation : Simulation.Action → Bool
  | .updateLink .. => false
  | .applyLinks .. => false
  | .traffic (.start ..) => false
  | .traffic (.call ..) => false
  | .traffic (.topologyChange ..) => false
  | _ => true

/-- The action of the tasks that an action of a simulation is. -/
def trafficAction : Simulation.Action → Option TrafficTasks.Action
  | .traffic a => some a
  | _ => none

/-- How an action of a simulation ends the persistence of a result, if it does. -/
def simulationInput (a : Simulation.Action) : Option FinishInput :=
  (trafficAction a).bind TrafficTasks.Action.finishInput

/-- The current simulation takes a step. -/
def stepSimulation (pb : Protobuf) (s : SimulatorService) (a : Simulation.Action) :
    Option SimulatorService :=
  match s.simulation with
  | none => none
  | some simulation =>
      if ofSimulation a ∧ ThreadAgrees s.threads s.retired.length (simulationInput a) then
        (simulation.step pb a).map fun after =>
          (s.adopt simulation after).endThread s.retired.length simulation.tasks
            (simulationInput a)
      else none

/-- A controller that a cleanup dropped takes a step. -/
def stepRetired (pb : Protobuf) (s : SimulatorService) (generation : Nat)
    (a : TrafficTasks.Action) : Option SimulatorService :=
  match s.retired[generation]? with
  | none => none
  | some tasks =>
      if ofTasks a ∧ ThreadAgrees s.threads generation a.finishInput then
        (tasks.step pb a).map fun after =>
          ({ s with retired := s.retired.set generation after }.follow tasks.controller
            after.controller).endThread generation tasks a.finishInput
      else none

/-- One step, at a moment that reads the stream id of the broker. -/
def stepAt (pb : Protobuf) (s : SimulatorService) : Action → Option SimulatorService
  | .start m capabilities =>
      if s.lifecycleLock = .free then some (s.start m capabilities).1 else none
  | .createSimulation m hardwareIds rfFrames =>
      if s.lifecycleLock = .starting ∧ s.state = .starting then
        some (s.createSimulation m hardwareIds rfFrames)
      else none
  | .finishStart m observed =>
      if s.lifecycleLock = .starting ∧ s.state = .warmingUp then
        some (s.finishStart m observed)
      else none
  | .startupRaised m exception =>
      if s.lifecycleLock = .starting then some (s.startupRaised m exception) else none
  | .runtimeFailure m category detail => some (s.scheduleRuntimeFailure m category detail)
  | .cleanUpFailure =>
      if s.lifecycleLock = .free then s.failureCleanup.map s.cleanUpFailure else none
  | .stop m => if s.lifecycleLock = .free then some (s.stop m) else none
  | .teardown m capabilities =>
      match s.lifecycleLock with
      | .tearingDown kind pc => s.teardown m capabilities kind pc
      | _ => none
  | .reset m streamId =>
      if s.lifecycleLock = .free ∧ streamId ∉ s.streamIds then some (s.reset m streamId).1
      else none
  | .replaceScenario scenario => some (s.replaceScenario scenario.1).1
  | .updateLinks now updates =>
      if s.topologyLock = .free then some (s.updateLinks now updates).1 else none
  | .applyTopology now preset =>
      if s.topologyLock = .free then some (s.applyTopology now preset).1 else none
  | .startTraffic request =>
      if s.topologyLock = .free then some (s.startTraffic request).1 else none
  | .sampledTraffic m runId answer =>
      match s.topologyLock with
      | .sampling request generation =>
          if runId ∈ s.startedRuns.map (·.runId) then none
          else some (s.sampledTraffic m runId request generation answer).1
      | _ => none
  | .stopTraffic m => if s.topologyLock = .free then some (s.stopTraffic m) else none
  | .trafficStopped =>
      match s.topologyLock with
      | .stopping generation caller =>
          (s.controllers[generation]?.bind fun tasks => callOutcome tasks caller).map fun _ =>
            { s with topologyLock := .free }
      | _ => none
  | .simulation a => s.stepSimulation pb a
  | .retired generation a => s.stepRetired pb generation a
  | .file generation fileStep => do
      let tasks ← s.controllers[generation]?
      let terminal ← (persisting tasks).head?
      s.fileStep generation terminal fileStep
  | .settleLate generation => do
      let tasks ← s.controllers[generation]?
      if generation ∈ s.lateFinalizations ∧ tasks.controller.finalizationDone then
        some (s.settleLate generation tasks.controller)
      else none

/-- One step of the service. -/
def step (pb : Protobuf) (s : SimulatorService) (a : Action) : Option SimulatorService :=
  if a.moment.all fun m => m.streamId = s.broker.streamId then s.stepAt pb a else none

/-- `SimulatorService.__init__`, with an empty `results_root`. -/
def new (broker : EventBroker) (buildMetadata : BuildMetadata) : SimulatorService where
  buildMetadata := buildMetadata
  broker := broker

end SimulatorService

end MeshtasticLab.Simulator

/-
  Simulator/Lab.lean --- the life cycle of the lab.

  Embeds what `SimulatorService` of `backend/app/simulator/service.py` does with its native
  processes and gateways: `start` with `_configure_nodes`, `stop`, `reset`, the failures
  that are reported while it runs, and `_cleanup_resources`.  The processes are those of
  the supervisor and the gateways those of the gateway model, with all their steps.

  HOW THE COROUTINES ARE CUT

  The holder of the lifecycle lock goes from one wait to the next in one step.  A call of
  `start` or `stop` on a gateway begins in a step of its own; a group of such calls is
  over when each gateway is through.  What a supervisor or a gateway reports is handled in
  the step in which it is reported, since the handlers do not suspend.

  WHAT IS LEFT OPEN

  Which command gets the lock next, in particular whether a command or the cleanup after
  a failure does: a command awaits a cleanup that is outstanding when it is called, but it
  may have been called before.  Configuring and verifying a node, the medium and the
  warm-up end at any time or raise; a wait that ends by its timeout found its event not
  set.  No command is cancelled.  Traffic and medium are created and dropped together, and
  are a flag here.
-/
import MeshtasticLab.Gateway.NodeGateway
import MeshtasticLab.Runtime.OwnSteps
import MeshtasticLab.Simulator.Service

set_option autoImplicit false

namespace MeshtasticLab.Simulator

open MeshtasticLab.Foundation MeshtasticLab.Gateway MeshtasticLab.Models MeshtasticLab.Runtime

/-- Whose cleanup it is: that of `stop`, of the task that a failure creates, of `start`
after an exception, or of `start` after a failure. -/
inductive CleanupKind where
  | stop
  | failure
  | startup
  | recovery
  deriving DecidableEq, Repr

/-- What a cleanup waits for: traffic and medium, the gateways with those that `stop` was
not called on yet, or the processes. -/
inductive CleanupPc where
  | simulation
  | gateways (uncalled : List String)
  | processes
  deriving DecidableEq, Repr

/-- Where the holder of the lifecycle lock is.  From `processes` to `enabling` it is in
`start`: the gateways are started, or given up after one has raised; the nodes are
configured and reboot; up to three times those that are pending are stopped, started and
verified. -/
inductive LabPc where
  | free
  | processes
  | gateways (uncalled : List String)
  | abandoning
  | configuring
  | rebooting
  | stopping (attempt : Nat) (pending uncalled : List String)
  | restarting (attempt : Nat) (pending uncalled : List String)
  | verifying (attempt : Nat) (remaining unstable : List String)
  | medium
  | warmingUp
  | enabling
  | cleaning (kind : CleanupKind) (pc : CleanupPc)
  deriving DecidableEq, Repr

namespace LabPc

/-- The gateways on which `start` is still to be called. -/
def starts : LabPc → List String
  | .gateways uncalled => uncalled
  | .restarting _ _ uncalled => uncalled
  | _ => []

/-- The gateways on which `stop` is still to be called. -/
def stops : LabPc → List String
  | .stopping _ _ uncalled => uncalled
  | .cleaning _ (.gateways uncalled) => uncalled
  | _ => []

/-- The call on a gateway has begun. -/
def call (pc : LabPc) (nodeId : String) : LabPc :=
  match pc with
  | .gateways uncalled => .gateways (uncalled.filter (· ≠ nodeId))
  | .stopping attempt pending uncalled => .stopping attempt pending (uncalled.filter (· ≠ nodeId))
  | .restarting attempt pending uncalled =>
      .restarting attempt pending (uncalled.filter (· ≠ nodeId))
  | .cleaning kind (.gateways uncalled) =>
      .cleaning kind (.gateways (uncalled.filter (· ≠ nodeId)))
  | pc => pc

end LabPc

/-- What the lab is made with: the supervisor's arguments and the generated code. -/
structure LabConfig where
  supervisor : SupervisorConfig
  api : ClientApi

/-- `SimulatorService` with its processes and gateways; `verified` are the keys of the
`verified` of `_configure_nodes`, which becomes `verifications`, and `failureCleanup` says
that the cleanup task is not done.  The last two fields are what has happened so far: the
nodes whose gateway failed after its verification, while the failure was not acted on, and
the gateways that were dropped. -/
structure Lab where
  scenario : Scenario := defaultScenario
  state : LifecycleState := .stopped
  lifecycleLock : LabPc := .free
  supervisor : NativeProcessSupervisor := .new
  gateways : Dict String NodeGateway := ∅
  verified : List String := []
  simulation : Bool := false
  startupTask : Bool := false
  failureCleanup : Bool := false
  missed : List String := []
  dropped : List NodeGateway := []

namespace Lab

/-- `SimulatorService.__init__`. -/
def new : Lab := {}

/-! ## Failures -/

/-- `_schedule_runtime_failure`. -/
def scheduleRuntimeFailure (lab : Lab) : Lab :=
  match lab.state with
  | .stopping => lab
  | .stopped => lab
  | .failed => lab
  | _ =>
      { lab with
        state := .failed
        failureCleanup := lab.failureCleanup || !lab.startupTask }

/-- `_on_gateway_event` for `gateway.rf_queue_full`. -/
def onQueueFull (lab : Lab) : Lab :=
  match lab.state with
  | .warmingUp => lab.scheduleRuntimeFailure
  | .running => lab.scheduleRuntimeFailure
  | _ => lab

/-- `_on_gateway_event` for `gateway.failed`, which is not acted on before the warm-up. -/
def onGatewayFailed (lab : Lab) (nodeId : String) : Lab :=
  match lab.state with
  | .warmingUp => lab.scheduleRuntimeFailure
  | .running => lab.scheduleRuntimeFailure
  | .starting =>
      if nodeId ∈ lab.verified then { lab with missed := nodeId :: lab.missed } else lab
  | _ => lab

/-! ## Cleanup -/

/-- `_cleanup_resources`, up to its first wait. -/
def beginCleanup (lab : Lab) (kind : CleanupKind) : Lab :=
  { lab with lifecycleLock := .cleaning kind .simulation }

/-- `start` has caught an exception. -/
def failStart (lab : Lab) : Lab := { lab with state := .failed }.beginCleanup .startup

/-- The end of `_cleanup_resources`. -/
def dropResources (lab : Lab) : Lab :=
  { lab with
    gateways := ∅
    verified := []
    simulation := false
    dropped := lab.dropped ++ lab.gateways.items.map Prod.snd }

/-! ## Start -/

/-- `start` from the moment it sets `STARTING`; `raises` is for the supervisor. -/
def beginStart (config : LabConfig) (lab : Lab) (raises : Bool) : Option Lab :=
  (lab.supervisor.step config.supervisor (.start lab.scenario raises)).map fun supervisor =>
    { lab with
      state := .starting
      startupTask := true
      supervisor
      missed := []
      lifecycleLock := .processes }

/-- `_raise_if_startup_failed`, and how `start` goes on without an exception. -/
def unlessFailed (lab next : Lab) : Lab := if lab.state = .failed then lab.failStart else next

/-- The size of the queues of a gateway. -/
def QUEUE_SIZE : Nat := 256

/-- The gateways are made, and their public listeners reserved. -/
def createGateways (lab : Lab) : Lab :=
  { lab with
    gateways := (∅ : Dict String NodeGateway).update
      (lab.scenario.nodeIds.map fun nodeId =>
        (nodeId, (NodeGateway.new QUEUE_SIZE false).reservePublicListener))
    lifecycleLock := .gateways lab.scenario.nodeIds }

/-- Every gateway among some nodes meets a condition. -/
def gatewaysAll (lab : Lab) (nodeIds : List String) (condition : NodeGateway → Bool) : Bool :=
  nodeIds.all fun nodeId => (lab.gateways.get? nodeId).any condition

/-- No call of `start` or `stop` is under way on a gateway. -/
def isIdle (g : NodeGateway) : Bool := g.lifecycle = .idle

/-- A call of `start` has returned. -/
def hasStarted (g : NodeGateway) : Bool := isIdle g && g.server

/-- A call of `stop` has returned. -/
def hasStopped (g : NodeGateway) : Bool := isIdle g && decide (g.state = .stopped)

/-- The pending gateways are stopped, and their listeners reserved. -/
def restart (lab : Lab) (attempt : Nat) (pending : List String) : Lab :=
  { lab with
    gateways := lab.gateways.mapValues fun nodeId g =>
      if nodeId ∈ pending then g.reservePublicListener else g
    lifecycleLock := .restarting attempt pending pending }

/-- The watch of a node is over: its gateway has failed, or it is verified. A wait that times
out is taken to have found the event of the failure not set. -/
def observe (lab : Lab) (attempt : Nat) (remaining unstable : List String) (nodeId : String)
    (g : NodeGateway) : Lab :=
  let remaining := remaining.filter (· ≠ nodeId)
  if g.failed then
    { lab with lifecycleLock := .verifying attempt remaining (unstable ++ [nodeId]) }
  else
    { lab with
      verified := lab.verified ++ [nodeId]
      lifecycleLock := .verifying attempt remaining unstable }

/-- An attempt is over: `_configure_nodes` returns, tries again or raises. -/
def endAttempt (lab : Lab) (attempt : Nat) (unstable : List String) : Lab :=
  if unstable = [] then
    lab.unlessFailed { lab with simulation := true, lifecycleLock := .medium }
  else if attempt < 3 then
    { lab with lifecycleLock := .stopping (attempt + 1) unstable unstable }
  else lab.failStart

/-- `start` after `_warm_up_nodes`. -/
def enableClients (lab : Lab) : Lab :=
  lab.unlessFailed
    { lab with
      gateways := lab.gateways.mapValues fun _ g => g.enablePublicClients
      lifecycleLock := .enabling }

/-- `start` returns. -/
def finishStart (lab : Lab) : Lab :=
  lab.unlessFailed
    { lab with state := .running, startupTask := false, lifecycleLock := .free }

/-! ## Steps -/

/-- What happens next. -/
inductive Action where
  | start (available raises : Bool)
  | stop
  | reset
  | replaceScenario (scenario : Scenario)
  | applyLinks (scenario : Scenario)
  | cleanUpFailure
  | processesStarted
  | gatewayRaised
  | abandoned
  | gatewaysStarted
  | configured
  | rebooted
  | gatewaysStopped
  | observed (nodeId : String)
  | attempted
  | mediumStarted
  | warmedUp
  | enabled
  | raised
  | simulationStopped
  | processesStopped (available raises : Bool)
  | mediumFailed
  | queueFull
  | process (a : NativeProcessSupervisor.Action)
  | gateway (nodeId : String) (a : NodeGateway.Action)

/-- The calls of a gateway that the lab makes are made in their time. -/
def permits (pc : LabPc) (nodeId : String) : NodeGateway.Action → Bool
  | .lifecycle .start => decide (nodeId ∈ pc.starts)
  | .lifecycle .stop => decide (nodeId ∈ pc.stops)
  | .reservePublicListener => false
  | .enablePublicClients => false
  | _ => true

/-- The step begins a call that the lab makes. -/
def isCall : NodeGateway.Action → Bool
  | .lifecycle .start => true
  | .lifecycle .stop => true
  | _ => false

/-- A loop of the gateway has called `_fail`. -/
def emitsFailure (a : NodeGateway.Action) (g h : NodeGateway) : Bool :=
  match a with
  | .lifecycle _ => false
  | _ => decide (g.state ≠ .failed) && decide (h.state = .failed)

/-- A step of the supervisor, and `_on_process_failure` when it reports an exit. -/
def processStep (config : LabConfig) (lab : Lab) (a : NativeProcessSupervisor.Action) :
    Option Lab :=
  (lab.supervisor.step config.supervisor a).map fun supervisor =>
    let after := { lab with supervisor }
    if lab.supervisor.failures.length < supervisor.failures.length then
      after.scheduleRuntimeFailure
    else after

/-- A step of a gateway, and `_on_gateway_event` when it reports its failure. -/
def gatewayStep (config : LabConfig) (lab : Lab) (nodeId : String) (a : NodeGateway.Action) :
    Option Lab := do
  let g ← lab.gateways.get? nodeId
  let h ← g.step config.api a
  let after :=
    { lab with
      gateways := lab.gateways.set nodeId h
      lifecycleLock := if isCall a then lab.lifecycleLock.call nodeId else lab.lifecycleLock }
  if emitsFailure a g h then return after.onGatewayFailed nodeId else return after

/-- `start` when it has the lock. -/
def startCommand (config : LabConfig) (lab : Lab) (available raises : Bool) : Option Lab :=
  match lab.state with
  | .stopped => if available then lab.beginStart config raises else some lab
  | .failed => some (lab.beginCleanup .recovery)
  | _ => some lab

/-- `stop` when it has the lock. -/
def stopCommand (lab : Lab) : Lab :=
  match lab.state with
  | .stopped => lab
  | _ => { lab with state := .stopping }.beginCleanup .stop

/-- `reset` when it has the lock. -/
def resetCommand (lab : Lab) : Lab :=
  match lab.state with
  | .stopped =>
      { lab with scenario := defaultScenario, supervisor := lab.supervisor.clearArchivedLogs }
  | _ => lab

/-- The cleanup is over, and so is what it was for. -/
def finishCleanup (config : LabConfig) (lab : Lab) (kind : CleanupKind)
    (available raises : Bool) : Option Lab :=
  let lab := lab.dropResources
  match kind with
  | .stop => some { lab with state := .stopped, lifecycleLock := .free }
  | .failure => some { lab with failureCleanup := false, lifecycleLock := .free }
  | .startup => some { lab with startupTask := false, lifecycleLock := .free }
  | .recovery =>
      if available then lab.beginStart config raises
      else some { lab with lifecycleLock := .free }

/-- What the holder of the lock awaits has raised, when nothing else is under way. -/
def canRaise (lab : Lab) : Bool :=
  match lab.lifecycleLock with
  | .configuring => true
  | .rebooting => true
  | .stopping _ pending [] => lab.gatewaysAll pending isIdle
  | .restarting _ pending [] => lab.gatewaysAll pending isIdle
  | .verifying _ _ _ => true
  | .medium => true
  | .warmingUp => true
  | .enabling => true
  | _ => false

/-- One step. -/
def step (config : LabConfig) (lab : Lab) (a : Action) : Option Lab :=
  match a with
  | .start available raises =>
      if lab.lifecycleLock = .free then lab.startCommand config available raises else none
  | .stop => if lab.lifecycleLock = .free then some lab.stopCommand else none
  | .reset => if lab.lifecycleLock = .free then some lab.resetCommand else none
  | .replaceScenario scenario =>
      if lab.state = .stopped ∧ scenario.validateGraph = .ok () then some { lab with scenario }
      else none
  | .applyLinks scenario =>
      if lab.state = .running ∧ scenario.nodes = lab.scenario.nodes ∧
          scenario.validateGraph = .ok () then
        some { lab with scenario }
      else none
  | .cleanUpFailure =>
      if lab.lifecycleLock = .free ∧ lab.failureCleanup = true then
        some (lab.beginCleanup .failure)
      else none
  | .processesStarted =>
      if lab.lifecycleLock = .processes ∧ lab.supervisor.lifecycleLock = .idle then
        if lab.supervisor.records.items = [] then some lab.failStart
        else some (lab.unlessFailed lab.createGateways)
      else none
  | .gatewayRaised =>
      match lab.lifecycleLock with
      | .gateways _ => some { lab with lifecycleLock := .abandoning }
      | _ => none
  | .abandoned =>
      if lab.lifecycleLock = .abandoning ∧ lab.gatewaysAll lab.gateways.keys isIdle = true then
        some lab.failStart
      else none
  | .gatewaysStarted =>
      match lab.lifecycleLock with
      | .gateways [] =>
          if lab.gatewaysAll lab.gateways.keys hasStarted = true then
            some (lab.unlessFailed { lab with lifecycleLock := .configuring })
          else none
      | .restarting attempt pending [] =>
          if lab.gatewaysAll pending hasStarted = true then
            some { lab with lifecycleLock := .verifying attempt pending [] }
          else none
      | _ => none
  | .configured =>
      if lab.lifecycleLock = .configuring then some { lab with lifecycleLock := .rebooting }
      else none
  | .rebooted =>
      if lab.lifecycleLock = .rebooting ∧ lab.gatewaysAll lab.gateways.keys (·.failed) = true then
        some { lab with lifecycleLock := .stopping 1 lab.scenario.nodeIds lab.scenario.nodeIds }
      else none
  | .gatewaysStopped =>
      match lab.lifecycleLock with
      | .stopping attempt pending [] =>
          if lab.gatewaysAll pending hasStopped = true then some (lab.restart attempt pending)
          else none
      | .cleaning kind (.gateways []) =>
          if lab.gatewaysAll lab.gateways.keys isIdle = true then
            (lab.supervisor.step config.supervisor .stop).map fun supervisor =>
              { lab with supervisor, lifecycleLock := .cleaning kind .processes }
          else none
      | _ => none
  | .observed nodeId =>
      match lab.lifecycleLock with
      | .verifying attempt remaining unstable =>
          if nodeId ∈ remaining then
            (lab.gateways.get? nodeId).map fun g =>
              lab.observe attempt remaining unstable nodeId g
          else none
      | _ => none
  | .attempted =>
      match lab.lifecycleLock with
      | .verifying attempt [] unstable => some (lab.endAttempt attempt unstable)
      | _ => none
  | .mediumStarted =>
      if lab.lifecycleLock = .medium then
        some (lab.unlessFailed { lab with state := .warmingUp, lifecycleLock := .warmingUp })
      else none
  | .warmedUp => if lab.lifecycleLock = .warmingUp then some lab.enableClients else none
  | .enabled => if lab.lifecycleLock = .enabling then some lab.finishStart else none
  | .raised => if lab.canRaise = true then some lab.failStart else none
  | .simulationStopped =>
      match lab.lifecycleLock with
      | .cleaning kind .simulation =>
          some { lab with lifecycleLock := .cleaning kind (.gateways lab.gateways.keys) }
      | _ => none
  | .processesStopped available raises =>
      match lab.lifecycleLock with
      | .cleaning kind .processes =>
          if lab.supervisor.lifecycleLock = .idle then
            lab.finishCleanup config kind available raises
          else none
      | _ => none
  | .mediumFailed => if lab.simulation = true then some lab.scheduleRuntimeFailure else none
  | .queueFull => some lab.onQueueFull
  | .process a => if a.isOwn = true then lab.processStep config a else none
  | .gateway nodeId a =>
      if permits lab.lifecycleLock nodeId a = true then lab.gatewayStep config nodeId a else none

end Lab

end MeshtasticLab.Simulator

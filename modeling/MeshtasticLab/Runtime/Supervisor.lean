/-
  Runtime/Supervisor.lean --- the supervisor of the firmware children.

  Embeds `NativeProcessSupervisor` of `backend/app/runtime/processes.py`: the start and
  the stop of the children under the lifecycle lock, the three tasks of every child, and
  the lines that are kept of its output.

  HOW THE COROUTINES ARE CUT

  A step runs a coroutine from one suspension to the next.  `start` suspends in every
  spawn; `stop` waits for the children to exit, for those it has killed, and then for the
  tasks of one record after another.  The awaited failure handler is a suspension.

  WHAT IS LEFT OPEN

  A child exits when it likes, and writes what it likes before and after; a spawn, and
  whatever comes before the first one, may raise; every wait may end by its timeout, and
  the task that holds the lock may be cancelled.  A spawn that raises or is cancelled
  leaves no child.  The files under `data_root` are left out, and with them the persisted
  log of a drain task; the log lines are decoded.
-/
import MeshtasticLab.Foundation.BoundedDeque
import MeshtasticLab.Foundation.Runs
import MeshtasticLab.Models.Scenario
import MeshtasticLab.Runtime.HardwareIds

set_option autoImplicit false

namespace MeshtasticLab.Runtime

open MeshtasticLab.Foundation MeshtasticLab.Gateway MeshtasticLab.Models

/-- `NodeProcessState`. -/
inductive NodeProcessState where
  | stopped
  | starting
  | running
  | stopping
  | failed
  deriving DecidableEq, Repr

/-- The `stream` of the log functions. -/
inductive OutputStream where
  | stdout
  | stderr
  deriving DecidableEq, Repr

/-- What `terminate` and `kill` send. -/
inductive Signal where
  | terminate
  | kill
  deriving DecidableEq, Repr

/-- `asyncio.subprocess.Process`: the command it was made with, how it has ended, the
signals it was sent, and the lines that were read from it. -/
structure ChildProcess where
  nodeId : String
  command : List String
  returncode : Option Int := none
  signals : List Signal := []
  stdout : List String := []
  stderr : List String := []
  deriving DecidableEq, Repr

namespace ChildProcess

/-- The lines that were read from a stream. -/
def output (child : ChildProcess) : OutputStream → List String
  | .stdout => child.stdout
  | .stderr => child.stderr

/-- One more line was read. -/
def read (child : ChildProcess) (stream : OutputStream) (text : String) : ChildProcess :=
  match stream with
  | .stdout => { child with stdout := child.stdout ++ [text] }
  | .stderr => { child with stderr := child.stderr ++ [text] }

/-- `process.send_signal(signal)`. -/
def sendSignal (child : ChildProcess) (signal : Signal) : ChildProcess :=
  { child with signals := child.signals ++ [signal] }

end ChildProcess

/-- Where `_monitor_exit` is: it waits for the child, it awaits the failure handler, or it
is not there. -/
inductive ExitTask where
  | waiting
  | reporting
  | done
  deriving DecidableEq, Repr

def RECENT_LINES : Nat := 250

/-- `ProcessRecord`; a process is named by the number of those before it.  The last three
fields are the `tasks`: whether an output is drained, and where the monitor is. -/
structure ProcessRecord where
  nodeId : String
  hardwareId : Nat
  internalPort : Nat
  dataDirectory : String
  state : NodeProcessState := .stopped
  process : Option Nat := none
  stdoutLines : BoundedDeque String := .empty RECENT_LINES
  stderrLines : BoundedDeque String := .empty RECENT_LINES
  stdoutTask : Bool := false
  stderrTask : Bool := false
  exitTask : ExitTask := .done

namespace ProcessRecord

/-- The recent lines of a stream. -/
def lines (record : ProcessRecord) : OutputStream → BoundedDeque String
  | .stdout => record.stdoutLines
  | .stderr => record.stderrLines

/-- Whether `_drain_output` runs for a stream. -/
def drains (record : ProcessRecord) : OutputStream → Bool
  | .stdout => record.stdoutTask
  | .stderr => record.stderrTask

/-- `recent.append(text)`. -/
def recordLine (record : ProcessRecord) (stream : OutputStream) (text : String) :
    ProcessRecord :=
  match stream with
  | .stdout => { record with stdoutLines := record.stdoutLines.append text }
  | .stderr => { record with stderrLines := record.stderrLines.append text }

/-- `_drain_output` is over. -/
def endDrain (record : ProcessRecord) : OutputStream → ProcessRecord
  | .stdout => { record with stdoutTask := false }
  | .stderr => { record with stderrTask := false }

/-- The three calls of `_track`. -/
def track (record : ProcessRecord) : ProcessRecord :=
  { record with stdoutTask := true, stderrTask := true, exitTask := .waiting }

/-- What `_stop_unlocked` does with a record when its tasks are over or cancelled. -/
def release (record : ProcessRecord) : ProcessRecord :=
  { record with
    stdoutTask := false
    stderrTask := false
    exitTask := .done
    state := if record.state ≠ .failed then .stopped else record.state }

/-- What `_monitor_exit` does before it calls the failure handler. -/
def fail (record : ProcessRecord) : ProcessRecord :=
  { record with state := .failed, exitTask := .reporting }

/-- `_monitor_exit` is over. -/
def endMonitor (record : ProcessRecord) : ProcessRecord := { record with exitTask := .done }

/-- The `command` of `_start_one`. -/
def command (record : ProcessRecord) (binaryPath : String) (erase : Bool) : List String :=
  binaryPath :: (if erase then ["--erase"] else []) ++
    ["--sim", "--fsdir", record.dataDirectory, "--hwid", toString record.hardwareId,
      "--port", toString record.internalPort]

end ProcessRecord

/-- `ArchivedProcessLogs`. -/
structure ArchivedProcessLogs where
  stdoutLines : List String
  stderrLines : List String
  deriving DecidableEq, Repr

/-- The archived lines of a stream. -/
def ArchivedProcessLogs.lines (archive : ArchivedProcessLogs) : OutputStream → List String
  | .stdout => archive.stdoutLines
  | .stderr => archive.stderrLines

/-- The arguments of `NativeProcessSupervisor`, the hash of the hardware ids and the fuel
of their search. -/
structure SupervisorConfig where
  binaryPath : String := "/usr/bin/meshtasticd"
  dataRoot : String := "/data/nodes"
  internalPortBase : Nat := 46001
  sha256 : Bytes → Bytes
  fuel : Nat

/-- Where the holder of the lifecycle lock is: in `start` it spawns the child of one node
with those of the others still to come; in `stop` it waits for the children, waits for
them after it has killed some, or drains the records that are named. -/
inductive SupervisorPc where
  | idle
  | spawning (erase : Bool) (hardwareIds : Dict String Nat) (nodeId : String)
      (rest : List (String × Nat))
  | terminating
  | killing
  | draining (remaining : List String)
  deriving DecidableEq

/-- `NativeProcessSupervisor`.  The last four fields are what has happened so far: the
children that were spawned, the calls of the failure handler with the child they are
about, the nodes of the scenario that was started last, and the process that each node
with a log then got. -/
structure NativeProcessSupervisor where
  records : Dict String ProcessRecord := ∅
  archivedLogs : Dict String ArchivedProcessLogs := ∅
  stopping : Bool := false
  lifecycleLock : SupervisorPc := .idle
  children : List ChildProcess := []
  failures : List (Nat × String × Int) := []
  requested : List String := []
  launched : Dict String (Option Nat) := ∅

namespace NativeProcessSupervisor

/-- `__init__`. -/
def new : NativeProcessSupervisor := {}

/-! ## What a step changes -/

/-- Every record is changed in its place. -/
def mapRecords (s : NativeProcessSupervisor) (f : String → ProcessRecord → ProcessRecord) :
    NativeProcessSupervisor := { s with records := s.records.mapValues f }

/-- The record of one node is changed. -/
def adjustRecord (s : NativeProcessSupervisor) (nodeId : String)
    (f : ProcessRecord → ProcessRecord) : NativeProcessSupervisor :=
  s.mapRecords fun id record => if id = nodeId then f record else record

/-- Every child changes. -/
def mapChildren (s : NativeProcessSupervisor) (f : Nat → ChildProcess → ChildProcess) :
    NativeProcessSupervisor := { s with children := s.children.mapIdx f }

/-- One child changes. -/
def adjustChild (s : NativeProcessSupervisor) (pid : Nat) (f : ChildProcess → ChildProcess) :
    NativeProcessSupervisor :=
  s.mapChildren fun i child => if i = pid then f child else child

/-- `process.returncode is None` of the process of a record. -/
def isAlive (s : NativeProcessSupervisor) (record : ProcessRecord) : Bool :=
  match record.process.bind (s.children[·]?) with
  | none => false
  | some child => child.returncode.isNone

/-- The processes of the records. -/
def processes (s : NativeProcessSupervisor) : List Nat :=
  s.records.items.filterMap fun item => item.2.process

/-- Every process of a record that has not exited is sent a signal. -/
def signalAlive (s : NativeProcessSupervisor) (signal : Signal) : NativeProcessSupervisor :=
  s.mapChildren fun pid child =>
    if pid ∈ s.processes ∧ child.returncode = none then child.sendSignal signal else child

/-- Every process of a record has exited. -/
def allExited (s : NativeProcessSupervisor) : Bool :=
  s.records.items.all fun item => !s.isAlive item.2

/-! ## Logs -/

/-- `clear_archived_logs`. -/
def clearArchivedLogs (s : NativeProcessSupervisor) : NativeProcessSupervisor :=
  { s with
    archivedLogs := ∅
    launched := s.launched.filterKeys s.records.contains }

/-- `has_logs`. -/
def hasLogs (s : NativeProcessSupervisor) (nodeId : String) : Bool :=
  s.records.contains nodeId || s.archivedLogs.contains nodeId

/-- `lines[-limit:]`. -/
def lastLines (lines : List String) (limit : Nat) : List String :=
  if limit = 0 then lines else lines.rtake limit

/-- `recent_logs`, which raises without a result. -/
def recentLogs (s : NativeProcessSupervisor) (nodeId : String) (stream : OutputStream)
    (limit : Nat) : Option (List String) :=
  match s.records.get? nodeId with
  | some record => some (lastLines (record.lines stream).items limit)
  | none => (s.archivedLogs.get? nodeId).map fun archive => lastLines (archive.lines stream) limit

/-! ## Stop -/

/-- The processes that have not exited are about to stop. -/
def markStopping (s : NativeProcessSupervisor) : NativeProcessSupervisor :=
  s.mapRecords fun _ record =>
    if s.isAlive record then { record with state := .stopping } else record

/-- `_stop_unlocked` up to its first wait. -/
def stopUnlocked (s : NativeProcessSupervisor) : NativeProcessSupervisor :=
  if s.records.items = [] then { s with lifecycleLock := .idle }
  else
    { s.markStopping.signalAlive .terminate with
      stopping := true
      lifecycleLock := .terminating }

/-- The shutdown timeout: what has not exited is killed. -/
def forceKill (s : NativeProcessSupervisor) : NativeProcessSupervisor :=
  { s.signalAlive .kill with lifecycleLock := .killing }

/-- The loop of `_stop_unlocked` over the records that are still to be drained, and what
comes after it. -/
def drainRecords (s : NativeProcessSupervisor) (remaining : List String) :
    NativeProcessSupervisor :=
  if remaining = [] then { s with records := ∅, stopping := false, lifecycleLock := .idle }
  else { s with lifecycleLock := .draining remaining }

/-- A record that was drained: its tasks are over, and its lines go to the archive. -/
def drainRecord (s : NativeProcessSupervisor) (nodeId : String) (record : ProcessRecord) :
    NativeProcessSupervisor :=
  { s.adjustRecord nodeId (·.release) with
    archivedLogs := s.archivedLogs.set record.nodeId
      ⟨record.stdoutLines.items, record.stderrLines.items⟩ }

/-! ## Start -/

/-- `_record_for`. -/
def recordFor (config : SupervisorConfig) (nodeId : String) (index hardwareId : Nat) :
    ProcessRecord where
  nodeId := nodeId
  hardwareId := hardwareId
  internalPort := config.internalPortBase + index
  dataDirectory := s!"{config.dataRoot}/{nodeId}/state"

/-- The loop of `_start_unlocked` over the nodes, up to the next spawn. -/
def launchNext (config : SupervisorConfig) (s : NativeProcessSupervisor) (erase : Bool)
    (hardwareIds : Dict String Nat) : List (String × Nat) → NativeProcessSupervisor
  | [] => { s with lifecycleLock := .idle }
  | (nodeId, index) :: rest =>
      match hardwareIds.get? nodeId with
      | none => s.stopUnlocked
      | some hardwareId =>
          { s with
            records := s.records.set nodeId
              { recordFor config nodeId index hardwareId with state := .starting }
            launched := s.launched.set nodeId none
            lifecycleLock := .spawning erase hardwareIds nodeId rest }

/-- `_start_unlocked` up to its first spawn.  `raises` says that there is no binary or that
the data root cannot be made. -/
def startUnlocked (config : SupervisorConfig) (s : NativeProcessSupervisor)
    (scenario : Scenario) (raises : Bool) : Option NativeProcessSupervisor :=
  if s.records.items ≠ [] then some s
  else if raises then some s.clearArchivedLogs
  else
    (hardwareIdsFor config.sha256 config.fuel scenario.nodeIds).map fun hardwareIds =>
      launchNext config
        { s.clearArchivedLogs with stopping := false, requested := scenario.nodeIds }
        scenario.freshState hardwareIds scenario.nodeIds.zipIdx

/-- The spawn in `_start_one` returned a process, whose output is captured or not. -/
def spawned (config : SupervisorConfig) (s : NativeProcessSupervisor) (captured erase : Bool)
    (hardwareIds : Dict String Nat) (nodeId : String) (record : ProcessRecord)
    (rest : List (String × Nat)) : NativeProcessSupervisor :=
  let child : ChildProcess := { nodeId, command := record.command config.binaryPath erase }
  let pid := s.children.length
  let s : NativeProcessSupervisor :=
    { s.adjustRecord nodeId fun record => { record with process := some pid } with
      children := s.children ++ [child]
      launched := s.launched.set nodeId (some pid) }
  if captured then
    launchNext config
      (s.adjustRecord nodeId fun record => { record.track with state := .running })
      erase hardwareIds rest
  else s.stopUnlocked

/-! ## The tasks of a child -/

/-- `_monitor_exit` when the child has exited. -/
def monitorExit (s : NativeProcessSupervisor) (nodeId : String) (record : ProcessRecord)
    (pid : Nat) (returncode : Int) : NativeProcessSupervisor :=
  if s.stopping then s.adjustRecord nodeId (·.endMonitor)
  else
    { s.adjustRecord nodeId (·.fail) with
      failures := s.failures ++ [(pid, record.nodeId, returncode)] }

/-! ## Steps -/

/-- What happens next. -/
inductive Action where
  | start (scenario : Scenario) (raises : Bool)
  | spawned (captured : Bool)
  | spawnRaised
  | stop
  | childrenExited
  | timedOut
  | drained
  | cancelled
  | exited (pid : Nat) (returncode : Int)
  | monitor (nodeId : String)
  | handled (nodeId : String)
  | line (nodeId : String) (stream : OutputStream) (text : String)
  | outputEnded (nodeId : String) (stream : OutputStream)
  | clearArchivedLogs

/-- One step; the holder of the lifecycle lock makes those up to `cancelled`. -/
def step (config : SupervisorConfig) (s : NativeProcessSupervisor) (a : Action) :
    Option NativeProcessSupervisor :=
  match a with
  | .start scenario raises =>
      if s.lifecycleLock = .idle ∧ scenario.validateGraph = .ok () then
        startUnlocked config s scenario raises
      else none
  | .spawned captured =>
      match s.lifecycleLock with
      | .spawning erase hardwareIds nodeId rest =>
          (s.records.get? nodeId).map fun record =>
            spawned config s captured erase hardwareIds nodeId record rest
      | _ => none
  | .spawnRaised =>
      match s.lifecycleLock with
      | .spawning .. => some s.stopUnlocked
      | _ => none
  | .stop => if s.lifecycleLock = .idle then some s.stopUnlocked else none
  | .childrenExited =>
      if (s.lifecycleLock = .terminating ∨ s.lifecycleLock = .killing) ∧ s.allExited = true then
        some (s.drainRecords s.records.keys)
      else none
  | .timedOut => if s.lifecycleLock = .terminating then some s.forceKill else none
  | .drained =>
      match s.lifecycleLock with
      | .draining (nodeId :: rest) =>
          (s.records.get? nodeId).map fun record =>
            (s.drainRecord nodeId record).drainRecords rest
      | _ => none
  | .cancelled =>
      if s.lifecycleLock ≠ .idle then some { s with lifecycleLock := .idle } else none
  | .exited pid returncode => do
      let child ← s.children[pid]?
      guard (child.returncode = none)
      return s.adjustChild pid fun child => { child with returncode := some returncode }
  | .monitor nodeId => do
      let record ← s.records.get? nodeId
      guard (record.exitTask = .waiting)
      let pid ← record.process
      let child ← s.children[pid]?
      let returncode ← child.returncode
      return s.monitorExit nodeId record pid returncode
  | .handled nodeId => do
      let record ← s.records.get? nodeId
      guard (record.exitTask = .reporting)
      return s.adjustRecord nodeId (·.endMonitor)
  | .line nodeId stream text => do
      let record ← s.records.get? nodeId
      guard (record.drains stream = true)
      let pid ← record.process
      return (s.adjustRecord nodeId (·.recordLine stream text)).adjustChild pid
        (·.read stream text)
  | .outputEnded nodeId stream => do
      let record ← s.records.get? nodeId
      guard (record.drains stream = true)
      return s.adjustRecord nodeId (·.endDrain stream)
  | .clearArchivedLogs => some s.clearArchivedLogs

end NativeProcessSupervisor

end MeshtasticLab.Runtime

/-
  Traffic/Results.lean --- messages, results and summaries of a traffic run.

  Embeds the result models of `backend/app/traffic/controller.py`: the states and
  phases of a run, `GeneratedMessage`, `TopologyChange`, `TrafficRunResult`,
  `TrafficRunSummary` and `summarize_result`.  Times are rationals.
-/
import MeshtasticLab.Metrics.Calculations
import MeshtasticLab.Traffic.Request

set_option autoImplicit false

namespace MeshtasticLab.Traffic

open MeshtasticLab.Foundation MeshtasticLab.Metrics MeshtasticLab.Models

/-- `TrafficRunState`. -/
inductive TrafficRunState where
  | idle
  | running
  | stopping
  | completed
  | cancelled
  | failed
  deriving DecidableEq, Repr

/-- `TrafficRunPhase`. -/
inductive TrafficRunPhase where
  | generating
  | draining
  | finalizing
  | terminal
  deriving DecidableEq, Repr

/-- `GeneratedMessage`, with the defaults of the source. -/
structure GeneratedMessage where
  sequence : Nat
  flow : String := "default"
  sourceNode : String
  destinationNode : String
  packetId : Nat
  generatedMonotonic : ℚ
  submitted : Bool
  submissionError : Option String := none
  transmitted : Bool := false
  deliveredTo : List String := []
  acknowledged : Bool := false
  latencyMs : Option ℚ := none
  deriving DecidableEq, Repr

namespace GeneratedMessage

/-! The writes of the handlers to one message. -/

def setSubmitted (submitted : Bool) (message : GeneratedMessage) : GeneratedMessage :=
  { message with submitted := submitted }

def setSubmissionError (error : String) (message : GeneratedMessage) : GeneratedMessage :=
  { message with submissionError := some error }

def setTransmitted (message : GeneratedMessage) : GeneratedMessage :=
  { message with transmitted := true }

def setAcknowledged (message : GeneratedMessage) : GeneratedMessage :=
  { message with acknowledged := true }

/-- The message is delivered at a node; the first delivery fixes its latency. -/
def deliverTo (nodeId : String) (latencyMs : ℚ) (message : GeneratedMessage) :
    GeneratedMessage :=
  { message with
    deliveredTo := message.deliveredTo ++ [nodeId]
    latencyMs := message.latencyMs.or (some latencyMs) }

end GeneratedMessage

/-- `TopologyChange`. -/
structure TopologyChange where
  eventSequence : Nat
  monotonicSeconds : ℚ
  link : DirectedLink
  deriving DecidableEq, Repr

/-- `BuildMetadata`, which every result repeats. -/
structure BuildMetadata where
  firmwareCommit : String
  collisionPatchSha256 : String
  firmwareBinarySha256 : String
  buildArchitecture : String
  upstreamBaseImageDigest : String
  meshtasticatorCommit : String
  clientLibraryVersion : String
  deriving DecidableEq, Repr

/-- `BuildMetadata.unavailable`. -/
def BuildMetadata.unavailable : BuildMetadata where
  firmwareCommit := "unavailable"
  collisionPatchSha256 := "unavailable"
  firmwareBinarySha256 := "unavailable"
  buildArchitecture := "unavailable"
  upstreamBaseImageDigest := "unavailable"
  meshtasticatorCommit := "unavailable"
  clientLibraryVersion := "unavailable"

/-- `TrafficRunResult`, with the defaults of the source. -/
structure TrafficRunResult where
  provenance : BuildMetadata
  runId : String
  state : TrafficRunState
  request : TrafficRunRequest
  scenarioSnapshot : Scenario
  startedAt : ℚ
  finishedAt : Option ℚ := none
  randomSeed : Int
  requested : Nat := 0
  submitted : Nat := 0
  submissionFailed : Nat := 0
  transmitted : Nat := 0
  delivered : Nat := 0
  failedReceptionMetricsComplete : Bool := true
  missingLocalStatsNodes : List String := []
  generatedMessages : List GeneratedMessage := []
  topologyChanges : List TopologyChange := []
  metrics : MetricsSnapshot
  failure : Option String := none
  deriving DecidableEq

/-- `TrafficRunSummary`, with the defaults of the source. -/
structure TrafficRunSummary where
  provenance : BuildMetadata
  runId : String
  state : TrafficRunState
  phase : TrafficRunPhase := .terminal
  request : TrafficRunRequest
  scenarioSnapshot : Scenario
  startedAt : ℚ
  finishedAt : Option ℚ := none
  randomSeed : Int
  requested : Nat := 0
  submitted : Nat := 0
  submissionFailed : Nat := 0
  transmitted : Nat := 0
  delivered : Nat := 0
  failedReceptionMetricsComplete : Bool := true
  missingLocalStatsNodes : List String := []
  pendingFirmwareAdmissions : Nat := 0
  unresolvedDirectMessages : Nat := 0
  drainDeadlineSecondsRemaining : Option ℚ := none
  metrics : MetricsSummary
  failure : Option String := none
  deriving DecidableEq

/-- `summarize_result`. -/
def summarizeResult (result : TrafficRunResult) : TrafficRunSummary where
  provenance := result.provenance
  runId := result.runId
  state := result.state
  request := result.request
  scenarioSnapshot := result.scenarioSnapshot
  startedAt := result.startedAt
  finishedAt := result.finishedAt
  randomSeed := result.randomSeed
  requested := result.requested
  submitted := result.submitted
  submissionFailed := result.submissionFailed
  transmitted := result.transmitted
  delivered := result.delivered
  failedReceptionMetricsComplete := result.failedReceptionMetricsComplete
  missingLocalStatsNodes := result.missingLocalStatsNodes
  metrics := result.metrics.toMetricsSummary
  failure := result.failure

/-- `FailedReceptionSample`; a plain mapping of totals is a sample with nothing
else. -/
structure FailedReceptionSample where
  totals : Dict String Nat
  duplicateTotals : Dict String Nat := ∅
  missingNodes : List String := []
  deriving DecidableEq

end MeshtasticLab.Traffic

/-
  Traffic/Lifecycle.lean --- how a run starts, drains and ends.

  Embeds the rest of `TrafficController` that runs without giving up control:
  `start` with `_reset_accumulators`, the metrics, `summary` and `result`, the
  steps of `_drain`, and what `_finish` and the final sampling do between their
  suspension points.
-/
import MeshtasticLab.Traffic.Handlers

set_option autoImplicit false

namespace MeshtasticLab.Traffic.TrafficController

open MeshtasticLab.Foundation MeshtasticLab.Metrics MeshtasticLab.Models

/-! ## Metrics -/

/-- The acknowledgments a run waits for. -/
def expectedAcknowledgments (c : TrafficController) : Nat :=
  match c.current with
  | none => 0
  | some run =>
      if run.request.kind = .directText ∧ run.request.acknowledgmentRequested then
        c.accumulators.submittedCount
      else 0

/-- The message counts as delivered in the recomputed metrics. -/
def isDelivered (kind : TrafficKind) (message : GeneratedMessage) : Bool :=
  match kind with
  | .directText => message.destinationNode ∈ message.deliveredTo
  | .broadcastText => message.deliveredTo.any fun receiver => receiver ≠ message.sourceNode

/-- `delivered_ids` in `_final_metrics`. -/
def deliveredIds (run : TrafficRunResult) : Finset (String × Nat) :=
  ((run.generatedMessages.filter (isDelivered run.request.kind)).map
    fun message => (run.runId, message.sequence)).toFinset

/-- `receivers_per_broadcast` in `_final_metrics`. -/
def receiversPerBroadcast (run : TrafficRunResult) : Dict String Nat :=
  match run.request.kind with
  | .directText => ∅
  | .broadcastText =>
      (∅ : Dict String Nat).update (run.generatedMessages.map fun message =>
        (toString message.sequence,
          (message.deliveredTo.filter (· ≠ message.sourceNode)).dedup.length))

/-- `_final_metrics`. -/
def finalMetrics (c : TrafficController) : Except String MetricsSnapshot :=
  let acc := c.accumulators
  calculateMetrics
    { generated := acc.generatedCount
      deliveredIds := (c.current.map deliveredIds).getD ∅
      acknowledged := acc.acknowledgments
      acknowledgmentExpected := c.expectedAcknowledgments
      latenciesMs := acc.latenciesMs
      rfTransmitters := acc.rfTransmitters
      relayTransmissions := acc.relayTransmissions
      duplicateReceptions := acc.duplicates
      failedReceptions := acc.failedReceptions
      dropReasons := acc.dropReasons
      airtimesMs := acc.airtimesMs
      eventLoopLagMs := acc.eventLoopLagMs
      receiverDeliveries := some acc.receiverDeliveries
      receiverDeliveryOpportunities := some acc.receiverOpportunities
      receiversPerBroadcast := (c.current.map receiversPerBroadcast).getD ∅ }

/-- `_live_metrics_snapshot`. -/
def liveMetricsSnapshot (c : TrafficController) : Except String MetricsSnapshot :=
  let acc := c.accumulators
  calculateMetrics
    { generated := acc.generatedCount
      deliveredIds := ∅
      deliveredCount := some acc.uniqueDeliveries
      acknowledged := acc.acknowledgments
      acknowledgmentExpected := c.expectedAcknowledgments
      latenciesMs := acc.liveLatenciesMs.items
      rfTransmitters := []
      rfTransmissionCount := some acc.rfTransmissionCount
      relayTransmissions := acc.relayTransmissions
      duplicateReceptions := acc.duplicates
      failedReceptions := acc.failedReceptions
      dropReasons := []
      dropsByReason := some acc.dropCounts
      airtimesMs := []
      observedAirtimeMs := some acc.observedAirtimeMs
      perNodeTransmitCounts := some acc.perNodeTransmitCounts
      perNodeAirtimeMs := some acc.perNodeAirtimeMs
      eventLoopLagMs := acc.eventLoopLagMs
      receiverDeliveries := some acc.receiverDeliveries
      receiverDeliveryOpportunities := some acc.receiverOpportunities }

/-- The values of a summary as `_finish` publishes them. -/
def summaryValues (metrics : MetricsSummary) : List (String × MetricValue) :=
  let real : Option ℚ → MetricValue := fun value =>
    match value with
    | none => .null
    | some value => .real value
  [("generatedApplicationMessages", count metrics.generatedApplicationMessages),
    ("uniqueApplicationMessagesDelivered", count metrics.uniqueApplicationMessagesDelivered),
    ("deliveryRatio", real metrics.deliveryRatio),
    ("receiverDeliveries", count metrics.receiverDeliveries),
    ("receiverDeliveryRatio", real metrics.receiverDeliveryRatio),
    ("acknowledgmentSuccessRatio", real metrics.acknowledgmentSuccessRatio),
    ("medianLatencyMs", real metrics.medianLatencyMs),
    ("p95LatencyMs", real metrics.p95LatencyMs),
    ("p99LatencyMs", real metrics.p99LatencyMs),
    ("rfTransmissions", count metrics.rfTransmissions),
    ("rfTransmissionsPerDelivery", real metrics.rfTransmissionsPerDelivery),
    ("relayTransmissions", count metrics.relayTransmissions),
    ("duplicateReceptions", count metrics.duplicateReceptions),
    ("failedReceptions", count metrics.failedReceptions),
    ("dropsByReason", .counts metrics.dropsByReason.items),
    ("observedAirtimeMs", count metrics.observedAirtimeMs),
    ("perNodeTransmitCounts", .counts metrics.perNodeTransmitCounts.items),
    ("perNodeAirtimeMs", .counts metrics.perNodeAirtimeMs.items),
    ("eventLoopLagMs", real metrics.eventLoopLagMs)]

/-! ## Summaries -/

/-- A direct message that the drain still waits for. -/
def isUnresolved (c : TrafficController) (acknowledgmentRequired : Bool)
    (message : GeneratedMessage) : Bool :=
  if message.submissionError ≠ none then false
  else if message.sequence ∈ c.accumulators.routingTerminalSequences then false
  else if ¬message.submitted ∨ message.destinationNode ∉ message.deliveredTo then true
  else acknowledgmentRequired && !message.acknowledged

/-- `_unresolved_direct_messages`. -/
def unresolvedDirectMessages (c : TrafficController) : Nat :=
  match c.current with
  | none => 0
  | some run =>
      if run.request.kind ≠ .directText then 0
      else
        run.generatedMessages.countP (c.isUnresolved run.request.acknowledgmentRequested)

/-- `_drain_deadline_seconds_remaining`. -/
def drainDeadlineSecondsRemaining (c : TrafficController) (now : ℚ) : Option ℚ :=
  c.drainDeadlineMonotonic.map fun deadline => max 0 (deadline - now)

/-- `result`. -/
def result (c : TrafficController) : Option TrafficRunResult := c.current

/-- `summary`. -/
def summary (c : TrafficController) (now : ℚ) : Except String (Option TrafficRunSummary) :=
  match c.frozenResult, c.current with
  | _, none => .ok none
  | some frozen, some _ => .ok (some (summarizeResult frozen))
  | none, some run => do
      let metrics ← c.liveMetricsSnapshot
      return some {
        provenance := run.provenance
        runId := run.runId
        state := c.state
        phase := c.phase
        request := run.request
        scenarioSnapshot := run.scenarioSnapshot
        startedAt := run.startedAt
        finishedAt := run.finishedAt
        randomSeed := run.randomSeed
        requested := c.accumulators.generatedCount
        submitted := c.accumulators.submittedCount
        submissionFailed := c.accumulators.submissionFailedCount
        transmitted := c.accumulators.transmittedCount
        delivered := c.accumulators.uniqueDeliveries
        failedReceptionMetricsComplete := run.failedReceptionMetricsComplete
        missingLocalStatsNodes := run.missingLocalStatsNodes
        pendingFirmwareAdmissions := c.accumulators.pendingSubmissions.items.length
        unresolvedDirectMessages := c.unresolvedDirectMessages
        drainDeadlineSecondsRemaining := c.drainDeadlineSecondsRemaining now
        metrics := metrics.toMetricsSummary
        failure := run.failure }

/-! ## Starting -/

/-- `_reset_accumulators`; it raises before it resets anything but the reserved
identifiers. -/
def resetAccumulators (c : TrafficController) (m : Moment) :
    TrafficController × Except TrafficError Unit :=
  match c.packetIds.retire m.now with
  | (packetIds, .error error) => ({ c with packetIds := packetIds }, .error error)
  | (packetIds, .ok ()) =>
      ({ c with
          packetIds := packetIds
          finalizationWaitTimedOut := false
          accumulators := {}
          lastActivityMonotonic := m.now
          activityChanged := false }, .ok ())

/-- The nodes without a baseline total when a run starts. -/
def missingStatsNodes (c : TrafficController) (snapshot : Scenario)
    (baseline : Option FailedReceptionSample) : List String :=
  let sample := baseline.getD { totals := ∅ }
  let expected := snapshot.nodeIds
  if ¬c.failedReceptionSampler ∨ baseline = none then sample.missingNodes ++ expected
  else sample.missingNodes ++ expected.filter fun nodeId => ¬sample.totals.contains nodeId

/-- `start`; `taskActive` says that the task of an earlier run is not done. -/
def start (c : TrafficController) (m : Moment) (runId : String) (taskActive : Bool)
    (request : TrafficRunRequest) (scenarioSnapshot : Option Scenario := none)
    (failedReceptionBaseline : Option FailedReceptionSample := none) :
    TrafficController × Except TrafficError String :=
  let snapshot := scenarioSnapshot.getD c.scenario
  if taskActive then (c, .error (.runtimeError "a traffic run is already active"))
  else
    match request.validateRequestNodes snapshot.nodeIds request.schedulingFlows with
    | .error message => (c, .error (.valueError message))
    | .ok () =>
        let maxSequence := request.maximumSequence
        let markerSize := (trafficMarker runId maxSequence).length
        if MAX_TRAFFIC_MESSAGES_PER_RUN < maxSequence then
          (c, .error (.valueError
            (s!"traffic run cannot schedule more than {MAX_TRAFFIC_MESSAGES_PER_RUN} " ++
              "messages")))
        else if request.payloadBytes < markerSize then
          (c, .error (.valueError
            (s!"payloadBytes {request.payloadBytes} is smaller than encoded traffic " ++
              s!"identifier {markerSize} for sequence {maxSequence}")))
        else
          match c.resetAccumulators m with
          | (c, .error error) => (c, .error error)
          | (c, .ok ()) =>
              let sample := failedReceptionBaseline.getD { totals := ∅ }
              let missing := sortedNames (c.missingStatsNodes snapshot failedReceptionBaseline)
              let c :=
                { c with
                  eventStreamId := some m.streamId
                  accumulators :=
                    { c.accumulators with
                      latestFailedReceptions :=
                        c.accumulators.latestFailedReceptions.update sample.totals.items
                      latestDuplicateReceptions :=
                        c.accumulators.latestDuplicateReceptions.update
                          sample.duplicateTotals.items }
                  runScenario := snapshot }
              match c.liveMetricsSnapshot with
              | .error message => (c, .error (.valueError message))
              | .ok metrics =>
                  ({ c with
                      run := some
                        { provenance := c.buildMetadata
                          runId := runId
                          state := .running
                          request := request
                          scenarioSnapshot := snapshot
                          startedAt := m.wallClock
                          randomSeed := request.seed
                          failedReceptionMetricsComplete := missing.isEmpty
                          missingLocalStatsNodes := missing
                          metrics := metrics }
                      frozenResults := []
                      state := .running
                      phase := .generating }, .ok runId)

/-! ## Draining -/

/-- `_drain_windows`. -/
def drainWindows (c : TrafficController) : ℚ × ℚ :=
  match c.current with
  | none => (0, 0)
  | some run =>
      let acc := c.accumulators
      let packetAirtimeSeconds : ℚ := (max acc.maximumPacketAirtimeMs 1 : Nat) / 1000
      let retransmissionDelaySeconds : ℚ :=
        (max acc.maximumRetransmissionDelayMs (max acc.maximumPacketAirtimeMs 1) : Nat) / 1000
      let quietSeconds := max 3 retransmissionDelaySeconds
      let hopTransmissions := c.runScenario.rf.hopLimit + 1
      let originAttempts :=
        if run.request.kind = .directText ∧ run.request.acknowledgmentRequested then
          RELIABLE_UNICAST_ATTEMPTS
        else 1
      let intermediateAttempts :=
        if 0 < c.runScenario.rf.hopLimit then INTERMEDIATE_TRANSMISSION_ATTEMPTS else 1
      let attemptBudget := max originAttempts intermediateAttempts
      let deadlineSeconds :=
        retransmissionDelaySeconds * hopTransmissions * attemptBudget
          + packetAirtimeSeconds + quietSeconds
      (quietSeconds, min MAX_DRAIN_SECONDS (max quietSeconds deadlineSeconds))

/-- `_drain` up to its first suspension: the phase is set and the deadline fixed. -/
def beginDrain (c : TrafficController) (m : Moment) : TrafficController :=
  let seconds :=
    match c.settleSeconds with
    | some settleSeconds => settleSeconds
    | none => c.drainWindows.2
  { c with phase := .draining, drainDeadlineMonotonic := some (m.now + seconds) }

/-- What one pass through the loop of `_drain` decides. -/
inductive DrainVerdict where
  | settled
  | expired
  | waiting
  deriving DecidableEq, Repr

/-- One pass through the loop of `_drain`, given its deadline. -/
def drainVerdict (c : TrafficController) (deadline now : ℚ) : DrainVerdict :=
  let quietRemaining := c.lastActivityMonotonic + c.drainWindows.1 - now
  let readyToSettle :=
    c.accumulators.pendingSubmissions.items.isEmpty && c.unresolvedDirectMessages = 0
  if readyToSettle ∧ quietRemaining ≤ 0 then .settled
  else if deadline - now ≤ 0 then .expired
  else .waiting

/-- `_drain` gives up waiting: what is pending is finalized. -/
def endDrain (c : TrafficController) : TrafficController :=
  { c with drainDeadlineMonotonic := none }

/-! ## Sampling -/

/-- The nodes that lack local statistics after a final sample. -/
def missingAfterSample (c : TrafficController) (run : TrafficRunResult)
    (sample : FailedReceptionSample) : List String :=
  sortedNames
    (run.missingLocalStatsNodes ++ sample.missingNodes ++
      sample.totals.keys.filter
        (fun nodeId => ¬c.accumulators.latestFailedReceptions.contains nodeId) ++
      c.runScenario.nodeIds.filter fun nodeId => ¬sample.totals.contains nodeId)

/-- The sample that stands in for a sampler that raised. -/
def unavailableSample (c : TrafficController) : FailedReceptionSample where
  totals := ∅
  missingNodes := c.runScenario.nodeIds

/-- `_sample_final_failed_receptions` after the sampler answered, or raised. -/
def applyFinalSample (c : TrafficController) (m : Moment)
    (answer : Option FailedReceptionSample) : TrafficController :=
  match c.current with
  | none => c
  | some run =>
      let sample := answer.getD c.unavailableSample
      let missing := c.missingAfterSample run sample
      let c := sample.totals.items.foldl
        (fun c entry =>
          if c.accumulators.latestFailedReceptions.contains entry.1 then
            c.recordFailedReceptions m entry.1 entry.2
          else c) c
      let c := sample.duplicateTotals.items.foldl
        (fun c entry =>
          if c.accumulators.latestDuplicateReceptions.contains entry.1 then
            c.recordDuplicateReceptions m entry.1 entry.2
          else c) c
      c.modifyCurrent fun run =>
        { run with
          missingLocalStatsNodes := missing
          failedReceptionMetricsComplete := missing.isEmpty }

/-! ## Finishing -/

/-- `_finish` from the end of its wait to its first suspension. -/
def beginFinalization (c : TrafficController) (m : Moment) : TrafficController :=
  { c with finalizationDone := false, phase := .finalizing }.finalizePendingSubmissions m

/-- `terminal` in `_finish`: the copy of the result that is persisted. -/
def terminalResult (c : TrafficController) (captured : TrafficRunResult)
    (target : TrafficRunState) (metrics : MetricsSnapshot) (wallClock : ℚ) : TrafficRunResult :=
  { captured with
    state := target
    finishedAt := some wallClock
    requested := c.accumulators.generatedCount
    submitted := c.accumulators.submittedCount
    submissionFailed := c.accumulators.submissionFailedCount
    transmitted := c.accumulators.transmittedCount
    delivered := c.accumulators.uniqueDeliveries
    metrics := metrics }

/-- `terminal` in `_finish` after its persistence raised. -/
def persistenceFailed (terminal : TrafficRunResult) (exception : String) : TrafficRunResult :=
  let persistenceFailure := s!"result persistence failed: {exception}"
  { terminal with
    state := .failed
    failure :=
      match terminal.failure with
      | none => some persistenceFailure
      | some failure =>
          if failure = "" then some persistenceFailure
          else some s!"{failure}; {persistenceFailure}" }

/-- The end of `_finish`: the result is frozen. -/
def freeze (c : TrafficController) (frozen : TrafficRunResult) : TrafficController :=
  { c with
    frozenResults := frozen :: c.frozenResults
    state := frozen.state
    phase := .terminal
    finalizationDone := true }

end MeshtasticLab.Traffic.TrafficController

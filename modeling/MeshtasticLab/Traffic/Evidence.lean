/-
  Traffic/Evidence.lean --- what a result exports beside messages and counters.

  WHAT THIS FILE IS FOR

  A result also names its scenario, the changes of its topology and the nodes whose
  local statistics are missing.  The handlers of packets and reports write none of
  this; `record_topology_change` and the final sample do.
-/
import MeshtasticLab.Traffic.Lifecycle

set_option autoImplicit false

namespace MeshtasticLab.Traffic

open MeshtasticLab.Foundation MeshtasticLab.Gateway MeshtasticLab.Metrics MeshtasticLab.Models

/-- What one result says of its scenario, its topology and its local statistics. -/
structure RunEvidence where
  runId : String
  scenarioSnapshot : Scenario
  topologyChanges : List TopologyChange
  missingLocalStatsNodes : List String
  failedReceptionMetricsComplete : Bool
  deriving DecidableEq

/-- The evidence in a result. -/
def TrafficRunResult.evidence (result : TrafficRunResult) : RunEvidence where
  runId := result.runId
  scenarioSnapshot := result.scenarioSnapshot
  topologyChanges := result.topologyChanges
  missingLocalStatsNodes := result.missingLocalStatsNodes
  failedReceptionMetricsComplete := result.failedReceptionMetricsComplete

/-- The evidence in the results of a controller, what it is measured by, and the last
sequence number that was given out. -/
structure Evidence where
  run : Option RunEvidence
  frozen : List RunEvidence
  runScenario : Scenario
  failedReceptionSampler : Bool
  sequence : Nat

namespace Evidence

/-- The evidence in the current result. -/
def current (e : Evidence) : Option RunEvidence :=
  match e.frozen with
  | [] => e.run
  | frozen :: _ => some frozen

/-- A write to the evidence in the current result. -/
def modifyCurrent (e : Evidence) (g : RunEvidence → RunEvidence) : Evidence :=
  match e.frozen with
  | [] => { e with run := e.run.map g }
  | frozen :: older => { e with frozen := g frozen :: older }

theorem modifyCurrent_id (e : Evidence) : e.modifyCurrent id = e := by
  unfold modifyCurrent
  split
  · rw [Option.map_id, id]
  · next hfrozen => rw [id, ← hfrozen]

end Evidence

namespace TrafficController

/-- The evidence that the controller holds. -/
def evidence (c : TrafficController) : Evidence where
  run := c.run.map TrafficRunResult.evidence
  frozen := c.frozenResults.map TrafficRunResult.evidence
  runScenario := c.runScenario
  failedReceptionSampler := c.failedReceptionSampler
  sequence := c.accumulators.sequence

variable {c d : TrafficController}

/-! ## Writes -/

theorem current_evidence (c : TrafficController) :
    c.evidence.current = c.current.map TrafficRunResult.evidence := by
  unfold Evidence.current evidence current
  cases c.frozenResults <;> rfl

/-- A write through `self.current` writes the evidence in the current result. -/
theorem evidence_write (c : TrafficController) {f : TrafficRunResult → TrafficRunResult}
    {g : RunEvidence → RunEvidence} (hwrite : ∀ run, (f run).evidence = g run.evidence) :
    (c.modifyCurrent f).evidence = c.evidence.modifyCurrent g := by
  unfold modifyCurrent Evidence.modifyCurrent evidence
  cases hfrozen : c.frozenResults with
  | nil =>
      cases hrun : c.run with
      | none => rfl
      | some run => simp [hwrite]
  | cons frozen older => simp [hwrite]

/-- A write through `self.current` that leaves the evidence. -/
theorem evidence_modifyCurrent (c : TrafficController) {f : TrafficRunResult → TrafficRunResult}
    (hsame : ∀ run, (f run).evidence = run.evidence) :
    (c.modifyCurrent f).evidence = c.evidence := by
  rw [evidence_write (g := id) c hsame, Evidence.modifyCurrent_id]

@[simp] theorem evidence_modifyMessage (c : TrafficController) (ref : Nat)
    (f : GeneratedMessage → GeneratedMessage) :
    (c.modifyMessage ref f).evidence = c.evidence := by
  unfold modifyMessage evidence
  cases hrun : c.run with
  | none => rfl
  | some run => rfl

/-! No write to the accumulators but `nextSequence` gives out a sequence number. -/

section Accumulators

variable (c : TrafficController)

@[simp] theorem evidence_index (key : Nat × Nat) (ref : Nat) :
    (c.modifyAccumulators (·.index key ref)).evidence = c.evidence := rfl

@[simp] theorem evidence_addPending (key : String × Nat) (ref : Nat) :
    (c.modifyAccumulators (·.addPending key ref)).evidence = c.evidence := rfl

@[simp] theorem evidence_popPending (key : String × Nat) :
    (c.modifyAccumulators (·.popPending key)).evidence = c.evidence := rfl

@[simp] theorem evidence_clearPending :
    (c.modifyAccumulators (·.clearPending)).evidence = c.evidence := rfl

@[simp] theorem evidence_countGenerated (opportunities : Nat) :
    (c.modifyAccumulators (·.addGenerated opportunities)).evidence = c.evidence := rfl

@[simp] theorem evidence_addSubmitted :
    (c.modifyAccumulators (·.addSubmitted)).evidence = c.evidence := rfl

@[simp] theorem evidence_removeSubmitted :
    (c.modifyAccumulators (·.removeSubmitted)).evidence = c.evidence := rfl

@[simp] theorem evidence_addSubmissionFailed :
    (c.modifyAccumulators (·.addSubmissionFailed)).evidence = c.evidence := rfl

@[simp] theorem evidence_addTransmitted :
    (c.modifyAccumulators (·.addTransmitted)).evidence = c.evidence := rfl

@[simp] theorem evidence_addAcknowledged :
    (c.modifyAccumulators (·.addAcknowledged)).evidence = c.evidence := rfl

@[simp] theorem evidence_addDelivery (sequence : Nat) (latencyMs : ℚ) :
    (c.modifyAccumulators (·.addDelivery sequence latencyMs)).evidence = c.evidence := rfl

@[simp] theorem evidence_addDuplicates (amount : Nat) :
    (c.modifyAccumulators (·.addDuplicates amount)).evidence = c.evidence := rfl

@[simp] theorem evidence_addFailedReceptions (amount : Nat) :
    (c.modifyAccumulators (·.addFailedReceptions amount)).evidence = c.evidence := rfl

@[simp] theorem evidence_setLatestFailed (nodeId : String) (total : Nat) :
    (c.modifyAccumulators (·.setLatestFailed nodeId total)).evidence = c.evidence := rfl

@[simp] theorem evidence_setLatestDuplicates (nodeId : String) (total : Nat) :
    (c.modifyAccumulators (·.setLatestDuplicates nodeId total)).evidence = c.evidence := rfl

@[simp] theorem evidence_addTransmission (transmitter : String) (packetAirtimeMs : Nat) :
    (c.modifyAccumulators (·.addTransmission transmitter packetAirtimeMs)).evidence =
      c.evidence := rfl

@[simp] theorem evidence_addRelay :
    (c.modifyAccumulators (·.addRelay)).evidence = c.evidence := rfl

@[simp] theorem evidence_addDrop (reason : String) :
    (c.modifyAccumulators (·.addDrop reason)).evidence = c.evidence := rfl

@[simp] theorem evidence_addRoutingTerminal (sequence : Nat) :
    (c.modifyAccumulators (·.addRoutingTerminal sequence)).evidence = c.evidence := rfl

@[simp] theorem evidence_noteEventLoopLag (lagMs : ℚ) :
    (c.modifyAccumulators (·.setEventLoopLag lagMs)).evidence = c.evidence := rfl

@[simp] theorem evidence_noteMaxima (packetLength : Nat) (preset : ModemPreset) :
    (c.modifyAccumulators (·.noteMaxima packetLength preset)).evidence = c.evidence := rfl

end Accumulators

@[simp] theorem evidence_noteActivity (c : TrafficController) (m : Moment) :
    (c.noteActivity m).evidence = c.evidence := rfl

@[simp] theorem evidence_publish (c : TrafficController) (event : PacketEvent) :
    (c.publish event).evidence = c.evidence := rfl

@[simp] theorem evidence_publishMetricUpdate (c : TrafficController) (m : Moment)
    (values : List (String × MetricValue)) (result : String) :
    (c.publishMetricUpdate m values result).evidence = c.evidence := by
  unfold publishMetricUpdate
  split
  · rfl
  · split <;> rfl

@[simp] theorem evidence_markSubmitted (c : TrafficController) (ref : Nat) :
    (c.markSubmitted ref).evidence = c.evidence := by
  unfold markSubmitted
  rw [evidence_modifyCurrent]
  · simp
  · exact fun _ => rfl

@[simp] theorem evidence_unmarkSubmitted (c : TrafficController) (ref : Nat) :
    (c.unmarkSubmitted ref).evidence = c.evidence := by
  unfold unmarkSubmitted
  rw [evidence_modifyCurrent]
  · simp
  · exact fun _ => rfl

@[simp] theorem evidence_markFailed (c : TrafficController) (ref : Nat) (error : String) :
    (c.markFailed ref error).evidence = c.evidence := by
  unfold markFailed
  rw [evidence_modifyCurrent]
  · simp
  · exact fun _ => rfl

/-! ## Submissions -/

@[simp] theorem evidence_resolveSubmission (c : TrafficController) (m : Moment)
    (source : String) (ref : Nat) (error : Option String) :
    (c.resolveSubmission m source ref error).evidence = c.evidence := by
  unfold resolveSubmission publishSubmissionCounts
  split
  · split
    · rfl
    · cases error <;> simp
  · rfl

@[simp] theorem evidence_recordQueueStatus (pb : Protobuf) (c : TrafficController) (m : Moment)
    (nodeId : String) (status : QueueStatus) :
    (c.recordQueueStatus pb m nodeId status).evidence = c.evidence := by
  unfold recordQueueStatus
  split
  · rfl
  · split
    · rfl
    · dsimp only
      split <;> simp

theorem evidence_foldl {α : Type} {f : TrafficController → α → TrafficController}
    (hstep : ∀ c x, (f c x).evidence = c.evidence) (l : List α) (c : TrafficController) :
    (l.foldl f c).evidence = c.evidence := by
  induction l generalizing c with
  | nil => rfl
  | cons first rest ih => exact (ih (f c first)).trans (hstep c first)

@[simp] theorem evidence_finalizePendingSubmissions (c : TrafficController) (m : Moment) :
    (c.finalizePendingSubmissions m).evidence = c.evidence := by
  unfold finalizePendingSubmissions
  dsimp only
  rw [evidence_clearPending, evidence_foldl]
  exact fun c entry => evidence_resolveSubmission c m entry.1.1 entry.2 _

@[simp] theorem evidence_recordPretransmissionRejection (c : TrafficController) (m : Moment)
    (source : String) (ref : Nat) (message : GeneratedMessage) (reason : String) :
    (c.recordPretransmissionRejection m source ref message reason).evidence = c.evidence := by
  unfold recordPretransmissionRejection publishSubmissionCounts
  split
  · rfl
  · split
    · rfl
    · dsimp only
      split <;> simp

@[simp] theorem evidence_submitFailed (c : TrafficController) (m : Moment) (source : String)
    (ref : Nat) (exception : String) :
    (c.submitFailed m source ref exception).evidence = c.evidence := by
  unfold submitFailed
  split
  · rfl
  · simp

@[simp] theorem evidence_addGenerated (c : TrafficController) (m : Moment) (kind : TrafficKind)
    (message : GeneratedMessage) (hardwareId : Nat) :
    (c.addGenerated m kind message hardwareId).evidence = c.evidence := by
  unfold addGenerated
  dsimp only
  rw [evidence_addPending, evidence_index, evidence_publishMetricUpdate,
    evidence_modifyCurrent, evidence_countGenerated, evidence_modifyCurrent] <;>
    exact fun _ => rfl

/-- `_submit` gives out one sequence number. -/
theorem evidence_submit {pb : Protobuf} {m : Moment} {source destination : String}
    {draws : List Nat} {flowName : String}
    {outcome : Except TrafficError (Option (Nat × MeshPacket))} {run : TrafficRunResult}
    (hcurrent : c.current = some run)
    (hsubmit : c.submit pb m source destination draws flowName = some (d, outcome)) :
    d.evidence = { c.evidence with sequence := c.accumulators.sequence + 1 } := by
  unfold submit at hsubmit
  rw [hcurrent] at hsubmit
  dsimp only at hsubmit
  split at hsubmit
  · cases hsubmit
    rfl
  · split at hsubmit
    · cases hsubmit
    · split at hsubmit
      · cases hsubmit
        rfl
      · cases hsubmit
        rfl
      · split at hsubmit
        · cases hsubmit
          rw [evidence_addGenerated]
          rfl
        · cases hsubmit
          rw [evidence_noteActivity, evidence_noteMaxima, evidence_addGenerated]
          rfl

/-! ## Packets and reports -/

@[simp] theorem evidence_messageForPacketIdentity (pb : Protobuf) (c : TrafficController)
    (packet : MeshPacket) (transmitter : Option String) :
    (c.messageForPacketIdentity pb packet transmitter).2.evidence = c.evidence := by
  unfold messageForPacketIdentity
  dsimp only
  split <;> rfl

@[simp] theorem evidence_correlatedDeliveryMessage (pb : Protobuf) (c : TrafficController)
    (packet : MeshPacket) : (c.correlatedDeliveryMessage pb packet).2.evidence = c.evidence := by
  unfold correlatedDeliveryMessage
  split
  · dsimp only
    split
    · rfl
    · split
      · simp
      · split <;> simp
  · rfl

@[simp] theorem evidence_recordRfTransmission (pb : Protobuf) (c : TrafficController)
    (m : Moment) (transmitter : String) (packet : MeshPacket) (packetAirtimeMs : Nat) :
    (c.recordRfTransmission pb m transmitter packet packetAirtimeMs).1.evidence =
      c.evidence := by
  unfold recordRfTransmission markTransmitted countRelay
  split
  · rfl
  · split
    · rfl
    · dsimp only
      split
      · simp
      · split
        · simp
        · split
          · split <;> simp
          · dsimp only
            split <;> split <;> simp

@[simp] theorem evidence_recordDrop (pb : Protobuf) (c : TrafficController) (m : Moment)
    (transmitter : String) (packet : MeshPacket) (reason : String) :
    (c.recordDrop pb m transmitter packet reason).evidence = c.evidence := by
  unfold recordDrop publishDrops
  split
  · rfl
  · dsimp only
    split
    · simp
    · split <;> simp

@[simp] theorem evidence_recordFailedReceptions (c : TrafficController) (m : Moment)
    (nodeId : String) (total : Nat) :
    (c.recordFailedReceptions m nodeId total).evidence = c.evidence := by
  unfold recordFailedReceptions
  split
  · rfl
  · dsimp only
    split
    · rfl
    · split <;> simp

@[simp] theorem evidence_recordDuplicateReceptions (c : TrafficController) (m : Moment)
    (nodeId : String) (total : Nat) :
    (c.recordDuplicateReceptions m nodeId total).evidence = c.evidence := by
  unfold recordDuplicateReceptions
  split
  · rfl
  · dsimp only
    split
    · rfl
    · split <;> simp

@[simp] theorem evidence_setEventLoopLag (c : TrafficController) (m : Moment) (lagMs : ℚ) :
    (c.setEventLoopLag m lagMs).evidence = c.evidence := by
  unfold setEventLoopLag
  split
  · rfl
  · simp

@[simp] theorem evidence_handleText (pb : Protobuf) (c : TrafficController) (m : Moment)
    (run : TrafficRunResult) (nodeId : String) (packet : MeshPacket) :
    (c.handleText pb m run nodeId packet).evidence = c.evidence := by
  unfold handleText markDelivered
  dsimp only
  split
  · simp
  · split
    · simp
    · split
      · simp
      · split
        · split <;> simp
        · simp

@[simp] theorem evidence_acknowledge (c : TrafficController) (m : Moment) (ref : Nat)
    (message : GeneratedMessage) : (c.acknowledge m ref message).evidence = c.evidence := by
  unfold acknowledge
  split
  · rfl
  · simp

@[simp] theorem evidence_reportRouting (pb : Protobuf) (c : TrafficController) (m : Moment)
    (run : TrafficRunResult) (nodeId : String) (packet : MeshPacket)
    (acknowledgmentOrigin ref : Nat) (message : GeneratedMessage) (errorReason : Int) :
    (c.reportRouting pb m run nodeId packet acknowledgmentOrigin ref message
      errorReason).1.evidence = c.evidence := by
  unfold reportRouting publishDrops
  split
  · dsimp only
    split <;> simp
  · split <;> simp

@[simp] theorem evidence_handleRouting (pb : Protobuf) (c : TrafficController) (m : Moment)
    (run : TrafficRunResult) (nodeId : String) (packet : MeshPacket) :
    (c.handleRouting pb m run nodeId packet).1.evidence = c.evidence := by
  unfold handleRouting
  split
  · rfl
  · dsimp only
    split
    · rfl
    · split
      · rfl
      · split
        · simp
        · split <;> simp

@[simp] theorem evidence_handleFromRadio (pb : Protobuf) (c : TrafficController) (m : Moment)
    (nodeId : String) (message : FromRadio) :
    (c.handleFromRadio pb m nodeId message).1.evidence = c.evidence := by
  unfold handleFromRadio
  split
  · rfl
  · split
    · rfl
    · split
      · simp
      · rfl
      · split
        · split
          · simp
          · split <;> simp
        · rfl

/-- `record_topology_change` appends to the changes of the current result, or raises. -/
theorem evidence_recordTopologyChange (c : TrafficController) (event : PacketEvent)
    (link : DirectedLink) :
    (c.recordTopologyChange event link).1.evidence = c.evidence ∨
    (c.recordTopologyChange event link).1.evidence = c.evidence.modifyCurrent fun r =>
      { r with
        topologyChanges := r.topologyChanges ++
          [{ eventSequence := event.sequence
             monotonicSeconds := event.monotonicSeconds
             link := link }] } := by
  unfold recordTopologyChange
  split
  · exact Or.inl rfl
  · split
    · exact Or.inl rfl
    · exact Or.inr (evidence_write c fun _ => rfl)

/-! ## Finishing -/

@[simp] theorem evidence_beginFinalization (c : TrafficController) (m : Moment) :
    (c.beginFinalization m).evidence = c.evidence := by
  unfold beginFinalization
  rw [evidence_finalizePendingSubmissions]
  rfl

theorem evidence_terminalResult (c : TrafficController) (captured : TrafficRunResult)
    (target : TrafficRunState) (metrics : MetricsSnapshot) (wallClock : ℚ) :
    (c.terminalResult captured target metrics wallClock).evidence = captured.evidence := rfl

theorem evidence_persistenceFailed (terminal : TrafficRunResult) (exception : String) :
    (persistenceFailed terminal exception).evidence = terminal.evidence := rfl

end TrafficController

end MeshtasticLab.Traffic

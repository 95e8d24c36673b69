/-
  Traffic/Controller.lean --- the traffic controller and its handlers.

  Embeds `TrafficController` of `backend/app/traffic/controller.py`: the state and
  every method that runs without giving up control.  What suspends (`stop`,
  `fail`, `_run`, `_finish`) is cut at its suspension points in `Traffic/Tasks`.

  CONVENTIONS

  A method takes the controller to the controller afterwards.  A method that can
  raise also returns what it raises; the controller is then as the exception left
  it.  A generated message is referred to by its position in the list of the run,
  because the source shares one mutable object between that list and its maps.
  Events for the broker are collected in `outbox`, in the order of their
  publication.  One reading of the clock serves all the reads of a method.
-/
import MeshtasticLab.Foundation.BoundedDeque
import MeshtasticLab.Metrics.Airtime
import MeshtasticLab.Metrics.Events
import MeshtasticLab.Traffic.Identifier
import MeshtasticLab.Traffic.PacketIds
import MeshtasticLab.Traffic.Results

set_option autoImplicit false

namespace MeshtasticLab.Traffic

open MeshtasticLab.Foundation MeshtasticLab.Gateway MeshtasticLab.Metrics MeshtasticLab.Models

def MAX_TOPOLOGY_CHANGES_PER_RUN : Nat := 10000
def MAX_TRAFFIC_MESSAGES_PER_RUN : Nat := 10000
def LIVE_LATENCY_SAMPLE_SIZE : Nat := 2048
def FIRMWARE_QUEUE_SUCCESS : List Int := [0, 35]
def INTERMEDIATE_TRANSMISSION_ATTEMPTS : Nat := 2
def RELIABLE_UNICAST_ATTEMPTS : Nat := 3
def MAX_DRAIN_SECONDS : ℚ := 300

/-- What a method reads from outside: the monotonic clock, the wall clock and the
stream id of the event broker. -/
structure Moment where
  now : ℚ
  wallClock : ℚ
  streamId : String
  deriving DecidableEq, Repr

/-- The fields that `_reset_accumulators` resets, with the values it gives them. -/
structure Accumulators where
  sequence : Nat := 0
  messagesByPacket : Dict (Nat × Nat) Nat := ∅
  pendingSubmissions : Dict (String × Nat) Nat := ∅
  routingTerminalSequences : List Nat := []
  deliveredSequences : List Nat := []
  latenciesMs : List ℚ := []
  liveLatenciesMs : BoundedDeque ℚ := .empty LIVE_LATENCY_SAMPLE_SIZE
  rfTransmitters : List String := []
  airtimesMs : List Nat := []
  relayTransmissions : Nat := 0
  duplicates : Nat := 0
  failedReceptions : Nat := 0
  latestFailedReceptions : Dict String Nat := ∅
  latestDuplicateReceptions : Dict String Nat := ∅
  dropReasons : List String := []
  dropCounts : Dict String Nat := ∅
  eventLoopLagMs : Option ℚ := none
  generatedCount : Nat := 0
  submittedCount : Nat := 0
  submissionFailedCount : Nat := 0
  transmittedCount : Nat := 0
  uniqueDeliveries : Nat := 0
  receiverDeliveries : Nat := 0
  receiverOpportunities : Nat := 0
  acknowledgments : Nat := 0
  rfTransmissionCount : Nat := 0
  observedAirtimeMs : Nat := 0
  perNodeTransmitCounts : Dict String Nat := ∅
  perNodeAirtimeMs : Dict String Nat := ∅
  maximumPacketAirtimeMs : Nat := 0
  maximumRetransmissionDelayMs : Nat := 0

namespace Accumulators

/-! The writes of the handlers to the accumulators. -/

def nextSequence (acc : Accumulators) : Accumulators := { acc with sequence := acc.sequence + 1 }

/-- A packet identity refers to a message. -/
def index (key : Nat × Nat) (ref : Nat) (acc : Accumulators) : Accumulators :=
  { acc with messagesByPacket := acc.messagesByPacket.set key ref }

def addPending (key : String × Nat) (ref : Nat) (acc : Accumulators) : Accumulators :=
  { acc with pendingSubmissions := acc.pendingSubmissions.set key ref }

def popPending (key : String × Nat) (acc : Accumulators) : Accumulators :=
  { acc with pendingSubmissions := acc.pendingSubmissions.erase key }

def clearPending (acc : Accumulators) : Accumulators := { acc with pendingSubmissions := ∅ }

def addGenerated (opportunities : Nat) (acc : Accumulators) : Accumulators :=
  { acc with
    generatedCount := acc.generatedCount + 1
    receiverOpportunities := acc.receiverOpportunities + opportunities }

def addSubmitted (acc : Accumulators) : Accumulators :=
  { acc with submittedCount := acc.submittedCount + 1 }

def removeSubmitted (acc : Accumulators) : Accumulators :=
  { acc with submittedCount := acc.submittedCount - 1 }

def addSubmissionFailed (acc : Accumulators) : Accumulators :=
  { acc with submissionFailedCount := acc.submissionFailedCount + 1 }

def addTransmitted (acc : Accumulators) : Accumulators :=
  { acc with transmittedCount := acc.transmittedCount + 1 }

def addAcknowledged (acc : Accumulators) : Accumulators :=
  { acc with acknowledgments := acc.acknowledgments + 1 }

/-- A delivery of the message with this sequence number. -/
def addDelivery (sequence : Nat) (latencyMs : ℚ) (acc : Accumulators) : Accumulators :=
  { acc with
    receiverDeliveries := acc.receiverDeliveries + 1
    deliveredSequences :=
      if sequence ∈ acc.deliveredSequences then acc.deliveredSequences
      else acc.deliveredSequences ++ [sequence]
    uniqueDeliveries :=
      if sequence ∈ acc.deliveredSequences then acc.uniqueDeliveries
      else acc.uniqueDeliveries + 1
    latenciesMs := acc.latenciesMs ++ [latencyMs]
    liveLatenciesMs := acc.liveLatenciesMs.append latencyMs }

def addDuplicates (amount : Nat) (acc : Accumulators) : Accumulators :=
  { acc with duplicates := acc.duplicates + amount }

def addFailedReceptions (amount : Nat) (acc : Accumulators) : Accumulators :=
  { acc with failedReceptions := acc.failedReceptions + amount }

def setLatestFailed (nodeId : String) (total : Nat) (acc : Accumulators) : Accumulators :=
  { acc with latestFailedReceptions := acc.latestFailedReceptions.set nodeId total }

def setLatestDuplicates (nodeId : String) (total : Nat) (acc : Accumulators) : Accumulators :=
  { acc with latestDuplicateReceptions := acc.latestDuplicateReceptions.set nodeId total }

/-- The records and counters of one RF transmission. -/
def addTransmission (transmitter : String) (packetAirtimeMs : Nat) (acc : Accumulators) :
    Accumulators :=
  { acc with
    rfTransmitters := acc.rfTransmitters ++ [transmitter]
    airtimesMs := acc.airtimesMs ++ [packetAirtimeMs]
    rfTransmissionCount := acc.rfTransmissionCount + 1
    observedAirtimeMs := acc.observedAirtimeMs + packetAirtimeMs
    perNodeTransmitCounts := acc.perNodeTransmitCounts.bump transmitter 1
    perNodeAirtimeMs := acc.perNodeAirtimeMs.bump transmitter packetAirtimeMs }

def addRelay (acc : Accumulators) : Accumulators :=
  { acc with relayTransmissions := acc.relayTransmissions + 1 }

/-- One more drop for a reason. -/
def addDrop (reason : String) (acc : Accumulators) : Accumulators :=
  { acc with
    dropReasons := acc.dropReasons ++ [reason]
    dropCounts := acc.dropCounts.bump reason 1 }

def addRoutingTerminal (sequence : Nat) (acc : Accumulators) : Accumulators :=
  { acc with
    routingTerminalSequences :=
      if sequence ∈ acc.routingTerminalSequences then acc.routingTerminalSequences
      else acc.routingTerminalSequences ++ [sequence] }

def setEventLoopLag (lagMs : ℚ) (acc : Accumulators) : Accumulators :=
  { acc with eventLoopLagMs := some lagMs }

/-- The largest airtime and retransmission delay after a packet. -/
def noteMaxima (packetLength : Nat) (preset : ModemPreset) (acc : Accumulators) :
    Accumulators :=
  { acc with
    maximumPacketAirtimeMs := max acc.maximumPacketAirtimeMs (airtimeMs packetLength preset)
    maximumRetransmissionDelayMs :=
      max acc.maximumRetransmissionDelayMs
        (Metrics.maximumRetransmissionDelayMs packetLength preset) }

end Accumulators

/-- `TrafficController`.

`run` is the object that `start` bound to `self.current`, and `frozenResults` the
objects that `_finish` bound `self._frozen_result` and `self.current` to since
then, the newest first. -/
structure TrafficController where
  scenario : Scenario
  hardwareIds : Dict String Nat
  buildMetadata : BuildMetadata := .unavailable
  settleSeconds : Option ℚ := none
  failedReceptionSampler : Bool := false
  state : TrafficRunState := .idle
  run : Option TrafficRunResult := none
  frozenResults : List TrafficRunResult := []
  finalizationDone : Bool := true
  finalizationWaitTimedOut : Bool := false
  phase : TrafficRunPhase := .terminal
  drainDeadlineMonotonic : Option ℚ := none
  eventStreamId : Option String := none
  runScenario : Scenario := scenario
  packetIds : PacketIds := {}
  accumulators : Accumulators := {}
  lastActivityMonotonic : ℚ := 0
  activityChanged : Bool := false
  outbox : List PacketEvent := []

namespace TrafficController

/-- `self._frozen_result`. -/
def frozenResult (c : TrafficController) : Option TrafficRunResult := c.frozenResults.head?

/-- `self.current`. -/
def current (c : TrafficController) : Option TrafficRunResult :=
  match c.frozenResults with
  | [] => c.run
  | frozen :: _ => some frozen

/-- A write through `self.current`. -/
def modifyCurrent (c : TrafficController) (f : TrafficRunResult → TrafficRunResult) :
    TrafficController :=
  match c.frozenResults with
  | [] => { c with run := c.run.map f }
  | frozen :: older => { c with frozenResults := f frozen :: older }

/-- A write to the accumulators. -/
def modifyAccumulators (c : TrafficController) (f : Accumulators → Accumulators) :
    TrafficController :=
  { c with accumulators := f c.accumulators }

/-- The generated messages that the maps of the controller refer to. -/
def messages (c : TrafficController) : List GeneratedMessage :=
  match c.run with
  | none => []
  | some run => run.generatedMessages

/-- A write to a generated message. -/
def modifyMessage (c : TrafficController) (ref : Nat)
    (f : GeneratedMessage → GeneratedMessage) : TrafficController :=
  { c with
    run := c.run.map fun run =>
      { run with generatedMessages := run.generatedMessages.modify ref f } }

/-- The message behind a reference. -/
def resolve (c : TrafficController) (ref : Option Nat) : Option (Nat × GeneratedMessage) :=
  ref.bind fun i => (c.messages[i]?).map fun message => (i, message)

/-! ## Activity and events -/

/-- `_note_activity`. -/
def noteActivity (c : TrafficController) (m : Moment) : TrafficController :=
  { c with lastActivityMonotonic := m.now, activityChanged := true }

/-- `event_broker.publish`. -/
def publish (c : TrafficController) (event : PacketEvent) : TrafficController :=
  { c with outbox := c.outbox ++ [event] }

/-- `_publish_metric_update`. -/
def publishMetricUpdate (c : TrafficController) (m : Moment)
    (values : List (String × MetricValue)) (result : String := "update") : TrafficController :=
  match c.current with
  | none => c
  | some run =>
      if c.eventStreamId ≠ some m.streamId then c
      else
        c.publish
          { monotonicSeconds := m.now
            eventType := .metrics
            trafficRunId := some run.runId
            metricUpdate := values
            result := some result }

/-- `_accepts_run_events`. -/
def acceptsRunEvents (c : TrafficController) (allowFailed : Bool := false) : Bool :=
  (c.phase = .generating || c.phase = .draining) &&
    (c.state = .running || c.state = .stopping || (allowFailed && c.state = .failed))

/-- A count as a metric value. -/
def count (n : Nat) : MetricValue := .int n

end TrafficController

end MeshtasticLab.Traffic

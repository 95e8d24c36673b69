/-
  Traffic/Handlers.lean --- what the controller does with packets and reports.

  Embeds the event handlers of `TrafficController`: the submission of a message
  and its resolution, the RF evidence, the receptions, the topology record and the
  messages of the firmware.
-/
import MeshtasticLab.Traffic.Controller

set_option autoImplicit false

namespace MeshtasticLab.Traffic.TrafficController

open MeshtasticLab.Foundation MeshtasticLab.Gateway MeshtasticLab.Metrics MeshtasticLab.Models

/-! ## Correlation -/

/-- The request id by which `_message_for_packet_identity` looks for the message
that a packet responds to. -/
def responseRequestId (pb : Protobuf) (c : TrafficController) (packet : MeshPacket)
    (transmitter : Option String) : Option Nat :=
  let portNumber := meshPacketPortNumber pb packet
  if portNumber = some ROUTING_APP ∧ packet.decoded.requestId ≠ 0 then
    some packet.decoded.requestId
  -- The native patch uses this local-only field when PKI ciphertext cannot be
  -- decoded by its sender.
  else if portNumber = some UNKNOWN_APP ∧ packet.rxTime ≠ 0 ∧
      transmitter.bind c.hardwareIds.get? = some packet.from_ then
    some packet.rxTime
  else none

/-- `_message_for_packet_identity`.  A response becomes an alias of the message it
responds to. -/
def messageForPacketIdentity (pb : Protobuf) (c : TrafficController) (packet : MeshPacket)
    (transmitter : Option String := none) : Option Nat × TrafficController :=
  let byPacket := c.accumulators.messagesByPacket
  match (c.responseRequestId pb packet transmitter).bind
      fun requestId => byPacket.get? (packet.to_, requestId) with
  | some response =>
      (some response,
        c.modifyAccumulators (·.index (packet.from_, packet.id) response))
  | none => (byPacket.get? (packet.from_, packet.id), c)

/-- `_traffic_identifier_from_packet`. -/
def trafficIdentifierFromPacket (pb : Protobuf) (packet : MeshPacket) :
    Option (String × Int) :=
  match packet.payload with
  | .decoded data =>
      if data.portnum = TEXT_MESSAGE_APP then parseIdentifier data.payload
      else if data.portnum = SIMULATOR_APP then
        match pb.parseCompressed data.payload with
        | none => none
        | some (portnum, bytes) =>
            if portnum ≠ TEXT_MESSAGE_APP then none else parseIdentifier bytes
      else none
  | _ => none

/-- `_correlated_delivery_message`. -/
def correlatedDeliveryMessage (pb : Protobuf) (c : TrafficController) (packet : MeshPacket) :
    Option (Nat × GeneratedMessage) × TrafficController :=
  match c.current, trafficIdentifierFromPacket pb packet with
  | some run, some (runId, sequence) =>
      if runId ≠ run.runId then (none, c)
      else
        let found := c.messageForPacketIdentity pb packet
        match found.2.resolve found.1 with
        | none => (none, found.2)
        | some (ref, message) =>
            if (message.sequence : Int) ≠ sequence then (none, found.2)
            else (some (ref, message), found.2)
  | _, _ => (none, c)

/-! ## Resolving submissions -/

/-- The event that announces how a submission ended. -/
def submissionEvent (m : Moment) (runId source : String) (message : GeneratedMessage)
    (result : String) (detail : Option String) : PacketEvent where
  monotonicSeconds := m.now
  eventType := .traffic
  transmitter := some source
  intendedDestination := some message.destinationNode
  meshPacketId := some message.packetId
  trafficRunId := some runId
  trafficSequence := some message.sequence
  portNumber := some TEXT_MESSAGE_APP
  result := some result
  detail := detail

/-- The metric update that `_resolve_submission` and a rejection publish. -/
def publishSubmissionCounts (c : TrafficController) (m : Moment) : TrafficController :=
  c.publishMetricUpdate m
    [("submitted", count c.accumulators.submittedCount),
      ("submissionFailed", count c.accumulators.submissionFailedCount)]

/-- The message becomes submitted. -/
def markSubmitted (c : TrafficController) (ref : Nat) : TrafficController :=
  let c := (c.modifyMessage ref (·.setSubmitted true)).modifyAccumulators (·.addSubmitted)
  c.modifyCurrent fun run => { run with submitted := c.accumulators.submittedCount }

/-- The message is no longer submitted. -/
def unmarkSubmitted (c : TrafficController) (ref : Nat) : TrafficController :=
  let c := (c.modifyMessage ref (·.setSubmitted false)).modifyAccumulators (·.removeSubmitted)
  c.modifyCurrent fun run => { run with submitted := c.accumulators.submittedCount }

/-- The submission of the message failed. -/
def markFailed (c : TrafficController) (ref : Nat) (error : String) : TrafficController :=
  let c := (c.modifyMessage ref (·.setSubmissionError error)).modifyAccumulators
    (·.addSubmissionFailed)
  c.modifyCurrent fun run =>
    { run with submissionFailed := c.accumulators.submissionFailedCount }

/-- `_resolve_submission`. -/
def resolveSubmission (c : TrafficController) (m : Moment) (source : String) (ref : Nat)
    (error : Option String := none) : TrafficController :=
  match c.current, c.messages[ref]? with
  | some run, some message =>
      if message.submitted ∨ message.submissionError ≠ none then c
      else
        let c :=
          match error with
          | none => c.markSubmitted ref
          | some error => c.markFailed ref error
        let result := if error = none then "submitted" else "submission-failed"
        ((c.noteActivity m).publishSubmissionCounts m).publish
          (submissionEvent m run.runId source message result error)
  | _, _ => c

/-- `_firmware_queue_error`. -/
def firmwareQueueError (pb : Protobuf) (result : Int) : String :=
  let name :=
    if result = 32 then "queue-full-or-unknown"
    else if result = 33 then "no-interface"
    else if result = 34 then "radio-disabled"
    else
      match pb.routingErrorName result with
      | none => "unknown"
      | some name => name.toLower.map fun c => if c = '_' then '-' else c
  s!"firmware queue rejected packet: {name} (res={result})"

/-- `_record_queue_status`. -/
def recordQueueStatus (pb : Protobuf) (c : TrafficController) (m : Moment) (nodeId : String)
    (status : QueueStatus) : TrafficController :=
  if status.meshPacketId = 0 then c
  else
    match c.accumulators.pendingSubmissions.get? (nodeId, status.meshPacketId) with
    | none => c
    | some ref =>
        let c := c.modifyAccumulators (·.popPending (nodeId, status.meshPacketId))
        if status.res ∈ FIRMWARE_QUEUE_SUCCESS then c.resolveSubmission m nodeId ref
        else c.resolveSubmission m nodeId ref (some (firmwareQueueError pb status.res))

/-- `_finalize_pending_submissions`. -/
def finalizePendingSubmissions (c : TrafficController) (m : Moment) : TrafficController :=
  let c := c.accumulators.pendingSubmissions.items.foldl
    (fun c entry =>
      c.resolveSubmission m entry.1.1 entry.2 (some "firmware queue admission timed out")) c
  c.modifyAccumulators (·.clearPending)

/-- `_record_pretransmission_rejection`. -/
def recordPretransmissionRejection (c : TrafficController) (m : Moment) (source : String)
    (ref : Nat) (message : GeneratedMessage) (reason : String) : TrafficController :=
  match c.current with
  | none => c
  | some run =>
      if message.submissionError ≠ none then c
      else
        let c := c.modifyAccumulators (·.popPending (source, message.packetId))
        let c := if message.submitted then c.unmarkSubmitted ref else c
        let c := c.markFailed ref reason
        ((c.noteActivity m).publishSubmissionCounts m).publish
          (submissionEvent m run.runId source message "submission-failed" (some reason))

/-! ## Submitting -/

/-- The packet that `_submit` sends. -/
def trafficPacket (c : TrafficController) (run : TrafficRunResult) (marker : String)
    (packetId to_ from_ : Nat) : MeshPacket where
  id := packetId
  to_ := to_
  from_ := from_
  wantAck := run.request.kind = .directText ∧ run.request.acknowledgmentRequested
  hopLimit := c.runScenario.rf.hopLimit
  payload := .decoded
    { portnum := TEXT_MESSAGE_APP
      payload := marker.toUTF8.data.toList ++
        List.replicate (run.request.payloadBytes - marker.utf8ByteSize) 120 }

/-- `_receiver_opportunities` grows by this with every message. -/
def opportunities (c : TrafficController) (kind : TrafficKind) : Nat :=
  match kind with
  | .broadcastText => c.runScenario.nodes.length - 1
  | .directText => 1

/-- The message is generated: it joins the list of the run and becomes pending. -/
def addGenerated (c : TrafficController) (m : Moment) (kind : TrafficKind)
    (message : GeneratedMessage) (hardwareId : Nat) : TrafficController :=
  let ref := c.messages.length
  let c := c.modifyCurrent fun run =>
    { run with generatedMessages := run.generatedMessages ++ [message] }
  let c := c.modifyAccumulators (·.addGenerated (c.opportunities kind))
  let c := c.modifyCurrent fun run => { run with requested := c.accumulators.generatedCount }
  let c := c.publishMetricUpdate m
    [("generatedApplicationMessages", count c.accumulators.generatedCount)]
  (c.modifyAccumulators (·.index (hardwareId, message.packetId) ref)).modifyAccumulators
    (·.addPending (message.sourceNode, message.packetId) ref)

/-- `_submit` up to `send_to_radio`: the reference of the new message and the
packet to send.  Without an outcome the identifier allocation still draws. -/
def submit (pb : Protobuf) (c : TrafficController) (m : Moment) (source destination : String)
    (draws : List Nat) (flowName : String := "default") :
    Option (TrafficController × Except TrafficError (Option (Nat × MeshPacket))) :=
  match c.current with
  | none => some (c, .ok none)
  | some run =>
      let sequence := c.accumulators.sequence + 1
      let c := c.modifyAccumulators (·.nextSequence)
      let marker := trafficMarker run.runId sequence
      let requestedSize := run.request.payloadBytes
      if requestedSize < marker.utf8ByteSize then
        some (c, .error (.valueError
          (s!"payloadBytes {requestedSize} is smaller than encoded traffic identifier " ++
            toString marker.utf8ByteSize)))
      else
        match c.packetIds.allocate source m.now draws with
        | none => none
        | some (packetId, packetIds) =>
            let c := { c with packetIds := packetIds }
            let to_ :=
              if destination = "broadcast" then some 0xFFFFFFFF
              else c.hardwareIds.get? destination
            match to_, c.hardwareIds.get? source with
            | none, _ => some (c, .error (.keyError destination))
            | some _, none => some (c, .error (.keyError source))
            | some to_, some from_ =>
                let packet := c.trafficPacket run marker packetId to_ from_
                let ref := c.messages.length
                let c := c.addGenerated m run.request.kind
                  { sequence := sequence
                    flow := flowName
                    sourceNode := source
                    destinationNode := destination
                    packetId := packetId
                    generatedMonotonic := m.now
                    submitted := false } from_
                match meshPacketPayloadLength pb packet with
                | none => some (c, .error .decodeError)
                | some packetLength =>
                    let preset := c.runScenario.rf.modemPreset
                    some ((c.modifyAccumulators (·.noteMaxima packetLength preset)).noteActivity m,
                      .ok (some (ref, packet)))

/-- The exception branch of `_submit`. -/
def submitFailed (c : TrafficController) (m : Moment) (source : String) (ref : Nat)
    (exception : String) : TrafficController :=
  match c.messages[ref]? with
  | none => c
  | some message =>
      (c.modifyAccumulators (·.popPending (source, message.packetId))).resolveSubmission m
        source ref (some s!"gateway submission failed: {exception}")

/-- `_choose_destination`; the pick is the round-robin index or the draw of the
pseudo-random choice. -/
def chooseDestination (c : TrafficController) (kind : TrafficKind)
    (destinationStrategy : DestinationStrategy) (fixedDestination : Option String)
    (source : String) (pick : Nat) : Except TrafficError String :=
  match kind with
  | .broadcastText => .ok "broadcast"
  | .directText =>
      let candidates := c.runScenario.nodeIds.filter (· ≠ source)
      match destinationStrategy with
      | .fixed =>
          match fixedDestination with
          | none => .error (.runtimeError "fixed destination was not validated")
          | some destination => .ok destination
      | .roundRobin =>
          match candidates[pick % candidates.length]? with
          | none => .error (.runtimeError "integer modulo by zero")
          | some destination => .ok destination
      | .deterministicRandom =>
          match candidates[pick % candidates.length]? with
          | none => .error (.runtimeError "Cannot choose from an empty sequence")
          | some destination => .ok destination

/-! ## RF evidence -/

/-- The message has been on the air. -/
def markTransmitted (c : TrafficController) (ref : Nat) (message : GeneratedMessage) :
    TrafficController :=
  if message.transmitted then c
  else (c.modifyMessage ref (·.setTransmitted)).modifyAccumulators (·.addTransmitted)

/-- The transmission was a relay unless the packet came from the transmitter. -/
def countRelay (c : TrafficController) (origin hardwareId : Nat) : TrafficController :=
  if origin = hardwareId then c else c.modifyAccumulators (·.addRelay)

/-- `record_rf_transmission`. -/
def recordRfTransmission (pb : Protobuf) (c : TrafficController) (m : Moment)
    (transmitter : String) (packet : MeshPacket) (packetAirtimeMs : Nat) :
    TrafficController × Except TrafficError (Option (String × Nat)) :=
  match c.current with
  | none => (c, .ok none)
  | some run =>
      if ¬c.acceptsRunEvents then (c, .ok none)
      else
        let found := c.messageForPacketIdentity pb packet (some transmitter)
        let c := found.2
        match c.resolve found.1 with
        | none => (c, .ok none)
        | some (ref, message) =>
            if ¬message.submitted then (c, .ok none)
            else
              let c := (c.markTransmitted ref message).modifyAccumulators
                (·.addTransmission transmitter packetAirtimeMs)
              match c.hardwareIds.get? transmitter with
              | none => (c, .error (.keyError transmitter))
              | some hardwareId =>
                  let c := (c.countRelay packet.from_ hardwareId).noteActivity m
                  let acc := c.accumulators
                  (c.publishMetricUpdate m
                    [("rfTransmissions", count acc.rfTransmissionCount),
                      ("observedAirtimeMs", count acc.observedAirtimeMs),
                      ("relayTransmissions", count acc.relayTransmissions),
                      ("perNodeTransmitCounts", .counts acc.perNodeTransmitCounts.items),
                      ("perNodeAirtimeMs", .counts acc.perNodeAirtimeMs.items)],
                    .ok (some (run.runId, message.sequence)))

/-- The metric update with the drops by reason. -/
def publishDrops (c : TrafficController) (m : Moment) : TrafficController :=
  c.publishMetricUpdate m [("dropsByReason", .counts c.accumulators.dropCounts.items)]

/-- `record_drop`. -/
def recordDrop (pb : Protobuf) (c : TrafficController) (m : Moment) (transmitter : String)
    (packet : MeshPacket) (reason : String) : TrafficController :=
  if c.current = none ∨ ¬c.acceptsRunEvents then c
  else
    let found := c.messageForPacketIdentity pb packet (some transmitter)
    let c := found.2
    match c.resolve found.1 with
    | none => c
    | some (_, message) =>
        if ¬message.submitted then c
        else ((c.modifyAccumulators (·.addDrop reason)).noteActivity m).publishDrops m

/-! ## Native counters -/

/-- `record_failed_receptions`. -/
def recordFailedReceptions (c : TrafficController) (m : Moment) (nodeId : String)
    (total : Nat) : TrafficController :=
  if c.current = none ∨ ¬c.acceptsRunEvents true then c
  else
    let previous := c.accumulators.latestFailedReceptions.get? nodeId
    let c := c.modifyAccumulators (·.setLatestFailed nodeId total)
    match previous with
    | none => c
    | some previous =>
        let delta := total - previous
        let c := c.modifyAccumulators (·.addFailedReceptions delta)
        if delta = 0 then c
        else
          c.publishMetricUpdate m [("failedReceptions", count c.accumulators.failedReceptions)]

/-- `record_duplicate_receptions`. -/
def recordDuplicateReceptions (c : TrafficController) (m : Moment) (nodeId : String)
    (total : Nat) : TrafficController :=
  if c.current = none ∨ ¬c.acceptsRunEvents true then c
  else
    let previous := c.accumulators.latestDuplicateReceptions.get? nodeId
    let c := c.modifyAccumulators (·.setLatestDuplicates nodeId total)
    match previous with
    | none => c
    | some previous =>
        let delta := total - previous
        let c := c.modifyAccumulators (·.addDuplicates delta)
        if delta = 0 then c
        else c.publishMetricUpdate m [("duplicateReceptions", count c.accumulators.duplicates)]

/-- `set_event_loop_lag`. -/
def setEventLoopLag (c : TrafficController) (m : Moment) (lagMs : ℚ) : TrafficController :=
  if c.current = none ∨ ¬c.acceptsRunEvents then c
  else
    (c.modifyAccumulators (·.setEventLoopLag lagMs)).publishMetricUpdate m
      [("eventLoopLagMs", .real lagMs)]

/-! ## Topology changes -/

/-- `ensure_topology_change_capacity`. -/
def ensureTopologyChangeCapacity (c : TrafficController) (additionalChanges : Nat) :
    Except TrafficError Unit :=
  match c.current with
  | none => .ok ()
  | some run =>
      if ¬c.acceptsRunEvents then .ok ()
      else if MAX_TOPOLOGY_CHANGES_PER_RUN < run.topologyChanges.length + additionalChanges then
        .error (.runtimeError
          (s!"traffic run cannot record more than {MAX_TOPOLOGY_CHANGES_PER_RUN} " ++
            "topology changes"))
      else .ok ()

/-- `record_topology_change`. -/
def recordTopologyChange (c : TrafficController) (event : PacketEvent) (link : DirectedLink) :
    TrafficController × Except TrafficError Unit :=
  if c.current = none ∨ ¬c.acceptsRunEvents then (c, .ok ())
  else
    match c.ensureTopologyChangeCapacity 1 with
    | .error error => (c, .error error)
    | .ok () =>
        (c.modifyCurrent fun run =>
          { run with
            topologyChanges := run.topologyChanges ++
              [{ eventSequence := event.sequence
                 monotonicSeconds := event.monotonicSeconds
                 link := link }] }, .ok ())

/-! ## Messages of the firmware -/

/-- A node at which a delivery of the message counts. -/
def isApplicableReceiver (kind : TrafficKind) (message : GeneratedMessage) (nodeId : String) :
    Bool :=
  match kind with
  | .directText => nodeId = message.destinationNode
  | .broadcastText => nodeId ≠ message.sourceNode

/-- The first delivery of a message at a node. -/
def markDelivered (c : TrafficController) (ref : Nat) (message : GeneratedMessage)
    (nodeId : String) (latencyMs : ℚ) : TrafficController :=
  (c.modifyMessage ref (·.deliverTo nodeId latencyMs)).modifyAccumulators
    (·.addDelivery message.sequence latencyMs)

/-- `handle_from_radio` on a decoded text message. -/
def handleText (pb : Protobuf) (c : TrafficController) (m : Moment) (run : TrafficRunResult)
    (nodeId : String) (packet : MeshPacket) : TrafficController :=
  let found := c.correlatedDeliveryMessage pb packet
  let c := found.2
  match found.1 with
  | none => c
  | some (ref, message) =>
      if ¬message.submitted then c
      else if ¬isApplicableReceiver run.request.kind message nodeId then c
      else if nodeId ∈ message.deliveredTo then
        if c.failedReceptionSampler then c
        else
          let c := c.modifyAccumulators (·.addDuplicates 1)
          c.publishMetricUpdate m [("duplicateReceptions", count c.accumulators.duplicates)]
      else
        let latencyMs := (m.now - message.generatedMonotonic) * 1000
        let c := (c.markDelivered ref message nodeId latencyMs).noteActivity m
        let c := c.publishMetricUpdate m
          [("uniqueApplicationMessagesDelivered", count c.accumulators.uniqueDeliveries),
            ("receiverDeliveries", count c.accumulators.receiverDeliveries),
            ("latestLatencyMs", .real latencyMs)]
        c.publish
          { monotonicSeconds := m.now
            eventType := .applicationReceive
            transmitter := some message.sourceNode
            intendedDestination := some message.destinationNode
            receiver := some nodeId
            meshPacketId := some packet.id
            trafficRunId := some run.runId
            trafficSequence := some message.sequence
            portNumber := some TEXT_MESSAGE_APP
            result := some "delivered" }

/-- The event with which `handle_from_radio` reports a routing packet. -/
def routingEvent (m : Moment) (runId nodeId : String) (packet : MeshPacket)
    (message : GeneratedMessage) (eventType : EventType) (result : String) : PacketEvent where
  monotonicSeconds := m.now
  eventType := eventType
  receiver := some nodeId
  meshPacketId := some packet.id
  trafficRunId := some runId
  trafficSequence := some message.sequence
  portNumber := some ROUTING_APP
  result := some result

/-- The message is acknowledged, unless it already is. -/
def acknowledge (c : TrafficController) (m : Moment) (ref : Nat) (message : GeneratedMessage) :
    TrafficController :=
  if message.acknowledged then c
  else
    let c := (c.modifyMessage ref (·.setAcknowledged)).modifyAccumulators (·.addAcknowledged)
    c.publishMetricUpdate m [("acknowledgments", count c.accumulators.acknowledgments)]

/-- The part of `handle_from_radio` after the routing error of a response to a
message is known. -/
def reportRouting (pb : Protobuf) (c : TrafficController) (m : Moment) (run : TrafficRunResult)
    (nodeId : String) (packet : MeshPacket) (acknowledgmentOrigin : Nat) (ref : Nat)
    (message : GeneratedMessage) (errorReason : Int) :
    TrafficController × Except TrafficError Unit :=
  if errorReason = ROUTING_ERROR_NONE then
    let accepted : Except TrafficError Bool :=
      match run.request.kind with
      | .directText =>
          match c.hardwareIds.get? message.destinationNode with
          | none => .error (.keyError message.destinationNode)
          | some hardwareId => .ok (packet.from_ = hardwareId)
      | .broadcastText => .ok (packet.from_ ≠ acknowledgmentOrigin)
    match accepted with
    | .error error => (c, .error error)
    | .ok false => (c, .ok ())
    | .ok true =>
        (((c.acknowledge m ref message).noteActivity m).publish
          (routingEvent m run.runId nodeId packet message .acknowledgment "acknowledged"), .ok ())
  else
    match pb.routingErrorName errorReason with
    | none =>
        (c, .error (.valueError
          s!"Enum Error has no name defined for value {errorReason}"))
    | some result =>
        let c := c.modifyAccumulators (·.addRoutingTerminal message.sequence)
        let c := (c.modifyAccumulators (·.addDrop result)).publishDrops m
        ((c.noteActivity m).publish
          (routingEvent m run.runId nodeId packet message .routingError result), .ok ())

/-- `handle_from_radio` on a decoded routing message with a request id. -/
def handleRouting (pb : Protobuf) (c : TrafficController) (m : Moment) (run : TrafficRunResult)
    (nodeId : String) (packet : MeshPacket) : TrafficController × Except TrafficError Unit :=
  match c.hardwareIds.get? nodeId with
  | none => (c, .ok ())
  | some acknowledgmentOrigin =>
      let byPacket := c.accumulators.messagesByPacket
      match c.resolve (byPacket.get? (acknowledgmentOrigin, packet.decoded.requestId)) with
      | none => (c, .ok ())
      | some (ref, message) =>
          match pb.parseRouting packet.decoded.payload with
          | none => (c, .error .decodeError)
          | some errorReason =>
              if errorReason = ROUTING_ERROR_RATE_LIMIT_EXCEEDED ∧ ¬message.transmitted then
                (c.recordPretransmissionRejection m nodeId ref message
                  "firmware text-message rate limit exceeded").reportRouting pb m run nodeId
                    packet acknowledgmentOrigin ref message errorReason
              else if ¬message.transmitted then (c, .ok ())
              else
                c.reportRouting pb m run nodeId packet acknowledgmentOrigin ref message
                  errorReason

/-- `handle_from_radio`. -/
def handleFromRadio (pb : Protobuf) (c : TrafficController) (m : Moment) (nodeId : String)
    (message : FromRadio) : TrafficController × Except TrafficError Unit :=
  match c.current with
  | none => (c, .ok ())
  | some run =>
      if ¬c.acceptsRunEvents then (c, .ok ())
      else
        match message with
        | .queueStatus status => (c.recordQueueStatus pb m nodeId status, .ok ())
        | .other => (c, .ok ())
        | .packet packet =>
            match packet.payload with
            | .decoded data =>
                if data.portnum = TEXT_MESSAGE_APP then
                  (c.handleText pb m run nodeId packet, .ok ())
                else if data.portnum = ROUTING_APP ∧ data.requestId ≠ 0 then
                  c.handleRouting pb m run nodeId packet
                else (c, .ok ())
            | _ => (c, .ok ())

end MeshtasticLab.Traffic.TrafficController

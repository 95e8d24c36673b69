/-
  Traffic/Deeds.lean --- what the handlers do to identifiers, correlation,
  native counters and published events.

  WHAT THIS FILE IS FOR

  The `Watch` of a controller is what the identifiers, the correlation of packets,
  the native counters and the evidence of a run read.  A `Deed` is one change of
  it.  For each handler one lemma says which deeds it may do; what every such deed
  preserves, the handler preserves.
-/
import MeshtasticLab.Traffic.Advance

set_option autoImplicit false

namespace MeshtasticLab.Traffic

open MeshtasticLab.Foundation MeshtasticLab.Gateway MeshtasticLab.Metrics MeshtasticLab.Models

/-! ## Watches and deeds -/

/-- What identifiers, correlation, counters and evidence read of a controller.  An
identity is the source of a generated message with its packet identifier.  No deed
changes the hardware ids or the sampler. -/
structure Watch where
  identities : List (String × Nat)
  packetIds : PacketIds
  messagesByPacket : Dict (Nat × Nat) Nat
  latestFailedReceptions : Dict String Nat
  latestDuplicateReceptions : Dict String Nat
  failedReceptions : Nat
  duplicates : Nat
  receiverDeliveries : Nat
  rfTransmissionCount : Nat
  observedAirtimeMs : Nat
  perNodeTransmitCounts : Dict String Nat
  dropCounts : Dict String Nat
  outbox : List PacketEvent
  hardwareIds : Dict String Nat
  failedReceptionSampler : Bool

/-- One change of a watch. -/
inductive Deed where
  | publish (event : PacketEvent)
  | respond (key : Nat × Nat) (ref : Nat)
  | reserve (ids : PacketIds)
  | generate (source : String) (packetId hardwareId : Nat)
  | deliver (event : PacketEvent)
  | transmission (transmitter : String) (packetAirtimeMs : Nat)
  | drop (reason : String)
  | failedTotal (nodeId : String) (total : Nat)
  | duplicateTotal (nodeId : String) (total : Nat)
  | duplicate

namespace Watch

/-- The watch after a deed. -/
def after (v : Watch) : Deed → Watch
  | .publish event => { v with outbox := v.outbox ++ [event] }
  | .respond key ref => { v with messagesByPacket := v.messagesByPacket.set key ref }
  | .reserve ids => { v with packetIds := ids }
  | .generate source packetId hardwareId =>
      { v with
        identities := v.identities ++ [(source, packetId)]
        messagesByPacket :=
          v.messagesByPacket.set (hardwareId, packetId) v.identities.length }
  | .deliver event =>
      { v with
        receiverDeliveries := v.receiverDeliveries + 1
        outbox := v.outbox ++ [event] }
  | .transmission transmitter packetAirtimeMs =>
      { v with
        rfTransmissionCount := v.rfTransmissionCount + 1
        observedAirtimeMs := v.observedAirtimeMs + packetAirtimeMs
        perNodeTransmitCounts := v.perNodeTransmitCounts.bump transmitter 1 }
  | .drop reason => { v with dropCounts := v.dropCounts.bump reason 1 }
  | .failedTotal nodeId total =>
      { v with
        latestFailedReceptions := v.latestFailedReceptions.set nodeId total
        failedReceptions :=
          v.failedReceptions + (v.latestFailedReceptions.get? nodeId).elim 0 (total - ·) }
  | .duplicateTotal nodeId total =>
      { v with
        latestDuplicateReceptions := v.latestDuplicateReceptions.set nodeId total
        duplicates :=
          v.duplicates + (v.latestDuplicateReceptions.get? nodeId).elim 0 (total - ·) }
  | .duplicate => { v with duplicates := v.duplicates + 1 }

end Watch

/-- An event that is no evidence of a transmission, a drop or a delivery. -/
def Ordinary (event : PacketEvent) : Prop :=
  event.eventType ≠ .rfTransmit ∧ event.eventType ≠ .linkDisabled ∧
    event.eventType ≠ .applicationReceive

/-- An ordinary event may always be published; the other deeds must be allowed. -/
def Permits (may : Watch → Deed → Prop) (v : Watch) : Deed → Prop
  | .publish event => Ordinary event
  | deed => may v deed

namespace Watch

/-- A sequence of permitted deeds. -/
def Does (may : Watch → Deed → Prop) : Watch → Watch → Prop :=
  Relation.ReflTransGen fun v w => ∃ deed, Permits may v deed ∧ w = v.after deed

variable {may may' : Watch → Deed → Prop} {v w : Watch}

theorem Does.refl (v : Watch) : Does may v v := Relation.ReflTransGen.refl

theorem Does.single (deed : Deed) (hmay : Permits may v deed) : Does may v (v.after deed) :=
  Relation.ReflTransGen.single ⟨deed, hmay, rfl⟩

theorem Does.mono (h : Does may v w) (himplies : ∀ u deed, may u deed → may' u deed) :
    Does may' v w := by
  refine Relation.ReflTransGen.mono ?_ _ _ h
  rintro u _ ⟨deed, hmay, hafter⟩
  refine ⟨deed, ?_, hafter⟩
  cases deed with
  | publish event => exact hmay
  | _ => exact himplies u _ hmay

/-- What every permitted deed preserves is preserved. -/
theorem Does.invariant {I : Watch → Prop} (h : Does may v w)
    (hpreserved : ∀ u deed, I u → Permits may u deed → I (u.after deed)) (hstart : I v) :
    I w := by
  induction h with
  | refl => exact hstart
  | tail _ hlast ih =>
      obtain ⟨deed, hmay, rfl⟩ := hlast
      exact hpreserved _ deed ih hmay

/-- No deed but the publication of ordinary events. -/
def NoDeed (_ : Watch) (_ : Deed) : Prop := False

theorem Does.of_none (h : Does NoDeed v w) : Does may v w := h.mono fun _ _ hnone => hnone.elim

/-- The watch of a run that has just started. -/
def begun (v : Watch) (ids : PacketIds) (baseline : FailedReceptionSample) : Watch where
  identities := []
  packetIds := ids
  messagesByPacket := ∅
  latestFailedReceptions := (∅ : Dict String Nat).update baseline.totals.items
  latestDuplicateReceptions := (∅ : Dict String Nat).update baseline.duplicateTotals.items
  failedReceptions := 0
  duplicates := 0
  receiverDeliveries := 0
  rfTransmissionCount := 0
  observedAirtimeMs := 0
  perNodeTransmitCounts := ∅
  dropCounts := ∅
  outbox := v.outbox
  hardwareIds := v.hardwareIds
  failedReceptionSampler := v.failedReceptionSampler

end Watch

namespace TrafficController

/-- The watch of a controller. -/
def watch (c : TrafficController) : Watch where
  identities := c.messages.map fun message => (message.sourceNode, message.packetId)
  packetIds := c.packetIds
  messagesByPacket := c.accumulators.messagesByPacket
  latestFailedReceptions := c.accumulators.latestFailedReceptions
  latestDuplicateReceptions := c.accumulators.latestDuplicateReceptions
  failedReceptions := c.accumulators.failedReceptions
  duplicates := c.accumulators.duplicates
  receiverDeliveries := c.accumulators.receiverDeliveries
  rfTransmissionCount := c.accumulators.rfTransmissionCount
  observedAirtimeMs := c.accumulators.observedAirtimeMs
  perNodeTransmitCounts := c.accumulators.perNodeTransmitCounts
  dropCounts := c.accumulators.dropCounts
  outbox := c.outbox
  hardwareIds := c.hardwareIds
  failedReceptionSampler := c.failedReceptionSampler

variable {c d e : TrafficController} {may may' : Watch → Deed → Prop}

/-- From one controller to the other only such deeds are done. -/
def Does (may : Watch → Deed → Prop) (c d : TrafficController) : Prop :=
  Watch.Does may c.watch d.watch

theorem Does.refl (c : TrafficController) : Does may c c := Watch.Does.refl _

theorem Does.trans (hfirst : Does may c d) (hsecond : Does may d e) : Does may c e :=
  Relation.ReflTransGen.trans hfirst hsecond

/-- A change that the watch does not show. -/
theorem Does.of_watch (hwatch : d.watch = c.watch) : Does may c d := by
  unfold Does
  rw [hwatch]
  exact .refl _

/-- A change that is one deed. -/
theorem Does.of_deed (deed : Deed) (hmay : Permits may c.watch deed)
    (hwatch : d.watch = c.watch.after deed) : Does may c d := by
  unfold Does
  rw [hwatch]
  exact .single deed hmay

theorem Does.then_watch (h : Does may c d) (hwatch : e.watch = d.watch) : Does may c e :=
  h.trans (.of_watch hwatch)

/-- The change is followed by the publication of an ordinary event. -/
theorem Does.then_publish (h : Does may c d) {event : PacketEvent}
    (hordinary : Ordinary event) : Does may c (d.publish event) :=
  h.trans (.of_deed (.publish event) hordinary rfl)

/-! ## Writes -/

theorem map_modify_of_eq {α β : Type} (l : List α) (i : Nat) {f : α → α} {g : α → β}
    (hsame : ∀ a, g (f a) = g a) : (l.modify i f).map g = l.map g := by
  induction l generalizing i with
  | nil => cases i <;> rfl
  | cons first rest ih =>
      cases i with
      | zero => simp [hsame]
      | succ i => simp [ih]

/-- A write to a message that leaves its source and its identifier. -/
theorem watch_modifyMessage (c : TrafficController) (ref : Nat)
    {f : GeneratedMessage → GeneratedMessage}
    (hidentity : ∀ message, ((f message).sourceNode, (f message).packetId) =
      (message.sourceNode, message.packetId)) : (c.modifyMessage ref f).watch = c.watch := by
  unfold watch modifyMessage messages
  cases hrun : c.run with
  | none => rfl
  | some run =>
      dsimp only [Option.map_some]
      rw [map_modify_of_eq _ _ hidentity]

/-- A write through `self.current` that leaves the messages. -/
theorem watch_modifyCurrent (c : TrafficController) {f : TrafficRunResult → TrafficRunResult}
    (hmessages : ∀ run, (f run).generatedMessages = run.generatedMessages) :
    (c.modifyCurrent f).watch = c.watch := by
  unfold modifyCurrent
  split
  · cases hrun : c.run with
    | none => simp [watch, messages, hrun]
    | some run => simp [watch, messages, hrun, hmessages]
  · next hfrozen => simp [watch, messages]

theorem does_publishMetricUpdate (c : TrafficController) (m : Moment)
    (values : List (String × MetricValue)) (result : String) :
    Does may c (c.publishMetricUpdate m values result) := by
  unfold publishMetricUpdate
  split
  · exact .refl c
  · split
    · exact .refl c
    · exact (Does.refl c).then_publish ⟨nofun, nofun, nofun⟩

theorem watch_markSubmitted (c : TrafficController) (ref : Nat) :
    (c.markSubmitted ref).watch = c.watch := by
  unfold markSubmitted
  rw [watch_modifyCurrent]
  · exact watch_modifyMessage c ref fun _ => rfl
  · exact fun _ => rfl

theorem watch_unmarkSubmitted (c : TrafficController) (ref : Nat) :
    (c.unmarkSubmitted ref).watch = c.watch := by
  unfold unmarkSubmitted
  rw [watch_modifyCurrent]
  · exact watch_modifyMessage c ref fun _ => rfl
  · exact fun _ => rfl

theorem watch_markFailed (c : TrafficController) (ref : Nat) (error : String) :
    (c.markFailed ref error).watch = c.watch := by
  unfold markFailed
  rw [watch_modifyCurrent]
  · exact watch_modifyMessage c ref fun _ => rfl
  · exact fun _ => rfl

/-! ## Submissions -/

theorem ordinary_submissionEvent (m : Moment) (runId source : String)
    (message : GeneratedMessage) (result : String) (detail : Option String) :
    Ordinary (submissionEvent m runId source message result detail) :=
  ⟨nofun, nofun, nofun⟩

theorem does_resolveSubmission (c : TrafficController) (m : Moment) (source : String)
    (ref : Nat) (error : Option String) : Does may c (c.resolveSubmission m source ref error) := by
  unfold resolveSubmission
  split
  · split
    · exact .refl c
    · refine Does.then_publish ?_ (ordinary_submissionEvent m _ _ _ _ _)
      refine Does.trans ?_ (does_publishMetricUpdate _ m _ _)
      apply Does.of_watch
      cases error with
      | none => exact watch_markSubmitted c ref
      | some error => exact watch_markFailed c ref error
  · exact .refl c

theorem does_recordQueueStatus (pb : Protobuf) (c : TrafficController) (m : Moment)
    (nodeId : String) (status : QueueStatus) :
    Does may c (c.recordQueueStatus pb m nodeId status) := by
  unfold recordQueueStatus
  split
  · exact .refl c
  · split
    · exact .refl c
    · dsimp only
      have hpopped : Does may c
          (c.modifyAccumulators (·.popPending (nodeId, status.meshPacketId))) := .of_watch rfl
      split
      · exact hpopped.trans (does_resolveSubmission _ m nodeId _ none)
      · exact hpopped.trans (does_resolveSubmission _ m nodeId _ _)

theorem does_foldl {α : Type} {f : TrafficController → α → TrafficController}
    (hstep : ∀ c x, Does may c (f c x)) (l : List α) (c : TrafficController) :
    Does may c (l.foldl f c) := by
  induction l generalizing c with
  | nil => exact .refl c
  | cons first rest ih => exact (hstep c first).trans (ih (f c first))

theorem does_finalizePendingSubmissions (c : TrafficController) (m : Moment) :
    Does may c (c.finalizePendingSubmissions m) := by
  unfold finalizePendingSubmissions
  refine Does.then_watch (does_foldl ?_ _ c) rfl
  exact fun c entry => does_resolveSubmission c m entry.1.1 entry.2 _

theorem does_submitFailed (c : TrafficController) (m : Moment) (source : String) (ref : Nat)
    (exception : String) : Does may c (c.submitFailed m source ref exception) := by
  unfold submitFailed
  split
  · exact .refl c
  · next message _ =>
      have hpopped : Does may c
          (c.modifyAccumulators (·.popPending (source, message.packetId))) := .of_watch rfl
      exact hpopped.trans (does_resolveSubmission _ m source ref _)

theorem does_recordPretransmissionRejection (c : TrafficController) (m : Moment)
    (source : String) (ref : Nat) (message : GeneratedMessage) (reason : String) :
    Does may c (c.recordPretransmissionRejection m source ref message reason) := by
  unfold recordPretransmissionRejection
  split
  · exact .refl c
  · split
    · exact .refl c
    · refine Does.then_publish ?_ (ordinary_submissionEvent m _ _ _ _ _)
      refine Does.trans (Does.of_watch ?_) (does_publishMetricUpdate _ m _ _)
      refine (watch_markFailed _ ref reason).trans ?_
      split
      · exact watch_unmarkSubmitted _ ref
      · rfl

/-! ## Correlation -/

/-- An alias of a packet that responds to a message. -/
def MayAlias (packet : MeshPacket) (requestId : Option Nat) (v : Watch) : Deed → Prop
  | .respond key ref =>
      key = (packet.from_, packet.id) ∧
        (requestId.bind fun requestId => v.messagesByPacket.get? (packet.to_, requestId)) =
          some ref
  | _ => False

theorem does_messageForPacketIdentity (pb : Protobuf) (c : TrafficController)
    (packet : MeshPacket) (transmitter : Option String) :
    Does (MayAlias packet (c.responseRequestId pb packet transmitter)) c
      (c.messageForPacketIdentity pb packet transmitter).2 := by
  unfold messageForPacketIdentity
  dsimp only
  split
  · next response hresponse =>
      exact .of_deed (.respond (packet.from_, packet.id) response) ⟨rfl, hresponse⟩ rfl
  · exact .refl c

/-- A response on a port other than `ROUTING_APP` and `UNKNOWN_APP` is no alias. -/
theorem responseRequestId_text {pb : Protobuf} {packet : MeshPacket} {data : Data}
    (hpayload : packet.payload = .decoded data) (htext : data.portnum = TEXT_MESSAGE_APP)
    (transmitter : Option String) : c.responseRequestId pb packet transmitter = none := by
  have hport : meshPacketPortNumber pb packet = some TEXT_MESSAGE_APP := by
    unfold meshPacketPortNumber
    rw [hpayload]
    simp [htext, TEXT_MESSAGE_APP, SIMULATOR_APP]
  unfold responseRequestId
  rw [hport]
  simp [TEXT_MESSAGE_APP, ROUTING_APP, UNKNOWN_APP]

/-- A text message is looked up under its own identity only. -/
theorem messageForPacketIdentity_text {pb : Protobuf} {packet : MeshPacket} {data : Data}
    (hpayload : packet.payload = .decoded data) (htext : data.portnum = TEXT_MESSAGE_APP)
    (transmitter : Option String) :
    c.messageForPacketIdentity pb packet transmitter =
      (c.accumulators.messagesByPacket.get? (packet.from_, packet.id), c) := by
  unfold messageForPacketIdentity
  rw [responseRequestId_text hpayload htext]
  rfl

theorem correlatedDeliveryMessage_text {pb : Protobuf} {packet : MeshPacket} {data : Data}
    (hpayload : packet.payload = .decoded data) (htext : data.portnum = TEXT_MESSAGE_APP) :
    (c.correlatedDeliveryMessage pb packet).2 = c := by
  unfold correlatedDeliveryMessage
  split
  · dsimp only
    rw [messageForPacketIdentity_text hpayload htext]
    split
    · rfl
    · split
      · rfl
      · split <;> rfl
  · rfl

/-! ## Submitting -/

/-- The identifier that `_submit` allocates, when it comes to allocating. -/
def submitAllocation (c : TrafficController) (m : Moment) (source : String)
    (draws : List Nat) : Option (Nat × PacketIds) :=
  match c.current with
  | none => none
  | some run =>
      if run.request.payloadBytes <
          (trafficMarker run.runId (c.accumulators.sequence + 1)).utf8ByteSize then none
      else c.packetIds.allocate source m.now draws

theorem allocate_of_submitAllocation {m : Moment} {source : String} {draws : List Nat}
    {allocated : Nat × PacketIds}
    (hallocation : c.submitAllocation m source draws = some allocated) :
    c.packetIds.allocate source m.now draws = some allocated := by
  unfold submitAllocation at hallocation
  split at hallocation
  · cases hallocation
  · split at hallocation
    · cases hallocation
    · exact hallocation

theorem does_addGenerated (hopen : c.frozenResults = []) {run : TrafficRunResult}
    (hrun : c.run = some run) (m : Moment) (kind : TrafficKind) (message : GeneratedMessage)
    (hardwareId : Nat) :
    Watch.Does Watch.NoDeed
      (c.watch.after (.generate message.sourceNode message.packetId hardwareId))
      (c.addGenerated m kind message hardwareId).watch := by
  let generated : TrafficController :=
    { c with
      run := some
        { run with
          generatedMessages := run.generatedMessages ++ [message]
          requested := c.accumulators.generatedCount + 1 }
      accumulators := (((c.accumulators.addGenerated (c.opportunities kind)).index
        (hardwareId, message.packetId) c.messages.length).addPending
          (message.sourceNode, message.packetId) c.messages.length) }
  have hwatch : generated.watch =
      c.watch.after (.generate message.sourceNode message.packetId hardwareId) := by
    simp [generated, watch, messages, hrun, Watch.after, Accumulators.addGenerated,
      Accumulators.index, Accumulators.addPending]
  have hsame : (c.addGenerated m kind message hardwareId).watch =
      (generated.publishMetricUpdate m [("generatedApplicationMessages",
        count generated.accumulators.generatedCount)]).watch := by
    unfold addGenerated
    simp only [modifyCurrent, modifyAccumulators, publishMetricUpdate, current, hopen, hrun,
      Option.map_some, generated]
    split <;> rfl
  rw [hsame, ← hwatch]
  exact does_publishMetricUpdate generated m _ _

theorem watch_noteMaxima (c : TrafficController) (m : Moment) (packetLength : Nat)
    (preset : ModemPreset) :
    ((c.modifyAccumulators (·.noteMaxima packetLength preset)).noteActivity m).watch = c.watch :=
  rfl

/-- What a call of `_submit` comes to, as far as it is watched: nothing, or its
allocation, or the message that is generated with the allocated identifier. -/
inductive Submitted (c : TrafficController) (m : Moment) (source : String)
    (draws : List Nat) (d : TrafficController) : Prop where
  | nothing (hnone : c.submitAllocation m source draws = none) (hwatch : d.watch = c.watch)
  | reserved (packetId : Nat) (ids : PacketIds)
      (hallocation : c.submitAllocation m source draws = some (packetId, ids))
      (hwatch : d.watch = c.watch.after (.reserve ids))
  | generated (packetId hardwareId : Nat) (ids : PacketIds)
      (hallocation : c.submitAllocation m source draws = some (packetId, ids))
      (hhardware : c.hardwareIds.get? source = some hardwareId)
      (hdoes : Watch.Does Watch.NoDeed
        ((c.watch.after (.reserve ids)).after (.generate source packetId hardwareId)) d.watch)

theorem submitted_submit {pb : Protobuf} (hopen : c.frozenResults = []) {m : Moment}
    {source destination flowName : String} {draws : List Nat}
    {outcome : Except TrafficError (Option (Nat × MeshPacket))}
    (hsubmit : c.submit pb m source destination draws flowName = some (d, outcome)) :
    Submitted c m source draws d := by
  have hcurrent := current_of_open hopen
  unfold submit at hsubmit
  rw [hcurrent] at hsubmit
  split at hsubmit
  · next hrun =>
      cases hsubmit
      exact .nothing (by simp [submitAllocation, hcurrent, hrun]) rfl
  · next run hrun =>
      rw [hrun] at hcurrent
      dsimp only at hsubmit
      split at hsubmit
      · next hsmall =>
          cases hsubmit
          exact .nothing (by simp [submitAllocation, hcurrent, hsmall]) rfl
      · next hsize =>
          have hsame : c.submitAllocation m source draws =
              c.packetIds.allocate source m.now draws := by
            simp [submitAllocation, hcurrent, hsize]
          split at hsubmit
          · cases hsubmit
          · next packetId ids hallocate =>
              have hallocation : c.submitAllocation m source draws = some (packetId, ids) :=
                hsame.trans hallocate
              split at hsubmit
              · cases hsubmit
                exact .reserved packetId ids hallocation rfl
              · cases hsubmit
                exact .reserved packetId ids hallocation rfl
              · next hardwareId _ hhardware =>
                  have hdoes := does_addGenerated
                    (c := { c.modifyAccumulators (·.nextSequence) with packetIds := ids }) hopen
                    hrun m run.request.kind
                    { sequence := c.accumulators.sequence + 1
                      flow := flowName
                      sourceNode := source
                      destinationNode := destination
                      packetId := packetId
                      generatedMonotonic := m.now
                      submitted := false } hardwareId
                  split at hsubmit
                  · cases hsubmit
                    exact .generated packetId hardwareId ids hallocation hhardware hdoes
                  · cases hsubmit
                    refine .generated packetId hardwareId ids hallocation hhardware ?_
                    rw [watch_noteMaxima]
                    exact hdoes

/-! ## Evidence -/

/-- The controller after a packet has been looked up. -/
def identified (pb : Protobuf) (c : TrafficController) (packet : MeshPacket)
    (transmitter : String) : TrafficController :=
  (c.messageForPacketIdentity pb packet (some transmitter)).2

/-- What `record_rf_transmission` comes to: the packet is none of the run, or the
transmission is counted; then it answers with the message unless the transmitter is
unknown. -/
inductive Transmitted (pb : Protobuf) (c : TrafficController) (transmitter : String)
    (packet : MeshPacket) (packetAirtimeMs : Nat) (d : TrafficController) :
    Except TrafficError (Option (String × Nat)) → Prop where
  | refused (hsame : d = c) : Transmitted pb c transmitter packet packetAirtimeMs d (.ok none)
  | foreign (haccepts : c.acceptsRunEvents = true)
      (hsame : d = c.identified pb packet transmitter) :
      Transmitted pb c transmitter packet packetAirtimeMs d (.ok none)
  | unknown (haccepts : c.acceptsRunEvents = true)
      (hhardware : c.hardwareIds.get? transmitter = none)
      (hdoes : Watch.Does Watch.NoDeed ((c.identified pb packet transmitter).watch.after
        (.transmission transmitter packetAirtimeMs)) d.watch) :
      Transmitted pb c transmitter packet packetAirtimeMs d (.error (.keyError transmitter))
  | counted (run : TrafficRunResult) (ref : Nat) (message : GeneratedMessage)
      (hrun : c.current = some run) (haccepts : c.acceptsRunEvents = true)
      (hresolve : (c.identified pb packet transmitter).resolve
        (c.messageForPacketIdentity pb packet (some transmitter)).1 = some (ref, message))
      (hsubmitted : message.submitted = true)
      (hdoes : Watch.Does Watch.NoDeed ((c.identified pb packet transmitter).watch.after
        (.transmission transmitter packetAirtimeMs)) d.watch) :
      Transmitted pb c transmitter packet packetAirtimeMs d
        (.ok (some (run.runId, message.sequence)))

theorem watch_markTransmitted (c : TrafficController) (ref : Nat) (message : GeneratedMessage) :
    (c.markTransmitted ref message).watch = c.watch := by
  unfold markTransmitted
  split
  · rfl
  · exact watch_modifyMessage c ref fun _ => rfl

theorem watch_countRelay (c : TrafficController) (origin hardwareId : Nat) :
    (c.countRelay origin hardwareId).watch = c.watch := by
  unfold countRelay
  split <;> rfl

@[simp] theorem hardwareIds_messageForPacketIdentity (pb : Protobuf) (c : TrafficController)
    (packet : MeshPacket) (transmitter : Option String) :
    (c.messageForPacketIdentity pb packet transmitter).2.hardwareIds = c.hardwareIds := by
  unfold messageForPacketIdentity
  dsimp only
  split <;> rfl

theorem watch_addTransmission (c : TrafficController) (transmitter : String)
    (packetAirtimeMs : Nat) :
    (c.modifyAccumulators (·.addTransmission transmitter packetAirtimeMs)).watch =
      c.watch.after (.transmission transmitter packetAirtimeMs) := rfl

theorem hardwareIds_markTransmitted (c : TrafficController) (ref : Nat)
    (message : GeneratedMessage) : (c.markTransmitted ref message).hardwareIds = c.hardwareIds := by
  unfold markTransmitted
  split <;> rfl

theorem transmitted_recordRfTransmission (pb : Protobuf) (c : TrafficController) (m : Moment)
    (transmitter : String) (packet : MeshPacket) (packetAirtimeMs : Nat) :
    Transmitted pb c transmitter packet packetAirtimeMs
      (c.recordRfTransmission pb m transmitter packet packetAirtimeMs).1
      (c.recordRfTransmission pb m transmitter packet packetAirtimeMs).2 := by
  unfold recordRfTransmission
  split
  · exact .refused rfl
  · next run hrun =>
      split
      · exact .refused rfl
      · next haccepts =>
          rw [not_not] at haccepts
          dsimp only
          split
          · exact .foreign haccepts rfl
          · next ref message hresolve =>
              split
              · exact .foreign haccepts rfl
              · next hsubmitted =>
                  rw [not_not] at hsubmitted
                  let counted := ((c.identified pb packet transmitter).markTransmitted ref
                    message).modifyAccumulators (·.addTransmission transmitter packetAirtimeMs)
                  have hcounted : counted.watch = (c.identified pb packet transmitter).watch.after
                      (.transmission transmitter packetAirtimeMs) := by
                    rw [watch_addTransmission, watch_markTransmitted]
                  have hids : counted.hardwareIds = c.hardwareIds :=
                    (hardwareIds_markTransmitted _ ref message).trans
                      (hardwareIds_messageForPacketIdentity pb c packet _)
                  split
                  · next hhardware =>
                      refine .unknown haccepts ?_ ?_
                      · rw [← hids]
                        exact hhardware
                      · rw [← hcounted]
                        exact .refl _
                  · next hardwareId _ =>
                      refine .counted run ref message hrun haccepts hresolve hsubmitted ?_
                      rw [← hcounted, ← watch_countRelay counted packet.from_ hardwareId]
                      exact does_publishMetricUpdate
                        ((counted.countRelay packet.from_ hardwareId).noteActivity m) m _ _

/-- What `record_drop` comes to: the packet is none of the run, or the drop is
counted. -/
inductive Dropped (pb : Protobuf) (c : TrafficController) (transmitter : String)
    (packet : MeshPacket) (reason : String) (d : TrafficController) : Prop where
  | refused (hsame : d = c)
  | foreign (haccepts : c.acceptsRunEvents = true)
      (hsame : d = c.identified pb packet transmitter)
  | counted (ref : Nat) (message : GeneratedMessage) (haccepts : c.acceptsRunEvents = true)
      (hresolve : (c.identified pb packet transmitter).resolve
        (c.messageForPacketIdentity pb packet (some transmitter)).1 = some (ref, message))
      (hsubmitted : message.submitted = true)
      (hdoes : Watch.Does Watch.NoDeed ((c.identified pb packet transmitter).watch.after
        (.drop reason)) d.watch)

theorem dropped_recordDrop (pb : Protobuf) (c : TrafficController) (m : Moment)
    (transmitter : String) (packet : MeshPacket) (reason : String) :
    Dropped pb c transmitter packet reason (c.recordDrop pb m transmitter packet reason) := by
  unfold recordDrop
  split
  · exact .refused rfl
  · next haccepts =>
      rw [not_or, not_not] at haccepts
      dsimp only
      split
      · exact .foreign haccepts.2 rfl
      · next ref message hresolve =>
          split
          · exact .foreign haccepts.2 rfl
          · next hsubmitted =>
              rw [not_not] at hsubmitted
              refine .counted ref message haccepts.2 hresolve hsubmitted ?_
              exact does_publishMetricUpdate
                (((c.identified pb packet transmitter).modifyAccumulators
                  (·.addDrop reason)).noteActivity m) m _ _

/-- Transmissions and drops are counted, and nothing else. -/
def MayCount (_ : Watch) : Deed → Prop
  | .transmission .. => True
  | .drop _ => True
  | _ => False

/-- Unless it does nothing, `record_rf_transmission` looks the packet up and counts. -/
theorem counts_recordRfTransmission (pb : Protobuf) (c : TrafficController) (m : Moment)
    (transmitter : String) (packet : MeshPacket) (packetAirtimeMs : Nat) :
    (c.recordRfTransmission pb m transmitter packet packetAirtimeMs).1 = c ∨
    (c.acceptsRunEvents = true ∧ Does MayCount (c.identified pb packet transmitter)
      (c.recordRfTransmission pb m transmitter packet packetAirtimeMs).1) := by
  have htransmitted :=
    transmitted_recordRfTransmission pb c m transmitter packet packetAirtimeMs
  generalize (c.recordRfTransmission pb m transmitter packet packetAirtimeMs).1 = d at *
  generalize (c.recordRfTransmission pb m transmitter packet packetAirtimeMs).2 = outcome at *
  have hcounted : ∀ w, Watch.Does Watch.NoDeed ((c.identified pb packet transmitter).watch.after
      (.transmission transmitter packetAirtimeMs)) w →
      Watch.Does MayCount (c.identified pb packet transmitter).watch w := by
    intro w hdoes
    exact Relation.ReflTransGen.trans
      (Watch.Does.single (.transmission transmitter packetAirtimeMs) trivial)
      (Watch.Does.of_none hdoes)
  cases htransmitted with
  | refused hsame => exact Or.inl hsame
  | foreign haccepts hsame =>
      rw [hsame]
      exact Or.inr ⟨haccepts, .refl _⟩
  | unknown haccepts hhardware hdoes => exact Or.inr ⟨haccepts, hcounted _ hdoes⟩
  | counted run ref message hrun haccepts hresolve hsubmitted hdoes =>
      exact Or.inr ⟨haccepts, hcounted _ hdoes⟩

/-- Unless it does nothing, `record_drop` looks the packet up and counts. -/
theorem counts_recordDrop (pb : Protobuf) (c : TrafficController) (m : Moment)
    (transmitter : String) (packet : MeshPacket) (reason : String) :
    c.recordDrop pb m transmitter packet reason = c ∨
    (c.acceptsRunEvents = true ∧ Does MayCount (c.identified pb packet transmitter)
      (c.recordDrop pb m transmitter packet reason)) := by
  cases dropped_recordDrop pb c m transmitter packet reason with
  | refused hsame => exact Or.inl hsame
  | foreign haccepts hsame =>
      rw [hsame]
      exact Or.inr ⟨haccepts, .refl _⟩
  | counted ref message haccepts hresolve hsubmitted hdoes =>
      refine Or.inr ⟨haccepts, Relation.ReflTransGen.trans ?_ (Watch.Does.of_none hdoes)⟩
      exact Watch.Does.single (.drop reason) trivial

/-! ## Native counters -/

theorem does_recordFailedReceptions (c : TrafficController) (m : Moment) (nodeId : String)
    (total : Nat) (haccepts : c.current ≠ none ∧ c.acceptsRunEvents true = true) :
    Watch.Does Watch.NoDeed (c.watch.after (.failedTotal nodeId total))
      (c.recordFailedReceptions m nodeId total).watch := by
  unfold recordFailedReceptions
  rw [if_neg (by simp [haccepts.1, haccepts.2])]
  dsimp only
  split
  · next hfirst =>
      have hwatch : (c.modifyAccumulators (·.setLatestFailed nodeId total)).watch =
          c.watch.after (.failedTotal nodeId total) := by
        simp [watch, messages, modifyAccumulators, Accumulators.setLatestFailed, Watch.after,
          hfirst]
      rw [hwatch]
      exact .refl _
  · next previous hprevious =>
      have hwatch : ((c.modifyAccumulators (·.setLatestFailed nodeId total)).modifyAccumulators
          (·.addFailedReceptions (total - previous))).watch =
          c.watch.after (.failedTotal nodeId total) := by
        simp [watch, messages, modifyAccumulators, Accumulators.setLatestFailed,
          Accumulators.addFailedReceptions, Watch.after, hprevious]
      rw [← hwatch]
      split
      · exact .refl _
      · exact does_publishMetricUpdate _ m _ _

theorem does_recordDuplicateReceptions (c : TrafficController) (m : Moment) (nodeId : String)
    (total : Nat) (haccepts : c.current ≠ none ∧ c.acceptsRunEvents true = true) :
    Watch.Does Watch.NoDeed (c.watch.after (.duplicateTotal nodeId total))
      (c.recordDuplicateReceptions m nodeId total).watch := by
  unfold recordDuplicateReceptions
  rw [if_neg (by simp [haccepts.1, haccepts.2])]
  dsimp only
  split
  · next hfirst =>
      have hwatch : (c.modifyAccumulators (·.setLatestDuplicates nodeId total)).watch =
          c.watch.after (.duplicateTotal nodeId total) := by
        simp [watch, messages, modifyAccumulators, Accumulators.setLatestDuplicates, Watch.after,
          hfirst]
      rw [hwatch]
      exact .refl _
  · next previous hprevious =>
      have hwatch : ((c.modifyAccumulators (·.setLatestDuplicates nodeId total)).modifyAccumulators
          (·.addDuplicates (total - previous))).watch =
          c.watch.after (.duplicateTotal nodeId total) := by
        simp [watch, messages, modifyAccumulators, Accumulators.setLatestDuplicates,
          Accumulators.addDuplicates, Watch.after, hprevious]
      rw [← hwatch]
      split
      · exact .refl _
      · exact does_publishMetricUpdate _ m _ _

theorem does_setEventLoopLag (c : TrafficController) (m : Moment) (lagMs : ℚ) :
    Does may c (c.setEventLoopLag m lagMs) := by
  unfold setEventLoopLag
  split
  · exact .refl c
  · exact does_publishMetricUpdate (c.modifyAccumulators (·.setEventLoopLag lagMs)) m _ _

theorem watch_recordTopologyChange (c : TrafficController) (event : PacketEvent)
    (link : DirectedLink) : (c.recordTopologyChange event link).1.watch = c.watch := by
  unfold recordTopologyChange
  split
  · rfl
  · split
    · rfl
    · exact watch_modifyCurrent c fun _ => rfl

/-! ## Messages of the firmware -/

/-- A message from a radio may deliver a message of the run, count a routing error
as a drop and, in a run that counts no native duplicates, count a duplicate. -/
def MayReport (pb : Protobuf) (c : TrafficController) (_ : Watch) : Deed → Prop
  | .deliver event => event.eventType = .applicationReceive ∧
      ∃ run, c.current = some run ∧ event.trafficRunId = some run.runId
  | .drop reason => ∃ code, code ≠ ROUTING_ERROR_NONE ∧ pb.routingErrorName code = some reason
  | .duplicate => c.failedReceptionSampler = false
  | _ => False

theorem watch_markDelivered (c : TrafficController) (ref : Nat) (message : GeneratedMessage)
    (nodeId : String) (latencyMs : ℚ) :
    (c.markDelivered ref message nodeId latencyMs).watch =
      { c.watch with receiverDeliveries := c.watch.receiverDeliveries + 1 } := by
  rw [← watch_modifyMessage c ref (f := (·.deliverTo nodeId latencyMs)) fun _ => rfl]
  rfl

theorem watch_noteActivity (c : TrafficController) (m : Moment) :
    (c.noteActivity m).watch = c.watch := rfl

theorem watch_publish (c : TrafficController) (event : PacketEvent) :
    (c.publish event).watch = c.watch.after (.publish event) := rfl

/-- A delivery, its metric update and its event. -/
theorem does_delivered (c : TrafficController) (m : Moment) (ref : Nat)
    (message : GeneratedMessage) (nodeId : String) (latencyMs : ℚ)
    (values : List (String × MetricValue)) {event : PacketEvent}
    (hmay : ∀ v, may v (.deliver event)) :
    Does may c ((((c.markDelivered ref message nodeId latencyMs).noteActivity
      m).publishMetricUpdate m values).publish event) := by
  have hdelivered := watch_markDelivered c ref message nodeId latencyMs
  have hwatch : (((c.markDelivered ref message nodeId latencyMs).noteActivity m).publish
      event).watch = c.watch.after (.deliver event) := by
    rw [watch_publish, watch_noteActivity, hdelivered]
    rfl
  unfold publishMetricUpdate
  split
  · exact .of_deed (.deliver event) (hmay _) hwatch
  · split
    · exact .of_deed (.deliver event) (hmay _) hwatch
    · next run _ _ =>
        let update : PacketEvent :=
          { monotonicSeconds := m.now
            eventType := .metrics
            trafficRunId := some run.runId
            metricUpdate := values
            result := some "update" }
        have hboth : ((((c.markDelivered ref message nodeId latencyMs).noteActivity m).publish
            update).publish event).watch =
            (c.watch.after (.publish update)).after (.deliver event) := by
          rw [watch_publish, watch_publish, watch_noteActivity, hdelivered]
          rfl
        have hordinary : Permits may c.watch (.publish update) := ⟨nofun, nofun, nofun⟩
        unfold Does
        rw [hboth]
        exact Relation.ReflTransGen.trans (Watch.Does.single (.publish update) hordinary)
          (Watch.Does.single (.deliver event) (hmay _))

theorem does_handleText (pb : Protobuf) (c : TrafficController) (m : Moment)
    {run : TrafficRunResult} (hrun : c.current = some run) (nodeId : String)
    {packet : MeshPacket} {data : Data} (hpayload : packet.payload = .decoded data)
    (htext : data.portnum = TEXT_MESSAGE_APP) :
    Does (MayReport pb c) c (c.handleText pb m run nodeId packet) := by
  unfold handleText
  dsimp only
  rw [correlatedDeliveryMessage_text hpayload htext]
  split
  · exact .refl c
  · next ref message _ =>
      split
      · exact .refl c
      · split
        · exact .refl c
        · split
          · split
            · exact .refl c
            · next hsampler =>
                have hnative : c.failedReceptionSampler = false := by simpa using hsampler
                have hcounted : Does (MayReport pb c) c
                    (c.modifyAccumulators (·.addDuplicates 1)) :=
                  .of_deed .duplicate hnative rfl
                exact hcounted.trans (does_publishMetricUpdate _ m _ _)
          · exact does_delivered c m ref message nodeId _ _ fun _ => ⟨rfl, run, hrun, rfl⟩

theorem watch_setAcknowledged (c : TrafficController) (ref : Nat) :
    ((c.modifyMessage ref (·.setAcknowledged)).modifyAccumulators (·.addAcknowledged)).watch =
      c.watch := by
  rw [← watch_modifyMessage c ref (f := (·.setAcknowledged)) fun _ => rfl]
  rfl

theorem does_acknowledge (c : TrafficController) (m : Moment) (ref : Nat)
    (message : GeneratedMessage) : Does may c (c.acknowledge m ref message) := by
  unfold acknowledge
  split
  · exact .refl c
  · exact Does.trans (.of_watch (watch_setAcknowledged c ref)) (does_publishMetricUpdate _ m _ _)

theorem does_reportRouting (pb : Protobuf) (c d : TrafficController) (m : Moment)
    (run : TrafficRunResult) (nodeId : String) (packet : MeshPacket)
    (acknowledgmentOrigin ref : Nat) (message : GeneratedMessage) (errorReason : Int) :
    Does (MayReport pb d) c (c.reportRouting pb m run nodeId packet acknowledgmentOrigin ref
      message errorReason).1 := by
  unfold reportRouting
  dsimp only
  split
  · split
    · exact .refl c
    · exact .refl c
    · exact Does.then_publish ((does_acknowledge c m ref message).then_watch rfl)
        ⟨by rintro ⟨⟩, by rintro ⟨⟩, by rintro ⟨⟩⟩
  · next hreason =>
      split
      · exact .refl c
      · next result hname =>
          have hcounted : Does (MayReport pb d) c
              ((c.modifyAccumulators (·.addRoutingTerminal message.sequence)).modifyAccumulators
                (·.addDrop result)) :=
            .of_deed (.drop result) ⟨errorReason, hreason, hname⟩ rfl
          refine Does.then_publish ?_ ⟨by rintro ⟨⟩, by rintro ⟨⟩, by rintro ⟨⟩⟩
          exact (hcounted.trans (does_publishMetricUpdate _ m _ _)).then_watch rfl

theorem does_handleRouting (pb : Protobuf) (c : TrafficController) (m : Moment)
    (run : TrafficRunResult) (nodeId : String) (packet : MeshPacket) :
    Does (MayReport pb c) c (c.handleRouting pb m run nodeId packet).1 := by
  unfold handleRouting
  split
  · exact .refl c
  · dsimp only
    split
    · exact .refl c
    · next ref message _ =>
        split
        · exact .refl c
        · split
          · exact (does_recordPretransmissionRejection c m nodeId ref message _).trans
              (does_reportRouting pb _ c m run nodeId packet _ ref message _)
          · split
            · exact .refl c
            · exact does_reportRouting pb c c m run nodeId packet _ ref message _

theorem does_handleFromRadio (pb : Protobuf) (c : TrafficController) (m : Moment)
    (nodeId : String) (message : FromRadio) :
    Does (MayReport pb c) c (c.handleFromRadio pb m nodeId message).1 := by
  unfold handleFromRadio
  split
  · exact .refl c
  · next run hrun =>
      split
      · exact .refl c
      · split
        · exact does_recordQueueStatus pb c m nodeId _
        · exact .refl c
        · next packet =>
            split
            · next data hpayload =>
                split
                · next htext => exact does_handleText pb c m hrun nodeId hpayload htext
                · split
                  · exact does_handleRouting pb c m run nodeId packet
                  · exact .refl c
            · exact .refl c

end TrafficController

end MeshtasticLab.Traffic

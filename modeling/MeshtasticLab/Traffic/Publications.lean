/-
  Traffic/Publications.lean --- whose events a controller publishes.

  WHAT THIS FILE IS FOR

  Every event that a controller publishes names the current run.  Once the run is
  closed and nothing is pending, the controller publishes no event but the metrics
  of its finalization, and these only into the event stream in which the run
  started.  So a controller that nobody drives any more keeps out of later streams.
-/
import MeshtasticLab.Traffic.Moves

set_option autoImplicit false

namespace MeshtasticLab.Traffic

open MeshtasticLab.Foundation MeshtasticLab.Gateway MeshtasticLab.Metrics MeshtasticLab.Models

namespace TrafficController

variable {c d e : TrafficController} {streamId : String}

/-- The id of the current run. -/
def currentId (c : TrafficController) : Option String := c.current.map (·.runId)

theorem currentId_eq_some {runId : String} :
    c.currentId = some runId ↔ ∃ run, c.current = some run ∧ run.runId = runId :=
  Option.map_eq_some_iff

theorem currentId_of_current {run : TrafficRunResult} (hcurrent : c.current = some run) :
    c.currentId = some run.runId := by
  unfold currentId
  rw [hcurrent]
  rfl

/-! ## Events of the run -/

/-- The run stays, and only events of it are published. -/
structure Speaks (c d : TrafficController) : Prop where
  currentId : d.currentId = c.currentId
  eventStreamId : d.eventStreamId = c.eventStreamId
  outbox : ∃ events, d.outbox = c.outbox ++ events ∧
    ∀ event ∈ events, ∃ runId ∈ c.currentId, event.trafficRunId = some runId

/-- Nothing is published. -/
theorem Speaks.of_silent (hrun : d.currentId = c.currentId)
    (hstream : d.eventStreamId = c.eventStreamId)
    (houtbox : d.outbox = c.outbox) : Speaks c d :=
  ⟨hrun, hstream, [], by rw [houtbox, List.append_nil], fun _ hmember => by cases hmember⟩

theorem Speaks.refl (c : TrafficController) : Speaks c c := .of_silent rfl rfl rfl

theorem Speaks.trans (hfirst : Speaks c d) (hsecond : Speaks d e) : Speaks c e := by
  obtain ⟨events, houtbox, hevents⟩ := hfirst.outbox
  obtain ⟨events', houtbox', hevents'⟩ := hsecond.outbox
  refine ⟨hsecond.currentId.trans hfirst.currentId,
    hsecond.eventStreamId.trans hfirst.eventStreamId,
    events ++ events', ?_, ?_⟩
  · rw [houtbox', houtbox, List.append_assoc]
  · intro event hmember
    rcases List.mem_append.mp hmember with hearlier | hlater
    · exact hevents event hearlier
    · rw [← hfirst.currentId]
      exact hevents' event hlater

/-- One event of the run is published. -/
theorem speaks_publish {event : PacketEvent} {runId : String} (hrun : c.currentId = some runId)
    (hevent : event.trafficRunId = some runId) : Speaks c (c.publish event) := by
  refine ⟨rfl, rfl, [event], rfl, ?_⟩
  intro other hmember
  rw [List.mem_singleton.mp hmember]
  exact ⟨runId, hrun, hevent⟩

theorem speaks_publishMetricUpdate (c : TrafficController) (m : Moment)
    (values : List (String × MetricValue)) (result : String) :
    Speaks c (c.publishMetricUpdate m values result) := by
  unfold publishMetricUpdate
  split
  · exact .refl c
  · next run hcurrent =>
      split
      · exact .refl c
      · exact speaks_publish (currentId_of_current hcurrent) rfl

/-- A metric update and an event of the run are published. -/
theorem Speaks.announced (h : Speaks c d) {runId : String} (hrun : c.currentId = some runId)
    (m : Moment) (values : List (String × MetricValue)) (result : String) {event : PacketEvent}
    (hevent : event.trafficRunId = some runId) :
    Speaks c ((d.publishMetricUpdate m values result).publish event) := by
  have hupdated := h.trans (speaks_publishMetricUpdate d m values result)
  exact hupdated.trans (speaks_publish (hupdated.currentId.trans hrun) hevent)

theorem speaks_foldl {α : Type} {f : TrafficController → α → TrafficController}
    (hstep : ∀ c x, Speaks c (f c x)) (l : List α) (c : TrafficController) :
    Speaks c (l.foldl f c) := by
  induction l generalizing c with
  | nil => exact .refl c
  | cons first rest ih => exact (hstep c first).trans (ih (f c first))

theorem currentId_modifyCurrent (c : TrafficController) {f : TrafficRunResult → TrafficRunResult}
    (hkeeps : ∀ run, (f run).runId = run.runId) : (c.modifyCurrent f).currentId = c.currentId := by
  unfold currentId current modifyCurrent
  cases c.frozenResults with
  | nil =>
      cases c.run with
      | none => rfl
      | some run => simp [hkeeps]
  | cons frozen older => simp [hkeeps]

theorem speaks_modifyCurrent (c : TrafficController) {f : TrafficRunResult → TrafficRunResult}
    (hkeeps : ∀ run, (f run).runId = run.runId) : Speaks c (c.modifyCurrent f) := by
  refine .of_silent (currentId_modifyCurrent c hkeeps) ?_ ?_ <;>
    unfold modifyCurrent <;> split <;> rfl

theorem speaks_modifyMessage (c : TrafficController) (ref : Nat)
    (f : GeneratedMessage → GeneratedMessage) : Speaks c (c.modifyMessage ref f) := by
  refine .of_silent ?_ rfl rfl
  unfold currentId current modifyMessage
  cases c.frozenResults with
  | nil => cases c.run <;> rfl
  | cons frozen older => rfl

theorem speaks_modifyAccumulators (c : TrafficController) (f : Accumulators → Accumulators) :
    Speaks c (c.modifyAccumulators f) := .of_silent rfl rfl rfl

theorem speaks_noteActivity (c : TrafficController) (m : Moment) : Speaks c (c.noteActivity m) :=
  .of_silent rfl rfl rfl

/-! ## Submissions -/

theorem speaks_markSubmitted (c : TrafficController) (ref : Nat) : Speaks c (c.markSubmitted ref) :=
  ((speaks_modifyMessage c ref _).trans (speaks_modifyAccumulators _ _)).trans
    (speaks_modifyCurrent _ fun _ => rfl)

theorem speaks_unmarkSubmitted (c : TrafficController) (ref : Nat) :
    Speaks c (c.unmarkSubmitted ref) :=
  ((speaks_modifyMessage c ref _).trans (speaks_modifyAccumulators _ _)).trans
    (speaks_modifyCurrent _ fun _ => rfl)

theorem speaks_markFailed (c : TrafficController) (ref : Nat) (error : String) :
    Speaks c (c.markFailed ref error) :=
  ((speaks_modifyMessage c ref _).trans (speaks_modifyAccumulators _ _)).trans
    (speaks_modifyCurrent _ fun _ => rfl)

theorem speaks_resolveSubmission (c : TrafficController) (m : Moment) (source : String)
    (ref : Nat) (error : Option String) : Speaks c (c.resolveSubmission m source ref error) := by
  unfold resolveSubmission
  split
  · next run message hcurrent _ =>
      have hrun := currentId_of_current hcurrent
      split
      · exact .refl c
      · cases error with
        | none =>
            exact ((speaks_markSubmitted c ref).trans (speaks_noteActivity _ m)).announced
              hrun m _ _
              rfl
        | some error =>
            exact ((speaks_markFailed c ref error).trans (speaks_noteActivity _ m)).announced hrun m
              _ _ rfl
  · exact .refl c

theorem speaks_recordQueueStatus (pb : Protobuf) (c : TrafficController) (m : Moment)
    (nodeId : String) (status : QueueStatus) :
    Speaks c (c.recordQueueStatus pb m nodeId status) := by
  unfold recordQueueStatus
  split
  · exact .refl c
  · split
    · exact .refl c
    · dsimp only
      split <;> exact (speaks_modifyAccumulators c _).trans
        (speaks_resolveSubmission _ m nodeId _ _)

theorem speaks_finalizePendingSubmissions (c : TrafficController) (m : Moment) :
    Speaks c (c.finalizePendingSubmissions m) := by
  unfold finalizePendingSubmissions
  refine Speaks.trans (speaks_foldl ?_ _ c) (speaks_modifyAccumulators _ _)
  intro c entry
  exact speaks_resolveSubmission c m entry.1.1 entry.2 _

theorem speaks_recordPretransmissionRejection (c : TrafficController) (m : Moment)
    (source : String) (ref : Nat) (message : GeneratedMessage) (reason : String) :
    Speaks c (c.recordPretransmissionRejection m source ref message reason) := by
  unfold recordPretransmissionRejection
  split
  · exact .refl c
  · next run hcurrent =>
      have hrun := currentId_of_current hcurrent
      split
      · exact .refl c
      · dsimp only
        refine Speaks.announced (Speaks.trans ?_ (speaks_noteActivity _ m)) hrun m _ _ rfl
        refine Speaks.trans ?_ (speaks_markFailed _ ref reason)
        split
        · exact (speaks_modifyAccumulators c _).trans (speaks_unmarkSubmitted _ ref)
        · exact speaks_modifyAccumulators c _

theorem speaks_addGenerated (c : TrafficController) (m : Moment) (kind : TrafficKind)
    (message : GeneratedMessage) (hardwareId : Nat) :
    Speaks c (c.addGenerated m kind message hardwareId) := by
  unfold addGenerated
  refine Speaks.trans ?_ (speaks_modifyAccumulators _ _)
  refine Speaks.trans ?_ (speaks_modifyAccumulators _ _)
  refine Speaks.trans ?_ (speaks_publishMetricUpdate _ m _ _)
  refine Speaks.trans ?_ (speaks_modifyCurrent _ fun _ => rfl)
  refine Speaks.trans ?_ (speaks_modifyAccumulators _ _)
  exact speaks_modifyCurrent c fun _ => rfl

theorem speaks_submit {pb : Protobuf} {m : Moment} {source destination flowName : String}
    {draws : List Nat} {outcome : Except TrafficError (Option (Nat × MeshPacket))}
    (hsubmit : c.submit pb m source destination draws flowName = some (d, outcome)) :
    Speaks c d := by
  unfold submit at hsubmit
  dsimp only at hsubmit
  split at hsubmit
  · cases hsubmit
    exact .refl c
  · split at hsubmit
    · cases hsubmit
      exact speaks_modifyAccumulators c _
    · split at hsubmit
      · cases hsubmit
      · next packetId ids _ =>
          have hreserved : Speaks c
            { c.modifyAccumulators (·.nextSequence) with packetIds := ids } :=
            .of_silent rfl rfl rfl
          split at hsubmit
          · cases hsubmit
            exact hreserved
          · cases hsubmit
            exact hreserved
          · split at hsubmit
            · cases hsubmit
              exact hreserved.trans (speaks_addGenerated _ m _ _ _)
            · cases hsubmit
              exact (hreserved.trans (speaks_addGenerated _ m _ _ _)).trans
                ((speaks_modifyAccumulators _ _).trans (speaks_noteActivity _ m))

theorem speaks_submitFailed (c : TrafficController) (m : Moment) (source : String) (ref : Nat)
    (exception : String) : Speaks c (c.submitFailed m source ref exception) := by
  unfold submitFailed
  split
  · exact .refl c
  · exact (speaks_modifyAccumulators c _).trans (speaks_resolveSubmission _ m source ref _)

/-! ## Evidence of the medium -/

theorem speaks_messageForPacketIdentity (pb : Protobuf) (c : TrafficController)
    (packet : MeshPacket) (transmitter : Option String) :
    Speaks c (c.messageForPacketIdentity pb packet transmitter).2 := by
  unfold messageForPacketIdentity
  dsimp only
  split
  · exact speaks_modifyAccumulators c _
  · exact .refl c

theorem speaks_correlatedDeliveryMessage (pb : Protobuf) (c : TrafficController)
    (packet : MeshPacket) : Speaks c (c.correlatedDeliveryMessage pb packet).2 := by
  have hidentified := speaks_messageForPacketIdentity pb c packet none
  unfold correlatedDeliveryMessage
  split
  · dsimp only
    split
    · exact .refl c
    · split
      · exact hidentified
      · split <;> exact hidentified
  · exact .refl c

theorem speaks_markTransmitted (c : TrafficController) (ref : Nat) (message : GeneratedMessage) :
    Speaks c (c.markTransmitted ref message) := by
  unfold markTransmitted
  split
  · exact .refl c
  · exact (speaks_modifyMessage c ref _).trans (speaks_modifyAccumulators _ _)

theorem speaks_countRelay (c : TrafficController) (origin hardwareId : Nat) :
    Speaks c (c.countRelay origin hardwareId) := by
  unfold countRelay
  split
  · exact .refl c
  · exact speaks_modifyAccumulators c _

theorem speaks_recordRfTransmission (pb : Protobuf) (c : TrafficController) (m : Moment)
    (transmitter : String) (packet : MeshPacket) (packetAirtimeMs : Nat) :
    Speaks c (c.recordRfTransmission pb m transmitter packet packetAirtimeMs).1 := by
  have hidentified := speaks_messageForPacketIdentity pb c packet (some transmitter)
  unfold recordRfTransmission
  split
  · exact .refl c
  · split
    · exact .refl c
    · dsimp only
      split
      · exact hidentified
      · next ref message _ =>
        split
        · exact hidentified
        · have hcounted := (hidentified.trans (speaks_markTransmitted _ ref message)).trans
            (speaks_modifyAccumulators _ (·.addTransmission transmitter packetAirtimeMs))
          split
          · exact hcounted
          · exact (hcounted.trans (speaks_countRelay _ _ _)).trans
              ((speaks_noteActivity _ m).trans (speaks_publishMetricUpdate _ m _ _))

/-- The medium learns no other run than the current one. -/
theorem currentId_of_recordRfTransmission {pb : Protobuf} {m : Moment} {transmitter : String}
    {packet : MeshPacket} {packetAirtimeMs : Nat} {correlation : String × Nat}
    (hrecorded : c.recordRfTransmission pb m transmitter packet packetAirtimeMs =
      (d, .ok (some correlation))) : c.currentId = some correlation.1 := by
  unfold recordRfTransmission at hrecorded
  split at hrecorded
  · cases hrecorded
  · next run hcurrent =>
      split at hrecorded
      · cases hrecorded
      · dsimp only at hrecorded
        split at hrecorded
        · cases hrecorded
        · split at hrecorded
          · cases hrecorded
          · split at hrecorded
            · cases hrecorded
            · cases hrecorded
              exact currentId_of_current hcurrent

theorem speaks_publishDrops (c : TrafficController) (m : Moment) : Speaks c (c.publishDrops m) :=
  speaks_publishMetricUpdate c m _ _

theorem speaks_recordDrop (pb : Protobuf) (c : TrafficController) (m : Moment)
    (transmitter : String) (packet : MeshPacket) (reason : String) :
    Speaks c (c.recordDrop pb m transmitter packet reason) := by
  have hidentified := speaks_messageForPacketIdentity pb c packet (some transmitter)
  unfold recordDrop
  split
  · exact .refl c
  · dsimp only
    split
    · exact hidentified
    · split
      · exact hidentified
      · exact (hidentified.trans (speaks_modifyAccumulators _ _)).trans
          ((speaks_noteActivity _ m).trans (speaks_publishDrops _ m))

/-! ## Counters of the firmware -/

theorem speaks_recordFailedReceptions (c : TrafficController) (m : Moment) (nodeId : String)
    (total : Nat) : Speaks c (c.recordFailedReceptions m nodeId total) := by
  unfold recordFailedReceptions
  split
  · exact .refl c
  · dsimp only
    have hlatest := speaks_modifyAccumulators c (·.setLatestFailed nodeId total)
    split
    · exact hlatest
    · split
      · exact hlatest.trans (speaks_modifyAccumulators _ _)
      · exact (hlatest.trans (speaks_modifyAccumulators _ _)).trans
          (speaks_publishMetricUpdate _ m _ _)

theorem speaks_recordDuplicateReceptions (c : TrafficController) (m : Moment) (nodeId : String)
    (total : Nat) : Speaks c (c.recordDuplicateReceptions m nodeId total) := by
  unfold recordDuplicateReceptions
  split
  · exact .refl c
  · dsimp only
    have hlatest := speaks_modifyAccumulators c (·.setLatestDuplicates nodeId total)
    split
    · exact hlatest
    · split
      · exact hlatest.trans (speaks_modifyAccumulators _ _)
      · exact (hlatest.trans (speaks_modifyAccumulators _ _)).trans
          (speaks_publishMetricUpdate _ m _ _)

theorem speaks_setEventLoopLag (c : TrafficController) (m : Moment) (lagMs : ℚ) :
    Speaks c (c.setEventLoopLag m lagMs) := by
  unfold setEventLoopLag
  split
  · exact .refl c
  · exact (speaks_modifyAccumulators c _).trans (speaks_publishMetricUpdate _ m _ _)

theorem speaks_recordTopologyChange (c : TrafficController) (event : PacketEvent)
    (link : DirectedLink) : Speaks c (c.recordTopologyChange event link).1 := by
  unfold recordTopologyChange
  split
  · exact .refl c
  · split
    · exact .refl c
    · exact speaks_modifyCurrent c fun _ => rfl

theorem speaks_applyFinalSample (c : TrafficController) (m : Moment)
    (answer : Option FailedReceptionSample) : Speaks c (c.applyFinalSample m answer) := by
  unfold applyFinalSample
  split
  · exact .refl c
  · dsimp only
    refine Speaks.trans ?_ (speaks_modifyCurrent _ fun _ => rfl)
    refine Speaks.trans (speaks_foldl ?_ _ c) (speaks_foldl ?_ _ _)
    · intro c entry
      split
      · exact speaks_recordFailedReceptions c m _ _
      · exact .refl c
    · intro c entry
      split
      · exact speaks_recordDuplicateReceptions c m _ _
      · exact .refl c

/-! ## Messages of the firmware -/

theorem speaks_handleText (pb : Protobuf) (m : Moment) {run : TrafficRunResult}
    (hrun : c.currentId = some run.runId) (nodeId : String) (packet : MeshPacket) :
    Speaks c (c.handleText pb m run nodeId packet) := by
  have hcorrelated := speaks_correlatedDeliveryMessage pb c packet
  unfold handleText
  dsimp only
  split
  · exact hcorrelated
  · split
    · exact hcorrelated
    · split
      · exact hcorrelated
      · split
        · split
          · exact hcorrelated
          · exact (hcorrelated.trans (speaks_modifyAccumulators _ _)).trans
              (speaks_publishMetricUpdate _ m _ _)
        · next ref message _ _ _ _ =>
            have hdelivered : Speaks c (((c.correlatedDeliveryMessage pb packet).2.markDelivered ref
                message nodeId ((m.now - message.generatedMonotonic) * 1000)).noteActivity m) :=
              (hcorrelated.trans ((speaks_modifyMessage _ ref _).trans
                (speaks_modifyAccumulators _ _))).trans (speaks_noteActivity _ m)
            exact hdelivered.announced hrun m _ _ rfl

theorem speaks_acknowledge (c : TrafficController) (m : Moment) (ref : Nat)
    (message : GeneratedMessage) : Speaks c (c.acknowledge m ref message) := by
  unfold acknowledge
  split
  · exact .refl c
  · exact ((speaks_modifyMessage c ref _).trans (speaks_modifyAccumulators _ _)).trans
      (speaks_publishMetricUpdate _ m _ _)

theorem speaks_reportRouting (pb : Protobuf) (m : Moment) {run : TrafficRunResult}
    (hrun : c.currentId = some run.runId) (nodeId : String) (packet : MeshPacket)
    (acknowledgmentOrigin ref : Nat) (message : GeneratedMessage) (errorReason : Int) :
    Speaks c (c.reportRouting pb m run nodeId packet acknowledgmentOrigin ref message
      errorReason).1 := by
  unfold reportRouting
  dsimp only
  split
  · split
    · exact .refl c
    · exact .refl c
    · have hnoted := (speaks_acknowledge c m ref message).trans (speaks_noteActivity _ m)
      exact hnoted.trans (speaks_publish (hnoted.currentId.trans hrun) rfl)
  · split
    · exact .refl c
    · next result _ =>
      have hdropped : Speaks c ((c.modifyAccumulators
          (·.addRoutingTerminal message.sequence)).modifyAccumulators (·.addDrop result)) :=
        (speaks_modifyAccumulators c _).trans (speaks_modifyAccumulators _ _)
      have hnoted := (hdropped.trans (speaks_publishDrops _ m)).trans (speaks_noteActivity _ m)
      exact hnoted.trans (speaks_publish (hnoted.currentId.trans hrun) rfl)

theorem speaks_handleRouting (pb : Protobuf) (m : Moment) {run : TrafficRunResult}
    (hrun : c.currentId = some run.runId) (nodeId : String) (packet : MeshPacket) :
    Speaks c (c.handleRouting pb m run nodeId packet).1 := by
  unfold handleRouting
  split
  · exact .refl c
  · dsimp only
    split
    · exact .refl c
    · next ref message _ =>
      split
      · exact .refl c
      · split
        · have hrejected := speaks_recordPretransmissionRejection c m nodeId ref message
            "firmware text-message rate limit exceeded"
          exact hrejected.trans
            (speaks_reportRouting pb m (hrejected.currentId.trans hrun) nodeId packet _ _ _ _)
        · split
          · exact .refl c
          · exact speaks_reportRouting pb m hrun nodeId packet _ _ _ _

theorem speaks_handleFromRadio (pb : Protobuf) (c : TrafficController) (m : Moment)
    (nodeId : String) (message : FromRadio) :
    Speaks c (c.handleFromRadio pb m nodeId message).1 := by
  unfold handleFromRadio
  split
  · exact .refl c
  · next run hcurrent =>
      have hrun := currentId_of_current hcurrent
      split
      · exact .refl c
      · split
        · exact speaks_recordQueueStatus pb c m nodeId _
        · exact .refl c
        · split
          · split
            · exact speaks_handleText pb m hrun nodeId _
            · split
              · exact speaks_handleRouting pb m hrun nodeId _
              · exact .refl c
          · exact .refl c

/-! ## Finalizations -/

theorem speaks_beginFinalization (c : TrafficController) (m : Moment) :
    Speaks c (c.beginFinalization m) :=
  Speaks.trans (d := { c with finalizationDone := false, phase := .finalizing })
    (.of_silent rfl rfl rfl) (speaks_finalizePendingSubmissions _ m)

theorem speaks_beginDrain (c : TrafficController) (m : Moment) : Speaks c (c.beginDrain m) :=
  .of_silent rfl rfl rfl

/-- The current result is one of the run. -/
theorem Controlled.currentId (h : Controlled c) : c.currentId = c.frame.request.map Prod.fst := by
  unfold TrafficController.currentId current
  split
  · simp [frame, Function.comp_def]
  · next frozen older hfrozen =>
      have hmirrors := h.mirrored frozen (by rw [hfrozen]; exact List.mem_cons_self)
      rw [show c.frame.request = some (frozen.runId, frozen.request) from hmirrors.identity]
      rfl

/-- A result that shows the run may be frozen. -/
theorem speaks_freeze (h : Controlled c) {frozen : TrafficRunResult}
    (hmirrors : Mirrors c.view frozen) : Speaks c (c.freeze frozen) := by
  refine .of_silent ?_ rfl rfl
  rw [h.currentId,
    show c.frame.request = some (frozen.runId, frozen.request) from hmirrors.identity]
  rfl

/-- No event is accepted any more, and no submission is pending. -/
structure Quiesced (c : TrafficController) : Prop where
  closed : c.Closed
  pending : c.accumulators.pendingSubmissions = ∅

theorem Controlled.quiesced (h : Controlled c) (hclosed : c.Closed) : Quiesced c :=
  ⟨hclosed, h.settled hclosed⟩

/-- Only events of the run are published, and once it is quiesced only into the stream in
which it started. -/
structure Publishes (streamId : String) (c d : TrafficController) : Prop extends Speaks c d where
  quiesced : Quiesced c → Quiesced d
  quiet : Quiesced c → d.outbox = c.outbox ∨ c.eventStreamId = some streamId

/-- What is published in any stream is of the run. -/
theorem speaks_of_publishes (h : ∀ streamId, Publishes streamId c d) : Speaks c d := (h "").toSpeaks

theorem Publishes.trans (hfirst : Publishes streamId c d) (hsecond : Publishes streamId d e) :
    Publishes streamId c e where
  toSpeaks := hfirst.toSpeaks.trans hsecond.toSpeaks
  quiesced := fun h => hsecond.quiesced (hfirst.quiesced h)
  quiet := by
    intro h
    rcases hfirst.quiet h with hsilent | hstream
    · rcases hsecond.quiet (hfirst.quiesced h) with hsilent' | hstream
      · exact Or.inl (hsilent'.trans hsilent)
      · exact Or.inr (hfirst.eventStreamId.symm.trans hstream)
    · exact Or.inr hstream

/-- Nothing is published, and the run is as quiesced as before. -/
theorem Publishes.of_silent (hrun : d.currentId = c.currentId)
    (hstream : d.eventStreamId = c.eventStreamId) (houtbox : d.outbox = c.outbox)
    (hphase : d.phase = c.phase) (haccumulators : d.accumulators = c.accumulators) :
    Publishes streamId c d where
  toSpeaks := .of_silent hrun hstream houtbox
  quiesced h := by
    refine ⟨?_, haccumulators ▸ h.pending⟩
    unfold Closed
    rw [hphase]
    exact h.closed
  quiet _ := Or.inl houtbox

theorem Publishes.refl (c : TrafficController) : Publishes streamId c c :=
  .of_silent rfl rfl rfl rfl rfl

/-- A quiesced run is left alone. -/
theorem Publishes.of_gated (hspeaks : Speaks c d) (hstill : Quiesced c → d = c) :
    Publishes streamId c d where
  toSpeaks := hspeaks
  quiesced h := by
    rw [hstill h]
    exact h
  quiet h := Or.inl (by rw [hstill h])

/-- The run is open. -/
theorem Publishes.of_open (hspeaks : Speaks c d) (hopen : ¬c.Closed) : Publishes streamId c d :=
  .of_gated hspeaks fun h => absurd h.closed hopen

theorem publishes_modifyCurrent (c : TrafficController) {f : TrafficRunResult → TrafficRunResult}
    (hkeeps : ∀ run, (f run).runId = run.runId) : Publishes streamId c (c.modifyCurrent f) := by
  refine .of_silent (currentId_modifyCurrent c hkeeps) ?_ ?_ ?_ ?_ <;> unfold modifyCurrent <;>
    split <;> rfl

/-- The run fails for a reason. -/
theorem publishes_failing (c : TrafficController) (reason : String) :
    Publishes streamId c ({ c with state := .stopping }.modifyCurrent fun run =>
      { run with failure := some reason }) :=
  Publishes.trans (d := { c with state := .stopping }) (.of_silent rfl rfl rfl rfl rfl)
    (publishes_modifyCurrent _ fun _ => rfl)

theorem publishes_publishMetricUpdate (c : TrafficController) {m : Moment}
    (hm : m.streamId = streamId) (values : List (String × MetricValue)) (result : String) :
    Publishes streamId c (c.publishMetricUpdate m values result) := by
  have hspeaks := speaks_publishMetricUpdate c m values result
  refine ⟨hspeaks, ?_, ?_⟩
  · intro h
    unfold publishMetricUpdate
    split
    · exact h
    · split
      · exact h
      · exact ⟨h.closed, h.pending⟩
  · intro _
    unfold publishMetricUpdate
    split
    · exact Or.inl rfl
    · split
      · exact Or.inl rfl
      · next hstream =>
          rw [not_not, hm] at hstream
          exact Or.inr hstream

theorem publishes_finalizePendingSubmissions (c : TrafficController) (m : Moment) :
    Publishes streamId c (c.finalizePendingSubmissions m) :=
  .of_gated (speaks_finalizePendingSubmissions c m) fun h =>
    finalizePendingSubmissions_of_empty m h.pending

theorem publishes_beginFinalization (c : TrafficController) (m : Moment) :
    Publishes streamId c (c.beginFinalization m) := by
  have hbegun : Quiesced c → c.beginFinalization m =
      { c with finalizationDone := false, phase := .finalizing } := fun h =>
    finalizePendingSubmissions_of_empty m h.pending
  refine ⟨speaks_beginFinalization c m, ?_, ?_⟩
  · intro h
    rw [hbegun h]
    exact ⟨Or.inl rfl, h.pending⟩
  · intro h
    rw [hbegun h]
    exact Or.inl rfl

theorem publishes_applyFinalSample (c : TrafficController) (m : Moment)
    (answer : Option FailedReceptionSample) :
    Publishes streamId c (c.applyFinalSample m answer) := by
  by_cases hclosed : c.Closed
  · cases hcurrent : c.current with
    | none =>
        unfold applyFinalSample
        rw [hcurrent]
        exact .refl c
    | some run =>
        rw [applyFinalSample_of_closed hclosed m answer hcurrent]
        exact publishes_modifyCurrent c fun _ => rfl
  · exact .of_open (speaks_applyFinalSample c m answer) hclosed

/-! ## Starts -/

/-- What a call of `start` comes to: it raises and keeps all but the reserved identifiers,
or a new run takes the place of the current one. -/
theorem start_outcomes {m : Moment} {runId : String} {taskActive : Bool}
    {request : TrafficRunRequest} {scenarioSnapshot : Option Scenario}
    {baseline : Option FailedReceptionSample} {outcome : Except TrafficError String}
    (hstart : c.start m runId taskActive request scenarioSnapshot baseline = (d, outcome)) :
    (∃ error ids, outcome = .error error ∧ d = { c with packetIds := ids }) ∨
    (outcome = .ok runId ∧ taskActive = false ∧ ∃ ids accumulators run,
      run.runId = runId ∧ run.finishedAt = none ∧
      d = { c with
        packetIds := ids
        finalizationWaitTimedOut := false
        accumulators := accumulators
        lastActivityMonotonic := m.now
        activityChanged := false
        eventStreamId := some m.streamId
        runScenario := scenarioSnapshot.getD c.scenario
        run := some run
        frozenResults := []
        state := .running
        phase := .generating }) := by
  unfold start at hstart
  dsimp only at hstart
  split at hstart
  · cases hstart
    exact Or.inl ⟨_, _, rfl, rfl⟩
  · next hactive =>
    split at hstart
    · cases hstart
      exact Or.inl ⟨_, _, rfl, rfl⟩
    · split at hstart
      · cases hstart
        exact Or.inl ⟨_, _, rfl, rfl⟩
      · split at hstart
        · cases hstart
          exact Or.inl ⟨_, _, rfl, rfl⟩
        · unfold resetAccumulators at hstart
          split at hstart
          · next error hreset =>
              cases hstart
              split at hreset
              · cases hreset
                exact Or.inl ⟨_, _, rfl, rfl⟩
              · cases hreset
          · next reset hreset =>
              split at hreset
              · cases hreset
              · cases hreset
                split at hstart
                · next hraised => exact absurd hraised (liveMetricsSnapshot_ne_error _ _)
                · cases hstart
                  exact Or.inr ⟨rfl, by simpa using hactive, _, _, _, rfl, rfl, rfl⟩

end TrafficController

namespace TrafficTasks

open TrafficController

variable {s t u : TrafficTasks} {streamId : String} {m : Moment}

/-! ## Calls of `_finish`, `stop` and `fail` -/

theorem publishes_enterFinish (s : TrafficTasks) (m : Moment) :
    Publishes streamId s.controller (s.enterFinish m).1.controller := by
  unfold enterFinish
  dsimp only
  split
  · exact .refl _
  · split
    · exact publishes_beginFinalization _ m
    · split <;> exact .refl _

theorem publishes_resumeFinish (h : Controlled s.controller) (hm : m.streamId = streamId)
    {target : TrafficRunState} {pc : FinishPc} (hfits : pc.Fits s.controller)
    {input : FinishInput} {entry : TrafficTasks × FinishOutcome}
    (hresume : s.resumeFinish m target pc input = some entry) :
    Publishes streamId s.controller entry.1.controller := by
  have hfrozen : ∀ frozen, Mirrors s.controller.view frozen →
      Publishes streamId s.controller (s.controller.freeze frozen) := by
    intro frozen hmirrors
    exact ⟨speaks_freeze h hmirrors, fun hquiesced => ⟨Or.inr rfl, hquiesced.pending⟩,
      fun _ => Or.inl rfl⟩
  unfold resumeFinish at hresume
  split at hresume
  · cases hresume
    exact publishes_beginFinalization _ m
  · cases hresume
    exact .of_silent rfl rfl rfl rfl rfl
  · split at hresume
    · cases hresume
      exact .of_silent rfl rfl rfl rfl rfl
    · cases hresume
    · cases hresume
      exact publishes_publishMetricUpdate _ hm _ _
  · cases hresume
    exact hfrozen _ hfits
  · cases hresume
    exact .refl _
  · cases hresume
    exact hfrozen _ hfits
  · cases hresume

theorem publishes_afterSampling (s : TrafficTasks) (m : Moment) (kind : CallerKind)
    (runFailed : Bool) :
    Publishes streamId s.controller (s.afterSampling m kind runFailed).1.controller := by
  unfold afterSampling
  split
  · exact .refl _
  · exact publishes_enterFinish s m

theorem publishes_afterCancel (s : TrafficTasks) (m : Moment) (kind : CallerKind)
    (runFailed : Bool) :
    Publishes streamId s.controller (s.afterCancel m kind runFailed).1.controller := by
  have hsampled : ∀ t : TrafficTasks, Publishes streamId t.controller
      (if t.controller.failedReceptionSampler then (t, CallerPc.sampling runFailed)
        else t.afterSampling m kind runFailed).1.controller := by
    intro t
    split
    · exact .refl _
    · exact publishes_afterSampling t m kind runFailed
  unfold afterCancel
  dsimp only
  split
  · exact hsampled s
  · exact (publishes_finalizePendingSubmissions s.controller m).trans
      (hsampled { s with controller := s.controller.finalizePendingSubmissions m })

theorem publishes_cancelRunTask (s : TrafficTasks) (m : Moment) (kind : CallerKind)
    (runFailed : Bool) :
    Publishes streamId s.controller (s.cancelRunTask m kind runFailed).1.controller := by
  unfold cancelRunTask
  split
  · exact publishes_afterCancel s m kind runFailed
  · exact .refl _

theorem publishes_afterWait (s : TrafficTasks) (m : Moment) (kind : CallerKind) :
    Publishes streamId s.controller (s.afterWait m kind).1.controller := by
  have hstopping : Publishes streamId s.controller { s.controller with state := .stopping } :=
    .of_silent rfl rfl rfl rfl rfl
  unfold afterWait
  cases kind with
  | stop =>
      dsimp only
      split
      · exact publishes_cancelRunTask s m .stop true
      · split
        · exact .refl _
        · exact hstopping.trans (publishes_cancelRunTask
            { s with controller := { s.controller with state := .stopping } } m .stop false)
  | fail reason =>
      dsimp only
      split
      · exact .refl _
      · exact (publishes_failing s.controller reason).trans
          (publishes_cancelRunTask (s.withController _) m (.fail reason) false)

theorem publishes_enterCall (s : TrafficTasks) (m : Moment) (kind : CallerKind) :
    Publishes streamId s.controller (s.enterCall m kind).1.controller := by
  unfold enterCall
  dsimp only
  split
  · exact .refl _
  · split
    · exact publishes_afterWait s m kind
    · split <;> exact .refl _

theorem publishes_resumeCall (h : Controlled s.controller) (hm : m.streamId = streamId)
    {kind : CallerKind} {pc : CallerPc}
    (hfits : pc.Fits s.controller s.cancelRequested s.runTask) {input : CallerInput}
    {entry : TrafficTasks × CallerPc} (hresume : s.resumeCall m kind pc input = some entry) :
    Publishes streamId s.controller entry.1.controller := by
  unfold resumeCall at hresume
  split at hresume
  · cases hresume
    exact publishes_afterWait s m kind
  · cases hresume
    exact .of_silent rfl rfl rfl rfl rfl
  · split at hresume
    · cases hresume
      exact publishes_afterCancel s m kind _
    · cases hresume
  · cases hresume
    exact (publishes_applyFinalSample _ m _).trans
      (publishes_afterSampling (s.withController _) m kind _)
  · obtain ⟨resumed, hresumed, rfl⟩ := Option.map_eq_some_iff.mp hresume
    exact publishes_resumeFinish h hm hfits.2.2 hresumed
  · cases hresume

/-! ## The run task -/

theorem publishes_runAfterFinish (s : TrafficTasks) (m : Moment) (target : TrafficRunState)
    (outcome : FinishOutcome) :
    Publishes streamId s.controller (s.runAfterFinish m target outcome).controller := by
  unfold runAfterFinish
  cases outcome with
  | suspended pc => exact .refl _
  | returned value => exact .refl _
  | raised message =>
      dsimp only
      split
      · exact .refl _
      · split <;> exact (publishes_failing s.controller message).trans
          (publishes_enterFinish (s.withController _) m)

theorem publishes_runFinish (s : TrafficTasks) (m : Moment) (target : TrafficRunState) :
    Publishes streamId s.controller (s.runFinish m target).controller :=
  (publishes_enterFinish s m).trans (publishes_runAfterFinish _ m target _)

theorem publishes_runFailed (s : TrafficTasks) (m : Moment) (exception : String) :
    Publishes streamId s.controller (s.runFailed m exception).controller :=
  (publishes_failing s.controller exception).trans
    (publishes_runFinish (s.withController _) m .failed)

theorem publishes_afterDrain (s : TrafficTasks) (m : Moment) :
    Publishes streamId s.controller (s.afterDrain m).controller := by
  have hended : Publishes streamId s.controller s.controller.endDrain :=
    .of_silent rfl rfl rfl rfl rfl
  unfold afterDrain
  dsimp only
  split
  · exact hended
  · exact hended.trans (publishes_runFinish (s.withController _) m .completed)

theorem publishes_expired (s : TrafficTasks) (m : Moment) :
    Publishes streamId s.controller
      (({ s with controller := s.controller.finalizePendingSubmissions m }).afterDrain
        m).controller :=
  (publishes_finalizePendingSubmissions s.controller m).trans
    (publishes_afterDrain { s with controller := s.controller.finalizePendingSubmissions m } m)

/-- The first pass of `_drain` in an open run. -/
theorem speaks_enterDrain (s : TrafficTasks) (m : Moment) :
    Speaks s.controller (s.enterDrain m).controller := by
  have hbegun := speaks_beginDrain s.controller m
  unfold enterDrain
  dsimp only
  split
  · exact hbegun
  · split
    · exact hbegun.trans (speaks_of_publishes fun _ => publishes_afterDrain (s.withController _) m)
    · exact hbegun.trans (speaks_of_publishes fun _ => publishes_expired (s.withController _) m)
    · exact hbegun.trans (.of_silent rfl rfl rfl)

theorem speaks_runSubmit {pb : Protobuf} {flow source pick : Nat} {draws : List Nat}
    (hsubmit : s.runSubmit pb m flow source pick draws = some t) :
    Speaks s.controller t.controller := by
  unfold runSubmit at hsubmit
  obtain ⟨run, _, hsubmit⟩ := Option.bind_eq_some_iff.mp hsubmit
  obtain ⟨flow, _, hsubmit⟩ := Option.bind_eq_some_iff.mp hsubmit
  obtain ⟨source, _, hsubmit⟩ := Option.bind_eq_some_iff.mp hsubmit
  split at hsubmit
  · cases hsubmit
    exact speaks_of_publishes fun _ => publishes_runFailed s m _
  · obtain ⟨⟨c, outcome⟩, hcall, hsubmit⟩ := Option.bind_eq_some_iff.mp hsubmit
    have hsubmitted := speaks_submit hcall
    cases outcome with
    | error error =>
        cases hsubmit
        exact hsubmitted.trans
          (speaks_of_publishes fun _ => publishes_runFailed (s.withController c) m _)
    | ok sent =>
        cases sent with
        | none => cases hsubmit
        | some sent =>
            cases hsubmit
            exact hsubmitted

/-- The run task publishes for its run, and in a closed run it holds a finalization. -/
theorem publishes_resumeRun (pb : Protobuf) (h : Structured s) (hm : m.streamId = streamId)
    {input : RunInput} (hresume : s.resumeRun pb m s.runTask input = some t) :
    Publishes streamId s.controller t.controller := by
  have hrun := h.run
  unfold resumeRun at hresume
  split at hresume
  · cases hresume
    exact .refl _
  · next hpc =>
      rw [hpc] at hrun
      exact .of_open (speaks_runSubmit hresume) (not_closed_of_generating hrun)
  · next source ref exception last hpc =>
      rw [hpc] at hrun
      refine .of_open ?_ (not_closed_of_generating hrun.1)
      have hsent : ∀ c, Speaks s.controller c →
          (if last then some ((s.withController c).enterDrain m)
            else some { s.withController c with runTask := .sleeping }) = some t →
          Speaks s.controller t.controller := by
        intro c hspeaks hsent
        split at hsent
        · cases hsent
          exact hspeaks.trans (speaks_enterDrain (s.withController c) m)
        · cases hsent
          exact hspeaks
      cases exception with
      | none => exact hsent _ (.refl _) hresume
      | some exception => exact hsent _ (speaks_submitFailed _ m source ref exception) hresume
  · cases hresume
    exact publishes_expired s m
  · dsimp only at hresume
    split at hresume
    · cases hresume
      exact publishes_afterDrain s m
    · cases hresume
      exact publishes_expired s m
    · cases hresume
      exact .of_silent rfl rfl rfl rfl rfl
  · cases hresume
    exact (publishes_applyFinalSample _ m _).trans
      (publishes_runFinish (s.withController _) m .completed)
  · next target pc input hpc =>
      rw [hpc] at hrun
      obtain ⟨resumed, hresumed, rfl⟩ := Option.map_eq_some_iff.mp hresume
      exact (publishes_resumeFinish h.controlled hm hrun.2.1 hresumed).trans
        (publishes_runAfterFinish resumed.1 m target resumed.2)
  · cases hresume

theorem publishes_cancelled (s : TrafficTasks) :
    Publishes streamId s.controller s.cancelled.controller := by
  unfold cancelled
  split <;> exact .of_silent rfl rfl rfl rfl rfl

/-! ## Steps -/

/-- A step that starts no run publishes for the current one. -/
theorem publishes_step (pb : Protobuf) (h : Structured s) {a : Action}
    (hstarts : a.starts = false) (hclock : ∀ m ∈ a.moment, m.streamId = streamId)
    (hstep : step pb s a = some t) : Publishes streamId s.controller t.controller := by
  cases a with
  | start m runId request scenarioSnapshot baseline => cases hstarts
  | fromRadio m nodeId message =>
      cases hstep
      exact .of_gated (speaks_handleFromRadio pb _ m nodeId message) fun hquiesced =>
        handleFromRadio_of_closed pb hquiesced.closed m nodeId message
  | rfTransmission m transmitter packet packetAirtimeMs =>
      cases hstep
      exact .of_gated (speaks_recordRfTransmission pb _ m transmitter packet packetAirtimeMs)
        fun hquiesced => recordRfTransmission_of_closed pb hquiesced.closed m transmitter packet _
  | drop m transmitter packet reason =>
      cases hstep
      exact .of_gated (speaks_recordDrop pb _ m transmitter packet reason) fun hquiesced =>
        recordDrop_of_closed pb hquiesced.closed m transmitter packet reason
  | failedReceptions m nodeId total =>
      cases hstep
      exact .of_gated (speaks_recordFailedReceptions _ m nodeId total) fun hquiesced =>
        recordFailedReceptions_of_closed hquiesced.closed m nodeId total
  | duplicateReceptions m nodeId total =>
      cases hstep
      exact .of_gated (speaks_recordDuplicateReceptions _ m nodeId total) fun hquiesced =>
        recordDuplicateReceptions_of_closed hquiesced.closed m nodeId total
  | eventLoopLag m lagMs =>
      cases hstep
      exact .of_gated (speaks_setEventLoopLag _ m lagMs) fun hquiesced =>
        setEventLoopLag_of_closed hquiesced.closed m lagMs
  | topologyChange event link =>
      cases hstep
      exact .of_gated (speaks_recordTopologyChange _ event link) fun hquiesced =>
        recordTopologyChange_of_closed hquiesced.closed event link
  | run m input =>
      unfold step at hstep
      dsimp only at hstep
      split at hstep
      · cases hstep
      · exact publishes_resumeRun pb h (hclock m rfl) hstep
  | cancelled =>
      unfold step at hstep
      dsimp only at hstep
      split at hstep
      · cases hstep
        exact publishes_cancelled s
      · cases hstep
  | call m kind =>
      cases hstep
      exact publishes_enterCall s m kind
  | resume i m input =>
      unfold step at hstep
      dsimp only at hstep
      split at hstep
      · cases hstep
      · next caller hget =>
          obtain ⟨entry, hresume, rfl⟩ := Option.map_eq_some_iff.mp hstep
          exact publishes_resumeCall h.controlled (hclock m rfl)
            (h.callers caller (List.mem_of_getElem? hget)) hresume

end TrafficTasks

end MeshtasticLab.Traffic

/-
  Traffic/Recomputation.lean --- the final metrics and the live metrics agree.

  WHAT THIS FILE IS FOR

  The final metrics are computed from the records of a run, the live metrics from
  its counters.  In every reachable state both calculations succeed, and they give
  the same snapshot but for the percentiles and the receivers of each broadcast;
  the percentiles agree while the live sample still holds every latency.
-/
import MeshtasticLab.Traffic.Accounting

set_option autoImplicit false

namespace MeshtasticLab.Traffic.TrafficTasks

open MeshtasticLab.Foundation MeshtasticLab.Gateway MeshtasticLab.Metrics MeshtasticLab.Models
open TrafficController

variable {s t : TrafficTasks}

/-! ## Deliveries -/

/-- The two readings of a delivered message are the same. -/
theorem isDelivered_eq {kind : TrafficKind} {message : GeneratedMessage}
    (hsound : message.Sound kind) :
    isDelivered kind message = !message.deliveredTo.isEmpty := by
  have happlicable := hsound.applicable
  cases hreceivers : message.deliveredTo with
  | nil => cases kind <;> simp [isDelivered, hreceivers]
  | cons first rest =>
      have hfirst := happlicable first (by rw [hreceivers]; exact List.mem_cons_self)
      cases kind with
      | directText =>
          have hsame : first = message.destinationNode := by
            simpa [isApplicableReceiver] using hfirst
          simp [isDelivered, hreceivers, hsame]
      | broadcastText =>
          have hother : first ≠ message.sourceNode := by
            simpa [isApplicableReceiver] using hfirst
          simp [isDelivered, hreceivers, hother]

/-- The recomputed deliveries are counted by the run. -/
theorem card_deliveredIds {kind : TrafficKind} {opportunities : Nat} {acc : Accumulators}
    {run : TrafficRunResult} (hledger : Ledger kind opportunities run.generatedMessages acc)
    (hkind : run.request.kind = kind) : (deliveredIds run).card = acc.uniqueDeliveries := by
  have hnodup : ((run.generatedMessages.filter (isDelivered run.request.kind)).map
      fun message => (run.runId, message.sequence)).Nodup := by
    rw [List.nodup_iff_pairwise_ne, List.pairwise_map]
    refine (hledger.numbered.sublist List.filter_sublist).imp ?_
    intro a b hlt heq
    rw [Prod.mk.injEq] at heq
    omega
  unfold deliveredIds
  rw [List.toFinset_card_of_nodup hnodup, List.length_map, ← List.countP_eq_length_filter,
    hledger.delivered]
  apply List.countP_congr
  intro message hmember
  rw [hkind, isDelivered_eq (hledger.sound message hmember)]

/-- What `self.current` refers to shows the messages of the run. -/
theorem current_shows (h : Controlled s.controller) {run : TrafficRunResult}
    (hcurrent : s.controller.current = some run) :
    run.generatedMessages = s.controller.messages ∧
      s.controller.view.kind = some run.request.kind := by
  cases hfrozen : s.controller.frozenResults with
  | nil =>
      rw [current_of_open hfrozen] at hcurrent
      exact ⟨by simp [messages, hcurrent], by simp [View.kind, view, frame, hcurrent]⟩
  | cons newest older =>
      have hsame : newest = run := by
        unfold current at hcurrent
        rw [hfrozen] at hcurrent
        exact Option.some.inj hcurrent
      have hmirrors := h.mirrored newest (by rw [hfrozen]; exact List.mem_cons_self)
      rw [hsame] at hmirrors
      exact ⟨hmirrors.messages, by simp [View.kind, hmirrors.identity]⟩

/-- The messages of which a delivery is recorded are the unique deliveries. -/
theorem card_delivered (h : Sound s) :
    ((s.controller.current.map deliveredIds).getD ∅).card =
      s.controller.accumulators.uniqueDeliveries := by
  cases hcurrent : s.controller.current with
  | none =>
      obtain ⟨kind, hledger⟩ := h.ledger
      have hnone : s.controller.messages = [] := by
        unfold current at hcurrent
        split at hcurrent
        · simp [messages, hcurrent]
        · cases hcurrent
      rw [hledger.delivered, hnone]
      rfl
  | some run =>
      obtain ⟨hmessages, hkind⟩ := current_shows h.structured.controlled hcurrent
      have hledger := h.ledgered run.request.kind (by simp [hkind])
      rw [show s.controller.view.messages = run.generatedMessages from hmessages.symm] at hledger
      exact card_deliveredIds hledger rfl

/-! ## The two calculations -/

/-- In every reachable state both calculations succeed and agree. -/
theorem Sound.metrics_agree (h : Sound s) :
    ∃ final live, s.controller.finalMetrics = .ok final ∧
      s.controller.liveMetricsSnapshot = .ok live ∧
      final =
        { live with
          medianLatencyMs := final.medianLatencyMs
          p95LatencyMs := final.p95LatencyMs
          p99LatencyMs := final.p99LatencyMs
          receiversPerBroadcast := final.receiversPerBroadcast } ∧
      (s.controller.accumulators.receiverDeliveries ≤ LIVE_LATENCY_SAMPLE_SIZE →
        final.medianLatencyMs = live.medianLatencyMs ∧
        final.p95LatencyMs = live.p95LatencyMs ∧ final.p99LatencyMs = live.p99LatencyMs) := by
  have hagreement := h.structured.controlled.agreement
  have hdelivered := card_delivered h
  obtain ⟨median, p95, p99, hmedian, hp95, hp99, hfinal⟩ :
      ∃ median p95 p99, _ ∧ _ ∧ _ ∧ s.controller.finalMetrics = .ok _ :=
    calculateMetrics_ok (airtimeByTransmitter_ok hagreement.paired)
  obtain ⟨median', p95', p99', hmedian', hp95', hp99', hlive⟩ :
      ∃ median p95 p99, _ ∧ _ ∧ _ ∧ s.controller.liveMetricsSnapshot = .ok _ :=
    calculateMetrics_ok rfl
  refine ⟨_, _, hfinal, hlive, ?_, ?_⟩
  · simp only [MetricsInput.snapshot, MetricsInput.delivered, MetricsInput.rfCount,
      Option.getD_none, Option.getD_some, hdelivered, hagreement.transmissions,
      hagreement.airtime, hagreement.transmitCounts, hagreement.airtimes, hagreement.drops]
  · intro hfew
    have hitems : s.controller.accumulators.liveLatenciesMs.items =
        s.controller.accumulators.latenciesMs := by
      apply hagreement.latencies.items_eq
      rw [hagreement.sampleSize, hagreement.deliveries]
      exact hfew
    rw [hitems] at hmedian' hp95' hp99'
    exact ⟨Except.ok.inj (hmedian.symm.trans hmedian'), Except.ok.inj (hp95.symm.trans hp95'),
      Except.ok.inj (hp99.symm.trans hp99')⟩

/-- The final metrics recomputed in any state of any run agree with the live ones. -/
theorem final_metrics_agree (pb : Protobuf) {scenario : Scenario} {hardwareIds : Dict String Nat}
    {buildMetadata : BuildMetadata} {settleSeconds : Option ℚ} {failedReceptionSampler : Bool}
    (hrun : Run (step pb) Always
      (.new scenario hardwareIds buildMetadata settleSeconds failedReceptionSampler) s) :
    ∃ final live, s.controller.finalMetrics = .ok final ∧
      s.controller.liveMetricsSnapshot = .ok live ∧
      final =
        { live with
          medianLatencyMs := final.medianLatencyMs
          p95LatencyMs := final.p95LatencyMs
          p99LatencyMs := final.p99LatencyMs
          receiversPerBroadcast := final.receiversPerBroadcast } ∧
      (s.controller.accumulators.receiverDeliveries ≤ LIVE_LATENCY_SAMPLE_SIZE →
        final.medianLatencyMs = live.medianLatencyMs ∧
        final.p95LatencyMs = live.p95LatencyMs ∧ final.p99LatencyMs = live.p99LatencyMs) :=
  (sound_of_run pb hrun).metrics_agree

/-- The message of the run between the two nodes is accepted, transmitted and
delivered. -/
def deliveredMessageRun : List Action :=
  pairSubmission ++
    [.fromRadio pairMoment "node-1" (.queueStatus { meshPacketId := 7, res := 0 }),
      .rfTransmission pairMoment "node-1" { from_ := 1, to_ := 2, id := 7 } 50,
      .fromRadio pairMoment "node-2" (.packet
        { from_ := 1
          to_ := 2
          id := 7
          payload := .decoded
            { portnum := TEXT_MESSAGE_APP
              payload := (trafficMarker "run" 1).toUTF8.data.toList } })]

/-- After one delivery over one transmission the two calculations agree. -/
theorem delivered_message_metrics :
    ∃ s, (exec (step pairProtobuf) deliveredMessageRun pairTasks = some s ∧
        s.controller.accumulators.receiverDeliveries = 1 ∧
        s.controller.accumulators.rfTransmissionCount = 1) ∧
      ∃ final live, s.controller.finalMetrics = .ok final ∧
        s.controller.liveMetricsSnapshot = .ok live ∧
        final =
          { live with
            medianLatencyMs := final.medianLatencyMs
            p95LatencyMs := final.p95LatencyMs
            p99LatencyMs := final.p99LatencyMs
            receiversPerBroadcast := final.receiversPerBroadcast } ∧
        (s.controller.accumulators.receiverDeliveries ≤ LIVE_LATENCY_SAMPLE_SIZE →
          final.medianLatencyMs = live.medianLatencyMs ∧
          final.p95LatencyMs = live.p95LatencyMs ∧ final.p99LatencyMs = live.p99LatencyMs) := by
  have hstate : (exec (step pairProtobuf) deliveredMessageRun pairTasks).map (fun s =>
      (s.controller.accumulators.receiverDeliveries,
        s.controller.accumulators.rfTransmissionCount)) = some (1, 1) := by
    decide +kernel
  obtain ⟨s, hexec, hstate⟩ := Option.map_eq_some_iff.mp hstate
  obtain ⟨hdeliveries, htransmissions⟩ := Prod.mk.inj hstate
  exact ⟨s, ⟨hexec, hdeliveries, htransmissions⟩,
    final_metrics_agree pairProtobuf (.of_exec hexec (conforms_always _ _))⟩

end MeshtasticLab.Traffic.TrafficTasks

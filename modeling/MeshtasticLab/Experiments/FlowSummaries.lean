/-
  Experiments/FlowSummaries.lean --- the flows of an exported run.

  Embeds `summarize_flows` of `experiments/run_system_bench.py`, over the result that
  was exported.

  WHAT THIS FILE IS FOR

  The bench counts again, flow by flow, what the controller counted message by
  message.  It looks for the destination of a direct message and, in a broadcast, for
  any receiver but the source; the controller lets nobody else into `deliveredTo`, so
  both count the messages that reached somebody.
-/
import MeshtasticLab.Traffic.Origins
import MeshtasticLab.Traffic.Recomputation

set_option autoImplicit false

namespace MeshtasticLab.Experiments

open MeshtasticLab.Foundation MeshtasticLab.Gateway MeshtasticLab.Metrics MeshtasticLab.Traffic

/-! ## Summaries -/

/-- `summaries[name]`. -/
structure FlowSummary where
  sourceNodes : List String
  sourceCount : Nat
  messagesPerMinutePerSource : ℚ
  intervalSeconds : ℚ
  destinationStrategy : DestinationStrategy
  fixedDestination : Option String
  sourceTiming : SourceTiming
  requested : Nat
  submitted : Nat
  submissionFailed : Nat
  transmitted : Nat
  delivered : Nat
  acknowledged : Nat
  admissionRatio : Option ℚ
  deliveryRatio : Option ℚ
  onTimeDeliveries : Nat
  onTimeDeliveryRatio : Option ℚ
  acknowledgmentSuccessRatio : Option ℚ
  medianLatencyMs : Option ℚ
  p95LatencyMs : Option ℚ
  maximumLatencyMs : Option ℚ
  deriving DecidableEq, Repr

/-- `configured`: the flows of the request, or the one that its own fields describe. -/
def configuredFlows (request : TrafficRunRequest) : List TrafficFlow :=
  if request.flows.isEmpty then
    [{ name := "default"
       sourceNodes := request.sourceNodes
       messagesPerMinute := request.messagesPerMinute
       destinationStrategy := request.destinationStrategy
       fixedDestination := request.fixedDestination
       sourceTiming := request.sourceTiming }]
  else request.flows

/-- `messages`: those of one flow. -/
def messagesOf (generated : List GeneratedMessage) (name : String) : List GeneratedMessage :=
  generated.filter fun message => message.flow = name

/-- The condition of `delivered`. -/
def isDelivered (message : GeneratedMessage) : Bool :=
  if message.destinationNode = "broadcast" then
    message.deliveredTo.any fun receiver => receiver ≠ message.sourceNode
  else message.deliveredTo.contains message.destinationNode

/-- `count / requested_count if requested_count else None`. -/
def ratioOf (count total : Nat) : Option ℚ := if total = 0 then none else some (count / total)

/-- The body of the loop of `summarize_flows`. -/
def summarizeFlow (request : TrafficRunRequest) (generated : List GeneratedMessage)
    (name : String) (definition : TrafficFlow) : Except String FlowSummary :=
  let acknowledgmentsExpected :=
    request.kind = .directText ∧ request.acknowledgmentRequested = true
  let messages := messagesOf generated name
  let submitted := messages.filter (·.submitted)
  let delivered := messages.filter isDelivered
  let latencies := delivered.filterMap (·.latencyMs)
  let requestedCount := messages.length
  let submittedCount := submitted.length
  let intervalSeconds := 60 / definition.messagesPerMinute
  let onTimeDeliveries := latencies.countP fun latency => latency ≤ intervalSeconds * 1000
  match percentile latencies (1 / 2), percentile latencies (95 / 100) 20 with
  | .ok median, .ok p95 =>
      .ok
        { sourceNodes := definition.sourceNodes
          sourceCount := definition.sourceNodes.length
          messagesPerMinutePerSource := definition.messagesPerMinute
          intervalSeconds := intervalSeconds
          destinationStrategy := definition.destinationStrategy
          fixedDestination := definition.fixedDestination
          sourceTiming := definition.sourceTiming
          requested := requestedCount
          submitted := submittedCount
          submissionFailed := messages.countP (·.submissionError.isSome)
          transmitted := messages.countP (·.transmitted)
          delivered := delivered.length
          acknowledged := messages.countP (·.acknowledged)
          admissionRatio := ratioOf submittedCount requestedCount
          deliveryRatio := ratioOf delivered.length requestedCount
          onTimeDeliveries := onTimeDeliveries
          onTimeDeliveryRatio := ratioOf onTimeDeliveries requestedCount
          acknowledgmentSuccessRatio :=
            if acknowledgmentsExpected then
              ratioOf (submitted.countP (·.acknowledged)) submittedCount
            else none
          medianLatencyMs := median
          p95LatencyMs := p95
          maximumLatencyMs := latencies.max? }
  | .error message, _ => .error message
  | _, .error message => .error message

/-- The loop of `summarize_flows`. -/
def summarizeDefinitions (request : TrafficRunRequest) (generated : List GeneratedMessage) :
    List (String × TrafficFlow) → Dict String FlowSummary → Except String (Dict String FlowSummary)
  | [], summaries => .ok summaries
  | (name, definition) :: rest, summaries =>
      match summarizeFlow request generated name definition with
      | .error message => .error message
      | .ok summary =>
          summarizeDefinitions request generated rest (summaries.set name summary)

/-- `summarize_flows`. -/
def summarizeFlows (result : TrafficRunResult) : Except String (Dict String FlowSummary) :=
  let definitions := (∅ : Dict String TrafficFlow).update
    ((configuredFlows result.request).map fun flow => (flow.name, flow))
  summarizeDefinitions result.request result.generatedMessages definitions.items ∅

/-! ## Counts -/

/-- A summary counts the messages of its flow. -/
structure Counted (generated : List GeneratedMessage) (name : String) (summary : FlowSummary) :
    Prop where
  requested : summary.requested = (messagesOf generated name).countP fun _ => true
  submitted : summary.submitted = (messagesOf generated name).countP (·.submitted)
  submissionFailed : summary.submissionFailed =
    (messagesOf generated name).countP (·.submissionError.isSome)
  transmitted : summary.transmitted = (messagesOf generated name).countP (·.transmitted)
  delivered : summary.delivered = (messagesOf generated name).countP isDelivered
  acknowledged : summary.acknowledged = (messagesOf generated name).countP (·.acknowledged)

theorem summarizeFlow_ok (request : TrafficRunRequest) (generated : List GeneratedMessage)
    (name : String) (definition : TrafficFlow) :
    ∃ summary, summarizeFlow request generated name definition = .ok summary ∧
      Counted generated name summary := by
  unfold summarizeFlow
  dsimp only
  obtain ⟨median, hmedian⟩ := percentileOrdered_ok (sorted (((messagesOf generated name).filter
    isDelivered).filterMap (·.latencyMs))) (1 / 2) 1 (by norm_num) (by norm_num) (by decide)
  obtain ⟨p95, hp95⟩ := percentileOrdered_ok (sorted (((messagesOf generated name).filter
    isDelivered).filterMap (·.latencyMs))) (95 / 100) 20 (by norm_num) (by norm_num) (by decide)
  rw [percentile_eq_percentileOrdered, percentile_eq_percentileOrdered]
  rw [hmedian, hp95]
  refine ⟨_, rfl, ?_, List.countP_eq_length_filter.symm, rfl, rfl, ?_, rfl⟩
  · exact (congrFun List.countP_true _).symm
  · exact List.countP_eq_length_filter.symm

theorem summarizeDefinitions_ok {request : TrafficRunRequest} {generated : List GeneratedMessage}
    {definitions : List (String × TrafficFlow)} {summaries : Dict String FlowSummary}
    (hdistinct : (summaries.items.map Prod.fst ++ definitions.map Prod.fst).Nodup)
    (hcounted : ∀ item ∈ summaries.items, Counted generated item.1 item.2) :
    ∃ all, summarizeDefinitions request generated definitions summaries = .ok all ∧
      all.keys = summaries.keys ++ definitions.map Prod.fst ∧
      ∀ item ∈ all.items, Counted generated item.1 item.2 := by
  induction definitions generalizing summaries with
  | nil => exact ⟨summaries, rfl, (List.append_nil _).symm, hcounted⟩
  | cons definition rest ih =>
      obtain ⟨name, definition⟩ := definition
      obtain ⟨summary, hsummary, hcounts⟩ := summarizeFlow_ok request generated name definition
      have hsplit : summaries.items.map Prod.fst ++ ((name, definition) :: rest).map Prod.fst =
          (summaries.items ++ [(name, summary)]).map Prod.fst ++ rest.map Prod.fst := by simp
      rw [hsplit] at hdistinct
      have hset : (summaries.set name summary).items = summaries.items ++ [(name, summary)] :=
        Dict.items_update (List.nodup_append.mp hdistinct).1
      rw [← hset] at hdistinct
      have hnext : ∀ item ∈ (summaries.set name summary).items,
          Counted generated item.1 item.2 := by
        intro item hitem
        rw [hset] at hitem
        rcases List.mem_append.mp hitem with hold | hnew
        · exact hcounted item hold
        · rw [List.mem_singleton.mp hnew]
          exact hcounts
      obtain ⟨all, hall, hkeys, hitems⟩ := ih hdistinct hnext
      refine ⟨all, ?_, ?_, hitems⟩
      · unfold summarizeDefinitions
        rw [hsummary]
        exact hall
      · rw [hkeys]
        unfold Dict.keys
        rw [hset]
        simp

/-- With distinct flows the bench summarizes each once. -/
theorem summarizeFlows_ok {result : TrafficRunResult}
    (hdistinct : (result.request.schedulingFlows.map (·.name)).Nodup) :
    ∃ summaries, summarizeFlows result = .ok summaries ∧
      summaries.keys = result.request.schedulingFlows.map (·.name) ∧
      ∀ item ∈ summaries.items, Counted result.generatedMessages item.1 item.2 := by
  have hnames : ((configuredFlows result.request).map fun flow => (flow.name, flow)).map
      Prod.fst = result.request.schedulingFlows.map (·.name) := List.map_map
  unfold summarizeFlows
  rw [← hnames] at hdistinct ⊢
  generalize (configuredFlows result.request).map (fun flow => (flow.name, flow)) = definitions
    at hdistinct ⊢
  dsimp only
  rw [Dict.items_update_empty hdistinct]
  exact summarizeDefinitions_ok hdistinct fun item hitem => absurd hitem List.not_mem_nil

/-! ## The two predicates of a delivery -/

/-- A message has reached somebody by the bench's account exactly when it has by the
controller's. -/
theorem isDelivered_eq {request : TrafficRunRequest} {message : GeneratedMessage}
    (hmakes : TrafficTasks.Makes request message.origin) (hsound : message.Sound request.kind) :
    isDelivered message = !message.deliveredTo.isEmpty := by
  have hreached : ∀ receiver ∈ message.deliveredTo,
      receiver ≠ message.sourceNode ∧
        (message.destinationNode ≠ "broadcast" → receiver = message.destinationNode) := by
    intro receiver hreceiver
    have happlicable := hsound.applicable receiver hreceiver
    cases hkind : request.kind with
    | broadcastText =>
        rw [hkind] at happlicable
        have hother : receiver ≠ message.sourceNode := by
          simpa [TrafficController.isApplicableReceiver] using happlicable
        exact ⟨hother, fun hword => absurd (hmakes.broadcast hkind) hword⟩
    | directText =>
        rw [hkind] at happlicable
        have hnamed : receiver = message.destinationNode := by
          simpa [TrafficController.isApplicableReceiver] using happlicable
        exact ⟨hnamed ▸ hmakes.direct hkind, fun _ => hnamed⟩
  unfold isDelivered
  cases hdelivered : message.deliveredTo with
  | nil => simp
  | cons receiver rest =>
      have hfirst : receiver ∈ message.deliveredTo := by
        rw [hdelivered]
        exact List.mem_cons_self
      obtain ⟨hother, hnamed⟩ := hreached receiver hfirst
      split
      · simp [hother]
      · next hword => simp [hnamed hword]

/-! ## The run -/

section Runs

open TrafficTasks

variable {scenario : Models.Scenario} {hardwareIds : Dict String Nat}
  {buildMetadata : BuildMetadata} {settleSeconds : Option ℚ} {failedReceptionSampler : Bool}

/-- The flows of a request that passed its validation have distinct names. -/
theorem flowNames_nodup {request : TrafficRunRequest} (h : request.WellFormed) :
    (request.schedulingFlows.map (·.name)).Nodup := by
  unfold TrafficRunRequest.schedulingFlows
  split
  · exact List.nodup_singleton _
  · have hvalid := h.valid
    unfold TrafficRunRequest.validateRequest at hvalid
    split at hvalid
    · cases hvalid
    · split at hvalid
      · cases hvalid
      · split at hvalid
        · cases hvalid
        · next hnames => exact not_not.mp hnames

/-- Whatever the controller freezes, the summaries of its flows add up to it, and every
message is counted in one flow. -/
theorem flows_add_up {pb : Protobuf} {s : TrafficTasks}
    (hrun : Run (step pb) (Asks fun request _ => request.WellFormed)
      (.new scenario hardwareIds buildMetadata settleSeconds failedReceptionSampler) s)
    {result : TrafficRunResult} (hresult : result ∈ s.controller.frozenResults) :
    ∃ summaries, summarizeFlows result = .ok summaries ∧
      (summaries.items.map (·.2.requested)).sum = result.requested ∧
      (summaries.items.map (·.2.submitted)).sum = result.submitted ∧
      (summaries.items.map (·.2.submissionFailed)).sum = result.submissionFailed ∧
      (summaries.items.map (·.2.transmitted)).sum = result.transmitted ∧
      (summaries.items.map (·.2.delivered)).sum = result.delivered ∧
      (summaries.items.map (·.2.acknowledged)).sum =
        s.controller.accumulators.acknowledgments ∧
      ∀ message ∈ result.generatedMessages,
        ∃! name, name ∈ summaries.keys ∧ message ∈ messagesOf result.generatedMessages name := by
  obtain ⟨hsound, hserves, hhomed⟩ := homed_of_run pb hrun
  have hmirrors := hsound.structured.controlled.mirrored result hresult
  have hwell : result.request.WellFormed := (hserves _ _ hmirrors.identity).2
  have hkind : s.controller.view.kind = some result.request.kind := by
    unfold View.kind
    rw [hmirrors.identity]
    rfl
  have hledger := hsound.ledgered result.request.kind fun actual hactual =>
    (Option.some.inj (hkind.symm.trans hactual)).symm
  have hmakes : ∀ message ∈ result.generatedMessages,
      Makes result.request message.origin := by
    intro message hmessage
    rw [hmirrors.messages] at hmessage
    exact hhomed _ _ hmirrors.identity _ (List.mem_map_of_mem hmessage)
  have hdelivered : result.generatedMessages.countP isDelivered =
      result.generatedMessages.countP (!·.deliveredTo.isEmpty) := by
    refine List.countP_congr fun message hmessage => ?_
    have hmessage' := hmirrors.messages ▸ hmessage
    rw [isDelivered_eq (hmakes message hmessage) (hledger.sound message hmessage')]
  have hdistinct := flowNames_nodup hwell
  obtain ⟨summaries, hok, hkeys, hcounted⟩ := summarizeFlows_ok hdistinct
  rw [← hkeys] at hdistinct
  have hcovered : ∀ message ∈ result.generatedMessages, message.flow ∈ summaries.keys := by
    intro message hmessage
    rw [hkeys]
    exact (hmakes message hmessage).flow
  have hsum : ∀ (count : FlowSummary → Nat) (p : GeneratedMessage → Bool),
      (∀ item ∈ summaries.items,
        count item.2 = (messagesOf result.generatedMessages item.1).countP p) →
      (summaries.items.map fun item => count item.2).sum =
        result.generatedMessages.countP p := by
    intro count p hcounts
    rw [List.map_congr_left hcounts]
    have := sum_countP_filter_key hdistinct hcovered p
    rwa [Dict.keys, List.map_map] at this
  refine ⟨summaries, hok, ?_, ?_, ?_, ?_, ?_, ?_, ?_⟩
  · rw [hsum _ _ fun item hitem => (hcounted item hitem).requested, hmirrors.requested,
      hledger.generated, hmirrors.messages, List.countP_true]
  · rw [hsum _ _ fun item hitem => (hcounted item hitem).submitted, hmirrors.submitted,
      hledger.submitted, hmirrors.messages]
  · rw [hsum _ _ fun item hitem => (hcounted item hitem).submissionFailed,
      hmirrors.submissionFailed, hledger.submissionFailed, hmirrors.messages]
  · rw [hsum _ _ fun item hitem => (hcounted item hitem).transmitted, hmirrors.transmitted,
      hledger.transmitted, hmirrors.messages]
  · rw [hsum _ _ fun item hitem => (hcounted item hitem).delivered, hdelivered,
      hmirrors.delivered, hledger.delivered, hmirrors.messages]
  · rw [hsum _ _ fun item hitem => (hcounted item hitem).acknowledged, hmirrors.messages]
    exact hledger.acknowledged.symm
  · intro message hmessage
    refine ⟨message.flow, ⟨hcovered message hmessage, ?_⟩, ?_⟩
    · exact List.mem_filter.mpr ⟨hmessage, decide_eq_true rfl⟩
    · rintro name ⟨_, hmember⟩
      exact (of_decide_eq_true (List.mem_filter.mp hmember).2).symm

/-- The direct message between the two nodes is delivered, and the run is stopped. -/
def deliveredThenStopped : List Action :=
  deliveredMessageRun ++
    [.call pairMoment .stop, .cancelled, .resume 0 pairMoment .runTaskDone,
      .resume 0 pairMoment (.finish .computed), .resume 0 pairMoment (.finish .persisted)]

/-- The flow of the stopped run is the whole run. -/
theorem delivered_message_adds_up :
    ∃ s result summaries, exec (step pairProtobuf) deliveredThenStopped pairTasks = some s ∧
      result ∈ s.controller.frozenResults ∧ summarizeFlows result = .ok summaries ∧
      (summaries.items.map (·.2.delivered)).sum = result.delivered ∧ result.delivered = 1 := by
  have hstate : ((exec (step pairProtobuf) deliveredThenStopped pairTasks).bind fun s =>
      s.controller.frozenResult.map (·.delivered)) = some 1 := by
    decide +kernel
  have hasks : Conforms (step pairProtobuf) (Asks fun request _ => request.WellFormed)
      deliveredThenStopped pairTasks := by
    decide +kernel
  obtain ⟨s, hexec, hstate⟩ := Option.bind_eq_some_iff.mp hstate
  obtain ⟨result, hfrozen, hdelivered⟩ := Option.map_eq_some_iff.mp hstate
  have hresult : result ∈ s.controller.frozenResults := List.mem_of_mem_head? hfrozen
  obtain ⟨summaries, hok, _, _, _, _, hsum, _⟩ := flows_add_up (.of_exec hexec hasks) hresult
  exact ⟨s, result, summaries, hexec, hresult, hok, hsum, hdelivered⟩

end Runs

end MeshtasticLab.Experiments

/-
  Traffic/Request.lean --- what a traffic run is asked to do.

  Embeds the request models of `backend/app/traffic/controller.py`
  (`TrafficFlow`, `TrafficRunRequest` with its validator, `scheduling_flows`) and
  the checks and bounds that `start` takes from a request.  Decimal and
  floating-point arithmetic is read as exact.
-/
import MeshtasticLab.Models.Scenario
import Mathlib.Data.Rat.Floor
import Mathlib.Data.String.Basic

set_option autoImplicit false

namespace MeshtasticLab.Traffic

open MeshtasticLab.Foundation MeshtasticLab.Models

/-- `TrafficKind`. -/
inductive TrafficKind where
  | broadcastText
  | directText
  deriving DecidableEq, Repr

/-- `DestinationStrategy`. -/
inductive DestinationStrategy where
  | fixed
  | roundRobin
  | deterministicRandom
  deriving DecidableEq, Repr

/-- `SourceTiming`. -/
inductive SourceTiming where
  | aligned
  | evenlyStaggered
  | deterministicJitter
  deriving DecidableEq, Repr

/-- `TrafficFlow`, with the defaults of the source. -/
structure TrafficFlow where
  name : String
  sourceNodes : List String
  destinationStrategy : DestinationStrategy := .fixed
  fixedDestination : Option String := none
  messagesPerMinute : ℚ := 6
  sourceTiming : SourceTiming := .aligned
  deriving DecidableEq, Repr

/-- A character of a flow name after the first. -/
def isFlowNameChar (c : Char) : Bool :=
  ('a' ≤ c && c ≤ 'z') || ('0' ≤ c && c ≤ '9') || c = '-'

/-- The pattern of flow names. -/
def isFlowName (name : String) : Bool :=
  match name.toList with
  | [] => false
  | first :: rest => isFlowNameChar first && first ≠ '-' && rest.all isFlowNameChar &&
      rest.length ≤ 31

/-- What the types of its fields say of every flow. -/
structure TrafficFlow.WellFormed (flow : TrafficFlow) : Prop where
  name : isFlowName flow.name = true
  sourceNodes : 1 ≤ flow.sourceNodes.length ∧ flow.sourceNodes.length ≤ 10
  messagesPerMinute : 0 < flow.messagesPerMinute ∧ flow.messagesPerMinute ≤ 600

instance (flow : TrafficFlow) : Decidable flow.WellFormed :=
  decidable_of_iff (isFlowName flow.name = true ∧
      (1 ≤ flow.sourceNodes.length ∧ flow.sourceNodes.length ≤ 10) ∧
      (0 < flow.messagesPerMinute ∧ flow.messagesPerMinute ≤ 600))
    ⟨fun ⟨ha, hb, hc⟩ => ⟨ha, hb, hc⟩, fun ⟨ha, hb, hc⟩ => ⟨ha, hb, hc⟩⟩

/-- `TrafficRunRequest`, with the defaults of the source. -/
structure TrafficRunRequest where
  kind : TrafficKind := .broadcastText
  sourceNodes : List String := []
  destinationStrategy : DestinationStrategy := .fixed
  fixedDestination : Option String := none
  messagesPerMinute : ℚ := 6
  payloadBytes : Nat := 64
  durationSeconds : ℚ := 10
  acknowledgmentRequested : Bool := true
  sourceTiming : SourceTiming := .aligned
  flows : List TrafficFlow := []
  seed : Int := 1
  deriving DecidableEq, Repr

/-- `sorted(set(names))`. -/
def sortedNames (names : List String) : List String :=
  names.dedup.mergeSort fun a b => decide (a ≤ b)

/-- `repr` of a name: in double quotes when it holds a single quote and no double one. -/
def reprName (name : String) : String :=
  let single := Char.ofNat 39
  let double := Char.ofNat 34
  let backslash := Char.ofNat 92
  let quote := if single ∈ name.toList ∧ double ∉ name.toList then double else single
  String.ofList ([quote] ++
    (name.toList.flatMap fun c => if c = quote ∨ c = backslash then [backslash, c] else [c]) ++
    [quote])

/-- How an f-string renders a list of names. -/
def renderNames (names : List String) : String :=
  "[" ++ String.intercalate ", " (names.map reprName) ++ "]"

namespace TrafficRunRequest

/-- The combined rate of each source over all flows. -/
def sourceRates (request : TrafficRunRequest) : Dict String ℚ :=
  (request.flows.flatMap fun flow =>
      flow.sourceNodes.map fun source => (source, flow.messagesPerMinute)).foldl
    (fun rates entry => rates.set entry.1 ((rates.get? entry.1).getD 0 + entry.2)) ∅

/-- The flows whose fixed destination the validator looks at, by name. -/
def fixedDestinations (request : TrafficRunRequest) :
    List (String × DestinationStrategy × Option String) :=
  if request.flows.isEmpty then
    [("default", request.destinationStrategy, request.fixedDestination)]
  else
    request.flows.map fun flow => (flow.name, flow.destinationStrategy, flow.fixedDestination)

/-- `TrafficRunRequest.validate_request`. -/
def validateRequest (request : TrafficRunRequest) : Except String Unit :=
  if ¬request.flows.isEmpty ∧ ¬request.sourceNodes.isEmpty then
    .error "use either flows or sourceNodes, not both"
  else if request.flows.isEmpty ∧ request.sourceNodes.isEmpty then
    .error "at least one traffic source or flow is required"
  else if ¬(request.flows.map (·.name)).Nodup then
    .error "traffic flow names must be unique"
  else
    let overloadedSources := sortedNames
      ((request.sourceRates.items.filter fun entry => 600 < entry.2).map Prod.fst)
    match overloadedSources with
    | first :: _ =>
        .error ("combined traffic flow rate exceeds 600 messages per minute for source: " ++
          first)
    | [] =>
        let missing := request.fixedDestinations.filter fun entry =>
          entry.2.1 = .fixed ∧ entry.2.2 = none
        match request.kind, missing with
        | .directText, entry :: _ =>
            .error ("fixedDestination is required for fixed direct traffic flow: " ++ entry.1)
        | _, _ => .ok ()

/-- What the types of its fields and its validator say of every request. -/
structure WellFormed (request : TrafficRunRequest) : Prop where
  sourceNodes : request.sourceNodes.length ≤ 10
  messagesPerMinute : 0 < request.messagesPerMinute ∧ request.messagesPerMinute ≤ 600
  payloadBytes : 16 ≤ request.payloadBytes ∧ request.payloadBytes ≤ 233
  durationSeconds : 0 < request.durationSeconds ∧ request.durationSeconds ≤ 3600
  flows : request.flows.length ≤ 10
  flow : ∀ flow ∈ request.flows, flow.WellFormed
  valid : request.validateRequest = .ok ()

instance (request : TrafficRunRequest) : Decidable request.WellFormed :=
  decidable_of_iff (request.sourceNodes.length ≤ 10 ∧
      (0 < request.messagesPerMinute ∧ request.messagesPerMinute ≤ 600) ∧
      (16 ≤ request.payloadBytes ∧ request.payloadBytes ≤ 233) ∧
      (0 < request.durationSeconds ∧ request.durationSeconds ≤ 3600) ∧
      request.flows.length ≤ 10 ∧ (∀ flow ∈ request.flows, flow.WellFormed) ∧
      request.validateRequest = .ok ())
    ⟨fun ⟨ha, hb, hc, hd, he, hf, hg⟩ => ⟨ha, hb, hc, hd, he, hf, hg⟩,
      fun ⟨ha, hb, hc, hd, he, hf, hg⟩ => ⟨ha, hb, hc, hd, he, hf, hg⟩⟩

/-- `TrafficRunRequest.scheduling_flows`. -/
def schedulingFlows (request : TrafficRunRequest) : List TrafficFlow :=
  if request.flows.isEmpty then
    [{ name := "default"
       sourceNodes := request.sourceNodes
       destinationStrategy := request.destinationStrategy
       fixedDestination := request.fixedDestination
       messagesPerMinute := request.messagesPerMinute
       sourceTiming := request.sourceTiming }]
  else request.flows

/-- What a request says of the flows that are scheduled. -/
theorem WellFormed.schedulingFlows {request : TrafficRunRequest} (h : request.WellFormed) :
    request.schedulingFlows ≠ [] ∧ ∀ flow ∈ request.schedulingFlows,
      flow.sourceNodes ≠ [] ∧ 0 < flow.messagesPerMinute := by
  unfold TrafficRunRequest.schedulingFlows
  split
  · next hempty =>
      have hsources : request.sourceNodes ≠ [] := by
        have hvalid := h.valid
        unfold validateRequest at hvalid
        intro hnone
        simp [hempty, hnone] at hvalid
      refine ⟨by simp, ?_⟩
      intro flow hflow
      rw [List.mem_singleton.mp hflow]
      exact ⟨hsources, h.messagesPerMinute.1⟩
  · next hflows =>
      refine ⟨fun hnil => hflows (by simp [hnil]), ?_⟩
      intro flow hflow
      have hwell := h.flow flow hflow
      exact ⟨List.ne_nil_of_length_pos hwell.sourceNodes.1, hwell.messagesPerMinute.1⟩

/-- `_messages_per_source`. -/
def messagesPerSource (durationSeconds messagesPerMinute : ℚ) : Nat :=
  max 1 ⌈durationSeconds * messagesPerMinute / 60⌉.toNat

/-- `TrafficController._messages_per_flow`. -/
def messagesPerFlow (request : TrafficRunRequest) (flow : TrafficFlow) : Nat :=
  messagesPerSource request.durationSeconds flow.messagesPerMinute

/-- `TrafficController._maximum_sequence`. -/
def maximumSequence (request : TrafficRunRequest) : Nat :=
  (request.schedulingFlows.map fun flow =>
    flow.sourceNodes.length * request.messagesPerFlow flow).sum

/-- The checks of `_validate_request_nodes` on one flow. -/
def validateFlowNodes (request : TrafficRunRequest) (known : List String)
    (flow : TrafficFlow) : Except String Unit :=
  let unknownSources := flow.sourceNodes.filter (· ∉ known)
  if ¬unknownSources.isEmpty then
    .error (s!"unknown traffic sources in flow {flow.name}: " ++
      renderNames (sortedNames unknownSources))
  else if ¬flow.sourceNodes.Nodup then
    .error s!"traffic source nodes in flow {flow.name} must be unique"
  else
    match request.kind, flow.destinationStrategy, flow.fixedDestination with
    | .directText, .fixed, some destination =>
        if destination ∉ known then
          .error s!"unknown fixed destination in flow {flow.name}: {destination}"
        else if destination ∈ flow.sourceNodes then
          .error ("direct traffic destination cannot be one of its source nodes " ++
            s!"in flow {flow.name}")
        else .ok ()
    | _, _, _ => .ok ()

/-- `TrafficController._validate_request_nodes` on the flows of a request. -/
def validateRequestNodes (request : TrafficRunRequest) (known : List String) :
    List TrafficFlow → Except String Unit
  | [] => .ok ()
  | flow :: rest =>
      match request.validateFlowNodes known flow with
      | .error message => .error message
      | .ok () => request.validateRequestNodes known rest

/-- A flow of a request that passed the check passed its own. -/
theorem validateFlowNodes_of_mem {request : TrafficRunRequest} {known : List String}
    {flows : List TrafficFlow} (h : request.validateRequestNodes known flows = .ok ())
    {flow : TrafficFlow} (hflow : flow ∈ flows) :
    request.validateFlowNodes known flow = .ok () := by
  induction flows with
  | nil => cases hflow
  | cons first rest ih =>
      unfold validateRequestNodes at h
      split at h
      · cases h
      · next hfirst =>
          rcases List.mem_cons.mp hflow with rfl | hrest
          · exact hfirst
          · exact ih h hrest

/-- No flow of a request that passed the check names a source twice. -/
theorem sourceNodes_nodup {request : TrafficRunRequest} {known : List String}
    {flow : TrafficFlow} (h : request.validateFlowNodes known flow = .ok ()) :
    flow.sourceNodes.Nodup := by
  unfold validateFlowNodes at h
  dsimp only at h
  split at h
  · cases h
  · split at h
    · cases h
    · next hnodup => exact not_not.mp hnodup

/-- Every source of a request that passed the check is a node. -/
theorem source_known {request : TrafficRunRequest} {known : List String}
    {flows : List TrafficFlow} (h : request.validateRequestNodes known flows = .ok ())
    {flow : TrafficFlow} (hflow : flow ∈ flows) {source : String}
    (hsource : source ∈ flow.sourceNodes) : source ∈ known := by
  have hfirst := validateFlowNodes_of_mem h hflow
  unfold validateFlowNodes at hfirst
  by_contra hunknown
  rw [if_pos] at hfirst
  · cases hfirst
  · rw [List.isEmpty_iff, List.filter_eq_nil_iff]
    intro hnone
    exact hnone source hsource (decide_eq_true hunknown)

end TrafficRunRequest

end MeshtasticLab.Traffic

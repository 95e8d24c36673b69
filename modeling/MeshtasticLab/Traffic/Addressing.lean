/-
  Traffic/Addressing.lean --- the packets of a run and whom they are for.

  WHAT THIS FILE IS FOR

  A destination travels as a string until `_submit` turns it into an address, and
  the word for everybody shares its namespace with the ids of the nodes.  The packets
  handed to the gateway are kept in a history.  Each is addressed as its destination
  says, and a destination is chosen as the request says; the two together address a
  direct message to its node unless that node bears the word for everybody as its id.
-/
import MeshtasticLab.Traffic.MergedSchedule
import MeshtasticLab.Traffic.Outbox

set_option autoImplicit false

namespace MeshtasticLab.Traffic

open MeshtasticLab.Foundation MeshtasticLab.Gateway MeshtasticLab.Metrics MeshtasticLab.Models
open TrafficController TrafficTasks

/-- The address of everybody. -/
def broadcastAddress : Nat := 0xFFFFFFFF

/-! ## Destinations -/

/-- The destinations that a flow of direct messages can choose among some nodes. -/
def TrafficFlow.destinations (flow : TrafficFlow) (nodeIds : List String) : List String :=
  match flow.destinationStrategy with
  | .fixed => flow.fixedDestination.toList
  | .roundRobin | .deterministicRandom =>
      flow.sourceNodes.flatMap fun source => nodeIds.filter (· ≠ source)

/-- The nodes that the direct messages of a request can be for. -/
def TrafficRunRequest.destinations (request : TrafficRunRequest) (nodeIds : List String) :
    List String :=
  match request.kind with
  | .broadcastText => []
  | .directText => request.schedulingFlows.flatMap (·.destinations nodeIds)

/-- A fixed destination of a request that passed the check is a node, and no source of
its flow. -/
theorem TrafficRunRequest.fixed_known {request : TrafficRunRequest} {known : List String}
    {flow : TrafficFlow} (h : request.validateFlowNodes known flow = .ok ())
    (hkind : request.kind = .directText) (hfixed : flow.destinationStrategy = .fixed)
    {destination : String} (hdestination : flow.fixedDestination = some destination) :
    destination ∈ known ∧ destination ∉ flow.sourceNodes := by
  unfold validateFlowNodes at h
  rw [hkind, hfixed, hdestination] at h
  dsimp only at h
  split at h
  · cases h
  · split at h
    · cases h
    · split at h
      · cases h
      · next hknown =>
          split at h
          · cases h
          · next hsource => exact ⟨not_not.mp hknown, hsource⟩

/-- A direct message is for a node of the scenario other than its source, one of those
that its flow can choose. -/
theorem chooseDestination_direct {c : TrafficController} {request : TrafficRunRequest}
    {flow : TrafficFlow} {source destination : String} {pick : Nat}
    (hvalid : request.validateRequestNodes c.runScenario.nodeIds request.schedulingFlows =
      .ok ())
    (hflow : flow ∈ request.schedulingFlows) (hsource : source ∈ flow.sourceNodes)
    (hkind : request.kind = .directText)
    (hchoose : c.chooseDestination request.kind flow.destinationStrategy
      flow.fixedDestination source pick = .ok destination) :
    destination ∈ c.runScenario.nodeIds ∧ destination ≠ source ∧
      destination ∈ request.destinations c.runScenario.nodeIds := by
  have hmember : destination ∈ flow.destinations c.runScenario.nodeIds →
      destination ∈ request.destinations c.runScenario.nodeIds := by
    intro h
    unfold TrafficRunRequest.destinations
    rw [hkind]
    exact List.mem_flatMap.mpr ⟨flow, hflow, h⟩
  have hcandidate : destination ∈ c.runScenario.nodeIds.filter (· ≠ source) →
      flow.destinationStrategy ≠ .fixed →
      destination ∈ c.runScenario.nodeIds ∧ destination ≠ source ∧
        destination ∈ flow.destinations c.runScenario.nodeIds := by
    intro h hstrategy
    obtain ⟨hnode, hne⟩ := List.mem_filter.mp h
    refine ⟨hnode, by simpa using hne, ?_⟩
    have hall : destination ∈
        flow.sourceNodes.flatMap fun source => c.runScenario.nodeIds.filter (· ≠ source) :=
      List.mem_flatMap.mpr ⟨source, hsource, h⟩
    unfold TrafficFlow.destinations
    cases hcase : flow.destinationStrategy with
    | fixed => exact absurd hcase hstrategy
    | roundRobin => exact hall
    | deterministicRandom => exact hall
  unfold chooseDestination at hchoose
  rw [hkind] at hchoose
  dsimp only at hchoose
  cases hstrategy : flow.destinationStrategy with
  | fixed =>
      rw [hstrategy] at hchoose
      cases hfixed : flow.fixedDestination with
      | none =>
          rw [hfixed] at hchoose
          cases hchoose
      | some named =>
          rw [hfixed] at hchoose
          cases hchoose
          have hchecked := TrafficRunRequest.validateFlowNodes_of_mem hvalid hflow
          obtain ⟨hknown, hother⟩ :=
            TrafficRunRequest.fixed_known hchecked hkind hstrategy hfixed
          refine ⟨hknown, fun heq => hother (heq ▸ hsource), hmember ?_⟩
          unfold TrafficFlow.destinations
          rw [hstrategy, hfixed]
          exact List.mem_singleton.mpr rfl
  | roundRobin =>
      rw [hstrategy] at hchoose
      dsimp only at hchoose
      split at hchoose
      · cases hchoose
      · next hget =>
          cases hchoose
          obtain ⟨hnode, hne, hdestination⟩ :=
            hcandidate (List.mem_of_getElem? hget) (by simp [hstrategy])
          exact ⟨hnode, hne, hmember hdestination⟩
  | deterministicRandom =>
      rw [hstrategy] at hchoose
      dsimp only at hchoose
      split at hchoose
      · cases hchoose
      · next hget =>
          cases hchoose
          obtain ⟨hnode, hne, hdestination⟩ :=
            hcandidate (List.mem_of_getElem? hget) (by simp [hstrategy])
          exact ⟨hnode, hne, hmember hdestination⟩

/-- The packet of `_submit` is addressed as its destination says. -/
theorem submit_to {pb : Protobuf} {c d : TrafficController} {m : Moment}
    {source destination name : String} {draws : List Nat} {ref : Nat} {packet : MeshPacket}
    (hsubmit : c.submit pb m source destination draws name =
      some (d, .ok (some (ref, packet)))) :
    if destination = "broadcast" then packet.to_ = broadcastAddress
    else c.hardwareIds.get? destination = some packet.to_ := by
  unfold submit at hsubmit
  split at hsubmit
  · cases hsubmit
  · dsimp only at hsubmit
    split at hsubmit
    · cases hsubmit
    · split at hsubmit
      · cases hsubmit
      · split at hsubmit
        · cases hsubmit
        · cases hsubmit
        · next hto _ =>
            split at hsubmit
            · cases hsubmit
            · cases hsubmit
              split
              · next hword =>
                  rw [if_pos hword] at hto
                  exact (Option.some.inj hto).symm
              · next hword =>
                  rw [if_neg hword] at hto
                  exact hto

/-! ## Dispatches -/

/-- A packet handed to `send_to_radio`, with the run that it belongs to and what `_submit`
was called with. -/
structure Dispatch where
  request : TrafficRunRequest
  nodeIds : List String
  source : String
  destination : String
  packet : MeshPacket

namespace Dispatch

/-- The packet is addressed to its destination. -/
structure Addressed (hardwareIds : Dict String Nat) (d : Dispatch) : Prop where
  direct : d.request.kind = .directText →
    d.destination ∈ d.nodeIds ∧ d.destination ≠ d.source ∧
      hardwareIds.get? d.destination = some d.packet.to_
  broadcast : d.request.kind = .broadcastText → d.packet.to_ = broadcastAddress
  only : d.packet.to_ = broadcastAddress → d.request.kind = .broadcastText

/-- The destination was chosen as the request says, and the packet is addressed as the
destination says. -/
structure Made (hardwareIds : Dict String Nat) (d : Dispatch) : Prop where
  direct : d.request.kind = .directText →
    d.destination ∈ d.nodeIds ∧ d.destination ≠ d.source ∧
      d.destination ∈ d.request.destinations d.nodeIds
  broadcast : d.request.kind = .broadcastText → d.destination = "broadcast"
  to_ : if d.destination = "broadcast" then d.packet.to_ = broadcastAddress
    else hardwareIds.get? d.destination = some d.packet.to_

/-- No node has the address of everybody. -/
def Unicast (hardwareIds : Dict String Nat) : Prop :=
  ∀ item ∈ hardwareIds.items, item.2 ≠ broadcastAddress

instance (hardwareIds : Dict String Nat) : Decidable (Unicast hardwareIds) :=
  inferInstanceAs (Decidable (∀ item ∈ hardwareIds.items, item.2 ≠ broadcastAddress))

theorem Unicast.ne {hardwareIds : Dict String Nat} (h : Unicast hardwareIds)
    {nodeId : String} {address : Nat} (hget : hardwareIds.get? nodeId = some address) :
    address ≠ broadcastAddress :=
  h _ (Dict.get?_eq_some.mp hget)

/-- Only a direct message for a node that bears the word for everybody goes astray. -/
theorem Made.addressed_iff {hardwareIds : Dict String Nat} {d : Dispatch}
    (h : d.Made hardwareIds) (hunicast : Unicast hardwareIds) :
    d.Addressed hardwareIds ↔
      ¬(d.request.kind = .directText ∧ d.destination = "broadcast") := by
  have hto := h.to_
  constructor
  · rintro haddressed ⟨hdirect, hword⟩
    rw [if_pos hword] at hto
    exact hunicast.ne (haddressed.direct hdirect).2.2 hto
  · intro hnot
    have hplain : d.request.kind = .directText →
        hardwareIds.get? d.destination = some d.packet.to_ := by
      intro hdirect
      rwa [if_neg fun hword => hnot ⟨hdirect, hword⟩] at hto
    refine ⟨?_, ?_, ?_⟩
    · intro hdirect
      obtain ⟨hnode, hother, _⟩ := h.direct hdirect
      exact ⟨hnode, hother, hplain hdirect⟩
    · intro hbroadcast
      rwa [if_pos (h.broadcast hbroadcast)] at hto
    · intro haddress
      cases hkind : d.request.kind with
      | broadcastText => rfl
      | directText => exact absurd haddress (hunicast.ne (hplain hkind))

end Dispatch

namespace TrafficTasks

variable {s t : TrafficTasks}

/-- The packet that a step hands to `send_to_radio`. -/
def dispatch (pb : Protobuf) (s : TrafficTasks) : Action → Option Dispatch
  | .run m (.submit flow source pick draws) => do
      let run ← s.controller.current
      let (source, destination, name) ← s.submission flow source pick
      match ← s.controller.submit pb m source destination draws name with
      | (_, .ok (some (_, packet))) =>
          some
            { request := run.request
              nodeIds := s.controller.runScenario.nodeIds
              source := source
              destination := destination
              packet := packet }
      | _ => none
  | _ => none

/-- The history grows by the packet of each step. -/
def noteDispatch (pb : Protobuf) (h : List Dispatch) (s : TrafficTasks) (a : Action)
    (_ : TrafficTasks) : List Dispatch :=
  h ++ (dispatch pb s a).toList

/-- The run that is current was accepted, and its request and nodes have a property. -/
def Serves (P : TrafficRunRequest → List String → Prop) (s : TrafficTasks) : Prop :=
  ∀ runId request, s.controller.frame.request = some (runId, request) →
    request.validateRequestNodes s.controller.runScenario.nodeIds request.schedulingFlows =
        .ok () ∧
      P request s.controller.runScenario.nodeIds

/-- The request of a call of `start` and the nodes that it is made for. -/
def asked (s : TrafficTasks) : Action → Option (TrafficRunRequest × List String)
  | .start _ _ request scenarioSnapshot _ =>
      some (request, (scenarioSnapshot.getD s.controller.scenario).nodeIds)
  | _ => none

/-- What is asked for has a property. -/
def Asks (P : TrafficRunRequest → List String → Prop) (s : TrafficTasks) (a : Action) : Prop :=
  ∀ pair ∈ s.asked a, P pair.1 pair.2

instance (P : TrafficRunRequest → List String → Prop) [∀ q n, Decidable (P q n)]
    (s : TrafficTasks) (a : Action) : Decidable (Asks P s a) :=
  inferInstanceAs (Decidable (∀ pair ∈ s.asked a, P pair.1 pair.2))

/-- What every accepted request has, the current run has. -/
theorem Serves.step {P : TrafficRunRequest → List String → Prop} (pb : Protobuf)
    (hserves : Serves P s) (hstructured : Structured s) {a : Action} (hasks : Asks P s a)
    (hstep : step pb s a = some t) : Serves P t := by
  cases hstarts : a.starts with
  | false =>
      obtain ⟨hrequest, hscenario⟩ := step_identity pb hstructured hstarts hstep
      unfold Serves
      rw [hrequest, hscenario]
      exact hserves
  | true =>
      cases a with
      | start m runId request scenarioSnapshot baseline =>
          unfold TrafficTasks.step at hstep
          dsimp only at hstep
          split at hstep
          · cases hstep
            unfold started
            split
            · next c error hstart =>
                -- a call that raises keeps the request and the scenario of the run
                rcases start_cases False hstart with ⟨_, _, hbooks, _⟩ | ⟨hok, _⟩
                · have hrequest : c.frame.request = s.controller.frame.request :=
                    congrArg Frame.request hbooks.frame
                  have hscenario : c.runScenario = s.controller.runScenario :=
                    congrArg Frame.runScenario hbooks.frame
                  unfold Serves withController
                  rw [hrequest, hscenario]
                  exact hserves
                · cases hok
            · next c started hstart =>
                obtain ⟨hvalid, _, hidentity, _, hscenario⟩ := ScheduledTasks.start_accepts hstart
                intro runId' request' hrequest
                cases hidentity.symm.trans hrequest
                rw [hscenario]
                exact ⟨hvalid, hasks _ rfl⟩
          · cases hstep
      | _ => cases hstarts

/-- A packet that a step hands to the gateway is made of the current run. -/
theorem made_dispatch {P : TrafficRunRequest → List String → Prop} (pb : Protobuf)
    (hserves : Serves P s) (hstructured : Structured s) {a : Action}
    (hstep : step pb s a = some t) {d : Dispatch} (hdispatch : dispatch pb s a = some d) :
    d.Made s.controller.hardwareIds ∧ P d.request d.nodeIds := by
  unfold dispatch at hdispatch
  split at hdispatch
  · next m flow source pick draws =>
      have hactive : s.runTask ≠ .done := by
        intro hdone
        unfold TrafficTasks.step at hstep
        rw [hdone] at hstep
        dsimp only at hstep
        split at hstep <;> cases hstep
      obtain ⟨run, hrun, hdispatch⟩ := Option.bind_eq_some_iff.mp hdispatch
      obtain ⟨⟨from_, destination, name⟩, hcall, hdispatch⟩ :=
        Option.bind_eq_some_iff.mp hdispatch
      obtain ⟨⟨c, outcome⟩, hsubmit, hdispatch⟩ := Option.bind_eq_some_iff.mp hdispatch
      obtain ⟨hvalid, hproperty⟩ :=
        hserves _ _ (hstructured.request_of_current hactive hrun)
      obtain ⟨run', entry, hrun', hentry, hfrom, hchoose⟩ := submission_eq_some hcall
      cases hrun.symm.trans hrun'
      split at hdispatch
      · next sent ref packet hsent =>
          cases hsent
          cases hdispatch
          refine ⟨⟨?_, ?_, submit_to hsubmit⟩, hproperty⟩
          · intro hkind
            exact chooseDestination_direct hvalid (List.mem_of_getElem? hentry)
              (List.mem_of_getElem? hfrom) hkind hchoose
          · intro hkind
            have hkind : run.request.kind = .broadcastText := hkind
            rw [hkind] at hchoose
            cases hchoose
            rfl
      · cases hdispatch
  · cases hdispatch

/-- What holds of a run and the packets that it has handed to the gateway. -/
structure Dispatching (P : TrafficRunRequest → List String → Prop)
    (hardwareIds : Dict String Nat) (s : TrafficTasks × List Dispatch) : Prop where
  sound : Sound s.1
  ids : s.1.controller.hardwareIds = hardwareIds
  serves : Serves P s.1
  made : ∀ d ∈ s.2, d.Made hardwareIds ∧ P d.request d.nodeIds

theorem Dispatching.step {P : TrafficRunRequest → List String → Prop} (pb : Protobuf)
    {hardwareIds : Dict String Nat} {s t : TrafficTasks × List Dispatch}
    (h : Dispatching P hardwareIds s) {a : Action} (hasks : Asks P s.1 a)
    (hstep : recorded (step pb) (noteDispatch pb) s a = some t) :
    Dispatching P hardwareIds t := by
  obtain ⟨hstep, hnote⟩ := recorded_eq_some.mp hstep
  refine ⟨h.sound.step pb hstep, ?_, h.serves.step pb h.sound.structured hasks hstep, ?_⟩
  · exact (appends_step pb h.sound.structured hstep).hardwareIds.trans h.ids
  · intro d hd
    rw [hnote] at hd
    rcases List.mem_append.mp hd with hold | hnew
    · exact h.made d hold
    · rw [← h.ids]
      exact made_dispatch pb h.serves h.sound.structured hstep (Option.mem_toList.mp hnew)

section Runs

variable {scenario : Scenario} {hardwareIds : Dict String Nat} {buildMetadata : BuildMetadata}
  {settleSeconds : Option ℚ} {failedReceptionSampler : Bool}

theorem dispatching_of_run {P : TrafficRunRequest → List String → Prop} (pb : Protobuf)
    {h : List Dispatch}
    (hrun : Run (recorded (step pb) (noteDispatch pb)) (fun s a => Asks P s.1 a)
      (.new scenario hardwareIds buildMetadata settleSeconds failedReceptionSampler, [])
      (s, h)) :
    Dispatching P hardwareIds (s, h) := by
  refine hrun.invariant (fun _ _ _ h hasks hstep => h.step pb hasks hstep) ?_
  refine ⟨(exact_new _ _ _ _ _).toSound, rfl, ?_, ?_⟩
  · intro runId request hrequest
    cases hrequest
  · intro d hd
    cases hd

/-- In every run a packet is addressed to its destination, unless it is a direct message
for a node that bears the word for everybody. -/
theorem addressed_iff_of_run (pb : Protobuf) (hunicast : Dispatch.Unicast hardwareIds)
    {h : List Dispatch}
    (hrun : Run (recorded (step pb) (noteDispatch pb)) Always
      (.new scenario hardwareIds buildMetadata settleSeconds failedReceptionSampler, [])
      (s, h)) :
    ∀ d ∈ h, d.Addressed hardwareIds ↔
      ¬(d.request.kind = .directText ∧ d.destination = "broadcast") := by
  intro d hd
  have hdispatching : Dispatching (fun _ _ => True) hardwareIds (s, h) :=
    dispatching_of_run pb (hrun.mono fun _ _ _ _ _ => trivial)
  exact (hdispatching.made d hd).1.addressed_iff hunicast

/-- No direct message of the request can be for a node that bears the word for
everybody. -/
def Unambiguous (request : TrafficRunRequest) (nodeIds : List String) : Prop :=
  "broadcast" ∉ request.destinations nodeIds

instance (request : TrafficRunRequest) (nodeIds : List String) :
    Decidable (Unambiguous request nodeIds) :=
  inferInstanceAs (Decidable (¬_))

/-- In a run whose requests are unambiguous every packet is addressed to its
destination. -/
theorem addressed_of_run (pb : Protobuf) (hunicast : Dispatch.Unicast hardwareIds)
    {h : List Dispatch}
    (hrun : Run (recorded (step pb) (noteDispatch pb)) (fun s a => Asks Unambiguous s.1 a)
      (.new scenario hardwareIds buildMetadata settleSeconds failedReceptionSampler, [])
      (s, h)) :
    ∀ d ∈ h, d.Addressed hardwareIds := by
  intro d hd
  obtain ⟨hmade, hunambiguous⟩ := (dispatching_of_run pb hrun).made d hd
  refine (hmade.addressed_iff hunicast).mpr ?_
  rintro ⟨hdirect, hword⟩
  exact hunambiguous (hword ▸ (hmade.direct hdirect).2.2)

end Runs

/-! ## A node that bears the word for everybody -/

section Namesake

/-- Two nodes, one of which bears the word for everybody as its id. -/
def namesakeScenario : Scenario where
  name := "namesake"
  nodeCount := 2
  nodes := [{ id := "node-1", apiPort := 45001 }, { id := "broadcast", apiPort := 45002 }]
  links :=
    [{ fromNode := "node-1", toNode := "broadcast" },
      { fromNode := "broadcast", toNode := "node-1" }]

def namesakeIds : Dict String Nat :=
  (∅ : Dict String Nat).update [("node-1", 1), ("broadcast", 2)]

/-- Direct messages from the first node to the second. -/
def namesakeRequest : TrafficRunRequest where
  kind := .directText
  sourceNodes := ["node-1"]
  fixedDestination := some "broadcast"

/-- A run up to its first message. -/
def namesakeRun : List Action :=
  [.start pairMoment "run" namesakeRequest none none, .run pairMoment .begun,
    .run pairMoment (.submit 0 0 0 [7])]

/-- The scenario and the request are valid, and the direct message goes to everybody. -/
theorem namesake_misaddressed :
    (∀ node ∈ namesakeScenario.nodes, node.WellFormed) ∧
      namesakeScenario.validateGraph = .ok () ∧
      (namesakeIds.items.map Prod.snd).Nodup ∧ Dispatch.Unicast namesakeIds ∧
      namesakeIds.keys = namesakeScenario.nodeIds ∧ namesakeRequest.WellFormed ∧
      ∃ s h, Run (recorded (step pairProtobuf) (noteDispatch pairProtobuf)) Always
          (.new namesakeScenario namesakeIds .unavailable none false, []) (s, h) ∧
        ∃ d ∈ h, d.request = namesakeRequest ∧ d.packet.to_ = broadcastAddress ∧
          ¬d.Addressed namesakeIds := by
  refine ⟨by decide, by decide, by decide, by decide, by decide, by decide +kernel, ?_⟩
  have hhistory : (exec (recorded (step pairProtobuf) (noteDispatch pairProtobuf)) namesakeRun
      (.new namesakeScenario namesakeIds .unavailable none false, [])).map (fun s =>
        s.2.map fun d => (d.request, d.packet.to_)) =
      some [(namesakeRequest, broadcastAddress)] := by
    decide +kernel
  obtain ⟨⟨s, h⟩, hexec, hhistory⟩ := Option.map_eq_some_iff.mp hhistory
  refine ⟨s, h, .of_exec hexec (conforms_always _ _), ?_⟩
  have hmember : (namesakeRequest, broadcastAddress) ∈
      h.map fun d => (d.request, d.packet.to_) := by
    rw [hhistory]
    exact List.mem_singleton.mpr rfl
  obtain ⟨d, hd, hpair⟩ := List.mem_map.mp hmember
  obtain ⟨hrequest, haddress⟩ := Prod.mk.inj hpair
  refine ⟨d, hd, hrequest, haddress, fun haddressed => ?_⟩
  have hkind : d.request.kind = .broadcastText := haddressed.only haddress
  rw [hrequest] at hkind
  cases hkind

/-- A direct message between nodes with other ids goes to its node. -/
theorem pair_addressed :
    ∃ s h, exec (recorded (step pairProtobuf) (noteDispatch pairProtobuf)) pairSubmission
        (pairTasks, []) = some (s, h) ∧
      ∀ d ∈ h, d.Addressed ((∅ : Dict String Nat).update [("node-1", 1), ("node-2", 2)]) := by
  have hsome : (exec (recorded (step pairProtobuf) (noteDispatch pairProtobuf)) pairSubmission
      (pairTasks, [])).isSome = true := by
    decide +kernel
  have hasks : Conforms (recorded (step pairProtobuf) (noteDispatch pairProtobuf))
      (fun s a => Asks Unambiguous s.1 a) pairSubmission (pairTasks, []) := by
    decide +kernel
  obtain ⟨⟨s, h⟩, hexec⟩ := Option.isSome_iff_exists.mp hsome
  exact ⟨s, h, hexec, addressed_of_run pairProtobuf (by decide) (.of_exec hexec hasks)⟩

end Namesake

end TrafficTasks

end MeshtasticLab.Traffic

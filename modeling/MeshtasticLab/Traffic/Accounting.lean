/-
  Traffic/Accounting.lean --- the accounts of a run in every reachable state.

  WHAT THIS FILE IS FOR

  `Sound` holds in every state of every run of the tasks, `Exact` in every state
  of a run whose messages from radios attribute what they reject.  From the latter
  come the accounts of the run: every counter is the count it stands for, every
  message is pending, submitted or failed, and a frozen result reports the counts.
-/
import MeshtasticLab.Traffic.Structure

set_option autoImplicit false

namespace MeshtasticLab.Traffic.TrafficTasks

open MeshtasticLab.Foundation MeshtasticLab.Gateway MeshtasticLab.Metrics MeshtasticLab.Models
open TrafficController

variable {s t : TrafficTasks}

/-! ## What holds in every reachable state -/

/-- What holds in every state of every run of the tasks. -/
structure Sound (s : TrafficTasks) : Prop where
  structured : Structured s
  held : Held s
  ledgered : s.controller.view.Ledgered

/-- What also holds when rejections are attributed to their submissions. -/
structure Exact (s : TrafficTasks) : Prop extends Sound s where
  admitted : s.controller.view.Admitted
  received : s.controller.view.Received

section Initial

variable (scenario : Scenario) (hardwareIds : Dict String Nat) (buildMetadata : BuildMetadata)
  (settleSeconds : Option ℚ) (failedReceptionSampler : Bool)

theorem exact_new :
    Exact (.new scenario hardwareIds buildMetadata settleSeconds failedReceptionSampler) where
  structured :=
    { controlled :=
        { agreement := agreement_empty
          settled := fun _ => rfl
          frozen := fun _ => Or.inr rfl
          active := fun _ => Or.inr rfl
          mirrored := by
            intro result hmember
            cases hmember
          planned := by
            intro runId request hrequest
            cases hrequest }
      run := trivial
      frozen := fun _ => rfl
      callers := by
        intro caller hmember
        cases hmember }
  held := by
    intro hdone
    cases hdone
  ledgered := fun _ _ => ledger_empty
  admitted :=
    { keyed := by
        intro key ref hpending
        cases hpending
      status := by
        intro ref message hget
        cases hget
      distinct := by
        intro i j a b ha
        cases ha
      reserved := by
        intro message hmember
        cases hmember }
  received :=
    { source := by
        intro message hmember
        cases hmember
      receivers := by
        intro message hmember
        cases hmember }

end Initial

/-- A call that is over holds no finalization. -/
theorem not_active_of_isOver {pc : CallerPc} (hover : CallerPc.isOver pc = true) :
    pc.active = false := by
  cases pc with
  | returned value => rfl
  | raised message => rfl
  | _ => cases hover

/-- No finalization is under way when a run starts. -/
theorem Started.done (h : Started s t) (hheld : Held s) :
    t.controller.finalizationDone = true := by
  rw [h.finalizationDone]
  by_contra hactive
  rcases hheld (by simpa using hactive) with hrun | ⟨caller, hmember, hcaller⟩
  · rw [h.isOver.1] at hrun
    cases hrun
  · rw [not_active_of_isOver (h.isOver.2 caller hmember)] at hcaller
    cases hcaller

/-- A run that has just started has nothing to account for. -/
theorem Started.exact (h : Started s t) (hheld : Held s) : Exact t := by
  have hdone := h.done hheld
  have hbegun := h.begun
  have hopen := not_closed_of_generating hbegun.phase
  have hmessages : t.controller.view.messages = [] := hbegun.messages
  have hpending : t.controller.view.pending = ∅ := hbegun.pending
  refine { structured := ?_, held := ?_, ledgered := ?_, admitted := ?_, received := ?_ }
  · refine ⟨⟨agreement_empty.congr hbegun.records, ?_, ?_, ?_, ?_, hbegun.planned⟩, ?_, ?_, ?_⟩
    · exact fun hclosed => absurd hclosed hopen
    · exact fun hne => absurd hbegun.frozen hne
    · intro hactive
      rw [hdone] at hactive
      cases hactive
    · intro result hmember
      rw [hbegun.frozen] at hmember
      cases hmember
    · rw [h.runTask]
      exact hbegun.phase
    · exact fun hne => absurd hbegun.frozen hne
    · intro caller hmember
      rw [h.callers] at hmember
      cases hmember
  · intro hactive
    rw [hdone] at hactive
    cases hactive
  · intro kind _
    rw [hmessages]
    exact ledger_empty.congr hbegun.ledger
  · constructor
    · intro key ref hget
      rw [hpending] at hget
      cases hget
    · intro ref message hget
      rw [hmessages] at hget
      cases hget
    · intro i j a b ha
      rw [hmessages] at ha
      cases ha
    · intro message hmember
      rw [hmessages] at hmember
      cases hmember
  · constructor
    · intro message hmember
      rw [hmessages] at hmember
      cases hmember
    · intro message hmember
      rw [hmessages] at hmember
      cases hmember

/-- Every step keeps what holds in every reachable state. -/
theorem Sound.step (pb : Protobuf) (h : Sound s) {a : Action} (hstep : step pb s a = some t) :
    Sound t := by
  rcases step_cases False True pb h.structured False.elim False.elim (fun _ => trivial)
    hstep with hstarted | hmove
  · exact (hstarted.exact h.held).toSound
  · exact ⟨h.structured.move hmove, h.held.move h.structured hmove,
      h.ledgered.entries (hmove.advance h.structured).entries⟩

/-- A step that attributes what it rejects keeps the messages and the pending
submissions in step. -/
theorem Exact.step (pb : Protobuf) (h : Exact s) {a : Action} (hattributes : Attributes pb s a)
    (hstep : step pb s a = some t) : Exact t := by
  rcases step_cases True True pb h.structured (fun _ => hattributes) (fun _ => h.admitted)
    (fun _ => trivial) hstep with hstarted | hmove
  · exact hstarted.exact h.held
  · have hentries := (hmove.advance h.structured).entries
    exact
      { structured := h.structured.move hmove
        held := h.held.move h.structured hmove
        ledgered := h.ledgered.entries hentries
        admitted := h.admitted.entries trivial hentries
        received := h.received.entries trivial hentries }

/-! ## The accounts -/

/-- The submission of the message is pending under some key. -/
def Pending (c : TrafficController) (ref : Nat) : Prop :=
  ∃ key, c.accumulators.pendingSubmissions.get? key = some ref

/-- A result that reports the counts of the generated messages. -/
structure Reports (c : TrafficController) (result : TrafficRunResult) : Prop where
  messages : result.generatedMessages = c.messages
  requested : result.requested = c.messages.length
  submitted : result.submitted = c.messages.countP (·.submitted)
  submissionFailed : result.submissionFailed = c.messages.countP (·.submissionError.isSome)
  transmitted : result.transmitted = c.messages.countP (·.transmitted)
  delivered : result.delivered = c.messages.countP (!·.deliveredTo.isEmpty)
  settled : result.requested = result.submitted + result.submissionFailed

/-- The accounts of a run are right. -/
structure Accounted (c : TrafficController) : Prop where
  generated : c.accumulators.generatedCount = c.messages.length
  submitted : c.accumulators.submittedCount = c.messages.countP (·.submitted)
  submissionFailed :
    c.accumulators.submissionFailedCount = c.messages.countP (·.submissionError.isSome)
  transmitted : c.accumulators.transmittedCount = c.messages.countP (·.transmitted)
  acknowledged : c.accumulators.acknowledgments = c.messages.countP (·.acknowledged)
  uniqueDeliveries :
    c.accumulators.uniqueDeliveries = c.messages.countP (!·.deliveredTo.isEmpty)
  receiverDeliveries :
    c.accumulators.receiverDeliveries = (c.messages.map (·.deliveredTo.length)).sum
  admitted : ∀ (ref : Nat) (message : GeneratedMessage), c.messages[ref]? = some message →
    ExactlyOne (Pending c ref) (message.submitted = true) (message.submissionError ≠ none)
  acknowledgedTransmitted : ∀ message ∈ c.messages,
    message.acknowledged = true → message.transmitted = true
  transmittedSubmitted : ∀ message ∈ c.messages,
    message.transmitted = true → message.submitted = true
  acknowledgmentsBounded : c.accumulators.acknowledgments ≤ c.accumulators.submittedCount
  deliveriesBounded :
    c.accumulators.receiverDeliveries ≤ c.accumulators.receiverOpportunities
  frozen : ∀ result ∈ c.frozenResults, Reports c result

/-- What is pending under a message's key is all that is pending of it. -/
theorem pending_iff {c : TrafficController} (h : c.view.Admitted) {ref : Nat}
    {message : GeneratedMessage} (hget : c.messages[ref]? = some message) :
    Pending c ref ↔ c.view.pending.get? message.key = some ref := by
  constructor
  · rintro ⟨key, hpending⟩
    obtain ⟨found, hfound, hkey⟩ := h.keyed key ref hpending
    rw [show c.view.messages = c.messages from rfl, hget] at hfound
    cases hfound
    rw [hkey]
    exact hpending
  · exact fun hpending => ⟨message.key, hpending⟩

/-- One message reaches at most the receivers it can reach. -/
theorem deliveredTo_le {c : TrafficController} (h : c.view.Received) {kind : TrafficKind}
    {message : GeneratedMessage} (hmember : message ∈ c.messages)
    (hsound : message.Sound kind) :
    message.deliveredTo.length ≤ c.view.opportunities kind := by
  cases kind with
  | directText =>
      have hsubset : message.deliveredTo ⊆ [message.destinationNode] := by
        intro nodeId hnode
        have happlicable := hsound.applicable nodeId hnode
        simpa [isApplicableReceiver] using happlicable
      exact (List.subperm_of_subset hsound.distinct hsubset).length_le
  | broadcastText =>
      have hnotin : message.sourceNode ∉ message.deliveredTo := by
        intro hnode
        have happlicable := hsound.applicable _ hnode
        simp [isApplicableReceiver] at happlicable
      have hsubset : message.sourceNode :: message.deliveredTo ⊆ c.view.nodeIds := by
        intro nodeId hnode
        rcases List.mem_cons.mp hnode with rfl | hreceiver
        · exact h.source message hmember
        · exact h.receivers message hmember nodeId hreceiver
      have hlength := (List.subperm_of_subset
        (List.nodup_cons.mpr ⟨hnotin, hsound.distinct⟩) hsubset).length_le
      have hnodes : c.view.nodeIds.length = c.runScenario.nodes.length := List.length_map _
      change message.deliveredTo.length ≤ c.runScenario.nodes.length - 1
      rw [List.length_cons] at hlength
      omega

/-- Once nothing is pending, each message is submitted or failed. -/
theorem countP_settled {c : TrafficController} (h : c.view.Admitted)
    (hpending : c.accumulators.pendingSubmissions = ∅) :
    c.messages.length =
      c.messages.countP (·.submitted) + c.messages.countP (·.submissionError.isSome) := by
  rw [List.length_eq_countP_add_countP (·.submitted)]
  congr 1
  apply List.countP_congr
  intro message hmember
  obtain ⟨ref, hget⟩ := List.mem_iff_getElem?.mp hmember
  have hnone : c.view.pending.get? message.key ≠ some ref := by
    change c.accumulators.pendingSubmissions.get? _ ≠ _
    rw [hpending]
    simp
  rcases h.status ref message hget with ⟨hown, _⟩ | ⟨_, hsubmitted, herror⟩ | ⟨_, hnot, herror⟩
  · exact absurd hown hnone
  · rw [not_not] at herror
    simp [hsubmitted, herror]
  · simp [hnot, Option.isSome_iff_ne_none.mpr herror]

/-- In every reachable state the ledger of the run is right. -/
theorem Sound.ledger (h : Sound s) : ∃ kind,
    Ledger kind (s.controller.view.opportunities kind) s.controller.messages
      s.controller.accumulators := by
  cases hkind : s.controller.view.kind with
  | none => exact ⟨.directText, h.ledgered .directText (by simp [hkind])⟩
  | some kind => exact ⟨kind, h.ledgered kind (by simp [hkind])⟩

/-- A frozen result reports the counts of an exact state. -/
theorem Exact.reports (h : Exact s) {result : TrafficRunResult}
    (hmember : result ∈ s.controller.frozenResults) : Reports s.controller result := by
  obtain ⟨kind, hledger⟩ := h.ledger
  have hcontrolled := h.structured.controlled
  have hmirrors := hcontrolled.mirrored result hmember
  have hclosed := hcontrolled.frozen (List.ne_nil_of_mem hmember)
  have hrequested := hmirrors.requested.trans hledger.generated
  have hsubmitted := hmirrors.submitted.trans hledger.submitted
  have hfailed := hmirrors.submissionFailed.trans hledger.submissionFailed
  constructor
  · exact hmirrors.messages
  · exact hrequested
  · exact hsubmitted
  · exact hfailed
  · exact hmirrors.transmitted.trans hledger.transmitted
  · exact hmirrors.delivered.trans hledger.delivered
  · rw [hrequested, hsubmitted, hfailed]
    exact countP_settled h.admitted (hcontrolled.settled hclosed)

/-- The accounts of an exact state. -/
theorem Exact.accounted (h : Exact s) : Accounted s.controller := by
  obtain ⟨kind, hledger⟩ := h.ledger
  constructor
  · exact hledger.generated
  · exact hledger.submitted
  · exact hledger.submissionFailed
  · exact hledger.transmitted
  · exact hledger.acknowledged
  · exact hledger.delivered
  · exact hledger.receivers
  · intro ref message hget
    rw [pending_iff h.admitted hget]
    exact h.admitted.status ref message hget
  · exact fun message hmember => (hledger.sound message hmember).acknowledged
  · exact fun message hmember => (hledger.sound message hmember).transmitted
  · rw [hledger.acknowledged, hledger.submitted]
    apply List.countP_mono_left
    intro message hmember hacknowledged
    have hsound := hledger.sound message hmember
    exact hsound.transmitted (hsound.acknowledged hacknowledged)
  · rw [hledger.receivers, hledger.opportunities]
    apply sum_map_le_length_mul
    intro message hmember
    exact deliveredTo_le h.received hmember (hledger.sound message hmember)
  · exact fun result hmember => h.reports hmember

section Runs

variable {scenario : Scenario} {hardwareIds : Dict String Nat} {buildMetadata : BuildMetadata}
  {settleSeconds : Option ℚ} {failedReceptionSampler : Bool}

/-- Every reachable state is sound. -/
theorem sound_of_run (pb : Protobuf)
    (hrun : Run (step pb) Always
      (.new scenario hardwareIds buildMetadata settleSeconds failedReceptionSampler) s) :
    Sound s :=
  hrun.invariant (fun _ _ _ h _ hstep => h.step pb hstep) (exact_new _ _ _ _ _).toSound

/-- In a run that attributes what it rejects the accounts are right in every state. -/
theorem accounted_of_run (pb : Protobuf)
    (hrun : Run (step pb) (Attributes pb)
      (.new scenario hardwareIds buildMetadata settleSeconds failedReceptionSampler) s) :
    Accounted s.controller := by
  have hexact : Exact s :=
    hrun.invariant (fun _ _ _ h hattributes hstep => h.step pb hattributes hstep)
      (exact_new _ _ _ _ _)
  exact hexact.accounted

end Runs

/-! ## A rejection of a foreign submission -/

section Pair

/-- Generated code that knows one routing error. -/
def pairProtobuf : Protobuf where
  parseRouting bytes :=
    match bytes with
    | [24, reason] => some reason.toNat
    | _ => none
  parseCompressed _ := none
  routingErrorName reason := if reason = 38 then some "RATE_LIMIT_EXCEEDED" else none
  dataSize data := data.payload.length + 4

/-- Two nodes that hear each other. -/
def pairScenario : Scenario where
  name := "pair"
  nodeCount := 2
  nodes := [{ id := "node-1", apiPort := 45001 }, { id := "node-2", apiPort := 45002 }]
  links :=
    [{ fromNode := "node-1", toNode := "node-2" }, { fromNode := "node-2", toNode := "node-1" }]

/-- A controller of the two nodes, with nothing running. -/
def pairTasks : TrafficTasks :=
  .new pairScenario ((∅ : Dict String Nat).update [("node-1", 1), ("node-2", 2)]) .unavailable
    none false

def pairMoment : Moment where
  now := 0
  wallClock := 0
  streamId := "stream"

/-- A packet of the routing port that responds to another packet. -/
def routingPacket (from_ to_ id requestId : Nat) (reason : UInt8) : MeshPacket where
  from_ := from_
  to_ := to_
  id := id
  payload := .decoded { portnum := ROUTING_APP, payload := [24, reason], requestId := requestId }

/-- A run from one node to the other, up to its first message in `send_to_radio`. -/
def pairSubmission : List Action :=
  [.start pairMoment "run"
      { kind := .directText, sourceNodes := ["node-1"], fixedDestination := some "node-2" }
      none none,
    .run pairMoment .begun,
    .run pairMoment (.submit 0 0 0 [7])]

/-- The acknowledgment of the receiver is on the air before the sender's queue
status arrives, and the firmware of the receiver rejects it. -/
def rejectedAcknowledgment : List Action :=
  pairSubmission ++
    [.rfTransmission pairMoment "node-2" (routingPacket 2 1 9 7 0) 50,
      .fromRadio pairMoment "node-2" (.packet (routingPacket 1 2 11 9 38))]

/-- The queue status arrives, and then the firmware of the sender rejects the message. -/
def rejectedMessageRun : List Action :=
  pairSubmission ++
    [.fromRadio pairMoment "node-1" (.queueStatus { meshPacketId := 7, res := 0 }),
      .fromRadio pairMoment "node-1" (.packet (routingPacket 1 1 11 7 38))]

/-- In this run, whose messages from radios name nodes of the scenario, a message is
pending and failed at once. -/
theorem rejected_acknowledgment_unaccounted :
    ∃ s, Run (step pairProtobuf) FromScenario pairTasks s ∧ ¬Accounted s.controller := by
  have hstate : (exec (step pairProtobuf) rejectedAcknowledgment pairTasks).map (fun s =>
      (s.controller.accumulators.pendingSubmissions.get? ("node-1", 7),
        s.controller.messages.map (·.submissionError.isSome))) = some (some 0, [true]) := by
    decide +kernel
  have hscenario : Conforms (step pairProtobuf) FromScenario rejectedAcknowledgment pairTasks := by
    decide +kernel
  obtain ⟨s, hexec, hstate⟩ := Option.map_eq_some_iff.mp hstate
  obtain ⟨hpending, hmessages⟩ := Prod.mk.inj hstate
  refine ⟨s, .of_exec hexec hscenario, fun haccounted => ?_⟩
  have hget : (s.controller.messages.map (·.submissionError.isSome))[0]? = some true := by
    rw [hmessages]
    rfl
  rw [List.getElem?_map] at hget
  obtain ⟨message, hget, herror⟩ := Option.map_eq_some_iff.mp hget
  have hfailed : message.submissionError ≠ none := Option.isSome_iff_ne_none.mp herror
  rcases haccounted.admitted 0 message hget with ⟨_, _, hnot⟩ | ⟨_, _, hnot⟩ | ⟨hnot, _, _⟩
  · exact hnot hfailed
  · exact hnot hfailed
  · exact hnot ⟨_, hpending⟩

/-- The sender's own rejection is attributed, and the accounts stay right. -/
theorem rejected_message_accounted :
    ∃ s, exec (step pairProtobuf) rejectedMessageRun pairTasks = some s ∧
      Accounted s.controller := by
  have hsome : (exec (step pairProtobuf) rejectedMessageRun pairTasks).isSome = true := by
    decide +kernel
  have hattributes : Conforms (step pairProtobuf) (Attributes pairProtobuf) rejectedMessageRun
      pairTasks := by
    decide +kernel
  obtain ⟨s, hexec⟩ := Option.isSome_iff_exists.mp hsome
  exact ⟨s, hexec, accounted_of_run pairProtobuf (.of_exec hexec hattributes)⟩

end Pair

end MeshtasticLab.Traffic.TrafficTasks

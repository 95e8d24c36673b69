/-
  Traffic/Attribution.lean --- a generated packet is found under its own identity.

  WHAT THIS FILE IS FOR

  `_messages_by_packet` holds the identities of the generated messages and, in the
  same map, those of the packets that respond to them.  A response takes the entry
  of its own identity whatever is there.  While no response has the identity of
  another generated message, every generated message is found under its own, and
  what names that identity is credited to no other message.
-/
import MeshtasticLab.Traffic.Handled

set_option autoImplicit false

namespace MeshtasticLab.Traffic

open MeshtasticLab.Foundation MeshtasticLab.Gateway MeshtasticLab.Metrics MeshtasticLab.Models
open TrafficController

/-! ## Keys -/

namespace Watch

/-- Every message is found under the hardware id of its source and its packet
identifier. -/
def Correlated (v : Watch) : Prop :=
  ∀ (ref : Nat) (source : String) (packetId hardwareId : Nat),
    v.identities[ref]? = some (source, packetId) →
      v.hardwareIds.get? source = some hardwareId →
        v.messagesByPacket.get? (hardwareId, packetId) = some ref

/-- The identifier of every message is reserved for its source. -/
def Reserved (v : Watch) : Prop :=
  ∀ (ref : Nat) (source : String) (packetId : Nat),
    v.identities[ref]? = some (source, packetId) →
      (v.packetIds.used source).get? packetId ≠ none

/-- No two nodes have the same hardware id. -/
def Distinct (v : Watch) : Prop :=
  ∀ (a b : String) (hardwareId : Nat), v.hardwareIds.get? a = some hardwareId →
    v.hardwareIds.get? b = some hardwareId → a = b

/-- What keeps the messages apart and finds each under its own identity. -/
structure Keyed (v : Watch) : Prop where
  distinct : v.Distinct
  reserved : v.Reserved
  correlated : v.Correlated

variable {v w : Watch} {may : Watch → Deed → Prop}

theorem Keyed.congr (h : v.Keyed) (hsame : SameKeys v w) : w.Keyed where
  distinct := by
    unfold Distinct
    rw [hsame.hardwareIds]
    exact h.distinct
  reserved := by
    unfold Reserved
    rw [hsame.identities, hsame.packetIds]
    exact h.reserved
  correlated := by
    unfold Correlated
    rw [hsame.identities, hsame.hardwareIds, hsame.messagesByPacket]
    exact h.correlated

/-- An alias that takes no entry of another message. -/
theorem Keyed.respond (h : v.Keyed) (key : Nat × Nat) {ref : Nat}
    (hfree : ∀ (other : Nat) (source : String), v.identities[other]? = some (source, key.2) →
      v.hardwareIds.get? source = some key.1 → other = ref) :
    (v.after (.respond key ref)).Keyed where
  distinct := h.distinct
  reserved := h.reserved
  correlated := by
    intro other source packetId hardwareId hget hhardware
    change (v.messagesByPacket.set key ref).get? _ = _
    rw [Dict.get?_set]
    split
    · next hkey =>
        subst hkey
        rw [hfree other source hget hhardware]
    · exact h.correlated other source packetId hardwareId hget hhardware

/-- The identifier that is allocated for a source is none of its messages'. -/
theorem Keyed.reserve (h : v.Keyed) {source : String} {now : ℚ} {draws : List Nat}
    {packetId : Nat} {ids : PacketIds}
    (hallocate : v.packetIds.allocate source now draws = some (packetId, ids)) :
    (v.after (.reserve ids)).Keyed ∧
      (∀ ref : Nat, v.identities[ref]? ≠ some (source, packetId)) ∧
      (ids.used source).get? packetId ≠ none := by
  obtain ⟨hkept, hreserved⟩ := used_of_allocate hallocate
  refine ⟨⟨h.distinct, ?_, h.correlated⟩, ?_, hreserved⟩
  · intro ref other otherId hget
    exact hkept other otherId (h.reserved ref other otherId hget)
  · intro ref hget
    exact h.reserved ref source packetId hget (PacketIds.allocate_spec hallocate).1

/-- The elements of a list with one more at its end. -/
theorem getElem?_concat_eq_some {α : Type} {l : List α} {a b : α} {i : Nat} :
    (l ++ [a])[i]? = some b ↔ l[i]? = some b ∨ (i = l.length ∧ a = b) := by
  rw [List.getElem?_append]
  split
  · next hlt =>
      constructor
      · exact Or.inl
      · rintro (hget | ⟨hlast, _⟩)
        · exact hget
        · omega
  · next hge =>
      have hnone : l[i]? = none := List.getElem?_eq_none_iff.mpr (by omega)
      rw [List.getElem?_singleton, hnone]
      constructor
      · intro hget
        split at hget
        · next hzero => exact Or.inr ⟨by omega, Option.some.inj hget⟩
        · cases hget
      · rintro (hget | ⟨hlast, rfl⟩)
        · cases hget
        · rw [if_pos (by omega)]

/-- A new message with an identifier that none of its source has is found under its
own identity, and the others still under theirs. -/
theorem Keyed.generate (h : v.Keyed) {source : String} {packetId hardwareId : Nat}
    (hhardware : v.hardwareIds.get? source = some hardwareId)
    (hnew : ∀ ref : Nat, v.identities[ref]? ≠ some (source, packetId))
    (hreserved : (v.packetIds.used source).get? packetId ≠ none) :
    (v.after (.generate source packetId hardwareId)).Keyed where
  distinct := h.distinct
  reserved := by
    intro ref other otherId hget
    rcases getElem?_concat_eq_some.mp hget with hold | ⟨_, hlast⟩
    · exact h.reserved ref other otherId hold
    · cases hlast
      exact hreserved
  correlated := by
    intro ref other otherId otherHardware hget hother
    change (v.messagesByPacket.set (hardwareId, packetId) v.identities.length).get? _ = _
    rw [Dict.get?_set]
    rcases getElem?_concat_eq_some.mp hget with hold | ⟨rfl, hlast⟩
    · rw [if_neg]
      · exact h.correlated ref other otherId otherHardware hold hother
      · intro hkey
        cases hkey
        rw [h.distinct other source hardwareId hother hhardware] at hold
        exact hnew ref hold
    · cases hlast
      cases hhardware.symm.trans hother
      rw [if_pos rfl]

/-- Retiring that raises keeps what is reserved. -/
theorem Keyed.retire (h : v.Keyed) {now : ℚ} {ids : PacketIds} {error : TrafficError}
    (hretire : v.packetIds.retire now = (ids, .error error)) :
    ({ v with packetIds := ids } : Watch).Keyed where
  distinct := h.distinct
  reserved := by
    intro ref source packetId hget
    rw [PacketIds.retire_used_of_error hretire]
    exact h.reserved ref source packetId hget
  correlated := h.correlated

/-- A run that has just started has no messages. -/
theorem Keyed.begun (h : v.Keyed) (ids : PacketIds) (baseline : FailedReceptionSample) :
    (v.begun ids baseline).Keyed where
  distinct := h.distinct
  reserved := by
    intro ref source packetId hget
    cases hget
  correlated := by
    intro ref source packetId hardwareId hget
    cases hget

end Watch

/-! ## Responses -/

namespace TrafficController

variable {c : TrafficController}

/-- The message that a packet responds to. -/
def respondsTo (pb : Protobuf) (c : TrafficController) (packet : MeshPacket)
    (transmitter : Option String) : Option Nat :=
  (c.responseRequestId pb packet transmitter).bind fun requestId =>
    c.accumulators.messagesByPacket.get? (packet.to_, requestId)

/-- The packet has the identity of the message: the hardware id of its source and its
packet identifier. -/
def Names (c : TrafficController) (packet : MeshPacket) (message : GeneratedMessage) : Prop :=
  c.hardwareIds.get? message.sourceNode = some packet.from_ ∧ message.packetId = packet.id

/-- A packet that responds to one message does not have the identity of another. -/
def Distinguishes (pb : Protobuf) (c : TrafficController) (packet : MeshPacket)
    (transmitter : Option String) : Prop :=
  ∀ response ∈ c.respondsTo pb packet transmitter, ∀ ref < c.messages.length,
    ∀ message ∈ c.messages[ref]?, c.Names packet message → ref = response

instance (c : TrafficController) (packet : MeshPacket) (message : GeneratedMessage) :
    Decidable (c.Names packet message) :=
  inferInstanceAs (Decidable (_ ∧ _))

instance (pb : Protobuf) (c : TrafficController) (packet : MeshPacket)
    (transmitter : Option String) : Decidable (c.Distinguishes pb packet transmitter) :=
  inferInstanceAs (Decidable (∀ response ∈ c.respondsTo pb packet transmitter,
    ∀ ref < c.messages.length, ∀ message ∈ c.messages[ref]?, c.Names packet message →
      ref = response))

theorem messageForPacketIdentity_cases (pb : Protobuf) (c : TrafficController)
    (packet : MeshPacket) (transmitter : Option String) :
    (c.respondsTo pb packet transmitter = none ∧
      c.messageForPacketIdentity pb packet transmitter =
        (c.accumulators.messagesByPacket.get? (packet.from_, packet.id), c)) ∨
    ∃ response, c.respondsTo pb packet transmitter = some response ∧
      c.messageForPacketIdentity pb packet transmitter =
        (some response, c.modifyAccumulators (·.index (packet.from_, packet.id) response)) := by
  unfold messageForPacketIdentity respondsTo
  dsimp only
  split
  · next response hresponse => exact Or.inr ⟨response, hresponse, rfl⟩
  · next hnone => exact Or.inl ⟨hnone, rfl⟩

/-- The identity of a message in the watch. -/
theorem identities_getElem? {ref : Nat} {source : String} {packetId : Nat} :
    c.watch.identities[ref]? = some (source, packetId) ↔
      ∃ message, c.messages[ref]? = some message ∧ message.sourceNode = source ∧
        message.packetId = packetId := by
  change (c.messages.map _)[ref]? = _ ↔ _
  rw [List.getElem?_map, Option.map_eq_some_iff]
  simp only [Prod.mk.injEq]

/-- Looking up a packet that distinguishes keeps every message under its identity. -/
theorem keyed_messageForPacketIdentity {pb : Protobuf} {packet : MeshPacket}
    {transmitter : Option String} (h : c.watch.Keyed)
    (hdistinguishes : c.Distinguishes pb packet transmitter) :
    (c.messageForPacketIdentity pb packet transmitter).2.watch.Keyed := by
  rcases messageForPacketIdentity_cases pb c packet transmitter with
    ⟨_, hsame⟩ | ⟨response, hresponse, hsame⟩
  · rw [hsame]
    exact h
  · rw [hsame]
    refine h.respond (packet.from_, packet.id) ?_
    intro other source hget hhardware
    obtain ⟨message, hmessage, rfl, hid⟩ := identities_getElem?.mp hget
    have hlt : other < c.messages.length := (List.getElem?_eq_some_iff.mp hmessage).1
    exact hdistinguishes response hresponse other hlt message hmessage ⟨hhardware, hid⟩

/-- What names the identity of a generated message is credited to that message: the
look-up of its key, an observed packet that responds to no other message, a delivery
and an acknowledgment. -/
structure Credits (pb : Protobuf) (c : TrafficController) (ref : Nat)
    (message : GeneratedMessage) : Prop where
  key : ∀ hardwareId, c.hardwareIds.get? message.sourceNode = some hardwareId →
    c.accumulators.messagesByPacket.get? (hardwareId, message.packetId) = some ref
  observed : ∀ packet transmitter, c.Names packet message →
    c.Distinguishes pb packet transmitter →
      (c.messageForPacketIdentity pb packet transmitter).1 = some ref
  delivered : ∀ packet data, packet.payload = .decoded data →
    data.portnum = TEXT_MESSAGE_APP → c.Names packet message →
      ∀ found ∈ (c.correlatedDeliveryMessage pb packet).1, found = (ref, message)
  acknowledged : ∀ hardwareId, c.hardwareIds.get? message.sourceNode = some hardwareId →
    c.resolve (c.accumulators.messagesByPacket.get? (hardwareId, message.packetId)) =
      some (ref, message)

theorem credits_of_keyed {pb : Protobuf} (h : c.watch.Keyed) {ref : Nat}
    {message : GeneratedMessage} (hget : c.messages[ref]? = some message) :
    c.Credits pb ref message := by
  have hkey : ∀ hardwareId, c.hardwareIds.get? message.sourceNode = some hardwareId →
      c.accumulators.messagesByPacket.get? (hardwareId, message.packetId) = some ref := by
    intro hardwareId hhardware
    exact h.correlated ref message.sourceNode message.packetId hardwareId
      (identities_getElem?.mpr ⟨message, hget, rfl, rfl⟩) hhardware
  have hresolve : c.resolve (some ref) = some (ref, message) := by
    simp [resolve, hget]
  refine ⟨hkey, ?_, ?_, ?_⟩
  · intro packet transmitter hnames hdistinguishes
    rcases messageForPacketIdentity_cases pb c packet transmitter with
      ⟨_, hsame⟩ | ⟨response, hresponse, hsame⟩
    · rw [hsame, ← hnames.2]
      exact hkey packet.from_ hnames.1
    · have hlt : ref < c.messages.length := (List.getElem?_eq_some_iff.mp hget).1
      rw [hsame, hdistinguishes response hresponse ref hlt message hget hnames]
  · intro packet data hpayload htext hnames found hfound
    unfold correlatedDeliveryMessage at hfound
    split at hfound
    · dsimp only at hfound
      rw [messageForPacketIdentity_text hpayload htext, ← hnames.2, hkey packet.from_ hnames.1,
        hresolve] at hfound
      dsimp only at hfound
      split at hfound
      · cases hfound
      · split at hfound
        · cases hfound
        · exact (Option.some.inj hfound).symm
    · cases hfound
  · intro hardwareId hhardware
    rw [hkey hardwareId hhardware, hresolve]

end TrafficController

/-! ## Runs -/

namespace TrafficTasks

variable {s t : TrafficTasks}

/-- The transmitter and the packet that an action shows to the correlation. -/
def Action.observed : Action → Option (String × MeshPacket)
  | .rfTransmission _ transmitter packet _ => some (transmitter, packet)
  | .drop _ transmitter packet _ => some (transmitter, packet)
  | _ => none

/-- While the run accepts events, no observed packet that responds to one message has
the identity of another. -/
def DistinguishesResponses (pb : Protobuf) (s : TrafficTasks) (a : Action) : Prop :=
  s.controller.acceptsRunEvents = true → ∀ observed ∈ a.observed,
    s.controller.Distinguishes pb observed.2 (some observed.1)

instance (pb : Protobuf) (s : TrafficTasks) (a : Action) :
    Decidable (DistinguishesResponses pb s a) :=
  inferInstanceAs (Decidable (s.controller.acceptsRunEvents = true → ∀ observed ∈ a.observed,
    s.controller.Distinguishes pb observed.2 (some observed.1)))

/-- What holds in every state of a run whose responses are distinguished. -/
structure Attributable (s : TrafficTasks) : Prop extends Sound s where
  keyed : s.controller.watch.Keyed

theorem keyed_submitHandled (pb : Protobuf) (h : s.controller.watch.Keyed)
    (hopen : s.controller.frozenResults = []) (m : Moment) (flow source pick : Nat)
    (draws : List Nat) : (s.submitHandled pb m flow source pick draws).watch.Keyed := by
  cases hcall : s.submission flow source pick with
  | none =>
      rw [submitHandled_of_none pb m hcall draws]
      exact h
  | some call =>
      obtain ⟨from_, destination, name⟩ := call
      cases submitted_submitHandled pb hopen m hcall draws with
      | nothing hnone hwatch =>
          rw [hwatch]
          exact h
      | reserved packetId ids hallocation hwatch =>
          rw [hwatch]
          exact (h.reserve (allocate_of_submitAllocation hallocation)).1
      | generated packetId hardwareId ids hallocation hhardware hdoes =>
          obtain ⟨hkeyed, hnew, hreserved⟩ :=
            h.reserve (allocate_of_submitAllocation hallocation)
          exact (hkeyed.generate hhardware hnew hreserved).congr
            hdoes.sameKeys_of_none

/-- Every handler keeps every message under its identity. -/
theorem Attributable.handled (pb : Protobuf) (h : Attributable s) {a : Action}
    (hdistinguishes : DistinguishesResponses pb s a) (hstep : step pb s a = some t) :
    (s.handled pb a).watch.Keyed := by
  have hkeyed := h.keyed
  cases a with
  | fromRadio m nodeId message =>
      refine hkeyed.congr ((does_handleFromRadio pb s.controller m nodeId message).sameKeys ?_)
      exact keyless_mayReport
  | rfTransmission m transmitter packet packetAirtimeMs =>
      rcases counts_recordRfTransmission pb s.controller m transmitter packet packetAirtimeMs with
        hsame | ⟨haccepts, hcounts⟩
      · dsimp only [TrafficTasks.handled]
        rw [hsame]
        exact hkeyed
      · exact (keyed_messageForPacketIdentity hkeyed
          (hdistinguishes haccepts _ rfl)).congr (hcounts.sameKeys keyless_mayCount)
  | drop m transmitter packet reason =>
      rcases counts_recordDrop pb s.controller m transmitter packet reason with
        hsame | ⟨haccepts, hcounts⟩
      · dsimp only [TrafficTasks.handled]
        rw [hsame]
        exact hkeyed
      · exact (keyed_messageForPacketIdentity hkeyed
          (hdistinguishes haccepts _ rfl)).congr (hcounts.sameKeys keyless_mayCount)
  | failedReceptions m nodeId total =>
      exact hkeyed.congr
        ((samples_recordFailedReceptions s.controller m nodeId total).sameKeys keyless_maySample)
  | duplicateReceptions m nodeId total =>
      exact hkeyed.congr
        ((samples_recordDuplicateReceptions s.controller m nodeId total).sameKeys
          keyless_maySample)
  | run m input =>
      cases input with
      | submit flow source pick draws =>
          exact keyed_submitHandled pb hkeyed (h.structured.open_of_submit hstep) m flow source
            pick draws
      | sampled answer =>
          exact hkeyed.congr
            ((samples_applyFinalSample s.controller m answer).sameKeys keyless_maySample)
      | _ => exact hkeyed
  | resume i m input =>
      cases input with
      | sampled answer =>
          exact hkeyed.congr
            ((samples_applyFinalSample s.controller m answer).sameKeys keyless_maySample)
      | _ => exact hkeyed
  | _ => exact hkeyed

/-- A step that distinguishes keeps every message under its identity. -/
theorem Attributable.step (pb : Protobuf) (h : Attributable s) {a : Action}
    (hdistinguishes : DistinguishesResponses pb s a) (hstep : step pb s a = some t) :
    Attributable t := by
  refine ⟨h.toSound.step pb hstep, ?_⟩
  cases hstarts : a.starts with
  | false =>
      have hdoes : Watch.Does Watch.NoDeed (s.handled pb a).watch t.controller.watch :=
        does_step pb hstarts hstep
      exact (h.handled pb hdistinguishes hstep).congr
        hdoes.sameKeys_of_none
  | true =>
      cases a with
      | start m runId request scenarioSnapshot baseline =>
          rcases watch_start hstep with rfl | ⟨_, ids, hretire, rfl⟩ | ⟨ids, _, _, _, hwatch⟩
          · exact h.keyed
          · exact h.keyed.retire hretire
          · rw [hwatch]
            exact h.keyed.begun ids _
      | _ => cases hstarts

section Runs

variable {scenario : Scenario} {hardwareIds : Dict String Nat} {buildMetadata : BuildMetadata}
  {settleSeconds : Option ℚ} {failedReceptionSampler : Bool}

theorem attributable_of_run (pb : Protobuf)
    (hdistinct : ∀ a b hardwareId, hardwareIds.get? a = some hardwareId →
      hardwareIds.get? b = some hardwareId → a = b)
    (hrun : Run (step pb) (DistinguishesResponses pb)
      (.new scenario hardwareIds buildMetadata settleSeconds failedReceptionSampler) s) :
    Attributable s := by
  refine hrun.invariant (fun _ _ _ h hmeets hstep => h.step pb hmeets hstep) ?_
  refine ⟨(exact_new _ _ _ _ _).toSound, ⟨hdistinct, ?_, ?_⟩⟩
  · intro ref source packetId hget
    cases hget
  · intro ref source packetId hardwareId hget
    cases hget

/-- In a run whose responses have no identity of another generated message, what names
the identity of a message is credited to that message. -/
theorem credited_of_run (pb : Protobuf)
    (hdistinct : ∀ a b hardwareId, hardwareIds.get? a = some hardwareId →
      hardwareIds.get? b = some hardwareId → a = b)
    (hrun : Run (step pb) (DistinguishesResponses pb)
      (.new scenario hardwareIds buildMetadata settleSeconds failedReceptionSampler) s)
    (ref : Nat) (message : GeneratedMessage) (hget : s.controller.messages[ref]? = some message) :
    s.controller.Credits pb ref message :=
  credits_of_keyed (attributable_of_run pb hdistinct hrun).keyed hget

end Runs

/-! ## An acknowledgment with the identity of a message -/

section Pair

/-- Two flows between the two nodes, each with one message in flight. -/
def crossing : List Action :=
  [.start pairMoment "run"
      { kind := .directText
        flows :=
          [{ name := "there", sourceNodes := ["node-1"], fixedDestination := some "node-2" },
            { name := "back", sourceNodes := ["node-2"], fixedDestination := some "node-1" }] }
      none none,
    .run pairMoment .begun,
    .run pairMoment (.submit 0 0 0 [7]),
    .run pairMoment (.sent none false),
    .run pairMoment (.submit 1 0 0 [9])]

/-- The firmware of the second node acknowledges the first message in a packet with
this identifier. -/
def acknowledgedAs (packetId : Nat) : List Action :=
  crossing ++ [.rfTransmission pairMoment "node-2" (routingPacket 2 1 packetId 7 0) 50]

/-- The acknowledgment has the identifier of the second node's own message, and that
message is looked up as the first. -/
theorem acknowledgment_takes_key :
    ∃ s, Run (step pairProtobuf) Always pairTasks s ∧
      ∃ message, s.controller.messages[1]? = some message ∧
        ¬s.controller.Credits pairProtobuf 1 message := by
  have hstate : (exec (step pairProtobuf) (acknowledgedAs 9) pairTasks).map (fun s =>
      ((s.controller.messages[1]?).map fun message => (message.sourceNode, message.packetId),
        s.controller.hardwareIds.get? "node-2",
        s.controller.accumulators.messagesByPacket.get? (2, 9))) =
      some (some ("node-2", 9), some 2, some 0) := by
    decide +kernel
  obtain ⟨s, hexec, hstate⟩ := Option.map_eq_some_iff.mp hstate
  obtain ⟨hmessage, hstate⟩ := Prod.mk.inj hstate
  obtain ⟨hhardware, hkey⟩ := Prod.mk.inj hstate
  obtain ⟨message, hget, hidentity⟩ := Option.map_eq_some_iff.mp hmessage
  obtain ⟨hsource, hid⟩ := Prod.mk.inj hidentity
  refine ⟨s, .of_exec hexec (conforms_always _ _), message, hget, fun hcredits => ?_⟩
  have hfound := hcredits.key 2 (by rw [hsource]; exact hhardware)
  rw [hid, hkey] at hfound
  cases hfound

/-- The two nodes have different hardware ids. -/
theorem pair_distinct (a b : String) (hardwareId : Nat)
    (ha : ((∅ : Dict String Nat).update [("node-1", 1), ("node-2", 2)]).get? a = some hardwareId)
    (hb : ((∅ : Dict String Nat).update [("node-1", 1), ("node-2", 2)]).get? b =
      some hardwareId) : a = b := by
  rw [Dict.get?_eq_some] at ha hb
  change _ ∈ [("node-1", 1), ("node-2", 2)] at ha hb
  simp only [List.mem_cons, Prod.mk.injEq, List.not_mem_nil, or_false] at ha hb
  rcases ha with ⟨rfl, rfl⟩ | ⟨rfl, rfl⟩
  · rcases hb with ⟨rfl, _⟩ | ⟨_, hid⟩
    · rfl
    · cases hid
  · rcases hb with ⟨_, hid⟩ | ⟨rfl, _⟩
    · cases hid
    · rfl

/-- With another identifier it leaves both messages under their keys. -/
theorem acknowledgment_keeps_keys :
    ∃ s, exec (step pairProtobuf) (acknowledgedAs 11) pairTasks = some s ∧
      ∃ message, s.controller.messages[1]? = some message ∧
        s.controller.Credits pairProtobuf 1 message := by
  have hsome : ((exec (step pairProtobuf) (acknowledgedAs 11) pairTasks).bind fun s =>
      s.controller.messages[1]?).isSome = true := by
    decide +kernel
  have hdistinguishes : Conforms (step pairProtobuf) (DistinguishesResponses pairProtobuf)
      (acknowledgedAs 11) pairTasks := by
    decide +kernel
  obtain ⟨message, hmessage⟩ := Option.isSome_iff_exists.mp hsome
  obtain ⟨s, hexec, hget⟩ := Option.bind_eq_some_iff.mp hmessage
  exact ⟨s, hexec, message, hget,
    credited_of_run pairProtobuf pair_distinct (.of_exec hexec hdistinguishes) 1 message hget⟩

end Pair

end TrafficTasks

end MeshtasticLab.Traffic

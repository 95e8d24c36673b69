/-
  Traffic/Postings.lean --- the evidence of a run and the counters it stands for.

  WHAT THIS FILE IS FOR

  A `Measure` is one counter of a run together with the events that are its evidence;
  its balance is what the events come to less what the counter shows.  A change `Posts`
  what it adds to the balances of one run, and no other run has an event more for it.
  Deliveries carry their event with them, so all that the tasks do on their own posts
  nothing; a transmission and a drop of the medium post what they count.
-/
import MeshtasticLab.Traffic.Handled

set_option autoImplicit false

namespace MeshtasticLab.Traffic

open MeshtasticLab.Foundation MeshtasticLab.Gateway MeshtasticLab.Metrics MeshtasticLab.Models
open TrafficController

/-! ## Measures -/

/-- The events of one type that carry the id of a run. -/
def evidenceOf (events : List PacketEvent) (runId : String) (eventType : EventType) :
    List PacketEvent :=
  events.filter fun event => event.trafficRunId = some runId ∧ event.eventType = eventType

/-- What is counted both by the controller and by events. -/
inductive Measure where
  | transmissions
  | airtime
  | transmissionsOf (nodeId : String)
  | linkDisabled
  | deliveries
  deriving DecidableEq

namespace Measure

/-- The type of the events. -/
def eventType : Measure → EventType
  | .transmissions => .rfTransmit
  | .airtime => .rfTransmit
  | .transmissionsOf _ => .rfTransmit
  | .linkDisabled => .linkDisabled
  | .deliveries => .applicationReceive

/-- What one such event stands for. -/
def worth : Measure → PacketEvent → Nat
  | .airtime, event => event.airtimeMs.getD 0
  | .transmissionsOf nodeId, event => if event.transmitter = some nodeId then 1 else 0
  | _, _ => 1

/-- What the events of a run come to. -/
def total (μ : Measure) (runId : String) (events : List PacketEvent) : Nat :=
  ((evidenceOf events runId μ.eventType).map μ.worth).sum

/-- What the controller has counted. -/
def counter (v : Watch) : Measure → Nat
  | .transmissions => v.rfTransmissionCount
  | .airtime => v.observedAirtimeMs
  | .transmissionsOf nodeId => (v.perNodeTransmitCounts.get? nodeId).getD 0
  | .linkDisabled => (v.dropCounts.get? "link-disabled").getD 0
  | .deliveries => v.receiverDeliveries

/-- What one event adds to the total of a run. -/
def credit (μ : Measure) (runId : String) (event : PacketEvent) : Nat :=
  if event.trafficRunId = some runId ∧ event.eventType = μ.eventType then μ.worth event else 0

/-- What a deed adds to the counter. -/
def gain : Measure → Deed → Nat
  | .transmissions, .transmission .. => 1
  | .airtime, .transmission _ packetAirtimeMs => packetAirtimeMs
  | .transmissionsOf nodeId, .transmission transmitter _ => if transmitter = nodeId then 1 else 0
  | .linkDisabled, .drop reason => if reason = "link-disabled" then 1 else 0
  | .deliveries, .deliver _ => 1
  | _, _ => 0

@[simp] theorem total_nil (μ : Measure) (runId : String) : μ.total runId [] = 0 := rfl

theorem total_concat (μ : Measure) (runId : String) (events : List PacketEvent)
    (event : PacketEvent) :
    μ.total runId (events ++ [event]) = μ.total runId events + μ.credit runId event := by
  unfold total evidenceOf credit
  rw [List.filter_append, List.map_append, List.sum_append]
  congr 1
  by_cases hown : event.trafficRunId = some runId ∧ event.eventType = μ.eventType
  · simp [hown]
  · rw [if_neg hown, List.filter_cons_of_neg (by simpa using hown)]
    rfl

/-- An event without the id of a run adds nothing to it. -/
theorem credit_of_ne {μ : Measure} {runId : String} {event : PacketEvent}
    (hne : event.trafficRunId ≠ some runId) : μ.credit runId event = 0 :=
  if_neg fun hown => hne hown.1

/-- Nor does an ordinary event. -/
theorem credit_of_ordinary {μ : Measure} {event : PacketEvent} (hordinary : Ordinary event)
    (runId : String) : μ.credit runId event = 0 := by
  refine if_neg fun hown => ?_
  cases μ with
  | linkDisabled => exact hordinary.2.1 hown.2
  | deliveries => exact hordinary.2.2 hown.2
  | _ => exact hordinary.1 hown.2

theorem get?_bump {κ : Type} [DecidableEq κ] (d : Dict κ Nat) (key other : κ) (amount : Nat) :
    ((d.bump key amount).get? other).getD 0 =
      (d.get? other).getD 0 + if key = other then amount else 0 := by
  unfold Dict.bump
  rw [Dict.get?_set]
  by_cases hsame : key = other
  · subst hsame
    simp
  · rw [if_neg (fun h => hsame h.symm), if_neg hsame, Nat.add_zero]

theorem counter_after (μ : Measure) (v : Watch) (deed : Deed) :
    μ.counter (v.after deed) = μ.counter v + μ.gain deed := by
  cases μ with
  | transmissionsOf nodeId =>
      cases deed with
      | transmission transmitter packetAirtimeMs => exact get?_bump _ transmitter nodeId 1
      | _ => rfl
  | linkDisabled =>
      cases deed with
      | drop reason => exact get?_bump _ reason "link-disabled" 1
      | _ => rfl
  | _ => cases deed <;> rfl

end Measure

/-- The event that a deed publishes. -/
def Deed.published : Deed → Option PacketEvent
  | .publish event => some event
  | .deliver event => some event
  | _ => none

namespace Watch

variable {u v w : Watch} {runId : String} {owed paid : Measure → ℤ}
  {may : Watch → Deed → Prop}

/-- The events of a run less what is counted. -/
def balance (runId : String) (v : Watch) (μ : Measure) : ℤ :=
  (μ.total runId v.outbox : ℤ) - μ.counter v

/-- What a change adds to the balances of a run; the events of the others stay. -/
structure Posts (runId : String) (owed : Measure → ℤ) (v w : Watch) : Prop where
  own : ∀ μ, w.balance runId μ = v.balance runId μ + owed μ
  others : ∀ other, other ≠ runId → ∀ μ : Measure,
    μ.total other w.outbox = μ.total other v.outbox

/-- Nothing is added. -/
def Even (runId : String) (v w : Watch) : Prop := Posts runId (fun _ => 0) v w

theorem Even.refl (runId : String) (v : Watch) : Even runId v v :=
  ⟨fun _ => (add_zero _).symm, fun _ _ _ => rfl⟩

theorem Posts.trans (hfirst : Posts runId owed u v) (hsecond : Posts runId paid v w) :
    Posts runId (fun μ => owed μ + paid μ) u w where
  own := fun μ => by rw [hsecond.own, hfirst.own, add_assoc]
  others := fun other hne μ => (hsecond.others other hne μ).trans (hfirst.others other hne μ)

theorem Posts.congr (h : Posts runId owed v w) (hsame : ∀ μ, owed μ = paid μ) :
    Posts runId paid v w :=
  ⟨fun μ => hsame μ ▸ h.own μ, h.others⟩

theorem Posts.then_even (hfirst : Posts runId owed u v) (hsecond : Even runId v w) :
    Posts runId owed u w :=
  (hfirst.trans hsecond).congr fun _ => add_zero _

theorem Even.then (hfirst : Even runId u v) (hsecond : Posts runId owed v w) :
    Posts runId owed u w :=
  (hfirst.trans hsecond).congr fun _ => zero_add _

theorem Even.trans (hfirst : Even runId u v) (hsecond : Even runId v w) : Even runId u w :=
  hfirst.then hsecond

/-- One deed adds the credit of its event less its gain. -/
theorem Posts.after (v : Watch) (deed : Deed)
    (hlabel : ∀ event ∈ deed.published, ∀ other, other ≠ runId → ∀ μ : Measure,
      μ.credit other event = 0) :
    Posts runId
      (fun μ => (deed.published.elim 0 (μ.credit runId) : Nat) - (μ.gain deed : ℤ)) v
      (v.after deed) := by
  have htotal : ∀ (other : String) (μ : Measure), μ.total other (v.after deed).outbox =
      μ.total other v.outbox + deed.published.elim 0 (μ.credit other) := by
    intro other μ
    cases deed with
    | publish event => exact μ.total_concat other v.outbox event
    | deliver event => exact μ.total_concat other v.outbox event
    | _ => rfl
  constructor
  · intro μ
    unfold balance
    rw [htotal, μ.counter_after]
    push_cast
    ring
  · intro other hne μ
    rw [htotal]
    cases hpublished : deed.published with
    | none => rfl
    | some event => exact congrArg _ (hlabel event (by rw [hpublished]; rfl) other hne μ)

/-- An event with the id of the run, or with none, is published. -/
theorem Posts.publish (v : Watch) {event : PacketEvent}
    (hlabel : ∀ other, other ≠ runId → event.trafficRunId ≠ some other) :
    Posts runId (fun μ => (μ.credit runId event : ℤ)) v (v.after (.publish event)) := by
  refine (Posts.after v (.publish event) ?_).congr fun μ => ?_
  · intro published hpublished other hne μ
    cases hpublished
    exact Measure.credit_of_ne (hlabel other hne)
  · cases μ <;> exact sub_zero _

/-- Something is counted, and nothing is published. -/
theorem Posts.count (v : Watch) {deed : Deed} (hsilent : deed.published = none) :
    Posts runId (fun μ => -(μ.gain deed : ℤ)) v (v.after deed) := by
  refine (Posts.after v deed ?_).congr fun μ => ?_
  · intro event hpublished
    rw [hsilent] at hpublished
    cases hpublished
  · rw [hsilent]
    exact zero_sub _

/-- A delivery carries its event with it, a drop is not one of the medium, and no
transmission is counted. -/
def Fair (runId : String) (_ : Watch) : Deed → Prop
  | .deliver event => event.eventType = .applicationReceive ∧ event.trafficRunId = some runId
  | .transmission .. => False
  | .drop reason => reason ≠ "link-disabled"
  | _ => True

/-- Fair deeds add nothing. -/
theorem Does.even (h : Does (Fair runId) v w) : Even runId v w := by
  refine h.invariant ?_ (.refl runId v)
  intro u deed heven hmay
  refine heven.trans ?_
  cases deed with
  | publish event =>
      refine (Posts.after u (.publish event) ?_).congr fun μ => ?_
      · intro published hpublished other _ μ
        cases hpublished
        exact Measure.credit_of_ordinary hmay other
      · rw [show (Deed.publish event).published.elim 0 (μ.credit runId) = 0 from
          Measure.credit_of_ordinary hmay runId]
        cases μ <;> rfl
  | deliver event =>
      obtain ⟨htype, hown⟩ := hmay
      refine (Posts.after u (.deliver event) ?_).congr fun μ => ?_
      · intro published hpublished other hne μ
        cases hpublished
        refine Measure.credit_of_ne ?_
        rw [hown]
        exact fun hsame => hne (Option.some.inj hsame).symm
      · change ((μ.credit runId event : Nat) : ℤ) - _ = 0
        unfold Measure.credit
        rw [hown, htype]
        cases μ <;> simp [Measure.eventType, Measure.worth, Measure.gain]
  | transmission transmitter packetAirtimeMs => exact hmay.elim
  | drop reason =>
      refine (Posts.count u rfl).congr fun μ => ?_
      cases μ with
      | linkDisabled =>
          have hother : reason ≠ "link-disabled" := hmay
          simp [Measure.gain, hother]
      | _ => rfl
  | _ => exact (Posts.count u rfl).congr fun μ => by cases μ <;> rfl

theorem Does.even_of_none (h : Does NoDeed v w) : Even runId v w :=
  Does.even (h.mono fun _ _ hnone => hnone.elim)

end Watch

/-! ## Correlated calls -/

namespace TrafficController

variable {c d e : TrafficController} {runId : String}

/-- What `record_rf_transmission` answers with: the run and the sequence number of the
submitted message that a packet belongs to. -/
def correlated (pb : Protobuf) (c : TrafficController) (transmitter : String)
    (packet : MeshPacket) : Option (String × Nat) :=
  match c.current with
  | none => none
  | some run =>
      if ¬c.acceptsRunEvents then none
      else
        match c.resolve (c.messageForPacketIdentity pb packet (some transmitter)).1 with
        | none => none
        | some (_, message) =>
            if ¬message.submitted then none else some (run.runId, message.sequence)

/-- The run that is correlated is the current one. -/
theorem runId_of_correlated {pb : Protobuf} {transmitter : String} {packet : MeshPacket}
    {found : String × Nat} (hfound : c.correlated pb transmitter packet = some found) :
    ∃ run, c.current = some run ∧ found.1 = run.runId := by
  unfold correlated at hfound
  split at hfound
  · cases hfound
  · next run hrun =>
      split at hfound
      · cases hfound
      · split at hfound
        · cases hfound
        · split at hfound
          · cases hfound
          · cases hfound
            exact ⟨run, hrun, rfl⟩

/-- Whether and how a message is submitted. -/
def submission (message : GeneratedMessage) : Bool × Nat := (message.submitted, message.sequence)

/-- What the correlation of a packet reads, but for the keys of the messages. -/
structure SameLookup (c d : TrafficController) : Prop where
  runId : d.current.map (·.runId) = c.current.map (·.runId)
  accepts : d.acceptsRunEvents = c.acceptsRunEvents
  submissions : d.messages.map submission = c.messages.map submission
  hardwareIds : d.hardwareIds = c.hardwareIds

theorem SameLookup.refl (c : TrafficController) : SameLookup c c := ⟨rfl, rfl, rfl, rfl⟩

theorem SameLookup.trans (hfirst : SameLookup c d) (hsecond : SameLookup d e) : SameLookup c e where
  runId := hsecond.runId.trans hfirst.runId
  accepts := hsecond.accepts.trans hfirst.accepts
  submissions := hsecond.submissions.trans hfirst.submissions
  hardwareIds := hsecond.hardwareIds.trans hfirst.hardwareIds

/-- The same message is found, submitted or not. -/
theorem SameLookup.resolve (h : SameLookup c d) (ref : Option Nat) :
    (d.resolve ref).map (fun found => submission found.2) =
      (c.resolve ref).map (fun found => submission found.2) := by
  have hresolve : ∀ b : TrafficController, (b.resolve ref).map (fun found => submission found.2) =
      ref.bind fun i => (b.messages.map submission)[i]? := by
    intro b
    unfold TrafficController.resolve
    cases ref with
    | none => rfl
    | some i =>
        simp only [Option.bind_some, Option.map_map, List.getElem?_map]
        rfl
  rw [hresolve, hresolve, h.submissions]

/-- A packet for which the same reference is found is correlated alike. -/
theorem SameLookup.correlated (h : SameLookup c d) {pb : Protobuf} {transmitter : String}
    {packet : MeshPacket}
    (hfound : (d.messageForPacketIdentity pb packet (some transmitter)).1 =
      (c.messageForPacketIdentity pb packet (some transmitter)).1) :
    d.correlated pb transmitter packet = c.correlated pb transmitter packet := by
  have hmapped : ∀ b : TrafficController, b.correlated pb transmitter packet =
      (b.current.map (·.runId)).bind fun runId =>
        if b.acceptsRunEvents then
          ((b.resolve (b.messageForPacketIdentity pb packet (some transmitter)).1).map
            fun found => submission found.2).bind
              fun found => if found.1 then some (runId, found.2) else none
        else none := by
    intro b
    unfold TrafficController.correlated
    cases b.current with
    | none => rfl
    | some run =>
        cases b.acceptsRunEvents with
        | false => rfl
        | true =>
            cases b.resolve (b.messageForPacketIdentity pb packet (some transmitter)).1 with
            | none => rfl
            | some found => cases hsubmitted : found.2.submitted <;> simp [submission, hsubmitted]
  rw [hmapped, hmapped, h.runId, h.accepts, hfound, h.resolve]

/-- Whoever finds the same keys finds the same reference. -/
theorem messageForPacketIdentity_congr (pb : Protobuf) (packet : MeshPacket)
    (transmitter : Option String) (hids : d.hardwareIds = c.hardwareIds)
    (hkeys : d.accumulators.messagesByPacket = c.accumulators.messagesByPacket) :
    (d.messageForPacketIdentity pb packet transmitter).1 =
      (c.messageForPacketIdentity pb packet transmitter).1 := by
  have hrequest : d.responseRequestId pb packet transmitter =
      c.responseRequestId pb packet transmitter := by
    unfold responseRequestId
    rw [hids]
  unfold messageForPacketIdentity
  dsimp only
  rw [hrequest, hkeys]
  split <;> rfl

/-- The alias of a packet leads to the message that was found for it. -/
theorem messageForPacketIdentity_identified (pb : Protobuf) (c : TrafficController)
    (packet : MeshPacket) (transmitter : String) :
    ((c.identified pb packet transmitter).messageForPacketIdentity pb packet
        (some transmitter)).1 =
      (c.messageForPacketIdentity pb packet (some transmitter)).1 := by
  unfold identified
  cases hresponse : (c.responseRequestId pb packet (some transmitter)).bind
      fun requestId => c.accumulators.messagesByPacket.get? (packet.to_, requestId) with
  | none =>
      have hsame : (c.messageForPacketIdentity pb packet (some transmitter)).2 = c := by
        unfold messageForPacketIdentity
        dsimp only
        rw [hresponse]
      rw [hsame]
  | some response =>
      obtain ⟨requestId, hrequest, hget⟩ := Option.bind_eq_some_iff.mp hresponse
      have hfound : c.messageForPacketIdentity pb packet (some transmitter) =
          (some response, c.modifyAccumulators (·.index (packet.from_, packet.id) response)) := by
        unfold messageForPacketIdentity
        dsimp only
        rw [hresponse]
      rw [hfound]
      have hagain : ((c.modifyAccumulators (·.index (packet.from_, packet.id)
          response)).responseRequestId pb packet (some transmitter)).bind (fun requestId =>
            (c.modifyAccumulators (·.index (packet.from_, packet.id)
              response)).accumulators.messagesByPacket.get? (packet.to_, requestId)) =
          some response := by
        change (c.responseRequestId pb packet (some transmitter)).bind (fun requestId =>
          (c.accumulators.messagesByPacket.set (packet.from_, packet.id) response).get?
            (packet.to_, requestId)) = _
        rw [hrequest, Option.bind_some, Dict.get?_set]
        split
        · rfl
        · exact hget
      unfold messageForPacketIdentity
      dsimp only
      rw [hagain]

/-! ## What the calls leave -/

theorem SameLookup.publish (c : TrafficController) (event : PacketEvent) :
    SameLookup c (c.publish event) := ⟨rfl, rfl, rfl, rfl⟩

theorem SameLookup.publishMetricUpdate (c : TrafficController) (m : Moment)
    (values : List (String × MetricValue)) (result : String) :
    SameLookup c (c.publishMetricUpdate m values result) := by
  unfold TrafficController.publishMetricUpdate
  split
  · exact .refl c
  · split
    · exact .refl c
    · exact .publish c _

theorem SameLookup.identified (pb : Protobuf) (c : TrafficController) (packet : MeshPacket)
    (transmitter : String) : SameLookup c (c.identified pb packet transmitter) := by
  unfold TrafficController.identified messageForPacketIdentity
  dsimp only
  split
  · exact ⟨rfl, rfl, rfl, rfl⟩
  · exact .refl c

/-- Marking a message as transmitted leaves its submission. -/
theorem SameLookup.markTransmitted (c : TrafficController) (ref : Nat)
    (message : GeneratedMessage) : SameLookup c (c.markTransmitted ref message) := by
  unfold TrafficController.markTransmitted
  split
  · exact .refl c
  · refine ⟨?_, rfl, ?_, rfl⟩
    · unfold current modifyAccumulators modifyMessage
      dsimp only
      cases c.frozenResults with
      | nil => cases c.run <;> rfl
      | cons newest older => rfl
    · unfold messages modifyAccumulators modifyMessage
      dsimp only
      cases c.run with
      | none => rfl
      | some run => exact map_modify_of_eq _ _ fun _ => rfl

theorem SameLookup.countRelay (c : TrafficController) (origin hardwareId : Nat) :
    SameLookup c (c.countRelay origin hardwareId) := by
  unfold TrafficController.countRelay
  split
  · exact .refl c
  · exact ⟨rfl, rfl, rfl, rfl⟩

/-- A write to counters that no correlation reads. -/
theorem SameLookup.modifyAccumulators (c : TrafficController) (f : Accumulators → Accumulators) :
    SameLookup c (c.modifyAccumulators f) := ⟨rfl, rfl, rfl, rfl⟩

theorem sameLookup_recordRfTransmission (pb : Protobuf) (c : TrafficController) (m : Moment)
    (transmitter : String) (packet : MeshPacket) (packetAirtimeMs : Nat) :
    SameLookup c (c.recordRfTransmission pb m transmitter packet packetAirtimeMs).1 := by
  have hidentified : SameLookup c (c.messageForPacketIdentity pb packet (some transmitter)).2 :=
    .identified pb c packet transmitter
  unfold recordRfTransmission
  split
  · exact .refl c
  · split
    · exact .refl c
    · dsimp only
      split
      · exact hidentified
      · next ref message _ =>
          split
          · exact hidentified
          · have hcounted := (hidentified.trans (.markTransmitted _ ref message)).trans
              (.modifyAccumulators _ (·.addTransmission transmitter packetAirtimeMs))
            split
            · exact hcounted
            · next hardwareId _ =>
                have hrelayed := hcounted.trans (.countRelay _ packet.from_ hardwareId)
                have hnoted : SameLookup c ((_ : TrafficController).noteActivity m) :=
                  hrelayed.trans ⟨rfl, rfl, rfl, rfl⟩
                exact hnoted.trans (.publishMetricUpdate _ m _ _)

theorem sameLookup_recordDrop (pb : Protobuf) (c : TrafficController) (m : Moment)
    (transmitter : String) (packet : MeshPacket) (reason : String) :
    SameLookup c (c.recordDrop pb m transmitter packet reason) := by
  have hidentified : SameLookup c (c.messageForPacketIdentity pb packet (some transmitter)).2 :=
    .identified pb c packet transmitter
  unfold recordDrop
  split
  · exact .refl c
  · dsimp only
    split
    · exact hidentified
    · split
      · exact hidentified
      · have hcounted : SameLookup c (((_ : TrafficController).modifyAccumulators
            (·.addDrop reason)).noteActivity m) := hidentified.trans ⟨rfl, rfl, rfl, rfl⟩
        exact hcounted.trans (.publishMetricUpdate _ m _ _)

/-- Whoever has the keys of a controller that has looked a packet up finds it alike. -/
theorem found_of_keys {pb : Protobuf} {packet : MeshPacket} {transmitter : String}
    (hkeys : Watch.SameKeys (c.identified pb packet transmitter).watch d.watch) :
    (d.messageForPacketIdentity pb packet (some transmitter)).1 =
      (c.messageForPacketIdentity pb packet (some transmitter)).1 :=
  (messageForPacketIdentity_congr pb packet (some transmitter) hkeys.hardwareIds
    hkeys.messagesByPacket).trans (messageForPacketIdentity_identified pb c packet transmitter)

/-- A count changes no key. -/
theorem sameKeys_of_count {deed : Deed} (hkeyless : deed.keyless = true)
    (hdoes : Watch.Does Watch.NoDeed (c.watch.after deed) d.watch) :
    Watch.SameKeys c.watch d.watch := by
  obtain ⟨hidentities, hids, hbyPacket, hhardware⟩ := hdoes.sameKeys_of_none
  cases deed with
  | respond key ref => cases hkeyless
  | reserve ids => cases hkeyless
  | generate source packetId hardwareId => cases hkeyless
  | _ => exact ⟨hidentities, hids, hbyPacket, hhardware⟩

/-- After a transmission the same message is found for its packet. -/
theorem correlated_recordRfTransmission (pb : Protobuf) (c : TrafficController) (m : Moment)
    (transmitter : String) (packet : MeshPacket) (packetAirtimeMs : Nat) :
    (c.recordRfTransmission pb m transmitter packet packetAirtimeMs).1.correlated pb transmitter
      packet = c.correlated pb transmitter packet := by
  refine (sameLookup_recordRfTransmission pb c m transmitter packet packetAirtimeMs).correlated ?_
  have htransmitted :=
    transmitted_recordRfTransmission pb c m transmitter packet packetAirtimeMs
  generalize (c.recordRfTransmission pb m transmitter packet packetAirtimeMs).1 = d at *
  generalize (c.recordRfTransmission pb m transmitter packet packetAirtimeMs).2 = answer at *
  cases htransmitted with
  | refused hsame => rw [hsame]
  | foreign haccepts hsame =>
      rw [hsame]
      exact messageForPacketIdentity_identified pb c packet transmitter
  | unknown haccepts hhardware hdoes => exact found_of_keys (sameKeys_of_count rfl hdoes)
  | counted run ref message hrun haccepts hresolve hsubmitted hdoes =>
      exact found_of_keys (sameKeys_of_count rfl hdoes)

/-- So it is after a drop. -/
theorem correlated_recordDrop (pb : Protobuf) (c : TrafficController) (m : Moment)
    (transmitter : String) (packet : MeshPacket) (reason : String) :
    (c.recordDrop pb m transmitter packet reason).correlated pb transmitter packet =
      c.correlated pb transmitter packet := by
  refine (sameLookup_recordDrop pb c m transmitter packet reason).correlated ?_
  cases dropped_recordDrop pb c m transmitter packet reason with
  | refused hsame => rw [hsame]
  | foreign haccepts hsame =>
      rw [hsame]
      exact messageForPacketIdentity_identified pb c packet transmitter
  | counted ref message haccepts hresolve hsubmitted hdoes =>
      exact found_of_keys (sameKeys_of_count rfl hdoes)

theorem even_identified (runId : String) (pb : Protobuf) (c : TrafficController)
    (packet : MeshPacket) (transmitter : String) :
    Watch.Even runId c.watch (c.identified pb packet transmitter).watch := by
  refine Watch.Does.even (Watch.Does.mono
    (does_messageForPacketIdentity pb c packet (some transmitter)) ?_)
  intro v deed hmay
  cases deed with
  | respond key ref => trivial
  | _ => exact hmay.elim

/-- What is counted of a packet, if it is correlated. -/
def counted (found : Option (String × Nat)) (deed : Deed) (μ : Measure) : Nat :=
  if found.isSome then μ.gain deed else 0

/-- A message is looked up without a change of the messages. -/
theorem resolve_identified (pb : Protobuf) (c : TrafficController) (packet : MeshPacket)
    (transmitter : Option String) (ref : Option Nat) :
    (c.messageForPacketIdentity pb packet transmitter).2.resolve ref = c.resolve ref := by
  unfold messageForPacketIdentity
  dsimp only
  split <;> rfl

/-- A node with a hardware id is answered with what its packet is correlated to. -/
theorem answer_recordRfTransmission (pb : Protobuf) (m : Moment) {transmitter : String}
    (hknown : c.hardwareIds.contains transmitter = true) (packet : MeshPacket)
    (packetAirtimeMs : Nat) :
    (c.recordRfTransmission pb m transmitter packet packetAirtimeMs).2 =
      .ok (c.correlated pb transmitter packet) := by
  obtain ⟨hardwareId, hhardware⟩ := Option.isSome_iff_exists.mp hknown
  unfold recordRfTransmission correlated
  cases c.current with
  | none => rfl
  | some run =>
      by_cases haccepts : c.acceptsRunEvents = true
      · dsimp only
        rw [if_neg (not_not.mpr haccepts), if_neg (not_not.mpr haccepts), resolve_identified]
        cases c.resolve (c.messageForPacketIdentity pb packet (some transmitter)).1 with
        | none => rfl
        | some found =>
            obtain ⟨ref, message⟩ := found
            by_cases hsubmitted : message.submitted = true
            · have hids : (((c.messageForPacketIdentity pb packet
                  (some transmitter)).2.markTransmitted ref message).modifyAccumulators
                  (·.addTransmission transmitter packetAirtimeMs)).hardwareIds = c.hardwareIds :=
                (hardwareIds_markTransmitted _ ref message).trans
                  (hardwareIds_messageForPacketIdentity pb c packet _)
              dsimp only
              rw [if_neg (not_not.mpr hsubmitted), if_neg (not_not.mpr hsubmitted), hids, hhardware]
            · dsimp only
              rw [if_pos hsubmitted, if_pos hsubmitted]
      · dsimp only
        rw [if_pos haccepts, if_pos haccepts]

/-- A transmission is counted when its packet is correlated. -/
theorem posts_recordRfTransmission (runId : String) (pb : Protobuf) (m : Moment)
    {transmitter : String} (hknown : c.hardwareIds.contains transmitter = true)
    (packet : MeshPacket) (packetAirtimeMs : Nat) :
    Watch.Posts runId
      (fun μ => -(counted (c.correlated pb transmitter packet)
        (.transmission transmitter packetAirtimeMs) μ : ℤ))
      c.watch (c.recordRfTransmission pb m transmitter packet packetAirtimeMs).1.watch := by
  have hanswer := answer_recordRfTransmission pb m hknown packet packetAirtimeMs
  have htransmitted :=
    transmitted_recordRfTransmission pb c m transmitter packet packetAirtimeMs
  have hidentified := even_identified runId pb c packet transmitter
  rw [hanswer] at htransmitted
  generalize (c.recordRfTransmission pb m transmitter packet packetAirtimeMs).1 = d at *
  generalize c.correlated pb transmitter packet = found at *
  cases htransmitted with
  | refused hsame =>
      rw [hsame]
      exact Watch.Even.refl runId c.watch
  | foreign haccepts hsame =>
      rw [hsame]
      exact hidentified
  | counted run ref message hrun haccepts hresolve hsubmitted hdoes =>
      exact (hidentified.then (.count _ rfl)).then_even (Watch.Does.even_of_none hdoes)

/-- A drop is counted when its packet is correlated. -/
theorem posts_recordDrop (runId : String) (pb : Protobuf) (c : TrafficController) (m : Moment)
    (transmitter : String) (packet : MeshPacket) (reason : String) :
    Watch.Posts runId
      (fun μ => -(counted (c.correlated pb transmitter packet) (.drop reason) μ : ℤ))
      c.watch (c.recordDrop pb m transmitter packet reason).watch := by
  have hidentified := even_identified runId pb c packet transmitter
  unfold recordDrop correlated
  cases c.current with
  | none => exact Watch.Even.refl runId c.watch
  | some run =>
      by_cases haccepts : c.acceptsRunEvents = true
      · dsimp only
        rw [if_neg (not_not.mpr haccepts), if_neg (by simp [haccepts]), resolve_identified]
        cases c.resolve (c.messageForPacketIdentity pb packet (some transmitter)).1 with
        | none => exact hidentified
        | some found =>
            obtain ⟨ref, message⟩ := found
            by_cases hsubmitted : message.submitted = true
            · dsimp only
              rw [if_neg (not_not.mpr hsubmitted), if_neg (not_not.mpr hsubmitted)]
              let dropped := ((c.identified pb packet transmitter).modifyAccumulators
                (·.addDrop reason)).noteActivity m
              have hpublished : Does Watch.NoDeed dropped (dropped.publishDrops m) :=
                does_publishMetricUpdate dropped m _ _
              exact (hidentified.then (.count _ (show (Deed.drop reason).published = none from
                rfl))).then_even
                (Watch.Does.even_of_none hpublished)
            · dsimp only
              rw [if_pos hsubmitted, if_pos hsubmitted]
              exact hidentified
      · dsimp only
        rw [if_pos haccepts, if_pos (Or.inr haccepts)]
        exact Watch.Even.refl runId c.watch

end TrafficController

end MeshtasticLab.Traffic

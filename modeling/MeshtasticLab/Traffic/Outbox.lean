/-
  Traffic/Outbox.lean --- what a controller publishes.

  WHAT THIS FILE IS FOR

  The events of a controller are appended to its outbox, and none of them is an event
  of the medium: it never publishes a transmission or a disabled link.  Every deed
  keeps this, so every handler and every step of the tasks does.
-/
import MeshtasticLab.Traffic.Handled

set_option autoImplicit false

namespace MeshtasticLab.Traffic

open MeshtasticLab.Foundation MeshtasticLab.Gateway MeshtasticLab.Metrics MeshtasticLab.Models

/-- The medium publishes events of these types, and nobody else does. -/
def OfMedium (event : PacketEvent) : Prop :=
  event.eventType = .rfTransmit ∨ event.eventType = .linkDisabled

instance (event : PacketEvent) : Decidable (OfMedium event) :=
  inferInstanceAs (Decidable (_ ∨ _))

/-- The events of the medium among some events. -/
def mediumEvents (events : List PacketEvent) : List PacketEvent :=
  events.filter fun event => OfMedium event

theorem mediumEvents_append (events later : List PacketEvent) :
    mediumEvents (events ++ later) = mediumEvents events ++ mediumEvents later :=
  List.filter_append events later

/-- An ordinary event is none of the medium. -/
theorem Ordinary.not_ofMedium {event : PacketEvent} (h : Ordinary event) : ¬OfMedium event :=
  fun hmedium => hmedium.elim h.1 h.2.1

namespace Watch

/-- Events are appended to the outbox, the announced ones of the medium among them, and
the hardware ids stay. -/
structure Announces (announced : List PacketEvent) (v w : Watch) : Prop where
  outbox : ∃ events, w.outbox = v.outbox ++ events ∧ mediumEvents events = announced
  hardwareIds : w.hardwareIds = v.hardwareIds

/-- No event of the medium is announced. -/
def Appends (v w : Watch) : Prop := Announces [] v w

variable {u v w : Watch} {may : Watch → Deed → Prop} {first second : List PacketEvent}

theorem Announces.trans (hfirst : Announces first u v) (hsecond : Announces second v w) :
    Announces (first ++ second) u w := by
  obtain ⟨events, houtbox, hevents⟩ := hfirst.outbox
  obtain ⟨events', houtbox', hevents'⟩ := hsecond.outbox
  refine ⟨⟨events ++ events', ?_, ?_⟩, hsecond.hardwareIds.trans hfirst.hardwareIds⟩
  · rw [houtbox', houtbox, List.append_assoc]
  · rw [mediumEvents_append, hevents, hevents']

/-- One event of the medium is published. -/
theorem Announces.single {event : PacketEvent} (houtbox : w.outbox = v.outbox ++ [event])
    (hids : w.hardwareIds = v.hardwareIds) (hmedium : OfMedium event) :
    Announces [event] v w :=
  ⟨⟨[event], houtbox, by simp [mediumEvents, hmedium]⟩, hids⟩

/-- The events of the medium in the outbox. -/
theorem Announces.extend (h : Announces first v w) :
    mediumEvents w.outbox = mediumEvents v.outbox ++ first := by
  obtain ⟨events, houtbox, hevents⟩ := h.outbox
  rw [houtbox, mediumEvents_append, hevents]

/-- The events that were published since. -/
theorem Announces.published (h : Announces first v w) :
    mediumEvents (w.outbox.drop v.outbox.length) = first := by
  obtain ⟨events, houtbox, hevents⟩ := h.outbox
  rw [houtbox, List.drop_left, hevents]

/-- Nothing is published. -/
theorem Appends.of_same (houtbox : w.outbox = v.outbox) (hids : w.hardwareIds = v.hardwareIds) :
    Appends v w :=
  ⟨⟨[], by rw [houtbox, List.append_nil], rfl⟩, hids⟩

theorem Appends.refl (v : Watch) : Appends v v := .of_same rfl rfl

theorem Appends.trans (hfirst : Appends u v) (hsecond : Appends v w) : Appends u w :=
  Announces.trans hfirst hsecond

/-- One event is published, and none of the medium. -/
theorem Appends.single {event : PacketEvent} (houtbox : w.outbox = v.outbox ++ [event])
    (hids : w.hardwareIds = v.hardwareIds) (hnone : ¬OfMedium event) : Appends v w :=
  ⟨⟨[event], houtbox, by simp [mediumEvents, hnone]⟩, hids⟩

/-- Deeds append, if their deliveries are none of the medium. -/
theorem Does.appends (h : Does may v w)
    (hdeliveries : ∀ u event, may u (.deliver event) → ¬OfMedium event) : Appends v w := by
  refine h.invariant ?_ (.refl v)
  intro u deed happends hmay
  refine happends.trans ?_
  cases deed with
  | publish event => exact .single rfl rfl (Ordinary.not_ofMedium hmay)
  | deliver event => exact .single rfl rfl (hdeliveries u event hmay)
  | _ => exact .of_same rfl rfl

theorem Does.appends_of_none (h : Does NoDeed v w) : Appends v w :=
  h.appends fun _ _ hnone => hnone.elim

end Watch

namespace TrafficController

variable {c : TrafficController}

/-! ## Handlers -/

theorem appends_identified (pb : Protobuf) (c : TrafficController) (packet : MeshPacket)
    (transmitter : String) :
    Watch.Appends c.watch (c.identified pb packet transmitter).watch :=
  Watch.Does.appends (does_messageForPacketIdentity pb c packet (some transmitter))
    fun _ _ hmay => hmay.elim

theorem appends_handleFromRadio (pb : Protobuf) (c : TrafficController) (m : Moment)
    (nodeId : String) (message : FromRadio) :
    Watch.Appends c.watch (c.handleFromRadio pb m nodeId message).1.watch := by
  refine Watch.Does.appends (does_handleFromRadio pb c m nodeId message) ?_
  rintro _ event ⟨htype, _⟩ (hmedium | hmedium)
  · cases htype.symm.trans hmedium
  · cases htype.symm.trans hmedium

theorem appends_recordRfTransmission (pb : Protobuf) (c : TrafficController) (m : Moment)
    (transmitter : String) (packet : MeshPacket) (packetAirtimeMs : Nat) :
    Watch.Appends c.watch
      (c.recordRfTransmission pb m transmitter packet packetAirtimeMs).1.watch := by
  rcases counts_recordRfTransmission pb c m transmitter packet packetAirtimeMs with
    hsame | ⟨_, hcounts⟩
  · rw [hsame]
    exact .refl _
  · exact (appends_identified pb c packet transmitter).trans
      (Watch.Does.appends hcounts fun _ _ hmay => hmay.elim)

theorem appends_recordDrop (pb : Protobuf) (c : TrafficController) (m : Moment)
    (transmitter : String) (packet : MeshPacket) (reason : String) :
    Watch.Appends c.watch (c.recordDrop pb m transmitter packet reason).watch := by
  rcases counts_recordDrop pb c m transmitter packet reason with hsame | ⟨_, hcounts⟩
  · rw [hsame]
    exact .refl _
  · exact (appends_identified pb c packet transmitter).trans
      (Watch.Does.appends hcounts fun _ _ hmay => hmay.elim)

theorem appends_of_samples {d : TrafficController} (h : Does MaySample c d) :
    Watch.Appends c.watch d.watch :=
  Watch.Does.appends h fun _ _ hmay => hmay.elim

end TrafficController

namespace TrafficTasks

open TrafficController

variable {s t : TrafficTasks}

/-! ## Steps -/

theorem appends_submitHandled (pb : Protobuf) (hopen : s.controller.frozenResults = [])
    (m : Moment) (flow source pick : Nat) (draws : List Nat) :
    Watch.Appends s.controller.watch (s.submitHandled pb m flow source pick draws).watch := by
  cases hcall : s.submission flow source pick with
  | none =>
      rw [submitHandled_of_none pb m hcall]
      exact .refl _
  | some call =>
      cases submitted_submitHandled pb hopen m hcall draws with
      | nothing hnone hwatch => exact .of_same (by rw [hwatch]) (by rw [hwatch])
      | reserved packetId ids hallocation hwatch =>
          rw [hwatch]
          exact .of_same rfl rfl
      | generated packetId hardwareId ids hallocation hhardware hdoes =>
          refine Watch.Appends.trans ?_ (Watch.Does.appends_of_none hdoes)
          exact .of_same rfl rfl

/-- What a handler publishes is none of the medium. -/
theorem appends_handled (pb : Protobuf) (h : Structured s) {a : Action}
    (hstep : step pb s a = some t) :
    Watch.Appends s.controller.watch (s.handled pb a).watch := by
  cases a with
  | fromRadio m nodeId message => exact appends_handleFromRadio pb s.controller m nodeId message
  | rfTransmission m transmitter packet packetAirtimeMs =>
      exact appends_recordRfTransmission pb s.controller m transmitter packet packetAirtimeMs
  | drop m transmitter packet reason =>
      exact appends_recordDrop pb s.controller m transmitter packet reason
  | failedReceptions m nodeId total =>
      exact appends_of_samples (samples_recordFailedReceptions s.controller m nodeId total)
  | duplicateReceptions m nodeId total =>
      exact appends_of_samples (samples_recordDuplicateReceptions s.controller m nodeId total)
  | run m input =>
      cases input with
      | submit flow source pick draws =>
          exact appends_submitHandled pb (h.open_of_submit hstep) m flow source pick draws
      | sampled answer =>
          exact appends_of_samples (samples_applyFinalSample s.controller m answer)
      | _ => exact .refl _
  | resume i m input =>
      cases input with
      | sampled answer =>
          exact appends_of_samples (samples_applyFinalSample s.controller m answer)
      | _ => exact .refl _
  | _ => exact .refl _

/-- What a step of the tasks publishes is none of the medium. -/
theorem appends_step (pb : Protobuf) (h : Structured s) {a : Action}
    (hstep : step pb s a = some t) : Watch.Appends s.controller.watch t.controller.watch := by
  cases hstart : a.starts with
  | false =>
      exact (appends_handled pb h hstep).trans
        (Watch.Does.appends_of_none (does_step pb hstart hstep))
  | true =>
      cases a with
      | start m runId request scenarioSnapshot baseline =>
          rcases watch_start hstep with rfl | ⟨error, ids, _, rfl⟩ | ⟨ids, _, _, _, hwatch⟩
          · exact .refl _
          · exact .of_same rfl rfl
          · rw [hwatch]
            exact .of_same rfl rfl
      | _ => cases hstart

end TrafficTasks

end MeshtasticLab.Traffic

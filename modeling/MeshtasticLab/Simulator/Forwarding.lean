/-
  Simulator/Forwarding.lean --- the accounts that the medium keeps of its frames.

  WHAT THIS FILE IS FOR

  A node loop decides on all receivers of a frame in one step, from the link map of
  that moment, and takes its next frame only when every injection of this one has run.
  `Forwards` says what every state of every run keeps of this: what a frame owed when
  it was taken is what has arrived of it together with what is still to be injected.
-/
import MeshtasticLab.Simulator.Progress
import MeshtasticLab.Traffic.Outbox

set_option autoImplicit false

namespace MeshtasticLab.Simulator

open MeshtasticLab.Foundation MeshtasticLab.Gateway MeshtasticLab.Metrics MeshtasticLab.Models
open MeshtasticLab.Traffic

/-! ## Histories -/

/-- One frame that a node loop took: the link map of that moment and the events that were
published up to the `gather`. -/
structure Decision where
  transmitter : String
  packet : MeshPacket
  links : Dict (String × String) DirectedLink
  published : List PacketEvent

/-- One packet that a gateway was given, and the frame that the transmitter had taken
last, by its position. -/
structure Arrival where
  transmitter : String
  frame : Nat
  receiver : String
  packet : MeshPacket

/-- What the firmware emitted, the frames that were taken and the packets that arrived. -/
structure MediumHistory where
  emitted : String → List MeshPacket
  decisions : List Decision := []
  arrivals : List Arrival := []

namespace MediumHistory

/-- The frames of a transmitter that were taken. -/
def decisionsOf (h : MediumHistory) (a : String) : List Decision :=
  h.decisions.filter fun decision => decision.transmitter = a

/-- Where a frame of a transmitter has arrived, and what arrived there. -/
def arrived (h : MediumHistory) (a : String) (k : Nat) : List (String × MeshPacket) :=
  (h.arrivals.filter fun arrival => arrival.transmitter = a ∧ arrival.frame = k).map
    fun arrival => (arrival.receiver, arrival.packet)

/-- The positions of the frames that have arrived at one node from another. -/
def framesAt (h : MediumHistory) (a b : String) : List Nat :=
  (h.arrivals.filter fun arrival => arrival.transmitter = a ∧ arrival.receiver = b).map
    (·.frame)

end MediumHistory

namespace Simulation

/-- The packets that the gateways were given in a step. -/
def arrivals (s t : Simulation) (transmitter : String) (frame : Nat) : List Arrival :=
  s.medium.gateways.flatMap fun receiver =>
    ((t.medium.injected receiver).drop (s.medium.injected receiver).length).map fun packet =>
      { transmitter := transmitter, frame := frame, receiver := receiver, packet := packet }

/-- The history after a step. -/
def note (h : MediumHistory) (s : Simulation) (a : Action) (t : Simulation) : MediumHistory :=
  match a with
  | .rfFrame nodeId packet =>
      { h with emitted := Function.update h.emitted nodeId (h.emitted nodeId ++ [packet]) }
  | .transmit _ nodeId =>
      { h with
        decisions := h.decisions ++ (s.medium.rfFrames nodeId).head?.toList.map fun packet =>
          { transmitter := nodeId
            packet := packet
            links := s.medium.links
            published := t.controller.outbox.drop s.controller.outbox.length } }
  | .inject nodeId _ =>
      { h with arrivals := h.arrivals ++ s.arrivals t nodeId ((h.decisionsOf nodeId).length - 1) }
  | _ => h

end Simulation

/-- A payload of `SIMULATOR_APP` parses as `Compressed`. -/
def Parses (pb : Protobuf) (packet : MeshPacket) : Prop :=
  match packet.payload with
  | .decoded data => data.portnum = SIMULATOR_APP → pb.parseCompressed data.payload ≠ none
  | _ => True

instance (pb : Protobuf) (packet : MeshPacket) : Decidable (Parses pb packet) := by
  unfold Parses
  split <;> infer_instance

namespace Simulation

/-- The frame that is taken parses, and no injection raises. -/
def Provided (pb : Protobuf) (s : Simulation) : Action → Prop
  | .transmit _ nodeId => ∀ packet ∈ (s.medium.rfFrames nodeId).head?, Parses pb packet
  | .injectionRaised .. => False
  | _ => True

instance (pb : Protobuf) (s : Simulation) (a : Action) : Decidable (Provided pb s a) := by
  cases a <;> unfold Provided <;> infer_instance

/-- The injections of a frame that have not run: those of the frame that was taken last. -/
def outstanding (s : Simulation) (h : MediumHistory) (a : String) (k : Nat) :
    List (String × MeshPacket) :=
  if k + 1 = (h.decisionsOf a).length then
    (s.medium.loops a).pending.map fun injection => (injection.link.toNode, injection.packet)
  else []

end Simulation

/-! ## Links -/

namespace DirectedMedium

variable {nodeIds : List String} {links : Dict (String × String) DirectedLink}

/-- The links of a transmitter over which its frames are injected. -/
def enabledFrom (links : Dict (String × String) DirectedLink) (a : String) :
    List DirectedLink :=
  (linksFrom links a).filter fun link => link.enabled

/-- The links of a transmitter over which its frames are dropped. -/
def disabledFrom (links : Dict (String × String) DirectedLink) (a : String) :
    List DirectedLink :=
  (linksFrom links a).filter fun link => !link.enabled

/-- The links of a transmitter are those under its keys. -/
theorem mem_linksFrom (hmeshed : Scenario.Meshed nodeIds links) {a : String}
    {link : DirectedLink} :
    link ∈ linksFrom links a ↔
      links.get? (a, link.toNode) = some link ∧ link.fromNode = a := by
  unfold linksFrom
  rw [List.mem_map]
  constructor
  · rintro ⟨⟨key, found⟩, hitem, rfl⟩
    obtain ⟨hitem, hsource⟩ := List.mem_filter.mp hitem
    have hget := Dict.get?_eq_some.mpr hitem
    have hkey : found.key = key := hmeshed.keyed key found hget
    have hsame : key.1 = a := by simpa using hsource
    refine ⟨?_, ?_⟩
    · rw [← hkey] at hget
      rw [← hsame, ← hkey]
      exact hget
    · rw [← hsame, ← hkey]
      rfl
  · rintro ⟨hget, _⟩
    exact ⟨((a, link.toNode), link), List.mem_filter.mpr
      ⟨Dict.get?_eq_some.mp hget, by simp⟩, rfl⟩

/-- No two links of a transmitter lead to one node. -/
theorem nodup_linksFrom (hmeshed : Scenario.Meshed nodeIds links) (a : String) :
    ((linksFrom links a).map (·.toNode)).Nodup := by
  have hkeys : ((links.items.filter fun item => item.1.1 = a).map (·.1)).Nodup :=
    links.distinct.sublist (List.filter_sublist.map _)
  unfold linksFrom
  rw [List.map_map]
  rw [List.nodup_iff_pairwise_ne, List.pairwise_map] at hkeys ⊢
  refine hkeys.imp_of_mem ?_
  intro x y hx hy hne htarget
  apply hne
  obtain ⟨hx, hxa⟩ := List.mem_filter.mp hx
  obtain ⟨hy, hya⟩ := List.mem_filter.mp hy
  have hxkey := hmeshed.keyed _ _ (Dict.get?_eq_some.mpr hx)
  have hykey := hmeshed.keyed _ _ (Dict.get?_eq_some.mpr hy)
  have hsources : x.1.1 = y.1.1 := by
    rw [decide_eq_true_eq] at hxa hya
    rw [hxa, hya]
  have htargets : x.1.2 = y.1.2 := by
    rw [← hxkey, ← hykey]
    exact htarget
  exact Prod.ext hsources htargets

theorem meshed_updateLink {medium medium' : DirectedMedium} {link : DirectedLink}
    (hmeshed : Scenario.Meshed nodeIds medium.links)
    (hupdate : medium.updateLink link = .ok medium') :
    medium' = { medium with links := medium'.links } ∧
      Scenario.Meshed nodeIds medium'.links := by
  unfold updateLink at hupdate
  split at hupdate
  · next hknown =>
      cases hupdate
      refine ⟨rfl, ?_, ?_⟩
      · intro key found hget
        rw [Dict.get?_set] at hget
        split at hget
        · next hkey =>
            cases hget
            exact hkey.symm
        · exact hmeshed.keyed key found hget
      · intro key
        rw [Dict.contains_set, ← hmeshed.paired key]
        refine or_iff_right_of_imp ?_
        rintro rfl
        exact hknown
  · cases hupdate

theorem meshed_applyLinks {medium medium' : DirectedMedium} {replaced changed : List DirectedLink}
    (hmeshed : Scenario.Meshed nodeIds medium.links)
    (happly : medium.applyLinks replaced = .ok (medium', changed)) :
    medium' = { medium with links := medium'.links } ∧
      Scenario.Meshed nodeIds medium'.links := by
  unfold applyLinks at happly
  dsimp only at happly
  split at happly
  · next hsame =>
      cases happly
      refine ⟨rfl, fun key link hget => (Scenario.get?_linkMapOf hget).2, fun key => ?_⟩
      rw [← hmeshed.paired key]
      have hkeys : ∀ (d e : Dict (String × String) DirectedLink),
          d.keys.all e.contains = true → d.contains key = true → e.contains key = true := by
        intro d e hall hcontains
        obtain ⟨link, hget⟩ := Option.isSome_iff_exists.mp hcontains
        exact List.all_eq_true.mp hall key
          (List.mem_map.mpr ⟨(key, link), Dict.get?_eq_some.mp hget, rfl⟩)
      exact ⟨hkeys _ _ hsame.1, hkeys _ _ hsame.2⟩
  · cases happly

/-! ## Transmissions -/

variable {pb : Protobuf} {c : TrafficController}

/-- A frame that parses has a length. -/
theorem payloadLength_of_parses {packet : MeshPacket} (hparses : Parses pb packet) :
    ∃ payloadLength, meshPacketPayloadLength pb packet = some payloadLength := by
  unfold Parses at hparses
  unfold meshPacketPayloadLength
  split
  · exact ⟨_, rfl⟩
  · exact ⟨_, rfl⟩
  · next data hpayload =>
      rw [hpayload] at hparses
      split
      · exact ⟨_, rfl⟩
      · next hport =>
          rw [not_not] at hport
          split
          · next hnone => exact absurd hnone (hparses hport)
          · split <;> exact ⟨_, rfl⟩

/-- The loop over the links drops the frame on the disabled ones and creates an injection
for each of the others. -/
theorem decide_links (frame : Transmission) (links : List DirectedLink)
    (decided : TrafficController × List Injection) :
    (links.foldl (frame.decide pb) decided).2 =
        decided.2 ++ (links.filter fun link => link.enabled).map (frame.injection pb) ∧
      Watch.Announces ((links.filter fun link => !link.enabled).map frame.disabledEvent)
        decided.1.watch (links.foldl (frame.decide pb) decided).1.watch := by
  induction links generalizing decided with
  | nil => exact ⟨(List.append_nil _).symm, Watch.Appends.refl _⟩
  | cons link rest ih =>
      obtain ⟨hinjections, hannounces⟩ := ih (frame.decide pb decided link)
      rw [List.foldl_cons]
      cases henabled : link.enabled with
      | true =>
          have hdecide : frame.decide pb decided link =
              (decided.1, decided.2 ++ [frame.injection pb link]) := by
            simp [Transmission.decide, henabled]
          rw [hdecide] at hinjections hannounces ⊢
          constructor
          · rw [hinjections]
            simp [henabled]
          · rw [List.filter_cons_of_neg (by simp [henabled])]
            exact hannounces
      | false =>
          have hdecide : frame.decide pb decided link =
              ((decided.1.publish (frame.disabledEvent link)).recordDrop pb frame.m
                frame.transmitter frame.packet "link-disabled", decided.2) := by
            simp [Transmission.decide, henabled]
          rw [hdecide] at hinjections hannounces ⊢
          constructor
          · rw [hinjections]
            simp [henabled]
          · rw [List.filter_cons_of_pos (by simp [henabled]), List.map_cons]
            have hpublished : Watch.Announces [frame.disabledEvent link] decided.1.watch
                (decided.1.publish (frame.disabledEvent link)).watch :=
              .single rfl rfl (Or.inr rfl)
            exact (hpublished.trans (TrafficController.appends_recordDrop pb _ frame.m
              frame.transmitter frame.packet "link-disabled")).trans hannounces

/-- The events with which a frame is decided. -/
def Transmission.announced (frame : Transmission) (hardwareIds : Dict String Nat)
    (links : Dict (String × String) DirectedLink) : List PacketEvent :=
  frame.event hardwareIds ((enabledFrom links frame.transmitter).map (·.toNode)) ::
    (disabledFrom links frame.transmitter).map frame.disabledEvent

theorem forward_spec (medium : DirectedMedium) (c : TrafficController) (frame : Transmission) :
    (medium.forward pb c frame).2 =
        (enabledFrom medium.links frame.transmitter).map (frame.injection pb) ∧
      Watch.Announces (frame.announced medium.hardwareIds medium.links) c.watch
        (medium.forward pb c frame).1.watch := by
  have hpublished : Watch.Announces [frame.event medium.hardwareIds
      ((enabledFrom medium.links frame.transmitter).map (·.toNode))] c.watch
      (c.publish (frame.event medium.hardwareIds
        ((enabledFrom medium.links frame.transmitter).map (·.toNode)))).watch :=
    .single rfl rfl (Or.inl rfl)
  obtain ⟨hinjections, hdecided⟩ :=
    decide_links frame (linksFrom medium.links frame.transmitter) (c.publish _, [])
  exact ⟨hinjections, hpublished.trans hdecided⟩

/-- A frame that parses, from a node with a hardware id, is decided. -/
theorem transmit_spec (medium : DirectedMedium) (m : Moment) {a : String} {packet : MeshPacket}
    (hparses : Parses pb packet) (hknown : c.hardwareIds.contains a = true) :
    ∃ frame : Transmission, frame.transmitter = a ∧ frame.packet = packet ∧
      (medium.transmit pb c m a packet).2 =
        some ((enabledFrom medium.links a).map (frame.injection pb)) ∧
      Watch.Announces (frame.announced medium.hardwareIds medium.links) c.watch
        (medium.transmit pb c m a packet).1.watch := by
  obtain ⟨payloadLength, hlength⟩ := payloadLength_of_parses hparses
  have htransmitted := TrafficController.transmitted_recordRfTransmission pb c m a packet
    (airtimeMs payloadLength medium.scenario.rf.modemPreset)
  have hrecorded := TrafficController.appends_recordRfTransmission pb c m a packet
    (airtimeMs payloadLength medium.scenario.rf.modemPreset)
  unfold transmit
  rw [hlength]
  dsimp only
  split
  · next d error hraised =>
      rw [hraised] at htransmitted
      cases htransmitted with
      | unknown haccepts hhardware hdoes =>
          unfold Dict.contains at hknown
          rw [hhardware] at hknown
          cases hknown
  · next d correlation hanswered =>
      rw [hanswered] at hrecorded
      let frame : Transmission :=
        { transmitter := a
          packet := packet
          m := m
          portNumber := meshPacketPortNumber pb packet
          payloadLength := payloadLength
          packetAirtimeMs := airtimeMs payloadLength medium.scenario.rf.modemPreset
          trafficRunId := correlation.map Prod.fst
          trafficSequence := correlation.map Prod.snd }
      obtain ⟨hinjections, hforwarded⟩ := forward_spec medium d frame
      refine ⟨frame, rfl, rfl, congrArg some hinjections, ?_⟩
      exact Watch.Announces.trans hrecorded hforwarded

end DirectedMedium

/-! ## What every state of a run keeps -/

open DirectedMedium

/-- Where a frame is to arrive, and what is to arrive there. -/
def Decision.due (pb : Protobuf) (d : Decision) : List (String × MeshPacket) :=
  (enabledFrom d.links d.transmitter).map fun link => (link.toNode, received pb d.packet link)

/-- A frame of a node was decided from one link map, and every event of the decision is
its own. -/
def Decision.Sound (nodeIds : List String) (hardwareIds : Dict String Nat) (d : Decision) :
    Prop :=
  d.transmitter ∈ nodeIds ∧ Scenario.Meshed nodeIds d.links ∧
    ∃ frame : Transmission, frame.transmitter = d.transmitter ∧ frame.packet = d.packet ∧
      mediumEvents d.published = frame.announced hardwareIds d.links

namespace Simulation

/-- The medium keeps its links, its loops and its accounts of every frame. -/
structure Forwards (pb : Protobuf) (nodeIds : List String) (hardwareIds : Dict String Nat)
    (s : Simulation) (h : MediumHistory) : Prop where
  accounts : TrafficTasks.Sound s.tasks
  gateways : s.medium.gateways = nodeIds
  ids : s.medium.hardwareIds = hardwareIds
  known : s.controller.hardwareIds = hardwareIds
  meshed : Scenario.Meshed nodeIds s.medium.links
  alive : ∀ a pending, s.medium.loops a ≠ .failed pending
  sound : ∀ d ∈ h.decisions, d.Sound nodeIds hardwareIds
  arriving : ∀ a k d, (h.decisionsOf a)[k]? = some d →
    (h.arrived a k ++ s.outstanding h a k).Perm (d.due pb)
  idle : ∀ a, h.decisionsOf a = [] → (s.medium.loops a).pending = []
  taken : ∀ arrival ∈ h.arrivals, arrival.frame < (h.decisionsOf arrival.transmitter).length
  inOrder : ∀ a, ((h.arrivals.filter fun arrival => arrival.transmitter = a).map
    (·.frame)).Pairwise (· ≤ ·)
  emitted : ∀ a, ((h.decisionsOf a).map (·.packet) ++ s.medium.rfFrames a).Sublist (h.emitted a)
  evidence : mediumEvents s.controller.outbox =
    h.decisions.flatMap fun d => mediumEvents d.published

variable {pb : Protobuf} {nodeIds : List String} {hardwareIds : Dict String Nat}
  {s t : Simulation} {h : MediumHistory}

/-- A step that takes no frame and runs no injection. -/
theorem Forwards.keep (hforwards : Forwards pb nodeIds hardwareIds s h)
    (hprogress : Progresses pb s.tasks t.tasks)
    (hgateways : t.medium.gateways = s.medium.gateways)
    (hids : t.medium.hardwareIds = s.medium.hardwareIds)
    (happends : Watch.Appends s.controller.watch t.controller.watch)
    (hmeshed : Scenario.Meshed nodeIds t.medium.links)
    (halive : ∀ a pending, t.medium.loops a ≠ .failed pending)
    (hpending : ∀ a, (t.medium.loops a).pending = (s.medium.loops a).pending)
    (emitted : String → List MeshPacket)
    (hemitted : ∀ a,
      ((h.decisionsOf a).map (·.packet) ++ t.medium.rfFrames a).Sublist (emitted a)) :
    Forwards pb nodeIds hardwareIds t { h with emitted := emitted } where
  accounts := hprogress.sound hforwards.accounts
  gateways := hgateways.trans hforwards.gateways
  ids := hids.trans hforwards.ids
  known := happends.hardwareIds.trans hforwards.known
  meshed := hmeshed
  alive := halive
  sound := hforwards.sound
  arriving a k d hget := by
    have houtstanding : t.outstanding { h with emitted := emitted } a k = s.outstanding h a k := by
      unfold outstanding
      rw [hpending]
      rfl
    rw [houtstanding]
    exact hforwards.arriving a k d hget
  idle a hnone := (hpending a).trans (hforwards.idle a hnone)
  taken := hforwards.taken
  inOrder := hforwards.inOrder
  emitted := hemitted
  evidence := (Watch.Announces.extend happends).trans
    ((List.append_nil _).trans hforwards.evidence)

/-- A frame is taken. -/
theorem decisionsOf_concat (h : MediumHistory) (d : Decision) (a : String) :
    ({ h with decisions := h.decisions ++ [d] } : MediumHistory).decisionsOf a =
      h.decisionsOf a ++ if d.transmitter = a then [d] else [] := by
  unfold MediumHistory.decisionsOf
  rw [List.filter_append, List.filter_singleton]
  by_cases hsame : d.transmitter = a <;> simp [hsame]

/-- A packet arrives. -/
theorem arrived_concat (h : MediumHistory) (arrival : Arrival) (a : String) (k : Nat) :
    ({ h with arrivals := h.arrivals ++ [arrival] } : MediumHistory).arrived a k =
      h.arrived a k ++ if arrival.transmitter = a ∧ arrival.frame = k then
        [(arrival.receiver, arrival.packet)] else [] := by
  unfold MediumHistory.arrived
  rw [List.filter_append, List.map_append, List.filter_singleton]
  by_cases hsame : arrival.transmitter = a ∧ arrival.frame = k
  · rw [if_pos hsame, decide_eq_true hsame]
    rfl
  · rw [if_neg hsame, decide_eq_false hsame]
    rfl

/-- No frame arrives before it is taken. -/
theorem Forwards.arrived_next (hforwards : Forwards pb nodeIds hardwareIds s h) (a : String) :
    h.arrived a (h.decisionsOf a).length = [] := by
  unfold MediumHistory.arrived
  rw [List.map_eq_nil_iff, List.filter_eq_nil_iff]
  intro arrival hmember
  have htaken := hforwards.taken arrival hmember
  simp only [decide_eq_true_eq, not_and]
  rintro rfl hframe
  omega

/-- A loop that waits owes nothing. -/
theorem outstanding_of_waiting {a : String} (hwaiting : s.medium.loops a = .waiting) (k : Nat) :
    s.outstanding h a k = [] := by
  unfold outstanding
  rw [hwaiting]
  exact ite_self _

/-- A node loop takes a frame and decides on its receivers. -/
theorem Forwards.transmit (hforwards : Forwards pb nodeIds hardwareIds s h)
    (hknown : ∀ nodeId ∈ nodeIds, hardwareIds.contains nodeId = true) {m : Moment} {a : String}
    (hprovided : Provided pb s (.transmit m a)) (hstep : step pb s (.transmit m a) = some t) :
    Forwards pb nodeIds hardwareIds t (note h s (.transmit m a) t) := by
  unfold step at hstep
  dsimp only at hstep
  split at hstep
  · cases hstep
  · next hmember =>
      rw [not_not, hforwards.gateways] at hmember
      unfold transmitNext at hstep
      split at hstep
      · next packet rest hloop hframes =>
          have hparses : Parses pb packet := by
            apply hprovided packet
            rw [hframes]
            rfl
          have hsource : s.controller.hardwareIds.contains a = true := by
            rw [hforwards.known]
            exact hknown a hmember
          obtain ⟨frame, htransmitter, hpacket, hinjections, hannounces⟩ :=
            transmit_spec s.medium m hparses hsource
          have hprogress : Progresses pb s.tasks
              (s.tasks.withController (s.medium.transmit pb s.controller m a packet).1) :=
            progress_transmit s.medium s.tasks m a packet
          cases hstep
          rw [hinjections]
          generalize (s.medium.transmit pb s.controller m a packet).1 = c at *
          -- the new frame, with everything that it owes outstanding
          let d : Decision :=
            { transmitter := a
              packet := packet
              links := s.medium.links
              published := c.outbox.drop s.controller.outbox.length }
          have hsound : d.Sound nodeIds hardwareIds := by
            refine ⟨hmember, hforwards.meshed, frame, htransmitter, hpacket, ?_⟩
            rw [← hforwards.ids]
            exact hannounces.published
          have hdue : ((enabledFrom s.medium.links a).map (frame.injection pb)).map
              (fun injection => (injection.link.toNode, injection.packet)) = d.due pb := by
            rw [List.map_map]
            refine List.map_congr_left fun link _ => ?_
            change (link.toNode, received pb frame.packet link) = _
            rw [hpacket]
          have hdecisions := decisionsOf_concat h d
          have hnote : note h s (.transmit m a)
              ((s.withController c).withMedium ((s.medium.setFrames a rest).setLoop a
                (DirectedMedium.afterTransmit
                  (some ((enabledFrom s.medium.links a).map (frame.injection pb)))))) =
              { h with decisions := h.decisions ++ [d] } := by
            simp [note, hframes, d, withController, withMedium, controller,
              TrafficTasks.withController]
          rw [hnote]
          refine
            { accounts := hprogress.sound hforwards.accounts
              gateways := hforwards.gateways
              ids := hforwards.ids
              known := hannounces.hardwareIds.trans hforwards.known
              meshed := hforwards.meshed
              alive := ?_
              sound := ?_
              arriving := ?_
              idle := ?_
              taken := ?_
              inOrder := hforwards.inOrder
              emitted := ?_
              evidence := ?_ }
          · intro b pending
            change Function.update s.medium.loops a _ b ≠ _
            rw [Function.update_apply]
            split
            · cases (enabledFrom s.medium.links a).map (frame.injection pb) <;> exact nofun
            · exact hforwards.alive b pending
          · intro other hother
            rcases List.mem_append.mp hother with hold | hnew
            · exact hforwards.sound other hold
            · rw [List.mem_singleton.mp hnew]
              exact hsound
          · intro b k other hget
            rw [hdecisions] at hget
            change (h.arrived b k ++ _).Perm _
            unfold outstanding
            rw [hdecisions]
            change (h.arrived b k ++ if _ then ((Function.update s.medium.loops a _ b).pending.map
              _) else _).Perm _
            by_cases hsame : a = b
            · subst hsame
              rw [Function.update_self, DirectedMedium.pending_afterTransmit, if_pos rfl,
                List.length_append,
                List.length_singleton]
              rw [if_pos (show d.transmitter = a from rfl)] at hget
              by_cases hlast : k = (h.decisionsOf a).length
              · rw [hlast, List.getElem?_concat_length] at hget
                cases hget
                rw [hlast, hforwards.arrived_next, if_pos rfl, hdue]
                exact .refl _
              · have hlt : k < (h.decisionsOf a).length := by
                  have := (List.getElem?_eq_some_iff.mp hget).1
                  rw [List.length_append, List.length_singleton] at this
                  omega
                rw [List.getElem?_append_left hlt] at hget
                rw [if_neg (by omega)]
                have hold := hforwards.arriving a k other hget
                rwa [outstanding_of_waiting hloop] at hold
            · rw [if_neg (show ¬d.transmitter = b from hsame), List.append_nil] at hget ⊢
              rw [Function.update_of_ne (Ne.symm hsame)]
              exact hforwards.arriving b k other hget
          · intro b hnone
            rw [hdecisions, List.append_eq_nil_iff] at hnone
            have hother : b ≠ a := by
              rintro rfl
              exact absurd hnone.2 (by simp [d])
            change (Function.update s.medium.loops a _ b).pending = []
            rw [Function.update_of_ne hother]
            exact hforwards.idle b hnone.1
          · intro arrival harrival
            rw [hdecisions, List.length_append]
            exact Nat.lt_add_right _ (hforwards.taken arrival harrival)
          · intro b
            rw [hdecisions, List.map_append]
            change (_ ++ _ ++ Function.update s.medium.rfFrames a rest b).Sublist (h.emitted b)
            have hold := hforwards.emitted b
            by_cases hsame : a = b
            · subst hsame
              rw [hframes] at hold
              rw [Function.update_self, if_pos (show d.transmitter = a from rfl),
                List.append_assoc]
              exact hold
            · rw [if_neg (show ¬d.transmitter = b from hsame), List.map_nil, List.append_nil,
                Function.update_of_ne (Ne.symm hsame)]
              exact hold
          · rw [List.flatMap_append, ← hforwards.evidence]
            refine hannounces.extend.trans (congrArg _ ?_)
            rw [List.flatMap_singleton]
            exact hannounces.published.symm
      · cases hstep

/-! ## Injections -/

/-- The gateway of the receiver is given the packet of an injection, and no other is
given any. -/
theorem arrivals_inject {injection : Injection} (hnodup : s.medium.gateways.Nodup)
    (hmember : injection.link.toNode ∈ s.medium.gateways)
    (hinjected : t.medium.injected = (s.medium.inject injection).injected) (a : String)
    (k : Nat) :
    s.arrivals t a k =
      [{ transmitter := a
         frame := k
         receiver := injection.link.toNode
         packet := injection.packet }] := by
  unfold arrivals
  rw [hinjected]
  unfold DirectedMedium.inject
  rw [flatMap_eq_of_only hnodup hmember]
  · dsimp only
    rw [Function.update_self, List.drop_left]
    rfl
  · intro b _ hne
    dsimp only
    rw [Function.update_of_ne hne, List.drop_length]
    rfl

/-- An injection runs. -/
theorem Forwards.inject (hforwards : Forwards pb nodeIds hardwareIds s h)
    (hnodup : nodeIds.Nodup) {a : String} {i : Nat} (hstep : step pb s (.inject a i) = some t) :
    Forwards pb nodeIds hardwareIds t (note h s (.inject a i) t) := by
  have hprogress := progress_step hstep
  unfold step at hstep
  dsimp only at hstep
  split at hstep
  · cases hstep
  · next injection hget =>
      split at hstep
      · cases hstep
      · next hmember =>
          rw [not_not] at hmember
          let arrival : Arrival :=
            { transmitter := a
              frame := (h.decisionsOf a).length - 1
              receiver := injection.link.toNode
              packet := injection.packet }
          have hnote :
              note h s (.inject a i) t = { h with arrivals := h.arrivals ++ [arrival] } := by
            unfold note
            dsimp only
            have hinjected : t.medium.injected = (s.medium.inject injection).injected := by
              cases hstep
              rfl
            rw [arrivals_inject (hforwards.gateways ▸ hnodup) hmember hinjected]
          have hpositive : 0 < (h.decisionsOf a).length := by
            rw [List.length_pos_iff]
            intro hnone
            rw [hforwards.idle a hnone] at hget
            cases hget
          have happends : Watch.Appends s.controller.watch t.controller.watch := by
            cases hstep
            exact .single rfl rfl (by simp [OfMedium, injectedEvent])
          rw [hnote]
          cases hstep
          refine
            { accounts := hprogress.sound hforwards.accounts
              gateways := hforwards.gateways
              ids := hforwards.ids
              known := happends.hardwareIds.trans hforwards.known
              meshed := hforwards.meshed
              alive := ?_
              sound := hforwards.sound
              arriving := ?_
              idle := ?_
              taken := ?_
              inOrder := ?_
              emitted := hforwards.emitted
              evidence := (Watch.Announces.extend happends).trans
                ((List.append_nil _).trans hforwards.evidence) }
          · intro b pending
            change Function.update s.medium.loops a _ b ≠ _
            rw [Function.update_apply]
            split
            · have halive := hforwards.alive a
              cases hloop : s.medium.loops a with
              | waiting => exact nofun
              | gathering pending => exact nofun
              | failed pending => exact absurd hloop (halive pending)
            · exact hforwards.alive b pending
          · intro b k d hdecision
            have hold := hforwards.arriving b k d hdecision
            rw [arrived_concat]
            unfold outstanding at hold ⊢
            change (_ ++ if k + 1 = (h.decisionsOf b).length then
              (Function.update s.medium.loops a _ b).pending.map _ else _).Perm _
            by_cases hsame : a = b ∧ (h.decisionsOf a).length - 1 = k
            · obtain ⟨rfl, rfl⟩ := hsame
              rw [if_pos ⟨rfl, rfl⟩, if_pos (by omega), Function.update_self, NodeLoop.pending_ran,
                ← List.eraseIdx_map]
              rw [if_pos (by omega)] at hold
              refine (perm_move ?_ _).trans hold
              rw [List.getElem?_map, hget]
              rfl
            · rw [if_neg hsame, List.append_nil]
              by_cases hnode : a = b
              · subst hnode
                have hlast : k + 1 ≠ (h.decisionsOf a).length := by
                  intro heq
                  exact hsame ⟨rfl, by omega⟩
                rw [if_neg hlast] at hold ⊢
                exact hold
              · rw [Function.update_of_ne (Ne.symm hnode)]
                exact hold
          · intro b hnone
            change (Function.update s.medium.loops a _ b).pending = []
            have hother : b ≠ a := by
              rintro rfl
              exact absurd (congrArg List.length hnone) (Nat.ne_of_gt hpositive)
            rw [Function.update_of_ne hother]
            exact hforwards.idle b hnone
          · intro other hother
            rcases List.mem_append.mp hother with hold | hnew
            · exact hforwards.taken other hold
            · rw [List.mem_singleton.mp hnew]
              exact Nat.sub_one_lt (Nat.ne_of_gt hpositive)
          · intro b
            rw [List.filter_append, List.map_append, List.pairwise_append]
            refine ⟨hforwards.inOrder b, ?_, ?_⟩
            · rw [List.pairwise_map]
              exact (List.pairwise_singleton (fun x y => x.frame ≤ y.frame) arrival).filter _
            · intro k hk l hl
              obtain ⟨early, hearly, rfl⟩ := List.mem_map.mp hk
              obtain ⟨late, hlate, rfl⟩ := List.mem_map.mp hl
              obtain ⟨hearly, hfrom⟩ := List.mem_filter.mp hearly
              obtain ⟨hlate, hto⟩ := List.mem_filter.mp hlate
              rw [List.mem_singleton.mp hlate] at hto ⊢
              have htaken := hforwards.taken early hearly
              rw [decide_eq_true_eq] at hfrom hto
              rw [hfrom, ← hto] at htaken
              exact Nat.le_sub_one_of_lt htaken

/-! ## Link updates -/

theorem not_ofMedium_linkUpdate (link : DirectedLink) (now : ℚ) :
    ¬OfMedium (linkUpdateEvent link now) := by
  simp [OfMedium, linkUpdateEvent]

theorem appends_publishAll (s : Simulation) {events : List PacketEvent}
    (hnone : ∀ event ∈ events, ¬OfMedium event) :
    Watch.Appends s.controller.watch (s.publishAll events).controller.watch := by
  induction events generalizing s with
  | nil => exact .refl _
  | cons event rest ih =>
      have hfirst : Watch.Appends s.controller.watch
          (s.withController (s.controller.publish event)).controller.watch :=
        .single rfl rfl (hnone event List.mem_cons_self)
      exact hfirst.trans (ih (s.withController (s.controller.publish event))
        fun other hmember => hnone other (List.mem_cons_of_mem _ hmember))

/-- The links are replaced, and the changes are published. -/
theorem Forwards.relink (hforwards : Forwards pb nodeIds hardwareIds s h)
    {medium : DirectedMedium} (hlinks : medium = { s.medium with links := medium.links })
    (hmeshed : Scenario.Meshed nodeIds medium.links) {events : List PacketEvent}
    (hnone : ∀ event ∈ events, ¬OfMedium event) :
    Forwards pb nodeIds hardwareIds ((s.withMedium medium).publishAll events) h := by
  have hkept : ((s.withMedium medium).publishAll events).medium =
      { s.medium with links := medium.links } := hlinks
  refine hforwards.keep (progress_publishAll (s.withMedium medium) events) ?_ ?_
    (appends_publishAll (s.withMedium medium) hnone) ?_ ?_ ?_ _ ?_
  · rw [hkept]
  · rw [hkept]
  · rw [hkept]
    exact hmeshed
  · rw [hkept]
    exact hforwards.alive
  · rw [hkept]
    exact fun _ => rfl
  · rw [hkept]
    exact hforwards.emitted

/-! ## Runs -/

/-- One step keeps the accounts of the medium. -/
theorem Forwards.step (hforwards : Forwards pb nodeIds hardwareIds s h) (hnodup : nodeIds.Nodup)
    (hknown : ∀ nodeId ∈ nodeIds, hardwareIds.contains nodeId = true) {a : Action}
    (hprovided : Provided pb s a) (hstep : step pb s a = some t) :
    Forwards pb nodeIds hardwareIds t (note h s a t) := by
  have hprogress := progress_step hstep
  have hsame : ∀ a, ((h.decisionsOf a).map (·.packet) ++ s.medium.rfFrames a).Sublist
      (h.emitted a) := hforwards.emitted
  cases a with
  | rfFrame nodeId packet =>
      have hmore : ∀ b (frames : List MeshPacket), frames.Sublist (s.medium.rfFrames b ++
          if b = nodeId then [packet] else []) →
          ((h.decisionsOf b).map (·.packet) ++ frames).Sublist
            (Function.update h.emitted nodeId (h.emitted nodeId ++ [packet]) b) := by
        intro b frames hframes
        have hlonger := (List.Sublist.refl ((h.decisionsOf b).map (·.packet))).append hframes
        refine hlonger.trans ?_
        by_cases hnode : b = nodeId
        · subst hnode
          rw [if_pos rfl, Function.update_self, ← List.append_assoc]
          exact (hsame b).append_right _
        · rw [if_neg hnode, List.append_nil, Function.update_of_ne hnode]
          exact hsame b
      unfold Simulation.step at hstep
      dsimp only at hstep
      split at hstep
      · cases hstep
      · split at hstep
        · cases hstep
          refine hforwards.keep hprogress rfl rfl (.refl _) hforwards.meshed hforwards.alive
            (fun _ => rfl) _ fun b => hmore b _ (List.sublist_append_left _ _)
        · cases hstep
          refine hforwards.keep hprogress rfl rfl (.refl _) hforwards.meshed hforwards.alive
            (fun _ => rfl) _ fun b => hmore b _ ?_
          change (Function.update s.medium.rfFrames nodeId _ b).Sublist _
          by_cases hnode : b = nodeId
          · subst hnode
            rw [Function.update_self, if_pos rfl]
          · rw [Function.update_of_ne hnode]
            exact List.sublist_append_left _ _
  | transmit m nodeId => exact hforwards.transmit hknown hprovided hstep
  | inject nodeId i => exact hforwards.inject hnodup hstep
  | injectionRaised nodeId i => exact hprovided.elim
  | gathered nodeId =>
      unfold Simulation.step at hstep
      dsimp only at hstep
      split at hstep
      · next hgathered =>
          cases hstep
          refine hforwards.keep hprogress rfl rfl (.refl _) hforwards.meshed ?_ ?_ _ hsame
          · intro b pending
            change Function.update s.medium.loops nodeId _ b ≠ _
            rw [Function.update_apply]
            split
            · exact nofun
            · exact hforwards.alive b pending
          · intro b
            change (Function.update s.medium.loops nodeId _ b).pending = _
            rw [Function.update_apply]
            split
            · next hnode =>
                rw [hnode, hgathered]
                rfl
            · rfl
      · cases hstep
  | updateLink now link =>
      unfold Simulation.step at hstep
      dsimp only at hstep
      split at hstep
      · cases hstep
        exact hforwards.keep hprogress rfl rfl (.refl _) hforwards.meshed hforwards.alive
          (fun _ => rfl) _ hsame
      · next medium hupdate =>
          obtain ⟨hlinks, hmeshed⟩ := meshed_updateLink hforwards.meshed hupdate
          cases hstep
          refine hforwards.relink hlinks hmeshed ?_
          intro event hmember
          rw [List.mem_singleton.mp hmember]
          exact not_ofMedium_linkUpdate link now
  | applyLinks now links =>
      unfold Simulation.step at hstep
      dsimp only at hstep
      split at hstep
      · cases hstep
        exact hforwards.keep hprogress rfl rfl (.refl _) hforwards.meshed hforwards.alive
          (fun _ => rfl) _ hsame
      · next medium changed happly =>
          obtain ⟨hlinks, hmeshed⟩ := meshed_applyLinks hforwards.meshed happly
          cases hstep
          refine hforwards.relink hlinks hmeshed ?_
          intro event hmember
          obtain ⟨link, _, rfl⟩ := List.mem_map.mp hmember
          exact not_ofMedium_linkUpdate link now
  | traffic a =>
      unfold Simulation.step at hstep
      dsimp only at hstep
      split at hstep
      · cases hstep
      · obtain ⟨tasks, htasks, rfl⟩ := Option.map_eq_some_iff.mp hstep
        exact hforwards.keep hprogress rfl rfl
          (TrafficTasks.appends_step pb hforwards.accounts.structured htasks) hforwards.meshed
          hforwards.alive (fun _ => rfl) _ hsame

end Simulation

end MeshtasticLab.Simulator

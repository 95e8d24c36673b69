/-
  Simulator/Decisions.lean --- one decision for each receiver of a frame.

  WHAT THIS FILE IS FOR

  In every state of every run each frame that was taken has caused one `RF_TRANSMIT`
  event and, for every other node, either its injection or one `LINK_DISABLED` event,
  all by the link map of one moment.
-/
import MeshtasticLab.Simulator.Forwarding

set_option autoImplicit false

namespace MeshtasticLab.Simulator

open MeshtasticLab.Foundation MeshtasticLab.Gateway MeshtasticLab.Metrics MeshtasticLab.Models
open MeshtasticLab.Traffic
open DirectedMedium
open TrafficTasks (pairProtobuf)

namespace Simulation

/-- The packets of a frame that one receiver was given, or is about to be given. -/
def injectedAt (s : Simulation) (h : MediumHistory) (a : String) (k : Nat) (b : String) :
    List MeshPacket :=
  ((h.arrived a k ++ s.outstanding h a k).filter fun due => due.1 = b).map Prod.snd

end Simulation

namespace DirectedMedium

/-- Among the links of a transmitter one at most leads to a receiver. -/
theorem filter_linksFrom {nodeIds : List String} {links : Dict (String × String) DirectedLink}
    (hmeshed : Scenario.Meshed nodeIds links) (p : DirectedLink → Bool) (a b : String) :
    (((linksFrom links a).filter p).filter fun link => link.toNode = b) =
      ((links.get? (a, b)).filter p).toList := by
  cases hget : links.get? (a, b) with
  | none =>
      refine List.filter_eq_nil_iff.mpr fun link hmember => ?_
      have hfound := ((mem_linksFrom hmeshed).mp (List.mem_filter.mp hmember).1).1
      rw [decide_eq_true_eq]
      rintro rfl
      rw [hget] at hfound
      cases hfound
  | some link =>
      obtain ⟨hsource, htarget⟩ := Prod.mk.inj (hmeshed.keyed _ _ hget)
      have hmember : link ∈ linksFrom links a :=
        (mem_linksFrom hmeshed).mpr ⟨htarget ▸ hget, hsource⟩
      have honly := filter_key_eq_singleton (nodup_linksFrom hmeshed a) hmember
      rw [htarget] at honly
      rw [List.filter_comm, honly, Option.filter_some]
      cases hp : p link <;> simp [hp]

end DirectedMedium

namespace Decision

/-- The `RF_TRANSMIT` events of a frame. -/
def transmitEvents (d : Decision) : List PacketEvent :=
  d.published.filter fun event => event.eventType = .rfTransmit

/-- The `LINK_DISABLED` events of a frame at one receiver. -/
def disabledAt (d : Decision) (b : String) : List PacketEvent :=
  d.published.filter fun event => event.eventType = .linkDisabled ∧ event.receiver = some b

variable {nodeIds : List String} {hardwareIds : Dict String Nat} {d : Decision}

/-- What is due at a receiver depends on its link. -/
theorem filter_due (pb : Protobuf) (hmeshed : Scenario.Meshed nodeIds d.links) (b : String) :
    ((d.due pb).filter fun due => due.1 = b).map Prod.snd =
      (((d.links.get? (d.transmitter, b)).filter (·.enabled)).toList).map
        (received pb d.packet) := by
  rw [← filter_linksFrom hmeshed]
  unfold due enabledFrom
  rw [List.filter_map, List.map_map]
  rfl

/-- The events of a sound decision. -/
theorem Sound.events (hsound : d.Sound nodeIds hardwareIds) :
    ∃ frame : Transmission, frame.transmitter = d.transmitter ∧ frame.packet = d.packet ∧
      d.transmitEvents =
        [frame.event hardwareIds ((enabledFrom d.links d.transmitter).map (·.toNode))] ∧
      ∀ b, d.disabledAt b =
        (((d.links.get? (d.transmitter, b)).filter (!·.enabled)).toList).map
          frame.disabledEvent := by
  obtain ⟨_, hmeshed, frame, htransmitter, hpacket, hevents⟩ := hsound
  have hamong : ∀ p : PacketEvent → Bool, (∀ event, p event = true → OfMedium event) →
      d.published.filter p = (frame.announced hardwareIds d.links).filter p := by
    intro p hp
    rw [← hevents]
    unfold mediumEvents
    rw [List.filter_filter]
    refine List.filter_congr fun event _ => ?_
    cases hevent : p event with
    | false => rfl
    | true => simp [hp event hevent]
  refine ⟨frame, htransmitter, hpacket, ?_, fun b => ?_⟩
  · unfold transmitEvents
    rw [hamong _ fun event htype => Or.inl (by simpa using htype)]
    unfold Transmission.announced
    rw [htransmitter, List.filter_cons_of_pos (by simp [Transmission.event]),
      List.filter_eq_nil_iff.mpr]
    intro event hmember
    obtain ⟨link, _, rfl⟩ := List.mem_map.mp hmember
    simp [Transmission.disabledEvent]
  · unfold disabledAt
    rw [hamong _ fun event htype => Or.inr (by simpa using (of_decide_eq_true htype).1)]
    unfold Transmission.announced
    rw [List.filter_cons_of_neg (by simp [Transmission.event]), ← filter_linksFrom hmeshed,
      htransmitter, List.filter_map]
    unfold disabledFrom
    refine congrArg _ (List.filter_congr fun link _ => ?_)
    simp [Transmission.disabledEvent]

end Decision

namespace Simulation

/-- A frame was decided once for every receiver, by one link map: its links. -/
structure DecidedOnce (pb : Protobuf) (nodeIds : List String) (s : Simulation)
    (h : MediumHistory) (a : String) (k : Nat) (d : Decision) : Prop where
  transmits : ∃ event, d.transmitEvents = [event] ∧ event.transmitter = some a ∧
    event.meshPacketId = some d.packet.id ∧ event.receiverSet.Nodup ∧
    ∀ b, b ∈ event.receiverSet ↔ s.injectedAt h a k b ≠ []
  decides : ∀ b ∈ nodeIds, b ≠ a → ∃ link, d.links.get? (a, b) = some link ∧
    if link.enabled then
      s.injectedAt h a k b = [received pb d.packet link] ∧ d.disabledAt b = []
    else
      s.injectedAt h a k b = [] ∧ ∃ event, d.disabledAt b = [event] ∧
        event.transmitter = some a ∧ event.meshPacketId = some d.packet.id
  others : ∀ b, b ∉ nodeIds ∨ b = a → s.injectedAt h a k b = [] ∧ d.disabledAt b = []
  finished : s.medium.loops a = .waiting ∨ k + 1 < (h.decisionsOf a).length →
    s.outstanding h a k = []

variable {pb : Protobuf} {nodeIds : List String} {hardwareIds : Dict String Nat}
  {s : Simulation} {h : MediumHistory} {d : Decision}

/-- What one receiver was given of a frame depends on its link. -/
theorem Forwards.injectedAt_eq (hforwards : Forwards pb nodeIds hardwareIds s h) {a : String}
    {k : Nat} {d : Decision} (hget : (h.decisionsOf a)[k]? = some d) (b : String) :
    s.injectedAt h a k b =
      (((d.links.get? (a, b)).filter (·.enabled)).toList).map (received pb d.packet) := by
  obtain ⟨hmember, hsource⟩ := List.mem_filter.mp (List.mem_of_getElem? hget)
  rw [decide_eq_true_eq] at hsource
  have hperm := ((hforwards.arriving a k d hget).filter fun due => due.1 = b).map Prod.snd
  rw [Decision.filter_due pb (hforwards.sound d hmember).2.1, hsource] at hperm
  unfold injectedAt
  cases hlink : (d.links.get? (a, b)).filter (·.enabled) with
  | none =>
      rw [hlink] at hperm
      exact List.perm_nil.mp hperm
  | some link =>
      rw [hlink] at hperm
      exact List.perm_singleton.mp hperm

/-- A link leads to every other node, and to no other. -/
theorem get?_of_mem (hmeshed : Scenario.Meshed nodeIds d.links) {a b : String} (ha : a ∈ nodeIds)
    (hb : b ∈ nodeIds) (hne : b ≠ a) : ∃ link, d.links.get? (a, b) = some link :=
  Option.isSome_iff_exists.mp
    ((hmeshed.paired (a, b)).mpr (Scenario.mem_orderedPairs.mpr ⟨ha, hb, hne.symm⟩))

theorem Forwards.decidedOnce (hforwards : Forwards pb nodeIds hardwareIds s h) {a : String}
    {k : Nat} {d : Decision} (hget : (h.decisionsOf a)[k]? = some d) :
    DecidedOnce pb nodeIds s h a k d := by
  obtain ⟨hmember, hsource⟩ := List.mem_filter.mp (List.mem_of_getElem? hget)
  rw [decide_eq_true_eq] at hsource
  have hsound := hforwards.sound d hmember
  obtain ⟨ha, hmeshed, _⟩ := id hsound
  rw [hsource] at ha
  obtain ⟨frame, htransmitter, hpacket, htransmits, hdisabled⟩ := hsound.events
  rw [hsource] at htransmitter htransmits hdisabled
  have hinjected := hforwards.injectedAt_eq hget
  constructor
  · refine ⟨_, htransmits, congrArg some htransmitter, ?_, ?_, fun b => ?_⟩
    · rw [← hpacket]
      rfl
    · exact (nodup_linksFrom hmeshed a).sublist (List.filter_sublist.map _)
    · rw [hinjected]
      change b ∈ (enabledFrom d.links a).map (·.toNode) ↔ _
      rw [← filter_linksFrom hmeshed, List.mem_map, ne_eq, List.map_eq_nil_iff,
        List.filter_eq_nil_iff]
      simp only [decide_eq_true_eq, not_forall, not_not, exists_prop]
      exact Iff.rfl
  · intro b hb hne
    obtain ⟨link, hlink⟩ := get?_of_mem hmeshed ha hb hne
    refine ⟨link, hlink, ?_⟩
    rw [hinjected, hdisabled, hlink, Option.filter_some, Option.filter_some]
    cases henabled : link.enabled with
    | true => exact ⟨rfl, rfl⟩
    | false =>
        refine ⟨rfl, frame.disabledEvent link, rfl, congrArg some htransmitter, ?_⟩
        rw [← hpacket]
        rfl
  · intro b hother
    have hnone : d.links.get? (a, b) = none := by
      cases hlink : d.links.get? (a, b) with
      | none => rfl
      | some link =>
          have hpair := Scenario.mem_orderedPairs.mp
            ((hmeshed.paired (a, b)).mp (Option.isSome_iff_exists.mpr ⟨link, hlink⟩))
          rcases hother with hunknown | rfl
          · exact absurd hpair.2.1 hunknown
          · exact absurd rfl hpair.2.2
    rw [hinjected, hdisabled, hnone]
    exact ⟨rfl, rfl⟩
  · rintro (hwaiting | hlater)
    · exact outstanding_of_waiting hwaiting k
    · unfold outstanding
      rw [if_neg (Nat.ne_of_lt hlater)]

/-- One frame arrives at a receiver once at most. -/
theorem Forwards.count_framesAt (hforwards : Forwards pb nodeIds hardwareIds s h)
    (a b : String) (k : Nat) : (h.framesAt a b).count k ≤ 1 := by
  by_cases htaken : k < (h.decisionsOf a).length
  · have hinjected := hforwards.injectedAt_eq (List.getElem?_eq_getElem htaken) b
    have hcount : (h.framesAt a b).count k =
        ((h.arrived a k).filter fun due => due.1 = b).length := by
      unfold MediumHistory.framesAt MediumHistory.arrived
      rw [List.count_eq_countP, List.countP_map, List.countP_filter, List.filter_map,
        List.length_map, List.filter_filter, ← List.countP_eq_length_filter]
      refine List.countP_congr fun arrival _ => ?_
      simp
      tauto
    have hlength := congrArg List.length hinjected
    unfold injectedAt at hlength
    simp only [List.filter_append, List.length_map, List.length_append, ← hcount] at hlength
    have hone : ∀ o : Option DirectedLink, o.toList.length ≤ 1 := by
      intro o
      cases o <;> simp
    exact (Nat.le_add_right _ _).trans (hlength.le.trans (hone _))
  · rw [List.count_eq_zero_of_not_mem]
    · exact Nat.zero_le 1
    · intro hmember
      obtain ⟨arrival, harrival, rfl⟩ := List.mem_map.mp hmember
      obtain ⟨harrival, hpair⟩ := List.mem_filter.mp harrival
      have hframe := hforwards.taken arrival harrival
      rw [(of_decide_eq_true hpair).1] at hframe
      exact htaken hframe

/-- From one node to another the frames arrive in the order of their emission. -/
theorem Forwards.framesAt_increasing (hforwards : Forwards pb nodeIds hardwareIds s h)
    (a b : String) : (h.framesAt a b).Pairwise (· < ·) := by
  have hsublist : (h.framesAt a b).Sublist
      ((h.arrivals.filter fun arrival => arrival.transmitter = a).map (·.frame)) := by
    unfold MediumHistory.framesAt
    refine List.Sublist.map _ (List.monotone_filter_right _ ?_)
    intro arrival hpair
    exact decide_eq_true (of_decide_eq_true hpair).1
  have hsorted := (hforwards.inOrder a).sublist hsublist
  have hnodup : (h.framesAt a b).Nodup :=
    List.nodup_iff_count_le_one.mpr (hforwards.count_framesAt a b)
  exact hsorted.imp₂ (fun _ _ hle hne => Nat.lt_of_le_of_ne hle hne) hnodup

/-! ## Runs -/

section Runs

variable {scenario : Scenario} {buildMetadata : BuildMetadata}
  {rfFrames : String → List MeshPacket}

theorem forwards_new (hvalid : scenario.validateGraph = .ok ()) :
    Forwards pb scenario.nodeIds hardwareIds
      (.new scenario hardwareIds buildMetadata rfFrames) { emitted := rfFrames } where
  accounts := (TrafficTasks.exact_new scenario hardwareIds buildMetadata none true).toSound
  gateways := rfl
  ids := rfl
  known := rfl
  meshed := Scenario.meshed_linkMap hvalid
  alive := fun _ _ => nofun
  sound := fun _ hmember => absurd hmember List.not_mem_nil
  arriving := fun _ _ _ hget => nomatch hget
  idle := fun _ _ => rfl
  taken := fun _ hmember => absurd hmember List.not_mem_nil
  inOrder := fun _ => .nil
  emitted := fun _ => .refl _
  evidence := rfl

/-- Every frame that a node loop took was decided once for every receiver from one link
map; the medium publishes nothing else, takes the frames in the order in which they were
emitted, and injects them at each receiver in that order. -/
theorem frames_decided_once (pb : Protobuf) (hvalid : scenario.validateGraph = .ok ())
    (hknown : ∀ nodeId ∈ scenario.nodeIds, hardwareIds.contains nodeId = true)
    (hrun : Run (recorded (step pb) note) (fun s a => Provided pb s.1 a)
      (.new scenario hardwareIds buildMetadata rfFrames, { emitted := rfFrames }) (s, h)) :
    (∀ a k d, (h.decisionsOf a)[k]? = some d → DecidedOnce pb scenario.nodeIds s h a k d) ∧
      mediumEvents s.controller.outbox =
        (h.decisions.flatMap fun d => mediumEvents d.published) ∧
      (∀ a, ((h.decisionsOf a).map (·.packet) ++ s.medium.rfFrames a).Sublist (h.emitted a)) ∧
      ∀ a b, (h.framesAt a b).Pairwise (· < ·) := by
  have hforwards : Forwards pb scenario.nodeIds hardwareIds s h := by
    refine hrun.invariant (I := fun u => Forwards pb scenario.nodeIds hardwareIds u.1 u.2) ?_
      (forwards_new hvalid)
    intro u a v hforwards hprovided hstep
    obtain ⟨hstep, hnote⟩ := recorded_eq_some.mp hstep
    rw [hnote]
    exact hforwards.step (Scenario.nodeIds_nodup hvalid) hknown hprovided hstep
  exact ⟨fun a k d hget => hforwards.decidedOnce hget, hforwards.evidence, hforwards.emitted,
    hforwards.framesAt_increasing⟩

end Runs

/-! ## Three nodes -/

/-- The links between three nodes, where the first reaches only one of the others. -/
def trioLinks (first second : Bool) : List DirectedLink :=
  [{ fromNode := "a", toNode := "b", enabled := first, rssiDbm := -70 },
    { fromNode := "a", toNode := "c", enabled := second, rssiDbm := -90 },
    { fromNode := "b", toNode := "a" }, { fromNode := "b", toNode := "c" },
    { fromNode := "c", toNode := "a" }, { fromNode := "c", toNode := "b" }]

def trioScenario : Scenario where
  name := "trio"
  nodeCount := 3
  nodes := [{ id := "a", apiPort := 45001 }, { id := "b", apiPort := 45002 },
    { id := "c", apiPort := 45003 }]
  links := trioLinks true false

def trioIds : Dict String Nat :=
  (∅ : Dict String Nat).update [("a", 1), ("b", 2), ("c", 3)]

def trioMoment : Moment where
  now := 0
  wallClock := 0
  streamId := "stream"

def trioFrame (id : Nat) : MeshPacket where
  from_ := 1
  to_ := 0xFFFFFFFF
  id := id

/-- Both links of the first node change while its first frame is being injected. -/
def trioRun : List Action :=
  [.rfFrame "a" (trioFrame 1), .rfFrame "a" (trioFrame 2), .transmit trioMoment "a",
    .applyLinks 1 (trioLinks false true), .inject "a" 0, .gathered "a",
    .transmit trioMoment "a", .inject "a" 0]

/-- The first frame reaches the second node with the values of the old link, the second
frame the third node with those of the new one. -/
theorem trio_frames_decided_once :
    ∃ s h, exec (recorded (step pairProtobuf) note) trioRun
        (.new trioScenario trioIds .unavailable fun _ => [], { emitted := fun _ => [] }) =
          some (s, h) ∧
      (s.medium.injected "b" = [{ trioFrame 1 with rxRssi := -70, rxSnr := 8 }] ∧
        s.medium.injected "c" = [{ trioFrame 2 with rxRssi := -90, rxSnr := 8 }]) ∧
      ((∀ a k d, (h.decisionsOf a)[k]? = some d →
          DecidedOnce pairProtobuf trioScenario.nodeIds s h a k d) ∧
        mediumEvents s.controller.outbox =
          (h.decisions.flatMap fun d => mediumEvents d.published) ∧
        (∀ a,
          ((h.decisionsOf a).map (·.packet) ++ s.medium.rfFrames a).Sublist (h.emitted a)) ∧
        ∀ a b, (h.framesAt a b).Pairwise (· < ·)) := by
  have hstate : (exec (recorded (step pairProtobuf) note) trioRun
      (.new trioScenario trioIds .unavailable fun _ => [], { emitted := fun _ => [] })).map
        (fun state => (state.1.medium.injected "b", state.1.medium.injected "c")) =
      some ([{ trioFrame 1 with rxRssi := -70, rxSnr := 8 }],
        [{ trioFrame 2 with rxRssi := -90, rxSnr := 8 }]) := by
    decide +kernel
  have hprovided : Conforms (recorded (step pairProtobuf) note)
      (fun s a => Provided pairProtobuf s.1 a) trioRun
      (.new trioScenario trioIds .unavailable fun _ => [], { emitted := fun _ => [] }) := by
    decide +kernel
  obtain ⟨⟨s, h⟩, hexec, hstate⟩ := Option.map_eq_some_iff.mp hstate
  exact ⟨s, h, hexec, Prod.mk.inj hstate,
    frames_decided_once pairProtobuf (by decide +kernel) (by decide +kernel)
      (.of_exec hexec hprovided)⟩

end Simulation

end MeshtasticLab.Simulator

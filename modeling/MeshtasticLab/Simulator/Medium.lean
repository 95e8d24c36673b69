/-
  Simulator/Medium.lean --- directed-link RF forwarding.

  Embeds `DirectedMedium` of `backend/app/simulator/medium.py` together with the
  controller whose `record_rf_transmission` and `record_drop` it is given, and with
  the queues of the gateways between which it forwards.

  HOW THE COROUTINES ARE CUT

  Nothing suspends while the link lock is held, so the lock is always free when it is
  taken, and a node loop runs from `rf_frames.get()` up to the `gather` in `transmit`
  in one step.  The injection tasks it created then run one by one, in any order: a
  gateway queues a packet without suspending.  The events of the medium join those of
  the controller in its `outbox`, in the order of their publication.
-/
import MeshtasticLab.Traffic.Tasks

set_option autoImplicit false

namespace MeshtasticLab.Simulator

open MeshtasticLab.Foundation MeshtasticLab.Gateway MeshtasticLab.Metrics MeshtasticLab.Models
open MeshtasticLab.Traffic

/-- `queue_size` of a gateway. -/
def RF_QUEUE_SIZE : Nat := 256

/-- A task that runs `_inject`, with its arguments. -/
structure Injection where
  link : DirectedLink
  packet : MeshPacket
  monotonicNow : ℚ
  trafficRunId : Option String
  trafficSequence : Option Nat
  deriving DecidableEq

/-- Where `_supervised_node_loop` is: it waits for a frame, it gathers the injections of
the frame it took, or it has reported a failure.  The injections that have not run
remain. -/
inductive NodeLoop where
  | waiting
  | gathering (pending : List Injection)
  | failed (pending : List Injection)
  deriving DecidableEq

namespace NodeLoop

/-- The injections that have not run. -/
def pending : NodeLoop → List Injection
  | .waiting => []
  | .gathering pending => pending
  | .failed pending => pending

/-- One of the injections has run. -/
def ran (i : Nat) : NodeLoop → NodeLoop
  | .waiting => .waiting
  | .gathering pending => .gathering (pending.eraseIdx i)
  | .failed pending => .failed (pending.eraseIdx i)

@[simp] theorem pending_ran (i : Nat) (loop : NodeLoop) :
    (loop.ran i).pending = loop.pending.eraseIdx i := by
  cases loop <;> rfl

end NodeLoop

/-- `DirectedMedium`, with its loops and, for each gateway, the frames in `rf_frames` and
the packets that `inject_simulated_packet` was given. -/
structure DirectedMedium where
  scenario : Scenario
  gateways : List String
  hardwareIds : Dict String Nat
  links : Dict (String × String) DirectedLink
  rfFrames : String → List MeshPacket
  injected : String → List MeshPacket := fun _ => []
  loops : String → NodeLoop := fun _ => .waiting

namespace DirectedMedium

/-! ## Links -/

/-- `update_link` up to the end of its lock; the error is that of `KeyError`. -/
def updateLink (medium : DirectedMedium) (link : DirectedLink) : Except String DirectedMedium :=
  if medium.links.contains link.key then
    .ok { medium with links := medium.links.set link.key link }
  else .error s!"unknown directed link: {link.fromNode} -> {link.toNode}"

/-- `apply_links` up to the end of its lock, with the links that it changes. -/
def applyLinks (medium : DirectedMedium) (links : List DirectedLink) :
    Except String (DirectedMedium × List DirectedLink) :=
  let replacement := Scenario.linkMapOf links
  if replacement.keys.all medium.links.contains ∧ medium.links.keys.all replacement.contains then
    .ok ({ medium with links := replacement },
      (replacement.items.filter fun item => medium.links.get? item.1 ≠ some item.2).map Prod.snd)
  else .error "runtime topology must contain the existing directed link set"

/-- The event that `_publish_link_update` publishes. -/
def linkUpdateEvent (link : DirectedLink) (now : ℚ) : PacketEvent where
  monotonicSeconds := now
  eventType := .linkUpdated
  transmitter := some link.fromNode
  receiver := some link.toNode
  result := some (if link.enabled then "enabled" else "disabled")
  rssiDbm := some link.rssiDbm
  snrDb := some link.snrDb

/-- `links` in `transmit`: the links of a transmitter. -/
def linksFrom (links : Dict (String × String) DirectedLink) (transmitter : String) :
    List DirectedLink :=
  (links.items.filter fun item => item.1.1 = transmitter).map Prod.snd

/-! ## Transmitting -/

/-- A number in hexadecimal, with eight digits at least. -/
def hex8 (n : Nat) : String :=
  let digits := String.ofList (Nat.toDigits 16 n)
  String.ofList (List.replicate (8 - digits.length) '0') ++ digits

/-- `_destination_node`. -/
def destinationNode (hardwareIds : Dict String Nat) (nodeNumber : Nat) : Option String :=
  if nodeNumber = 0xFFFFFFFF then some "broadcast"
  else
    match hardwareIds.items.find? fun item => item.2 = nodeNumber with
    | some (nodeId, _) => some nodeId
    | none => if nodeNumber = 0 then none else some s!"!{hex8 nodeNumber}"

/-- What `transmit` knows of a frame when it decides on the links. -/
structure Transmission where
  transmitter : String
  packet : MeshPacket
  m : Moment
  portNumber : Option Nat
  payloadLength : Nat
  packetAirtimeMs : Nat
  trafficRunId : Option String
  trafficSequence : Option Nat

/-- The `RF_TRANSMIT` event. -/
def Transmission.event (frame : Transmission) (hardwareIds : Dict String Nat)
    (receiverSet : List String) : PacketEvent where
  monotonicSeconds := frame.m.now
  eventType := .rfTransmit
  transmitter := some frame.transmitter
  intendedDestination := destinationNode hardwareIds frame.packet.to_
  receiverSet := receiverSet
  meshPacketId := some frame.packet.id
  trafficRunId := frame.trafficRunId
  trafficSequence := frame.trafficSequence
  portNumber := frame.portNumber
  hopLimit := some frame.packet.hopLimit
  hopStart := some frame.packet.hopStart
  packetLength := some frame.payloadLength
  airtimeMs := some frame.packetAirtimeMs
  result := some "transmitted"

/-- The `LINK_DISABLED` event. -/
def Transmission.disabledEvent (frame : Transmission) (link : DirectedLink) : PacketEvent where
  monotonicSeconds := frame.m.now
  eventType := .linkDisabled
  transmitter := some frame.transmitter
  receiver := some link.toNode
  meshPacketId := some frame.packet.id
  trafficRunId := frame.trafficRunId
  trafficSequence := frame.trafficSequence
  portNumber := frame.portNumber
  result := some "link-disabled"

/-- `received`: the packet as it arrives over a link. -/
def received (pb : Protobuf) (packet : MeshPacket) (link : DirectedLink) : MeshPacket :=
  { packet with rxRssi := link.rssiDbm, rxSnr := pb.floatField link.snrDb }

/-- The injection that `transmit` creates for an enabled link. -/
def Transmission.injection (pb : Protobuf) (frame : Transmission) (link : DirectedLink) :
    Injection where
  link := link
  packet := received pb frame.packet link
  monotonicNow := frame.m.now
  trafficRunId := frame.trafficRunId
  trafficSequence := frame.trafficSequence

/-- The body of the loop of `transmit` over its links. -/
def Transmission.decide (pb : Protobuf) (frame : Transmission)
    (decided : TrafficController × List Injection) (link : DirectedLink) :
    TrafficController × List Injection :=
  if ¬link.enabled then
    ((decided.1.publish (frame.disabledEvent link)).recordDrop pb frame.m frame.transmitter
      frame.packet "link-disabled", decided.2)
  else (decided.1, decided.2 ++ [frame.injection pb link])

/-- `transmit` after the controller has answered, up to its `gather`. -/
def forward (pb : Protobuf) (medium : DirectedMedium) (c : TrafficController)
    (frame : Transmission) : TrafficController × List Injection :=
  let links := linksFrom medium.links frame.transmitter
  let enabled := links.filter (·.enabled)
  links.foldl (frame.decide pb)
    (c.publish (frame.event medium.hardwareIds (enabled.map (·.toNode))), [])

/-- `transmit` up to its `gather`: the controller and the injections, unless it raises. -/
def transmit (pb : Protobuf) (medium : DirectedMedium) (c : TrafficController) (m : Moment)
    (transmitter : String) (packet : MeshPacket) : TrafficController × Option (List Injection) :=
  match meshPacketPayloadLength pb packet with
  | none => (c, none)
  | some payloadLength =>
      let packetAirtimeMs := airtimeMs payloadLength medium.scenario.rf.modemPreset
      match c.recordRfTransmission pb m transmitter packet packetAirtimeMs with
      | (c, .error _) => (c, none)
      | (c, .ok correlation) =>
          let forwarded := medium.forward pb c
            { transmitter := transmitter
              packet := packet
              m := m
              portNumber := meshPacketPortNumber pb packet
              payloadLength := payloadLength
              packetAirtimeMs := packetAirtimeMs
              trafficRunId := correlation.map Prod.fst
              trafficSequence := correlation.map Prod.snd }
          (forwarded.1, some forwarded.2)

/-- The loop of a node after `transmit` has created its injections. -/
def afterTransmit : Option (List Injection) → NodeLoop
  | none => .failed []
  | some [] => .waiting
  | some injections => .gathering injections

@[simp] theorem pending_afterTransmit (injections : List Injection) :
    (afterTransmit (some injections)).pending = injections := by
  cases injections <;> rfl

/-- The event with which `_inject` ends. -/
def injectedEvent (pb : Protobuf) (injection : Injection) : PacketEvent where
  monotonicSeconds := injection.monotonicNow
  eventType := .rxInjected
  transmitter := some injection.link.fromNode
  receiver := some injection.link.toNode
  meshPacketId := some injection.packet.id
  trafficRunId := injection.trafficRunId
  trafficSequence := injection.trafficSequence
  portNumber := meshPacketPortNumber pb injection.packet
  hopLimit := some injection.packet.hopLimit
  hopStart := some injection.packet.hopStart
  rssiDbm := some injection.link.rssiDbm
  snrDb := some injection.link.snrDb
  result := some "injected-to-firmware"

/-- A gateway takes the packet of an injection. -/
def inject (medium : DirectedMedium) (injection : Injection) : DirectedMedium :=
  { medium with
    injected := Function.update medium.injected injection.link.toNode
      (medium.injected injection.link.toNode ++ [injection.packet]) }

/-- The loop of a node moves on. -/
def setLoop (medium : DirectedMedium) (nodeId : String) (loop : NodeLoop) : DirectedMedium :=
  { medium with loops := Function.update medium.loops nodeId loop }

/-- The frames in `rf_frames` of a node. -/
def setFrames (medium : DirectedMedium) (nodeId : String) (frames : List MeshPacket) :
    DirectedMedium :=
  { medium with rfFrames := Function.update medium.rfFrames nodeId frames }

end DirectedMedium

/-- The medium and the tasks of the controller that it reports to. -/
structure Simulation where
  medium : DirectedMedium
  tasks : TrafficTasks

namespace Simulation

/-- The steps of a simulation: a gateway queues a frame of its firmware, a node loop takes
a frame and transmits it, an injection runs or raises, a node loop has gathered its
injections, the links change, or the traffic moves on. -/
inductive Action where
  | rfFrame (nodeId : String) (packet : MeshPacket)
  | transmit (m : Moment) (nodeId : String)
  | inject (nodeId : String) (i : Nat)
  | injectionRaised (nodeId : String) (i : Nat)
  | gathered (nodeId : String)
  | updateLink (now : ℚ) (link : DirectedLink)
  | applyLinks (now : ℚ) (links : List DirectedLink)
  | traffic (a : TrafficTasks.Action)

/-- The controller. -/
def controller (s : Simulation) : TrafficController := s.tasks.controller

def withMedium (s : Simulation) (medium : DirectedMedium) : Simulation :=
  { s with medium := medium }

def withController (s : Simulation) (c : TrafficController) : Simulation :=
  { s with tasks := s.tasks.withController c }

/-- `event_broker.publish` of a list of events. -/
def publishAll (s : Simulation) (events : List PacketEvent) : Simulation :=
  s.withController (events.foldl TrafficController.publish s.controller)

/-- The medium makes these calls. -/
def isMediumCall : TrafficTasks.Action → Bool
  | .rfTransmission .. => true
  | .drop .. => true
  | _ => false

/-- A node loop takes its next frame and transmits it. -/
def transmitNext (pb : Protobuf) (s : Simulation) (m : Moment) (nodeId : String) :
    Option Simulation :=
  match s.medium.loops nodeId, s.medium.rfFrames nodeId with
  | .waiting, packet :: rest =>
      let transmitted := s.medium.transmit pb s.controller m nodeId packet
      some ((s.withController transmitted.1).withMedium
        ((s.medium.setFrames nodeId rest).setLoop nodeId
          (DirectedMedium.afterTransmit transmitted.2)))
  | _, _ => none

/-- One step of the simulation. -/
def step (pb : Protobuf) (s : Simulation) : Action → Option Simulation
  | .rfFrame nodeId packet =>
      let frames := s.medium.rfFrames nodeId
      if nodeId ∉ s.medium.gateways then none
      else if RF_QUEUE_SIZE ≤ frames.length then some s
      else some (s.withMedium (s.medium.setFrames nodeId (frames ++ [packet])))
  | .transmit m nodeId =>
      if nodeId ∉ s.medium.gateways then none else s.transmitNext pb m nodeId
  | .inject nodeId i =>
      let loop := s.medium.loops nodeId
      match loop.pending[i]? with
      | none => none
      | some injection =>
          if injection.link.toNode ∉ s.medium.gateways then none
          else
            some ((s.publishAll [DirectedMedium.injectedEvent pb injection]).withMedium
              ((s.medium.inject injection).setLoop nodeId (loop.ran i)))
  | .injectionRaised nodeId i =>
      let loop := s.medium.loops nodeId
      match loop.pending[i]? with
      | none => none
      | some _ => some (s.withMedium (s.medium.setLoop nodeId (.failed (loop.ran i).pending)))
  | .gathered nodeId =>
      if s.medium.loops nodeId = .gathering [] then
        some (s.withMedium (s.medium.setLoop nodeId .waiting))
      else none
  | .updateLink now link =>
      match s.medium.updateLink link with
      | .error _ => some s
      | .ok medium =>
          some ((s.withMedium medium).publishAll [DirectedMedium.linkUpdateEvent link now])
  | .applyLinks now links =>
      match s.medium.applyLinks links with
      | .error _ => some s
      | .ok (medium, changed) =>
          some ((s.withMedium medium).publishAll
            (changed.map fun link => DirectedMedium.linkUpdateEvent link now))
  | .traffic a =>
      if isMediumCall a then none
      else (s.tasks.step pb a).map fun tasks => { s with tasks := tasks }

/-- The medium and the controller as `SimulatorService.start` creates them, with the
frames that the gateways have queued by then. -/
def new (scenario : Scenario) (hardwareIds : Dict String Nat) (buildMetadata : BuildMetadata)
    (rfFrames : String → List MeshPacket) : Simulation where
  medium :=
    { scenario := scenario
      gateways := scenario.nodeIds
      hardwareIds := hardwareIds
      links := scenario.linkMap
      rfFrames := rfFrames }
  tasks := .new scenario hardwareIds buildMetadata none true

end Simulation

end MeshtasticLab.Simulator

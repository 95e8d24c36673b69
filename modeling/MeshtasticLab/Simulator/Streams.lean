/-
  Simulator/Streams.lean --- into which event stream a run publishes.

  WHAT THIS FILE IS FOR

  A reset rotates the stream of the broker only while the service is stopped, when
  there is no simulation, and every dropped controller has closed its run.  So an
  event that names a run is published into the stream in which that run started:
  while there is a simulation the stream stays, and a dropped controller publishes
  only what the stream id of its run lets through.
-/
import MeshtasticLab.Simulator.LinkUpdates
import MeshtasticLab.Simulator.Tending

set_option autoImplicit false

namespace MeshtasticLab.Simulator

open MeshtasticLab.Foundation MeshtasticLab.Gateway MeshtasticLab.Metrics MeshtasticLab.Models
open MeshtasticLab.Traffic
open MeshtasticLab.Traffic.TrafficTasks (pairProtobuf pairMoment)

/-! ## Events that name runs -/

/-- What only a traffic controller publishes, and only for a run. -/
def ofRun : EventType → Bool
  | .metrics => true
  | .traffic => true
  | .applicationReceive => true
  | .acknowledgment => true
  | .routingError => true
  | _ => false

/-- An event of a run names it, and what an event names is one of these. -/
structure Names (P : String → Prop) (event : PacketEvent) : Prop where
  named : ofRun event.eventType = true → event.trafficRunId ≠ none
  among : ∀ runId, event.trafficRunId = some runId → P runId

section Names

variable {P Q : String → Prop} {c d e : TrafficController} {event : PacketEvent}

theorem Names.mono (h : Names P event) (himp : ∀ runId, P runId → Q runId) : Names Q event :=
  ⟨h.named, fun runId hrun => himp runId (h.among runId hrun)⟩

/-- An event that names no run is of no run. -/
theorem names_none (hrun : event.trafficRunId = none) (htype : ofRun event.eventType = false) :
    Names P event := by
  refine ⟨fun hof => ?_, fun runId hnamed => ?_⟩
  · rw [htype] at hof
    cases hof
  · rw [hrun] at hnamed
    cases hnamed

/-- The current run stays, and the events that are published name these runs. -/
structure Emits (P : String → Prop) (c d : TrafficController) : Prop where
  currentId : d.currentId = c.currentId
  eventStreamId : d.eventStreamId = c.eventStreamId
  outbox : ∃ events, d.outbox = c.outbox ++ events ∧ ∀ event ∈ events, Names P event

theorem Emits.refl (c : TrafficController) : Emits P c c :=
  ⟨rfl, rfl, [], (List.append_nil _).symm, fun _ hmember => by cases hmember⟩

theorem Emits.trans (hfirst : Emits P c d) (hsecond : Emits P d e) : Emits P c e := by
  obtain ⟨events, houtbox, hevents⟩ := hfirst.outbox
  obtain ⟨events', houtbox', hevents'⟩ := hsecond.outbox
  refine ⟨hsecond.currentId.trans hfirst.currentId,
    hsecond.eventStreamId.trans hfirst.eventStreamId, events ++ events', ?_, ?_⟩
  · rw [houtbox', houtbox, List.append_assoc]
  · intro event hmember
    exact (List.mem_append.mp hmember).elim (hevents event) (hevents' event)

/-- What a controller publishes itself names its current run. -/
theorem Emits.of_speaks (h : TrafficController.Speaks c d)
    (hcurrent : ∀ runId ∈ c.currentId, P runId) :
    Emits P c d := by
  obtain ⟨events, houtbox, hevents⟩ := h.outbox
  refine ⟨h.currentId, h.eventStreamId, events, houtbox, fun event hmember => ?_⟩
  obtain ⟨runId, hrun, hnamed⟩ := hevents event hmember
  refine ⟨fun _ hnone => ?_, fun other hother => ?_⟩
  · rw [hnamed] at hnone
    cases hnone
  · rw [hnamed] at hother
    cases hother
    exact hcurrent runId hrun

theorem Emits.of_step (pb : Protobuf) {tasks later : TrafficTasks}
    (hsound : TrafficTasks.Sound tasks) (hcurrent : ∀ runId ∈ tasks.controller.currentId, P runId)
    {a : TrafficTasks.Action} (hstarts : a.starts = false)
    (hstep : tasks.step pb a = some later) : Emits P tasks.controller later.controller := by
  obtain ⟨streamId, hclock⟩ : ∃ streamId, ∀ m ∈ a.moment, m.streamId = streamId := by
    cases a.moment with
    | none => exact ⟨"", fun m hm => by cases hm⟩
    | some m => exact ⟨m.streamId, fun _ hm => by cases hm; rfl⟩
  exact .of_speaks
    (TrafficTasks.publishes_step pb hsound.structured hstarts hclock hstep).toSpeaks hcurrent

theorem emits_publish (hnames : Names P event) : Emits P c (c.publish event) :=
  ⟨rfl, rfl, [event], rfl, fun other hmember => by rw [List.mem_singleton.mp hmember]; exact hnames⟩

theorem emits_publishAll (c : TrafficController) {events : List PacketEvent}
    (hnames : ∀ event ∈ events, Names P event) :
    Emits P c (events.foldl TrafficController.publish c) := by
  induction events generalizing c with
  | nil => exact .refl c
  | cons event rest ih =>
      have hfirst := emits_publish (c := c) (hnames event List.mem_cons_self)
      exact hfirst.trans (ih _ fun other hmember => hnames other (List.mem_cons_of_mem _ hmember))

/-- A change of a link is of no run. -/
theorem names_linkUpdateEvent (link : DirectedLink) (now : ℚ) :
    Names P (DirectedMedium.linkUpdateEvent link now) := names_none rfl rfl

end Names

/-! ## The medium -/

section Medium

variable {P Q : String → Prop} (pb : Protobuf)

/-- The frames on their way are of these runs. -/
def Carries (P : String → Prop) (medium : DirectedMedium) : Prop :=
  ∀ nodeId, ∀ injection ∈ (medium.loops nodeId).pending,
    ∀ runId ∈ injection.trafficRunId, P runId

theorem Carries.mono {medium : DirectedMedium} (h : Carries P medium)
    (himp : ∀ runId, P runId → Q runId) : Carries Q medium :=
  fun nodeId injection hmember runId hrun => himp runId (h nodeId injection hmember runId hrun)

theorem Carries.setLoop {medium : DirectedMedium} (h : Carries P medium) (nodeId : String)
    {loop : NodeLoop}
    (hpending : ∀ injection ∈ loop.pending, ∀ runId ∈ injection.trafficRunId, P runId) :
    Carries P (medium.setLoop nodeId loop) := by
  intro other injection hmember
  by_cases hsame : other = nodeId
  · subst hsame
    rw [show (medium.setLoop other loop).loops other = loop from Function.update_self ..] at hmember
    exact hpending injection hmember
  · rw [show (medium.setLoop nodeId loop).loops other = medium.loops other from
      Function.update_of_ne hsame ..] at hmember
    exact h other injection hmember

/-- The decisions on the links of a frame of one of these runs. -/
theorem emits_decide (frame : DirectedMedium.Transmission) (links : List DirectedLink)
    (hframe : ∀ runId ∈ frame.trafficRunId, P runId) (c : TrafficController)
    (hcurrent : ∀ runId ∈ c.currentId, P runId) (injections : List Injection) :
    Emits P c (links.foldl (frame.decide pb) (c, injections)).1 ∧
      ∀ injection ∈ (links.foldl (frame.decide pb) (c, injections)).2,
        injection ∈ injections ∨ injection.trafficRunId = frame.trafficRunId := by
  induction links generalizing c injections with
  | nil => exact ⟨.refl c, fun injection hmember => Or.inl hmember⟩
  | cons link rest ih =>
      rw [List.foldl_cons]
      unfold DirectedMedium.Transmission.decide
      dsimp only
      split
      · have hpublished : Emits P c (c.publish (frame.disabledEvent link)) := by
          exact emits_publish ⟨(fun hof => by cases hof), hframe⟩
        have hdropped := hpublished.trans (.of_speaks
          (TrafficController.speaks_recordDrop pb _ frame.m frame.transmitter frame.packet
            "link-disabled") (hpublished.currentId ▸ hcurrent))
        obtain ⟨hemits, hcarried⟩ := ih _ (hdropped.currentId ▸ hcurrent) injections
        exact ⟨hdropped.trans hemits, hcarried⟩
      · obtain ⟨hemits, hcarried⟩ := ih c hcurrent (injections ++ [frame.injection pb link])
        refine ⟨hemits, fun injection hmember => ?_⟩
        rcases hcarried injection hmember with hearlier | hsame
        · refine (List.mem_append.mp hearlier).imp id fun hnew => ?_
          rw [List.mem_singleton.mp hnew]
          rfl
        · exact Or.inr hsame

theorem emits_forward (medium : DirectedMedium) (frame : DirectedMedium.Transmission)
    (hframe : ∀ runId ∈ frame.trafficRunId, P runId) (c : TrafficController)
    (hcurrent : ∀ runId ∈ c.currentId, P runId) :
    Emits P c (medium.forward pb c frame).1 ∧
      ∀ injection ∈ (medium.forward pb c frame).2,
        injection.trafficRunId = frame.trafficRunId := by
  have hannounced : ∀ receiverSet,
      Emits P c (c.publish (frame.event medium.hardwareIds receiverSet)) := fun receiverSet =>
    emits_publish ⟨(fun hof => by cases hof), hframe⟩
  unfold DirectedMedium.forward
  dsimp only
  obtain ⟨hemits, hcarried⟩ := emits_decide pb frame
    (DirectedMedium.linksFrom medium.links frame.transmitter) hframe
    (c.publish (frame.event medium.hardwareIds _)) hcurrent []
  exact ⟨(hannounced _).trans hemits, fun injection hmember =>
    (hcarried injection hmember).resolve_left fun hnil => by cases hnil⟩

/-- A frame that a gateway hands over is of the current run or of none. -/
theorem emits_transmit (medium : DirectedMedium) (c : TrafficController) (m : Moment)
    (transmitter : String) (packet : MeshPacket) (hcurrent : ∀ runId ∈ c.currentId, P runId) :
    Emits P c (medium.transmit pb c m transmitter packet).1 ∧
      ∀ injection ∈ (DirectedMedium.afterTransmit
        (medium.transmit pb c m transmitter packet).2).pending,
          ∀ runId ∈ injection.trafficRunId, P runId := by
  unfold DirectedMedium.transmit
  split
  · exact ⟨.refl c, fun _ hmember => by cases hmember⟩
  · next payloadLength _ =>
      have hspeaks := TrafficController.speaks_recordRfTransmission pb c m transmitter packet
        (airtimeMs payloadLength medium.scenario.rf.modemPreset)
      dsimp only
      split
      · next d error hcall =>
          rw [hcall] at hspeaks
          exact ⟨.of_speaks hspeaks hcurrent, fun _ hmember => by cases hmember⟩
      · next d correlation hcall =>
          rw [hcall] at hspeaks
          have hrecorded : Emits P c d := .of_speaks hspeaks hcurrent
          have hframe : ∀ runId ∈ correlation.map Prod.fst, P runId := by
            intro runId hrun
            obtain ⟨pair, rfl, rfl⟩ := Option.map_eq_some_iff.mp hrun
            exact hcurrent pair.1 (TrafficController.currentId_of_recordRfTransmission hcall)
          dsimp only
          generalize hbuilt : DirectedMedium.Transmission.mk _ _ _ _ _ _ _ _ = frame
          have hof : frame.trafficRunId = correlation.map Prod.fst := by rw [← hbuilt]
          obtain ⟨hemits, hcarried⟩ := emits_forward pb medium frame (hof ▸ hframe) d
            (hrecorded.currentId ▸ hcurrent)
          refine ⟨hrecorded.trans hemits, fun injection hmember => ?_⟩
          rw [DirectedMedium.pending_afterTransmit] at hmember
          rw [hcarried injection hmember, hof]
          exact hframe

/-- What a simulation has to do with these runs. -/
structure Serves (P : String → Prop) (simulation : Simulation) : Prop where
  current : ∀ runId ∈ simulation.controller.currentId, P runId
  carries : Carries P simulation.medium

/-- A simulation takes a step by itself. -/
theorem Serves.step {simulation after : Simulation} (h : Serves P simulation)
    (hsound : TrafficTasks.Sound simulation.tasks) {a : Simulation.Action}
    (hown : SimulatorService.ofSimulation a = true) (hstep : simulation.step pb a = some after) :
    Emits P simulation.controller after.controller ∧ Carries P after.medium := by
  cases a with
  | rfFrame nodeId packet =>
      unfold Simulation.step at hstep
      dsimp only at hstep
      split at hstep
      · cases hstep
      · split at hstep <;> cases hstep <;> exact ⟨.refl _, h.carries⟩
  | transmit m nodeId =>
      unfold Simulation.step at hstep
      dsimp only at hstep
      split at hstep
      · cases hstep
      · unfold Simulation.transmitNext at hstep
        split at hstep
        · next packet rest _ _ =>
            cases hstep
            obtain ⟨hemits, hpending⟩ := emits_transmit pb simulation.medium
              simulation.controller m nodeId packet h.current
            have hframes : Carries P (simulation.medium.setFrames nodeId rest) := h.carries
            exact ⟨hemits, hframes.setLoop nodeId hpending⟩
        · cases hstep
  | inject nodeId i =>
      unfold Simulation.step at hstep
      dsimp only at hstep
      split at hstep
      · cases hstep
      · next injection hget =>
          split at hstep
          · cases hstep
          · cases hstep
            have hmember := List.mem_of_getElem? hget
            refine ⟨emits_publish ⟨(fun hof => by cases hof),
              h.carries nodeId injection hmember⟩, ?_⟩
            have hinjected : Carries P (simulation.medium.inject injection) := h.carries
            refine hinjected.setLoop nodeId fun other hother => h.carries nodeId other ?_
            rw [NodeLoop.pending_ran] at hother
            exact List.mem_of_mem_eraseIdx hother
  | injectionRaised nodeId i =>
      unfold Simulation.step at hstep
      dsimp only at hstep
      split at hstep <;> cases hstep
      refine ⟨.refl _, h.carries.setLoop nodeId fun other hother => h.carries nodeId other ?_⟩
      have herased : other ∈ ((simulation.medium.loops nodeId).ran i).pending := hother
      rw [NodeLoop.pending_ran] at herased
      exact List.mem_of_mem_eraseIdx herased
  | gathered nodeId =>
      unfold Simulation.step at hstep
      dsimp only at hstep
      split at hstep <;> cases hstep
      exact ⟨.refl _, h.carries.setLoop nodeId fun _ hmember => by cases hmember⟩
  | updateLink now link => cases hown
  | applyLinks now links => cases hown
  | traffic a =>
      unfold Simulation.step at hstep
      dsimp only at hstep
      split at hstep
      · cases hstep
      · obtain ⟨tasks, htasks, rfl⟩ := Option.map_eq_some_iff.mp hstep
        refine ⟨.of_step pb hsound h.current ?_ htasks, h.carries⟩
        cases a <;> first | rfl | cases hown

end Medium

namespace SimulatorService

variable {s t : SimulatorService}

/-! ## Streams -/

/-- A run was started while the broker had this stream id. -/
def Started (runs : List StartedRun) (streamId runId : String) : Prop :=
  { runId := runId, streamId := streamId } ∈ runs

/-- The stream id that a controller noted for its current run is that of its start. -/
def Homed (runs : List StartedRun) (c : TrafficController) : Prop :=
  ∀ streamId runId, c.eventStreamId = some streamId → c.currentId = some runId →
    Started runs streamId runId

/-- A dropped controller publishes into the stream of its run only: the run is closed, or the
broker still has the stream in which it was started. -/
structure Left (runs : List StartedRun) (streamId : String) (c : TrafficController) : Prop where
  homed : Homed runs c
  started : c.Closed ∨ ∀ runId ∈ c.currentId, Started runs streamId runId

/-- The events that name runs are in the streams of these runs. -/
structure Streamed (s : SimulatorService) : Prop where
  named : ∀ event ∈ s.published, Names (Started s.startedRuns event.streamId) event
  streams : ∀ started ∈ s.startedRuns, started.streamId ∈ s.streamIds
  stream : s.broker.streamId ∈ s.streamIds
  distinct : (s.startedRuns.map (·.runId)).Nodup
  current : ∀ simulation, s.simulation = some simulation →
    Serves (Started s.startedRuns s.broker.streamId) simulation ∧
      Homed s.startedRuns simulation.controller
  retired : ∀ tasks ∈ s.retired, Left s.startedRuns s.broker.streamId tasks.controller

theorem streamed_new (broker : EventBroker) (buildMetadata : BuildMetadata) :
    Streamed (.new broker buildMetadata) where
  named event hmember := by cases hmember
  streams started hmember := by cases hmember
  stream := List.mem_singleton.mpr rfl
  distinct := List.nodup_nil
  current simulation hsimulation := by cases hsimulation
  retired tasks hmember := by cases hmember

theorem Homed.emits {runs : List StartedRun} {P : String → Prop} {c d : TrafficController}
    (h : Homed runs c) (hemits : Emits P c d) : Homed runs d := by
  intro streamId runId hstream hrun
  rw [hemits.eventStreamId] at hstream
  rw [hemits.currentId] at hrun
  exact h streamId runId hstream hrun

theorem streamId_brokerAfter (b : EventBroker) (events : List PacketEvent) :
    (brokerAfter b events).streamId = b.streamId := by
  induction events generalizing b with
  | nil => rfl
  | cons event rest ih => exact ih (b.publish event).2

/-- An event is published as it is, into the stream of the broker. -/
theorem names_sequencedAll {P : String → Prop} (b : EventBroker) {events : List PacketEvent}
    (hnames : ∀ event ∈ events, Names P event) :
    ∀ event ∈ sequencedAll b events, Names P event ∧ event.streamId = b.streamId := by
  induction events generalizing b with
  | nil => exact fun event hmember => by cases hmember
  | cons first rest ih =>
      intro event hmember
      rcases List.mem_cons.mp hmember with rfl | hlater
      · have hfirst := hnames first List.mem_cons_self
        exact ⟨⟨hfirst.named, hfirst.among⟩, rfl⟩
      · exact ih (b.publish first).2 (fun other hother =>
          hnames other (List.mem_cons_of_mem _ hother)) event hlater

/-- Events of the started runs are published, and no run is started. -/
theorem Streamed.advanced (h : Streamed s) {events : List PacketEvent}
    (hnames : ∀ event ∈ events, Names (Started s.startedRuns s.broker.streamId) event)
    (hpublished : t.published = s.published ++ sequencedAll s.broker events)
    (hbroker : t.broker.streamId = s.broker.streamId) (hruns : t.startedRuns = s.startedRuns)
    (hstreams : t.streamIds = s.streamIds)
    (hcurrent : ∀ simulation, t.simulation = some simulation →
      Serves (Started s.startedRuns s.broker.streamId) simulation ∧
        Homed s.startedRuns simulation.controller)
    (hretired : ∀ tasks ∈ t.retired, Left s.startedRuns s.broker.streamId tasks.controller) :
    Streamed t where
  named event hmember := by
    rw [hpublished] at hmember
    rw [hruns]
    rcases List.mem_append.mp hmember with hold | hnew
    · exact h.named event hold
    · obtain ⟨hevent, hstream⟩ := names_sequencedAll s.broker hnames event hnew
      rw [hstream]
      exact hevent
  streams := by
    rw [hruns, hstreams]
    exact h.streams
  stream := by
    rw [hbroker, hstreams]
    exact h.stream
  distinct := hruns ▸ h.distinct
  current := by
    rw [hruns, hbroker]
    exact hcurrent
  retired := by
    rw [hruns, hbroker]
    exact hretired

/-- Nothing is published. -/
theorem Streamed.kept (h : Streamed s) (hpublished : t.published = s.published)
    (hbroker : t.broker = s.broker) (hruns : t.startedRuns = s.startedRuns)
    (hstreams : t.streamIds = s.streamIds) (hsimulation : t.simulation = s.simulation)
    (hretired : t.retired = s.retired) : Streamed t := by
  have hnone : t.published = s.published ++ sequencedAll s.broker [] :=
    hpublished.trans (List.append_nil _).symm
  exact h.advanced (fun _ hmember => by cases hmember) hnone (by rw [hbroker]) hruns hstreams
    (hsimulation ▸ h.current) (hretired ▸ h.retired)

/-- The service says where it is. -/
theorem Streamed.publishLifecycle (h : Streamed s) (m : Moment) :
    Streamed (s.publishLifecycle m) := by
  refine h.advanced ?_ rfl rfl rfl rfl h.current h.retired
  intro event hmember
  rw [List.mem_singleton.mp hmember]
  exact names_none rfl rfl

theorem Streamed.enter (h : Streamed s) (m : Moment) (state : LifecycleState) (message : String) :
    Streamed (s.enter m state message) := by
  have hmoved : Streamed { s with state := state, message := message } :=
    h.kept rfl rfl rfl rfl rfl rfl
  exact hmoved.publishLifecycle m

/-- The current simulation has moved on. -/
theorem Streamed.adopt (h : Streamed s) {before after : Simulation}
    (hsimulation : s.simulation = some before)
    (hemits : Emits (Started s.startedRuns s.broker.streamId) before.controller after.controller)
    (hcarries : Carries (Started s.startedRuns s.broker.streamId) after.medium) :
    Streamed (s.adopt before after) := by
  obtain ⟨hserves, hhomed⟩ := h.current before hsimulation
  obtain ⟨events, houtbox, hevents⟩ := hemits.outbox
  have hnew : after.controller.outbox.drop before.controller.outbox.length = events := by
    rw [houtbox, List.drop_left]
  refine h.advanced hevents ?_ (streamId_brokerAfter _ _) rfl rfl ?_ h.retired
  · rw [← hnew]
    rfl
  · intro simulation hnow
    cases hnow
    exact ⟨⟨by rw [hemits.currentId]; exact hserves.current, hcarries⟩, hhomed.emits hemits⟩

theorem Streamed.call (h : Streamed s) {simulation : Simulation}
    (hsimulation : s.simulation = some simulation) (m : Moment) (kind : CallerKind) :
    Streamed (s.call m simulation kind) := by
  have hserves := (h.current simulation hsimulation).1
  have hpublishes : TrafficController.Publishes "" simulation.controller _ :=
    TrafficTasks.publishes_enterCall simulation.tasks m kind
  exact h.adopt hsimulation (.of_speaks hpublishes.toSpeaks hserves.current) hserves.carries

theorem Streamed.archive (h : Streamed s) (c : TrafficController) :
    Streamed (s.archiveUnpersistedTrafficResult c) := by
  unfold archiveUnpersistedTrafficResult
  split
  · exact h
  · exact h.kept rfl rfl rfl rfl rfl rfl

/-! ## Lifecycle -/

theorem Streamed.beginStart (h : Streamed s) (m : Moment) (capabilities : Capabilities) :
    Streamed (s.beginStart m capabilities).1 := by
  have hfree : Streamed { s with lifecycleLock := .free } := h.kept rfl rfl rfl rfl rfl rfl
  unfold SimulatorService.beginStart
  dsimp only
  split
  · exact hfree
  · split
    · exact hfree
    · exact (hfree.enter m .starting "Starting native firmware processes").kept rfl rfl rfl rfl rfl
        rfl

theorem Streamed.start (h : Streamed s) (m : Moment) (capabilities : Capabilities) :
    Streamed (s.start m capabilities).1 := by
  unfold SimulatorService.start
  split
  · exact h
  · exact h
  · exact h.beginStart m capabilities
  · exact h.kept rfl rfl rfl rfl rfl rfl
  · exact h
  · exact h

/-- A new simulation has no run and no frame on its way. -/
theorem Streamed.createSimulation (h : Streamed s) (m : Moment) (hardwareIds : Dict String Nat)
    (rfFrames : String → List MeshPacket) :
    Streamed (s.createSimulation m hardwareIds rfFrames) := by
  refine Streamed.enter (s := { s with
    simulation := some (.new s.scenario hardwareIds s.buildMetadata rfFrames) })
    ⟨h.named, h.streams, h.stream, h.distinct, ?_, h.retired⟩ m .warmingUp _
  intro simulation hsimulation
  cases hsimulation
  refine ⟨⟨?_, ?_⟩, ?_⟩
  · intro runId hrun
    cases hrun
  · intro nodeId injection hmember
    cases hmember
  · intro streamId runId hstream
    cases hstream

theorem Streamed.scheduleRuntimeFailure (h : Streamed s) (m : Moment) (category detail : String) :
    Streamed (s.scheduleRuntimeFailure m category detail) := by
  have hfailed := h.enter m .failed s!"{category}: {detail}"
  unfold SimulatorService.scheduleRuntimeFailure
  split
  · exact h
  · exact hfailed.kept rfl rfl rfl rfl rfl rfl

theorem Streamed.stop (h : Streamed s) (m : Moment) : Streamed (s.stop m) := by
  unfold SimulatorService.stop
  split
  · exact h
  · exact (h.enter m .stopping "Stopping traffic, gateways, and native processes").kept rfl rfl rfl
      rfl rfl rfl

/-- A reset rotates the stream while nobody is left who may publish into the old one. -/
theorem Streamed.reset (h : Streamed s) (hstaged : Staged s) (htended : Tended s) (m : Moment)
    (streamId : String) : Streamed (s.reset m streamId).1 := by
  unfold SimulatorService.reset
  split
  · exact h
  · next hstate =>
      have hstopped := not_not.mp hstate
      have hnone := hstaged.simulation_of_stopped hstopped
      have hcleared : Streamed { s with
          scenario := defaultScenario
          message :=
            "Scenario reset to the five-node full mesh; packet evidence and daemon logs " ++
            "were cleared; saved runs were preserved" } := h.kept rfl rfl rfl rfl rfl rfl
      have hsaid := hcleared.publishLifecycle m
      refine ⟨hsaid.named, ?_, ?_, h.distinct, ?_, fun tasks hmember => ?_⟩
      · exact fun started hmember => List.mem_append_left _ (h.streams started hmember)
      · exact List.mem_append_right _ (List.mem_singleton.mpr rfl)
      · intro simulation (hsimulation : s.simulation = some simulation)
        rw [hnone] at hsimulation
        cases hsimulation
      · exact ⟨(h.retired tasks hmember).homed,
          Or.inl (htended.closed_retired (htended.stopped hstopped) hmember)⟩

/-! ## Cleanups -/

theorem Streamed.lockedTeardown (h : Streamed s) (m : Moment) (kind : TeardownKind) :
    Streamed (s.lockedTeardown m kind) := by
  have hlocked : Streamed { s with topologyLock := .tearingDown } :=
    h.kept rfl rfl rfl rfl rfl rfl
  unfold SimulatorService.lockedTeardown
  dsimp only
  split
  · next reason simulation hsimulation =>
      exact (hlocked.call hsimulation m _).kept rfl rfl rfl rfl rfl rfl
  · exact hlocked.kept rfl rfl rfl rfl rfl rfl

theorem Streamed.enterCleanup (h : Streamed s) (m : Moment) (kind : TeardownKind) :
    Streamed (s.enterCleanup m kind) := by
  unfold SimulatorService.enterCleanup
  split
  · exact h.kept rfl rfl rfl rfl rfl rfl
  · next simulation hsimulation =>
      exact (h.call hsimulation m .stop).kept rfl rfl rfl rfl rfl rfl

theorem Streamed.stoppedTraffic (h : Streamed s) (kind : TeardownKind) (finalized : Bool) :
    Streamed (s.stoppedTraffic kind finalized) := by
  unfold SimulatorService.stoppedTraffic
  split
  · exact h.kept rfl rfl rfl rfl rfl rfl
  · next simulation hsimulation =>
      split
      · exact (h.archive simulation.controller).kept rfl rfl rfl rfl rfl rfl
      · exact h.kept rfl rfl rfl rfl rfl rfl

/-- A dropped controller keeps its run. -/
theorem Streamed.finishTeardown (h : Streamed s) (m : Moment) (capabilities : Capabilities)
    (kind : TeardownKind) : Streamed (s.finishTeardown m capabilities kind) := by
  have hdropped : Streamed (s.dropSimulation.release kind) := by
    refine ⟨h.named, h.streams, h.stream, h.distinct, (fun _ hnone => by cases hnone), ?_⟩
    intro tasks hmember
    rcases List.mem_append.mp hmember with hold | hnew
    · exact h.retired tasks hold
    · obtain ⟨simulation, hsimulation, rfl⟩ :=
        Option.map_eq_some_iff.mp (Option.mem_toList.mp hnew)
      obtain ⟨hserves, hhomed⟩ := h.current simulation hsimulation
      exact ⟨hhomed, Or.inr hserves.current⟩
  cases kind with
  | stop => exact hdropped.enter m .stopped "Stopped"
  | failure reason => exact hdropped
  | startup => exact hdropped
  | restart => exact hdropped.beginStart m capabilities

theorem Streamed.teardown (h : Streamed s) {m : Moment} {capabilities : Capabilities}
    {kind : TeardownKind} {pc : TeardownPc} (hstep : s.teardown m capabilities kind pc = some t) :
    Streamed t := by
  have hreleased : Streamed (s.release kind) := h.kept rfl rfl rfl rfl rfl rfl
  cases pc with
  | locking =>
      obtain ⟨_, rfl⟩ := guarded_eq_some.mp hstep
      exact h.lockedTeardown m kind
  | failing caller =>
      obtain ⟨pc, _, rfl⟩ := Option.map_eq_some_iff.mp hstep
      split
      · exact hreleased
      · exact h.kept rfl rfl rfl rfl rfl rfl
  | cleaning =>
      cases hstep
      exact h.enterCleanup m kind
  | stopping caller =>
      obtain ⟨pc, _, rfl⟩ := Option.map_eq_some_iff.mp hstep
      split
      · exact h.stoppedTraffic kind _
      · exact hreleased
  | closing =>
      cases hstep
      exact h.finishTeardown m capabilities kind

/-! ## Traffic and topology -/

theorem Streamed.stopTraffic (h : Streamed s) (m : Moment) : Streamed (s.stopTraffic m) := by
  unfold SimulatorService.stopTraffic
  split
  · exact h
  · next simulation hsimulation =>
      have hcalled := h.call hsimulation m .stop
      dsimp only
      split
      · exact hcalled
      · exact hcalled.kept rfl rfl rfl rfl rfl rfl

/-- A run has taken the place of the current one, in the stream of the broker. -/
theorem Streamed.begun (h : Streamed s) {before after : Simulation}
    (hsimulation : s.simulation = some before) {runId : String}
    (hnew : runId ∉ s.startedRuns.map (·.runId)) (hpublished : t.published = s.published)
    (hbroker : t.broker.streamId = s.broker.streamId)
    (hruns : t.startedRuns = s.startedRuns ++
      [{ runId := runId, streamId := s.broker.streamId }])
    (hstreams : t.streamIds = s.streamIds) (hretired : t.retired = s.retired)
    (hnow : t.simulation = some after) (hmedium : after.medium = before.medium)
    (hcurrent : after.controller.currentId = some runId)
    (hstream : after.controller.eventStreamId = some s.broker.streamId) : Streamed t := by
  have hmono : ∀ streamId other, Started s.startedRuns streamId other →
      Started t.startedRuns streamId other := by
    rw [hruns]
    exact fun streamId other hstarted => List.mem_append_left _ hstarted
  have hstarted : Started t.startedRuns s.broker.streamId runId := by
    rw [hruns]
    exact List.mem_append_right _ (List.mem_singleton.mpr rfl)
  refine ⟨?_, ?_, ?_, ?_, ?_, ?_⟩
  · rw [hpublished]
    exact fun event hmember => (h.named event hmember).mono (hmono event.streamId)
  · rw [hruns, hstreams]
    intro other hmember
    rcases List.mem_append.mp hmember with hold | hlast
    · exact h.streams other hold
    · rw [List.mem_singleton.mp hlast]
      exact h.stream
  · rw [hbroker, hstreams]
    exact h.stream
  · rw [hruns, List.map_append]
    refine List.nodup_append.mpr ⟨h.distinct, List.nodup_singleton _, ?_⟩
    rintro old hold last hlast rfl
    rw [List.mem_singleton.mp hlast] at hold
    exact hnew hold
  · intro other hother
    rw [hnow] at hother
    cases hother
    rw [hbroker]
    refine ⟨⟨?_, ?_⟩, ?_⟩
    · intro other hother
      rw [hcurrent] at hother
      cases hother
      exact hstarted
    · rw [hmedium]
      exact (h.current before hsimulation).1.carries.mono (hmono s.broker.streamId)
    · intro streamId other hnoted hother
      rw [hstream] at hnoted
      rw [hcurrent] at hother
      cases hnoted
      cases hother
      exact hstarted
  · rw [hretired, hbroker]
    intro tasks hmember
    obtain ⟨hhomed, hleft⟩ := h.retired tasks hmember
    exact ⟨fun streamId other hnoted hother => hmono streamId other (hhomed streamId other hnoted
      hother), hleft.imp id fun hruns other hother => hmono _ other (hruns other hother)⟩

theorem Streamed.beginRun (h : Streamed s) {simulation : Simulation}
    (hsimulation : s.simulation = some simulation) {m : Moment}
    (hm : m.streamId = s.broker.streamId) {runId : String}
    (hnew : runId ∉ s.startedRuns.map (·.runId)) (request : TrafficRunRequest)
    (baseline : FailedReceptionSample) :
    Streamed (s.beginRun m runId request simulation baseline).1 := by
  have hserves := (h.current simulation hsimulation).1
  unfold SimulatorService.beginRun TrafficTasks.started
  dsimp only
  generalize hstart : simulation.tasks.controller.start m runId _ request _ _ = called
  obtain ⟨c, outcome⟩ := called
  rcases TrafficController.start_outcomes hstart with
    ⟨error, ids, rfl, rfl⟩ | ⟨rfl, _, ids, accumulators, run, hrun, _, rfl⟩
  · exact h.adopt hsimulation (Emits.of_speaks (.of_silent rfl rfl rfl) hserves.current)
      hserves.carries
  · refine h.begun hsimulation hnew ?_ (streamId_brokerAfter _ _) (by rw [← hm]) rfl rfl rfl rfl
      (congrArg some hrun) (congrArg some hm)
    change s.published ++ sequencedAll s.broker
      (simulation.controller.outbox.drop simulation.controller.outbox.length) = s.published
    rw [List.drop_length]
    exact List.append_nil _

theorem Streamed.sampledTraffic (h : Streamed s) {m : Moment}
    (hm : m.streamId = s.broker.streamId) {runId : String}
    (hnew : runId ∉ s.startedRuns.map (·.runId)) (request : TrafficRunRequest) (generation : Nat)
    (answer : Except String FailedReceptionSample) :
    Streamed (s.sampledTraffic m runId request generation answer).1 := by
  have hfree : Streamed { s with topologyLock := .free } := h.kept rfl rfl rfl rfl rfl rfl
  unfold SimulatorService.sampledTraffic
  dsimp only
  split
  · exact hfree
  · next baseline simulation hsimulation =>
      split
      · exact hfree
      · refine (hfree.archive simulation.controller).beginRun ?_ ?_ ?_ request baseline
        · rw [simulation_archive]
          exact hsimulation
        · unfold archiveUnpersistedTrafficResult
          split <;> exact hm
        · unfold archiveUnpersistedTrafficResult
          split <;> exact hnew
  · exact hfree

theorem speaks_recordTopologyChanges (c : TrafficController) (events : List PacketEvent)
    (links : List DirectedLink) :
    TrafficController.Speaks c (recordTopologyChanges c events links).1 := by
  induction events generalizing c links with
  | nil => cases links <;> exact .refl c
  | cons event events ih =>
      cases links with
      | nil => exact .refl c
      | cons link links =>
          have hrecorded := TrafficController.speaks_recordTopologyChange c event link
          unfold recordTopologyChanges
          split
          · next d error hcall =>
              rw [hcall] at hrecorded
              exact hrecorded
          · next d hcall =>
              rw [hcall] at hrecorded
              exact hrecorded.trans (ih d links)

theorem Streamed.applyRuntimeScenario (h : Streamed s) (now : ℚ) (updated : Scenario) :
    Streamed (s.applyRuntimeScenario now updated).1 := by
  unfold SimulatorService.applyRuntimeScenario
  split
  · exact h
  · next simulation hsimulation =>
      obtain ⟨hserves, hhomed⟩ := h.current simulation hsimulation
      split
      · exact h
      · next changed _ =>
          split
          · exact h
          · split
            · exact h
            · next medium applied happly =>
                dsimp only
                generalize hevents : applied.map (fun link =>
                  DirectedMedium.linkUpdateEvent link now) = events
                have hnames : ∀ event ∈ events,
                    Names (Started s.startedRuns s.broker.streamId) event := by
                  intro event hmember
                  rw [← hevents] at hmember
                  obtain ⟨link, _, rfl⟩ := List.mem_map.mp hmember
                  exact names_linkUpdateEvent link now
                have hpublished := emits_publishAll simulation.controller hnames
                have hemits := hpublished.trans (.of_speaks (speaks_recordTopologyChanges _
                  (sequencedAll s.broker events) changed) (hpublished.currentId ▸ hserves.current))
                refine h.advanced hnames rfl (streamId_brokerAfter _ _) rfl rfl ?_ h.retired
                intro other hother
                cases hother
                refine ⟨⟨?_, ?_⟩, hhomed.emits hemits⟩
                · intro runId hrun
                  have hbefore : simulation.controller.currentId = some runId :=
                    hemits.currentId.symm.trans hrun
                  exact hserves.current runId hbefore
                · rw [DirectedMedium.links_applyLinks happly]
                  exact hserves.carries

theorem Streamed.updateLinks (h : Streamed s) (now : ℚ) (updates : List DirectedLink) :
    Streamed (s.updateLinks now updates).1 := by
  unfold SimulatorService.updateLinks
  dsimp only
  split
  · exact h
  · split
    · exact h
    · split
      · exact h
      · split
        · exact h
        · have happlied := h.applyRuntimeScenario now
            { s.scenario with links := s.updatedLinks updates }
          unfold updatedLinks at happlied
          split <;> next hresult => rw [hresult] at happlied; exact happlied

theorem Streamed.applyTopology (h : Streamed s) (now : ℚ) (preset : TopologyPreset) :
    Streamed (s.applyTopology now preset).1 := by
  unfold SimulatorService.applyTopology
  split
  · exact h
  · next updated _ =>
      split
      · exact h.kept rfl rfl rfl rfl rfl rfl
      · split
        · exact h
        · have happlied := h.applyRuntimeScenario now updated
          split <;> next hresult => rw [hresult] at happlied; exact happlied

/-! ## Steps -/

theorem Streamed.stepSimulation (pb : Protobuf) (h : Streamed s) (htended : Tended s)
    {a : Simulation.Action} (hstep : s.stepSimulation pb a = some t) : Streamed t := by
  unfold SimulatorService.stepSimulation at hstep
  split at hstep
  · cases hstep
  · next simulation hsimulation =>
      split at hstep
      · next hown =>
          obtain ⟨after, hafter, rfl⟩ := Option.map_eq_some_iff.mp hstep
          obtain ⟨hemits, hcarries⟩ := (h.current simulation hsimulation).1.step pb
            (htended.current simulation hsimulation).sound hown.1 hafter
          exact (h.adopt hsimulation hemits hcarries).kept rfl rfl rfl rfl rfl rfl
      · cases hstep

/-- A controller whose run is closed publishes nothing but into the stream of its run. -/
theorem emits_of_closed {pb : Protobuf} {tasks later : TrafficTasks} {runs : List StartedRun}
    {streamId : String} (hsound : TrafficTasks.Sound tasks) (hhomed : Homed runs tasks.controller)
    (hclosed : tasks.controller.Closed) {a : TrafficTasks.Action} (hstarts : a.starts = false)
    (hclock : ∀ m ∈ a.moment, m.streamId = streamId) (hstep : tasks.step pb a = some later) :
    Emits (Started runs streamId) tasks.controller later.controller := by
  have hpublishes := TrafficTasks.publishes_step pb hsound.structured hstarts hclock hstep
  obtain ⟨events, houtbox, hevents⟩ := hpublishes.outbox
  refine ⟨hpublishes.currentId, hpublishes.eventStreamId, events, houtbox, ?_⟩
  rcases hpublishes.quiet (hsound.structured.controlled.quiesced hclosed) with hsilent | hstream
  · rw [hsilent, List.self_eq_append_right] at houtbox
    rw [houtbox]
    exact fun event hnone => by cases hnone
  · intro event hevent
    obtain ⟨runId, hrun, hnamed⟩ := hevents event hevent
    refine ⟨fun _ hnone => ?_, fun other hother => ?_⟩
    · rw [hnamed] at hnone
      cases hnone
    · rw [hnamed] at hother
      cases hother
      exact hhomed streamId runId hstream hrun

/-- A dropped controller publishes nothing but into the stream of its run. -/
theorem Streamed.stepRetired (pb : Protobuf) (h : Streamed s) (htended : Tended s)
    {generation : Nat} {a : TrafficTasks.Action}
    (hclock : ∀ m ∈ a.moment, m.streamId = s.broker.streamId)
    (hstep : s.stepRetired pb generation a = some t) : Streamed t := by
  unfold SimulatorService.stepRetired at hstep
  split at hstep
  · cases hstep
  next tasks htasks =>
  split at hstep
  swap
  · cases hstep
  next hown =>
  obtain ⟨after, hafter, rfl⟩ := Option.map_eq_some_iff.mp hstep
  have hminded := (htended.retired generation tasks htasks).1
  obtain ⟨hhomed, hleft⟩ := h.retired tasks (List.mem_of_getElem? htasks)
  have hstarts : a.starts = false := by
    cases a <;> first | rfl | cases hown.1
  have hemits : Emits (Started s.startedRuns s.broker.streamId) tasks.controller
      after.controller := by
    rcases hleft with hclosed | hstarted
    · exact emits_of_closed hminded.sound hhomed hclosed hstarts hclock hafter
    · exact .of_step pb hminded.sound hstarted hstarts hafter
  have honward := onward_of_ofTasks pb hminded.stopping hminded.sound hown.1 hafter
  obtain ⟨events, houtbox, hnames⟩ := hemits.outbox
  have hnew : after.controller.outbox.drop tasks.controller.outbox.length = events := by
    rw [houtbox, List.drop_left]
  refine h.advanced hnames ?_ (streamId_brokerAfter _ _) rfl rfl h.current ?_
  · rw [← hnew]
    rfl
  · intro other hother
    rcases List.mem_or_eq_of_mem_set hother with hold | rfl
    · exact h.retired other hold
    · exact ⟨hhomed.emits hemits, hleft.imp honward.closed fun hstarted runId hrun =>
        hstarted runId (hemits.currentId ▸ hrun)⟩

/-- Every step publishes into the streams of the runs. -/
theorem Streamed.step (pb : Protobuf) (h : Streamed s) (hstaged : Staged s) (htended : Tended s)
    {a : Action} (hstep : s.step pb a = some t) : Streamed t := by
  obtain ⟨hstepped, hmoment⟩ := stepped hstep
  cases hstepped with
  | start m capabilities hfree => exact h.start m capabilities
  | createSimulation m hardwareIds rfFrames hlock hstate =>
      exact h.createSimulation m hardwareIds rfFrames
  | finishStart m observed hlock hstate =>
      exact (h.enter m .running _).kept rfl rfl rfl rfl rfl rfl
  | startupRaised m exception hlock =>
      exact (h.enter m .failed _).kept rfl rfl rfl rfl rfl rfl
  | runtimeFailure m category detail => exact h.scheduleRuntimeFailure m category detail
  | cleanUpFailure reason hfree hpending => exact h.kept rfl rfl rfl rfl rfl rfl
  | stop m hfree => exact h.stop m
  | teardown m capabilities kind pc _ hlock hteardown => exact h.teardown hteardown
  | reset m streamId hfree hnew => exact h.reset hstaged htended m streamId
  | replaceScenario scenario =>
      unfold SimulatorService.replaceScenario
      split
      · exact h
      · exact h.kept rfl rfl rfl rfl rfl rfl
  | updateLinks now updates hfree => exact h.updateLinks now updates
  | applyTopology now preset hfree => exact h.applyTopology now preset
  | startTraffic request hfree =>
      unfold SimulatorService.startTraffic
      split
      · exact h
      · split
        · exact h
        · split
          · exact h
          · exact h.kept rfl rfl rfl rfl rfl rfl
  | sampledTraffic m runId answer request generation hlock hnew =>
      exact h.sampledTraffic (hmoment m rfl) hnew request generation answer
  | stopTraffic m hfree => exact h.stopTraffic m
  | trafficStopped generation caller tasks pc hlock htasks hover =>
      exact h.kept rfl rfl rfl rfl rfl rfl
  | simulation a _ hsimulation => exact h.stepSimulation pb htended hsimulation
  | retired generation a _ hretired => exact h.stepRetired pb htended hmoment hretired
  | file generation fileStep tasks terminal _ htasks hterminal hfile =>
      obtain ⟨root, _, rfl⟩ := Option.map_eq_some_iff.mp hfile
      exact h.kept rfl rfl rfl rfl rfl rfl
  | settleLate generation tasks htasks hlate hdone =>
      have hsettled : Streamed { s with
          lateFinalizations := s.lateFinalizations.erase generation } :=
        h.kept rfl rfl rfl rfl rfl rfl
      exact hsettled.archive tasks.controller

/-! ## Runs that were started -/

/-- Only the start of a run changes what was started, and it forgets nothing. -/
theorem startedRuns_beginRun (s : SimulatorService) (m : Moment) (runId : String)
    (request : TrafficRunRequest) (simulation : Simulation) (baseline : FailedReceptionSample) :
    s.startedRuns <+: (s.beginRun m runId request simulation baseline).1.startedRuns := by
  unfold SimulatorService.beginRun
  dsimp only
  split
  · exact List.prefix_refl _
  · exact List.prefix_append _ _

theorem startedRuns_archive (s : SimulatorService) (c : TrafficController) :
    (s.archiveUnpersistedTrafficResult c).startedRuns = s.startedRuns := by
  unfold archiveUnpersistedTrafficResult
  split <;> rfl

theorem startedRuns_beginStart (s : SimulatorService) (m : Moment) (capabilities : Capabilities) :
    (s.beginStart m capabilities).1.startedRuns = s.startedRuns := by
  unfold SimulatorService.beginStart
  dsimp only
  split
  · rfl
  · split <;> rfl

theorem startedRuns_applyRuntimeScenario (s : SimulatorService) (now : ℚ) (updated : Scenario) :
    (s.applyRuntimeScenario now updated).1.startedRuns = s.startedRuns := by
  unfold SimulatorService.applyRuntimeScenario
  split
  · rfl
  · split
    · rfl
    · split
      · rfl
      · split <;> rfl

theorem startedRuns_teardown {m : Moment} {capabilities : Capabilities} {kind : TeardownKind}
    {pc : TeardownPc} (hstep : s.teardown m capabilities kind pc = some t) :
    t.startedRuns = s.startedRuns := by
  cases pc with
  | locking =>
      obtain ⟨_, rfl⟩ := guarded_eq_some.mp hstep
      unfold SimulatorService.lockedTeardown
      dsimp only
      split <;> rfl
  | failing caller =>
      obtain ⟨pc, _, rfl⟩ := Option.map_eq_some_iff.mp hstep
      split <;> rfl
  | cleaning =>
      cases hstep
      unfold SimulatorService.enterCleanup
      split <;> rfl
  | stopping caller =>
      obtain ⟨pc, _, rfl⟩ := Option.map_eq_some_iff.mp hstep
      split
      · unfold SimulatorService.stoppedTraffic
        split
        · rfl
        · split
          · exact startedRuns_archive s _
          · rfl
      · rfl
  | closing =>
      cases hstep
      cases kind with
      | restart => exact startedRuns_beginStart (s.dropSimulation.release .restart) m capabilities
      | _ => rfl

/-- No step forgets that a run was started. -/
theorem startedRuns_step {pb : Protobuf} {a : Action} (hstep : s.step pb a = some t) :
    s.startedRuns <+: t.startedRuns := by
  have hsame : t.startedRuns = s.startedRuns → s.startedRuns <+: t.startedRuns := fun h =>
    h ▸ List.prefix_refl _
  cases (stepped hstep).1 with
  | start m capabilities hfree =>
      apply hsame
      unfold SimulatorService.start
      split
      · rfl
      · rfl
      · exact startedRuns_beginStart s m capabilities
      · rfl
      · rfl
      · rfl
  | createSimulation m hardwareIds rfFrames hlock hstate => exact hsame rfl
  | finishStart m observed hlock hstate => exact hsame rfl
  | startupRaised m exception hlock => exact hsame rfl
  | runtimeFailure m category detail =>
      apply hsame
      unfold SimulatorService.scheduleRuntimeFailure
      split <;> rfl
  | cleanUpFailure reason hfree hpending => exact hsame rfl
  | stop m hfree =>
      apply hsame
      unfold SimulatorService.stop
      split <;> rfl
  | teardown m capabilities kind pc _ hlock hteardown =>
    exact hsame (startedRuns_teardown hteardown)
  | reset m streamId hfree hnew =>
      apply hsame
      unfold SimulatorService.reset
      split <;> rfl
  | replaceScenario scenario =>
      apply hsame
      unfold SimulatorService.replaceScenario
      split <;> rfl
  | updateLinks now updates hfree =>
      apply hsame
      unfold SimulatorService.updateLinks
      dsimp only
      split
      · rfl
      · split
        · rfl
        · split
          · rfl
          · split
            · rfl
            · have happlied := startedRuns_applyRuntimeScenario s now
                { s.scenario with links := s.updatedLinks updates }
              unfold updatedLinks at happlied
              split <;> next hresult => rw [hresult] at happlied; exact happlied
  | applyTopology now preset hfree =>
      apply hsame
      unfold SimulatorService.applyTopology
      split
      · rfl
      · next updated _ =>
          split
          · rfl
          · split
            · rfl
            · have happlied := startedRuns_applyRuntimeScenario s now updated
              split <;> next hresult => rw [hresult] at happlied; exact happlied
  | startTraffic request hfree =>
      apply hsame
      unfold SimulatorService.startTraffic
      split
      · rfl
      · split
        · rfl
        · split <;> rfl
  | sampledTraffic m runId answer request generation hlock hnew =>
      unfold SimulatorService.sampledTraffic
      dsimp only
      split
      · exact List.prefix_refl _
      · next baseline simulation hsimulation =>
          split
          · exact List.prefix_refl _
          · have hbegun := startedRuns_beginRun
              ({ s with topologyLock := .free }.archiveUnpersistedTrafficResult
                simulation.controller) m runId request simulation baseline
            rwa [startedRuns_archive] at hbegun
      · exact List.prefix_refl _
  | stopTraffic m hfree =>
      apply hsame
      unfold SimulatorService.stopTraffic
      split
      · rfl
      · dsimp only
        split <;> rfl
  | trafficStopped generation caller tasks pc hlock htasks hover => exact hsame rfl
  | simulation a _ hsimulation =>
      apply hsame
      unfold SimulatorService.stepSimulation at hsimulation
      split at hsimulation
      · cases hsimulation
      · split at hsimulation
        · obtain ⟨after, _, rfl⟩ := Option.map_eq_some_iff.mp hsimulation
          rfl
        · cases hsimulation
  | retired generation a _ hretired =>
      apply hsame
      unfold SimulatorService.stepRetired at hretired
      split at hretired
      · cases hretired
      · split at hretired
        · obtain ⟨after, _, rfl⟩ := Option.map_eq_some_iff.mp hretired
          rfl
        · cases hretired
  | file generation fileStep tasks terminal _ htasks hterminal hfile =>
      apply hsame
      obtain ⟨root, _, rfl⟩ := Option.map_eq_some_iff.mp hfile
      rfl
  | settleLate generation tasks htasks hlate hdone =>
      exact hsame (startedRuns_archive _ tasks.controller)

theorem startedRuns_of_run {pb : Protobuf} (hrun : Run (step pb) Always s t) :
    s.startedRuns <+: t.startedRuns := by
  refine hrun.invariant (I := fun u => s.startedRuns <+: u.startedRuns) ?_ (List.prefix_refl _)
  exact fun u a v h _ hstep => h.trans (startedRuns_step hstep)

/-! ## Runs -/

section Runs

variable {broker : EventBroker} {buildMetadata : BuildMetadata}

theorem streamed_of_run (pb : Protobuf)
    (hrun : Run (step pb) Always (.new broker buildMetadata) s) : Streamed s :=
  (hrun.invariant (I := fun s => Staged s ∧ Tended s ∧ Streamed s)
    (fun _ _ _ h _ hstep => ⟨h.1.step pb hstep, h.2.1.step pb h.1 hstep,
      h.2.2.step pb h.1 h.2.1 hstep⟩)
    ⟨staged_new broker buildMetadata, tended_new broker buildMetadata,
      streamed_new broker buildMetadata⟩).2.2

/-- In every run of the service what a controller publishes for a run names it and is in the
stream in which the run started; after a reset no event of an earlier run is in the new
stream, whatever happens next. -/
theorem streams_of_run (pb : Protobuf)
    (hrun : Run (step pb) Always (.new broker buildMetadata) s) :
    (s.startedRuns.map (·.runId)).Nodup ∧
      (∀ event ∈ s.published, ofRun event.eventType = true →
        ∃ runId, event.trafficRunId = some runId) ∧
      (∀ event ∈ s.published, ∀ runId, event.trafficRunId = some runId →
        { runId := runId, streamId := event.streamId } ∈ s.startedRuns) ∧
      ∀ m streamId t u, s.state = .stopped → step pb s (.reset m streamId) = some t →
        Run (step pb) Always t u → t.broker.streamId = streamId ∧
          ∀ started ∈ s.startedRuns, ∀ event ∈ u.published,
            event.streamId = streamId → event.trafficRunId ≠ some started.runId := by
  have h := streamed_of_run pb hrun
  refine ⟨h.distinct, fun event hmember hof => ?_,
    fun event hmember => (h.named event hmember).among, ?_⟩
  · exact Option.ne_none_iff_exists'.mp ((h.named event hmember).named hof)
  · intro m streamId t u hstopped hreset hlater
    have hu := streamed_of_run pb (((hrun.snoc trivial hreset)).trans hlater)
    cases (stepped hreset).1 with
    | reset _ _ hfree hnew =>
        refine ⟨?_, fun started hmember event hevent hstream hnamed => ?_⟩
        · unfold SimulatorService.reset
          rw [if_neg (not_not.mpr hstopped)]
          rfl
        · have hkept := (startedRuns_step hreset).trans (startedRuns_of_run hlater)
          have hold := hkept.subset hmember
          have hsame := (hu.named event hevent).among started.runId hnamed
          rw [hstream] at hsame
          have hone := List.inj_on_of_nodup_map hu.distinct hold hsame rfl
          rw [hone] at hmember
          exact hnew (h.streams _ hmember)

/-- The hardware numbers of the nodes of the scenario. -/
def labHardwareIds : Dict String Nat :=
  (∅ : Dict String Nat).update (defaultScenario.nodeIds.zipIdx 1)

/-- All that the runtime needs. -/
def labCapabilities : Capabilities := { collisionAvailable := true, provenanceAvailable := true }

/-- A run is being finalized when the service is stopped, and the stop gives up waiting. -/
def outlastedStop : List Action :=
  [.start pairMoment labCapabilities,
    .createSimulation pairMoment labHardwareIds fun _ => [],
    .finishStart pairMoment none,
    .startTraffic { sourceNodes := ["node-1"] },
    .sampledTraffic pairMoment "run" (.ok { totals := ∅ }),
    .simulation (.traffic (.run pairMoment .begun)),
    .simulation (.traffic (.run pairMoment (.submit 0 0 0 [7]))),
    .simulation (.traffic (.fromRadio pairMoment "node-1"
      (.queueStatus { meshPacketId := 7, res := 0 }))),
    .simulation (.traffic (.run pairMoment (.sent none true))),
    .simulation (.traffic (.run { pairMoment with now := 1000 } .drained)),
    .simulation (.traffic (.run pairMoment (.sampled none))),
    .stop pairMoment,
    .teardown pairMoment labCapabilities,
    .teardown pairMoment labCapabilities,
    .simulation (.traffic (.resume 0 pairMoment .timeout)),
    .teardown pairMoment labCapabilities,
    .teardown pairMoment labCapabilities]

/-- The final metrics of the run are there after the reset. -/
def lateMetrics : Action :=
  .retired 0 (.run { pairMoment with streamId := "stream-2" } (.finish .computed))

/-- The run that outlasted the stop has published into the old stream and leaves the new one
alone. -/
theorem late_metrics_withheld : ∃ s t u,
    exec (step pairProtobuf) outlastedStop (.new labBroker .unavailable) = some s ∧
      step pairProtobuf s (.reset pairMoment "stream-2") = some t ∧
      step pairProtobuf t lateMetrics = some u ∧
      (∃ event ∈ s.published, event.streamId = "stream" ∧ event.trafficRunId = some "run") ∧
      t.broker.streamId = "stream-2" ∧
      ∀ event ∈ u.published, event.streamId = "stream-2" → event.trafficRunId ≠ some "run" := by
  have hafter : ((exec (step pairProtobuf) outlastedStop (.new labBroker .unavailable)).bind
      fun s => (step pairProtobuf s (.reset pairMoment "stream-2")).bind fun t =>
        (step pairProtobuf t lateMetrics).map fun _ =>
          (decide (s.state = .stopped), s.startedRuns,
            s.published.any fun event =>
              event.streamId = "stream" ∧ event.trafficRunId = some "run")) =
      some (true, [{ runId := "run", streamId := "stream" }], true) := by
    decide +kernel
  obtain ⟨s, hexec, hafter⟩ := Option.bind_eq_some_iff.mp hafter
  obtain ⟨t, hreset, hafter⟩ := Option.bind_eq_some_iff.mp hafter
  obtain ⟨u, hlate, hafter⟩ := Option.map_eq_some_iff.mp hafter
  simp only [Prod.mk.injEq, decide_eq_true_eq] at hafter
  obtain ⟨hstopped, hstarted, hpublished⟩ := hafter
  obtain ⟨event, hevent, hold⟩ := List.any_eq_true.mp hpublished
  obtain ⟨hstream, hrest⟩ := (streams_of_run pairProtobuf
    (.of_exec hexec (conforms_always _ _))).2.2.2 pairMoment "stream-2" t u hstopped hreset
      ((Run.refl t).snoc trivial hlate)
  refine ⟨s, t, u, hexec, hreset, hlate, ⟨event, hevent, of_decide_eq_true hold⟩, hstream, ?_⟩
  exact hrest _ (by rw [hstarted]; exact List.mem_singleton.mpr rfl)

end Runs

end SimulatorService

end MeshtasticLab.Simulator

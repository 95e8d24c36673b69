/-
  Simulator/TopologyHistory.lean --- the changes of the topology that a run records.

  WHAT THIS FILE IS FOR

  A run starts with the links of the scenario, and every update of the links that comes
  while it is open is recorded with the event that announced it.  So the recorded
  changes, folded over the links of the snapshot, give the links of the scenario.  The
  numbers of the events order them, since the broker counts up within a stream.
-/
import MeshtasticLab.Foundation.Overwrite
import MeshtasticLab.Simulator.Reached
import MeshtasticLab.Traffic.Underway

set_option autoImplicit false

namespace MeshtasticLab.Simulator

open MeshtasticLab.Foundation MeshtasticLab.Gateway MeshtasticLab.Metrics MeshtasticLab.Models
open MeshtasticLab.Traffic
open MeshtasticLab.Traffic.TrafficController (Controlled Underway)
open MeshtasticLab.Traffic.TrafficTasks (Sound Stopping Structured pairProtobuf pairMoment)

/-- The recorded changes, folded over links. -/
def replay (links : List DirectedLink) (changes : List TopologyChange) : List DirectedLink :=
  changes.foldl (fun links change => overwrite DirectedLink.key links change.link) links

theorem replay_eq (links : List DirectedLink) (changes : List TopologyChange) :
    replay links changes = overwriteAll DirectedLink.key links (changes.map (·.link)) :=
  List.foldl_map.symm

theorem replay_append (links : List DirectedLink) (first second : List TopologyChange) :
    replay links (first ++ second) = replay (replay links first) second :=
  List.foldl_append ..

/-! ## Open runs -/

/-- A run that is open was open before, with the same topology, and stays under way. -/
structure GoesOn (c d : TrafficController) : Prop where
  history : ¬d.Closed → ¬c.Closed ∧ d.history = c.history
  underway : Underway c → Underway d

theorem GoesOn.refl (c : TrafficController) : GoesOn c c := ⟨fun hopen => ⟨hopen, rfl⟩, id⟩

theorem GoesOn.trans {c d e : TrafficController} (hfirst : GoesOn c d) (hsecond : GoesOn d e) :
    GoesOn c e := by
  refine ⟨fun hopen => ?_, fun hunderway => hsecond.underway (hfirst.underway hunderway)⟩
  obtain ⟨hbetween, hlast⟩ := hsecond.history hopen
  obtain ⟨hbefore, hsame⟩ := hfirst.history hbetween
  exact ⟨hbefore, hlast.trans hsame⟩

section Tasks

variable {pb : Protobuf} {tasks later : TrafficTasks}

/-- A step that starts no run and records no change. -/
theorem goesOn_step (hstructured : Structured tasks) {a : TrafficTasks.Action}
    (hstarts : a.starts = false) (hchanges : a.changesTopology = false)
    (hstep : tasks.step pb a = some later) : GoesOn tasks.controller later.controller := by
  have hmove : TrafficTasks.Move False True tasks later :=
    TrafficTasks.move_of_step False True pb hstructured hstarts False.elim False.elim
      (fun _ => trivial) hstep
  have hadvance := hmove.advance hstructured
  refine ⟨fun hopen => ⟨fun hclosed => hopen (hadvance.closed hclosed), ?_⟩,
    fun hunderway => TrafficTasks.underway_step pb hstructured hunderway hstarts hstep⟩
  rcases TrafficTasks.stays_step pb hstructured.controlled hstarts hchanges hstep with
    hfrozen | hstays
  · exact absurd (Custody.closed_of_frozen hadvance.controlled hfrozen) hopen
  · exact hstays.history

/-- The medium reports and publishes. -/
theorem goesOn_noted (hcontrolled : Controlled tasks.controller) (hnoted : Noted tasks later)
    (hevidence : later.controller.evidence = tasks.controller.evidence) :
    GoesOn tasks.controller later.controller where
  history hopen := ⟨fun hclosed => hopen (hnoted.neutral.advance.closed hclosed),
    TrafficController.history_of_evidence hevidence⟩
  underway hunderway := hunderway.goesOn (hnoted.neutral.continues hcontrolled)
    (Or.inr (Or.inl (congrArg Frame.state hnoted.frame)))

end Tasks

/-! ## The medium -/

section Medium

variable {pb : Protobuf}

theorem evidence_publishAll (c : TrafficController) (events : List PacketEvent) :
    (events.foldl TrafficController.publish c).evidence = c.evidence :=
  TrafficController.evidence_foldl TrafficController.evidence_publish events c

theorem evidence_decide (frame : DirectedMedium.Transmission) (links : List DirectedLink)
    (decided : TrafficController × List Injection) :
    (links.foldl (frame.decide pb) decided).1.evidence = decided.1.evidence := by
  induction links generalizing decided with
  | nil => rfl
  | cons link rest ih =>
      rw [List.foldl_cons, ih]
      unfold DirectedMedium.Transmission.decide
      split <;> simp

theorem evidence_transmit (medium : DirectedMedium) (c : TrafficController) (m : Moment)
    (transmitter : String) (packet : MeshPacket) :
    (medium.transmit pb c m transmitter packet).1.evidence = c.evidence := by
  unfold DirectedMedium.transmit
  split
  · rfl
  · next payloadLength _ =>
      have hrecorded := TrafficController.evidence_recordRfTransmission pb c m transmitter packet
        (airtimeMs payloadLength medium.scenario.rf.modemPreset)
      dsimp only
      split
      · next d error hcall =>
          rw [hcall] at hrecorded
          exact hrecorded
      · next d correlation hcall =>
          rw [hcall] at hrecorded
          unfold DirectedMedium.forward
          dsimp only
          rw [evidence_decide, TrafficController.evidence_publish]
          exact hrecorded

/-- A simulation by itself changes no topology. -/
theorem Simulation.goesOn_step {simulation after : Simulation} {a : Simulation.Action}
    (hstopping : Stopping simulation.tasks) (hsound : Sound simulation.tasks)
    (hown : SimulatorService.ofSimulation a = true) (hstep : simulation.step pb a = some after) :
    GoesOn simulation.controller after.controller := by
  have hcontrolled := hsound.structured.controlled
  have hnoted : (∀ action, a ≠ .traffic action) → Noted simulation.tasks after.tasks := by
    intro hmedium
    refine ((Simulation.tasks_step hstopping hsound hown hstep).resolve_right ?_).2
    rintro ⟨action, heq, _⟩
    exact hmedium action heq
  cases a with
  | rfFrame nodeId packet =>
      refine goesOn_noted hcontrolled (hnoted (by intro action heq; cases heq)) ?_
      unfold Simulation.step at hstep
      dsimp only at hstep
      split at hstep
      · cases hstep
      · split at hstep <;> cases hstep <;> rfl
  | transmit m nodeId =>
      refine goesOn_noted hcontrolled (hnoted (by intro action heq; cases heq)) ?_
      unfold Simulation.step at hstep
      dsimp only at hstep
      split at hstep
      · cases hstep
      · unfold Simulation.transmitNext at hstep
        split at hstep
        · cases hstep
          exact evidence_transmit simulation.medium simulation.controller m nodeId _
        · cases hstep
  | inject nodeId i =>
      refine goesOn_noted hcontrolled (hnoted (by intro action heq; cases heq)) ?_
      unfold Simulation.step at hstep
      dsimp only at hstep
      split at hstep
      · cases hstep
      · split at hstep
        · cases hstep
        · cases hstep
          exact TrafficController.evidence_publish simulation.controller _
  | injectionRaised nodeId i =>
      refine goesOn_noted hcontrolled (hnoted (by intro action heq; cases heq)) ?_
      unfold Simulation.step at hstep
      dsimp only at hstep
      split at hstep <;> cases hstep
      rfl
  | gathered nodeId =>
      refine goesOn_noted hcontrolled (hnoted (by intro action heq; cases heq)) ?_
      unfold Simulation.step at hstep
      dsimp only at hstep
      split at hstep <;> cases hstep
      rfl
  | updateLink now link => cases hown
  | applyLinks now links => cases hown
  | traffic action =>
      unfold Simulation.step at hstep
      dsimp only at hstep
      split at hstep
      · cases hstep
      · obtain ⟨tasks, htasks, rfl⟩ := Option.map_eq_some_iff.mp hstep
        refine MeshtasticLab.Simulator.goesOn_step hsound.structured ?_ ?_ htasks
        · cases action <;> first | rfl | cases hown
        · cases action <;> first | rfl | cases hown

end Medium

namespace SimulatorService

variable {s t u : SimulatorService} {pb : Protobuf}

/-! ## Numbers of events -/

theorem brokerAfter_append (b : EventBroker) (first second : List PacketEvent) :
    brokerAfter b (first ++ second) = brokerAfter (brokerAfter b first) second :=
  List.foldl_append ..

theorem sequencedAll_append (b : EventBroker) (first second : List PacketEvent) :
    sequencedAll b (first ++ second) =
      sequencedAll b first ++ sequencedAll (brokerAfter b first) second := by
  induction first generalizing b with
  | nil => rfl
  | cons event rest ih => exact congrArg (_ :: ·) (ih (b.publish event).2)

theorem sequence_brokerAfter (b : EventBroker) (events : List PacketEvent) :
    (brokerAfter b events).sequence = b.sequence + events.length := by
  induction events generalizing b with
  | nil => rfl
  | cons event rest ih =>
      rw [List.length_cons, Nat.add_comm rest.length, ← Nat.add_assoc]
      exact ih (b.publish event).2

/-- The events of one call are numbered from that of the broker on. -/
theorem mem_sequencedAll {b : EventBroker} {events : List PacketEvent} {event : PacketEvent}
    (hmember : event ∈ sequencedAll b events) : b.sequence < event.sequence ∧
      event.sequence ≤ b.sequence + events.length ∧ event.streamId = b.streamId := by
  induction events generalizing b with
  | nil => cases hmember
  | cons first rest ih =>
      rw [List.length_cons]
      rcases List.mem_cons.mp hmember with rfl | hlater
      · have hnumber : (b.publish first).1.sequence = b.sequence + 1 := rfl
        exact ⟨by omega, by omega, rfl⟩
      · obtain ⟨hlow, hhigh, hstream⟩ := ih hlater
        have hnumber : (b.publish first).2.sequence = b.sequence + 1 := rfl
        exact ⟨by omega, by omega, hstream⟩

theorem sequencedAll_increasing (b : EventBroker) (events : List PacketEvent) :
    (sequencedAll b events).Pairwise fun event later => event.sequence < later.sequence := by
  induction events generalizing b with
  | nil => exact List.Pairwise.nil
  | cons first rest ih =>
      refine List.pairwise_cons.mpr ⟨fun later hlater => ?_, ih (b.publish first).2⟩
      exact (mem_sequencedAll hlater).1

/-- Events are published into the stream. -/
structure Tells (s t : SimulatorService) : Prop where
  published : ∃ events, t.published = s.published ++ sequencedAll s.broker events ∧
    t.broker = brokerAfter s.broker events
  streamIds : t.streamIds = s.streamIds

theorem Tells.refl (s : SimulatorService) : Tells s s :=
  ⟨⟨[], (List.append_nil _).symm, rfl⟩, rfl⟩

theorem Tells.trans (hfirst : Tells s t) (hsecond : Tells t u) : Tells s u := by
  obtain ⟨first, hpublished, hbroker⟩ := hfirst.published
  obtain ⟨second, hmore, hlast⟩ := hsecond.published
  refine ⟨⟨first ++ second, ?_, ?_⟩, hsecond.streamIds.trans hfirst.streamIds⟩
  · rw [hmore, hpublished, hbroker, sequencedAll_append, List.append_assoc]
  · rw [hlast, hbroker, brokerAfter_append]

theorem Tells.streamId (h : Tells s t) : t.broker.streamId = s.broker.streamId := by
  obtain ⟨events, _, hbroker⟩ := h.published
  rw [hbroker]
  exact streamId_brokerAfter _ _

theorem Tells.subset (h : Tells s t) : s.published ⊆ t.published := by
  obtain ⟨events, hpublished, _⟩ := h.published
  rw [hpublished]
  exact List.subset_append_left _ _

/-- Within a stream the events are numbered in their order. -/
structure Numbered (s : SimulatorService) : Prop where
  increasing : s.published.Pairwise fun event later =>
    event.streamId = later.streamId → event.sequence < later.sequence
  bounded : ∀ event ∈ s.published, event.streamId = s.broker.streamId →
    event.sequence ≤ s.broker.sequence
  streams : ∀ event ∈ s.published, event.streamId ∈ s.streamIds
  stream : s.broker.streamId ∈ s.streamIds

theorem Numbered.tells (h : Numbered s) (htells : Tells s t) : Numbered t := by
  obtain ⟨events, hpublished, hbroker⟩ := htells.published
  have hsequence : t.broker.sequence = s.broker.sequence + events.length := by
    rw [hbroker, sequence_brokerAfter]
  refine ⟨?_, ?_, ?_, ?_⟩
  · rw [hpublished, List.pairwise_append]
    refine ⟨h.increasing, ?_, ?_⟩
    · refine (sequencedAll_increasing s.broker events).imp ?_
      exact fun hlt _ => hlt
    intro event hevent later hlater hsame
    obtain ⟨hlow, _, hlast⟩ := mem_sequencedAll hlater
    exact Nat.lt_of_le_of_lt (h.bounded event hevent (hsame.trans hlast)) hlow
  · rw [hpublished, htells.streamId, hsequence]
    intro event hevent hsame
    rcases List.mem_append.mp hevent with hold | hnew
    · exact (h.bounded event hold hsame).trans (Nat.le_add_right _ _)
    · exact (mem_sequencedAll hnew).2.1
  · rw [hpublished, htells.streamIds]
    intro event hevent
    rcases List.mem_append.mp hevent with hold | hnew
    · exact h.streams event hold
    · rw [(mem_sequencedAll hnew).2.2]
      exact h.stream
  · rw [htells.streamId, htells.streamIds]
    exact h.stream

/-! ## What a run recounts -/

/-- The event announces the link that the change records. -/
def Announces (event : PacketEvent) (change : TopologyChange) : Prop :=
  event = { DirectedMedium.linkUpdateEvent change.link change.monotonicSeconds with
    sequence := change.eventSequence
    streamId := event.streamId }

/-- The changes lead from the snapshot to the scenario, each of them changes a link, and each
was announced in the stream under its number, in this order. -/
structure Recounts (s : SimulatorService) (snapshot : Scenario) (changes : List TopologyChange) :
    Prop where
  replayed : replay snapshot.links changes = s.scenario.links
  effective : Overwrites DirectedLink.key snapshot.links (changes.map (·.link))
  announced : ∀ change ∈ changes, ∃ event ∈ s.published,
    event.streamId = s.broker.streamId ∧ Announces event change
  ordered : (changes.map (·.eventSequence)).Pairwise (· < ·)

/-- The open run is under way and recounts the topology. -/
structure Recounted (s : SimulatorService) : Prop where
  numbered : Numbered s
  underway : ∀ simulation ∈ s.simulation, Underway simulation.controller
  recounts : ∀ simulation ∈ s.simulation, ¬simulation.controller.Closed →
    ∀ entry ∈ simulation.controller.history, Recounts s entry.1 entry.2

/-- The topology stays. -/
structure Resumes (s t : SimulatorService) : Prop where
  tells : Tells s t
  scenario : t.scenario = s.scenario
  simulation : ∀ after ∈ t.simulation, ∃ before ∈ s.simulation,
    GoesOn before.controller after.controller

theorem Resumes.refl (s : SimulatorService) : Resumes s s :=
  ⟨.refl s, rfl, fun after hafter => ⟨after, hafter, .refl _⟩⟩

theorem Resumes.trans (hfirst : Resumes s t) (hsecond : Resumes t u) : Resumes s u := by
  refine ⟨hfirst.tells.trans hsecond.tells, hsecond.scenario.trans hfirst.scenario, ?_⟩
  intro after hafter
  obtain ⟨between, hbetween, hlast⟩ := hsecond.simulation after hafter
  obtain ⟨before, hbefore, hgoes⟩ := hfirst.simulation between hbetween
  exact ⟨before, hbefore, hgoes.trans hlast⟩

/-- Nothing that matters changes. -/
theorem resumes_kept (hpublished : t.published = s.published) (hbroker : t.broker = s.broker)
    (hstreams : t.streamIds = s.streamIds) (hscenario : t.scenario = s.scenario)
    (hsimulation : t.simulation = s.simulation) : Resumes s t :=
  ⟨⟨⟨[], hpublished.trans (List.append_nil _).symm, hbroker⟩, hstreams⟩, hscenario,
    fun after hafter => ⟨after, hsimulation ▸ hafter, .refl _⟩⟩

theorem Recounts.tells {snapshot : Scenario} {changes : List TopologyChange}
    (h : Recounts s snapshot changes) (htells : Tells s t) (hscenario : t.scenario = s.scenario) :
    Recounts t snapshot changes where
  replayed := by rw [h.replayed, hscenario]
  effective := h.effective
  announced change hchange := by
    obtain ⟨event, hevent, hstream, hannounces⟩ := h.announced change hchange
    exact ⟨event, htells.subset hevent, by rw [hstream, htells.streamId], hannounces⟩
  ordered := h.ordered

theorem Recounted.resumes (h : Recounted s) (hresumes : Resumes s t) : Recounted t := by
  refine ⟨h.numbered.tells hresumes.tells, fun after hafter => ?_, ?_⟩
  · obtain ⟨before, hbefore, hgoes⟩ := hresumes.simulation after hafter
    exact hgoes.underway (h.underway before hbefore)
  intro after hafter hopen entry hentry
  obtain ⟨before, hbefore, hgoes⟩ := hresumes.simulation after hafter
  obtain ⟨hopenBefore, hsame⟩ := hgoes.history hopen
  exact (h.recounts before hbefore hopenBefore entry (hsame ▸ hentry)).tells hresumes.tells
    hresumes.scenario

/-- There is no controller. -/
theorem recounted_of_vacant (hnumbered : Numbered s) (hnone : s.simulation = none) :
    Recounted s := by
  refine ⟨hnumbered, ?_, ?_⟩ <;>
  · intro simulation hsimulation
    cases hnone.symm.trans hsimulation

/-- No run has been started. -/
theorem Recounted.vacant (h : Recounted s) (htells : Tells s t)
    (hvacant : ∀ simulation ∈ t.simulation,
      simulation.controller.current = none) : Recounted t := by
  refine ⟨h.numbered.tells htells, ?_, fun simulation hsimulation _ entry hentry => ?_⟩
  · intro simulation hsimulation _ hid
    refine absurd ?_ hid
    rw [TrafficController.currentId, hvacant simulation hsimulation]
    rfl
  · rw [TrafficController.history, hvacant simulation hsimulation] at hentry
    cases hentry

/-! ## Updates -/

theorem history_addChanges (c : TrafficController) (changes : List TopologyChange) :
    (addChanges c changes).history =
      c.history.map fun entry => (entry.1, entry.2 ++ changes) := by
  unfold TrafficController.history addChanges
  rw [current_modifyCurrent, Option.map_map, Option.map_map]
  rfl

theorem links_zipWith_changeOf {events : List PacketEvent} {links : List DirectedLink}
    (hlength : events.length = links.length) :
    (List.zipWith changeOf events links).map (·.link) = links := by
  rw [← List.map_uncurry_zip_eq_zipWith, List.map_map]
  exact List.map_snd_zip hlength.ge

theorem sequences_zipWith_changeOf {events : List PacketEvent} {links : List DirectedLink}
    (hlength : events.length = links.length) :
    (List.zipWith changeOf events links).map (·.eventSequence) = events.map (·.sequence) := by
  rw [← List.map_uncurry_zip_eq_zipWith, List.map_map]
  calc (events.zip links).map ((·.eventSequence) ∘ Function.uncurry changeOf)
      = ((events.zip links).map Prod.fst).map (·.sequence) := by
        rw [List.map_map]
        rfl
    _ = events.map (·.sequence) := by rw [List.map_fst_zip hlength.le]

/-- Each change is recorded with the event that announced its link. -/
theorem announces_zipWith (b : EventBroker) (now : ℚ) (links : List DirectedLink) :
    ∀ change ∈ List.zipWith changeOf (sequencedAll b (linkEvents now links)) links,
      ∃ event ∈ sequencedAll b (linkEvents now links), Announces event change := by
  induction links generalizing b with
  | nil => exact fun change hchange => by cases hchange
  | cons link rest ih =>
      intro change hchange
      rcases List.mem_cons.mp hchange with rfl | hlater
      · exact ⟨_, List.mem_cons_self, rfl⟩
      · obtain ⟨event, hevent, hannounces⟩ := ih _ change hlater
        exact ⟨event, List.mem_cons_of_mem _ hevent, hannounces⟩

/-- An open run takes changes. -/
theorem takesChanges_of_open {c : TrafficController} (hcontrolled : Controlled c)
    (hunderway : Underway c) (hopen : ¬c.Closed) (hcurrent : c.current ≠ none) :
    TakesChanges c := by
  refine ⟨hcurrent, ?_⟩
  have hunfrozen : c.frozenResult = none := by
    by_contra hfrozen
    exact hopen (hcontrolled.frozen fun hnil => hfrozen (List.head?_eq_none_iff.mpr hnil))
  have hstate := hunderway hunfrozen (by simpa [TrafficController.currentId] using hcurrent)
  unfold TrafficController.acceptsRunEvents
  unfold TrafficController.Closed at hopen
  cases hphase : c.phase <;> rcases hstate with hstate | hstate <;> simp_all

/-- The changes of an update are recounted. -/
theorem Recounts.update (h : Staged s) (hnumbered : Numbered s) {snapshot : Scenario}
    {changes : List TopologyChange} (hrecounts : Recounts s snapshot changes)
    (simulation : Simulation) (now : ℚ) {links : List DirectedLink}
    (hkeys : links.map (·.key) = s.scenario.linkKeys) :
    Recounts (s.withLinks simulation now links) snapshot (changes ++ List.zipWith changeOf
      (sequencedAll s.broker (linkEvents now (differing s.scenario.linkMap links)))
      (differing s.scenario.linkMap links)) := by
  generalize hchanged : differing s.scenario.linkMap links = changed
  have hlength : (sequencedAll s.broker (linkEvents now changed)).length = changed.length := by
    rw [length_sequencedAll, linkEvents, List.length_map]
  have hdistinct := h.complete.nodup_linkKeys
  obtain ⟨hlast, hwrites⟩ : overwriteAll DirectedLink.key s.scenario.links changed = links ∧
      Overwrites DirectedLink.key s.scenario.links changed := by
    rw [← hchanged]
    refine overwriteAll_differing hkeys.symm hdistinct fun link hlink => ?_
    rw [decide_eq_true_iff, ne_eq, Scenario.linkMap, ← Scenario.linkMapOf,
      Scenario.get?_linkMapOf_iff hdistinct, and_iff_left rfl]
  have htells : Tells s (s.withLinks simulation now links) :=
    ⟨⟨linkEvents now (differing s.scenario.linkMap links), rfl, rfl⟩, rfl⟩
  have hpublished : (s.withLinks simulation now links).published =
      s.published ++ sequencedAll s.broker (linkEvents now changed) := by
    rw [← hchanged]
    rfl
  refine ⟨?_, ?_, ?_, ?_⟩
  · rw [replay_append, hrecounts.replayed, replay_eq, links_zipWith_changeOf hlength]
    exact hlast
  · rw [List.map_append, overwrites_append, ← replay_eq, hrecounts.replayed,
      links_zipWith_changeOf hlength]
    exact ⟨hrecounts.effective, hwrites⟩
  · intro change hchange
    rw [hpublished, htells.streamId]
    rcases List.mem_append.mp hchange with hold | hnew
    · obtain ⟨event, hevent, hannounced⟩ := hrecounts.announced change hold
      exact ⟨event, List.mem_append_left _ hevent, hannounced⟩
    · obtain ⟨event, hevent, hannounces⟩ := announces_zipWith s.broker now changed change hnew
      exact ⟨event, List.mem_append_right _ hevent, (mem_sequencedAll hevent).2.2, hannounces⟩
  · rw [List.map_append, sequences_zipWith_changeOf hlength, List.pairwise_append]
    refine ⟨hrecounts.ordered, List.pairwise_map.mpr (sequencedAll_increasing _ _), ?_⟩
    intro number hnumber later hlater
    obtain ⟨change, hchange, rfl⟩ := List.mem_map.mp hnumber
    obtain ⟨event, hevent, rfl⟩ := List.mem_map.mp hlater
    obtain ⟨old, hold, hstream, hannounces⟩ := hrecounts.announced change hchange
    have hsame : old.sequence = change.eventSequence := by rw [hannounces]
    exact hsame ▸ Nat.lt_of_le_of_lt (hnumbered.bounded old hold hstream)
      (mem_sequencedAll hevent).1

theorem phase_modifyCurrent (c : TrafficController)
    (f : TrafficRunResult → TrafficRunResult) : (c.modifyCurrent f).phase = c.phase := by
  unfold TrafficController.modifyCurrent
  split <;> rfl

/-- Announcing and recording changes leaves the phase of the run. -/
theorem phase_relinked (b : EventBroker) (simulation : Simulation) (now : ℚ)
    (links changed : List DirectedLink) :
    (relinked b simulation now links changed).controller.phase = simulation.controller.phase := by
  have hannounced : ((linkEvents now changed).foldl TrafficController.publish
      simulation.controller).phase = simulation.controller.phase := by
    rw [publishAll_outbox]
  change (ite _ _ _ : TrafficController).phase = _
  split
  · exact (phase_modifyCurrent _ _).trans hannounced
  · exact hannounced

/-- A run that takes changes gets them behind those that it has. -/
theorem history_relinked (b : EventBroker) {simulation : Simulation}
    (htakes : simulation.controller.current ≠ none → TakesChanges simulation.controller) (now : ℚ)
    (links changed : List DirectedLink) :
    (relinked b simulation now links changed).controller.history =
      simulation.controller.history.map fun entry =>
        (entry.1, entry.2 ++ List.zipWith changeOf (sequencedAll b (linkEvents now changed))
          changed) := by
  have hannounced : ((linkEvents now changed).foldl TrafficController.publish
      simulation.controller).history = simulation.controller.history :=
    TrafficController.history_of_evidence (evidence_publishAll simulation.controller _)
  change (ite _ _ _ : TrafficController).history = _
  cases hcurrent : simulation.controller.current with
  | none =>
      rw [if_neg (fun htakes => htakes.1 hcurrent)]
      refine hannounced.trans ?_
      unfold TrafficController.history
      rw [hcurrent]
      rfl
  | some run =>
      rw [if_pos (htakes (by rw [hcurrent]; exact Option.some_ne_none run)), history_addChanges]
      exact congrArg _ hannounced

theorem length_frozen_modifyCurrent (c : TrafficController)
    (f : TrafficRunResult → TrafficRunResult) :
    (c.modifyCurrent f).frozenResults.length = c.frozenResults.length := by
  unfold TrafficController.modifyCurrent
  split <;> simp [*]

/-- Announcing and recording changes leaves the run under way. -/
theorem underway_relinked (b : EventBroker) {simulation : Simulation}
    (h : Underway simulation.controller) (now : ℚ) (links changed : List DirectedLink) :
    Underway (relinked b simulation now links changed).controller := by
  have hannounced : Underway ((linkEvents now changed).foldl TrafficController.publish
      simulation.controller) := by
    rw [publishAll_outbox]
    exact h
  change Underway (ite _ _ _)
  split
  · refine hannounced.goesOn ⟨TrafficController.currentId_modifyCurrent _ fun run => rfl, ?_⟩
      (Or.inr (Or.inl (TrafficController.state_modifyCurrent _ _)))
    exact (length_frozen_modifyCurrent _ _).ge
  · exact hannounced

theorem Tended.structured (h : Tended s) {simulation : Simulation}
    (hsimulation : s.simulation = some simulation) : Structured simulation.tasks :=
  (h.current simulation hsimulation).sound.structured

/-- The links of the running simulation are replaced. -/
theorem Recounted.withLinks (h : Recounted s) (hstaged : Staged s) (htended : Tended s)
    {simulation : Simulation} (hsimulation : s.simulation = some simulation) (now : ℚ)
    {links : List DirectedLink} (hkeys : links.map (·.key) = s.scenario.linkKeys) :
    Recounted (s.withLinks simulation now links) := by
  have hunderway := h.underway simulation hsimulation
  refine ⟨h.numbered.tells ⟨⟨linkEvents now (differing s.scenario.linkMap links),
    rfl, rfl⟩, rfl⟩, ?_, ?_⟩
  · intro after hafter
    cases hafter
    exact underway_relinked s.broker hunderway now links _
  intro after hafter hopen entry hentry
  cases hafter
  have hopenBefore : ¬simulation.controller.Closed := by
    unfold TrafficController.Closed at hopen ⊢
    rwa [phase_relinked] at hopen
  have htakes := takesChanges_of_open (htended.structured hsimulation).controlled hunderway
    hopenBefore
  rw [history_relinked s.broker htakes] at hentry
  obtain ⟨before, hbefore, rfl⟩ := Option.map_eq_some_iff.mp hentry
  exact (h.recounts simulation hsimulation hopenBefore before hbefore).update hstaged h.numbered
    simulation now hkeys

/-! ## Commands -/

theorem Resumes.enter (s : SimulatorService) (m : Moment) (state : LifecycleState)
    (message : String) : Resumes s (s.enter m state message) :=
  ⟨⟨⟨_, rfl, rfl⟩, rfl⟩, rfl, fun after hafter => ⟨after, hafter, .refl _⟩⟩

/-- The current simulation goes on. -/
theorem resumes_adopt {before after : Simulation} (hsimulation : s.simulation = some before)
    (hgoes : GoesOn before.controller after.controller) : Resumes s (s.adopt before after) := by
  refine ⟨⟨⟨_, rfl, rfl⟩, rfl⟩, rfl, fun later hlater => ?_⟩
  cases hlater
  exact ⟨before, hsimulation, hgoes⟩

theorem resumes_call (pb : Protobuf) {simulation : Simulation}
    (hstructured : Structured simulation.tasks) (hsimulation : s.simulation = some simulation)
    (m : Moment) (kind : CallerKind) : Resumes s (s.call m simulation kind) := by
  have hcall : TrafficTasks.step pb simulation.tasks (.call m kind) =
      some (calling simulation.tasks m kind) := rfl
  exact resumes_adopt hsimulation
    (MeshtasticLab.Simulator.goesOn_step hstructured rfl rfl hcall)

theorem resumes_archive (s : SimulatorService) (c : TrafficController) :
    Resumes s (s.archiveUnpersistedTrafficResult c) := by
  unfold archiveUnpersistedTrafficResult
  split
  · exact .refl s
  · exact resumes_kept rfl rfl rfl rfl rfl

theorem resumes_beginStart (s : SimulatorService) (m : Moment) (capabilities : Capabilities) :
    Resumes s (s.beginStart m capabilities).1 := by
  have hfree : Resumes s { s with lifecycleLock := .free } := resumes_kept rfl rfl rfl rfl rfl
  unfold SimulatorService.beginStart
  dsimp only
  split
  · exact hfree
  · split
    · exact hfree
    · exact hfree.trans ((Resumes.enter _ m .starting "Starting native firmware processes").trans
        (resumes_kept rfl rfl rfl rfl rfl))

theorem resumes_start (s : SimulatorService) (m : Moment) (capabilities : Capabilities) :
    Resumes s (s.start m capabilities).1 := by
  unfold SimulatorService.start
  split
  · exact .refl s
  · exact .refl s
  · exact resumes_beginStart s m capabilities
  · exact resumes_kept rfl rfl rfl rfl rfl
  · exact .refl s
  · exact .refl s

theorem resumes_scheduleRuntimeFailure (s : SimulatorService) (m : Moment)
    (category detail : String) : Resumes s (s.scheduleRuntimeFailure m category detail) := by
  have hfailed := Resumes.enter s m .failed s!"{category}: {detail}"
  unfold SimulatorService.scheduleRuntimeFailure
  split
  · exact .refl s
  · exact hfailed.trans (resumes_kept rfl rfl rfl rfl rfl)

theorem resumes_stop (s : SimulatorService) (m : Moment) : Resumes s (s.stop m) := by
  unfold SimulatorService.stop
  split
  · exact .refl s
  · exact (Resumes.enter s m .stopping "Stopping traffic, gateways, and native processes").trans
      (resumes_kept rfl rfl rfl rfl rfl)

/-! ## Cleanups -/

theorem resumes_lockedTeardown (pb : Protobuf) (htended : Tended s) (m : Moment)
    (kind : TeardownKind) : Resumes s (s.lockedTeardown m kind) := by
  have hlocked : Resumes s { s with topologyLock := .tearingDown } :=
    resumes_kept rfl rfl rfl rfl rfl
  unfold SimulatorService.lockedTeardown
  dsimp only
  split
  · next reason simulation hsimulation =>
      have hcalled := resumes_call (s := { s with topologyLock := .tearingDown }) pb
        (htended.structured hsimulation) hsimulation m (.fail reason)
      exact hlocked.trans (hcalled.trans (resumes_kept rfl rfl rfl rfl rfl))
  · exact hlocked.trans (resumes_kept rfl rfl rfl rfl rfl)

theorem resumes_enterCleanup (pb : Protobuf) (htended : Tended s) (m : Moment)
    (kind : TeardownKind) : Resumes s (s.enterCleanup m kind) := by
  unfold SimulatorService.enterCleanup
  split
  · exact resumes_kept rfl rfl rfl rfl rfl
  · next simulation hsimulation =>
      exact (resumes_call pb (htended.structured hsimulation) hsimulation m .stop).trans
        (resumes_kept rfl rfl rfl rfl rfl)

theorem resumes_stoppedTraffic (s : SimulatorService) (kind : TeardownKind) (finalized : Bool) :
    Resumes s (s.stoppedTraffic kind finalized) := by
  unfold SimulatorService.stoppedTraffic
  split
  · exact resumes_kept rfl rfl rfl rfl rfl
  · next simulation hsimulation =>
      split
      · exact (resumes_archive s simulation.controller).trans (resumes_kept rfl rfl rfl rfl rfl)
      · exact resumes_kept rfl rfl rfl rfl rfl

theorem resumes_finishTeardown (s : SimulatorService) (m : Moment) (capabilities : Capabilities)
    (kind : TeardownKind) : Resumes s (s.finishTeardown m capabilities kind) := by
  have hdropped : Resumes s (s.dropSimulation.release kind) :=
    ⟨⟨⟨[], (List.append_nil _).symm, rfl⟩, rfl⟩, rfl, fun after hafter => by cases hafter⟩
  cases kind with
  | stop => exact hdropped.trans (.enter _ m .stopped "Stopped")
  | failure reason => exact hdropped
  | startup => exact hdropped
  | restart => exact hdropped.trans (resumes_beginStart _ m capabilities)

theorem resumes_teardown (pb : Protobuf) (htended : Tended s) {m : Moment}
    {capabilities : Capabilities} {kind : TeardownKind} {pc : TeardownPc}
    (hstep : s.teardown m capabilities kind pc = some t) : Resumes s t := by
  have hreleased : Resumes s (s.release kind) := resumes_kept rfl rfl rfl rfl rfl
  cases pc with
  | locking =>
      obtain ⟨_, rfl⟩ := guarded_eq_some.mp hstep
      exact resumes_lockedTeardown pb htended m kind
  | failing caller =>
      obtain ⟨pc, _, rfl⟩ := Option.map_eq_some_iff.mp hstep
      split
      · exact hreleased
      · exact resumes_kept rfl rfl rfl rfl rfl
  | cleaning =>
      cases hstep
      exact resumes_enterCleanup pb htended m kind
  | stopping caller =>
      obtain ⟨pc, _, rfl⟩ := Option.map_eq_some_iff.mp hstep
      split
      · exact resumes_stoppedTraffic s kind _
      · exact hreleased
  | closing =>
      cases hstep
      exact resumes_finishTeardown s m capabilities kind

/-! ## Traffic -/

theorem resumes_stopTraffic (pb : Protobuf) (htended : Tended s) (m : Moment) :
    Resumes s (s.stopTraffic m) := by
  unfold SimulatorService.stopTraffic
  split
  · exact .refl s
  · next simulation hsimulation =>
      have hcalled := resumes_call pb (htended.structured hsimulation) hsimulation m .stop
      dsimp only
      split
      · exact hcalled
      · exact hcalled.trans (resumes_kept rfl rfl rfl rfl rfl)

theorem resumes_startTraffic (s : SimulatorService) (request : TrafficRunRequest) :
    Resumes s (s.startTraffic request).1 := by
  unfold SimulatorService.startTraffic
  split
  · exact .refl s
  · split
    · exact .refl s
    · split
      · exact .refl s
      · exact resumes_kept rfl rfl rfl rfl rfl

/-- A run starts with the links of the scenario and without changes. -/
theorem Recounted.beginRun (h : Recounted s) {simulation : Simulation}
    (hsimulation : s.simulation = some simulation) (m : Moment)
    (runId : String) (request : TrafficRunRequest) (baseline : FailedReceptionSample) :
    Recounted (s.beginRun m runId request simulation baseline).1 := by
  unfold SimulatorService.beginRun TrafficTasks.started
  dsimp only
  generalize hstart : simulation.tasks.controller.start m runId _ request _ _ = called
  obtain ⟨c, outcome⟩ := called
  have houtcomes := TrafficController.start_outcomes hstart
  rcases TrafficController.evidence_start hstart with
    ⟨error, rfl, hsame⟩ | ⟨rfl, _, hbegun⟩
  · refine h.resumes (resumes_adopt hsimulation ?_)
    rcases houtcomes with ⟨_, ids, _, rfl⟩ | ⟨hok, _⟩
    · exact ⟨fun hopen => ⟨hopen, rfl⟩, id⟩
    · cases hok
  · refine ⟨h.numbered.tells ⟨⟨_, rfl, rfl⟩, rfl⟩, ?_, ?_⟩
    · intro after hafter _ _
      cases hafter
      rcases houtcomes with ⟨_, _, hraised, _⟩ | ⟨_, _, _, _, _, _, _, hstarted⟩
      · cases hraised
      · exact Or.inl (congrArg TrafficController.state hstarted)
    intro after hafter _ entry hentry
    cases hafter
    change entry ∈ c.history at hentry
    rw [TrafficController.history_eq, hbegun] at hentry
    cases hentry
    exact ⟨rfl, trivial, (fun change hchange => by cases hchange), List.Pairwise.nil⟩

theorem Recounted.sampledTraffic (h : Recounted s) (m : Moment) (runId : String)
    (request : TrafficRunRequest) (generation : Nat)
    (answer : Except String FailedReceptionSample) :
    Recounted (s.sampledTraffic m runId request generation answer).1 := by
  have hfree : Recounted { s with topologyLock := .free } :=
    h.resumes (resumes_kept rfl rfl rfl rfl rfl)
  unfold SimulatorService.sampledTraffic
  dsimp only
  split
  · exact hfree
  · next baseline simulation hsimulation =>
      split
      · exact hfree
      · refine Recounted.beginRun (hfree.resumes (resumes_archive _ simulation.controller))
          ?_ m runId request baseline
        rw [simulation_archive]
        exact hsimulation
  · exact hfree

/-! ## Steps -/

theorem resumes_stepSimulation (htended : Tended s) {a : Simulation.Action}
    (hstep : s.stepSimulation pb a = some t) : Resumes s t := by
  unfold SimulatorService.stepSimulation at hstep
  split at hstep
  · cases hstep
  · next simulation hsimulation =>
      split at hstep
      · next hown =>
          obtain ⟨after, hafter, rfl⟩ := Option.map_eq_some_iff.mp hstep
          have hminded := htended.current simulation hsimulation
          exact (resumes_adopt hsimulation (Simulation.goesOn_step hminded.stopping hminded.sound
            hown.1 hafter)).trans (resumes_kept rfl rfl rfl rfl rfl)
      · cases hstep

theorem resumes_stepRetired {generation : Nat} {a : TrafficTasks.Action}
    (hstep : s.stepRetired pb generation a = some t) : Resumes s t := by
  unfold SimulatorService.stepRetired at hstep
  split at hstep
  · cases hstep
  · split at hstep
    · obtain ⟨after, _, rfl⟩ := Option.map_eq_some_iff.mp hstep
      exact ⟨⟨⟨_, rfl, rfl⟩, rfl⟩, rfl, fun later hlater => ⟨later, hlater, .refl _⟩⟩
    · cases hstep

/-- A reset rotates the stream while no run is open. -/
theorem Recounted.reset (h : Recounted s) (hstaged : Staged s)
    (m : Moment) {streamId : String}
    (hnew : streamId ∉ s.streamIds) : Recounted (s.reset m streamId).1 := by
  unfold SimulatorService.reset
  split
  · exact h
  · next hstate =>
      have hnone := hstaged.simulation_of_stopped (not_not.mp hstate)
      have hsaid : Numbered ({ s with
          scenario := defaultScenario
          message :=
            "Scenario reset to the five-node full mesh; packet evidence and daemon logs " ++
            "were cleared; saved runs were preserved" }.publishLifecycle m) :=
        h.numbered.tells ⟨⟨_, rfl, rfl⟩, rfl⟩
      refine recounted_of_vacant ⟨hsaid.increasing, ?_, ?_, ?_⟩ hnone
      · intro event hevent (hsame : event.streamId = streamId)
        rw [← hsame] at hnew
        exact absurd (hsaid.streams event hevent) hnew
      · exact fun event hevent => List.mem_append_left _ (hsaid.streams event hevent)
      · exact List.mem_append_right _ (List.mem_singleton.mpr rfl)

theorem Recounted.updateLinks (h : Recounted s) (hstaged : Staged s) (htended : Tended s)
    (now : ℚ) (updates : List DirectedLink) : Recounted (s.updateLinks now updates).1 := by
  rcases updateLinks_cases hstaged now updates with
    ⟨code, message, hconflict⟩ | ⟨simulation, hsimulation, _, _, hdone⟩
  · rw [hconflict]
    exact h
  · rw [hdone]
    exact h.withLinks hstaged htended hsimulation now (keys_updatedLinks s updates)

theorem Recounted.applyTopology (h : Recounted s) (hstaged : Staged s) (htended : Tended s)
    (now : ℚ) (preset : TopologyPreset) : Recounted (s.applyTopology now preset).1 := by
  rcases applyTopology_cases hstaged now preset with
    ⟨_, code, message, hconflict⟩ |
      ⟨links, _, hkeys, ⟨hstopped, hdone⟩ | ⟨_, simulation, hsimulation, hdone⟩⟩
  · rw [hconflict]
    exact h
  · rw [hdone]
    refine h.vacant ⟨⟨[], (List.append_nil _).symm, rfl⟩, rfl⟩ fun simulation hlive => ?_
    have hnone := hstaged.simulation_of_stopped hstopped
    cases hnone.symm.trans hlive
  · rw [hdone]
    exact h.withLinks hstaged htended hsimulation now hkeys

/-- Every step keeps the history of the topology. -/
theorem Recounted.step (h : Recounted s) (hstaged : Staged s) (htended : Tended s) {a : Action}
    (hstep : s.step pb a = some t) : Recounted t := by
  cases (stepped hstep).1 with
  | start m capabilities hfree => exact h.resumes (resumes_start s m capabilities)
  | createSimulation m hardwareIds rfFrames hlock hstate =>
      refine h.vacant ⟨⟨_, rfl, rfl⟩, rfl⟩ fun simulation hsimulation => ?_
      cases hsimulation
      rfl
  | finishStart m observed hlock hstate =>
      exact h.resumes ((Resumes.enter s m .running _).trans
        (resumes_kept rfl rfl rfl rfl rfl))
  | startupRaised m exception hlock =>
      exact h.resumes ((Resumes.enter s m .failed _).trans
        (resumes_kept rfl rfl rfl rfl rfl))
  | runtimeFailure m category detail =>
      exact h.resumes (resumes_scheduleRuntimeFailure s m category detail)
  | cleanUpFailure reason hfree hpending => exact h.resumes (resumes_kept rfl rfl rfl rfl rfl)
  | stop m hfree => exact h.resumes (resumes_stop s m)
  | teardown m capabilities kind pc _ hlock hteardown =>
      exact h.resumes (resumes_teardown pb htended hteardown)
  | reset m streamId hfree hnew => exact h.reset hstaged m hnew
  | replaceScenario scenario =>
      unfold SimulatorService.replaceScenario
      split
      · exact h
      · next hstopped =>
          have hnone := hstaged.simulation_of_stopped (not_not.mp hstopped)
          refine h.vacant ⟨⟨[], (List.append_nil _).symm, rfl⟩, rfl⟩ ?_
          intro simulation hsimulation
          cases hnone.symm.trans hsimulation
  | updateLinks now updates hfree =>
      exact h.updateLinks hstaged htended now updates
  | applyTopology now preset hfree =>
      exact h.applyTopology hstaged htended now preset
  | startTraffic request hfree => exact h.resumes (resumes_startTraffic s request)
  | sampledTraffic m runId answer request generation hlock hnew =>
      exact h.sampledTraffic m runId request generation answer
  | stopTraffic m hfree => exact h.resumes (resumes_stopTraffic pb htended m)
  | trafficStopped generation caller tasks pc hlock htasks hover =>
      exact h.resumes (resumes_kept rfl rfl rfl rfl rfl)
  | simulation a _ hsimulation => exact h.resumes (resumes_stepSimulation htended hsimulation)
  | retired generation a _ hretired => exact h.resumes (resumes_stepRetired hretired)
  | file generation fileStep tasks terminal _ htasks hterminal hfile =>
      refine h.resumes ?_
      obtain ⟨root, _, rfl⟩ := Option.map_eq_some_iff.mp hfile
      exact resumes_kept rfl rfl rfl rfl rfl
  | settleLate generation tasks htasks hlate hdone =>
      have hsettled : Resumes s { s with
          lateFinalizations := s.lateFinalizations.erase generation } :=
        resumes_kept rfl rfl rfl rfl rfl
      exact h.resumes (hsettled.trans (resumes_archive _ tasks.controller))

theorem numbered_new (broker : EventBroker) (buildMetadata : BuildMetadata) :
    Numbered (.new broker buildMetadata) where
  increasing := List.Pairwise.nil
  bounded event hevent := by cases hevent
  streams event hevent := by cases hevent
  stream := List.mem_singleton.mpr rfl

theorem Reached.recounted {meets : SimulatorService → Action → Prop}
    (hreached : Reached pb meets s) : Recounted s := by
  induction hreached with
  | new broker buildMetadata =>
      exact recounted_of_vacant (numbered_new broker buildMetadata) rfl
  | reopened broker buildMetadata hreached ih =>
      have hnew := numbered_new broker buildMetadata
      exact recounted_of_vacant ⟨hnew.increasing, hnew.bounded, hnew.streams, hnew.stream⟩ rfl
  | step hreached hmeets hstep ih =>
      obtain ⟨hstaged, htended⟩ := hreached.tended
      exact ih.step hstaged htended hstep

/-- Links that stay are neither announced nor recorded. -/
theorem withLinks_same (h : Staged s) {simulation : Simulation}
    (hsimulation : s.simulation = some simulation) (now : ℚ) :
    s.withLinks simulation now s.scenario.links = s := by
  have hnone : differing s.scenario.linkMap s.scenario.links = [] := by
    refine List.filter_eq_nil_iff.mpr fun link hlink => ?_
    rw [decide_eq_true_iff, not_not, Scenario.linkMap, ← Scenario.linkMapOf,
      Scenario.get?_linkMapOf_iff h.complete.nodup_linkKeys]
    exact ⟨hlink, rfl⟩
  have hmedium : simulation.medium.links = Scenario.linkMapOf s.scenario.links :=
    h.mapped _ (by rw [SimulatorService.links, hsimulation]; rfl)
  have hrelinked : relinked s.broker simulation now s.scenario.links [] = simulation := by
    have hannounced : (simulation.withMedium { simulation.medium with
        links := Scenario.linkMapOf s.scenario.links }).publishAll (linkEvents now []) =
          simulation := by
      rw [← hmedium]
      rfl
    unfold relinked
    dsimp only
    rw [hannounced, show List.zipWith changeOf (sequencedAll s.broker (linkEvents now [])) [] = []
      from rfl, addChanges_nil, ite_self]
    rfl
  unfold withLinks
  dsimp only
  rw [hnone, hrelinked, ← hsimulation]
  change { s with published := s.published ++ [] } = s
  rw [List.append_nil]

/-- In every state that a service comes to, the medium has the links of the scenario, and the
changes that an open run has recorded, folded over the links of its snapshot, give the
links of the scenario; each was announced under its number, the numbers increase within
a stream, and an update that changes no link does nothing. -/
theorem topology_replays (hreached : Reached pb Draws s) :
    (∀ simulation ∈ s.simulation, simulation.medium.links = s.scenario.linkMap ∧
      (simulation.controller.acceptsRunEvents = true → ∀ run ∈ simulation.controller.current,
        s.Recounts run.scenarioSnapshot run.topologyChanges)) ∧
      (s.published.Pairwise fun event later =>
        event.streamId = later.streamId → event.sequence < later.sequence) ∧
      (∀ now updates, (s.updateLinks now updates).1.scenario = s.scenario →
        (s.updateLinks now updates).1 = s) ∧
      ∀ now preset, (s.applyTopology now preset).1.scenario = s.scenario →
        (s.applyTopology now preset).1 = s := by
  obtain ⟨hstaged, _⟩ := hreached.tended
  have hrecounted := hreached.recounted
  refine ⟨fun simulation hsimulation => ⟨?_, ?_⟩, hrecounted.numbered.increasing, ?_, ?_⟩
  · exact hstaged.mapped _ (by rw [SimulatorService.links, hsimulation]; rfl)
  · intro haccepts run hrun
    refine hrecounted.recounts simulation hsimulation ?_ (run.scenarioSnapshot, run.topologyChanges)
      (by rw [TrafficController.history, hrun]; rfl)
    rintro (hphase | hphase) <;>
      simp [TrafficController.acceptsRunEvents, hphase] at haccepts
  · intro now updates hsame
    rcases updateLinks_cases hstaged now updates with
      ⟨code, message, hconflict⟩ | ⟨simulation, hsimulation, _, _, hdone⟩
    · rw [hconflict]
    · rw [hdone] at hsame ⊢
      have hlinks : s.updatedLinks updates = s.scenario.links := congrArg Scenario.links hsame
      rw [hlinks]
      exact withLinks_same hstaged hsimulation now
  · intro now preset hsame
    rcases applyTopology_cases hstaged now preset with
      ⟨_, code, message, hconflict⟩ |
        ⟨links, _, _, ⟨_, hdone⟩ | ⟨_, simulation, hsimulation, hdone⟩⟩
    · rw [hconflict]
    · rw [hdone] at hsame ⊢
      change { s with scenario := { s.scenario with links := links } } = s
      rw [show ({ s.scenario with links := links } : Scenario) = s.scenario from hsame]
    · rw [hdone] at hsame ⊢
      have hlinks : links = s.scenario.links := congrArg Scenario.links hsame
      rw [hlinks]
      exact withLinks_same hstaged hsimulation now

/-- A run loses a link while it is open. -/
def relinkedRun : List Action :=
  startUp ++ [.startTraffic { sourceNodes := ["node-1"] },
    .sampledTraffic pairMoment labRunId (.ok { totals := ∅ }), .updateLinks 1 [lostLink]]

/-- The lost link is recorded and replayed. -/
theorem lost_link_replays : ∃ s simulation run, Reached pairProtobuf Draws s ∧
    s.simulation = some simulation ∧ simulation.controller.current = some run ∧
      run.topologyChanges.map (·.link) = [lostLink] ∧
        s.Recounts run.scenarioSnapshot run.topologyChanges := by
  have hafter : (exec (step pairProtobuf) relinkedRun (.new labBroker .unavailable)).bind
      (fun s => s.simulation.bind fun simulation => simulation.controller.current.map fun run =>
        (simulation.controller.acceptsRunEvents, run.topologyChanges.map (·.link))) =
          some (true, [lostLink]) := by
    decide +kernel
  obtain ⟨s, hexec, hafter⟩ := Option.bind_eq_some_iff.mp hafter
  obtain ⟨simulation, hsimulation, hafter⟩ := Option.bind_eq_some_iff.mp hafter
  obtain ⟨run, hrun, hafter⟩ := Option.map_eq_some_iff.mp hafter
  obtain ⟨haccepts, hrecorded⟩ := Prod.mk.inj hafter
  have hdraws : Conforms (step pairProtobuf) Draws relinkedRun (.new labBroker .unavailable) := by
    decide +kernel
  have hreached := reached_of_exec hexec hdraws
  exact ⟨s, simulation, run, hreached, hsimulation, hrun, hrecorded,
    ((topology_replays hreached).1 simulation hsimulation).2 haccepts run hrun⟩

end SimulatorService

end MeshtasticLab.Simulator

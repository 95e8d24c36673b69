/-
  Simulator/Phases.lean --- the lifecycle of the service and its topology.

  WHAT THIS FILE IS FOR

  `Staged` ties the holder of the lifecycle lock, the state and the simulation
  together in every reachable state: the simulation is gone when the service has
  stopped, its medium has the links of the scenario, and the scenario is a complete
  graph.  A service that is RUNNING need not have a simulation: the cleanup after a
  failure may come when the service has been stopped and started again.  Most steps
  leave all of this as it is.
-/
import MeshtasticLab.Simulator.Service

set_option autoImplicit false

namespace MeshtasticLab.Simulator

open MeshtasticLab.Foundation MeshtasticLab.Gateway MeshtasticLab.Metrics MeshtasticLab.Models
open MeshtasticLab.Traffic

/-! ## Links of the medium -/

/-- No step that a simulation takes by itself changes a link. -/
theorem Simulation.links_step {pb : Protobuf} {simulation after : Simulation}
    {a : Simulation.Action} (hown : SimulatorService.ofSimulation a = true)
    (hstep : simulation.step pb a = some after) :
    after.medium.links = simulation.medium.links := by
  cases a with
  | rfFrame nodeId packet =>
      unfold Simulation.step at hstep
      dsimp only at hstep
      split at hstep
      · cases hstep
      · split at hstep <;> cases hstep <;> rfl
  | transmit m nodeId =>
      unfold Simulation.step at hstep
      dsimp only at hstep
      split at hstep
      · cases hstep
      · unfold Simulation.transmitNext at hstep
        split at hstep
        · cases hstep
          rfl
        · cases hstep
  | inject nodeId i =>
      unfold Simulation.step at hstep
      dsimp only at hstep
      split at hstep
      · cases hstep
      · split at hstep
        · cases hstep
        · cases hstep
          rfl
  | injectionRaised nodeId i =>
      unfold Simulation.step at hstep
      dsimp only at hstep
      split at hstep <;> cases hstep
      rfl
  | gathered nodeId =>
      unfold Simulation.step at hstep
      dsimp only at hstep
      split at hstep <;> cases hstep
      rfl
  | updateLink now link => cases hown
  | applyLinks now links => cases hown
  | traffic a =>
      unfold Simulation.step at hstep
      dsimp only at hstep
      split at hstep
      · cases hstep
      · obtain ⟨tasks, _, rfl⟩ := Option.map_eq_some_iff.mp hstep
        rfl

/-- The links after `apply_links` are the new ones. -/
theorem DirectedMedium.links_applyLinks {medium after : DirectedMedium}
    {links applied : List DirectedLink} (h : medium.applyLinks links = .ok (after, applied)) :
    after = { medium with links := Scenario.linkMapOf links } := by
  unfold DirectedMedium.applyLinks at h
  dsimp only at h
  split at h <;> cases h
  rfl

namespace SimulatorService

variable {s t u : SimulatorService}

/-! ## What a step does -/

/-- A step with its guard and its outcome. -/
inductive Stepped (pb : Protobuf) (s : SimulatorService) : Action → SimulatorService → Prop where
  | start (m : Moment) (capabilities : Capabilities) (hfree : s.lifecycleLock = .free) :
      Stepped pb s (.start m capabilities) (s.start m capabilities).1
  | createSimulation (m : Moment) (hardwareIds : Dict String Nat)
      (rfFrames : String → List MeshPacket) (hlock : s.lifecycleLock = .starting)
      (hstate : s.state = .starting) :
      Stepped pb s (.createSimulation m hardwareIds rfFrames)
        (s.createSimulation m hardwareIds rfFrames)
  | finishStart (m : Moment) (observed : Option (Nat × Nat)) (hlock : s.lifecycleLock = .starting)
      (hstate : s.state = .warmingUp) :
      Stepped pb s (.finishStart m observed) (s.finishStart m observed)
  | startupRaised (m : Moment) (exception : String) (hlock : s.lifecycleLock = .starting) :
      Stepped pb s (.startupRaised m exception) (s.startupRaised m exception)
  | runtimeFailure (m : Moment) (category detail : String) :
      Stepped pb s (.runtimeFailure m category detail) (s.scheduleRuntimeFailure m category detail)
  | cleanUpFailure (reason : String) (hfree : s.lifecycleLock = .free)
      (hpending : s.failureCleanup = some reason) :
      Stepped pb s .cleanUpFailure (s.cleanUpFailure reason)
  | stop (m : Moment) (hfree : s.lifecycleLock = .free) : Stepped pb s (.stop m) (s.stop m)
  | teardown (m : Moment) (capabilities : Capabilities) (kind : TeardownKind) (pc : TeardownPc)
      (t : SimulatorService) (hlock : s.lifecycleLock = .tearingDown kind pc)
      (hteardown : s.teardown m capabilities kind pc = some t) :
      Stepped pb s (.teardown m capabilities) t
  | reset (m : Moment) (streamId : String) (hfree : s.lifecycleLock = .free)
      (hnew : streamId ∉ s.streamIds) : Stepped pb s (.reset m streamId) (s.reset m streamId).1
  | replaceScenario (scenario : AcceptedScenario) :
      Stepped pb s (.replaceScenario scenario) (s.replaceScenario scenario.1).1
  | updateLinks (now : ℚ) (updates : List DirectedLink) (hfree : s.topologyLock = .free) :
      Stepped pb s (.updateLinks now updates) (s.updateLinks now updates).1
  | applyTopology (now : ℚ) (preset : TopologyPreset) (hfree : s.topologyLock = .free) :
      Stepped pb s (.applyTopology now preset) (s.applyTopology now preset).1
  | startTraffic (request : TrafficRunRequest) (hfree : s.topologyLock = .free) :
      Stepped pb s (.startTraffic request) (s.startTraffic request).1
  | sampledTraffic (m : Moment) (runId : String) (answer : Except String FailedReceptionSample)
      (request : TrafficRunRequest) (generation : Nat)
      (hlock : s.topologyLock = .sampling request generation)
      (hnew : runId ∉ s.startedRuns.map (·.runId)) :
      Stepped pb s (.sampledTraffic m runId answer)
        (s.sampledTraffic m runId request generation answer).1
  | stopTraffic (m : Moment) (hfree : s.topologyLock = .free) :
      Stepped pb s (.stopTraffic m) (s.stopTraffic m)
  | trafficStopped (generation caller : Nat) (tasks : TrafficTasks) (pc : CallerPc)
      (hlock : s.topologyLock = .stopping generation caller)
      (htasks : s.controllers[generation]? = some tasks)
      (hover : callOutcome tasks caller = some pc) :
      Stepped pb s .trafficStopped { s with topologyLock := .free }
  | simulation (a : Simulation.Action) (t : SimulatorService)
      (hstep : s.stepSimulation pb a = some t) : Stepped pb s (.simulation a) t
  | retired (generation : Nat) (a : TrafficTasks.Action) (t : SimulatorService)
      (hstep : s.stepRetired pb generation a = some t) : Stepped pb s (.retired generation a) t
  | file (generation : Nat) (fileStep : FileStep) (tasks : TrafficTasks)
      (terminal : TrafficRunResult) (t : SimulatorService)
      (htasks : s.controllers[generation]? = some tasks) (hterminal : terminal ∈ persisting tasks)
      (hstep : s.fileStep generation terminal fileStep = some t) :
      Stepped pb s (.file generation fileStep) t
  | settleLate (generation : Nat) (tasks : TrafficTasks)
      (htasks : s.controllers[generation]? = some tasks)
      (hlate : generation ∈ s.lateFinalizations)
      (hdone : tasks.controller.finalizationDone = true) :
      Stepped pb s (.settleLate generation) (s.settleLate generation tasks.controller)

theorem guarded_eq_some {p : Prop} [Decidable p] :
    (if p then some t else none) = some u ↔ p ∧ t = u := by
  rw [Option.ite_none_right_eq_some, Option.some_inj]

/-- Every step reads the stream id of the broker, and is what its action says. -/
theorem stepped {pb : Protobuf} {a : Action} (hstep : s.step pb a = some t) :
    Stepped pb s a t ∧ ∀ m ∈ a.moment, m.streamId = s.broker.streamId := by
  unfold step at hstep
  split at hstep
  swap
  · cases hstep
  next hmoment =>
  refine ⟨?_, fun m hm => by simpa [Option.mem_def.mp hm] using hmoment⟩
  cases a with
  | start m capabilities =>
      obtain ⟨hfree, rfl⟩ := guarded_eq_some.mp hstep
      exact .start m capabilities hfree
  | createSimulation m hardwareIds rfFrames =>
      obtain ⟨⟨hlock, hstate⟩, rfl⟩ := guarded_eq_some.mp hstep
      exact .createSimulation m hardwareIds rfFrames hlock hstate
  | finishStart m observed =>
      obtain ⟨⟨hlock, hstate⟩, rfl⟩ := guarded_eq_some.mp hstep
      exact .finishStart m observed hlock hstate
  | startupRaised m exception =>
      obtain ⟨hlock, rfl⟩ := guarded_eq_some.mp hstep
      exact .startupRaised m exception hlock
  | runtimeFailure m category detail =>
      cases hstep
      exact .runtimeFailure m category detail
  | cleanUpFailure =>
      obtain ⟨hfree, hstep⟩ := Option.ite_none_right_eq_some.mp hstep
      obtain ⟨reason, hpending, rfl⟩ := Option.map_eq_some_iff.mp hstep
      exact .cleanUpFailure reason hfree hpending
  | stop m =>
      obtain ⟨hfree, rfl⟩ := guarded_eq_some.mp hstep
      exact .stop m hfree
  | teardown m capabilities =>
      unfold stepAt at hstep
      dsimp only at hstep
      split at hstep
      · next kind pc hlock => exact .teardown m capabilities kind pc t hlock hstep
      · cases hstep
  | reset m streamId =>
      obtain ⟨⟨hfree, hnew⟩, rfl⟩ := guarded_eq_some.mp hstep
      exact .reset m streamId hfree hnew
  | replaceScenario scenario =>
      cases hstep
      exact .replaceScenario scenario
  | updateLinks now updates =>
      obtain ⟨hfree, rfl⟩ := guarded_eq_some.mp hstep
      exact .updateLinks now updates hfree
  | applyTopology now preset =>
      obtain ⟨hfree, rfl⟩ := guarded_eq_some.mp hstep
      exact .applyTopology now preset hfree
  | startTraffic request =>
      obtain ⟨hfree, rfl⟩ := guarded_eq_some.mp hstep
      exact .startTraffic request hfree
  | sampledTraffic m runId answer =>
      unfold stepAt at hstep
      dsimp only at hstep
      split at hstep
      · next request generation hlock =>
          obtain ⟨hnew, hsampled⟩ := Option.ite_none_left_eq_some.mp hstep
          cases hsampled
          exact .sampledTraffic m runId answer request generation hlock hnew
      · cases hstep
  | stopTraffic m =>
      obtain ⟨hfree, rfl⟩ := guarded_eq_some.mp hstep
      exact .stopTraffic m hfree
  | trafficStopped =>
      unfold stepAt at hstep
      dsimp only at hstep
      split at hstep
      · next generation caller hlock =>
          obtain ⟨pc, hover, rfl⟩ := Option.map_eq_some_iff.mp hstep
          obtain ⟨tasks, htasks, hover⟩ := Option.bind_eq_some_iff.mp hover
          exact .trafficStopped generation caller tasks pc hlock htasks hover
      · cases hstep
  | simulation a => exact .simulation a t hstep
  | retired generation a => exact .retired generation a t hstep
  | file generation fileStep =>
      obtain ⟨tasks, htasks, hstep⟩ := Option.bind_eq_some_iff.mp hstep
      obtain ⟨terminal, hterminal, hstep⟩ := Option.bind_eq_some_iff.mp hstep
      exact .file generation fileStep tasks terminal t htasks (List.mem_of_mem_head? hterminal)
        hstep
  | settleLate generation =>
      obtain ⟨tasks, htasks, hstep⟩ := Option.bind_eq_some_iff.mp hstep
      obtain ⟨⟨hlate, hdone⟩, rfl⟩ := guarded_eq_some.mp hstep
      exact .settleLate generation tasks htasks hlate hdone

/-! ## Steps that change no part of the lifecycle -/

/-- The links of the medium, while there is one. -/
def links (s : SimulatorService) : Option (Dict (String × String) DirectedLink) :=
  s.simulation.map (·.medium.links)

/-- The lifecycle, the scenario and the links of the medium are as before. -/
structure Still (s t : SimulatorService) : Prop where
  state : t.state = s.state
  lifecycleLock : t.lifecycleLock = s.lifecycleLock
  failureCleanup : t.failureCleanup = s.failureCleanup
  scenario : t.scenario = s.scenario
  links : t.links = s.links

theorem Still.refl (s : SimulatorService) : Still s s := ⟨rfl, rfl, rfl, rfl, rfl⟩

theorem Still.trans (hfirst : Still s t) (hsecond : Still t u) : Still s u where
  state := hsecond.state.trans hfirst.state
  lifecycleLock := hsecond.lifecycleLock.trans hfirst.lifecycleLock
  failureCleanup := hsecond.failureCleanup.trans hfirst.failureCleanup
  scenario := hsecond.scenario.trans hfirst.scenario
  links := hsecond.links.trans hfirst.links

theorem still_adopt {before after : Simulation} (hsimulation : s.simulation = some before)
    (hlinks : after.medium.links = before.medium.links) : Still s (s.adopt before after) where
  state := rfl
  lifecycleLock := rfl
  failureCleanup := rfl
  scenario := rfl
  links := by
    unfold links
    rw [hsimulation, Option.map_some, ← hlinks]
    rfl

theorem still_archive (s : SimulatorService) (c : TrafficController) :
    Still s (s.archiveUnpersistedTrafficResult c) := by
  unfold archiveUnpersistedTrafficResult
  split <;> exact ⟨rfl, rfl, rfl, rfl, rfl⟩

theorem simulation_archive (s : SimulatorService) (c : TrafficController) :
    (s.archiveUnpersistedTrafficResult c).simulation = s.simulation := by
  unfold archiveUnpersistedTrafficResult
  split <;> rfl

theorem still_settleLate (s : SimulatorService) (generation : Nat) (c : TrafficController) :
    Still s (s.settleLate generation c) := by
  have hsettled : Still s { s with lateFinalizations := s.lateFinalizations.erase generation } :=
    ⟨rfl, rfl, rfl, rfl, rfl⟩
  exact hsettled.trans (still_archive _ c)

theorem still_call (m : Moment) {simulation : Simulation}
    (hsimulation : s.simulation = some simulation) (kind : CallerKind) :
    Still s (s.call m simulation kind) := still_adopt hsimulation rfl

theorem still_startTraffic (s : SimulatorService) (request : TrafficRunRequest) :
    Still s (s.startTraffic request).1 := by
  unfold startTraffic
  split
  · exact .refl s
  · split
    · exact .refl s
    · split
      · exact .refl s
      · exact ⟨rfl, rfl, rfl, rfl, rfl⟩

theorem still_beginRun {m : Moment} {runId : String} {request : TrafficRunRequest}
    {simulation : Simulation} (hsimulation : s.simulation = some simulation)
    (baseline : FailedReceptionSample) :
    Still s (s.beginRun m runId request simulation baseline).1 := by
  unfold beginRun
  dsimp only
  split
  · exact still_adopt hsimulation rfl
  · exact (still_adopt hsimulation rfl).trans ⟨rfl, rfl, rfl, rfl, rfl⟩

theorem still_sampledTraffic (s : SimulatorService) (m : Moment) (runId : String)
    (request : TrafficRunRequest) (generation : Nat)
    (answer : Except String FailedReceptionSample) :
    Still s (s.sampledTraffic m runId request generation answer).1 := by
  have hfree : Still s { s with topologyLock := .free } := ⟨rfl, rfl, rfl, rfl, rfl⟩
  unfold sampledTraffic
  dsimp only
  split
  · exact hfree
  · next baseline simulation hsimulation =>
      split
      · exact hfree
      · refine hfree.trans ((still_archive _ _).trans (still_beginRun ?_ baseline))
        rw [simulation_archive]
        exact hsimulation
  · exact hfree

theorem still_stopTraffic (s : SimulatorService) (m : Moment) : Still s (s.stopTraffic m) := by
  unfold stopTraffic
  split
  · exact .refl s
  · next simulation hsimulation =>
      dsimp only
      split
      · exact still_call m hsimulation .stop
      · exact (still_call m hsimulation .stop).trans ⟨rfl, rfl, rfl, rfl, rfl⟩

theorem still_endThread (s : SimulatorService) (generation : Nat) (tasks : TrafficTasks)
    (input : Option FinishInput) : Still s (s.endThread generation tasks input) :=
  ⟨rfl, rfl, rfl, rfl, rfl⟩

theorem still_fileStep {generation : Nat} {terminal : TrafficRunResult} {fileStep : FileStep}
    (hstep : s.fileStep generation terminal fileStep = some t) : Still s t := by
  obtain ⟨root, _, rfl⟩ := Option.map_eq_some_iff.mp hstep
  exact ⟨rfl, rfl, rfl, rfl, rfl⟩

theorem still_stepSimulation {pb : Protobuf} {a : Simulation.Action}
    (hstep : s.stepSimulation pb a = some t) : Still s t := by
  unfold stepSimulation at hstep
  split at hstep
  · cases hstep
  · next simulation hsimulation =>
      split at hstep
      · next hown =>
          obtain ⟨after, hafter, rfl⟩ := Option.map_eq_some_iff.mp hstep
          exact (still_adopt hsimulation (Simulation.links_step hown.1 hafter)).trans
            (still_endThread _ _ _ _)
      · cases hstep

theorem still_stepRetired {pb : Protobuf} {generation : Nat} {a : TrafficTasks.Action}
    (hstep : s.stepRetired pb generation a = some t) : Still s t := by
  unfold stepRetired at hstep
  split at hstep
  · cases hstep
  · split at hstep
    · obtain ⟨after, _, rfl⟩ := Option.map_eq_some_iff.mp hstep
      exact ⟨rfl, rfl, rfl, rfl, rfl⟩
    · cases hstep

/-! ## New links -/

/-- The scenario and the links of the medium are the updated ones. -/
structure Relinked (s : SimulatorService) (updated : Scenario) (t : SimulatorService) :
    Prop where
  state : t.state = s.state
  lifecycleLock : t.lifecycleLock = s.lifecycleLock
  failureCleanup : t.failureCleanup = s.failureCleanup
  scenario : t.scenario = updated
  links : t.links = some updated.linkMap
  present : s.links.isSome = true

theorem relinked_applyRuntimeScenario (s : SimulatorService) (now : ℚ) (updated : Scenario) :
    (s.applyRuntimeScenario now updated).1 = s ∨
      Relinked s updated (s.applyRuntimeScenario now updated).1 := by
  unfold applyRuntimeScenario
  split
  · exact Or.inl rfl
  · next simulation hsimulation =>
      split
      · exact Or.inl rfl
      · split
        · exact Or.inl rfl
        · split
          · exact Or.inl rfl
          · next medium applied happly =>
              refine Or.inr ⟨rfl, rfl, rfl, rfl, ?_, ?_⟩
              · have hmedium := DirectedMedium.links_applyLinks happly
                unfold links
                rw [Option.map_some]
                exact congrArg some (congrArg DirectedMedium.links hmedium)
              · unfold links
                rw [hsimulation]
                rfl

/-- The links of `update_links`, in scenario order. -/
def updatedLinks (s : SimulatorService) (updates : List DirectedLink) : List DirectedLink :=
  s.scenario.links.map fun current =>
    ((Scenario.linkMapOf updates).get? current.key).getD current

/-- An update keeps the key of a link. -/
theorem key_updated (updates : List DirectedLink) (current : DirectedLink) :
    (((Scenario.linkMapOf updates).get? current.key).getD current).key = current.key := by
  cases hget : (Scenario.linkMapOf updates).get? current.key with
  | none => rfl
  | some link => exact (Scenario.get?_linkMapOf hget).2

theorem keys_updatedLinks (s : SimulatorService) (updates : List DirectedLink) :
    (s.updatedLinks updates).map (·.key) = s.scenario.linkKeys := by
  unfold updatedLinks Scenario.linkKeys
  rw [List.map_map]
  exact List.map_congr_left fun current _ => key_updated updates current

theorem relinked_updateLinks (s : SimulatorService) (now : ℚ) (updates : List DirectedLink) :
    (s.updateLinks now updates).1 = s ∨
      Relinked s { s.scenario with links := s.updatedLinks updates }
        (s.updateLinks now updates).1 := by
  unfold updateLinks
  dsimp only
  split
  · exact Or.inl rfl
  · split
    · exact Or.inl rfl
    · split
      · exact Or.inl rfl
      · split
        · exact Or.inl rfl
        · have hcases := relinked_applyRuntimeScenario s now
            { s.scenario with links := s.updatedLinks updates }
          unfold updatedLinks at hcases ⊢
          split <;> next hresult => rw [hresult] at hcases; exact hcases

/-! ## What holds in every reachable state -/

/-- The states of the service and whether it has a simulation, by the holder of the
lifecycle lock. -/
def stageFits : LifecycleHolder → LifecycleState → Bool → Bool
  | .free, .stopped, live => !live
  | .free, .running, _ => true
  | .free, .failed, _ => true
  | .free, .stopping, _ => true
  | .starting, .starting, live => !live
  | .starting, .warmingUp, live => live
  | .starting, .failed, _ => true
  | .tearingDown .stop _, .stopping, _ => true
  | .tearingDown (.failure _) _, .stopped, live => !live
  | .tearingDown (.failure _) _, .running, _ => true
  | .tearingDown (.failure _) _, .failed, _ => true
  | .tearingDown (.failure _) _, .stopping, _ => true
  | .tearingDown .startup _, .failed, _ => true
  | .tearingDown .restart _, .failed, _ => true
  | _, _, _ => false

/-- The lifecycle, the scenario and the medium of the service agree. -/
structure Staged (s : SimulatorService) : Prop where
  fits : stageFits s.lifecycleLock s.state s.links.isSome = true
  mapped : ∀ links, s.links = some links → links = s.scenario.linkMap
  complete : s.scenario.CompleteGraph
  nodes : s.scenario.nodes ≠ []

theorem Staged.still (h : Staged s) (hstill : Still s t) : Staged t where
  fits := by
    rw [hstill.lifecycleLock, hstill.state, hstill.links]
    exact h.fits
  mapped := by
    rw [hstill.links, hstill.scenario]
    exact h.mapped
  complete := hstill.scenario ▸ h.complete
  nodes := hstill.scenario ▸ h.nodes

theorem Staged.relinked (h : Staged s) {updated : Scenario} (hrelinked : Relinked s updated t)
    (hcomplete : updated.CompleteGraph) (hnodes : updated.nodes ≠ []) : Staged t where
  fits := by
    have hpresent : t.links.isSome = s.links.isSome := by
      rw [hrelinked.links, hrelinked.present]
      rfl
    rw [hrelinked.lifecycleLock, hrelinked.state, hpresent]
    exact h.fits
  mapped := by
    intro links hlinks
    rw [hrelinked.links] at hlinks
    cases hlinks
    rw [hrelinked.scenario]
  complete := hrelinked.scenario ▸ hcomplete
  nodes := hrelinked.scenario ▸ hnodes

theorem staged_new (broker : EventBroker) (buildMetadata : BuildMetadata) :
    Staged (.new broker buildMetadata) where
  fits := rfl
  mapped := by
    intro links hlinks
    cases hlinks
  complete := completeGraph_defaultScenario
  nodes := defaultScenario_nodes

/-- A command keeps the scenario and changes the lifecycle to what fits. -/
theorem Staged.restaged (h : Staged s) (hscenario : t.scenario = s.scenario)
    (hlinks : t.links = s.links ∨ t.links = none)
    (hfits : stageFits t.lifecycleLock t.state t.links.isSome = true) : Staged t where
  fits := hfits
  mapped := by
    intro links hlive
    rw [hscenario]
    rcases hlinks with hsame | hnone
    · exact h.mapped links (hsame ▸ hlive)
    · rw [hnone] at hlive
      cases hlive
  complete := hscenario ▸ h.complete
  nodes := hscenario ▸ h.nodes

/-- A stopped service has no simulation. -/
theorem Staged.links_of_stopped (h : Staged s) (hstopped : s.state = .stopped) :
    s.links = none := by
  have hfits := h.fits
  rw [hstopped] at hfits
  cases hlinks : s.links with
  | none => rfl
  | some links =>
      rw [hlinks] at hfits
      cases hholder : s.lifecycleLock with
      | tearingDown kind pc =>
          rw [hholder] at hfits
          cases kind <;> cases hfits
      | _ =>
          rw [hholder] at hfits
          cases hfits

/-- A stopped service may take any complete graph. -/
theorem Staged.rescenario (h : Staged s) (hstopped : s.state = .stopped)
    (hstate : t.state = s.state) (hlock : t.lifecycleLock = s.lifecycleLock)
    (hlinks : t.links = s.links) (hcomplete : t.scenario.CompleteGraph)
    (hnodes : t.scenario.nodes ≠ []) : Staged t where
  fits := by
    rw [hlock, hstate, hlinks]
    exact h.fits
  mapped := by
    intro links hlive
    rw [hlinks, h.links_of_stopped hstopped] at hlive
    cases hlive
  complete := hcomplete
  nodes := hnodes

theorem Staged.beginStart (h : Staged s) (hnone : s.links = none)
    (hfree : stageFits .free s.state false = true) (m : Moment) (capabilities : Capabilities) :
    Staged (s.beginStart m capabilities).1 := by
  have hidle : Staged { s with lifecycleLock := .free } := by
    refine h.restaged rfl (Or.inl rfl) ?_
    change stageFits .free s.state s.links.isSome = true
    rw [hnone]
    exact hfree
  unfold SimulatorService.beginStart
  dsimp only
  split
  · exact hidle
  · split
    · exact hidle
    · refine h.restaged rfl (Or.inl rfl) ?_
      change stageFits .starting .starting s.links.isSome = true
      rw [hnone]
      rfl

theorem Staged.start (h : Staged s) (m : Moment) (capabilities : Capabilities) :
    Staged (s.start m capabilities).1 := by
  unfold SimulatorService.start
  split
  · exact h
  · exact h
  · next hstopped =>
      refine h.beginStart (h.links_of_stopped hstopped) ?_ m capabilities
      rw [hstopped]
      rfl
  · next hfailed =>
      refine h.restaged rfl (Or.inl rfl) ?_
      change stageFits (.tearingDown .restart .cleaning) s.state _ = true
      rw [hfailed]
      rfl
  · exact h
  · exact h

theorem Staged.createSimulation (h : Staged s) (hstarting : s.lifecycleLock = .starting)
    (m : Moment) (hardwareIds : Dict String Nat) (rfFrames : String → List MeshPacket) :
    Staged (s.createSimulation m hardwareIds rfFrames) where
  fits := by
    change stageFits s.lifecycleLock .warmingUp true = true
    rw [hstarting]
    rfl
  mapped := by
    intro links hlinks
    cases hlinks
    rfl
  complete := h.complete
  nodes := h.nodes

theorem Staged.finishStart (h : Staged s) (m : Moment) (observed : Option (Nat × Nat)) :
    Staged (s.finishStart m observed) := h.restaged rfl (Or.inl rfl) rfl

/-- A failure may be reported to a service that is in none of three states. -/
theorem stageFits_failed {holder : LifecycleHolder} {state : LifecycleState} {live : Bool}
    (h : stageFits holder state live = true)
    (hactive : ¬(state = .stopping ∨ state = .stopped ∨ state = .failed)) :
    stageFits holder .failed live = true := by
  cases holder with
  | tearingDown kind pc => cases kind <;> cases state <;> simp_all [stageFits]
  | _ => cases state <;> simp_all [stageFits]

theorem Staged.scheduleRuntimeFailure (h : Staged s) (m : Moment) (category detail : String) :
    Staged (s.scheduleRuntimeFailure m category detail) := by
  unfold SimulatorService.scheduleRuntimeFailure
  split
  · exact h
  · next hactive => exact h.restaged rfl (Or.inl rfl) (stageFits_failed h.fits hactive)

/-- The cleanup after a failure may get a free lock in any state. -/
theorem Staged.cleanUpFailure (h : Staged s) (hfree : s.lifecycleLock = .free)
    (reason : String) : Staged (s.cleanUpFailure reason) := by
  have hfits := h.fits
  rw [hfree] at hfits
  refine h.restaged rfl (Or.inl rfl) ?_
  change stageFits (.tearingDown (.failure reason) .locking) s.state s.links.isSome = true
  cases hstate : s.state <;> simp_all [stageFits]

theorem Staged.stop (h : Staged s) (m : Moment) : Staged (s.stop m) := by
  unfold SimulatorService.stop
  split
  · exact h
  · exact h.restaged rfl (Or.inl rfl) rfl

theorem Staged.reset (h : Staged s) (m : Moment) (streamId : String) :
    Staged (s.reset m streamId).1 := by
  unfold SimulatorService.reset
  split
  · exact h
  · next hstopped =>
      exact h.rescenario (not_not.mp hstopped) rfl rfl rfl completeGraph_defaultScenario
        defaultScenario_nodes

/-! ## Cleanups -/

/-- Where a cleanup is says nothing about the state. -/
theorem stageFits_pc {kind : TeardownKind} {pc : TeardownPc} {state : LifecycleState} {live : Bool}
    (h : stageFits (.tearingDown kind pc) state live = true) (pc' : TeardownPc) :
    stageFits (.tearingDown kind pc') state live = true := by
  cases kind <;> cases state <;> exact h

/-- A cleanup may give back its lock in its state, with its simulation or without. -/
theorem stageFits_release {kind : TeardownKind} {pc : TeardownPc} {state : LifecycleState}
    {live live' : Bool} (h : stageFits (.tearingDown kind pc) state live = true)
    (hlive : live' = true → live = true) : stageFits .free state live' = true := by
  cases kind <;> cases state <;> simp_all [stageFits]

/-- Only the place of the cleanup has changed. -/
structure Proceeds (s : SimulatorService) (kind : TeardownKind) (t : SimulatorService) : Prop where
  state : t.state = s.state
  failureCleanup : t.failureCleanup = s.failureCleanup
  scenario : t.scenario = s.scenario
  links : t.links = s.links
  lifecycleLock : ∃ pc, t.lifecycleLock = .tearingDown kind pc

theorem Still.proceeds (h : Still s t) (kind : TeardownKind) (pc : TeardownPc) :
    Proceeds s kind (t.cleansUp kind pc) :=
  ⟨h.state, h.failureCleanup, h.scenario, h.links, pc, rfl⟩

theorem proceeds_lockedTeardown (s : SimulatorService) (m : Moment) (kind : TeardownKind) :
    Proceeds s kind (s.lockedTeardown m kind) := by
  have hlocked : Still s { s with topologyLock := .tearingDown } := ⟨rfl, rfl, rfl, rfl, rfl⟩
  unfold lockedTeardown
  dsimp only
  split
  · next reason simulation hsimulation =>
      exact (hlocked.trans (still_call (s := { s with topologyLock := .tearingDown }) m hsimulation
        _)).proceeds _ _
  · exact hlocked.proceeds _ _

theorem proceeds_enterCleanup (s : SimulatorService) (m : Moment) (kind : TeardownKind) :
    Proceeds s kind (s.enterCleanup m kind) := by
  unfold enterCleanup
  split
  · exact (Still.refl s).proceeds _ _
  · next simulation hsimulation => exact (still_call m hsimulation _).proceeds _ _

theorem proceeds_stoppedTraffic (s : SimulatorService) (kind : TeardownKind) (finalized : Bool) :
    Proceeds s kind (s.stoppedTraffic kind finalized) := by
  unfold stoppedTraffic
  split
  · exact (Still.refl s).proceeds _ _
  · split
    · exact (still_archive s _).proceeds _ _
    · exact ⟨rfl, rfl, rfl, rfl, _, rfl⟩

theorem Staged.proceeds {kind : TeardownKind} {pc : TeardownPc} (h : Staged s)
    (hlock : s.lifecycleLock = .tearingDown kind pc) (hproceeds : Proceeds s kind t) :
    Staged t := by
  obtain ⟨pc', hlock'⟩ := hproceeds.lifecycleLock
  have hfits := h.fits
  rw [hlock] at hfits
  refine h.restaged hproceeds.scenario (Or.inl hproceeds.links) ?_
  rw [hlock', hproceeds.state, hproceeds.links]
  exact stageFits_pc hfits pc'

theorem Staged.release {kind : TeardownKind} {pc : TeardownPc} (h : Staged s)
    (hlock : s.lifecycleLock = .tearingDown kind pc) : Staged (s.release kind) := by
  have hfits := h.fits
  rw [hlock] at hfits
  exact h.restaged rfl (Or.inl rfl) (stageFits_release hfits id)

theorem Staged.finishTeardown {kind : TeardownKind} {pc : TeardownPc} (h : Staged s)
    (hlock : s.lifecycleLock = .tearingDown kind pc) (m : Moment) (capabilities : Capabilities) :
    Staged (s.finishTeardown m capabilities kind) := by
  have hfits := h.fits
  rw [hlock] at hfits
  have hdropped : Staged (s.dropSimulation.release kind) :=
    h.restaged rfl (Or.inr rfl) (stageFits_release hfits fun hlive => by cases hlive)
  unfold SimulatorService.finishTeardown
  cases kind with
  | stop => exact hdropped.restaged rfl (Or.inl rfl) rfl
  | failure reason => exact hdropped
  | startup => exact hdropped
  | restart =>
      exact hdropped.beginStart rfl (stageFits_release hfits fun hlive => by cases hlive) m
        capabilities

theorem Staged.teardown {kind : TeardownKind} {pc : TeardownPc} (h : Staged s)
    (hlock : s.lifecycleLock = .tearingDown kind pc) {m : Moment} {capabilities : Capabilities}
    (hstep : s.teardown m capabilities kind pc = some t) : Staged t := by
  cases pc with
  | locking =>
      unfold SimulatorService.teardown at hstep
      dsimp only at hstep
      split at hstep <;> cases hstep
      exact h.proceeds hlock (proceeds_lockedTeardown s m kind)
  | failing caller =>
      obtain ⟨pc, _, rfl⟩ := Option.map_eq_some_iff.mp hstep
      split
      · exact h.release hlock
      · exact h.proceeds hlock ((Still.refl s).proceeds _ _)
  | cleaning =>
      cases hstep
      exact h.proceeds hlock (proceeds_enterCleanup s m kind)
  | stopping caller =>
      obtain ⟨pc, _, rfl⟩ := Option.map_eq_some_iff.mp hstep
      split
      · exact h.proceeds hlock (proceeds_stoppedTraffic s kind _)
      · exact h.release hlock
  | closing =>
      cases hstep
      exact h.finishTeardown hlock m capabilities

/-! ## Steps -/

theorem Staged.replaceScenario (h : Staged s) (scenario : AcceptedScenario) :
    Staged (s.replaceScenario scenario.1).1 := by
  obtain ⟨scenario, _, hnodes, _, haccepted⟩ := scenario
  have hcomplete := Scenario.validateGraph_ok_iff.mp haccepted
  unfold SimulatorService.replaceScenario
  split
  · exact h
  · next hstopped =>
      refine h.rescenario (not_not.mp hstopped) rfl rfl rfl hcomplete ?_
      rintro hnil
      rw [hcomplete.counted, show scenario.nodes = [] from hnil] at hnodes
      exact absurd hnodes (by decide)

theorem Staged.updateLinks (h : Staged s) (now : ℚ) (updates : List DirectedLink) :
    Staged (s.updateLinks now updates).1 := by
  rcases relinked_updateLinks s now updates with hsame | hrelinked
  · rw [hsame]
    exact h
  · exact h.relinked hrelinked (h.complete.withLinks (keys_updatedLinks s updates)) h.nodes

theorem Staged.applyTopology (h : Staged s) (now : ℚ) (preset : TopologyPreset) :
    Staged (s.applyTopology now preset).1 := by
  unfold SimulatorService.applyTopology
  split
  · exact h
  · next updated happlied =>
      have hcomplete := h.complete.applied happlied
      have hnodes : updated.nodes ≠ [] := by
        obtain ⟨enabledByPair, rfl⟩ := applyTopologyPreset_ok happlied
        exact h.nodes
      split
      · next hstopped => exact h.rescenario hstopped rfl rfl rfl hcomplete hnodes
      · split
        · exact h
        · have hcases := relinked_applyRuntimeScenario s now updated
          split <;> next hresult =>
            rw [hresult] at hcases
            rcases hcases with hsame | hrelinked
            · rw [hsame]
              exact h
            · exact h.relinked hrelinked hcomplete hnodes

/-- Every step keeps the lifecycle, the scenario and the medium in agreement. -/
theorem Staged.step (pb : Protobuf) (h : Staged s) {a : Action} (hstep : s.step pb a = some t) :
    Staged t := by
  cases (stepped hstep).1 with
  | start m capabilities hfree => exact h.start m capabilities
  | createSimulation m hardwareIds rfFrames hlock hstate =>
      exact h.createSimulation hlock m hardwareIds rfFrames
  | finishStart m observed hlock hstate => exact h.finishStart m observed
  | startupRaised m exception hlock => exact h.restaged rfl (Or.inl rfl) rfl
  | runtimeFailure m category detail => exact h.scheduleRuntimeFailure m category detail
  | cleanUpFailure reason hfree hpending => exact h.cleanUpFailure hfree reason
  | stop m hfree => exact h.stop m
  | teardown m capabilities kind pc _ hlock hteardown => exact h.teardown hlock hteardown
  | reset m streamId hfree hnew => exact h.reset m streamId
  | replaceScenario scenario => exact h.replaceScenario scenario
  | updateLinks now updates hfree => exact h.updateLinks now updates
  | applyTopology now preset hfree => exact h.applyTopology now preset
  | startTraffic request hfree => exact h.still (still_startTraffic s request)
  | sampledTraffic m runId answer request generation hlock hnew =>
      exact h.still (still_sampledTraffic s m runId request generation answer)
  | stopTraffic m hfree => exact h.still (still_stopTraffic s m)
  | trafficStopped generation caller tasks pc hlock htasks hover =>
      exact h.still ⟨rfl, rfl, rfl, rfl, rfl⟩
  | simulation a _ hsimulation => exact h.still (still_stepSimulation hsimulation)
  | retired generation a _ hretired => exact h.still (still_stepRetired hretired)
  | file generation fileStep tasks terminal _ htasks hterminal hfile =>
      exact h.still (still_fileStep hfile)
  | settleLate generation tasks htasks hlate hdone =>
      exact h.still (still_settleLate s generation tasks.controller)

theorem staged_of_run (pb : Protobuf) {broker : EventBroker} {buildMetadata : BuildMetadata}
    (hrun : Run (step pb) Always (.new broker buildMetadata) s) : Staged s :=
  hrun.invariant (fun _ _ _ h _ hstep => h.step pb hstep) (staged_new broker buildMetadata)

end SimulatorService

end MeshtasticLab.Simulator

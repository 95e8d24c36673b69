/-
  Simulator/Restarts.lean --- restarts and `stop_traffic`.

  WHAT THIS FILE IS FOR

  `stop`, the task that cleans up after a failure and `stop_traffic` take the topology
  lock before they call the controller.  The cleanup of a restart does not: a `start`
  that was waiting for the lifecycle lock when the failure came finds the state `FAILED`
  with the simulation still there, and calls `stop` whoever else has called it.
  `Parted` says that it meets no call of `stop_traffic`, and then each call of `stop`
  or `fail` finds all earlier calls over.
-/
import MeshtasticLab.Simulator.Tending

set_option autoImplicit false

namespace MeshtasticLab.Simulator

open MeshtasticLab.Foundation MeshtasticLab.Gateway MeshtasticLab.Metrics MeshtasticLab.Models
open MeshtasticLab.Traffic

/-- `start` cleans up after a failure. -/
def LifecycleHolder.restarts : LifecycleHolder → Bool
  | .tearingDown .restart _ => true
  | _ => false

namespace SimulatorService

variable {s t : SimulatorService}

/-- Calls of `stop` from `stop_traffic` and from the cleanup of a restart do not meet: a restart
does not begin while `stop_traffic` awaits the controller, and `stop_traffic` is not called
while a restart cleans up.  All other cleanups take the topology lock. -/
def Apart (s : SimulatorService) : Action → Prop
  | .start _ _ => s.state = .failed → s.topologyLock.awaitsStop = false
  | .stopTraffic _ => s.lifecycleLock.restarts = false
  | _ => True

instance (s : SimulatorService) (a : Action) : Decidable (s.Apart a) := by
  unfold Apart
  split <;> infer_instance

/-- `stop_traffic` awaits nothing while a restart cleans up. -/
def Parted (s : SimulatorService) : Prop :=
  s.lifecycleLock.restarts = true → s.topologyLock.awaitsStop = false

theorem Parted.of_restarts (hrestarts : t.lifecycleLock.restarts = false) : Parted t := by
  intro htrue
  rw [hrestarts] at htrue
  cases htrue

theorem Parted.kept (h : Parted s)
    (hlifecycle : t.lifecycleLock.restarts = s.lifecycleLock.restarts)
    (htopology : t.topologyLock = s.topologyLock) : Parted t := by
  unfold Parted
  rw [hlifecycle, htopology]
  exact h

theorem restarts_beginStart (s : SimulatorService) (m : Moment) (capabilities : Capabilities) :
    (s.beginStart m capabilities).1.lifecycleLock.restarts = false := by
  unfold SimulatorService.beginStart
  dsimp only
  split
  · rfl
  · split <;> rfl

theorem Parted.start (h : Parted s) (m : Moment) (capabilities : Capabilities)
    (hapart : s.Apart (.start m capabilities)) : Parted (s.start m capabilities).1 := by
  unfold SimulatorService.start
  split
  · exact h
  · exact h
  · exact .of_restarts (restarts_beginStart s m capabilities)
  · next hfailed => exact fun _ => hapart hfailed
  · exact h
  · exact h

theorem topologyLock_archive (s : SimulatorService) (c : TrafficController) :
    (s.archiveUnpersistedTrafficResult c).topologyLock = s.topologyLock := by
  unfold archiveUnpersistedTrafficResult
  split <;> rfl

theorem Parted.teardown {kind : TeardownKind} {pc : TeardownPc} (h : Parted s)
    (hlock : s.lifecycleLock = .tearingDown kind pc) {m : Moment} {capabilities : Capabilities}
    (hstep : s.teardown m capabilities kind pc = some t) : Parted t := by
  have hreleased : Parted (s.release kind) := .of_restarts rfl
  have hproceeds : ∀ pc', (LifecycleHolder.tearingDown kind pc').restarts =
      s.lifecycleLock.restarts := by
    intro pc'
    rw [hlock]
    cases kind <;> rfl
  cases pc with
  | locking =>
      obtain ⟨_, rfl⟩ := guarded_eq_some.mp hstep
      unfold SimulatorService.lockedTeardown
      dsimp only
      split <;> exact fun _ => rfl
  | failing caller =>
      obtain ⟨pc, _, rfl⟩ := Option.map_eq_some_iff.mp hstep
      split
      · exact hreleased
      · exact h.kept (hproceeds _) rfl
  | cleaning =>
      cases hstep
      unfold SimulatorService.enterCleanup
      split <;> exact h.kept (hproceeds _) rfl
  | stopping caller =>
      obtain ⟨pc, _, rfl⟩ := Option.map_eq_some_iff.mp hstep
      split
      · unfold SimulatorService.stoppedTraffic
        split
        · exact h.kept (hproceeds _) rfl
        · split
          · exact h.kept (hproceeds _) (topologyLock_archive s _)
          · exact h.kept (hproceeds _) rfl
      · exact hreleased
  | closing =>
      cases hstep
      cases kind with
      | restart => exact .of_restarts (restarts_beginStart _ m capabilities)
      | _ => exact .of_restarts rfl

theorem Parted.sampledTraffic (s : SimulatorService) (m : Moment) (runId : String)
    (request : TrafficRunRequest) (generation : Nat)
    (answer : Except String FailedReceptionSample) :
    Parted (s.sampledTraffic m runId request generation answer).1 := by
  unfold SimulatorService.sampledTraffic
  dsimp only
  split
  · exact fun _ => rfl
  · next baseline simulation _ =>
      split
      · exact fun _ => rfl
      · have hfree := topologyLock_archive { s with topologyLock := .free } simulation.controller
        unfold SimulatorService.beginRun
        dsimp only
        split <;> exact fun _ => congrArg TopologyHolder.awaitsStop hfree
  · exact fun _ => rfl

/-- Replacing the links leaves the lock that the command holds. -/
theorem topologyLock_applyRuntimeScenario (s : SimulatorService) (now : ℚ) (updated : Scenario) :
    (s.applyRuntimeScenario now updated).1.topologyLock = s.topologyLock := by
  unfold SimulatorService.applyRuntimeScenario
  split
  · rfl
  · split
    · rfl
    · split
      · rfl
      · split <;> rfl

theorem topologyLock_updateLinks (s : SimulatorService) (now : ℚ) (updates : List DirectedLink) :
    (s.updateLinks now updates).1.topologyLock = s.topologyLock := by
  unfold SimulatorService.updateLinks
  dsimp only
  split
  · rfl
  · split
    · rfl
    · split
      · rfl
      · split
        · rfl
        · have happlied := topologyLock_applyRuntimeScenario s now
            { s.scenario with links := s.updatedLinks updates }
          unfold updatedLinks at happlied
          split <;> next hresult => rw [hresult] at happlied; exact happlied

theorem topologyLock_applyTopology (s : SimulatorService) (now : ℚ) (preset : TopologyPreset) :
    (s.applyTopology now preset).1.topologyLock = s.topologyLock := by
  unfold SimulatorService.applyTopology
  split
  · rfl
  · next updated _ =>
      split
      · rfl
      · split
        · rfl
        · have happlied := topologyLock_applyRuntimeScenario s now updated
          split <;> next hresult => rw [hresult] at happlied; exact happlied

/-- Every step keeps the calls apart when it does not bring them together itself. -/
theorem Parted.step {pb : Protobuf} (h : Parted s) {a : Action} (hapart : s.Apart a)
    (hstep : s.step pb a = some t) : Parted t := by
  cases (stepped hstep).1 with
  | start m capabilities hfree => exact h.start m capabilities hapart
  | createSimulation m hardwareIds rfFrames hlock hstate => exact h.kept rfl rfl
  | finishStart m observed hlock hstate => exact .of_restarts rfl
  | startupRaised m exception hlock => exact .of_restarts rfl
  | runtimeFailure m category detail =>
      unfold SimulatorService.scheduleRuntimeFailure
      split
      · exact h
      · exact h.kept rfl rfl
  | cleanUpFailure reason hfree hpending => exact .of_restarts rfl
  | stop m hfree =>
      unfold SimulatorService.stop
      split
      · exact h
      · exact .of_restarts rfl
  | teardown m capabilities kind pc _ hlock hteardown => exact h.teardown hlock hteardown
  | reset m streamId hfree hnew =>
      unfold SimulatorService.reset
      split <;> exact h.kept rfl rfl
  | replaceScenario scenario =>
      unfold SimulatorService.replaceScenario
      split <;> exact h.kept rfl rfl
  | updateLinks now updates hfree =>
      intro _
      rw [topologyLock_updateLinks, hfree]
      rfl
  | applyTopology now preset hfree =>
      intro _
      rw [topologyLock_applyTopology, hfree]
      rfl
  | startTraffic request hfree =>
      unfold SimulatorService.startTraffic
      split
      · exact h
      · split
        · exact h
        · split
          · exact h
          · exact fun _ => rfl
  | sampledTraffic m runId answer request generation hlock hnew =>
      exact .sampledTraffic s m runId request generation answer
  | stopTraffic m hfree => exact .of_restarts ((still_stopTraffic s m).lifecycleLock ▸ hapart)
  | trafficStopped generation caller tasks pc hlock htasks hover => exact fun _ => rfl
  | simulation a _ hsimulation =>
      unfold SimulatorService.stepSimulation at hsimulation
      split at hsimulation
      · cases hsimulation
      · obtain ⟨_, hsimulation⟩ := Option.ite_none_right_eq_some.mp hsimulation
        obtain ⟨after, _, rfl⟩ := Option.map_eq_some_iff.mp hsimulation
        exact h.kept rfl rfl
  | retired generation a _ hretired =>
      unfold SimulatorService.stepRetired at hretired
      split at hretired
      · cases hretired
      · obtain ⟨_, hretired⟩ := Option.ite_none_right_eq_some.mp hretired
        obtain ⟨after, _, rfl⟩ := Option.map_eq_some_iff.mp hretired
        exact h.kept rfl rfl
  | file generation fileStep tasks terminal _ htasks hterminal hfile =>
      obtain ⟨root, _, rfl⟩ := Option.map_eq_some_iff.mp hfile
      exact h.kept rfl rfl
  | settleLate generation tasks htasks hlate hdone =>
      have hsettled := still_settleLate s generation tasks.controller
      exact h.kept (congrArg _ hsettled.lifecycleLock) (topologyLock_archive _ _)

/-! ## Calls that are made alone -/

/-- The task that gets the topology lock finds all calls over. -/
theorem Tended.over_of_locking {simulation : Simulation} {kind : TeardownKind} (h : Tended s)
    (hsimulation : s.simulation = some simulation)
    (hlock : s.lifecycleLock = .tearingDown kind .locking) (hfree : s.topologyLock = .free) :
    AllOver simulation.tasks := by
  refine (h.current simulation hsimulation).isOver fun i => ?_
  rw [hlock, hfree]
  rintro (hstopping | ⟨other, hfailing | hstopping⟩)
  · cases hstopping
  · cases hfailing
  · cases hstopping

/-- A cleanup that is about to call `stop` finds all calls over. -/
theorem Tended.over_of_cleaning {simulation : Simulation} {kind : TeardownKind} (h : Tended s)
    (hparted : Parted s) (hsimulation : s.simulation = some simulation)
    (hlock : s.lifecycleLock = .tearingDown kind .cleaning) : AllOver simulation.tasks := by
  have hminded := h.current simulation hsimulation
  have hover : s.topologyLock.awaitsStop = false → AllOver simulation.tasks := by
    intro hidle
    refine hminded.isOver fun i => ?_
    rw [hlock]
    rintro (hstopping | ⟨other, hfailing | hstopping⟩)
    · exact ne_stopping_of_awaitsStop hidle s.retired.length i hstopping
    · cases hfailing
    · cases hstopping
  cases hlocks : kind.locksTopology with
  | true =>
      refine hover ?_
      rw [h.locked kind .cleaning hlock hlocks nofun]
      rfl
  | false =>
      cases kind with
      | startup => exact (hminded.young (Or.inr ⟨_, hlock⟩)).callers
      | restart => exact hover (hparted (by rw [hlock]; rfl))
      | _ => cases hlocks

/-- `stop_traffic` finds all calls over. -/
theorem Tended.over_of_free {simulation : Simulation} (h : Tended s)
    (hsimulation : s.simulation = some simulation) (hfree : s.topologyLock = .free)
    (hrestarts : s.lifecycleLock.restarts = false) : AllOver simulation.tasks := by
  have hminded := h.current simulation hsimulation
  -- Every other cleanup holds the topology lock when it awaits a call.
  have hstartup : ∀ kind pc, s.lifecycleLock = .tearingDown kind pc → pc ≠ .locking →
      AllOver simulation.tasks := by
    intro kind pc hlock hpast
    cases kind with
    | startup => exact (hminded.young (Or.inr ⟨pc, hlock⟩)).callers
    | restart =>
        rw [hlock] at hrestarts
        cases hrestarts
    | _ =>
        have htearing := h.locked _ pc hlock rfl hpast
        rw [hfree] at htearing
        cases htearing
  by_cases hawaited : ∃ i, Awaits s.lifecycleLock s.topologyLock s.retired.length i
  · obtain ⟨i, hstopping | ⟨kind, hfailing | hstopping⟩⟩ := hawaited
    · rw [hfree] at hstopping
      cases hstopping
    · exact hstartup kind _ hfailing nofun
    · exact hstartup kind _ hstopping nofun
  · exact hminded.isOver fun i hawaits => hawaited ⟨i, hawaits⟩

end SimulatorService

end MeshtasticLab.Simulator

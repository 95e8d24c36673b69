/-
  Simulator/Tending.lean --- what becomes of the controllers of the service.

  WHAT THIS FILE IS FOR

  `Tended` says where the calls of the controllers are while the service goes through
  its lifecycle: only calls that a command awaits are under way, nobody runs traffic
  before the warm-up is over, and a run is ending when its controller is dropped.

  A cleanup that `start` makes of a service that has failed does not take the topology
  lock.  It may meet a call of `stop_traffic`, and then that call is still under way when
  the controller is dropped.  `stop` does take the lock, so a service that has stopped
  has dropped closed runs only.
-/
import MeshtasticLab.Simulator.Phases
import MeshtasticLab.Traffic.Stopping

set_option autoImplicit false

namespace MeshtasticLab.Simulator

open MeshtasticLab.Foundation MeshtasticLab.Gateway MeshtasticLab.Metrics MeshtasticLab.Models
open MeshtasticLab.Traffic
open MeshtasticLab.Traffic.TrafficTasks (Sound Stopping Ending Onward Unstarted)

/-! ## Steps of a simulation -/

section Medium

variable {pb : Protobuf} {tasks : TrafficTasks}

/-- Whatever the controller publishes goes on. -/
theorem onward_publishAll (hstopping : Stopping tasks) (hsound : Sound tasks)
    (events : List PacketEvent) :
    Onward tasks
      (tasks.withController (events.foldl TrafficController.publish tasks.controller)) := by
  induction events generalizing tasks with
  | nil => exact .refl hsound hstopping
  | cons event rest ih =>
      have hpublished := hstopping.publish hsound event
      exact hpublished.trans (ih hpublished.stopping hpublished.sound)

/-- The medium decides on the links of a frame. -/
theorem onward_decide (frame : DirectedMedium.Transmission) (links : List DirectedLink)
    (hstopping : Stopping tasks) (hsound : Sound tasks) (injections : List Injection) :
    Onward tasks (tasks.withController
      (links.foldl (frame.decide pb) (tasks.controller, injections)).1) := by
  induction links generalizing tasks injections with
  | nil => exact .refl hsound hstopping
  | cons link rest ih =>
      rw [List.foldl_cons]
      unfold DirectedMedium.Transmission.decide
      dsimp only
      split
      · have hpublished := hstopping.publish hsound (frame.disabledEvent link)
        have hdropped := hpublished.trans (hpublished.stopping.onward pb hpublished.sound
          (a := .drop frame.m frame.transmitter frame.packet "link-disabled") rfl nofun rfl)
        exact hdropped.trans (ih hdropped.stopping hdropped.sound injections)
      · exact ih hstopping hsound _

theorem onward_transmit (medium : DirectedMedium) (hstopping : Stopping tasks)
    (hsound : Sound tasks) (m : Moment) (transmitter : String) (packet : MeshPacket) :
    Onward tasks (tasks.withController
      (medium.transmit pb tasks.controller m transmitter packet).1) := by
  unfold DirectedMedium.transmit
  split
  · exact .refl hsound hstopping
  · next payloadLength _ =>
      have hrecorded := hstopping.onward pb hsound (a := .rfTransmission m transmitter packet
        (airtimeMs payloadLength medium.scenario.rf.modemPreset)) rfl (fun _ _ => by rintro ⟨⟩)
          rfl
      dsimp only
      split
      · next c error hcall =>
          rw [hcall] at hrecorded
          exact hrecorded
      · next c correlation hcall =>
          rw [hcall] at hrecorded
          refine hrecorded.trans ?_
          unfold DirectedMedium.forward
          have hpublished := hrecorded.stopping.publish hrecorded.sound
          exact (hpublished _).trans
            (onward_decide _ _ (hpublished _).stopping (hpublished _).sound [])

/-- The tasks of a simulation that takes a step by itself go on. -/
theorem Simulation.onward_step {simulation after : Simulation} {a : Simulation.Action}
    (hstopping : Stopping simulation.tasks) (hsound : Sound simulation.tasks)
    (hown : SimulatorService.ofSimulation a = true) (hstep : simulation.step pb a = some after) :
    Onward simulation.tasks after.tasks := by
  have hrefl : Onward simulation.tasks simulation.tasks := .refl hsound hstopping
  cases a with
  | rfFrame nodeId packet =>
      unfold Simulation.step at hstep
      dsimp only at hstep
      split at hstep
      · cases hstep
      · split at hstep <;> cases hstep <;> exact hrefl
  | transmit m nodeId =>
      unfold Simulation.step at hstep
      dsimp only at hstep
      split at hstep
      · cases hstep
      · unfold Simulation.transmitNext at hstep
        split at hstep
        · cases hstep
          exact onward_transmit simulation.medium hstopping hsound m nodeId _
        · cases hstep
  | inject nodeId i =>
      unfold Simulation.step at hstep
      dsimp only at hstep
      split at hstep
      · cases hstep
      · next injection _ =>
          split at hstep
          · cases hstep
          · cases hstep
            exact hstopping.publish hsound (DirectedMedium.injectedEvent pb injection)
  | injectionRaised nodeId i =>
      unfold Simulation.step at hstep
      dsimp only at hstep
      split at hstep <;> cases hstep
      exact hrefl
  | gathered nodeId =>
      unfold Simulation.step at hstep
      dsimp only at hstep
      split at hstep <;> cases hstep
      exact hrefl
  | updateLink now link => cases hown
  | applyLinks now links => cases hown
  | traffic a =>
      unfold Simulation.step at hstep
      dsimp only at hstep
      split at hstep
      · cases hstep
      · obtain ⟨tasks, htasks, rfl⟩ := Option.map_eq_some_iff.mp hstep
        refine hstopping.onward pb hsound ?_ ?_ htasks
        · cases a <;> first | rfl | cases hown
        · rintro m kind rfl
          cases hown

end Medium

/-! ## Who awaits a call -/

/-- `stop_traffic` awaits the `stop` of a controller. -/
def TopologyHolder.awaitsStop : TopologyHolder → Bool
  | .stopping .. => true
  | _ => false

/-- A cleanup has called the `stop` of the current controller. -/
def LifecycleHolder.hasStopped : LifecycleHolder → Bool
  | .tearingDown _ (.stopping _) => true
  | .tearingDown _ .closing => true
  | _ => false

namespace SimulatorService

variable {s t : SimulatorService} {tasks later : TrafficTasks}

/-! ## Calls of the controllers -/

/-- All calls are over. -/
def AllOver (tasks : TrafficTasks) : Prop :=
  ∀ caller ∈ tasks.callers, TrafficTasks.CallerPc.isOver caller.pc = true

/-- Whoever holds the locks awaits this call of the controller with this number.  A cleanup
awaits calls of the current controller only. -/
def Awaits (lifecycle : LifecycleHolder) (topology : TopologyHolder) (generation caller : Nat) :
    Prop :=
  topology = .stopping generation caller ∨ ∃ kind, lifecycle = .tearingDown kind (.failing caller) ∨
    lifecycle = .tearingDown kind (.stopping caller)

/-- The lifecycle is before the end of the warm-up. -/
def Young (lifecycle : LifecycleHolder) : Prop :=
  lifecycle = .starting ∨ ∃ pc, lifecycle = .tearingDown .startup pc

/-- Where the calls of a controller are. -/
structure Minded (lifecycle : LifecycleHolder) (topology : TopologyHolder) (generation : Nat)
    (tasks : TrafficTasks) : Prop where
  sound : Sound tasks
  stopping : Stopping tasks
  awaited : ∀ (i : Nat) (caller : Caller), tasks.callers[i]? = some caller →
    TrafficTasks.CallerPc.isOver caller.pc = true ∨ Awaits lifecycle topology generation i
  young : Young lifecycle → Unstarted tasks
  ending : lifecycle.hasStopped = true → Ending tasks

variable {lifecycle lifecycle' : LifecycleHolder} {topology topology' : TopologyHolder}
  {generation : Nat}

/-- When nobody awaits a call all are over. -/
theorem Minded.isOver (h : Minded lifecycle topology generation tasks)
    (hnone : ∀ i, ¬Awaits lifecycle topology generation i) : AllOver tasks := by
  intro caller hmember
  obtain ⟨i, hget⟩ := List.mem_iff_getElem?.mp hmember
  exact (h.awaited i caller hget).resolve_right (hnone i)

theorem Minded.onward (h : Minded lifecycle topology generation tasks)
    (honward : Onward tasks later) : Minded lifecycle topology generation later where
  sound := honward.sound
  stopping := honward.stopping
  awaited i caller hget := by
    obtain ⟨old, hold, hstays, _⟩ := honward.calls i caller hget
    exact (h.awaited i old hold).imp hstays id
  young hyoung := honward.unstarted (h.young hyoung)
  ending hstopped := honward.ending (h.ending hstopped)

/-- The locks are handed on. -/
theorem Minded.relock (h : Minded lifecycle topology generation tasks)
    (hawaited : ∀ (i : Nat) (caller : Caller), tasks.callers[i]? = some caller →
      Awaits lifecycle topology generation i →
        TrafficTasks.CallerPc.isOver caller.pc = true ∨ Awaits lifecycle' topology' generation i)
    (hyoung : Young lifecycle' → Young lifecycle)
    (hending : lifecycle'.hasStopped = true → lifecycle.hasStopped = true) :
    Minded lifecycle' topology' generation tasks where
  sound := h.sound
  stopping := h.stopping
  awaited i caller hget := by
    rcases h.awaited i caller hget with hover | hawaits
    · exact Or.inl hover
    · exact hawaited i caller hget hawaits
  young hnew := h.young (hyoung hnew)
  ending hstopped := h.ending (hending hstopped)

/-- Only the topology lock is handed on. -/
theorem Minded.handed (h : Minded lifecycle topology generation tasks)
    (hover : ∀ (i : Nat) (caller : Caller), topology = .stopping generation i →
      tasks.callers[i]? = some caller → TrafficTasks.CallerPc.isOver caller.pc = true) :
    Minded lifecycle topology' generation tasks := by
  refine h.relock ?_ id id
  rintro i caller hget (hstopping | hteardown)
  · exact Or.inl (hover i caller hstopping hget)
  · exact Or.inr (Or.inr hteardown)

/-- The tasks after a call that was made. -/
def calling (tasks : TrafficTasks) (m : Moment) (kind : CallerKind) : TrafficTasks :=
  { (tasks.enterCall m kind).1 with
    callers := (tasks.enterCall m kind).1.callers ++
      [{ kind := kind, pc := (tasks.enterCall m kind).2 }] }

theorem callers_calling (hsound : Sound tasks) (m : Moment) (kind : CallerKind) :
    (calling tasks m kind).callers =
      tasks.callers ++ [{ kind := kind, pc := (tasks.enterCall m kind).2 }] := by
  have hmove : TrafficTasks.CallMove False tasks _ :=
    TrafficTasks.callMove_enterCall hsound.structured m kind
  unfold calling
  dsimp only
  rw [hmove.sameCalls]

/-- A call before the first run. -/
theorem calling_unstarted (h : Unstarted tasks) (m : Moment) :
    calling tasks m .stop =
      { tasks with callers := tasks.callers ++ [{ kind := .stop, pc := .returned true }] } := by
  unfold calling
  rw [h.stop m]

theorem unstarted_calling (h : Unstarted tasks) (m : Moment) :
    Unstarted (calling tasks m .stop) := by
  rw [calling_unstarted h m]
  refine ⟨h.currentId, h.state, h.finalizationDone, h.runTask, fun caller hmember => ?_⟩
  rcases List.mem_append.mp hmember with hold | hnew
  · exact h.callers caller hold
  · rw [List.mem_singleton.mp hnew]
    rfl

/-- A call is made, and somebody awaits it or it is over at once. -/
theorem Minded.call (pb : Protobuf) (h : Minded lifecycle topology generation tasks) (m : Moment)
    (kind : CallerKind)
    (hawaited : ∀ i, Awaits lifecycle topology generation i →
      Awaits lifecycle' topology' generation i)
    (hnew : TrafficTasks.CallerPc.isOver (tasks.enterCall m kind).2 = true ∨
      Awaits lifecycle' topology' generation tasks.callers.length)
    (hyoung : Young lifecycle' → Young lifecycle ∧ kind = .stop)
    (hending : lifecycle'.hasStopped = true → kind = .stop) :
    Minded lifecycle' topology' generation (calling tasks m kind) := by
  refine ⟨h.sound.step pb (a := .call m kind) rfl, h.stopping.call h.sound m kind, ?_, ?_, ?_⟩
  · intro i caller hget
    rw [callers_calling h.sound m kind] at hget
    rcases Nat.lt_or_ge i tasks.callers.length with hold | hfresh
    · rw [List.getElem?_append_left hold] at hget
      exact (h.awaited i caller hget).imp id (hawaited i)
    · rw [List.getElem?_append_right hfresh, List.getElem?_singleton] at hget
      split at hget
      · next hzero =>
          cases hget
          have hlast : i = tasks.callers.length := by omega
          rw [hlast]
          exact hnew
      · cases hget
  · intro hlock
    obtain ⟨hbefore, rfl⟩ := hyoung hlock
    exact unstarted_calling (h.young hbefore) m
  · intro hstopped
    obtain rfl := hending hstopped
    exact h.stopping.ending_of_stop h.sound m

/-- A simulation that was just created. -/
theorem minded_new (scenario : Scenario) (hardwareIds : Dict String Nat)
    (buildMetadata : BuildMetadata) (rfFrames : String → List MeshPacket)
    (hlifecycle : lifecycle = .starting) :
    Minded lifecycle topology generation
      (Simulation.new scenario hardwareIds buildMetadata rfFrames).tasks where
  sound := (TrafficTasks.exact_new _ _ _ _ _).toSound
  stopping := TrafficTasks.stopping_new _ _ _ _ _
  awaited i caller hget := by cases hget
  young _ := TrafficTasks.unstarted_new _ _ _ _ _
  ending hstopped := by
    rw [hlifecycle] at hstopped
    cases hstopped

/-! ## What holds in every reachable state -/

/-- The calls of the controllers, current and dropped. -/
structure Tended (s : SimulatorService) : Prop where
  retired : ∀ (i : Nat) (tasks : TrafficTasks), s.retired[i]? = some tasks →
    Minded .free s.topologyLock i tasks ∧ Ending tasks
  current : ∀ simulation, s.simulation = some simulation →
    Minded s.lifecycleLock s.topologyLock s.retired.length simulation.tasks
  locked : ∀ kind pc, s.lifecycleLock = .tearingDown kind pc → kind.locksTopology = true →
    pc ≠ .locking → s.topologyLock = .tearingDown
  stopped : s.state = .stopped → s.topologyLock.awaitsStop = false

theorem tended_new (broker : EventBroker) (buildMetadata : BuildMetadata) :
    Tended (.new broker buildMetadata) where
  retired i tasks hget := by cases hget
  current simulation hsimulation := by cases hsimulation
  locked kind pc hlock := by cases hlock
  stopped _ := rfl

/-- The controllers and who minds them are as before. -/
theorem Tended.kept (h : Tended s) (hretired : t.retired = s.retired)
    (hsimulation : t.simulation = s.simulation)
    (hstate : t.state = .stopped → s.state = .stopped)
    (hlifecycle : t.lifecycleLock = s.lifecycleLock) (htopology : t.topologyLock = s.topologyLock) :
    Tended t where
  retired := by
    rw [hretired, htopology]
    exact h.retired
  current := by
    rw [hsimulation, hlifecycle, htopology, hretired]
    exact h.current
  locked := by
    rw [hlifecycle, htopology]
    exact h.locked
  stopped hstopped := htopology ▸ h.stopped (hstate hstopped)

/-- Nothing is minded but the dropped controllers while there is no simulation. -/
theorem Tended.vacant (h : Tended s) (hretired : t.retired = s.retired)
    (hnone : t.simulation = none) (htopology : t.topologyLock = s.topologyLock)
    (hlocked : ∀ kind pc, t.lifecycleLock = .tearingDown kind pc → kind.locksTopology = true →
      pc ≠ .locking → s.topologyLock = .tearingDown)
    (hstopped : t.state = .stopped → s.topologyLock.awaitsStop = false) : Tended t where
  retired := by
    rw [hretired, htopology]
    exact h.retired
  current simulation hsimulation := by
    rw [hnone] at hsimulation
    cases hsimulation
  locked := htopology ▸ hlocked
  stopped := htopology ▸ hstopped

/-- The current simulation goes on under the same locks. -/
theorem Tended.adopted {before after : Simulation} (h : Tended s)
    (hsimulation : s.simulation = some before)
    (honward : Onward before.tasks after.tasks) (hretired : t.retired = s.retired)
    (hnow : t.simulation = some after) (hstate : t.state = s.state)
    (hlifecycle : t.lifecycleLock = s.lifecycleLock) (htopology : t.topologyLock = s.topologyLock) :
    Tended t where
  retired := by
    rw [hretired, htopology]
    exact h.retired
  current simulation hcurrent := by
    rw [hnow] at hcurrent
    cases hcurrent
    rw [hlifecycle, htopology, hretired]
    exact (h.current before hsimulation).onward honward
  locked := by
    rw [hlifecycle, htopology]
    exact h.locked
  stopped := by
    rw [hstate, htopology]
    exact h.stopped

theorem ne_stopping_of_awaitsStop (hidle : topology.awaitsStop = false) (generation caller : Nat) :
    topology ≠ .stopping generation caller := by
  rintro rfl
  cases hidle

/-- The dropped controllers do not mind who gets the topology lock when its holder awaits no
call. -/
theorem Tended.retired_handed (h : Tended s) (hidle : s.topologyLock.awaitsStop = false)
    (topology : TopologyHolder) (i : Nat) (tasks : TrafficTasks)
    (hget : s.retired[i]? = some tasks) : Minded .free topology i tasks ∧ Ending tasks := by
  obtain ⟨hminded, hending⟩ := h.retired i tasks hget
  exact ⟨hminded.handed fun j caller hstopping =>
    absurd hstopping (ne_stopping_of_awaitsStop hidle i j), hending⟩

/-- When the topology lock awaits no call, the calls of all dropped controllers are over and
their runs are closed. -/
theorem Tended.closed_retired (h : Tended s) (hidle : s.topologyLock.awaitsStop = false)
    (hmember : tasks ∈ s.retired) : tasks.controller.Closed := by
  obtain ⟨i, hget⟩ := List.mem_iff_getElem?.mp hmember
  obtain ⟨hminded, hending⟩ := h.retired i tasks hget
  refine hending.closed (hminded.isOver ?_)
  rintro j (hstopping | ⟨kind, hteardown | hteardown⟩)
  · exact ne_stopping_of_awaitsStop hidle i j hstopping
  · cases hteardown
  · cases hteardown

/-! ## Lifecycle -/

theorem Tended.beginStart (h : Tended s) (hnone : s.simulation = none) (m : Moment)
    (capabilities : Capabilities) : Tended (s.beginStart m capabilities).1 := by
  unfold SimulatorService.beginStart
  dsimp only
  split
  · exact h.vacant rfl hnone rfl nofun h.stopped
  · split
    · exact h.vacant rfl hnone rfl nofun h.stopped
    · exact h.vacant rfl hnone rfl nofun nofun

theorem Staged.simulation_of_stopped (h : Staged s) (hstopped : s.state = .stopped) :
    s.simulation = none := Option.map_eq_none_iff.mp (h.links_of_stopped hstopped)

/-- Who held the lifecycle lock awaited no call, and the next holder does not yet either. -/
theorem Minded.passed (h : Minded lifecycle topology generation tasks)
    (hbefore : ∀ kind pc, lifecycle = .tearingDown kind pc → pc = .locking)
    (hyoung : Young lifecycle' → Young lifecycle) (hending : lifecycle'.hasStopped = false) :
    Minded lifecycle' topology generation tasks := by
  refine h.relock ?_ hyoung fun hstopped => ?_
  · rintro i caller _ (hstopping | ⟨kind, hfailing | hstopping⟩)
    · exact Or.inr (Or.inl hstopping)
    · cases hbefore kind _ hfailing
    · cases hbefore kind _ hstopping
  · rw [hending] at hstopped
    cases hstopped

/-- A task takes the free lifecycle lock and cleans up. -/
theorem Tended.taken (h : Tended s) (hfree : s.lifecycleLock = .free) {kind : TeardownKind}
    {pc : TeardownPc} (hretired : t.retired = s.retired) (hsimulation : t.simulation = s.simulation)
    (hstate : t.state = .stopped → s.state = .stopped)
    (hlifecycle : t.lifecycleLock = .tearingDown kind pc)
    (htopology : t.topologyLock = s.topologyLock) (hkind : kind ≠ .startup)
    (hpc : pc = .locking ∨ pc = .cleaning ∧ kind.locksTopology = false) : Tended t where
  retired := by
    rw [hretired, htopology]
    exact h.retired
  current simulation hcurrent := by
    rw [htopology, hretired]
    refine (h.current simulation (hsimulation ▸ hcurrent)).passed ?_ ?_ ?_
    · intro other place hteardown
      rw [hfree] at hteardown
      cases hteardown
    · rw [hlifecycle]
      rintro (hstarting | ⟨place, hstartup⟩)
      · cases hstarting
      · cases hstartup
        exact absurd rfl hkind
    · rw [hlifecycle]
      rcases hpc with rfl | ⟨rfl, _⟩ <;> rfl
  locked other place hteardown hlocks hpast := by
    rw [hlifecycle] at hteardown
    cases hteardown
    rcases hpc with rfl | ⟨_, hunlocked⟩
    · exact absurd rfl hpast
    · rw [hunlocked] at hlocks
      cases hlocks
  stopped hstopped := htopology ▸ h.stopped (hstate hstopped)

theorem Tended.start (h : Tended s) (hstaged : Staged s) (hfree : s.lifecycleLock = .free)
    (m : Moment) (capabilities : Capabilities) : Tended (s.start m capabilities).1 := by
  unfold SimulatorService.start
  split
  · exact h
  · exact h
  · next hstopped => exact h.beginStart (hstaged.simulation_of_stopped hstopped) m capabilities
  · exact h.taken hfree rfl rfl id rfl rfl nofun (Or.inr ⟨rfl, rfl⟩)
  · exact h
  · exact h

theorem Tended.createSimulation (h : Tended s) (hlock : s.lifecycleLock = .starting) (m : Moment)
    (hardwareIds : Dict String Nat) (rfFrames : String → List MeshPacket) :
    Tended (s.createSimulation m hardwareIds rfFrames) where
  retired := h.retired
  current simulation hsimulation := by
    cases hsimulation
    exact minded_new s.scenario hardwareIds s.buildMetadata rfFrames hlock
  locked kind pc (hteardown : s.lifecycleLock = .tearingDown kind pc) := by
    rw [hlock] at hteardown
    cases hteardown
  stopped hstopped := by cases hstopped

theorem Tended.finishStart (h : Tended s) (hlock : s.lifecycleLock = .starting) (m : Moment)
    (observed : Option (Nat × Nat)) : Tended (s.finishStart m observed) where
  retired := h.retired
  current simulation hsimulation := by
    refine (h.current simulation hsimulation).passed ?_ ?_ rfl
    · intro kind pc hteardown
      rw [hlock] at hteardown
      cases hteardown
    · rintro (hfree | ⟨pc, hfree⟩) <;> cases hfree
  locked kind pc hteardown := by cases hteardown
  stopped hstopped := by cases hstopped

theorem Tended.startupRaised (h : Tended s) (hlock : s.lifecycleLock = .starting) (m : Moment)
    (exception : String) : Tended (s.startupRaised m exception) where
  retired := h.retired
  current simulation hsimulation := by
    refine (h.current simulation hsimulation).passed ?_ (fun _ => Or.inl hlock) rfl
    intro kind pc hteardown
    rw [hlock] at hteardown
    cases hteardown
  locked kind pc hteardown hlocks := by
    cases hteardown
    cases hlocks
  stopped hstopped := by cases hstopped

theorem Tended.scheduleRuntimeFailure (h : Tended s) (m : Moment) (category detail : String) :
    Tended (s.scheduleRuntimeFailure m category detail) := by
  unfold SimulatorService.scheduleRuntimeFailure
  split
  · exact h
  · exact h.kept rfl rfl nofun rfl rfl

theorem Tended.stop (h : Tended s) (hfree : s.lifecycleLock = .free) (m : Moment) :
    Tended (s.stop m) := by
  unfold SimulatorService.stop
  split
  · exact h
  · exact h.taken hfree rfl rfl nofun rfl rfl nofun (Or.inl rfl)

/-! ## Cleanups -/

/-- A call of the current simulation, after which the locks are as given. -/
theorem Tended.called {simulation : Simulation} (h : Tended s)
    {m : Moment} {kind : CallerKind} (hretired : t.retired = s.retired)
    (hnow : t.simulation = some { simulation with tasks := calling simulation.tasks m kind })
    (hminded : Minded t.lifecycleLock t.topologyLock s.retired.length
      (calling simulation.tasks m kind))
    (htopology : t.topologyLock = s.topologyLock ∨ s.topologyLock = .free)
    (hlocked : ∀ kind pc, t.lifecycleLock = .tearingDown kind pc → kind.locksTopology = true →
      pc ≠ .locking → t.topologyLock = .tearingDown)
    (hstopped : t.state = .stopped → t.topologyLock.awaitsStop = false) : Tended t where
  retired := by
    rw [hretired]
    rcases htopology with hsame | hfree
    · rw [hsame]
      exact h.retired
    · exact h.retired_handed (by rw [hfree]; rfl) t.topologyLock
  current simulation hsimulation := by
    rw [hnow] at hsimulation
    cases hsimulation
    rw [hretired]
    exact hminded
  locked := hlocked
  stopped := hstopped

theorem Tended.lockedTeardown (pb : Protobuf) {kind : TeardownKind} (h : Tended s)
    (hlock : s.lifecycleLock = .tearingDown kind .locking) (hfree : s.topologyLock = .free)
    (m : Moment) : Tended (s.lockedTeardown m kind) := by
  have hnobody : ∀ i, ¬Awaits s.lifecycleLock s.topologyLock s.retired.length i := by
    rw [hlock, hfree]
    rintro i (hstopping | ⟨other, hfailing | hstopping⟩)
    · cases hstopping
    · cases hfailing
    · cases hstopping
  unfold SimulatorService.lockedTeardown
  dsimp only
  split
  · next reason simulation hsimulation =>
      have hminded := h.current simulation hsimulation
      refine h.called rfl rfl (hminded.call pb m _ (fun i hawaits => absurd hawaits (hnobody i))
        (Or.inr (Or.inr ⟨_, Or.inl rfl⟩)) ?_ nofun) (Or.inr hfree) (fun _ _ _ _ _ => rfl)
        fun _ => rfl
      rintro (hstarting | ⟨pc, hstartup⟩)
      · cases hstarting
      · cases hstartup
  · refine ⟨h.retired_handed (by rw [hfree]; rfl) _, ?_, fun _ _ _ _ _ => rfl, fun _ => rfl⟩
    intro simulation hsimulation
    refine (h.current simulation hsimulation).relock
      (fun i _ _ hawaits => absurd hawaits (hnobody i)) ?_ nofun
    rw [hlock]
    rintro (hstarting | ⟨pc, hstartup⟩)
    · cases hstarting
    · cases hstartup
      exact Or.inr ⟨_, rfl⟩

theorem Tended.enterCleanup (pb : Protobuf) {kind : TeardownKind} (h : Tended s)
    (hlock : s.lifecycleLock = .tearingDown kind .cleaning) (m : Moment) :
    Tended (s.enterCleanup m kind) := by
  have hlocked : kind.locksTopology = true → s.topologyLock = .tearingDown :=
    fun hlocks => h.locked kind .cleaning hlock hlocks nofun
  unfold SimulatorService.enterCleanup
  split
  · next hnone =>
      refine h.vacant rfl hnone rfl ?_ h.stopped
      rintro other pc ⟨⟩ hlocks _
      exact hlocked hlocks
  · next simulation hsimulation =>
      have hminded := h.current simulation hsimulation
      refine h.called rfl rfl (hminded.call pb m .stop ?_ (Or.inr (Or.inr ⟨kind, Or.inr rfl⟩)) ?_
        fun _ => rfl) (Or.inl rfl) ?_ h.stopped
      · rw [hlock]
        rintro i (hstopping | ⟨other, hfailing | hstopping⟩)
        · exact Or.inl hstopping
        · cases hfailing
        · cases hstopping
      · rw [hlock]
        rintro (hstarting | ⟨pc, hstartup⟩)
        · cases hstarting
        · cases hstartup
          exact ⟨Or.inr ⟨_, rfl⟩, rfl⟩
      · rintro other pc ⟨⟩ hlocks _
        exact hlocked hlocks

/-- A cleanup goes on, and what it awaited is over. -/
theorem Tended.cleansUp {kind : TeardownKind} {pc pc' : TeardownPc} (h : Tended s)
    (hlock : s.lifecycleLock = .tearingDown kind pc) (hpast : pc ≠ .locking)
    (hretired : t.retired = s.retired) (hsimulation : t.simulation = s.simulation)
    (hstate : t.state = s.state) (hlifecycle : t.lifecycleLock = .tearingDown kind pc')
    (htopology : t.topologyLock = s.topologyLock)
    (hover : ∀ simulation i caller, s.simulation = some simulation →
      pc = .failing i ∨ pc = .stopping i → simulation.tasks.callers[i]? = some caller →
        TrafficTasks.CallerPc.isOver caller.pc = true)
    (hending : pc' = .cleaning ∨ ∃ i, pc = .stopping i) : Tended t where
  retired := by
    rw [hretired, htopology]
    exact h.retired
  current simulation hcurrent := by
    rw [hsimulation] at hcurrent
    rw [htopology, hlifecycle, hretired]
    refine (h.current simulation hcurrent).relock ?_ ?_ ?_
    · rw [hlock]
      rintro i caller hget (hstop | ⟨other, hfailing | hstop⟩)
      · exact Or.inr (Or.inl hstop)
      · cases hfailing
        exact Or.inl (hover simulation i caller hcurrent (Or.inl rfl) hget)
      · cases hstop
        exact Or.inl (hover simulation i caller hcurrent (Or.inr rfl) hget)
    · rw [hlock]
      rintro (hstarting | ⟨other, hstartup⟩)
      · cases hstarting
      · cases hstartup
        exact Or.inr ⟨_, rfl⟩
    · rw [hlock]
      rcases hending with rfl | ⟨i, rfl⟩
      · intro hstopped
        cases hstopped
      · exact fun _ => rfl
  locked other place hteardown hlocks _ := by
    rw [hlifecycle] at hteardown
    cases hteardown
    rw [htopology]
    exact h.locked kind _ hlock hlocks hpast
  stopped := by
    rw [hstate, htopology]
    exact h.stopped

/-- A call that a command awaits has returned. -/
theorem Tended.outcome (h : Tended s) {caller : Nat} {pc : CallerPc}
    (hover : s.outcome caller = some pc) :
    ∃ simulation call, s.simulation = some simulation ∧
      simulation.tasks.callers[caller]? = some call ∧ call.pc = pc ∧
      ∃ value, pc = .returned value := by
  unfold SimulatorService.outcome at hover
  obtain ⟨simulation, hsimulation, hfound⟩ := Option.bind_eq_some_iff.mp hover
  obtain ⟨hcall, hended⟩ := Option.filter_eq_some_iff.mp hfound
  obtain ⟨call, hget, hpc⟩ := Option.map_eq_some_iff.mp hcall
  refine ⟨simulation, call, hsimulation, hget, hpc, ?_⟩
  have hraised := (h.current simulation hsimulation).stopping.raised call
    (List.mem_of_getElem? hget)
  cases pc with
  | returned value => exact ⟨value, rfl⟩
  | raised message => exact absurd hpc (hraised message)
  | _ => cases hended

theorem Tended.failed {kind : TeardownKind} {caller : Nat} {pc : CallerPc} (h : Tended s)
    (hlock : s.lifecycleLock = .tearingDown kind (.failing caller))
    (hover : s.outcome caller = some pc) : Tended (s.cleansUp kind .cleaning) := by
  obtain ⟨simulation, call, hsimulation, hget, hpc, value, rfl⟩ := h.outcome hover
  refine h.cleansUp hlock nofun rfl rfl rfl rfl rfl ?_ (Or.inl rfl)
  intro other i found hother hplace hfound
  rw [hsimulation] at hother
  cases hother
  rcases hplace with hplace | hplace <;> cases hplace
  rw [hget] at hfound
  cases hfound
  rw [hpc]
  rfl

theorem Tended.archive (h : Tended s) (c : TrafficController) :
    Tended (s.archiveUnpersistedTrafficResult c) := by
  unfold archiveUnpersistedTrafficResult
  split
  · exact h
  · exact h.kept rfl rfl id rfl rfl

theorem Tended.stoppedTraffic {kind : TeardownKind} {caller : Nat} {finalized : Bool}
    (h : Tended s) (hlock : s.lifecycleLock = .tearingDown kind (.stopping caller))
    (hover : s.outcome caller = some (.returned finalized)) :
    Tended (s.stoppedTraffic kind finalized) := by
  obtain ⟨simulation, call, hsimulation, hget, hpc, -⟩ := h.outcome hover
  have hended : TrafficTasks.CallerPc.isOver call.pc = true := by
    rw [hpc]
    rfl
  have hover : ∀ other i found, s.simulation = some other →
      TeardownPc.stopping caller = .failing i ∨ TeardownPc.stopping caller = .stopping i →
        other.tasks.callers[i]? = some found →
          TrafficTasks.CallerPc.isOver found.pc = true := by
    intro other i found hother hplace hfound
    rw [hsimulation] at hother
    cases hother
    rcases hplace with hplace | hplace <;> cases hplace
    rw [hget] at hfound
    cases hfound
    exact hended
  unfold SimulatorService.stoppedTraffic
  rw [hsimulation]
  dsimp only
  split
  · have harchived := h.archive simulation.controller
    have hsame := still_archive s simulation.controller
    refine harchived.cleansUp (hsame.lifecycleLock.trans hlock) nofun rfl rfl rfl rfl rfl ?_
      (Or.inr ⟨caller, rfl⟩)
    rw [simulation_archive]
    exact hover
  · exact h.cleansUp hlock nofun rfl hsimulation.symm rfl rfl rfl hover (Or.inr ⟨caller, rfl⟩)

/-- The number of the current controller. -/
theorem getElem?_controllers {simulation : Simulation}
    (hsimulation : s.simulation = some simulation) :
    s.controllers[s.retired.length]? = some simulation.tasks := by
  unfold controllers
  rw [hsimulation]
  simp

/-- A cleanup gives back the topology lock if it holds it. -/
theorem Tended.release_topologyLock {kind : TeardownKind} (h : Tended s)
    (hlock : s.lifecycleLock = .tearingDown kind .closing) :
    (s.dropSimulation.release kind).topologyLock = s.topologyLock ∨
      s.topologyLock = .tearingDown ∧ (s.dropSimulation.release kind).topologyLock = .free := by
  cases hlocks : kind.locksTopology with
  | true => exact Or.inr ⟨h.locked kind .closing hlock hlocks nofun, if_pos hlocks⟩
  | false => exact Or.inl (if_neg (by rw [hlocks]; exact Bool.false_ne_true))

/-- The cleanup drops the simulation and gives its locks back. -/
theorem Tended.dropSimulation {kind : TeardownKind} (h : Tended s)
    (hlock : s.lifecycleLock = .tearingDown kind .closing) :
    Tended (s.dropSimulation.release kind) where
  retired i tasks hget := by
    -- The controller that is dropped is now minded by nobody but `stop_traffic`.
    have hdropped : Minded .free s.topologyLock i tasks ∧ Ending tasks := by
      rcases Nat.lt_or_ge i s.retired.length with hold | hnew
      · exact h.retired i tasks ((List.getElem?_append_left hold).symm.trans hget)
      · have hlast := (List.getElem?_append_right hnew).symm.trans hget
        obtain ⟨simulation, hsimulation, rfl⟩ :=
          Option.map_eq_some_iff.mp (Option.mem_toList.mp (List.mem_of_getElem? hlast))
        have hplace : i = s.retired.length := by
          rw [hsimulation] at hlast
          have hbound := (List.getElem?_eq_some_iff.mp hlast).1
          simp only [Option.map_some, Option.toList_some, List.length_singleton] at hbound
          omega
        subst hplace
        have hminded := h.current simulation hsimulation
        refine ⟨hminded.relock ?_ ?_ nofun, hminded.ending (by rw [hlock]; rfl)⟩
        · rw [hlock]
          rintro j caller _ (hstopping | ⟨other, hfailing | hstopping⟩)
          · exact Or.inr (Or.inl hstopping)
          · cases hfailing
          · cases hstopping
        · rintro (hstarting | ⟨pc, hstartup⟩)
          · cases hstarting
          · cases hstartup
    rcases h.release_topologyLock hlock with hsame | ⟨hteardown, _⟩
    · rw [hsame]
      exact hdropped
    · refine ⟨hdropped.1.handed fun j caller hstopping => ?_, hdropped.2⟩
      rw [hteardown] at hstopping
      cases hstopping
  current simulation hsimulation := by cases hsimulation
  locked other pc hteardown := by cases hteardown
  stopped hstopped := by
    rcases h.release_topologyLock hlock with hsame | ⟨_, hfree⟩
    · rw [hsame]
      exact h.stopped hstopped
    · rw [hfree]
      rfl

theorem Tended.finishTeardown {kind : TeardownKind} (h : Tended s)
    (hlock : s.lifecycleLock = .tearingDown kind .closing) (m : Moment)
    (capabilities : Capabilities) : Tended (s.finishTeardown m capabilities kind) := by
  have hdropped := h.dropSimulation hlock
  cases kind with
  | stop => exact hdropped.vacant rfl rfl rfl nofun fun _ => rfl
  | failure reason => exact hdropped
  | startup => exact hdropped
  | restart => exact hdropped.beginStart rfl m capabilities

theorem Tended.teardown (pb : Protobuf) {kind : TeardownKind} {pc : TeardownPc} (h : Tended s)
    (hlock : s.lifecycleLock = .tearingDown kind pc) {m : Moment} {capabilities : Capabilities}
    (hstep : s.teardown m capabilities kind pc = some t) : Tended t := by
  cases pc with
  | locking =>
      obtain ⟨hfree, rfl⟩ := guarded_eq_some.mp hstep
      exact h.lockedTeardown pb hlock hfree m
  | failing caller =>
      obtain ⟨pc, hover, rfl⟩ := Option.map_eq_some_iff.mp hstep
      obtain ⟨_, _, _, _, _, value, rfl⟩ := h.outcome hover
      exact h.failed hlock hover
  | cleaning =>
      cases hstep
      exact h.enterCleanup pb hlock m
  | stopping caller =>
      obtain ⟨pc, hover, rfl⟩ := Option.map_eq_some_iff.mp hstep
      obtain ⟨_, _, _, _, _, value, rfl⟩ := h.outcome hover
      exact h.stoppedTraffic hlock hover
  | closing =>
      cases hstep
      exact h.finishTeardown hlock m capabilities

/-! ## Traffic and topology -/

/-- The topology lock changes hands, and its next holder awaits no call. -/
theorem Tended.handed (h : Tended s) (hretired : t.retired = s.retired)
    (hsimulation : t.simulation = s.simulation) (hlifecycle : t.lifecycleLock = s.lifecycleLock)
    (hbefore : s.topologyLock ≠ .tearingDown) (hafter : t.topologyLock.awaitsStop = false)
    (hover : ∀ (generation i : Nat) (tasks : TrafficTasks) (caller : Caller),
      s.topologyLock = .stopping generation i → s.controllers[generation]? = some tasks →
        tasks.callers[i]? = some caller →
          TrafficTasks.CallerPc.isOver caller.pc = true) : Tended t where
  retired generation tasks hget := by
    rw [hretired] at hget
    have hplace : s.controllers[generation]? = some tasks :=
      (List.getElem?_append_left (List.getElem?_eq_some_iff.mp hget).1).trans hget
    obtain ⟨hminded, hending⟩ := h.retired generation tasks hget
    exact ⟨hminded.handed fun i caller hstop hcaller =>
      hover generation i tasks caller hstop hplace hcaller, hending⟩
  current simulation hcurrent := by
    rw [hsimulation] at hcurrent
    rw [hlifecycle, hretired]
    exact (h.current simulation hcurrent).handed fun i caller hstop hcaller =>
      hover s.retired.length i simulation.tasks caller hstop (getElem?_controllers hcurrent)
        hcaller
  locked kind pc hlock hlocks hpast := by
    rw [hlifecycle] at hlock
    exact absurd (h.locked kind pc hlock hlocks hpast) hbefore
  stopped _ := hafter

theorem Tended.startTraffic (h : Tended s) (hfree : s.topologyLock = .free)
    (request : TrafficRunRequest) : Tended (s.startTraffic request).1 := by
  unfold SimulatorService.startTraffic
  split
  · exact h
  · split
    · exact h
    · split
      · exact h
      · refine h.handed rfl rfl rfl ?_ rfl fun generation i _ _ hstop => ?_
        · rw [hfree]
          nofun
        · rw [hfree] at hstop
          cases hstop

/-- A call that has an outcome is over. -/
theorem isOver_of_callOutcome {i : Nat} {pc : CallerPc} (hover : callOutcome tasks i = some pc)
    {caller : Caller} (hget : tasks.callers[i]? = some caller) :
    TrafficTasks.CallerPc.isOver caller.pc = true := by
  obtain ⟨hcall, hended⟩ := Option.filter_eq_some_iff.mp hover
  rw [hget] at hcall
  obtain rfl := Option.some.inj hcall
  exact hended

theorem Tended.trafficStopped (h : Tended s) {generation caller : Nat} {pc : CallerPc}
    (hlock : s.topologyLock = .stopping generation caller)
    (htasks : s.controllers[generation]? = some tasks)
    (hover : callOutcome tasks caller = some pc) : Tended { s with topologyLock := .free } := by
  refine h.handed rfl rfl rfl ?_ rfl ?_
  · rw [hlock]
    nofun
  · intro other i found call hstop hfound hget
    rw [hlock] at hstop
    cases hstop
    rw [htasks] at hfound
    cases hfound
    exact isOver_of_callOutcome hover hget

theorem Tended.stopTraffic (pb : Protobuf) (h : Tended s) (hstaged : Staged s)
    (hfree : s.topologyLock = .free) (m : Moment) : Tended (s.stopTraffic m) := by
  unfold SimulatorService.stopTraffic
  split
  · exact h
  next simulation hsimulation =>
  have hminded := h.current simulation hsimulation
  have houtcome : (s.call m simulation .stop).outcome simulation.tasks.callers.length =
      (some (simulation.tasks.enterCall m .stop).2).filter TrafficTasks.CallerPc.isOver := by
    change ((calling simulation.tasks m .stop).callers[simulation.tasks.callers.length]?.map
      (·.pc)).filter _ = _
    rw [callers_calling hminded.sound, List.getElem?_concat_length]
    rfl
  have hcalled : ∀ topology, (TrafficTasks.CallerPc.isOver
        (simulation.tasks.enterCall m .stop).2 = true ∨
      topology = .stopping s.retired.length simulation.tasks.callers.length) →
      Tended { s.call m simulation .stop with topologyLock := topology } := by
    intro topology hnew
    refine h.called rfl rfl (hminded.call pb m .stop ?_ (hnew.imp id Or.inl) ?_ fun _ => rfl)
      (Or.inr hfree) ?_ fun hstopped => ?_
    · rintro i (hstop | hteardown)
      · rw [hfree] at hstop
        cases hstop
      · exact Or.inr hteardown
    · exact fun hyoung => ⟨hyoung, rfl⟩
    · intro kind pc hlock hlocks hpast
      rw [h.locked kind pc hlock hlocks hpast] at hfree
      cases hfree
    · rw [hstaged.simulation_of_stopped hstopped] at hsimulation
      cases hsimulation
  dsimp only
  rw [houtcome]
  split
  · next hover =>
      have hended : TrafficTasks.CallerPc.isOver (simulation.tasks.enterCall m .stop).2 = true := by
        by_contra hactive
        rw [Option.filter_some, if_neg hactive] at hover
        cases hover
      have htopology : s.topologyLock = (s.call m simulation .stop).topologyLock := rfl
      exact hcalled _ (Or.inl hended)
  · exact hcalled _ (Or.inr rfl)

theorem callers_started (m : Moment) (runId : String) (request : TrafficRunRequest)
    (scenarioSnapshot : Option Scenario) (baseline : Option FailedReceptionSample) :
    ∀ caller ∈ (tasks.started m runId request scenarioSnapshot baseline).callers,
      caller ∈ tasks.callers := by
  unfold TrafficTasks.started
  split
  · exact fun caller hmember => hmember
  · exact fun caller hmember => by cases hmember

/-- The lifecycle lock is free, or the cleanup after a failure waits for the topology lock. -/
def Quiet (lifecycle : LifecycleHolder) : Prop :=
  lifecycle = .free ∨ ∃ reason, lifecycle = .tearingDown (.failure reason) .locking

/-- While no command awaits a call all calls are over. -/
theorem Minded.isOver_of_quiet (h : Minded lifecycle topology generation tasks)
    (hquiet : Quiet lifecycle) (hidle : topology.awaitsStop = false) : AllOver tasks := by
  refine h.isOver ?_
  rintro i (hstopping | ⟨kind, hteardown⟩)
  · exact ne_stopping_of_awaitsStop hidle generation i hstopping
  · rcases hquiet with rfl | ⟨reason, rfl⟩
    · rcases hteardown with hteardown | hteardown <;> cases hteardown
    · rcases hteardown with hteardown | hteardown <;> cases hteardown

/-- A run is started while nobody awaits a call. -/
theorem Minded.started (pb : Protobuf) (h : Minded lifecycle .free generation tasks)
    (hquiet : Quiet lifecycle) (m : Moment) (runId : String) (request : TrafficRunRequest)
    (scenarioSnapshot : Option Scenario) (baseline : Option FailedReceptionSample) :
    Minded lifecycle .free generation
      (tasks.started m runId request scenarioSnapshot baseline) := by
  have hover : AllOver tasks := h.isOver_of_quiet hquiet rfl
  refine ⟨?_, h.stopping.started m runId request scenarioSnapshot baseline, ?_, ?_, ?_⟩
  · refine h.sound.step pb (a := .start m runId request scenarioSnapshot baseline) ?_
    exact if_pos (List.all_eq_true.mpr hover)
  · intro i caller hget
    exact Or.inl (hover caller (callers_started m runId request scenarioSnapshot baseline caller
      (List.mem_of_getElem? hget)))
  · rcases hquiet with rfl | ⟨reason, rfl⟩
    · rintro (hstarting | ⟨pc, hstartup⟩)
      · cases hstarting
      · cases hstartup
    · rintro (hstarting | ⟨pc, hstartup⟩)
      · cases hstarting
      · cases hstartup
  · rcases hquiet with rfl | ⟨reason, rfl⟩ <;> nofun

theorem Tended.beginRun (pb : Protobuf) (h : Tended s) {simulation : Simulation}
    (hsimulation : s.simulation = some simulation) (hquiet : Quiet s.lifecycleLock)
    (htopology : s.topologyLock = .free) (m : Moment) (runId : String)
    (request : TrafficRunRequest) (baseline : FailedReceptionSample) :
    Tended (s.beginRun m runId request simulation baseline).1 := by
  have hminded := h.current simulation hsimulation
  rw [htopology] at hminded
  have hadopted : Tended (s.adoptTasks simulation
      (simulation.tasks.started m runId request (some s.scenario) (some baseline))) := by
    refine ⟨h.retired, ?_, h.locked, h.stopped⟩
    intro other hother
    cases hother
    change Minded s.lifecycleLock s.topologyLock s.retired.length _
    rw [htopology]
    exact hminded.started pb hquiet m runId request (some s.scenario) (some baseline)
  unfold SimulatorService.beginRun
  dsimp only
  split
  · exact hadopted
  · exact hadopted.kept rfl rfl id rfl rfl

/-- A service that is running while it samples for a new run has nobody who awaits a call. -/
theorem Tended.quiet (h : Tended s) (hstaged : Staged s) (hrunning : s.state = .running)
    {request : TrafficRunRequest} (hlock : s.topologyLock = .sampling request generation) :
    Quiet s.lifecycleLock := by
  have hfits := hstaged.fits
  rw [hrunning] at hfits
  cases hholder : s.lifecycleLock with
  | free => exact Or.inl rfl
  | starting =>
      rw [hholder] at hfits
      cases hfits
  | tearingDown kind pc =>
      rw [hholder] at hfits
      cases kind with
      | failure reason =>
          by_cases hpc : pc = .locking
          · exact Or.inr ⟨reason, by rw [hpc]⟩
          · have htearing := h.locked _ _ hholder rfl hpc
            rw [hlock] at htearing
            cases htearing
      | _ => cases hfits

theorem Tended.sampledTraffic (pb : Protobuf) (h : Tended s) (hstaged : Staged s)
    {request : TrafficRunRequest} {generation : Nat}
    (hlock : s.topologyLock = .sampling request generation) (m : Moment) (runId : String)
    (answer : Except String FailedReceptionSample) :
    Tended (s.sampledTraffic m runId request generation answer).1 := by
  have hfree : Tended { s with topologyLock := .free } := by
    refine h.handed rfl rfl rfl ?_ rfl fun _ i _ _ hstop => ?_
    · rw [hlock]
      nofun
    · rw [hlock] at hstop
      cases hstop
  unfold SimulatorService.sampledTraffic
  dsimp only
  split
  · exact hfree
  · next baseline simulation hsimulation =>
      split
      · exact hfree
      · next hguard =>
          have hrunning := not_not.mp (not_or.mp hguard).1
          have hsame := still_archive { s with topologyLock := .free } simulation.controller
          refine (hfree.archive simulation.controller).beginRun pb ?_ ?_ ?_ m runId request baseline
          · rw [simulation_archive]
            exact hsimulation
          · rw [hsame.lifecycleLock]
            exact h.quiet hstaged hrunning hlock
          · unfold archiveUnpersistedTrafficResult
            split <;> rfl
  · exact hfree

/-- The changes of the topology that are recorded are steps of the tasks. -/
theorem onward_recordTopologyChanges (pb : Protobuf) (hstopping : Stopping tasks)
    (hsound : Sound tasks) (events : List PacketEvent) (links : List DirectedLink) :
    Onward tasks
      (tasks.withController (recordTopologyChanges tasks.controller events links).1) := by
  induction events generalizing tasks links with
  | nil => cases links <;> exact .refl hsound hstopping
  | cons event events ih =>
      cases links with
      | nil => exact .refl hsound hstopping
      | cons link links =>
          have hrecorded := hstopping.onward pb hsound (a := .topologyChange event link) rfl nofun
            rfl
          unfold recordTopologyChanges
          split
          · next c error hcall =>
              rw [hcall] at hrecorded
              exact hrecorded
          · next c hcall =>
              rw [hcall] at hrecorded
              exact hrecorded.trans (ih hrecorded.stopping hrecorded.sound links)

theorem Tended.applyRuntimeScenario (pb : Protobuf) (h : Tended s) (now : ℚ) (updated : Scenario) :
    Tended (s.applyRuntimeScenario now updated).1 := by
  unfold SimulatorService.applyRuntimeScenario
  split
  · exact h
  · next simulation hsimulation =>
      have hminded := h.current simulation hsimulation
      split
      · exact h
      · split
        · exact h
        · split
          · exact h
          · next medium applied happly =>
              have hpublished := onward_publishAll hminded.stopping hminded.sound
                (applied.map fun link => DirectedMedium.linkUpdateEvent link now)
              exact h.adopted hsimulation
                (hpublished.trans (onward_recordTopologyChanges pb hpublished.stopping
                  hpublished.sound _ _)) rfl rfl rfl rfl rfl

theorem Tended.updateLinks (pb : Protobuf) (h : Tended s) (now : ℚ) (updates : List DirectedLink) :
    Tended (s.updateLinks now updates).1 := by
  unfold SimulatorService.updateLinks
  dsimp only
  split
  · exact h
  · split
    · exact h
    · split
      · exact h
      · split
        · exact h
        · have happlied := h.applyRuntimeScenario pb now
            { s.scenario with links := s.updatedLinks updates }
          unfold updatedLinks at happlied
          split <;> next hresult => rw [hresult] at happlied; exact happlied

theorem Tended.applyTopology (pb : Protobuf) (h : Tended s) (now : ℚ) (preset : TopologyPreset) :
    Tended (s.applyTopology now preset).1 := by
  unfold SimulatorService.applyTopology
  split
  · exact h
  · next updated _ =>
      split
      · exact h.kept rfl rfl id rfl rfl
      · split
        · exact h
        · have happlied := h.applyRuntimeScenario pb now updated
          split <;> next hresult => rw [hresult] at happlied; exact happlied

/-! ## Steps -/

theorem Tended.stepSimulation (pb : Protobuf) (h : Tended s) {a : Simulation.Action}
    (hstep : s.stepSimulation pb a = some t) : Tended t := by
  unfold SimulatorService.stepSimulation at hstep
  split at hstep
  · cases hstep
  · next simulation hsimulation =>
      split at hstep
      · next hown =>
          obtain ⟨after, hafter, rfl⟩ := Option.map_eq_some_iff.mp hstep
          have hminded := h.current simulation hsimulation
          exact h.adopted hsimulation
            (Simulation.onward_step hminded.stopping hminded.sound hown.1 hafter)
            rfl rfl rfl rfl rfl
      · cases hstep

/-- A dropped controller goes on. -/
theorem onward_of_ofTasks (pb : Protobuf) (hstopping : Stopping tasks) (hsound : Sound tasks)
    {a : TrafficTasks.Action} (hown : ofTasks a = true)
    (hstep : tasks.step pb a = some later) : Onward tasks later := by
  refine hstopping.onward pb hsound ?_ ?_ hstep
  · cases a <;> first | rfl | cases hown
  · rintro m kind rfl
    cases hown

theorem Tended.stepRetired (pb : Protobuf) (h : Tended s) {generation : Nat}
    {a : TrafficTasks.Action} (hstep : s.stepRetired pb generation a = some t) : Tended t := by
  unfold SimulatorService.stepRetired at hstep
  split at hstep
  · cases hstep
  · next tasks htasks =>
      split at hstep
      · next hown =>
          obtain ⟨after, hafter, rfl⟩ := Option.map_eq_some_iff.mp hstep
          obtain ⟨hminded, hending⟩ := h.retired generation tasks htasks
          have honward := onward_of_ofTasks pb hminded.stopping hminded.sound hown.1 hafter
          refine ⟨?_, ?_, h.locked, h.stopped⟩
          · intro i other hget
            rcases getElem?_set_cases hget with ⟨rfl, rfl⟩ | ⟨_, hold⟩
            · exact ⟨hminded.onward honward, honward.ending hending⟩
            · exact h.retired i other hold
          · intro simulation hsimulation
            change Minded s.lifecycleLock s.topologyLock (s.retired.set generation after).length _
            rw [List.length_set]
            exact h.current simulation hsimulation
      · cases hstep

/-- Every step keeps the calls of the controllers where they are minded. -/
theorem Tended.step (pb : Protobuf) (h : Tended s) (hstaged : Staged s) {a : Action}
    (hstep : s.step pb a = some t) : Tended t := by
  cases (stepped hstep).1 with
  | start m capabilities hfree => exact h.start hstaged hfree m capabilities
  | createSimulation m hardwareIds rfFrames hlock hstate =>
      exact h.createSimulation hlock m hardwareIds rfFrames
  | finishStart m observed hlock hstate => exact h.finishStart hlock m observed
  | startupRaised m exception hlock => exact h.startupRaised hlock m exception
  | runtimeFailure m category detail => exact h.scheduleRuntimeFailure m category detail
  | cleanUpFailure reason hfree hpending =>
      exact h.taken hfree rfl rfl id rfl rfl nofun (Or.inl rfl)
  | stop m hfree => exact h.stop hfree m
  | teardown m capabilities kind pc _ hlock hteardown => exact h.teardown pb hlock hteardown
  | reset m streamId hfree hnew =>
      unfold SimulatorService.reset
      split
      · exact h
      · exact h.kept rfl rfl id rfl rfl
  | replaceScenario scenario =>
      unfold SimulatorService.replaceScenario
      split
      · exact h
      · exact h.kept rfl rfl id rfl rfl
  | updateLinks now updates hfree => exact h.updateLinks pb now updates
  | applyTopology now preset hfree => exact h.applyTopology pb now preset
  | startTraffic request hfree => exact h.startTraffic hfree request
  | sampledTraffic m runId answer request generation hlock hnew =>
      exact h.sampledTraffic pb hstaged hlock m runId answer
  | stopTraffic m hfree => exact h.stopTraffic pb hstaged hfree m
  | trafficStopped generation caller tasks pc hlock htasks hover =>
      exact h.trafficStopped hlock htasks hover
  | simulation a _ hsimulation => exact h.stepSimulation pb hsimulation
  | retired generation a _ hretired => exact h.stepRetired pb hretired
  | file generation fileStep tasks terminal _ htasks hterminal hfile =>
      obtain ⟨root, _, rfl⟩ := Option.map_eq_some_iff.mp hfile
      exact h.kept rfl rfl id rfl rfl
  | settleLate generation tasks htasks hlate hdone =>
      have hsettled : Tended { s with
          lateFinalizations := s.lateFinalizations.erase generation } :=
        h.kept rfl rfl id rfl rfl
      exact hsettled.archive tasks.controller

end SimulatorService

end MeshtasticLab.Simulator

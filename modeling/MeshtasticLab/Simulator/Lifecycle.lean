/-
  Simulator/Lifecycle.lean --- the life cycle of the service, apart from what goes through it.

  WHAT THIS FILE IS FOR

  `SimulatorService` and `Lab` are two descriptions of one class of the source.  The first
  has its traffic and its files and leaves the processes and gateways open; the second has
  these, and of the traffic a flag.  `Lifecycle` is what they have in common, and both take
  only its steps.  So what holds of every life cycle holds in every state of both, also
  when a command gets the lifecycle lock before the cleanup that a failure has created.

  A third description, `StatisticsTasks`, is of the sample that `start_traffic` awaits:
  what it comes to is the answer that a step `sampledTraffic` of the service leaves open.
-/
import Mathlib.Logic.Relation
import MeshtasticLab.Simulator.Lab
import MeshtasticLab.Simulator.Tending

set_option autoImplicit false

namespace MeshtasticLab.Simulator

open MeshtasticLab.Foundation MeshtasticLab.Gateway MeshtasticLab.Metrics MeshtasticLab.Models
open MeshtasticLab.Traffic

/-! ## The life cycle -/

/-- Who holds the lifecycle lock. -/
inductive LockHolder where
  | free
  | starting
  | cleaning (kind : CleanupKind)
  deriving DecidableEq

/-- `_startup_task` is set while `start` holds the lock, until the cleanup after its exception
is over. -/
def LockHolder.startsUp : LockHolder → Bool
  | .starting => true
  | .cleaning .startup => true
  | _ => false

/-- The state of the service, who holds its lifecycle lock, whether the cleanup task after a
failure waits for the lock, whether `_startup_task` is set, and whether there are a
controller and a medium. -/
structure Lifecycle where
  state : LifecycleState := .stopped
  holder : LockHolder := .free
  pending : Bool := false
  startupTask : Bool := false
  live : Bool := false

namespace Lifecycle

/-- A failure may be reported. -/
def Active (l : Lifecycle) : Prop := l.state ≠ .stopping ∧ l.state ≠ .stopped ∧ l.state ≠ .failed

/-- A failure is reported.  Nobody but `start` and a cleanup after a failure deals with it by
himself. -/
def report (l : Lifecycle) : Lifecycle :=
  { l with
    state := .failed
    pending := l.pending || !l.startupTask && decide (l.holder ≠ .cleaning .failure) }

/-- `start` sets `STARTING`. -/
def startUp (l : Lifecycle) : Lifecycle :=
  { l with state := .starting, holder := .starting, startupTask := true }

/-- A cleanup is over, and so is what it was for, unless it was for `start`. -/
def release (l : Lifecycle) (kind : CleanupKind) : Lifecycle :=
  { l with
    state := if kind = .stop then .stopped else l.state
    holder := .free
    startupTask := l.startupTask && decide (kind ≠ .startup)
    live := false }

/-- A step of the life cycle. -/
inductive Step : Lifecycle → Lifecycle → Prop where
  | start {l : Lifecycle} (hfree : l.holder = .free) (hstate : l.state = .stopped) :
      Step l l.startUp
  | recover {l : Lifecycle} (hfree : l.holder = .free) (hstate : l.state = .failed) :
      Step l { l with holder := .cleaning .recovery }
  | stop {l : Lifecycle} (hfree : l.holder = .free) (hstate : l.state ≠ .stopped) :
      Step l { l with state := .stopping, holder := .cleaning .stop }
  | cleanUp {l : Lifecycle} (hfree : l.holder = .free) (hpending : l.pending = true) :
      Step l { l with pending := false, holder := .cleaning .failure }
  | create {l : Lifecycle} (hholder : l.holder = .starting) : Step l { l with live := true }
  | warmUp {l : Lifecycle} (hholder : l.holder = .starting) (hstate : l.state ≠ .failed) :
      Step l { l with state := .warmingUp }
  | run {l : Lifecycle} (hholder : l.holder = .starting) (hstate : l.state ≠ .failed) :
      Step l { l with state := .running, holder := .free, startupTask := false }
  | raise {l : Lifecycle} (hholder : l.holder = .starting) :
      Step l { l with state := .failed, holder := .cleaning .startup }
  | report {l : Lifecycle} (hactive : l.Active) : Step l l.report
  | release {l : Lifecycle} {kind : CleanupKind} (hholder : l.holder = .cleaning kind) :
      Step l (l.release kind)
  | again {l : Lifecycle} (hholder : l.holder = .cleaning .recovery) :
      Step l (l.release .recovery).startUp

/-- Any number of steps. -/
def Steps : Lifecycle → Lifecycle → Prop := Relation.ReflTransGen Step

variable {l k : Lifecycle}

theorem Steps.refl (l : Lifecycle) : Steps l l := Relation.ReflTransGen.refl

theorem Step.steps (h : Step l k) : Steps l k := Relation.ReflTransGen.single h

theorem Steps.of_eq (h : k = l) : Steps l k := h ▸ .refl l

/-- A step to a life cycle that is given in another way. -/
theorem Step.reaches {j : Lifecycle} (h : Step l k) (heq : j = k) : Steps l j := heq ▸ h.steps

/-- The states in which a task may hold the lock. -/
def fits : LockHolder → LifecycleState → Bool
  | .free, state => state = .stopped ∨ state = .running ∨ state = .failed
  | .starting, state => state = .starting ∨ state = .warmingUp ∨ state = .failed
  | .cleaning .stop, state => state = .stopping
  | .cleaning .failure, state => state = .stopped ∨ state = .running ∨ state = .failed
  | .cleaning .startup, state => state = .failed
  | .cleaning .recovery, state => state = .failed

/-- What holds in every life cycle.  When nobody holds the lock, a controller and a medium are
there only if the service is RUNNING or a cleanup will come. -/
structure Sound (l : Lifecycle) : Prop where
  fits : fits l.holder l.state = true
  startupTask : l.startupTask = l.holder.startsUp
  stopped : l.state = .stopped → l.live = false
  rests : l.holder = .free → l.live = true → l.state = .running ∨ l.pending = true

theorem sound_new : Sound {} := ⟨rfl, rfl, fun _ => rfl, nofun⟩

theorem Sound.release {kind : CleanupKind} (h : Sound l) (hholder : l.holder = .cleaning kind) :
    Sound (l.release kind) := by
  obtain ⟨hfits, htask, _, _⟩ := h
  rw [hholder] at hfits htask
  refine ⟨?_, ?_, fun _ => rfl, nofun⟩
  · cases kind <;> simp_all [Lifecycle.release, Lifecycle.fits]
  · cases kind <;> simp [Lifecycle.release, htask, LockHolder.startsUp]

theorem sound_startUp (l : Lifecycle) : Sound l.startUp where
  fits := rfl
  startupTask := rfl
  stopped := nofun
  rests := nofun

theorem Sound.report (h : Sound l) (hactive : l.Active) : Sound l.report := by
  obtain ⟨hstopping, hstopped, hfailed⟩ := hactive
  refine ⟨?_, h.startupTask, nofun, fun hfree _ => Or.inr ?_⟩
  · have hfits := h.fits
    change Lifecycle.fits l.holder .failed = true
    cases hholder : l.holder with
    | cleaning kind => cases kind <;> simp_all [Lifecycle.fits]
    | _ => rfl
  · -- With a free lock there is no `_startup_task`, so a cleanup is created.
    change l.holder = .free at hfree
    simp [Lifecycle.report, h.startupTask, hfree, LockHolder.startsUp]

/-- Every step keeps a life cycle sound. -/
theorem Sound.step (h : Sound l) (hstep : Step l k) : Sound k := by
  have hfits := h.fits
  cases hstep with
  | start hfree hstate => exact sound_startUp _
  | recover hfree hstate =>
      refine ⟨by simp [Lifecycle.fits, hstate], ?_, h.stopped, nofun⟩
      rw [h.startupTask, hfree]
      rfl
  | stop hfree hstate =>
      refine ⟨rfl, ?_, nofun, nofun⟩
      rw [h.startupTask, hfree]
      rfl
  | cleanUp hfree hpending =>
      rw [hfree] at hfits
      refine ⟨hfits, ?_, h.stopped, nofun⟩
      rw [h.startupTask, hfree]
      rfl
  | create hholder =>
      refine ⟨hfits, h.startupTask, fun hstopped => ?_, fun hfree => ?_⟩
      · rw [hholder, show l.state = .stopped from hstopped] at hfits
        cases hfits
      · rw [show l.holder = .free from hfree] at hholder
        cases hholder
  | warmUp hholder hstate =>
      refine ⟨by rw [hholder]; rfl, h.startupTask, nofun, fun hfree => ?_⟩
      rw [show l.holder = .free from hfree] at hholder
      cases hholder
  | run hholder hstate => exact ⟨rfl, rfl, nofun, fun _ _ => Or.inl rfl⟩
  | raise hholder =>
      refine ⟨rfl, ?_, nofun, nofun⟩
      rw [h.startupTask, hholder]
      rfl
  | report hactive => exact h.report hactive
  | release hholder => exact h.release hholder
  | again hholder => exact sound_startUp _

theorem Sound.steps (h : Sound l) (hsteps : Steps l k) : Sound k := by
  induction hsteps with
  | refl => exact h
  | tail _ hstep ih => exact ih.step hstep

end Lifecycle

open Lifecycle (Step Steps)

/-! ## The service -/

/-- Whose cleanup it is. -/
def TeardownKind.cleanup : TeardownKind → CleanupKind
  | .stop => .stop
  | .failure _ => .failure
  | .startup => .startup
  | .restart => .recovery

/-- The holder of the lock, wherever it is. -/
def LifecycleHolder.holder : LifecycleHolder → LockHolder
  | .free => .free
  | .starting => .starting
  | .tearingDown kind _ => .cleaning kind.cleanup

namespace SimulatorService

variable {s t : SimulatorService} {pb : Protobuf}

/-- The life cycle of a service. -/
def lifecycle (s : SimulatorService) : Lifecycle where
  state := s.state
  holder := s.lifecycleLock.holder
  pending := s.failureCleanup.isSome
  startupTask := s.startupTask
  live := s.simulation.isSome

theorem startupTask_eq (s : SimulatorService) :
    s.startupTask = s.lifecycleLock.holder.startsUp := by
  unfold startupTask
  cases s.lifecycleLock with
  | tearingDown kind pc => cases kind <;> rfl
  | _ => rfl

/-- The life cycle is determined by four fields. -/
theorem lifecycle_congr (hstate : t.state = s.state)
    (hholder : t.lifecycleLock.holder = s.lifecycleLock.holder)
    (hcleanup : t.failureCleanup = s.failureCleanup)
    (hlive : t.simulation.isSome = s.simulation.isSome) : t.lifecycle = s.lifecycle := by
  unfold lifecycle
  rw [startupTask_eq, startupTask_eq, hstate, hholder, hcleanup, hlive]

theorem isSome_links (s : SimulatorService) : s.links.isSome = s.simulation.isSome := by
  unfold links
  rw [Option.isSome_map]

theorem Still.lifecycle (h : Still s t) : t.lifecycle = s.lifecycle := by
  refine lifecycle_congr h.state (by rw [h.lifecycleLock]) h.failureCleanup ?_
  rw [← isSome_links, h.links, isSome_links]

theorem Relinked.lifecycle {updated : Scenario} (h : Relinked s updated t) :
    t.lifecycle = s.lifecycle := by
  refine lifecycle_congr h.state (by rw [h.lifecycleLock]) h.failureCleanup ?_
  rw [← isSome_links, ← isSome_links, h.links, h.present]
  rfl

theorem Proceeds.lifecycle {kind : TeardownKind} {pc : TeardownPc} (h : Proceeds s kind t)
    (hlock : s.lifecycleLock = .tearingDown kind pc) : t.lifecycle = s.lifecycle := by
  obtain ⟨pc', hlock'⟩ := h.lifecycleLock
  refine lifecycle_congr h.state ?_ h.failureCleanup ?_
  · rw [hlock, hlock']
    rfl
  · rw [← isSome_links, h.links, isSome_links]

/-- `start` goes on, or has raised and gives the lock back. -/
theorem lifecycle_beginStart (s : SimulatorService) (m : Moment) (capabilities : Capabilities) :
    (s.beginStart m capabilities).1.lifecycle = { s with lifecycleLock := .free }.lifecycle ∨
      (s.beginStart m capabilities).1.lifecycle =
        { s with lifecycleLock := .free }.lifecycle.startUp := by
  unfold beginStart
  dsimp only
  split
  · exact Or.inl rfl
  · split
    · exact Or.inl rfl
    · exact Or.inr rfl

theorem steps_start (hfree : s.lifecycleLock = .free) (m : Moment) (capabilities : Capabilities) :
    Steps s.lifecycle (s.start m capabilities).1.lifecycle := by
  have hholder : s.lifecycle.holder = .free := congrArg LifecycleHolder.holder hfree
  unfold SimulatorService.start
  split
  · exact .refl _
  · exact .refl _
  · next hstopped =>
      have hsame : { s with lifecycleLock := .free }.lifecycle = s.lifecycle :=
        lifecycle_congr rfl (by rw [hfree]) rfl rfl
      rcases lifecycle_beginStart s m capabilities with hraised | hbegun
      · exact .of_eq (hraised.trans hsame)
      · rw [hbegun, hsame]
        exact (Step.start hholder hstopped).steps
  · next hfailed =>
      have hrecovers : ({ s with lifecycleLock := .tearingDown .restart .cleaning }).lifecycle =
          { s.lifecycle with holder := .cleaning .recovery } := by
        simp [lifecycle, startupTask, hfree, LifecycleHolder.holder, TeardownKind.cleanup]
      rw [hrecovers]
      exact (Step.recover hholder hfailed).steps
  · exact .refl _
  · exact .refl _

theorem steps_createSimulation (hlock : s.lifecycleLock = .starting) (hstate : s.state = .starting)
    (m : Moment) (hardwareIds : Dict String Nat) (rfFrames : String → List MeshPacket) :
    Steps s.lifecycle (s.createSimulation m hardwareIds rfFrames).lifecycle := by
  have hholder : s.lifecycle.holder = .starting := congrArg LifecycleHolder.holder hlock
  have hcreated := Step.create hholder
  refine Relation.ReflTransGen.tail hcreated.steps ?_
  exact Step.warmUp (l := { s.lifecycle with live := true }) hholder
    (by rw [show s.lifecycle.state = .starting from hstate]; decide)

/-- A cleanup task is created exactly when nobody is there yet who will clean up. -/
theorem isSome_failureCleanup (s : SimulatorService) (message : String) :
    (if s.startupTask || s.cleanupOutstanding then s.failureCleanup else some message).isSome =
      (s.failureCleanup.isSome ||
        !s.startupTask && decide (s.lifecycleLock.holder ≠ .cleaning .failure)) := by
  unfold cleanupOutstanding startupTask
  cases s.lifecycleLock with
  | tearingDown kind pc => cases kind <;> cases s.failureCleanup <;> rfl
  | _ => cases s.failureCleanup <;> rfl

theorem steps_scheduleRuntimeFailure (s : SimulatorService) (m : Moment)
    (category detail : String) :
    Steps s.lifecycle (s.scheduleRuntimeFailure m category detail).lifecycle := by
  unfold SimulatorService.scheduleRuntimeFailure
  split
  · exact .refl _
  · next hactive =>
      simp only [not_or] at hactive
      have hreported := congrArg
        (fun pending => { s.lifecycle with state := .failed, pending := pending })
        (isSome_failureCleanup s s!"{category}: {detail}")
      exact (Step.report (l := s.lifecycle) hactive).reaches hreported

theorem steps_stop (hfree : s.lifecycleLock = .free) (m : Moment) :
    Steps s.lifecycle (s.stop m).lifecycle := by
  unfold SimulatorService.stop
  split
  · exact .refl _
  · next hstate =>
      refine (Step.stop (l := s.lifecycle) (congrArg LifecycleHolder.holder hfree)
        hstate).reaches ?_
      simp [lifecycle, startupTask, hfree, enter, publishLifecycle, publishAll,
        LifecycleHolder.holder, TeardownKind.cleanup]

theorem steps_cleanUpFailure (hfree : s.lifecycleLock = .free) {reason : String}
    (hpending : s.failureCleanup = some reason) :
    Steps s.lifecycle (s.cleanUpFailure reason).lifecycle := by
  refine (Step.cleanUp (l := s.lifecycle) (congrArg LifecycleHolder.holder hfree) ?_).reaches ?_
  · exact congrArg Option.isSome hpending
  · simp [lifecycle, startupTask, hfree, SimulatorService.cleanUpFailure, LifecycleHolder.holder,
      TeardownKind.cleanup]

/-! ## Cleanups of the service -/

theorem lifecycle_dropSimulation {kind : TeardownKind} {pc : TeardownPc}
    (hlock : s.lifecycleLock = .tearingDown kind pc) (hkind : kind ≠ .stop) :
    (s.dropSimulation.release kind).lifecycle = s.lifecycle.release kind.cleanup := by
  cases kind <;> first
    | exact absurd rfl hkind
    | simp [lifecycle, startupTask, hlock, Lifecycle.release, SimulatorService.release,
        dropSimulation, LifecycleHolder.holder, TeardownKind.cleanup]

theorem steps_finishTeardown {kind : TeardownKind} {pc : TeardownPc}
    (hlock : s.lifecycleLock = .tearingDown kind pc) (m : Moment) (capabilities : Capabilities) :
    Steps s.lifecycle (s.finishTeardown m capabilities kind).lifecycle := by
  have hholder : s.lifecycle.holder = .cleaning kind.cleanup :=
    congrArg LifecycleHolder.holder hlock
  have hreleased := Step.release hholder
  have hdropped := lifecycle_dropSimulation (s := s) hlock
  unfold SimulatorService.finishTeardown
  cases kind with
  | stop =>
      refine hreleased.reaches ?_
      simp [lifecycle, startupTask, hlock, Lifecycle.release, SimulatorService.release,
        dropSimulation, enter, publishLifecycle, publishAll, LifecycleHolder.holder,
        TeardownKind.cleanup]
  | failure reason => exact hreleased.reaches (hdropped nofun)
  | startup => exact hreleased.reaches (hdropped nofun)
  | restart =>
      rcases lifecycle_beginStart (s.dropSimulation.release .restart) m capabilities with
        hraised | hbegun
      · exact hreleased.reaches (hraised.trans (hdropped nofun))
      · refine (Step.again hholder).reaches (hbegun.trans ?_)
        exact congrArg Lifecycle.startUp (hdropped nofun)

/-- A cleanup goes on, since no call of `stop` or `fail` raises. -/
theorem steps_teardown (htended : Tended s) {kind : TeardownKind} {pc : TeardownPc}
    (hlock : s.lifecycleLock = .tearingDown kind pc) {m : Moment} {capabilities : Capabilities}
    (hstep : s.teardown m capabilities kind pc = some t) : Steps s.lifecycle t.lifecycle := by
  cases pc with
  | locking =>
      obtain ⟨_, rfl⟩ := guarded_eq_some.mp hstep
      exact .of_eq ((proceeds_lockedTeardown s m kind).lifecycle hlock)
  | failing caller =>
      obtain ⟨pc, hover, rfl⟩ := Option.map_eq_some_iff.mp hstep
      obtain ⟨_, _, _, _, _, value, rfl⟩ := htended.outcome hover
      exact .of_eq (((Still.refl s).proceeds kind .cleaning).lifecycle hlock)
  | cleaning =>
      cases hstep
      exact .of_eq ((proceeds_enterCleanup s m kind).lifecycle hlock)
  | stopping caller =>
      obtain ⟨pc, hover, rfl⟩ := Option.map_eq_some_iff.mp hstep
      obtain ⟨_, _, _, _, _, value, rfl⟩ := htended.outcome hover
      exact .of_eq ((proceeds_stoppedTraffic s kind value).lifecycle hlock)
  | closing =>
      cases hstep
      exact steps_finishTeardown hlock m capabilities

/-- Every step of a service is one of its life cycle, or two, or none. -/
theorem steps_step (htended : Tended s) {a : Action} (hstep : s.step pb a = some t) :
    Steps s.lifecycle t.lifecycle := by
  cases (stepped hstep).1 with
  | start m capabilities hfree => exact steps_start hfree m capabilities
  | createSimulation m hardwareIds rfFrames hlock hstate =>
      exact steps_createSimulation hlock hstate m hardwareIds rfFrames
  | finishStart m observed hlock hstate =>
      refine (Step.run (l := s.lifecycle) (congrArg LifecycleHolder.holder hlock) ?_).steps
      rw [show s.lifecycle.state = .warmingUp from hstate]
      decide
  | startupRaised m exception hlock =>
      refine (Step.raise (l := s.lifecycle) (congrArg LifecycleHolder.holder hlock)).reaches ?_
      simp [lifecycle, startupTask, hlock, SimulatorService.startupRaised, enter,
        publishLifecycle, publishAll, LifecycleHolder.holder, TeardownKind.cleanup]
  | runtimeFailure m category detail => exact steps_scheduleRuntimeFailure s m category detail
  | cleanUpFailure reason hfree hpending => exact steps_cleanUpFailure hfree hpending
  | stop m hfree => exact steps_stop hfree m
  | teardown m capabilities kind pc _ hlock hteardown =>
      exact steps_teardown htended hlock hteardown
  | reset m streamId hfree hnew =>
      unfold SimulatorService.reset
      split <;> exact .refl _
  | replaceScenario scenario =>
      unfold SimulatorService.replaceScenario
      split <;> exact .refl _
  | updateLinks now updates hfree =>
      rcases relinked_updateLinks s now updates with hsame | hrelinked
      · exact .of_eq (congrArg lifecycle hsame)
      · exact .of_eq hrelinked.lifecycle
  | applyTopology now preset hfree =>
      unfold SimulatorService.applyTopology
      split
      · exact .refl _
      · next updated _ =>
          split
          · exact .refl _
          · split
            · exact .refl _
            · have hcases := relinked_applyRuntimeScenario s now updated
              split <;> next hresult =>
                rw [hresult] at hcases
                rcases hcases with hsame | hrelinked
                · exact .of_eq (congrArg lifecycle hsame)
                · exact .of_eq hrelinked.lifecycle
  | startTraffic request hfree => exact .of_eq (still_startTraffic s request).lifecycle
  | sampledTraffic m runId answer request generation hlock hnew =>
      exact .of_eq (still_sampledTraffic s m runId request generation answer).lifecycle
  | stopTraffic m hfree => exact .of_eq (still_stopTraffic s m).lifecycle
  | trafficStopped generation caller tasks pc hlock htasks hover => exact .refl _
  | simulation a _ hsimulation => exact .of_eq (still_stepSimulation hsimulation).lifecycle
  | retired generation a _ hretired => exact .of_eq (still_stepRetired hretired).lifecycle
  | file generation fileStep tasks terminal _ htasks hterminal hfile =>
      exact .of_eq (still_fileStep hfile).lifecycle
  | settleLate generation tasks htasks hlate hdone =>
      exact .of_eq (still_settleLate s generation tasks.controller).lifecycle

/-- Whatever the steps of a service meet, it goes through a life cycle. -/
theorem lifecycle_of_run {meets : SimulatorService → Action → Prop} {broker : EventBroker}
    {buildMetadata : BuildMetadata}
    (hrun : Run (step pb) meets (.new broker buildMetadata) s) : Steps {} s.lifecycle := by
  suffices h : (Staged s ∧ Tended s) ∧ Steps {} s.lifecycle from h.2
  refine hrun.invariant (I := fun s => (Staged s ∧ Tended s) ∧ Steps {} s.lifecycle) ?_ ?_
  · rintro s a t ⟨⟨hstaged, htended⟩, hsteps⟩ _ hstep
    exact ⟨⟨hstaged.step pb hstep, htended.step pb hstaged hstep⟩,
      hsteps.trans (steps_step htended hstep)⟩
  · exact ⟨⟨staged_new broker buildMetadata, tended_new broker buildMetadata⟩, .refl _⟩

/-- When nobody holds the lifecycle lock of a service with a simulation, it is RUNNING or its
cleanup waits. -/
theorem simulation_kept {meets : SimulatorService → Action → Prop} {broker : EventBroker}
    {buildMetadata : BuildMetadata}
    (hrun : Run (step pb) meets (.new broker buildMetadata) s) (hfree : s.lifecycleLock = .free)
    (hlive : s.simulation ≠ none) : s.state = .running ∨ s.failureCleanup ≠ none := by
  have hsound := Lifecycle.sound_new.steps (lifecycle_of_run hrun)
  have hrests := hsound.rests (congrArg LifecycleHolder.holder hfree)
    (Option.isSome_iff_ne_none.mpr hlive)
  exact hrests.imp id Option.isSome_iff_ne_none.mp

end SimulatorService

/-! ## The lab -/

/-- The holder of the lock, wherever it is. -/
def LabPc.holder : LabPc → LockHolder
  | .free => .free
  | .cleaning kind _ => .cleaning kind
  | _ => .starting

@[simp] theorem LabPc.holder_free : LabPc.free.holder = .free := rfl

@[simp] theorem LabPc.holder_processes : LabPc.processes.holder = .starting := rfl

@[simp] theorem LabPc.holder_medium : LabPc.medium.holder = .starting := rfl

@[simp] theorem LabPc.holder_warmingUp : LabPc.warmingUp.holder = .starting := rfl

@[simp] theorem LabPc.holder_cleaning (kind : CleanupKind) (pc : CleanupPc) :
    (LabPc.cleaning kind pc).holder = .cleaning kind := rfl

/-- A call on a gateway leaves the lock with its holder. -/
@[simp] theorem LabPc.holder_call (pc : LabPc) (nodeId : String) :
    (pc.call nodeId).holder = pc.holder := by
  cases pc with
  | cleaning kind cleanup => cases cleanup <;> rfl
  | _ => rfl

namespace Lab

variable {config : LabConfig} {lab after : Lab}

/-- The life cycle of a lab. -/
def lifecycle (lab : Lab) : Lifecycle where
  state := lab.state
  holder := lab.lifecycleLock.holder
  pending := lab.failureCleanup && decide (lab.lifecycleLock.holder ≠ .cleaning .failure)
  startupTask := lab.startupTask
  live := lab.simulation

/-- The life cycle is determined by five fields. -/
theorem lifecycle_congr (hstate : after.state = lab.state)
    (hholder : after.lifecycleLock.holder = lab.lifecycleLock.holder)
    (hcleanup : after.failureCleanup = lab.failureCleanup)
    (htask : after.startupTask = lab.startupTask) (hlive : after.simulation = lab.simulation) :
    after.lifecycle = lab.lifecycle := by
  unfold lifecycle
  rw [hstate, hholder, hcleanup, htask, hlive]

/-- `start` goes on to its next place. -/
theorem steps_placed {pc : LabPc} (hholder : pc.holder = lab.lifecycleLock.holder) :
    Steps lab.lifecycle { lab with lifecycleLock := pc }.lifecycle :=
  .of_eq (lifecycle_congr rfl hholder rfl rfl rfl)

/-! ## Failures of the lab -/

theorem steps_scheduleRuntimeFailure (lab : Lab) :
    Steps lab.lifecycle lab.scheduleRuntimeFailure.lifecycle := by
  unfold scheduleRuntimeFailure
  split
  · exact .refl _
  · exact .refl _
  · exact .refl _
  · next hstopping hstopped hfailed =>
      refine (Step.report (l := lab.lifecycle) ⟨hstopping, hstopped, hfailed⟩).reaches ?_
      simp [lifecycle, Lifecycle.report, Bool.and_or_distrib_right]

theorem steps_onQueueFull (lab : Lab) : Steps lab.lifecycle lab.onQueueFull.lifecycle := by
  unfold onQueueFull
  split
  · exact steps_scheduleRuntimeFailure lab
  · exact steps_scheduleRuntimeFailure lab
  · exact .refl _

theorem steps_onGatewayFailed (lab : Lab) (nodeId : String) :
    Steps lab.lifecycle (lab.onGatewayFailed nodeId).lifecycle := by
  unfold onGatewayFailed
  split
  · exact steps_scheduleRuntimeFailure lab
  · exact steps_scheduleRuntimeFailure lab
  · split <;> exact .refl _
  · exact .refl _

/-! ## Start of the lab -/

theorem steps_failStart (hholder : lab.lifecycleLock.holder = .starting) :
    Steps lab.lifecycle lab.failStart.lifecycle := by
  refine (Step.raise (l := lab.lifecycle) hholder).reaches ?_
  simp [lifecycle, failStart, beginCleanup, hholder]

/-- `start` raises when a failure was reported, and goes on otherwise. -/
theorem steps_unlessFailed {next : Lab} (hholder : lab.lifecycleLock.holder = .starting)
    (hnext : lab.state ≠ .failed → Steps lab.lifecycle next.lifecycle) :
    Steps lab.lifecycle (lab.unlessFailed next).lifecycle := by
  unfold unlessFailed
  split
  · exact steps_failStart hholder
  · next hstate => exact hnext hstate

theorem lifecycle_beginStart {raises : Bool} (hholder : lab.lifecycleLock.holder = .free)
    (hbegin : lab.beginStart config raises = some after) :
    after.lifecycle = lab.lifecycle.startUp := by
  obtain ⟨supervisor, _, rfl⟩ := Option.map_eq_some_iff.mp hbegin
  simp [lifecycle, Lifecycle.startUp, hholder]

theorem steps_startCommand {available raises : Bool} (hfree : lab.lifecycleLock = .free)
    (hstart : lab.startCommand config available raises = some after) :
    Steps lab.lifecycle after.lifecycle := by
  have hholder : lab.lifecycleLock.holder = .free := congrArg LabPc.holder hfree
  unfold startCommand at hstart
  split at hstart
  · next hstopped =>
      split at hstart
      · exact (Step.start (l := lab.lifecycle) hholder hstopped).reaches
          (lifecycle_beginStart hholder hstart)
      · cases hstart
        exact .refl _
  · next hfailed =>
      cases hstart
      refine (Step.recover (l := lab.lifecycle) hholder hfailed).reaches ?_
      simp [lifecycle, beginCleanup, hholder]
  · cases hstart
    exact .refl _

theorem steps_endAttempt {attempt : Nat} {remaining unstable : List String}
    (hpc : lab.lifecycleLock = .verifying attempt remaining unstable) :
    Steps lab.lifecycle (lab.endAttempt attempt unstable).lifecycle := by
  have hholder : lab.lifecycleLock.holder = .starting := congrArg LabPc.holder hpc
  unfold endAttempt
  split
  · refine steps_unlessFailed hholder fun _ => ?_
    refine (Step.create (l := lab.lifecycle) hholder).reaches ?_
    simp [lifecycle, hholder]
  · split
    · exact steps_placed hholder.symm
    · exact steps_failStart hholder

/-! ## Cleanups of the lab -/

theorem steps_finishCleanup {kind : CleanupKind} {pc : CleanupPc} {available raises : Bool}
    (hpc : lab.lifecycleLock = .cleaning kind pc)
    (hfinish : lab.finishCleanup config kind available raises = some after) :
    Steps lab.lifecycle after.lifecycle := by
  have hholder : lab.lifecycle.holder = .cleaning kind := congrArg LabPc.holder hpc
  have hreleased := Step.release hholder
  unfold finishCleanup at hfinish
  cases kind with
  | recovery =>
      have hdropped : { lab.dropResources with lifecycleLock := .free }.lifecycle =
          lab.lifecycle.release .recovery := by
        simp [lifecycle, Lifecycle.release, dropResources, hpc]
      dsimp only at hfinish
      split at hfinish
      · refine (Step.again hholder).reaches ?_
        obtain ⟨supervisor, _, rfl⟩ := Option.map_eq_some_iff.mp hfinish
        simp [lifecycle, Lifecycle.release, Lifecycle.startUp, dropResources, hpc]
      · cases hfinish
        exact hreleased.reaches hdropped
  | _ =>
      cases hfinish
      refine hreleased.reaches ?_
      simp [lifecycle, Lifecycle.release, dropResources, hpc]

/-! ## Steps of the lab -/

theorem steps_processStep {a : Runtime.NativeProcessSupervisor.Action}
    (hstep : lab.processStep config a = some after) : Steps lab.lifecycle after.lifecycle := by
  obtain ⟨supervisor, _, rfl⟩ := Option.map_eq_some_iff.mp hstep
  dsimp only
  split
  · exact steps_scheduleRuntimeFailure { lab with supervisor }
  · exact .refl _

theorem steps_gatewayStep {nodeId : String} {a : NodeGateway.Action}
    (hstep : lab.gatewayStep config nodeId a = some after) :
    Steps lab.lifecycle after.lifecycle := by
  simp only [Lab.gatewayStep, bind, Option.bind_eq_some_iff] at hstep
  obtain ⟨g, _, h, _, hafter⟩ := hstep
  have hcalled : { lab with
      gateways := lab.gateways.set nodeId h
      lifecycleLock :=
        if isCall a then lab.lifecycleLock.call nodeId else lab.lifecycleLock }.lifecycle =
          lab.lifecycle := by
    refine lifecycle_congr rfl ?_ rfl rfl rfl
    dsimp only
    split <;> simp
  split at hafter
  · cases hafter
    exact hcalled ▸ steps_onGatewayFailed _ nodeId
  · cases hafter
    exact .of_eq hcalled

theorem holder_of_canRaise (h : lab.canRaise = true) : lab.lifecycleLock.holder = .starting := by
  cases hpc : lab.lifecycleLock <;> first | rfl | simp [canRaise, hpc] at h

/-- Every step of a lab is one of its life cycle, or none. -/
theorem steps_step {a : Action} (hstep : lab.step config a = some after) :
    Steps lab.lifecycle after.lifecycle := by
  unfold step at hstep
  cases a with
  | start available raises =>
      obtain ⟨hfree, hstart⟩ := Option.ite_none_right_eq_some.mp hstep
      exact steps_startCommand hfree hstart
  | stop =>
      obtain ⟨hfree, hstop⟩ := Option.ite_none_right_eq_some.mp hstep
      cases hstop
      unfold stopCommand
      split
      · exact .refl _
      · next hstate =>
          refine (Step.stop (l := lab.lifecycle) (congrArg LabPc.holder hfree) hstate).reaches ?_
          simp [lifecycle, beginCleanup, hfree]
  | reset =>
      obtain ⟨_, hreset⟩ := Option.ite_none_right_eq_some.mp hstep
      cases hreset
      unfold resetCommand
      split <;> exact .refl _
  | replaceScenario scenario =>
      obtain ⟨_, hreplaced⟩ := Option.ite_none_right_eq_some.mp hstep
      cases hreplaced
      exact .refl _
  | applyLinks scenario =>
      obtain ⟨_, happlied⟩ := Option.ite_none_right_eq_some.mp hstep
      cases happlied
      exact .refl _
  | cleanUpFailure =>
      obtain ⟨⟨hfree, hcleanup⟩, hbegun⟩ := Option.ite_none_right_eq_some.mp hstep
      cases hbegun
      refine (Step.cleanUp (l := lab.lifecycle) (congrArg LabPc.holder hfree) ?_).reaches ?_
      · simp [lifecycle, hfree, hcleanup]
      · simp [lifecycle, beginCleanup]
  | processesStarted =>
      obtain ⟨⟨hpc, _⟩, hstarted⟩ := Option.ite_none_right_eq_some.mp hstep
      have hholder : lab.lifecycleLock.holder = .starting := congrArg LabPc.holder hpc
      split at hstarted
      · cases hstarted
        exact steps_failStart hholder
      · cases hstarted
        exact steps_unlessFailed hholder fun _ =>
          .of_eq (lifecycle_congr rfl hholder.symm rfl rfl rfl)
  | gatewayRaised =>
      dsimp only at hstep
      split at hstep
      · next hpc =>
          cases hstep
          exact steps_placed (congrArg LabPc.holder hpc).symm
      · cases hstep
  | abandoned =>
      obtain ⟨⟨hpc, _⟩, hfailed⟩ := Option.ite_none_right_eq_some.mp hstep
      cases hfailed
      exact steps_failStart (congrArg LabPc.holder hpc)
  | gatewaysStarted =>
      dsimp only at hstep
      split at hstep
      · next hpc =>
          have hholder : lab.lifecycleLock.holder = .starting := congrArg LabPc.holder hpc
          obtain ⟨_, hstarted⟩ := Option.ite_none_right_eq_some.mp hstep
          cases hstarted
          exact steps_unlessFailed hholder fun _ => steps_placed hholder.symm
      · next hpc =>
          obtain ⟨_, hstarted⟩ := Option.ite_none_right_eq_some.mp hstep
          cases hstarted
          exact steps_placed (congrArg LabPc.holder hpc).symm
      · cases hstep
  | configured =>
      obtain ⟨hpc, hconfigured⟩ := Option.ite_none_right_eq_some.mp hstep
      cases hconfigured
      exact steps_placed (congrArg LabPc.holder hpc).symm
  | rebooted =>
      obtain ⟨⟨hpc, _⟩, hrebooted⟩ := Option.ite_none_right_eq_some.mp hstep
      cases hrebooted
      exact steps_placed (congrArg LabPc.holder hpc).symm
  | gatewaysStopped =>
      dsimp only at hstep
      split at hstep
      · next hpc =>
          obtain ⟨_, hstopped⟩ := Option.ite_none_right_eq_some.mp hstep
          cases hstopped
          exact .of_eq (lifecycle_congr rfl (congrArg LabPc.holder hpc).symm rfl rfl rfl)
      · next hpc =>
          obtain ⟨_, hstopped⟩ := Option.ite_none_right_eq_some.mp hstep
          obtain ⟨supervisor, _, rfl⟩ := Option.map_eq_some_iff.mp hstopped
          exact .of_eq (lifecycle_congr rfl (congrArg LabPc.holder hpc).symm rfl rfl rfl)
      · cases hstep
  | observed nodeId =>
      dsimp only at hstep
      split at hstep
      · next hpc =>
          obtain ⟨_, hobserved⟩ := Option.ite_none_right_eq_some.mp hstep
          obtain ⟨g, _, rfl⟩ := Option.map_eq_some_iff.mp hobserved
          have hholder := (congrArg LabPc.holder hpc).symm
          unfold observe
          dsimp only
          split <;> exact .of_eq (lifecycle_congr rfl hholder rfl rfl rfl)
      · cases hstep
  | attempted =>
      dsimp only at hstep
      split at hstep
      · next hpc =>
          cases hstep
          exact steps_endAttempt hpc
      · cases hstep
  | mediumStarted =>
      obtain ⟨hpc, hstarted⟩ := Option.ite_none_right_eq_some.mp hstep
      cases hstarted
      have hholder : lab.lifecycleLock.holder = .starting := congrArg LabPc.holder hpc
      refine steps_unlessFailed hholder fun hstate => ?_
      refine (Step.warmUp (l := lab.lifecycle) hholder hstate).reaches ?_
      simp [lifecycle, hpc]
  | warmedUp =>
      obtain ⟨hpc, hwarm⟩ := Option.ite_none_right_eq_some.mp hstep
      cases hwarm
      have hholder : lab.lifecycleLock.holder = .starting := congrArg LabPc.holder hpc
      exact steps_unlessFailed hholder fun _ =>
        .of_eq (lifecycle_congr rfl hholder.symm rfl rfl rfl)
  | enabled =>
      obtain ⟨hpc, henabled⟩ := Option.ite_none_right_eq_some.mp hstep
      cases henabled
      have hholder : lab.lifecycleLock.holder = .starting := congrArg LabPc.holder hpc
      refine steps_unlessFailed hholder fun hstate => ?_
      refine (Step.run (l := lab.lifecycle) hholder hstate).reaches ?_
      simp [lifecycle, hholder]
  | raised =>
      obtain ⟨hraises, hraised⟩ := Option.ite_none_right_eq_some.mp hstep
      cases hraised
      exact steps_failStart (holder_of_canRaise hraises)
  | simulationStopped =>
      dsimp only at hstep
      split at hstep
      · next hpc =>
          cases hstep
          exact steps_placed (congrArg LabPc.holder hpc).symm
      · cases hstep
  | processesStopped available raises =>
      dsimp only at hstep
      split at hstep
      · next hpc =>
          obtain ⟨_, hfinish⟩ := Option.ite_none_right_eq_some.mp hstep
          exact steps_finishCleanup hpc hfinish
      · cases hstep
  | mediumFailed =>
      obtain ⟨_, hfailed⟩ := Option.ite_none_right_eq_some.mp hstep
      cases hfailed
      exact steps_scheduleRuntimeFailure lab
  | queueFull =>
      cases hstep
      exact steps_onQueueFull lab
  | process a =>
      obtain ⟨_, hprocess⟩ := Option.ite_none_right_eq_some.mp hstep
      exact steps_processStep hprocess
  | gateway nodeId a =>
      obtain ⟨_, hgateway⟩ := Option.ite_none_right_eq_some.mp hstep
      exact steps_gatewayStep hgateway

/-- Whatever the steps of a lab meet, it goes through a life cycle. -/
theorem lifecycle_of_run {meets : Lab → Action → Prop} (hrun : Run (step config) meets new lab) :
    Steps {} lab.lifecycle := by
  refine hrun.invariant (I := fun lab => Steps {} lab.lifecycle) ?_ (.refl _)
  intro lab a after hsteps _ hstep
  exact hsteps.trans (steps_step hstep)

/-- When nobody holds the lifecycle lock of a lab with traffic and medium, it is RUNNING or its
cleanup is outstanding; and `_startup_task` is set exactly while `start` has the lock. -/
theorem simulation_kept {meets : Lab → Action → Prop} (hrun : Run (step config) meets new lab) :
    (lab.lifecycleLock = .free → lab.simulation = true →
      lab.state = .running ∨ lab.failureCleanup = true) ∧
      lab.startupTask = lab.lifecycleLock.holder.startsUp := by
  have hsound := Lifecycle.sound_new.steps (lifecycle_of_run hrun)
  refine ⟨fun hfree hlive => ?_, hsound.startupTask⟩
  refine (hsound.rests (congrArg LabPc.holder hfree) hlive).imp id fun hpending => ?_
  exact (Bool.and_eq_true_iff.mp hpending).1

end Lab

end MeshtasticLab.Simulator

/-
  Simulator/Custody.lean --- the runs of the service and the places of their results.

  WHAT THIS FILE IS FOR

  A result is with a controller, in a file or in the archive.  `Custody` is what the
  service holds of all three, and `Custody.Step` lists what can happen to it: a task of
  a controller goes on, a run is started over the archived result of the last, a
  cleanup archives a result or leaves it to a late finalization, a controller is
  dropped, a file is renamed.  `custody_step` shows that the service does nothing else,
  so that an invariant of the custody has to look at these steps only.
-/
import MeshtasticLab.Simulator.Restarts
import MeshtasticLab.Simulator.RunFiles

set_option autoImplicit false

namespace MeshtasticLab.Simulator

open MeshtasticLab.Foundation MeshtasticLab.Gateway MeshtasticLab.Metrics MeshtasticLab.Models
open MeshtasticLab.Traffic
open MeshtasticLab.Traffic.TrafficTasks (Sound Stopping Onward Unstarted Neutral)
open SimulatorService (AllOver calling persisting ThreadAgrees threadsAfter
  unpersistedAfter)

/-! ## Handlers -/

/-- The tasks have only noted what the medium or a gateway handed to the controller. -/
structure Noted (tasks later : TrafficTasks) : Prop where
  onward : Onward tasks later
  neutral : Neutral False tasks later
  frame : later.controller.frame = tasks.controller.frame

section Medium

variable {pb : Protobuf} {tasks later : TrafficTasks}

theorem Noted.refl (hstopping : Stopping tasks) (hsound : Sound tasks) : Noted tasks tasks :=
  ⟨.refl hsound hstopping, .refl hsound.structured.controlled, rfl⟩

theorem Noted.trans {last : TrafficTasks} (hfirst : Noted tasks later)
    (hsecond : Noted later last) : Noted tasks last :=
  ⟨hfirst.onward.trans hsecond.onward, hfirst.neutral.trans hsecond.neutral,
    hsecond.frame.trans hfirst.frame⟩

theorem noted_publish (hstopping : Stopping tasks) (hsound : Sound tasks) (event : PacketEvent) :
    Noted tasks (tasks.withController (tasks.controller.publish event)) :=
  ⟨hstopping.publish hsound event,
    .of_frame (.of_view hsound.structured.controlled rfl rfl) rfl, rfl⟩

theorem noted_event (pb : Protobuf) (hstopping : Stopping tasks) (hsound : Sound tasks)
    {a : TrafficTasks.Action} (hevent : a.isEvent = true) (hstep : tasks.step pb a = some later) :
    Noted tasks later := by
  have honward : Onward tasks later := by
    refine hstopping.onward pb hsound ?_ ?_ hstep
    · cases a <;> first | rfl | cases hevent
    · rintro m kind rfl
      cases hevent
  obtain ⟨c, rfl, hbooks, hstill⟩ := TrafficTasks.event_step False pb
    hsound.structured.controlled hevent False.elim hstep
  exact ⟨honward, .of_frame (.of_gated hsound.structured.controlled hbooks hstill) hbooks.frame,
    hbooks.frame⟩

theorem noted_publishAll (hstopping : Stopping tasks) (hsound : Sound tasks)
    (events : List PacketEvent) :
    Noted tasks
      (tasks.withController (events.foldl TrafficController.publish tasks.controller)) := by
  induction events generalizing tasks with
  | nil => exact .refl hstopping hsound
  | cons event rest ih =>
      have hpublished := noted_publish hstopping hsound event
      exact hpublished.trans (ih hpublished.onward.stopping hpublished.onward.sound)

/-- The medium decides on the links of a frame. -/
theorem noted_decide (frame : DirectedMedium.Transmission) (links : List DirectedLink)
    (hstopping : Stopping tasks) (hsound : Sound tasks) (injections : List Injection) :
    Noted tasks (tasks.withController
      (links.foldl (frame.decide pb) (tasks.controller, injections)).1) := by
  induction links generalizing tasks injections with
  | nil => exact .refl hstopping hsound
  | cons link rest ih =>
      rw [List.foldl_cons]
      unfold DirectedMedium.Transmission.decide
      dsimp only
      split
      · have hpublished := noted_publish hstopping hsound (frame.disabledEvent link)
        have hdropped := hpublished.trans (noted_event pb hpublished.onward.stopping
          hpublished.onward.sound
          (a := .drop frame.m frame.transmitter frame.packet "link-disabled") rfl rfl)
        exact hdropped.trans (ih hdropped.onward.stopping hdropped.onward.sound injections)
      · exact ih hstopping hsound _

theorem noted_transmit (medium : DirectedMedium) (hstopping : Stopping tasks)
    (hsound : Sound tasks) (m : Moment) (transmitter : String) (packet : MeshPacket) :
    Noted tasks (tasks.withController
      (medium.transmit pb tasks.controller m transmitter packet).1) := by
  unfold DirectedMedium.transmit
  split
  · exact .refl hstopping hsound
  · next payloadLength _ =>
      have hrecorded := noted_event pb hstopping hsound (a := .rfTransmission m transmitter
        packet (airtimeMs payloadLength medium.scenario.rf.modemPreset)) rfl rfl
      dsimp only
      split
      · next c error hcall =>
          rw [hcall] at hrecorded
          exact hrecorded
      · next c correlation hcall =>
          rw [hcall] at hrecorded
          refine hrecorded.trans ?_
          unfold DirectedMedium.forward
          have hpublished := noted_publish hrecorded.onward.stopping hrecorded.onward.sound
          exact (hpublished _).trans
            (noted_decide _ _ (hpublished _).onward.stopping (hpublished _).onward.sound [])

theorem noted_recordTopologyChanges (pb : Protobuf) (hstopping : Stopping tasks)
    (hsound : Sound tasks) (events : List PacketEvent) (links : List DirectedLink) :
    Noted tasks (tasks.withController
      (SimulatorService.recordTopologyChanges tasks.controller events links).1) := by
  induction events generalizing tasks links with
  | nil => cases links <;> exact .refl hstopping hsound
  | cons event events ih =>
      cases links with
      | nil => exact .refl hstopping hsound
      | cons link links =>
          have hrecorded := noted_event pb hstopping hsound
            (a := .topologyChange event link) rfl rfl
          unfold SimulatorService.recordTopologyChanges
          split
          · next c error hcall =>
              rw [hcall] at hrecorded
              exact hrecorded
          · next c hcall =>
              rw [hcall] at hrecorded
              exact hrecorded.trans (ih hrecorded.onward.stopping hrecorded.onward.sound links)

/-- The medium hands over to the controller, or its tasks take a step. -/
theorem Simulation.tasks_step {simulation after : Simulation} {a : Simulation.Action}
    (hstopping : Stopping simulation.tasks) (hsound : Sound simulation.tasks)
    (hown : SimulatorService.ofSimulation a = true) (hstep : simulation.step pb a = some after) :
    (SimulatorService.trafficAction a = none ∧ Noted simulation.tasks after.tasks) ∨
      ∃ action, a = .traffic action ∧ simulation.tasks.step pb action = some after.tasks := by
  have hrefl : Noted simulation.tasks simulation.tasks := .refl hstopping hsound
  cases a with
  | rfFrame nodeId packet =>
      unfold Simulation.step at hstep
      dsimp only at hstep
      split at hstep
      · cases hstep
      · split at hstep <;> cases hstep <;> exact Or.inl ⟨rfl, hrefl⟩
  | transmit m nodeId =>
      unfold Simulation.step at hstep
      dsimp only at hstep
      split at hstep
      · cases hstep
      · unfold Simulation.transmitNext at hstep
        split at hstep
        · cases hstep
          exact Or.inl ⟨rfl, noted_transmit simulation.medium hstopping hsound m nodeId _⟩
        · cases hstep
  | inject nodeId i =>
      unfold Simulation.step at hstep
      dsimp only at hstep
      split at hstep
      · cases hstep
      · next injection _ =>
          split at hstep
          · cases hstep
          · cases hstep
            exact Or.inl ⟨rfl,
              noted_publish hstopping hsound (DirectedMedium.injectedEvent pb injection)⟩
  | injectionRaised nodeId i =>
      unfold Simulation.step at hstep
      dsimp only at hstep
      split at hstep <;> cases hstep
      exact Or.inl ⟨rfl, hrefl⟩
  | gathered nodeId =>
      unfold Simulation.step at hstep
      dsimp only at hstep
      split at hstep <;> cases hstep
      exact Or.inl ⟨rfl, hrefl⟩
  | updateLink now link => cases hown
  | applyLinks now links => cases hown
  | traffic action =>
      unfold Simulation.step at hstep
      dsimp only at hstep
      split at hstep
      · cases hstep
      · obtain ⟨tasks, htasks, rfl⟩ := Option.map_eq_some_iff.mp hstep
        exact Or.inr ⟨action, rfl, htasks⟩

end Medium

/-! ## Files -/

namespace ResultsRoot

/-- What an operation of a persistence thread does to the files. -/
inductive Refiles (root : ResultsRoot) (generation : Nat) (terminal : TrafficRunResult) :
    ResultsRoot → Prop where
  | replaceResult (hthread : root.threads.get? generation = none) :
      Refiles root generation terminal { root with
        results := root.results.set terminal.runId terminal
        threads := root.threads.set generation .renamed }
  | replaceSummary (hthread : root.threads.get? generation = some .renamed) :
      Refiles root generation terminal { root with
        summaries := root.summaries.set terminal.runId (summarizeResult terminal)
        threads := root.threads.set generation .written }
  | unlinkResult
      (hthread : root.threads.get? generation = none ∨
        root.threads.get? generation = some .renamed) :
      Refiles root generation terminal { root with
        results := root.results.erase terminal.runId
        threads := root.threads.set generation .removing }
  | unlinkSummary (hthread : root.threads.get? generation ≠ some .written) :
      Refiles root generation terminal { root with
        summaries := root.summaries.erase terminal.runId
        threads := root.threads.set generation .removed }

theorem refiles_of_fileStep {root later : ResultsRoot} {generation : Nat}
    {terminal : TrafficRunResult} {fileStep : FileStep}
    (hstep : root.fileStep generation terminal fileStep = some later) :
    Refiles root generation terminal later := by
  cases fileStep <;> obtain ⟨hthread, hsome⟩ := Option.ite_none_right_eq_some.mp hstep <;>
    obtain rfl := Option.some.inj hsome
  · exact .replaceResult hthread
  · exact .replaceSummary hthread
  · exact .unlinkResult hthread
  · exact .unlinkSummary hthread.1

variable {root later : ResultsRoot} {generation : Nat} {terminal : TrafficRunResult}

/-- An export was there, or it is the one that the thread has. -/
theorem Refiles.get? (h : Refiles root generation terminal later) {runId : String}
    {result : TrafficRunResult} (hget : later.results.get? runId = some result) :
    root.results.get? runId = some result ∨ terminal = result ∧ terminal.runId = runId := by
  cases h with
  | replaceResult hthread =>
      rw [Dict.get?_set] at hget
      split at hget
      · next hid => exact Or.inr ⟨Option.some.inj hget, hid.symm⟩
      · exact Or.inl hget
  | unlinkResult hthread =>
      rw [Dict.get?_erase] at hget
      split at hget
      · cases hget
      · exact Or.inl hget
  | replaceSummary hthread => exact Or.inl hget
  | unlinkSummary hthread => exact Or.inl hget

/-- The files of other runs and the threads of other controllers are left alone. -/
theorem Refiles.others (h : Refiles root generation terminal later) :
    (∀ runId, runId ≠ terminal.runId → later.results.get? runId = root.results.get? runId ∧
      later.summaries.get? runId = root.summaries.get? runId) ∧
      ∀ other, other ≠ generation → later.threads.get? other = root.threads.get? other := by
  cases h with
  | replaceResult hthread =>
      exact ⟨fun runId hne => ⟨Dict.get?_set_of_ne _ hne _, rfl⟩,
        fun other hne => Dict.get?_set_of_ne _ hne _⟩
  | replaceSummary hthread =>
      exact ⟨fun runId hne => ⟨rfl, Dict.get?_set_of_ne _ hne _⟩,
        fun other hne => Dict.get?_set_of_ne _ hne _⟩
  | unlinkResult hthread =>
      refine ⟨fun runId hne => ⟨?_, rfl⟩, fun other hne => Dict.get?_set_of_ne _ hne _⟩
      exact (Dict.get?_erase _ _ _).trans (if_neg hne)
  | unlinkSummary hthread =>
      refine ⟨fun runId hne => ⟨rfl, ?_⟩, fun other hne => Dict.get?_set_of_ne _ hne _⟩
      exact (Dict.get?_erase _ _ _).trans (if_neg hne)

end ResultsRoot

/-! ## Custody -/

/-- What the service keeps of its runs: the controllers, the files and the threads that write
them, the archive and who holds the lifecycle lock, and what has happened so far. -/
structure Custody where
  retired : List TrafficTasks
  current : Option TrafficTasks
  results : Dict String TrafficRunResult
  summaries : Dict String TrafficRunSummary
  volatileResults : Dict String TrafficRunResult
  lateFinalizations : List Nat
  lock : LifecycleHolder
  threads : Dict Nat ThreadPc
  startedIds : List String
  ended : Dict String TrafficRunResult
  archived : List String
  unpersistedIds : List String

/-- The custody of a service. -/
def SimulatorService.custody (s : SimulatorService) : Custody where
  retired := s.retired
  current := s.simulation.map (·.tasks)
  results := s.results
  summaries := s.summaries
  volatileResults := s.volatileResults
  lateFinalizations := s.lateFinalizations
  lock := s.lifecycleLock
  threads := s.threads
  startedIds := s.startedRuns.map (·.runId)
  ended := s.ended
  archived := s.archived
  unpersistedIds := s.unpersisted

namespace Custody

/-- The tasks of all controllers, the current one last. -/
def controllers (k : Custody) : List TrafficTasks := k.retired ++ k.current.toList

/-- The controller of the current simulation and its tasks are these. -/
def withCurrent (k : Custody) (tasks : TrafficTasks) : Custody := { k with current := some tasks }

/-- A run has been started. -/
def register (k : Custody) (runId : String) : Custody :=
  { k with startedIds := k.startedIds ++ [runId] }

/-- A controller has gone on, and its result may have been frozen. -/
def follow (k : Custody) (before after : TrafficController) : Custody :=
  { k with
    ended :=
      match before.frozenResult, after.frozenResult with
      | none, some frozen => k.ended.set frozen.runId frozen
      | _, _ => k.ended }

/-- The frozen result of a controller, unless its export is there. -/
def unpersisted (k : Custody) (c : TrafficController) : Option TrafficRunResult :=
  c.frozenResult.filter fun frozen =>
    !k.results.contains frozen.runId && decide (frozen.finishedAt ≠ none)

/-- The result of a controller is archived if it is not in a file. -/
def archive (k : Custody) (c : TrafficController) : Custody :=
  match k.unpersisted c with
  | none => k
  | some result =>
      { k with
        volatileResults :=
          (k.volatileResults.set result.runId result).keepLast MAX_VOLATILE_RESULTS
        archived := k.archived ++ [result.runId] }

/-- The files. -/
def root (k : Custody) : ResultsRoot where
  results := k.results
  summaries := k.summaries
  threads := k.threads

/-- The files are these. -/
def withRoot (k : Custody) (root : ResultsRoot) : Custody :=
  { k with results := root.results, summaries := root.summaries, threads := root.threads }

/-- The persistence thread of a controller has ended, if that is what its input says. -/
def endThread (k : Custody) (generation : Nat) (tasks : TrafficTasks)
    (input : Option FinishInput) : Custody :=
  { k with
    threads := threadsAfter k.threads generation input
    unpersistedIds := unpersistedAfter k.unpersistedIds tasks input }

/-- A task that moves by itself or reports an event. -/
structure Own (a : TrafficTasks.Action) : Prop where
  starts : a.starts = false
  calls : ∀ m kind, a ≠ .call m kind

/-- The text of a UUID that names no run and no file. -/
structure Fresh (k : Custody) (runId : String) : Prop where
  text : UuidText runId
  unstarted : runId ∉ k.startedIds
  unexported : k.results.contains runId = false
  unsummarized : k.summaries.contains runId = false

/-- A holder of the lifecycle lock that neither awaits a `stop` nor is about to drop the
simulation. -/
def Idle (lock : LifecycleHolder) : Prop :=
  ∀ kind pc, lock = .tearingDown kind pc → pc ≠ .closing ∧ ∀ i, pc ≠ .stopping i

/-- What can happen to the runs of the service. -/
inductive Step (pb : Protobuf) (k : Custody) : Custody → Prop where
  | locked (lock : LifecycleHolder) (hidle : Idle lock ∨ k.current = none) :
      Step pb k { k with lock := lock }
  | created (scenario : Scenario) (hardwareIds : Dict String Nat) (buildMetadata : BuildMetadata)
      (settleSeconds : Option ℚ) (failedReceptionSampler : Bool) (hnone : k.current = none)
      (hlock : k.lock = .starting) :
      Step pb k { k with
        current := some (.new scenario hardwareIds buildMetadata settleSeconds
          failedReceptionSampler) }
  | noted (tasks later : TrafficTasks) (hcurrent : k.current = some tasks)
      (hnoted : Noted tasks later) : Step pb k (k.withCurrent later)
  | acted (tasks later : TrafficTasks) (a : TrafficTasks.Action) (hcurrent : k.current = some tasks)
      (hown : Own a) (hagrees : ThreadAgrees k.threads k.retired.length a.finishInput)
      (hstep : tasks.step pb a = some later) :
      Step pb k (((k.withCurrent later).follow tasks.controller later.controller).endThread
        k.retired.length tasks a.finishInput)
  | outlived (generation : Nat) (tasks later : TrafficTasks) (a : TrafficTasks.Action)
      (hget : k.retired[generation]? = some tasks) (hown : Own a)
      (hagrees : ThreadAgrees k.threads generation a.finishInput)
      (hstep : tasks.step pb a = some later) :
      Step pb k (({ k with retired := k.retired.set generation later }.follow tasks.controller
        later.controller).endThread generation tasks a.finishInput)
  | called (tasks : TrafficTasks) (m : Moment) (kind : CallerKind) (lock : LifecycleHolder)
      (hcurrent : k.current = some tasks) (hover : AllOver tasks)
      (hlock : lock = k.lock ∨ Idle lock ∨
        (kind = .stop ∧ ∃ other, lock = .tearingDown other (.stopping tasks.callers.length))) :
      Step pb k { k with current := some (calling tasks m kind), lock := lock }
  | begun (tasks : TrafficTasks) (c : TrafficController) (m : Moment) (runId : String)
      (request : TrafficRunRequest) (scenario : Scenario) (baseline : FailedReceptionSample)
      (hcurrent : k.current = some tasks) (hover : AllOver tasks) (hfresh : k.Fresh runId)
      (hidle : Idle k.lock)
      (hstart : tasks.controller.start m runId (tasks.runTask ≠ .done) request (some scenario)
        (some baseline) = (c, .ok runId)) :
      Step pb k (((k.archive tasks.controller).withCurrent
        { controller := c, runTask := .scheduled }).register runId)
  | rejected (tasks : TrafficTasks) (c : TrafficController) (m : Moment) (runId : String)
      (request : TrafficRunRequest) (scenario : Scenario) (baseline : FailedReceptionSample)
      (error : TrafficError) (hcurrent : k.current = some tasks) (hover : AllOver tasks)
      (hidle : Idle k.lock)
      (hstart : tasks.controller.start m runId (tasks.runTask ≠ .done) request (some scenario)
        (some baseline) = (c, .error error)) :
      Step pb k ((k.archive tasks.controller).withCurrent (tasks.withController c))
  | stopped (kind : TeardownKind) (i : Nat) (tasks : TrafficTasks) (caller : Caller)
      (hlock : k.lock = .tearingDown kind (.stopping i)) (hcurrent : k.current = some tasks)
      (hget : tasks.callers[i]? = some caller) (hreturned : caller.pc = .returned true) :
      Step pb k { k.archive tasks.controller with lock := .tearingDown kind .closing }
  | outlasted (kind : TeardownKind) (i : Nat) (tasks : TrafficTasks) (caller : Caller)
      (hlock : k.lock = .tearingDown kind (.stopping i)) (hcurrent : k.current = some tasks)
      (hget : tasks.callers[i]? = some caller) (hreturned : caller.pc = .returned false) :
      Step pb k { k with
        lateFinalizations := k.lateFinalizations ++ [k.retired.length]
        lock := .tearingDown kind .closing }
  | dropped (kind : TeardownKind) (tasks : TrafficTasks) (lock : LifecycleHolder)
      (hlock : k.lock = .tearingDown kind .closing) (hcurrent : k.current = some tasks)
      (hidle : Idle lock) :
      Step pb k { k with current := none, retired := k.retired ++ [tasks], lock := lock }
  | filed (generation : Nat) (tasks : TrafficTasks) (terminal : TrafficRunResult)
      (root : ResultsRoot) (hget : k.controllers[generation]? = some tasks)
      (hterminal : terminal ∈ persisting tasks)
      (hrefiles : k.root.Refiles generation terminal root) : Step pb k (k.withRoot root)
  | settled (generation : Nat) (tasks : TrafficTasks)
      (hget : k.controllers[generation]? = some tasks) (hlate : generation ∈ k.lateFinalizations)
      (hdone : tasks.controller.finalizationDone = true) :
      Step pb k ({ k with
        lateFinalizations := k.lateFinalizations.erase generation }.archive tasks.controller)

end Custody

namespace SimulatorService

variable {s t : SimulatorService} {tasks later : TrafficTasks}

/-! ## What the service does to its custody -/

/-- A run is started under a UUID that is no file yet. -/
def Draws (s : SimulatorService) : Action → Prop
  | .sampledTraffic _ runId _ => UuidText runId ∧ s.results.contains runId = false ∧
      s.summaries.contains runId = false
  | _ => True

instance (s : SimulatorService) (a : Action) : Decidable (s.Draws a) := by
  unfold Draws
  split <;> infer_instance

theorem unpersisted_custody (s : SimulatorService) (c : TrafficController) :
    s.unpersistedResult c = s.custody.unpersisted c := by
  cases hfrozen : c.frozenResults with
  | nil =>
      have hnone : c.frozenResult = none := by
        unfold TrafficController.frozenResult
        rw [hfrozen]
        rfl
      unfold unpersistedResult Custody.unpersisted resultIsFinalized
      rw [hnone]
      cases c.current <;> rfl
  | cons frozen older =>
      have hhead : c.frozenResult = some frozen := by
        unfold TrafficController.frozenResult
        rw [hfrozen]
        rfl
      have hcurrent : c.current = some frozen := by
        unfold TrafficController.current
        rw [hfrozen]
      have hfinalized : resultIsFinalized c frozen.runId = true := by
        unfold resultIsFinalized
        rw [hhead]
        exact decide_eq_true rfl
      have hresult : c.result = some frozen := hcurrent
      unfold unpersistedResult Custody.unpersisted
      rw [hcurrent, hhead, hresult]
      dsimp only
      rw [if_neg (not_not.mpr hfinalized), Option.filter_some, Option.filter_some]
      change _ = if (!s.results.contains frozen.runId && _) = true then _ else _
      cases s.results.contains frozen.runId <;> simp

theorem custody_archive (s : SimulatorService) (c : TrafficController) :
    (s.archiveUnpersistedTrafficResult c).custody = s.custody.archive c := by
  unfold archiveUnpersistedTrafficResult Custody.archive
  rw [unpersisted_custody]
  cases s.custody.unpersisted c <;> rfl

theorem custody_adopt (s : SimulatorService) (before after : Simulation) :
    (s.adopt before after).custody = (s.custody.withCurrent after.tasks).follow
      before.tasks.controller after.tasks.controller := rfl

theorem custody_current {simulation : Simulation} (hsimulation : s.simulation = some simulation) :
    s.custody.current = some simulation.tasks := by
  unfold custody
  rw [hsimulation]
  rfl

/-- Nothing is frozen where there was nothing to see. -/
theorem follow_of_same {k : Custody} {before after : TrafficController}
    (h : before.frozenResult = none → after.frozenResult = none) : k.follow before after = k := by
  unfold Custody.follow
  split
  · next hbefore hafter =>
      rw [h hbefore] at hafter
      cases hafter
  · rfl

theorem frozenResult_of_neutral {strict : Prop} (hneutral : Neutral strict tasks later)
    (hnone : tasks.controller.frozenResult = none) : later.controller.frozenResult = none := by
  have hempty := List.head?_eq_none_iff.mp hnone
  have hlength := hneutral.frozen
  rw [hempty] at hlength
  exact List.head?_eq_none_iff.mpr (List.length_eq_zero_iff.mp hlength)

theorem custody_noted (pb : Protobuf) {before after : Simulation}
    (hsimulation : s.simulation = some before)
    (hnoted : Noted before.tasks after.tasks) :
    Custody.Step pb s.custody (s.adopt before after).custody := by
  rw [custody_adopt, follow_of_same (frozenResult_of_neutral hnoted.neutral)]
  exact .noted before.tasks after.tasks (custody_current hsimulation) hnoted

/-- The custody is left alone, or one thing happens to it. -/
def Follows (pb : Protobuf) (s t : SimulatorService) : Prop :=
  t.custody = s.custody ∨ Custody.Step pb s.custody t.custody

variable {pb : Protobuf}

theorem idle_of_pc {kind : TeardownKind} {pc : TeardownPc} (hclosing : pc ≠ .closing)
    (hstopping : ∀ i, pc ≠ .stopping i) : Custody.Idle (.tearingDown kind pc) := by
  rintro other place hlock
  cases hlock
  exact ⟨hclosing, hstopping⟩

theorem idle_of_quiet {lock : LifecycleHolder} (hquiet : Quiet lock) : Custody.Idle lock := by
  rcases hquiet with rfl | ⟨reason, rfl⟩
  · nofun
  · exact idle_of_pc nofun nofun

theorem follows_beginStart (s : SimulatorService) (m : Moment) (capabilities : Capabilities) :
    Follows pb s (s.beginStart m capabilities).1 := by
  unfold SimulatorService.beginStart
  dsimp only
  split
  · exact Or.inr (.locked .free (Or.inl nofun))
  · split
    · exact Or.inr (.locked .free (Or.inl nofun))
    · exact Or.inr (.locked .starting (Or.inl nofun))

theorem follows_start (s : SimulatorService) (m : Moment) (capabilities : Capabilities) :
    Follows pb s (s.start m capabilities).1 := by
  unfold SimulatorService.start
  split
  · exact Or.inl rfl
  · exact Or.inl rfl
  · exact follows_beginStart s m capabilities
  · exact Or.inr (.locked (.tearingDown .restart .cleaning) (Or.inl (idle_of_pc nofun nofun)))
  · exact Or.inl rfl
  · exact Or.inl rfl

theorem follows_createSimulation (hstaged : Staged s) (hlock : s.lifecycleLock = .starting)
    (hstate : s.state = .starting) (m : Moment) (hardwareIds : Dict String Nat)
    (rfFrames : String → List MeshPacket) :
    Follows pb s (s.createSimulation m hardwareIds rfFrames) := by
  have hnone : s.simulation = none := by
    have hfits := hstaged.fits
    rw [hlock, hstate] at hfits
    cases hlinks : s.links with
    | none => exact Option.map_eq_none_iff.mp hlinks
    | some links =>
        rw [hlinks] at hfits
        cases hfits
  refine Or.inr (.created s.scenario hardwareIds s.buildMetadata none true ?_ hlock)
  unfold custody
  rw [hnone]
  rfl

theorem follows_scheduleRuntimeFailure (s : SimulatorService) (m : Moment)
    (category detail : String) : Follows pb s (s.scheduleRuntimeFailure m category detail) := by
  unfold SimulatorService.scheduleRuntimeFailure
  split <;> exact Or.inl rfl

theorem follows_stop (s : SimulatorService) (m : Moment) : Follows pb s (s.stop m) := by
  unfold SimulatorService.stop
  split
  · exact Or.inl rfl
  · exact Or.inr (.locked (.tearingDown .stop .locking) (Or.inl (idle_of_pc nofun nofun)))

/-! ### Calls -/

theorem frozenResult_calling (hsound : Sound tasks) (m : Moment) (kind : CallerKind)
    (hnone : tasks.controller.frozenResult = none) :
    (calling tasks m kind).controller.frozenResult = none := by
  have hmove : TrafficTasks.CallMove False tasks (tasks.enterCall m kind) :=
    TrafficTasks.callMove_enterCall hsound.structured m kind
  change (tasks.enterCall m kind).1.controller.frozenResult = none
  generalize tasks.enterCall m kind = entry at hmove ⊢
  cases hmove with
  | idle t pc hneutral hphase hidle hwoken hfits => exact frozenResult_of_neutral hneutral hnone
  | cancels t runFailed hneutral hphase hdone =>
      have hkept := frozenResult_of_neutral hneutral hnone
      exact hkept
  | begin t target m hneutral hphase hover hopen hdone =>
      obtain ⟨_, hframe⟩ : TrafficController.Advance False _ _ ∧ _ :=
        TrafficController.advance_beginFinalization hneutral.advance.controlled m
      have hlength : (t.controller.beginFinalization m).frozenResults.length =
          t.controller.frozenResults.length := congrArg Frame.frozen hframe
      rw [hopen] at hlength
      exact List.head?_eq_none_iff.mpr (List.length_eq_zero_iff.mp hlength)

/-- A command calls `stop` or `fail` of the current controller. -/
theorem follows_call {simulation : Simulation} (htended : Tended s)
    (hsimulation : s.simulation = some simulation) (hover : AllOver simulation.tasks) (m : Moment)
    (kind : CallerKind) (lock : LifecycleHolder)
    (hlock : lock = s.lifecycleLock ∨ Custody.Idle lock ∨ (kind = .stop ∧
      ∃ other, lock = .tearingDown other (.stopping simulation.tasks.callers.length)))
    (hcustody : t.custody = ({ s.custody with
      current := some (calling simulation.tasks m kind), lock := lock }.follow
        simulation.tasks.controller (calling simulation.tasks m kind).controller)) :
    Follows pb s t := by
  have hsound := (htended.current simulation hsimulation).sound
  rw [Follows, hcustody, follow_of_same (frozenResult_calling hsound m kind)]
  exact Or.inr (.called simulation.tasks m kind lock (custody_current hsimulation) hover hlock)

theorem follows_stopTraffic (htended : Tended s) (hfree : s.topologyLock = .free)
    (hrestarts : s.lifecycleLock.restarts = false) (m : Moment) :
    Follows pb s (s.stopTraffic m) := by
  unfold SimulatorService.stopTraffic
  split
  · exact Or.inl rfl
  · next simulation hsimulation =>
      have hover := htended.over_of_free hsimulation hfree hrestarts
      dsimp only
      split <;>
        exact follows_call htended hsimulation hover m .stop s.lifecycleLock (Or.inl rfl) rfl

theorem follows_lockedTeardown (htended : Tended s) {kind : TeardownKind}
    (hlock : s.lifecycleLock = .tearingDown kind .locking) (hfree : s.topologyLock = .free)
    (m : Moment) : Follows pb s (s.lockedTeardown m kind) := by
  unfold SimulatorService.lockedTeardown
  dsimp only
  split
  · next reason simulation hsimulation =>
      have hover := htended.over_of_locking hsimulation hlock hfree
      exact follows_call htended hsimulation hover m (.fail reason) (.tearingDown _ (.failing _))
        (Or.inr (Or.inl (idle_of_pc nofun nofun))) rfl
  · exact Or.inr (.locked (.tearingDown _ .cleaning) (Or.inl (idle_of_pc nofun nofun)))

theorem follows_enterCleanup (htended : Tended s) (hparted : Parted s) {kind : TeardownKind}
    (hlock : s.lifecycleLock = .tearingDown kind .cleaning) (m : Moment) :
    Follows pb s (s.enterCleanup m kind) := by
  unfold SimulatorService.enterCleanup
  split
  · next hnone =>
      refine Or.inr (.locked (.tearingDown kind .closing) (Or.inr ?_))
      unfold custody
      rw [hnone]
      rfl
  · next simulation hsimulation =>
      have hover := htended.over_of_cleaning hparted hsimulation hlock
      exact follows_call htended hsimulation hover m .stop (.tearingDown kind (.stopping _))
        (Or.inr (Or.inr ⟨rfl, kind, rfl⟩)) rfl

theorem follows_stoppedTraffic (htended : Tended s) {kind : TeardownKind} {caller : Nat}
    {finalized : Bool} (hlock : s.lifecycleLock = .tearingDown kind (.stopping caller))
    (hover : s.outcome caller = some (.returned finalized)) :
    Follows pb s (s.stoppedTraffic kind finalized) := by
  obtain ⟨simulation, call, hsimulation, hget, hpc, -⟩ := htended.outcome hover
  have hcurrent := custody_current hsimulation
  unfold SimulatorService.stoppedTraffic
  split
  · next hnone =>
      rw [hsimulation] at hnone
      cases hnone
  · next other hother =>
      rw [hsimulation] at hother
      cases hother
      split
      · next hfinalized =>
          subst hfinalized
          have hstep : Custody.Step pb s.custody _ := .stopped kind caller simulation.tasks call
            hlock hcurrent hget hpc
          rw [← custody_archive] at hstep
          exact Or.inr hstep
      · next hfinalized =>
          rw [Bool.not_eq_true] at hfinalized
          subst hfinalized
          exact Or.inr (.outlasted kind caller simulation.tasks call hlock hcurrent hget hpc)

theorem follows_finishTeardown {kind : TeardownKind}
    (hlock : s.lifecycleLock = .tearingDown kind .closing) (m : Moment)
    (capabilities : Capabilities) : Follows pb s (s.finishTeardown m capabilities kind) := by
  have hdropped : ∀ lock, Custody.Idle lock → ∀ u : SimulatorService, u.custody =
      { s.custody with current := none, retired := s.controllers, lock := lock } →
        Follows pb s u := by
    intro lock hidle u hcustody
    rw [Follows, hcustody]
    cases hsimulation : s.simulation with
    | none =>
        have hnone : s.custody.current = none := by
          unfold custody
          rw [hsimulation]
          rfl
        have hstep : Custody.Step pb s.custody { s.custody with lock := lock } :=
          .locked lock (Or.inl hidle)
        have hsame : s.controllers = s.custody.retired := by
          unfold SimulatorService.controllers
          rw [hsimulation]
          exact List.append_nil _
        rw [hsame]
        rw [← hnone]
        exact Or.inr hstep
    | some simulation =>
        have hcontrollers : s.controllers = s.custody.retired ++ [simulation.tasks] := by
          unfold SimulatorService.controllers
          rw [hsimulation]
          rfl
        rw [hcontrollers]
        exact Or.inr (.dropped kind simulation.tasks lock hlock (custody_current hsimulation) hidle)
  cases kind with
  | stop => exact hdropped .free nofun _ rfl
  | failure reason => exact hdropped .free nofun _ rfl
  | startup => exact hdropped .free nofun _ rfl
  | restart =>
      unfold SimulatorService.finishTeardown SimulatorService.beginStart
      dsimp only
      split
      · exact hdropped .free nofun _ rfl
      · split
        · exact hdropped .free nofun _ rfl
        · exact hdropped .starting nofun _ rfl

theorem follows_teardown (htended : Tended s) (hparted : Parted s) {kind : TeardownKind}
    {pc : TeardownPc} (hlock : s.lifecycleLock = .tearingDown kind pc) {m : Moment}
    {capabilities : Capabilities}
    (hstep : s.teardown m capabilities kind pc = some t) : Follows pb s t := by
  cases pc with
  | locking =>
      obtain ⟨hfree, rfl⟩ := guarded_eq_some.mp hstep
      exact follows_lockedTeardown htended hlock hfree m
  | failing caller =>
      obtain ⟨pc, hover, rfl⟩ := Option.map_eq_some_iff.mp hstep
      obtain ⟨_, _, _, _, _, value, rfl⟩ := htended.outcome hover
      exact Or.inr (.locked (.tearingDown kind .cleaning) (Or.inl (idle_of_pc nofun nofun)))
  | cleaning =>
      cases hstep
      exact follows_enterCleanup htended hparted hlock m
  | stopping caller =>
      obtain ⟨pc, hover, rfl⟩ := Option.map_eq_some_iff.mp hstep
      obtain ⟨_, _, _, _, _, value, rfl⟩ := htended.outcome hover
      exact follows_stoppedTraffic htended hlock hover
  | closing =>
      cases hstep
      exact follows_finishTeardown hlock m capabilities

/-! ### Traffic and topology -/

theorem follows_applyRuntimeScenario (pb : Protobuf) (htended : Tended s) (now : ℚ)
    (updated : Scenario) :
    Follows pb s (s.applyRuntimeScenario now updated).1 := by
  unfold SimulatorService.applyRuntimeScenario
  split
  · exact Or.inl rfl
  · next simulation hsimulation =>
      split
      · exact Or.inl rfl
      · split
        · exact Or.inl rfl
        · split
          · exact Or.inl rfl
          · next medium applied happly =>
              have hminded := htended.current simulation hsimulation
              have hpublished := noted_publishAll hminded.stopping hminded.sound
                (applied.map fun link => DirectedMedium.linkUpdateEvent link now)
              exact Or.inr (.noted simulation.tasks _ (custody_current hsimulation)
                (hpublished.trans (noted_recordTopologyChanges pb hpublished.onward.stopping
                  hpublished.onward.sound _ _)))

theorem follows_updateLinks (htended : Tended s) (now : ℚ) (updates : List DirectedLink) :
    Follows pb s (s.updateLinks now updates).1 := by
  unfold SimulatorService.updateLinks
  dsimp only
  split
  · exact Or.inl rfl
  · split
    · exact Or.inl rfl
    · split
      · exact Or.inl rfl
      · split
        · exact Or.inl rfl
        · have happlied := follows_applyRuntimeScenario pb htended now
            { s.scenario with links := s.updatedLinks updates }
          unfold updatedLinks at happlied
          split <;> next hresult => rw [hresult] at happlied; exact happlied

theorem follows_applyTopology (htended : Tended s) (now : ℚ) (preset : TopologyPreset) :
    Follows pb s (s.applyTopology now preset).1 := by
  unfold SimulatorService.applyTopology
  split
  · exact Or.inl rfl
  · next updated _ =>
      split
      · exact Or.inl rfl
      · split
        · exact Or.inl rfl
        · have happlied := follows_applyRuntimeScenario pb htended now updated
          split <;> next hresult => rw [hresult] at happlied; exact happlied

theorem custody_starting (s : SimulatorService) (started : StartedRun) :
    ({ s with startedRuns := s.startedRuns ++ [started] } : SimulatorService).custody =
      s.custody.register started.runId := by
  unfold custody
  rw [List.map_append]
  rfl

/-- The controller starts a run once the result of the last one is archived. -/
theorem follows_beginRun {simulation : Simulation} (hsimulation : s.simulation = some simulation)
    (hidle : Custody.Idle s.lifecycleLock) (hover : AllOver simulation.tasks) (m : Moment)
    {runId : String} (hfresh : s.custody.Fresh runId) (request : TrafficRunRequest)
    (baseline : FailedReceptionSample) :
    Follows pb s ((s.archiveUnpersistedTrafficResult simulation.controller).beginRun m runId request
      simulation baseline).1 := by
  have hcurrent := custody_current hsimulation
  have hscenario : (s.archiveUnpersistedTrafficResult simulation.controller).scenario =
      s.scenario := (still_archive s simulation.controller).scenario
  have hadopted : ∀ tasks : TrafficTasks,
      (simulation.tasks.controller.frozenResult = none → tasks.controller.frozenResult = none) →
        ((s.archiveUnpersistedTrafficResult simulation.controller).adoptTasks simulation
          tasks).custody =
            (s.custody.archive simulation.tasks.controller).withCurrent tasks := by
    intro tasks hfrozen
    refine (custody_adopt _ simulation { simulation with tasks := tasks }).trans ?_
    rw [follow_of_same hfrozen, custody_archive]
    rfl
  unfold SimulatorService.beginRun TrafficTasks.started
  dsimp only
  rw [hscenario]
  cases hstart : simulation.tasks.controller.start m runId (simulation.tasks.runTask ≠ .done)
      request (some s.scenario) (some baseline) with
  | mk c outcome =>
  rcases TrafficController.start_outcomes hstart with
    ⟨error, ids, rfl, hc⟩ | ⟨rfl, _, ids, accumulators, run, _, _, hc⟩
  · have hfrozen : simulation.tasks.controller.frozenResult = none → c.frozenResult = none := by
      rw [hc]
      exact id
    refine Or.inr ?_
    dsimp only
    rw [hadopted (simulation.tasks.withController c) hfrozen]
    exact .rejected simulation.tasks c m runId request s.scenario baseline error hcurrent hover
      hidle hstart
  · have hfrozen : simulation.tasks.controller.frozenResult = none → c.frozenResult = none :=
      fun _ => by rw [hc]; rfl
    have hcustody := hadopted { controller := c, runTask := .scheduled } hfrozen
    have hstep : Custody.Step pb s.custody _ := .begun simulation.tasks c m runId request
      s.scenario baseline hcurrent hover hfresh hidle hstart
    rw [← hcustody] at hstep
    have hstarted := custody_starting
      ((s.archiveUnpersistedTrafficResult simulation.controller).adoptTasks simulation
        { controller := c, runTask := .scheduled }) { runId := runId, streamId := m.streamId }
    exact Or.inr (hstarted ▸ hstep)

theorem follows_sampledTraffic (hstaged : Staged s) (htended : Tended s) (m : Moment)
    {runId : String} (request : TrafficRunRequest) {generation : Nat}
    (hlock : s.topologyLock = .sampling request generation)
    (answer : Except String FailedReceptionSample) (hfresh : s.custody.Fresh runId) :
    Follows pb s (s.sampledTraffic m runId request generation answer).1 := by
  unfold SimulatorService.sampledTraffic
  dsimp only
  split
  · exact Or.inl rfl
  · next baseline simulation hsimulation =>
      split
      · exact Or.inl rfl
      · next hguard =>
          have hquiet := htended.quiet hstaged (not_not.mp (not_or.mp hguard).1) hlock
          have hover := (htended.current simulation hsimulation).isOver_of_quiet hquiet
            (by rw [hlock]; rfl)
          exact follows_beginRun (s := { s with topologyLock := .free }) hsimulation
            (idle_of_quiet hquiet) hover m hfresh request baseline
  · exact Or.inl rfl

/-! ### Controllers and files -/

theorem own_of_ofTasks {a : TrafficTasks.Action} (hown : ofTasks a = true) : Custody.Own a := by
  constructor
  · cases a <;> first | rfl | cases hown
  · rintro m kind rfl
    cases hown

theorem follows_stepSimulation (htended : Tended s) {a : Simulation.Action}
    (hstep : s.stepSimulation pb a = some t) : Follows pb s t := by
  unfold SimulatorService.stepSimulation at hstep
  split at hstep
  · cases hstep
  · next simulation hsimulation =>
      split at hstep
      · next hguard =>
          obtain ⟨after, hafter, rfl⟩ := Option.map_eq_some_iff.mp hstep
          have hminded := htended.current simulation hsimulation
          have hcurrent := custody_current hsimulation
          rcases Simulation.tasks_step hminded.stopping hminded.sound hguard.1 hafter with
            ⟨hmedium, hnoted⟩ | ⟨action, rfl, htasks⟩
          · have hstep := custody_noted pb hsimulation hnoted
            unfold simulationInput
            rw [hmedium]
            exact Or.inr hstep
          · have hown : Custody.Own action := by
              constructor
              · cases action <;> first | rfl | cases hguard.1
              · rintro m kind rfl
                cases hguard.1
            exact Or.inr (.acted simulation.tasks after.tasks action hcurrent hown hguard.2 htasks)
      · cases hstep

theorem follows_stepRetired {generation : Nat} {a : TrafficTasks.Action}
    (hstep : s.stepRetired pb generation a = some t) : Follows pb s t := by
  unfold SimulatorService.stepRetired at hstep
  split at hstep
  · cases hstep
  · next tasks htasks =>
      split at hstep
      · next hguard =>
          obtain ⟨after, hafter, rfl⟩ := Option.map_eq_some_iff.mp hstep
          exact Or.inr (.outlived generation tasks after a htasks (own_of_ofTasks hguard.1)
            hguard.2 hafter)
      · cases hstep

theorem controllers_custody (s : SimulatorService) : s.custody.controllers = s.controllers := by
  unfold Custody.controllers SimulatorService.controllers
  rfl

/-- Nothing else happens to the custody of the service. -/
theorem custody_step (pb : Protobuf) (hstaged : Staged s) (htended : Tended s)
    (hparted : Parted s) {a : Action} (hdraws : s.Draws a) (hapart : s.Apart a)
    (hstep : s.step pb a = some t) : Follows pb s t := by
  cases (stepped hstep).1 with
  | start m capabilities hfree => exact follows_start s m capabilities
  | createSimulation m hardwareIds rfFrames hlock hstate =>
      exact follows_createSimulation hstaged hlock hstate m hardwareIds rfFrames
  | finishStart m observed hlock hstate => exact Or.inr (.locked .free (Or.inl nofun))
  | startupRaised m exception hlock =>
      exact Or.inr (.locked (.tearingDown .startup .cleaning) (Or.inl (idle_of_pc nofun nofun)))
  | runtimeFailure m category detail => exact follows_scheduleRuntimeFailure s m category detail
  | cleanUpFailure reason hfree hpending =>
      exact Or.inr (.locked (.tearingDown _ .locking) (Or.inl (idle_of_pc nofun nofun)))
  | stop m hfree => exact follows_stop s m
  | teardown m capabilities kind pc _ hlock hteardown =>
      exact follows_teardown htended hparted hlock hteardown
  | reset m streamId hfree hnew =>
      unfold SimulatorService.reset
      split <;> exact Or.inl rfl
  | replaceScenario scenario =>
      unfold SimulatorService.replaceScenario
      split <;> exact Or.inl rfl
  | updateLinks now updates hfree => exact follows_updateLinks htended now updates
  | applyTopology now preset hfree => exact follows_applyTopology htended now preset
  | startTraffic request hfree =>
      unfold SimulatorService.startTraffic
      split
      · exact Or.inl rfl
      · split
        · exact Or.inl rfl
        · split <;> exact Or.inl rfl
  | sampledTraffic m runId answer request generation hlock hnew =>
      exact follows_sampledTraffic hstaged htended m request hlock answer
        ⟨hdraws.1, hnew, hdraws.2.1, hdraws.2.2⟩
  | stopTraffic m hfree => exact follows_stopTraffic htended hfree hapart m
  | trafficStopped generation caller tasks pc hlock htasks hover => exact Or.inl rfl
  | simulation a _ hsimulation => exact follows_stepSimulation htended hsimulation
  | retired generation a _ hretired => exact follows_stepRetired hretired
  | file generation fileStep tasks terminal _ htasks hterminal hfile =>
      obtain ⟨root, hroot, rfl⟩ := Option.map_eq_some_iff.mp hfile
      exact Or.inr (.filed generation tasks terminal root ((controllers_custody s).symm ▸ htasks)
        hterminal (ResultsRoot.refiles_of_fileStep hroot))
  | settleLate generation tasks htasks hlate hdone =>
      have hstep : Custody.Step pb s.custody _ := .settled generation tasks
        ((controllers_custody s).symm ▸ htasks) hlate hdone
      refine Or.inr ?_
      unfold SimulatorService.settleLate
      rw [custody_archive]
      exact hstep

end SimulatorService

end MeshtasticLab.Simulator

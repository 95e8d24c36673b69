/-
  Simulator/Reached.lean --- the states that services come to.

  WHAT THIS FILE IS FOR

  A service may be created on the files that an earlier one has left.  `Reached` are the
  states that services come to by steps that meet a condition, and `Upheld` is what holds
  in all of them when the ids of the runs are new UUIDs and a restart and `stop_traffic`
  do not call the controller at the same time.
-/
import MeshtasticLab.Simulator.Streams
import MeshtasticLab.Simulator.Threads

set_option autoImplicit false

namespace MeshtasticLab.Simulator

open MeshtasticLab.Foundation MeshtasticLab.Gateway MeshtasticLab.Metrics MeshtasticLab.Models
open MeshtasticLab.Traffic
open MeshtasticLab.Traffic.TrafficController (Controlled)
open MeshtasticLab.Traffic.TrafficTasks (pairProtobuf pairMoment)

namespace SimulatorService

variable {s t : SimulatorService} {pb : Protobuf}
variable {meets : SimulatorService → SimulatorService.Action → Prop}

/-! ## Reachable states -/

/-- A new service on the files that an earlier one has left. -/
def reopened (s : SimulatorService) (broker : EventBroker) (buildMetadata : BuildMetadata) :
    SimulatorService :=
  { SimulatorService.new broker buildMetadata with results := s.results, summaries := s.summaries }

/-- The states that services come to, one after the other on the same files, by steps that meet
a condition. -/
inductive Reached (pb : Protobuf) (meets : SimulatorService → SimulatorService.Action → Prop) :
    SimulatorService → Prop where
  | new (broker : EventBroker) (buildMetadata : BuildMetadata) :
      Reached pb meets (.new broker buildMetadata)
  | reopened {s : SimulatorService} (broker : EventBroker) (buildMetadata : BuildMetadata)
      (hreached : Reached pb meets s) : Reached pb meets (s.reopened broker buildMetadata)
  | step {s t : SimulatorService} {a : Action} (hreached : Reached pb meets s)
      (hmeets : meets s a) (hstep : s.step pb a = some t) : Reached pb meets t

theorem Reached.run (hreached : Reached pb meets s)
    (hrun : Run (SimulatorService.step pb) meets s t) : Reached pb meets t :=
  hrun.invariant (fun _ _ _ h hmeets hstep => h.step hmeets hstep) hreached

/-- A run is started under a UUID that is no file yet, and a restart and `stop_traffic` do not
call the controller at the same time. -/
def DrawsApart (s : SimulatorService) (a : Action) : Prop := s.Draws a ∧ s.Apart a

instance (s : SimulatorService) (a : Action) : Decidable (s.DrawsApart a) :=
  inferInstanceAs (Decidable (_ ∧ _))

/-- Whatever the steps meet, the locks and the calls of `stop` are as they should be. -/
theorem Reached.tended (hreached : Reached pb meets s) : Staged s ∧ Tended s := by
  induction hreached with
  | new broker buildMetadata =>
      exact ⟨staged_new broker buildMetadata, tended_new broker buildMetadata⟩
  | reopened broker buildMetadata _ ih =>
      have hstaged := staged_new broker buildMetadata
      exact ⟨⟨hstaged.fits, hstaged.mapped, hstaged.complete, hstaged.nodes⟩,
        (tended_new broker buildMetadata).kept rfl rfl id rfl rfl⟩
  | step hreached hmeets hstep ih =>
      exact ⟨ih.1.step pb hstep, ih.2.step pb ih.1 hstep⟩

/-- Files that an earlier service has left. -/
theorem kept_files {k : Custody} (hcontrollers : k.controllers = [])
    (hfiled : ∀ runId result, k.results.get? runId = some result →
      UuidText runId ∧ result.runId = runId ∧ result.finishedAt ≠ none)
    (hstarted : k.startedIds = []) (harchived : k.volatileResults = ∅) (hended : k.ended = ∅) :
    k.Kept := by
  have hnone : ∀ tasks, tasks ∉ k.controllers := fun tasks hmember => by
    rw [hcontrollers] at hmember
    cases hmember
  have hunarchived : ∀ runId result, k.volatileResults.get? runId ≠ some result := by
    rw [harchived]
    intro runId result hget
    cases hget
  have hunended : ∀ runId result, k.ended.get? runId ≠ some result := by
    rw [hended]
    intro runId result hget
    cases hget
  refine ⟨fun tasks hmember => absurd hmember (hnone tasks), ?_,
    fun tasks hmember => absurd hmember (hnone tasks),
    fun tasks hmember => absurd hmember (hnone tasks), ?_, hfiled,
    fun runId result hget => absurd hget (hunarchived runId result),
    fun runId result hget => absurd hget (hunended runId result),
    fun runId result final _ hfinal => absurd hfinal (hunended runId final),
    fun runId result hget => absurd hget (hunarchived runId result)⟩
  · intro i j tasks other runId hget
    exact absurd (List.mem_of_getElem? hget) (hnone tasks)
  · intro runId hmember
    rw [hstarted] at hmember
    cases hmember

theorem threaded_files {k : Custody} (hcontrollers : k.controllers = [])
    (hsummarized : ∀ runId, k.summaries.contains runId = true → k.results.contains runId = true)
    (hthreads : k.threads = ∅) : k.Threaded := by
  refine ⟨?_, hsummarized, ?_⟩
  · intro generation hthread
    rw [hthreads] at hthread
    exact absurd rfl hthread
  · intro generation tasks runId hget
    rw [hcontrollers] at hget
    cases hget

/-- What holds of a service whose restarts and `stop_traffic` are apart. -/
structure Upheld (s : SimulatorService) : Prop where
  staged : Staged s
  tended : Tended s
  parted : Parted s
  kept : s.custody.Kept
  threaded : s.custody.Threaded

theorem Upheld.step (h : Upheld s) {a : Action} (hmeets : s.DrawsApart a)
    (hstep : s.step pb a = some t) : Upheld t := by
  refine ⟨h.staged.step pb hstep, h.tended.step pb h.staged hstep, h.parted.step hmeets.2 hstep, ?_,
    ?_⟩ <;>
  rcases custody_step pb h.staged h.tended h.parted hmeets.1 hmeets.2 hstep with hsame | hcustody
  · exact hsame ▸ h.kept
  · exact h.kept.step hcustody
  · exact hsame ▸ h.threaded
  · exact h.threaded.step h.kept hcustody

theorem Reached.upheld (hreached : Reached pb DrawsApart s) : Upheld s := by
  induction hreached with
  | new broker buildMetadata =>
      exact ⟨staged_new broker buildMetadata, tended_new broker buildMetadata, .of_restarts rfl,
        kept_files rfl (fun runId result hget => by cases hget) rfl rfl rfl,
        threaded_files rfl (fun runId hcontains => by cases hcontains) rfl⟩
  | reopened broker buildMetadata hreached ih =>
      obtain ⟨hstaged, htended⟩ := (hreached.reopened broker buildMetadata).tended
      exact ⟨hstaged, htended, .of_restarts rfl, kept_files rfl ih.kept.filed rfl rfl rfl,
        threaded_files rfl ih.threaded.summarized rfl⟩
  | step hreached hmeets hstep ih => exact ih.step hmeets hstep

/-- Every file is of a run with a UUID. -/
theorem Upheld.named (h : Upheld s) : Named s where
  results runId hcontains := by
    obtain ⟨result, hget⟩ := Option.isSome_iff_exists.mp hcontains
    exact (h.kept.filed runId result hget).1
  summaries runId hcontains := by
    obtain ⟨result, hget⟩ := Option.isSome_iff_exists.mp (h.threaded.summarized runId hcontains)
    exact (h.kept.filed runId result hget).1
  volatileResults runId hcontains := by
    obtain ⟨result, hget⟩ := Option.isSome_iff_exists.mp hcontains
    exact h.kept.texts runId (h.kept.archived runId result hget).1

/-! ## The current run -/

/-- The controller that a look-up asks has the run as its current one. -/
theorem liveController_eq_some {runId : String} {c : TrafficController} :
    s.liveController runId = some c ↔ ∃ simulation, s.simulation = some simulation ∧
      simulation.controller = c ∧ c.currentId = some runId := by
  unfold liveController
  rw [Option.filter_eq_some_iff]
  have hcurrent : (c.current.any fun current => decide (current.runId = runId)) = true ↔
      c.currentId = some runId := by
    unfold TrafficController.currentId
    cases c.current <;> simp
  rw [hcurrent, Option.map_eq_some_iff]
  constructor
  · rintro ⟨⟨simulation, hsimulation, rfl⟩, hid⟩
    exact ⟨simulation, hsimulation, rfl, hid⟩
  · rintro ⟨simulation, hsimulation, rfl, hid⟩
    exact ⟨⟨simulation, hsimulation, rfl⟩, hid⟩

/-- The current run is started, and what is held under its id shows it. -/
theorem Live.holds {runId : String} {c : TrafficController} (hkept : s.custody.Kept)
    (hlive : s.liveController runId = some c) : UuidText runId ∧ c.currentId = some runId ∧
      ∃ tasks : TrafficTasks, tasks.controller = c ∧ Controlled c ∧
        s.custody.Holds runId tasks := by
  obtain ⟨simulation, hsimulation, rfl, hid⟩ := liveController_eq_some.mp hlive
  have hmember : simulation.tasks ∈ s.custody.controllers :=
    List.mem_of_getElem? (Custody.getElem?_current (custody_current hsimulation))
  exact ⟨hkept.texts runId (hkept.started _ hmember runId hid), hid, simulation.tasks, rfl,
    (hkept.settling _ hmember).structured.controlled, hkept.holds _ hmember runId hid⟩

/-! ## A run whose files cannot be written -/

/-- The text of a UUID. -/
def labRunId : String := "00000000-0000-4000-8000-000000000001"

/-- A run has begun. -/
def begunRun : List Action :=
  [.start pairMoment labCapabilities,
    .createSimulation pairMoment labHardwareIds fun _ => [],
    .finishStart pairMoment none,
    .startTraffic { sourceNodes := ["node-1"] },
    .sampledTraffic pairMoment labRunId (.ok { totals := ∅ }),
    .simulation (.traffic (.run pairMoment .begun))]

/-- A run of one message is sent, drained and handed to the persistence thread. -/
def handedRun : List Action :=
  begunRun ++ [.simulation (.traffic (.run pairMoment (.submit 0 0 0 [7]))),
    .simulation (.traffic (.fromRadio pairMoment "node-1"
      (.queueStatus { meshPacketId := 7, res := 0 }))),
    .simulation (.traffic (.run pairMoment (.sent none true))),
    .simulation (.traffic (.run { pairMoment with now := 1000 } .drained)),
    .simulation (.traffic (.run pairMoment (.sampled none))),
    .simulation (.traffic (.run pairMoment (.finish .computed)))]

/-- The disk is full. -/
def unfiledRun : List Action :=
  handedRun ++ [.simulation (.traffic (.run pairMoment (.finish (.persistenceRaised "disk full")))),
    .simulation (.traffic (.run pairMoment (.finish .copied)))]

/-- The service is stopped after the run. -/
def stoppedRun : List Action :=
  unfiledRun ++ [.stop pairMoment] ++ List.replicate 4 (.teardown pairMoment labCapabilities)

theorem reached_of_exec {actions : List Action}
    (hexec : exec (step pairProtobuf) actions (.new labBroker .unavailable) = some s)
    (hmeets : Conforms (step pairProtobuf) meets actions (.new labBroker .unavailable)) :
    Reached pairProtobuf meets s :=
  (Reached.new labBroker .unavailable).run (.of_exec hexec hmeets)

end SimulatorService

end MeshtasticLab.Simulator

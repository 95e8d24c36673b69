/-
  Simulator/CompletedRuns.lean --- the list of completed runs and the look-ups by id.

  WHAT THIS FILE IS FOR

  `completed_runs` reads the names of the files and the keys of the archive.  The
  look-ups ask the controller of the current run first and then paste the id into a
  file name.  The two agree on an id that is not the name of another file, unless it is
  the current run and its persistence thread is at work, or its persistence has raised
  and the result is not in the archive.
-/
import MeshtasticLab.Simulator.Retrieval

set_option autoImplicit false

namespace MeshtasticLab.Simulator

open MeshtasticLab.Foundation MeshtasticLab.Gateway MeshtasticLab.Metrics MeshtasticLab.Models
open MeshtasticLab.Traffic
open MeshtasticLab.Traffic.TrafficController (Controlled)
open MeshtasticLab.Traffic.TrafficTasks (pairProtobuf pairMoment)

namespace SimulatorService

variable {s t : SimulatorService} {pb : Protobuf}

section

variable (elsewhere : String → Option RunFile)

/-- The check for completeness and the list of completed runs agree on the id, and the result
of a listed run is found. -/
def Agrees (s : SimulatorService) (runId : String) : Prop :=
  (s.trafficResultIsComplete elsewhere runId = .ok true ↔ runId ∈ s.completedRuns) ∧
    (runId ∈ s.completedRuns → ∃ result,
      s.trafficResult elsewhere runId = .ok result ∧ result.runId = runId)

/-- The id is no path to a file elsewhere and not the name of a summary. -/
structure Plain (s : SimulatorService) (runId : String) : Prop where
  path : '/' ∈ runId.toList → elsewhere (destination runId) = none
  summary : ∀ owner, s.summaries.contains owner = true → runId ≠ owner ++ ".summary"

/-- A look-up under this id finds what the list has under it.  If the id is the current run, its
persistence thread has not renamed or unlinked anything that is not settled, and if its
persistence has raised, the result was archived and is still in the archive. -/
structure InStep (s : SimulatorService) (runId : String) : Prop
    extends Plain elsewhere s runId where
  threadless : (s.liveController runId).isSome = true → s.threads.get? s.retired.length = none
  archived : (s.liveController runId).isSome = true → runId ∈ s.unpersisted →
    runId ∈ s.archived ∧ (othersSince s.archived runId).length < MAX_VOLATILE_RESULTS

variable {elsewhere} {runId : String} {c : TrafficController}

/-- The current run is complete when its result is frozen. -/
theorem complete_of_live (hcontrolled : Controlled c) (hid : c.currentId = some runId)
    (hlive : s.liveController runId = some c) :
    s.trafficResultIsComplete elsewhere runId = .ok true ↔ c.frozenResult ≠ none := by
  unfold trafficResultIsComplete
  rw [hlive]
  dsimp only
  unfold resultIsFinalized
  cases hfrozen : c.frozenResult with
  | none =>
      refine iff_of_false (fun h => ?_) (fun h => h rfl)
      cases h
  | some frozen =>
      have hidentity := mirrors_currentId (hcontrolled.mirrored frozen
        (List.mem_of_mem_head? hfrozen)) hcontrolled
      rw [hid] at hidentity
      have hany : (some frozen).any (fun result => decide (result.runId = runId)) = true :=
        decide_eq_true (Option.some.inj hidentity).symm
      rw [hany]
      exact ⟨fun _ => nofun, fun _ => rfl⟩

/-- Any other run is complete when there is a file or an archived result under its id. -/
theorem complete_of_file (hlive : s.liveController runId = none) :
    s.trafficResultIsComplete elsewhere runId = .ok true ↔
      (s.fileAt elsewhere (destination runId)).isSome = true ∨
        s.volatileResults.contains runId = true := by
  unfold trafficResultIsComplete
  rw [hlive]
  dsimp only
  split
  · next hfound => exact iff_of_true rfl hfound
  · next hfound => exact iff_of_false (by rintro ⟨⟩) hfound

/-- The result of a listed run is found, and it names the run. -/
theorem trafficResult_of_listed (h : Upheld s) (hlisted : runId ∈ s.completedRuns) :
    ∃ result, s.trafficResult elsewhere runId = .ok result ∧ result.runId = runId := by
  have hnamed := h.named
  have hkept := h.kept
  unfold trafficResult
  cases hlive : s.liveController runId with
  | some c =>
      obtain ⟨_, hid, _⟩ := Live.holds hkept hlive
      obtain ⟨current, hcurrent, hname⟩ := Option.map_eq_some_iff.mp hid
      have hresult : c.result = some current := hcurrent
      rw [Option.bind_some, hresult]
      exact ⟨current, rfl, hname⟩
  | none =>
      have hcontains := hnamed.mem_completedRuns.mp hlisted
      have huuid : UuidText runId := hcontains.elim (hnamed.results runId)
        (hnamed.volatileResults runId)
      rw [fileAt_destination huuid, Option.bind_none]
      dsimp only
      cases hfile : s.results.get? runId with
      | some result => exact ⟨result, rfl, (hkept.filed runId result hfile).2.1⟩
      | none =>
          have harchived : s.volatileResults.contains runId = true := hcontains.resolve_left
            fun hresult => by rw [Dict.contains, hfile] at hresult; cases hresult
          obtain ⟨result, hget⟩ := Option.isSome_iff_exists.mp harchived
          rw [hget]
          exact ⟨result, rfl, (hkept.archived runId result hget).2.1⟩

/-- The current run is frozen exactly when its result is in a file or in the archive, once its
thread is over and a result that could not be persisted is in the archive. -/
theorem frozen_iff_held (h : Upheld s) (hremembers :
      s.volatileResults.Remembers s.archived MAX_VOLATILE_RESULTS)
    (hstep : s.InStep elsewhere runId) {simulation : Simulation}
    (hsimulation : s.simulation = some simulation)
    (hid : simulation.controller.currentId = some runId) :
    simulation.controller.frozenResult ≠ none ↔
      s.results.contains runId = true ∨ s.volatileResults.contains runId = true := by
  have hplace := Custody.getElem?_current (custody_current hsimulation)
  have htraced := h.threaded.traced s.retired.length simulation.tasks runId hplace hid
  have hholds := h.kept.holds _ (List.mem_of_getElem? hplace) runId hid
  have hlive : (s.liveController runId).isSome = true := by
    rw [liveController_eq_some.mpr ⟨simulation, hsimulation, rfl, hid⟩]
    rfl
  have harchived : runId ∈ s.unpersisted → s.volatileResults.contains runId = true := by
    intro hraised
    obtain ⟨hmember, hfew⟩ := hstep.archived hlive hraised
    exact (hremembers.kept runId hmember hfew).contains
  have hfrozen : s.volatileResults.contains runId = true →
      simulation.controller.frozenResult ≠ none := by
    intro hcontains
    obtain ⟨result, hget⟩ := Option.isSome_iff_exists.mp hcontains
    exact (hholds.archived result hget).1
  constructor
  · exact fun hended => (htraced.stored hended).imp id harchived
  · rintro (hresult | hcontains)
    · by_contra hopen
      rcases htraced.unsettled hopen hresult with hthread | hraised
      · exact hthread (hstep.threadless hlive)
      · exact hfrozen (harchived hraised) hopen
    · exact hfrozen hcontains

/-- An id that is not the current run is complete and listed or neither, exactly when it is no
path to a file elsewhere and not the name of a summary. -/
theorem complete_iff_listed (h : Upheld s) (hlive : s.liveController runId = none) :
    (s.trafficResultIsComplete elsewhere runId = .ok true ↔ runId ∈ s.completedRuns) ↔
      s.Plain elsewhere runId := by
  have hnamed := h.named
  rw [hnamed.mem_completedRuns, complete_of_file hlive]
  by_cases hslash : '/' ∈ runId.toList
  · have hunlisted : ¬(s.results.contains runId = true ∨
        s.volatileResults.contains runId = true) := by
      rintro (hresult | harchived)
      · exact (hnamed.results runId hresult).not_path hslash
      · exact (hnamed.volatileResults runId harchived).not_path hslash
    have hfile : s.fileAt elsewhere (destination runId) = elsewhere (destination runId) := by
      unfold fileAt
      exact if_pos (slash_destination.mpr hslash)
    rw [hfile, iff_false_right hunlisted, or_iff_left fun h => hunlisted (Or.inr h)]
    constructor
    · intro hnone
      refine ⟨fun _ => by simpa using hnone, ?_⟩
      rintro owner hsummary rfl
      rw [String.toList_append, List.mem_append] at hslash
      exact hslash.elim (hnamed.summaries owner hsummary).not_path (by decide)
    · intro hplain
      rw [hplain.path hslash]
      exact Bool.false_ne_true
  · rw [fileAt_destination_isSome s elsewhere hslash]
    constructor
    · intro hagree
      refine ⟨fun h => absurd h hslash, ?_⟩
      rintro owner hsummary rfl
      have hheld := hagree.mp (Or.inl (Or.inr ⟨owner, hsummary, rfl⟩))
      exact not_uuidText_summary owner
        (hheld.elim (hnamed.results _) (hnamed.volatileResults _))
    · intro hplain
      refine or_congr_left (or_iff_left ?_)
      rintro ⟨owner, hsummary, hname⟩
      exact hplain.summary owner hsummary hname

/-- The id of the current run is a UUID, which names nothing else. -/
theorem plain_of_live (hkept : s.custody.Kept) (hlive : s.liveController runId = some c) :
    s.Plain elsewhere runId := by
  obtain ⟨huuid, _⟩ := Live.holds hkept hlive
  refine ⟨fun hslash => absurd hslash huuid.not_path, ?_⟩
  rintro owner _ rfl
  exact not_uuidText_summary owner huuid

/-- In every state that a service comes to while restarts and `stop_traffic` are apart, and for
every string, the look-ups agree with the list on a string that is in step, and on no string
that names another file. -/
theorem completed_runs_agree (hreached : Reached pb DrawsApart s)
    (elsewhere : String → Option RunFile) (runId : String) :
    (s.InStep elsewhere runId → s.Agrees elsewhere runId) ∧
      (s.Agrees elsewhere runId → s.Plain elsewhere runId) := by
  have h := hreached.upheld
  have hremembers := hreached.covered.remembered
  have hfound : runId ∈ s.completedRuns → ∃ result,
      s.trafficResult elsewhere runId = .ok result ∧ result.runId = runId :=
    trafficResult_of_listed h
  cases hlive : s.liveController runId with
  | none =>
      exact ⟨fun hstep => ⟨(complete_iff_listed h hlive).mpr hstep.toPlain, hfound⟩,
        fun hagrees => (complete_iff_listed h hlive).mp hagrees.1⟩
  | some c =>
      refine ⟨fun hstep => ⟨?_, hfound⟩, fun _ => plain_of_live h.kept hlive⟩
      obtain ⟨simulation, hsimulation, rfl, hid⟩ := liveController_eq_some.mp hlive
      obtain ⟨_, _, tasks, htasks, hcontrolled, _⟩ := Live.holds h.kept hlive
      rw [complete_of_live hcontrolled hid hlive, h.named.mem_completedRuns]
      exact frozen_iff_held h hremembers hstep hsimulation hid

end

/-- A second run is rejected after the result of the first was archived. -/
def rejectedRun : List Action :=
  unfiledRun ++ [.startTraffic { sourceNodes := ["node-9"] },
    .sampledTraffic pairMoment "00000000-0000-4000-8000-000000000002" (.ok { totals := ∅ })]

/-- A run whose files could not be written is listed and found once it is archived, while it is
still the current run. -/
theorem archived_run_listed : ∃ s, Reached pairProtobuf DrawsApart s ∧
    (s.liveController labRunId).isSome = true ∧ labRunId ∈ s.unpersisted ∧
      s.Agrees (fun _ => none) labRunId := by
  have hafter : (exec (step pairProtobuf) rejectedRun (.new labBroker .unavailable)).map
      (fun s => ((s.liveController labRunId).isSome, s.unpersisted, s.archived, s.threads.items)) =
        some (true, [labRunId], [labRunId], []) := by
    decide +kernel
  obtain ⟨s, hexec, hafter⟩ := Option.map_eq_some_iff.mp hafter
  simp only [Prod.mk.injEq] at hafter
  obtain ⟨hlive, hraised, harchived, hthreads⟩ := hafter
  have hmeets : Conforms (step pairProtobuf) DrawsApart rejectedRun
      (.new labBroker .unavailable) := by decide +kernel
  have hreached := reached_of_exec hexec hmeets
  have hstep : s.InStep (fun _ => none) labRunId := by
    refine ⟨⟨fun _ => rfl, fun owner _ hname => ?_⟩, fun _ => ?_, fun _ _ => ?_⟩
    · exact not_uuidText_summary owner (hname ▸ by decide)
    · exact Dict.get?_none_iff.mpr hthreads _
    · rw [harchived]
      decide
  exact ⟨s, hreached, hlive, by simp [hraised], (completed_runs_agree hreached _ _).1 hstep⟩

/-- A run whose files could not be written is complete and not listed. -/
theorem unfiled_run_unlisted : ¬∀ s, Reached pairProtobuf Draws s →
    ∀ elsewhere runId, s.Agrees elsewhere runId := by
  intro hagree
  have hafter : (exec (step pairProtobuf) unfiledRun (.new labBroker .unavailable)).map
      (fun s => (s.trafficResultIsComplete (fun _ => none) labRunId, s.completedRuns)) =
        some (.ok true, []) := by
    decide +kernel
  obtain ⟨s, hexec, hafter⟩ := Option.map_eq_some_iff.mp hafter
  obtain ⟨hcomplete, hlisted⟩ := Prod.mk.inj hafter
  have hdraws : Conforms (step pairProtobuf) Draws unfiledRun (.new labBroker .unavailable) := by
    decide +kernel
  have hmember := (hagree s (reached_of_exec hexec hdraws) (fun _ => none) labRunId).1.mp hcomplete
  rw [hlisted] at hmember
  cases hmember

end SimulatorService

end MeshtasticLab.Simulator

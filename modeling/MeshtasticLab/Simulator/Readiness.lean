/-
  Simulator/Readiness.lean --- a terminal summary says that the export is ready.

  WHAT THIS FILE IS FOR

  A summary comes from the controller, from the summary file or from the result that is
  found for the run.  `Readied` ties the three together: a run without a frozen result
  shows no terminal state, and a summary file is of the export beside it, since a
  controller hands over one result only.
-/
import MeshtasticLab.Simulator.CompletedRuns

set_option autoImplicit false

namespace MeshtasticLab.Simulator

open MeshtasticLab.Foundation MeshtasticLab.Gateway MeshtasticLab.Metrics MeshtasticLab.Models
open MeshtasticLab.Traffic
open MeshtasticLab.Traffic.TrafficController (Controlled Underway)
open MeshtasticLab.Traffic.TrafficTasks (Settling HandsOver pairMoment pairProtobuf)
open SimulatorService (calling persisting)

/-- What a controller shows of a run before its end, and what it gave to the thread. -/
structure Presents (tasks : TrafficTasks) : Prop where
  underway : Underway tasks.controller
  handed : ∀ terminal, tasks.InHand terminal → terminal ∈ tasks.persistCalls

namespace Presents

variable {tasks later : TrafficTasks}

theorem handsOver (h : Presents tasks) (hunderway : Underway later.controller)
    (hover : HandsOver tasks later) : Presents later where
  underway := hunderway
  handed terminal hheld :=
    (hover.inHand terminal hheld).elim (fun hbefore => hover.calls _ (h.handed terminal hbefore)) id

theorem step (pb : Protobuf) (h : Presents tasks) (hsettling : Settling tasks)
    {a : TrafficTasks.Action} (hstarts : a.starts = false)
    (hstep : tasks.step pb a = some later) : Presents later :=
  h.handsOver (TrafficTasks.underway_step pb hsettling.structured h.underway hstarts hstep)
    (TrafficTasks.handsOver_step pb hsettling.structured hstarts hstep)

theorem noted (h : Presents tasks) (hcontrolled : Controlled tasks.controller)
    (hnoted : Noted tasks later) : Presents later :=
  h.handsOver (h.underway.goesOn (hnoted.neutral.continues hcontrolled)
    (Or.inr (Or.inl (congrArg Frame.state hnoted.frame)))) (.of_neutral hnoted.neutral)

/-- Nothing is in hand when a run starts. -/
theorem fresh {c : TrafficController} {pc : RunPc} (hunderway : Underway c)
    (hidle : ∀ target terminal, pc ≠ .finishing target (.persisting terminal)) :
    Presents { controller := c, runTask := pc } where
  underway := hunderway
  handed terminal := by
    rintro (⟨target, hpc⟩ | ⟨caller, hmember, _⟩)
    · exact absurd hpc (hidle target terminal)
    · cases hmember

end Presents

namespace Custody

variable {k l : Custody} {tasks later : TrafficTasks} {runId : String} {pb : Protobuf}

/-- The files of a run are of the result that its controller handed over. -/
structure Readied (k : Custody) : Prop where
  presents : ∀ tasks ∈ k.controllers, Presents tasks
  handed : ∀ tasks ∈ k.controllers, ∀ runId, tasks.controller.currentId = some runId →
    ∀ result, k.results.get? runId = some result → result ∈ tasks.persistCalls
  summarized : ∀ runId summary, k.summaries.get? runId = some summary →
    ∃ result, k.results.get? runId = some result ∧ summary = summarizeResult result

theorem Readied.congr (h : k.Readied) (hcontrollers : l.controllers = k.controllers)
    (hresults : l.results = k.results) (hsummaries : l.summaries = k.summaries) : l.Readied where
  presents := hcontrollers ▸ h.presents
  handed := hcontrollers ▸ hresults ▸ h.handed
  summarized := hresults ▸ hsummaries ▸ h.summarized

theorem Readied.archive (h : k.Readied) (c : TrafficController) : (k.archive c).Readied := by
  obtain ⟨hcontrollers, _, hresults, hsummaries, _⟩ := k.archive_still c
  exact h.congr hcontrollers hresults hsummaries

/-- One controller goes on. -/
theorem Readied.moved (h : k.Readied) {i : Nat} (hmoved : Moved k l i tasks later)
    (hsame : later.controller.currentId = tasks.controller.currentId)
    (hpresents : Presents later)
    (hcalls : ∀ result ∈ tasks.persistCalls, result ∈ later.persistCalls) : l.Readied := by
  have hmember := List.mem_of_getElem? hmoved.get
  refine ⟨?_, ?_, ?_⟩
  · intro other hother
    rcases hmoved.mem hother with rfl | ⟨j, _, hget⟩
    · exact hpresents
    · exact h.presents other (List.mem_of_getElem? hget)
  · rw [hmoved.results]
    intro other hother runId hid result hget
    rcases hmoved.mem hother with rfl | ⟨j, _, hold⟩
    · exact hcalls result (h.handed tasks hmember runId (hsame ▸ hid) result hget)
    · exact h.handed other (List.mem_of_getElem? hold) runId hid result hget
  · rw [hmoved.results, hmoved.summaries]
    exact h.summarized

/-- A controller comes that has no files. -/
theorem Readied.joined (h : k.Readied) (hmember : ∀ other ∈ l.controllers,
      other = later ∨ other ∈ k.controllers) (hpresents : Presents later)
    (hresults : l.results = k.results) (hsummaries : l.summaries = k.summaries)
    (hunfiled : ∀ runId, later.controller.currentId = some runId →
      k.results.get? runId = none) : l.Readied := by
  refine ⟨?_, ?_, ?_⟩
  · intro other hother
    rcases hmember other hother with rfl | hold
    · exact hpresents
    · exact h.presents other hold
  · rw [hresults]
    intro other hother runId hid result hget
    rcases hmember other hother with rfl | hold
    · rw [hunfiled runId hid] at hget
      cases hget
    · exact h.handed other hold runId hid result hget
  · rw [hresults, hsummaries]
    exact h.summarized

/-- A controller hands over one result only. -/
theorem Kept.handedOnce (h : k.Kept) (hmember : tasks ∈ k.controllers)
    {result other : TrafficRunResult} (hresult : result ∈ tasks.persistCalls)
    (hother : other ∈ tasks.persistCalls) : result = other := by
  have honce := (h.settling tasks hmember).single.persistedOnce
  obtain ⟨only, honly⟩ : ∃ only, tasks.persistCalls = [only] := by
    refine List.length_eq_one_iff.mp (le_antisymm honce ?_)
    exact List.length_pos_of_mem hresult
  rw [honly] at hresult hother
  rw [List.mem_singleton.mp hresult, List.mem_singleton.mp hother]

/-- A file is renamed or unlinked. -/
theorem Readied.refiled (h : k.Readied) (hkept : k.Kept) (hthreaded : k.Threaded)
    {generation : Nat} (hget : k.controllers[generation]? = some tasks)
    {terminal : TrafficRunResult} (hterminal : terminal ∈ persisting tasks) {root : ResultsRoot}
    (hrefiles : k.root.Refiles generation terminal root) : (k.withRoot root).Readied := by
  have hmember := List.mem_of_getElem? hget
  obtain ⟨_, hshown, hopen⟩ := persisting_shows (hkept.settling tasks hmember) hterminal
  have hid := mirrors_currentId hshown (hkept.settling tasks hmember).structured.controlled
  have hhanded := (h.presents tasks hmember).handed terminal (mem_persisting.mp hterminal)
  have htraced := hthreaded.traced generation tasks _ hget hid
  have hfiled : ∀ other ∈ k.controllers, ∀ runId, other.controller.currentId = some runId →
      ∀ result, root.results.get? runId = some result → result ∈ other.persistCalls := by
    intro other hother runId hcurrent result hresult
    rcases hrefiles.get? hresult with hkeeps | ⟨rfl, rfl⟩
    · exact h.handed other hother runId hcurrent result hkeeps
    · obtain rfl := hkept.unique hother hmember hcurrent hid
      exact hhanded
  refine ⟨h.presents, hfiled, fun runId summary hsummary => ?_⟩
  change root.summaries.get? runId = some summary at hsummary
  by_cases hrun : runId = terminal.runId
  · subst hrun
    -- The thread has renamed the summary, so it is that of the export which it renamed before.
    have hcontains : root.summaries.contains terminal.runId = true := by
      rw [Dict.contains, hsummary]
      rfl
    have hthread := (htraced.refiled hopen hrefiles).written hopen hcontains
    change root.threads.get? generation = some .written at hthread
    cases hrefiles with
    | replaceSummary hrenamed =>
        obtain ⟨result, hresult⟩ :=
          Option.isSome_iff_exists.mp (htraced.exported (Or.inl hrenamed))
        refine ⟨result, hresult, ?_⟩
        rw [Dict.get?_set_self] at hsummary
        rw [hkept.handedOnce hmember (hfiled tasks hmember terminal.runId hid result hresult)
          hhanded]
        exact (Option.some.inj hsummary).symm
    | _ =>
        rw [Dict.get?_set_self] at hthread
        cases hthread
  · obtain ⟨hresults, hsummaries⟩ := hrefiles.others.1 runId hrun
    rw [hsummaries] at hsummary
    obtain ⟨result, hresult, hsame⟩ := h.summarized runId summary hsummary
    exact ⟨result, hresults.trans hresult, hsame⟩

/-- No step parts a summary from its export. -/
theorem Readied.step (h : k.Readied) (hkept : k.Kept) (hthreaded : k.Threaded)
    (hstep : Step pb k l) : l.Readied := by
  have hmember : ∀ tasks, k.current = some tasks → tasks ∈ k.controllers :=
    fun tasks hcurrent => List.mem_of_getElem? (getElem?_current hcurrent)
  cases hstep with
  | locked lock hidle => exact h.congr rfl rfl rfl
  | created scenario hardwareIds buildMetadata settleSeconds failedReceptionSampler hnone hlock =>
      refine h.joined (fun other hother => (mem_withCurrent hother).imp id
        (List.mem_append_left _)) ?_ rfl rfl fun runId hid => by cases hid
      exact .fresh (fun _ hid => absurd rfl hid) fun _ _ hpc => by cases hpc
  | noted tasks later hcurrent hnoted =>
      have hcontrolled := (hkept.settling tasks (hmember tasks hcurrent)).structured.controlled
      have hmoved := moved_current hcurrent later k.lock
        (SimulatorService.frozenResult_of_neutral hnoted.neutral)
      exact h.moved hmoved (hnoted.neutral.continues hcontrolled).currentId
        ((h.presents tasks (hmember tasks hcurrent)).noted hcontrolled hnoted)
        fun result hresult => hnoted.neutral.persistCalls ▸ hresult
  | acted tasks later a hcurrent hown hagrees hstep =>
      have hsettling := hkept.settling tasks (hmember tasks hcurrent)
      exact h.moved (moved_acted hcurrent later a.finishInput)
        (TrafficTasks.continues_step pb hsettling.structured hown.starts hstep).currentId
        ((h.presents tasks (hmember tasks hcurrent)).step pb hsettling hown.starts hstep)
        (TrafficTasks.handsOver_step pb hsettling.structured hown.starts hstep).calls
  | outlived generation tasks later a hget hown hagrees hstep =>
      have hmoved := moved_outlived hget later a.finishInput
      have hold := List.mem_of_getElem? hmoved.get
      have hsettling := hkept.settling tasks hold
      exact h.moved hmoved
        (TrafficTasks.continues_step pb hsettling.structured hown.starts hstep).currentId
        ((h.presents tasks hold).step pb hsettling hown.starts hstep)
        (TrafficTasks.handsOver_step pb hsettling.structured hown.starts hstep).calls
  | called tasks m kind lock hcurrent hover hlock =>
      have hsettling := hkept.settling tasks (hmember tasks hcurrent)
      have hcall : TrafficTasks.step pb tasks (.call m kind) = some (calling tasks m kind) := rfl
      have hmoved := moved_current hcurrent (calling tasks m kind) lock
        (SimulatorService.frozenResult_calling hsettling.toSound m kind)
      exact h.moved hmoved
        (TrafficTasks.continues_step pb hsettling.structured rfl hcall).currentId
        ((h.presents tasks (hmember tasks hcurrent)).step pb hsettling rfl hcall)
        (TrafficTasks.handsOver_step pb hsettling.structured rfl hcall).calls
  | begun tasks c m runId request scenario baseline hcurrent hover hfresh hlock hstart =>
      rcases TrafficController.start_outcomes hstart with
        ⟨_, _, houtcome, _⟩ | ⟨_, _, ids, accumulators, run, hrun, _, hc⟩
      · cases houtcome
      · refine (h.archive tasks.controller).joined (fun other hother => (mem_withCurrent hother).imp
          id (List.mem_append_left _)) ?_ rfl rfl fun otherId hid => ?_
        · refine .fresh (fun _ _ => ?_) fun _ _ hpc => by cases hpc
          rw [hc]
          exact Or.inl rfl
        · have hsame : otherId = runId := by
            rw [hc] at hid
            exact (Option.some.inj hid).symm.trans hrun
          rw [hsame, (k.archive_still tasks.controller).2.2.1]
          exact Option.isNone_iff_eq_none.mp (by simpa [Dict.contains] using hfresh.unexported)
  | rejected tasks c m runId request scenario baseline error hcurrent hover hlock hstart =>
      rcases TrafficController.start_outcomes hstart with ⟨_, ids, _, rfl⟩ | ⟨houtcome, _⟩
      · have hmoved := moved_current ((k.archive_current tasks.controller).trans hcurrent)
          (tasks.withController { tasks.controller with packetIds := ids })
          (k.archive tasks.controller).lock id
        have hpresents := h.presents tasks (hmember tasks hcurrent)
        exact (h.archive tasks.controller).moved hmoved rfl ⟨hpresents.underway, hpresents.handed⟩
          fun _ hresult => hresult
      · cases houtcome
  | stopped kind i tasks caller hlock hcurrent hget hreturned =>
      exact (h.archive tasks.controller).congr rfl rfl rfl
  | outlasted kind i tasks caller hlock hcurrent hget hreturned => exact h.congr rfl rfl rfl
  | dropped kind tasks lock hlock hcurrent hidle =>
      refine h.congr ?_ rfl rfl
      unfold controllers
      rw [hcurrent]
      exact List.append_nil _
  | filed generation tasks terminal root hget hterminal hrefiles =>
      exact h.refiled hkept hthreaded hget hterminal hrefiles
  | settled generation tasks hget hlate hdone =>
      rw [archive_lateFinalizations]
      exact (h.archive tasks.controller).congr rfl rfl rfl

end Custody

namespace SimulatorService

variable {s : SimulatorService} {pb : Protobuf} {runId : String}

/-! ## Look-ups -/

/-- The result is the finished one of the run, and the summary shows its counts. -/
structure Exports (runId : String) (summary : TrafficRunSummary) (result : TrafficRunResult) :
    Prop where
  runId : result.runId = runId
  finished : result.finishedAt ≠ none
  state : result.state = summary.state
  requested : result.requested = summary.requested
  submitted : result.submitted = summary.submitted
  submissionFailed : result.submissionFailed = summary.submissionFailed
  transmitted : result.transmitted = summary.transmitted
  delivered : result.delivered = summary.delivered

/-- The summary is of the result that is found, and the export is complete. -/
def Ready (s : SimulatorService) (elsewhere : String → Option RunFile) (runId : String)
    (summary : TrafficRunSummary) : Prop :=
  s.trafficResultIsComplete elsewhere runId = .ok true ∧
    ∃ result, s.trafficResult elsewhere runId = .ok result ∧ Exports runId summary result

section

variable {elsewhere : String → Option RunFile} {now : ℚ} {summary : TrafficRunSummary}

end

end SimulatorService

end MeshtasticLab.Simulator

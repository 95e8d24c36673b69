/-
  Simulator/Retrieval.lean --- the result of a run that has ended is found.

  WHAT THIS FILE IS FOR

  A result leaves its controller in three ways: the next run is started, a cleanup has
  stopped the controller, or a late finalization is settled.  Each of them archives it
  unless its export is there.  `Covered` says that no result is lost in between: a run
  that has ended is in a file, was archived, or is the run of a controller that somebody
  still comes back to.
-/
import MeshtasticLab.Foundation.BoundedDict
import MeshtasticLab.Simulator.Reached

set_option autoImplicit false

namespace MeshtasticLab.Simulator

open MeshtasticLab.Foundation MeshtasticLab.Gateway MeshtasticLab.Metrics MeshtasticLab.Models
open MeshtasticLab.Traffic
open MeshtasticLab.Traffic.TrafficController (Controlled HasResult Mirrors)
open MeshtasticLab.Traffic.TrafficTasks (Settling pairMoment pairProtobuf)
open SimulatorService (calling persisting)

namespace Custody

variable {k l : Custody} {tasks later : TrafficTasks} {runId : String} {pb : Protobuf}

/-! ## Where a result is -/

/-- The export of the run is there, or its result was archived. -/
def Stored (k : Custody) (runId : String) : Prop :=
  k.results.contains runId = true ∨ runId ∈ k.archived

/-- The run of a controller, if it has one, is finalized and stored. -/
def Cleared (k : Custody) (tasks : TrafficTasks) : Prop :=
  ∀ runId, tasks.controller.currentId = some runId →
    tasks.controller.frozenResult ≠ none ∧ k.Stored runId

/-- The controller is cleared, or its run is closed and its finalization is waited for. -/
def Released (k : Custody) (i : Nat) (tasks : TrafficTasks) : Prop :=
  (i ∈ k.lateFinalizations ∧ tasks.controller.Closed) ∨ k.Cleared tasks

/-- The controller is the current one, or its finalization is waited for. -/
def Watched (k : Custody) (i : Nat) : Prop := i = k.retired.length ∨ i ∈ k.lateFinalizations

/-- The run is stored, or a controller that is watched has it. -/
def Located (k : Custody) (runId : String) : Prop :=
  k.Stored runId ∨ ∃ i tasks, k.Watched i ∧ k.controllers[i]? = some tasks ∧
    tasks.controller.currentId = some runId

/-- The call is a `stop`, and it leaves a closed run. -/
structure Halts (tasks : TrafficTasks) (i : Nat) : Prop where
  made : i < tasks.callers.length
  kind : ∀ caller : Caller, tasks.callers[i]? = some caller → caller.kind = .stop
  closed : ∀ caller : Caller, tasks.callers[i]? = some caller →
    TrafficTasks.CallerPc.isOver caller.pc = true → tasks.controller.Closed

/-- Whoever is about to drop a controller awaits a call of `stop`. -/
def Halting (k : Custody) : Prop :=
  ∀ kind i tasks, k.lock = .tearingDown kind (.stopping i) → k.current = some tasks →
    Halts tasks i

/-- No result is lost. -/
structure Covered (k : Custody) : Prop where
  halting : k.Halting
  released : ∀ i tasks, k.controllers[i]? = some tasks →
    (i = k.retired.length → ∃ kind, k.lock = .tearingDown kind .closing) → k.Released i tasks
  located : ∀ runId, k.ended.contains runId = true → k.Located runId
  remembered : k.volatileResults.Remembers k.archived MAX_VOLATILE_RESULTS

theorem Halting.of_lock (hlock : ∀ kind i, k.lock ≠ .tearingDown kind (.stopping i)) :
    k.Halting := fun kind i _ hstopping => absurd hstopping (hlock kind i)

theorem Halting.of_idle (hidle : Idle k.lock) : k.Halting :=
  .of_lock fun kind i hstopping => (hidle kind _ hstopping).2 i rfl

/-- A run that has ended is frozen as long as a controller has it. -/
theorem Kept.frozen (h : k.Kept) (hmember : tasks ∈ k.controllers)
    (hid : tasks.controller.currentId = some runId) (hended : k.ended.contains runId = true) :
    tasks.controller.frozenResult ≠ none := by
  obtain ⟨final, hfinal⟩ := Option.isSome_iff_exists.mp hended
  exact ((h.holds tasks hmember runId hid).ended final hfinal).1

/-! ## Archiving -/

theorem stored_archive (c : TrafficController) (h : k.Stored runId) :
    (k.archive c).Stored runId := by
  rcases k.archive_cases c with hsame | ⟨result, _, harchive⟩
  · rw [hsame]
    exact h
  · rw [harchive]
    exact h.imp id fun hmember => List.mem_append_left _ hmember

/-- The result of a finalized run is stored when its controller was archived. -/
theorem Kept.stored (h : k.Kept) (hmember : tasks ∈ k.controllers)
    (hid : tasks.controller.currentId = some runId)
    (hfrozen : tasks.controller.frozenResult ≠ none) :
    (k.archive tasks.controller).Stored runId := by
  obtain ⟨frozen, hresult⟩ := Option.ne_none_iff_exists'.mp hfrozen
  obtain ⟨hshown, hcurrent⟩ :=
    frozen_identity (h.settling tasks hmember).structured.controlled hresult
  obtain rfl := Option.some.inj (hcurrent.symm.trans hid)
  cases hfile : k.results.contains frozen.runId with
  | true => exact stored_archive _ (Or.inl hfile)
  | false =>
      have hunpersisted : k.unpersisted tasks.controller = some frozen := by
        unfold unpersisted
        rw [hresult, Option.filter_some, hfile, decide_eq_true hshown.finished]
        rfl
      unfold Custody.archive
      rw [hunpersisted]
      exact Or.inr (by simp)

theorem Kept.cleared (h : k.Kept) (hmember : tasks ∈ k.controllers)
    (hresult : tasks.controller.HasResult) : (k.archive tasks.controller).Cleared tasks := by
  intro runId hid
  have hfrozen : tasks.controller.frozenResult ≠ none :=
    hresult.resolve_left fun hnone => by rw [hnone] at hid; cases hid
  exact ⟨hfrozen, h.stored hmember hid hfrozen⟩

theorem Cleared.archive (h : k.Cleared tasks) (c : TrafficController) :
    (k.archive c).Cleared tasks :=
  fun runId hid => ⟨(h runId hid).1, stored_archive c (h runId hid).2⟩

/-- The archive holds what its log says, and nothing else has changed. -/
theorem Covered.archive (h : k.Covered) (c : TrafficController) : (k.archive c).Covered := by
  have hcleared := fun tasks (hcleared : k.Cleared tasks) => hcleared.archive c
  have hstored := fun runId (hstored : k.Stored runId) => stored_archive c hstored
  rcases k.archive_cases c with hsame | ⟨result, _, harchive⟩
  · rw [hsame]
    exact h
  · rw [harchive] at hcleared hstored ⊢
    exact ⟨h.halting,
      fun i tasks hget hplace => (h.released i tasks hget hplace).imp id (hcleared tasks),
      fun runId hended => (h.located runId hended).imp (hstored runId) id,
      h.remembered.put result.runId result⟩

theorem archive_places (k : Custody) (c : TrafficController) :
    (k.archive c).retired = k.retired ∧ (k.archive c).lock = k.lock ∧
      (k.archive c).lateFinalizations = k.lateFinalizations := by
  rcases k.archive_cases c with hsame | ⟨result, _, harchive⟩
  · rw [hsame]
    exact ⟨rfl, rfl, rfl⟩
  · rw [harchive]
    exact ⟨rfl, rfl, rfl⟩

/-! ## A controller goes on -/

theorem Released.pursued {i : Nat} (h : k.Released i tasks) (hpursues : Pursues tasks later)
    (hlate : l.lateFinalizations = k.lateFinalizations) (hresults : l.results = k.results)
    (harchived : l.archived = k.archived) : l.Released i later := by
  rcases h with ⟨hmember, hclosed⟩ | hcleared
  · exact Or.inl ⟨hlate ▸ hmember, hpursues.closed hclosed⟩
  · refine Or.inr fun runId hid => ?_
    obtain ⟨hfrozen, hstored⟩ := hcleared runId (hpursues.continues.currentId ▸ hid)
    refine ⟨hpursues.continues.frozenResult hfrozen, ?_⟩
    unfold Stored
    rw [hresults, harchived]
    exact hstored

/-- What one controller does leaves the results where they are, and a result that it freezes
is with it. -/
theorem Covered.moved (h : k.Covered) {i : Nat} (hmoved : Moved k l i tasks later)
    (hpursues : Pursues tasks later) (hcontrolled : Controlled later.controller)
    (hretired : l.retired.length = k.retired.length)
    (hlate : l.lateFinalizations = k.lateFinalizations) (harchived : l.archived = k.archived)
    (hlock : ∀ kind, l.lock = .tearingDown kind .closing → k.lock = .tearingDown kind .closing)
    (hhalting : l.Halting) : l.Covered := by
  have hstored : ∀ runId, k.Stored runId → l.Stored runId := by
    intro runId hstored
    unfold Stored
    rw [hmoved.results, harchived]
    exact hstored
  have hplaces : ∀ {j : Nat}, (j = l.retired.length →
      ∃ kind, l.lock = .tearingDown kind .closing) →
        j = k.retired.length → ∃ kind, k.lock = .tearingDown kind .closing := by
    intro j hplace hj
    obtain ⟨kind, hclosing⟩ := hplace (hj.trans hretired.symm)
    exact ⟨kind, hlock kind hclosing⟩
  refine ⟨hhalting, ?_, ?_, ?_⟩
  · intro j other hget hplace
    rcases hmoved.place hget with ⟨rfl, rfl⟩ | ⟨_, hold⟩
    · exact (h.released j tasks hmoved.get (hplaces hplace)).pursued hpursues hlate
        hmoved.results harchived
    · refine (h.released j other hold (hplaces hplace)).imp (fun hclosed => ?_)
        fun hcleared runId hid => ?_
      · exact ⟨hlate ▸ hclosed.1, hclosed.2⟩
      · exact ⟨(hcleared runId hid).1, hstored runId (hcleared runId hid).2⟩
  · intro runId hended
    have hwatched : ∀ j, k.Watched j → l.Watched j := by
      intro j hwatched
      unfold Watched
      rw [hretired, hlate]
      exact hwatched
    have hlater : l.controllers[i]? = some later := by
      rw [hmoved.controllers]
      exact List.getElem?_set_self (List.getElem?_eq_some_iff.mp hmoved.get).1
    rcases hmoved.ended_get? runId with hsame | ⟨frozen, hbefore, hafter, rfl, _⟩
    · have hbefore : k.ended.contains runId = true := by
        rw [Dict.contains, ← hsame]
        exact hended
      rcases h.located runId hbefore with hold | ⟨j, other, hj, hget, hid⟩
      · exact Or.inl (hstored runId hold)
      · refine Or.inr ?_
        by_cases hsame : i = j
        · subst hsame
          obtain rfl := Option.some.inj (hmoved.get.symm.trans hget)
          exact ⟨i, later, hwatched i hj, hlater, hpursues.continues.currentId.trans hid⟩
        · refine ⟨j, other, hwatched j hj, ?_, hid⟩
          rw [hmoved.controllers, List.getElem?_set_ne hsame]
          exact hget
    · have hcurrent := (frozen_identity hcontrolled hafter).2
      refine Or.inr ⟨i, later, hwatched i ?_, hlater, hcurrent⟩
      by_cases hlast : i = k.retired.length
      · exact Or.inl hlast
      · rcases h.released i tasks hmoved.get fun heq => absurd heq hlast with
          ⟨hmember, _⟩ | hcleared
        · exact Or.inr hmember
        · exact absurd hbefore
            (hcleared _ (hpursues.continues.currentId.symm.trans hcurrent)).1
  · rw [hmoved.volatileResults, harchived]
    exact h.remembered

/-! ## Steps -/

/-- A `stop` that a cleanup awaits and that has returned `True` leaves no run without a
result. -/
theorem Kept.hasResult (h : k.Kept) (hcurrent : k.current = some tasks) {i : Nat}
    {caller : Caller} (hget : tasks.callers[i]? = some caller) (hkind : caller.kind = .stop)
    (hreturned : caller.pc = .returned true) : tasks.controller.HasResult :=
  ((h.settling tasks (List.mem_of_getElem? (getElem?_current hcurrent))).told caller
    (List.mem_of_getElem? hget)).result hkind hreturned

/-- A late finalization that is over has a result. -/
theorem Kept.hasResult_of_done (h : k.Kept) (hmember : tasks ∈ k.controllers)
    (hclosed : tasks.controller.Closed) (hdone : tasks.controller.finalizationDone = true) :
    tasks.controller.HasResult :=
  ((h.settling tasks hmember).settled hclosed).resolve_left fun hactive => by
    rw [hdone] at hactive
    cases hactive

/-- What is stored stays so when the file of another run is renamed or unlinked. -/
theorem stored_refiles {generation : Nat} {terminal : TrafficRunResult} {root : ResultsRoot}
    (hrefiles : k.root.Refiles generation terminal root) (hother : runId ≠ terminal.runId)
    (h : k.Stored runId) : (k.withRoot root).Stored runId := by
  refine h.imp (fun hfile => ?_) id
  change root.results.contains runId = true
  rw [Dict.contains, (hrefiles.others.1 runId hother).1]
  exact hfile

/-! ### Calls of `stop` -/

/-- The calls of a controller whose tasks take a step stay in their places. -/
theorem Halts.step (pb : Protobuf) {i : Nat} (h : Halts tasks i) (hsettling : Settling tasks)
    {a : TrafficTasks.Action} (hown : Own a) (hstep : tasks.step pb a = some later) :
    Halts later i := by
  have hcalls := fun caller (hget : later.callers[i]? = some caller) =>
    hsettling.stopping.calls_step pb hsettling.toSound hown.starts hown.calls hstep hget
  refine ⟨?_, ?_, ?_⟩
  · have hlength : tasks.callers.length ≤ later.callers.length := by
      have hmove := TrafficTasks.callsMove_step pb hsettling.structured hown.starts hstep
      generalize later.callers = callers at hmove
      have hsame : ∀ others, TrafficTasks.SameCalls tasks.callers others →
          others.length = tasks.callers.length := by
        rintro others (rfl | rfl)
        · rfl
        · exact List.length_map _
      cases hmove with
      | kept _ _ hothers => exact (hsame _ hothers).ge
      | call m kind pc => exact absurd rfl (hown.calls m kind)
      | resume j m input caller pc others hget hothers =>
          rw [List.length_set]
          exact (hsame _ hothers).ge
    exact h.made.trans_le hlength
  · intro caller hget
    obtain ⟨old, hold, hkind, _⟩ := hcalls caller hget
    exact hkind.trans (h.kind old hold)
  · intro caller hget hover
    obtain ⟨old, hold, _, _, hends⟩ := hcalls caller hget
    cases hbefore : TrafficTasks.CallerPc.isOver old.pc with
    | true =>
        exact (Pursues.of_step pb hsettling hown.starts hstep).closed (h.closed old hold hbefore)
    | false => exact hends hbefore hover

/-- Another call goes behind those that were made. -/
theorem Halts.calling {i : Nat} (h : Halts tasks i) (hsettling : Settling tasks) (m : Moment)
    (kind : CallerKind) : Halts (SimulatorService.calling tasks m kind) i := by
  have hcall : tasks.step TrafficTasks.pairProtobuf (.call m kind) =
      some (SimulatorService.calling tasks m kind) := rfl
  have hcallers := SimulatorService.callers_calling hsettling.toSound m kind
  have hplace : (SimulatorService.calling tasks m kind).callers[i]? = tasks.callers[i]? := by
    rw [hcallers, List.getElem?_append_left h.made]
  refine ⟨?_, fun caller hget => h.kind caller (hplace ▸ hget), fun caller hget hover => ?_⟩
  · rw [hcallers, List.length_append]
    exact Nat.lt_add_right _ h.made
  · exact (Pursues.of_step TrafficTasks.pairProtobuf hsettling rfl hcall).closed
      (h.closed caller (hplace ▸ hget) hover)

/-- A `stop` that is made when all calls are over. -/
theorem halts_calling (hsettling : Settling tasks) (hover : SimulatorService.AllOver tasks)
    (m : Moment) : Halts (calling tasks m .stop) tasks.callers.length := by
  have hcallers := SimulatorService.callers_calling hsettling.toSound m .stop
  have hplace : (calling tasks m .stop).callers[tasks.callers.length]? =
      some { kind := .stop, pc := (tasks.enterCall m .stop).2 } := by
    rw [hcallers, List.getElem?_append_right (le_refl _), Nat.sub_self]
    rfl
  refine ⟨?_, fun caller hget => ?_, fun caller hget hended => ?_⟩
  · rw [hcallers, List.length_append]
    exact Nat.lt_succ_self _
  · obtain rfl := Option.some.inj (hplace.symm.trans hget)
    rfl
  · obtain rfl := Option.some.inj (hplace.symm.trans hget)
    exact hsettling.stopping.closed_of_stop hsettling.toSound hover m hended

/-- A cleanup goes on to await the call that it has made. -/
theorem Halting.called (h : k.Halting) (hsettling : Settling tasks)
    (hcurrent : k.current = some tasks) (hover : SimulatorService.AllOver tasks) (m : Moment)
    (kind : CallerKind) {lock : LifecycleHolder}
    (hlock : lock = k.lock ∨ Idle lock ∨
      (kind = .stop ∧ ∃ other, lock = .tearingDown other (.stopping tasks.callers.length))) :
    Halting { k with current := some (SimulatorService.calling tasks m kind), lock := lock } := by
  rintro other i _ hstopping ⟨⟩
  rcases hlock with rfl | hidle | ⟨rfl, _, rfl⟩
  · exact (h other i tasks hstopping hcurrent).calling hsettling m kind
  · exact absurd rfl ((hidle other _ hstopping).2 i)
  · cases hstopping
    exact halts_calling hsettling hover m

/-! ### Every step -/

/-- Archiving stores the result of the controller that is to be dropped. -/
theorem Covered.stopped (h : k.Covered) (hkept : k.Kept) {kind : TeardownKind} {i : Nat}
    {caller : Caller} (hlock : k.lock = .tearingDown kind (.stopping i))
    (hcurrent : k.current = some tasks) (hget : tasks.callers[i]? = some caller)
    (hreturned : caller.pc = .returned true) :
    Covered { k.archive tasks.controller with lock := .tearingDown kind .closing } := by
  have hplace := getElem?_current hcurrent
  have harchived := h.archive tasks.controller
  have hcleared := hkept.cleared (List.mem_of_getElem? hplace)
    (hkept.hasResult hcurrent hget ((h.halting kind i tasks hlock hcurrent).kind caller hget)
      hreturned)
  obtain ⟨hretired, _, _⟩ := k.archive_places tasks.controller
  refine ⟨.of_lock nofun, ?_, harchived.located, harchived.remembered⟩
  intro j other hother _
  by_cases hj : j = k.retired.length
  · have hsame : (k.archive tasks.controller).controllers[j]? = some tasks := by
      rw [(k.archive_still tasks.controller).1, hj]
      exact hplace
    obtain rfl := Option.some.inj (hsame.symm.trans hother)
    exact Or.inr hcleared
  · exact harchived.released j other hother fun heq => absurd (heq.trans (by rw [hretired])) hj

/-- The settle task of a late finalization archives its result. -/
theorem Covered.settled (h : k.Covered) (hkept : k.Kept) {generation : Nat}
    (hget : k.controllers[generation]? = some tasks)
    (hdone : tasks.controller.finalizationDone = true) :
    Covered { k.archive tasks.controller with
      lateFinalizations := k.lateFinalizations.erase generation } := by
  have hmember := List.mem_of_getElem? hget
  have harchived := h.archive tasks.controller
  obtain ⟨hretired, _, hlate⟩ := k.archive_places tasks.controller
  have hstill := (k.archive_still tasks.controller).1
  have hothers : ∀ i, i ≠ generation → i ∈ (k.archive tasks.controller).lateFinalizations →
      i ∈ k.lateFinalizations.erase generation := by
    intro i hi hmember
    exact (List.mem_erase_of_ne hi).mpr (hlate ▸ hmember)
  refine ⟨harchived.halting, ?_, ?_, harchived.remembered⟩
  · intro i other hother hplace
    by_cases hi : i = generation
    · subst hi
      have hsame := hstill ▸ hother
      obtain rfl := Option.some.inj (hget.symm.trans hsame)
      rcases harchived.released i tasks hother hplace with ⟨_, hclosed⟩ | hcleared
      · exact Or.inr (hkept.cleared hmember (hkept.hasResult_of_done hmember hclosed hdone))
      · exact Or.inr hcleared
    · exact (harchived.released i other hother hplace).imp
        (fun hclosed => ⟨hothers i hi hclosed.1, hclosed.2⟩) id
  · intro runId hended
    rcases harchived.located runId hended with hstored | ⟨i, other, hwatched, hother, hid⟩
    · exact Or.inl hstored
    · by_cases hi : i = generation
      · subst hi
        obtain rfl := Option.some.inj (hget.symm.trans (hstill ▸ hother))
        have hbefore : k.ended.contains runId = true := by
          rw [← (k.archive_still tasks.controller).2.2.2.2]
          exact hended
        exact Or.inl (hkept.stored hmember hid (hkept.frozen hmember hid hbefore))
      · exact Or.inr ⟨i, other, hwatched.imp id (hothers i hi), hother, hid⟩

/-- A run is started over a result that is stored. -/
theorem Covered.begun (h : k.Covered) (hkept : k.Kept) (hcurrent : k.current = some tasks)
    (hidle : Idle k.lock) (later : TrafficTasks) (runId : String) :
    (((k.archive tasks.controller).withCurrent later).register runId).Covered := by
  have hmember := List.mem_of_getElem? (getElem?_current hcurrent)
  have harchived := h.archive tasks.controller
  have hquiet : Idle (k.archive tasks.controller).lock :=
    (k.archive_places tasks.controller).2.1 ▸ hidle
  have hplace := getElem?_current ((k.archive_current tasks.controller).trans hcurrent)
  have hset : ∀ i, i ≠ (k.archive tasks.controller).retired.length →
      ((k.archive tasks.controller).withCurrent later).controllers[i]? =
        (k.archive tasks.controller).controllers[i]? := by
    intro i hi
    rw [controllers_withCurrent ((k.archive_current tasks.controller).trans hcurrent),
      List.getElem?_set_ne fun heq => hi heq.symm]
  refine ⟨.of_idle hquiet, ?_, ?_, harchived.remembered⟩
  · intro i other hother hclosing
    have hi : i ≠ (k.archive tasks.controller).retired.length := by
      intro heq
      obtain ⟨kind, hclosing⟩ := hclosing heq
      exact (hquiet kind .closing hclosing).1 rfl
    exact harchived.released i other ((hset i hi).symm.trans hother) fun heq => absurd heq hi
  · intro otherId hended
    rcases harchived.located otherId hended with hstored | ⟨i, other, hwatched, hother, hid⟩
    · exact Or.inl hstored
    · by_cases hi : i = (k.archive tasks.controller).retired.length
      · subst hi
        obtain rfl := Option.some.inj (hplace.symm.trans hother)
        have hbefore : k.ended.contains otherId = true := by
          rw [← (k.archive_still tasks.controller).2.2.2.2]
          exact hended
        exact Or.inl (hkept.stored hmember hid (hkept.frozen hmember hid hbefore))
      · exact Or.inr ⟨i, other, hwatched, (hset i hi).trans hother, hid⟩

/-- The controller that a cleanup drops is released. -/
theorem Covered.dropped (h : k.Covered) {kind : TeardownKind} {lock : LifecycleHolder}
    (hlock : k.lock = .tearingDown kind .closing) (hcurrent : k.current = some tasks)
    (hidle : Idle lock) :
    Covered { k with current := none, retired := k.retired ++ [tasks], lock := lock } := by
  have hcontrollers : k.controllers = k.retired ++ [tasks] := by
    unfold controllers
    rw [hcurrent]
    rfl
  have hsame : Custody.controllers
      { k with current := none, retired := k.retired ++ [tasks], lock := lock } =
        k.controllers := by
    rw [hcontrollers]
    exact List.append_nil _
  refine ⟨.of_idle hidle, ?_, ?_, h.remembered⟩
  · intro i other hother _
    exact h.released i other (hsame ▸ hother) fun _ => ⟨kind, hlock⟩
  · intro runId hended
    rcases h.located runId hended with hstored | ⟨i, other, hwatched, hother, hid⟩
    · exact Or.inl hstored
    · rcases h.released i other hother fun _ => ⟨kind, hlock⟩ with ⟨hlate, _⟩ | hcleared
      · exact Or.inr ⟨i, other, Or.inr hlate, hsame ▸ hother, hid⟩
      · exact Or.inl (hcleared runId hid).2

/-- A file is renamed or unlinked while its run is not finalized. -/
theorem Covered.refiled (h : k.Covered) (hkept : k.Kept) (hmember : tasks ∈ k.controllers)
    {generation : Nat} {terminal : TrafficRunResult} (hterminal : terminal ∈ persisting tasks)
    {root : ResultsRoot} (hrefiles : k.root.Refiles generation terminal root) :
    (k.withRoot root).Covered := by
  obtain ⟨_, hshown, hopen⟩ := persisting_shows (hkept.settling tasks hmember) hterminal
  have hid := mirrors_currentId hshown (hkept.settling tasks hmember).structured.controlled
  refine ⟨h.halting, ?_, ?_, h.remembered⟩
  · intro i other hother hplace
    refine (h.released i other hother hplace).imp id fun hcleared runId hcurrentId => ?_
    obtain ⟨hfrozen, hstored⟩ := hcleared runId hcurrentId
    refine ⟨hfrozen, stored_refiles hrefiles ?_ hstored⟩
    rintro rfl
    rw [hkept.unique (List.mem_of_getElem? hother) hmember hcurrentId hid] at hfrozen
    exact hfrozen hopen
  · intro runId hended
    refine (h.located runId hended).imp (fun hstored => stored_refiles hrefiles ?_ hstored) id
    rintro rfl
    exact hkept.frozen hmember hid hended hopen

/-- The lock is handed on while no controller is about to be dropped. -/
theorem Covered.locked (h : k.Covered) {lock : LifecycleHolder}
    (hidle : Idle lock ∨ k.current = none) : Covered { k with lock := lock } := by
  refine ⟨?_, ?_, h.located, h.remembered⟩
  · rcases hidle with hidle | hnone
    · exact .of_idle hidle
    · intro kind i tasks _ hcurrent
      rw [show k.current = some tasks from hcurrent] at hnone
      cases hnone
  · intro i tasks hget hplace
    refine h.released i tasks hget fun hi => ?_
    rcases hidle with hidle | hnone
    · obtain ⟨kind, hclosing⟩ := hplace hi
      exact absurd rfl (hidle kind .closing hclosing).1
    · have hbound := (List.getElem?_eq_some_iff.mp hget).1
      unfold controllers at hbound
      rw [show k.current = none from hnone] at hbound
      simp [hi] at hbound

/-- A controller without a run is created. -/
theorem Covered.created (h : k.Covered) (hnone : k.current = none) (hlock : k.lock = .starting)
    (tasks : TrafficTasks) : (k.withCurrent tasks).Covered := by
  have hcontrollers : (k.withCurrent tasks).controllers = k.controllers ++ [tasks] := by
    unfold controllers withCurrent
    rw [hnone]
    simp
  have hlength : k.controllers.length = k.retired.length := by
    unfold controllers
    rw [hnone]
    simp
  refine ⟨.of_lock fun kind i hstopping => ?_, ?_, ?_, h.remembered⟩
  · change k.lock = _ at hstopping
    rw [hlock] at hstopping
    cases hstopping
  · intro i other hother hplace
    have hi : i ≠ k.retired.length := by
      intro heq
      obtain ⟨kind, hclosing⟩ := hplace heq
      change k.lock = _ at hclosing
      rw [hlock] at hclosing
      cases hclosing
    refine h.released i other ?_ fun heq => absurd heq hi
    have hbound := (List.getElem?_eq_some_iff.mp hother).1
    rw [hcontrollers, List.length_append, List.length_singleton] at hbound
    rwa [hcontrollers, List.getElem?_append_left (by omega)] at hother
  · intro runId hended
    refine (h.located runId hended).imp id ?_
    rintro ⟨i, other, hwatched, hother, hid⟩
    refine ⟨i, other, hwatched, ?_, hid⟩
    rw [hcontrollers, List.getElem?_append_left (List.getElem?_eq_some_iff.mp hother).1]
    exact hother

/-- The settle task may forget the generation before it archives the result. -/
theorem archive_lateFinalizations (k : Custody) (c : TrafficController) (late : List Nat) :
    ({ k with lateFinalizations := late } : Custody).archive c =
      { k.archive c with lateFinalizations := late } := by
  unfold archive unpersisted
  dsimp only
  split <;> rfl

/-- No step loses a result. -/
theorem Covered.step (h : k.Covered) (hkept : k.Kept) (hstep : Step pb k l) : l.Covered := by
  have hmember : ∀ tasks, k.current = some tasks → tasks ∈ k.controllers :=
    fun tasks hcurrent => List.mem_of_getElem? (getElem?_current hcurrent)
  cases hstep with
  | locked lock hidle => exact h.locked hidle
  | created scenario hardwareIds buildMetadata settleSeconds failedReceptionSampler hnone hlock =>
      exact h.created hnone hlock _
  | noted tasks later hcurrent hnoted =>
      have hsettling := hkept.settling tasks (hmember tasks hcurrent)
      have hpursues : Pursues tasks later := .of_noted hsettling.structured.controlled hnoted
      have hmoved := moved_current hcurrent later k.lock
        (SimulatorService.frozenResult_of_neutral hnoted.neutral)
      refine h.moved hmoved hpursues hnoted.neutral.advance.controlled rfl rfl rfl
        (fun _ hclosing => hclosing) ?_
      rintro kind i _ hstopping ⟨⟩
      have hhalts := h.halting kind i tasks hstopping hcurrent
      have hcallers := hnoted.neutral.callers
      exact ⟨hcallers ▸ hhalts.made, fun caller hget => hhalts.kind caller (hcallers ▸ hget),
        fun caller hget hover => hpursues.closed (hhalts.closed caller (hcallers ▸ hget) hover)⟩
  | acted tasks later a hcurrent hown hagrees hstep =>
      have hsettling := hkept.settling tasks (hmember tasks hcurrent)
      refine h.moved (moved_acted hcurrent later a.finishInput)
        (.of_step pb hsettling hown.starts hstep)
        (hsettling.step pb hown.starts hown.calls hstep).structured.controlled rfl rfl rfl
        (fun _ hclosing => hclosing) ?_
      rintro kind i _ hstopping ⟨⟩
      exact (h.halting kind i tasks hstopping hcurrent).step pb hsettling hown hstep
  | outlived generation tasks later a hget hown hagrees hstep =>
      have hmoved := moved_outlived hget later a.finishInput
      have hsettling := hkept.settling tasks (List.mem_of_getElem? hmoved.get)
      exact h.moved hmoved (.of_step pb hsettling hown.starts hstep)
        (hsettling.step pb hown.starts hown.calls hstep).structured.controlled
        (List.length_set ..) rfl rfl (fun _ hclosing => hclosing) h.halting
  | called tasks m kind lock hcurrent hover hlock =>
      have hsettling := hkept.settling tasks (hmember tasks hcurrent)
      have hcall : TrafficTasks.step pb tasks (.call m kind) =
          some (SimulatorService.calling tasks m kind) := rfl
      have hmoved := moved_current hcurrent (SimulatorService.calling tasks m kind) lock
        (SimulatorService.frozenResult_calling hsettling.toSound m kind)
      refine h.moved hmoved (.of_step pb hsettling rfl hcall)
        (hsettling.call pb hover m kind hcall).structured.controlled rfl rfl rfl ?_
        (h.halting.called hsettling hcurrent hover m kind hlock)
      intro other hclosing
      rcases hlock with rfl | hidle | ⟨_, _, rfl⟩
      · exact hclosing
      · exact absurd rfl (hidle other _ hclosing).1
      · cases hclosing
  | begun tasks c m runId request scenario baseline hcurrent hover hfresh hidle hstart =>
      exact h.begun hkept hcurrent hidle _ runId
  | rejected tasks c m runId request scenario baseline error hcurrent hover hidle hstart =>
      have hsettling := hkept.settling tasks (hmember tasks hcurrent)
      have hquiet : Idle (k.archive tasks.controller).lock :=
        (k.archive_places tasks.controller).2.1 ▸ hidle
      rcases TrafficController.start_outcomes hstart with ⟨_, ids, _, rfl⟩ | ⟨houtcome, _⟩
      · have hmoved := moved_current ((k.archive_current tasks.controller).trans hcurrent)
          (tasks.withController { tasks.controller with packetIds := ids })
          (k.archive tasks.controller).lock id
        have hstarted := settling_started hsettling hover m runId request scenario baseline
        unfold TrafficTasks.started at hstarted
        rw [hstart] at hstarted
        exact (h.archive tasks.controller).moved hmoved (.of_ids tasks ids)
          hstarted.structured.controlled rfl rfl rfl (fun _ hclosing => hclosing) (.of_idle hquiet)
      · cases houtcome
  | stopped kind i tasks caller hlock hcurrent hget hreturned =>
      exact h.stopped hkept hlock hcurrent hget hreturned
  | outlasted kind i tasks caller hlock hcurrent hget hreturned =>
      have hplace := getElem?_current hcurrent
      have hclosed : tasks.controller.Closed :=
        (h.halting kind i tasks hlock hcurrent).closed caller hget (by rw [hreturned]; rfl)
      refine ⟨.of_lock nofun, ?_, ?_, h.remembered⟩
      · intro j other hother _
        by_cases hj : j = k.retired.length
        · subst hj
          obtain rfl := Option.some.inj (hplace.symm.trans hother)
          exact Or.inl ⟨List.mem_append_right _ (List.mem_singleton.mpr rfl), hclosed⟩
        · exact (h.released j other hother fun heq => absurd heq hj).imp
            (fun hlate => ⟨List.mem_append_left _ hlate.1, hlate.2⟩) id
      · intro runId hended
        refine (h.located runId hended).imp id ?_
        rintro ⟨j, other, hwatched, hother, hid⟩
        exact ⟨j, other, hwatched.imp id (List.mem_append_left _), hother, hid⟩
  | dropped kind tasks lock hlock hcurrent hidle => exact h.dropped hlock hcurrent hidle
  | filed generation tasks terminal root hget hterminal hrefiles =>
      exact h.refiled hkept (List.mem_of_getElem? hget) hterminal hrefiles
  | settled generation tasks hget hlate hdone =>
      rw [archive_lateFinalizations]
      exact h.settled hkept hget hdone

/-- What is archived was not in a file. -/
structure Archives (k l : Custody) (result : TrafficRunResult) : Prop where
  unfiled : k.results.contains result.runId = false
  volatileResults : l.volatileResults =
    (k.volatileResults.set result.runId result).keepLast MAX_VOLATILE_RESULTS
  archived : l.archived = k.archived ++ [result.runId]

theorem archives_archive (k : Custody) (c : TrafficController) :
    ((k.archive c).volatileResults = k.volatileResults ∧ (k.archive c).archived = k.archived) ∨
      ∃ result, Archives k (k.archive c) result := by
  rcases k.archive_cases c with hsame | ⟨result, hresult, harchive⟩
  · rw [hsame]
    exact Or.inl ⟨rfl, rfl⟩
  · rw [harchive]
    exact Or.inr ⟨result, (unpersisted_cases hresult).2.1, rfl, rfl⟩

theorem Archives.congr {j : Custody} {result : TrafficRunResult} (h : Archives k l result)
    (hvolatile : j.volatileResults = l.volatileResults) (harchived : j.archived = l.archived) :
    Archives k j result :=
  ⟨h.unfiled, hvolatile.trans h.volatileResults, harchived.trans h.archived⟩

/-- A step archives one result that is not in a file, or none. -/
theorem Step.archives (hstep : Step pb k l) :
    (l.volatileResults = k.volatileResults ∧ l.archived = k.archived) ∨
      ∃ result, Archives k l result := by
  cases hstep with
  | begun tasks c m runId request scenario baseline hcurrent hover hfresh hidle hstart =>
      exact (k.archives_archive tasks.controller).imp id fun ⟨result, harchives⟩ =>
        ⟨result, harchives.congr rfl rfl⟩
  | rejected tasks c m runId request scenario baseline error hcurrent hover hidle hstart =>
      exact (k.archives_archive tasks.controller).imp id fun ⟨result, harchives⟩ =>
        ⟨result, harchives.congr rfl rfl⟩
  | stopped kind i tasks caller hlock hcurrent hget hreturned =>
      exact (k.archives_archive tasks.controller).imp id fun ⟨result, harchives⟩ =>
        ⟨result, harchives.congr rfl rfl⟩
  | settled generation tasks hget hlate hdone =>
      rw [archive_lateFinalizations]
      exact (k.archives_archive tasks.controller).imp id fun ⟨result, harchives⟩ =>
        ⟨result, harchives.congr rfl rfl⟩
  | _ => exact Or.inl ⟨rfl, rfl⟩

end Custody

namespace SimulatorService

variable {s t : SimulatorService} {pb : Protobuf} {runId : String}

/-! ## Look-ups -/

/-- The settle task of a late finalization of the run has not run yet. -/
def FinalizesLate (s : SimulatorService) (runId : String) : Prop :=
  ∃ generation ∈ s.lateFinalizations, ∃ tasks, s.controllers[generation]? = some tasks ∧
    tasks.controller.currentId = some runId

/-- Nothing is archived, or a result that is not in a file. -/
def ArchivesUnfiled (s t : SimulatorService) : Prop :=
  (t.volatileResults = s.volatileResults ∧ t.archived = s.archived) ∨
    ∃ result : TrafficRunResult, s.results.contains result.runId = false ∧
      t.volatileResults =
        (s.volatileResults.set result.runId result).keepLast MAX_VOLATILE_RESULTS ∧
      t.archived = s.archived ++ [result.runId]

theorem Reached.covered (hreached : Reached pb DrawsApart s) : s.custody.Covered := by
  have hnew : ∀ u : SimulatorService, u.controllers = [] → u.lifecycleLock = .free →
      u.ended = ∅ → u.volatileResults = ∅ → u.archived = [] → u.custody.Covered := by
    intro u hcontrollers hlock hended hvolatile harchived
    refine ⟨.of_lock fun kind i hstopping => ?_, fun i tasks hget => ?_, fun runId hcontains => ?_,
      ?_⟩
    · change u.lifecycleLock = _ at hstopping
      rw [hlock] at hstopping
      cases hstopping
    · rw [controllers_custody, hcontrollers] at hget
      cases hget
    · change u.ended.contains runId = true at hcontains
      rw [hended] at hcontains
      cases hcontains
    · change u.volatileResults.Remembers u.archived MAX_VOLATILE_RESULTS
      rw [hvolatile, harchived]
      exact Dict.remembers_empty _
  induction hreached with
  | new broker buildMetadata => exact hnew _ rfl rfl rfl rfl rfl
  | reopened broker buildMetadata hreached ih => exact hnew _ rfl rfl rfl rfl rfl
  | step hreached hmeets hstep ih =>
      have h := hreached.upheld
      rcases custody_step pb h.staged h.tended h.parted hmeets.1 hmeets.2 hstep with
        hsame | hcustody
      · rw [hsame]
        exact ih
      · exact ih.step h.kept hcustody

/-- The result of the current run that has ended is found. -/
theorem trafficResult_of_live (hkept : s.custody.Kept) (elsewhere : String → Option RunFile)
    {final : TrafficRunResult} (hended : s.ended.get? runId = some final) {c : TrafficController}
    (hlive : s.liveController runId = some c) :
    ∃ result, s.trafficResult elsewhere runId = .ok result ∧ SameRun result final := by
  obtain ⟨_, _, tasks, rfl, hcontrolled, hholds⟩ := Live.holds hkept hlive
  obtain ⟨hfrozen, hshown⟩ := hholds.ended final hended
  obtain ⟨frozen, hresult⟩ := Option.ne_none_iff_exists'.mp hfrozen
  refine ⟨frozen, ?_, .of_mirrors (Custody.frozen_identity hcontrolled hresult).1 hshown⟩
  unfold trafficResult
  rw [hlive, Option.bind_some, TrafficTasks.result_of_frozen hresult]

/-- The result of any other run that has ended is found in a file or in the archive. -/
theorem trafficResult_of_stored (hkept : s.custody.Kept) (elsewhere : String → Option RunFile)
    {final : TrafficRunResult} (hended : s.ended.get? runId = some final)
    (hlive : s.liveController runId = none)
    (hstored : s.results.contains runId = true ∨ s.volatileResults.contains runId = true) :
    ∃ result, s.trafficResult elsewhere runId = .ok result ∧ SameRun result final := by
  have huuid := hkept.texts runId (hkept.ended runId final hended)
  unfold trafficResult
  rw [hlive, fileAt_destination huuid, Option.bind_none]
  dsimp only
  cases hfile : s.results.get? runId with
  | some result => exact ⟨result, rfl, hkept.own runId result final hfile hended⟩
  | none =>
      have harchived : s.volatileResults.contains runId = true := hstored.resolve_left
        fun hresult => by rw [Dict.contains, hfile] at hresult; cases hresult
      obtain ⟨result, hget⟩ := Option.isSome_iff_exists.mp harchived
      rw [hget]
      obtain ⟨other, hother, hsame⟩ := hkept.ownArchived runId result hget
      obtain rfl := Option.some.inj (hended.symm.trans hother)
      exact ⟨result, rfl, hsame⟩

/-- The result of a run that has ended is found while it is the current run, while its export is
there, and until eight other results have been archived since it first was, unless its late
finalization is still to be settled.  The archive holds at most eight results, and a result
that goes into it is not in a file. -/
structure Retrievable (pb : Protobuf) (meets : SimulatorService → Action → Prop)
    (elsewhere : String → Option RunFile) (s : SimulatorService) : Prop where
  found : ∀ runId final, s.ended.get? runId = some final → ¬s.FinalizesLate runId →
    ((s.liveController runId).isSome = true ∨ s.results.contains runId = true ∨
      (othersSince s.archived runId).length < MAX_VOLATILE_RESULTS) →
        ∃ result, s.trafficResult elsewhere runId = .ok result ∧ SameRun result final
  bounded : s.volatileResults.items.length ≤ MAX_VOLATILE_RESULTS
  unfiled : ∀ a t, meets s a → s.step pb a = some t → s.ArchivesUnfiled t

/-- In every state that a service comes to while restarts and `stop_traffic` are apart, the
results are retrievable. -/
theorem terminal_result_found (hreached : Reached pb DrawsApart s)
    (elsewhere : String → Option RunFile) : Retrievable pb DrawsApart elsewhere s := by
  have h := hreached.upheld
  have hcovered := hreached.covered
  refine ⟨?_, hcovered.remembered.bounded, ?_⟩
  · intro runId final hended hsettled hfound
    cases hlive : s.liveController runId with
    | some c => exact trafficResult_of_live h.kept elsewhere hended hlive
    | none =>
        refine trafficResult_of_stored h.kept elsewhere hended hlive ?_
        rcases hfound with hcurrent | hfile | hfew
        · rw [hlive] at hcurrent
          cases hcurrent
        · exact Or.inl hfile
        · have hlogged : s.custody.ended.contains runId = true := by
            rw [Dict.contains, show s.custody.ended.get? runId = some final from hended]
            rfl
          rcases hcovered.located runId hlogged with
            hstored | ⟨i, tasks, hlast | hlate, hget, hid⟩
          · exact hstored.imp id fun hmember =>
              (hcovered.remembered.kept runId hmember hfew).contains
          · rw [controllers_custody] at hget
            rw [hlast] at hget
            change (s.retired ++ _)[s.retired.length]? = _ at hget
            rw [List.getElem?_append_right (le_refl _), Nat.sub_self] at hget
            obtain ⟨simulation, hsimulation, rfl⟩ := Option.map_eq_some_iff.mp
              (Option.mem_toList.mp (List.mem_of_getElem? hget))
            rw [liveController_eq_some.mpr ⟨simulation, hsimulation, rfl, hid⟩] at hlive
            cases hlive
          · exact absurd ⟨i, hlate, tasks, (controllers_custody s) ▸ hget, hid⟩ hsettled
  · intro a t hmeets hstep
    rcases custody_step pb h.staged h.tended h.parted hmeets.1 hmeets.2 hstep with
      hsame | hcustody
    · exact Or.inl ⟨congrArg Custody.volatileResults hsame, congrArg Custody.archived hsame⟩
    · rcases hcustody.archives with hsame | ⟨result, harchives⟩
      · exact Or.inl hsame
      · exact Or.inr ⟨result, harchives.unfiled, harchives.volatileResults, harchives.archived⟩

/-- A run whose files could not be written is found after the service was stopped. -/
theorem unfiled_result_found : ∃ s final result, Reached pairProtobuf DrawsApart s ∧
    s.ended.get? labRunId = some final ∧ s.results.contains labRunId = false ∧
      s.simulation.isNone = true ∧
        s.trafficResult (fun _ => none) labRunId = .ok result ∧ SameRun result final := by
  have hafter : (exec (step pairProtobuf) stoppedRun (.new labBroker .unavailable)).map
      (fun s => (s.ended.contains labRunId, s.results.contains labRunId, s.simulation.isNone,
        s.lateFinalizations, s.archived)) = some (true, false, true, [], [labRunId]) := by
    decide +kernel
  obtain ⟨s, hexec, hafter⟩ := Option.map_eq_some_iff.mp hafter
  simp only [Prod.mk.injEq] at hafter
  obtain ⟨hended, hfile, hnone, hlate, harchived⟩ := hafter
  obtain ⟨final, hfinal⟩ := Option.isSome_iff_exists.mp hended
  have hmeets : Conforms (step pairProtobuf) DrawsApart stoppedRun
      (.new labBroker .unavailable) := by decide +kernel
  have hreached := reached_of_exec hexec hmeets
  obtain ⟨result, hresult, hsame⟩ := (terminal_result_found hreached (fun _ => none)).found labRunId
    final hfinal (fun ⟨generation, hmember, _⟩ => by rw [hlate] at hmember; cases hmember)
    (Or.inr (Or.inr (by rw [harchived]; decide)))
  exact ⟨s, final, result, hreached, hfinal, hfile, hnone, hresult, hsame⟩

/-- `stop_traffic` waits for the final sample when the failure comes, the restart finds the run
task done and drops the controller, and then the result cannot be persisted. -/
def lostRun : List Action :=
  begunRun ++ [.stopTraffic pairMoment, .simulation (.traffic .cancelled),
    .simulation (.traffic (.resume 0 pairMoment .runTaskDone)),
    .runtimeFailure pairMoment "MEDIUM_FAILED" "medium", .start pairMoment labCapabilities,
    .teardown pairMoment labCapabilities, .teardown pairMoment labCapabilities,
    .teardown pairMoment labCapabilities, .retired 0 (.resume 0 pairMoment (.sampled none)),
    .retired 0 (.resume 0 pairMoment (.finish .computed)),
    .retired 0 (.resume 0 pairMoment (.finish (.persistenceRaised "disk full"))),
    .retired 0 (.resume 0 pairMoment (.finish .copied))]

/-- The result of a run whose controller a restart drops under `stop_traffic` is lost. -/
theorem lost_run_unretrievable : ¬∀ s, Reached pairProtobuf Draws s →
    ∀ elsewhere, Retrievable pairProtobuf Draws elsewhere s := by
  intro hretrievable
  have hafter : (exec (step pairProtobuf) lostRun (.new labBroker .unavailable)).map
      (fun s => (s.ended.contains labRunId, s.lateFinalizations, s.archived,
        (s.trafficResult (fun _ => none) labRunId).toOption.isSome)) =
          some (true, [], [], false) := by
    decide +kernel
  obtain ⟨s, hexec, hafter⟩ := Option.map_eq_some_iff.mp hafter
  simp only [Prod.mk.injEq] at hafter
  obtain ⟨hended, hlate, harchived, hlost⟩ := hafter
  obtain ⟨final, hfinal⟩ := Option.isSome_iff_exists.mp hended
  have hdraws : Conforms (step pairProtobuf) Draws lostRun (.new labBroker .unavailable) := by
    decide +kernel
  have hreached := reached_of_exec hexec hdraws
  obtain ⟨result, hresult, _⟩ := (hretrievable s hreached fun _ => none).found labRunId final hfinal
    (fun ⟨generation, hmember, _⟩ => by rw [hlate] at hmember; cases hmember)
    (Or.inr (Or.inr (by rw [harchived]; decide)))
  rw [hresult] at hlost
  cases hlost

end SimulatorService

end MeshtasticLab.Simulator

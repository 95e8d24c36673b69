/-
  Simulator/Keeping.lean --- what the service keeps is of the run that it names.

  WHAT THIS FILE IS FOR

  A run id belongs to one controller as long as one has it, and whatever the files,
  the archive and the log of endings hold under it shows that run.  `Kept` says so of
  a custody, and no step of the custody breaks it.
-/
import MeshtasticLab.Foundation.Counting
import MeshtasticLab.Simulator.Custody
import MeshtasticLab.Traffic.Frozen
import MeshtasticLab.Traffic.InHand
import MeshtasticLab.Traffic.Underway

set_option autoImplicit false

namespace MeshtasticLab.Simulator

open MeshtasticLab.Foundation MeshtasticLab.Gateway MeshtasticLab.Metrics MeshtasticLab.Models
open MeshtasticLab.Traffic
open MeshtasticLab.Traffic.TrafficController (Advance Controlled Mirrors)
open MeshtasticLab.Traffic.TrafficTasks (Settling)
open SimulatorService (AllOver calling persisting)

/-- Two results of one run at its end; what a failure adds to a result is left out. -/
structure SameRun (result other : TrafficRunResult) : Prop where
  runId : result.runId = other.runId
  request : result.request = other.request
  messages : result.generatedMessages = other.generatedMessages
  requested : result.requested = other.requested
  submitted : result.submitted = other.submitted
  submissionFailed : result.submissionFailed = other.submissionFailed
  transmitted : result.transmitted = other.transmitted
  delivered : result.delivered = other.delivered
  finished : result.finishedAt ≠ none

/-- Two results that show the same state of a run. -/
theorem SameRun.of_mirrors {v : View} {result other : TrafficRunResult} (h : Mirrors v result)
    (hother : Mirrors v other) : SameRun result other where
  runId := (Prod.mk.inj (Option.some.inj (h.identity.symm.trans hother.identity))).1
  request := (Prod.mk.inj (Option.some.inj (h.identity.symm.trans hother.identity))).2
  messages := h.messages.trans hother.messages.symm
  requested := h.requested.trans hother.requested.symm
  submitted := h.submitted.trans hother.submitted.symm
  submissionFailed := h.submissionFailed.trans hother.submissionFailed.symm
  transmitted := h.transmitted.trans hother.transmitted.symm
  delivered := h.delivered.trans hother.delivered.symm
  finished := h.finished

/-- A result names the current run of the controller that it shows. -/
theorem mirrors_currentId {c : TrafficController} {result : TrafficRunResult}
    (h : Mirrors c.view result) (hcontrolled : Controlled c) : c.currentId = some result.runId := by
  have hidentity : c.frame.request = _ := h.identity
  rw [hcontrolled.currentId, hidentity]
  rfl

/-- The tasks of a controller stay with its run, and a result that shows the closed run keeps
showing it. -/
structure Pursues (tasks later : TrafficTasks) : Prop where
  continues : tasks.controller.Continues later.controller
  closed : tasks.controller.Closed → later.controller.Closed
  shown : ∀ result, tasks.controller.Closed → Mirrors tasks.controller.view result →
    Mirrors later.controller.view result

namespace Pursues

variable {tasks later : TrafficTasks}

theorem of_advance (hcontrolled : Controlled tasks.controller)
    (hadvance : Advance False tasks.controller later.controller)
    (hfrozen : tasks.controller.frozenResults.length ≤ later.controller.frozenResults.length) :
    Pursues tasks later where
  continues := .of_advance hcontrolled hadvance hfrozen
  closed := hadvance.closed
  shown _ hclosed hshown := hshown.advance hclosed hadvance

theorem of_noted (hcontrolled : Controlled tasks.controller) (hnoted : Noted tasks later) :
    Pursues tasks later :=
  .of_advance hcontrolled hnoted.neutral.advance hnoted.neutral.frozen.ge

theorem of_step (pb : Protobuf) (hsettling : Settling tasks) {a : TrafficTasks.Action}
    (hstarts : a.starts = false) (hstep : tasks.step pb a = some later) : Pursues tasks later := by
  have hstructured := hsettling.structured
  have hmove : TrafficTasks.Move False True tasks later :=
    TrafficTasks.move_of_step False True pb hstructured hstarts False.elim False.elim
      (fun _ => trivial) hstep
  exact .of_advance hstructured.controlled (hmove.advance hstructured) (hmove.frozen_le hstructured)

/-- A `start` that raises stays with the run. -/
theorem of_ids (tasks : TrafficTasks) (ids : PacketIds) :
    Pursues tasks (tasks.withController { tasks.controller with packetIds := ids }) where
  continues := ⟨rfl, le_refl _⟩
  closed := id
  shown _ _ hshown := hshown.congr rfl rfl rfl

end Pursues

/-- What is handed to a controller leaves its calls as they are. -/
theorem settling_noted {tasks later : TrafficTasks} (h : Settling tasks)
    (hnoted : Noted tasks later) : Settling later :=
  h.framed ⟨hnoted.onward.sound, h.single.neutral hnoted.neutral⟩ hnoted.onward.stopping
    (hnoted.neutral.continues h.structured.controlled) hnoted.frame hnoted.neutral.callers

theorem mem_persisting {tasks : TrafficTasks} {terminal : TrafficRunResult} :
    terminal ∈ persisting tasks ↔ tasks.InHand terminal := by
  unfold persisting TrafficTasks.InHand
  dsimp only
  rw [List.mem_append, List.mem_filterMap]
  refine or_congr ?_ (exists_congr fun caller => and_congr_right fun _ => ?_)
  · cases tasks.runTask with
    | finishing target pc => cases pc <;> simp [eq_comm]
    | _ => simp
  · cases caller.pc with
    | finishing target pc => cases pc <;> simp
    | _ => simp

/-- A result in the hands of the persistence thread shows a closed run that is not frozen. -/
theorem persisting_shows {tasks : TrafficTasks} (h : Settling tasks) {terminal : TrafficRunResult}
    (hterminal : terminal ∈ persisting tasks) : tasks.controller.Closed ∧
      Mirrors tasks.controller.view terminal ∧ tasks.controller.frozenResult = none := by
  have hrest : tasks.controller.frozenResult ≠ none → tasks.runTask = .done ∧
      ∀ caller ∈ tasks.callers, caller.pc.active = false := fun hfrozen =>
    ⟨(h.toOrderly.atRest hfrozen).isOver, (h.toOrderly.atRest hfrozen).idle⟩
  rcases mem_persisting.mp hterminal with ⟨target, hpc⟩ | ⟨caller, hmember, target, hpc⟩
  · have hfits := h.structured.run
    rw [hpc] at hfits
    refine ⟨Or.inl hfits.2.2.1, hfits.2.1, ?_⟩
    by_contra hfrozen
    rw [hpc] at hrest
    cases (hrest hfrozen).1
  · have hfits := h.structured.callers caller hmember
    rw [hpc] at hfits
    refine ⟨hfits.2.1, hfits.2.2, ?_⟩
    by_contra hfrozen
    have hidle := (hrest hfrozen).2 caller hmember
    rw [hpc] at hidle
    cases hidle

namespace Custody

variable {k l : Custody} {tasks later : TrafficTasks} {runId : String}

/-- Whatever is held under the id of a controller's current run shows that run. -/
structure Holds (k : Custody) (runId : String) (tasks : TrafficTasks) : Prop where
  filed : ∀ result, k.results.get? runId = some result →
    tasks.controller.Closed ∧ Mirrors tasks.controller.view result
  archived : ∀ result, k.volatileResults.get? runId = some result →
    tasks.controller.frozenResult ≠ none ∧ Mirrors tasks.controller.view result
  ended : ∀ result, k.ended.get? runId = some result →
    tasks.controller.frozenResult ≠ none ∧ Mirrors tasks.controller.view result
  frozen : tasks.controller.frozenResult ≠ none → k.ended.contains runId = true

/-- Everything that is held is of the run that it is held under. -/
structure Kept (k : Custody) : Prop where
  settling : ∀ tasks ∈ k.controllers, Settling tasks
  distinct : ∀ (i j : Nat) (tasks other : TrafficTasks) (runId : String),
    k.controllers[i]? = some tasks → k.controllers[j]? = some other →
      tasks.controller.currentId = some runId → other.controller.currentId = some runId → i = j
  started : ∀ tasks ∈ k.controllers, ∀ runId, tasks.controller.currentId = some runId →
    runId ∈ k.startedIds
  holds : ∀ tasks ∈ k.controllers, ∀ runId, tasks.controller.currentId = some runId →
    k.Holds runId tasks
  texts : ∀ runId ∈ k.startedIds, UuidText runId
  filed : ∀ runId result, k.results.get? runId = some result →
    UuidText runId ∧ result.runId = runId ∧ result.finishedAt ≠ none
  archived : ∀ runId result, k.volatileResults.get? runId = some result →
    runId ∈ k.startedIds ∧ result.runId = runId ∧ result.finishedAt ≠ none
  ended : ∀ runId result, k.ended.get? runId = some result → runId ∈ k.startedIds
  own : ∀ runId result final, k.results.get? runId = some result →
    k.ended.get? runId = some final → SameRun result final
  ownArchived : ∀ runId result, k.volatileResults.get? runId = some result →
    ∃ final, k.ended.get? runId = some final ∧ SameRun result final

/-- Only one controller has the run. -/
theorem Kept.unique (h : k.Kept) {other : TrafficTasks} (hmember : tasks ∈ k.controllers)
    (hother : other ∈ k.controllers) (hid : tasks.controller.currentId = some runId)
    (hid' : other.controller.currentId = some runId) : tasks = other := by
  obtain ⟨i, hget⟩ := List.mem_iff_getElem?.mp hmember
  obtain ⟨j, hget'⟩ := List.mem_iff_getElem?.mp hother
  have hsame := h.distinct i j tasks other runId hget hget' hid hid'
  rw [hsame, hget'] at hget
  exact (Option.some.inj hget).symm

/-! ## Frozen results -/

/-- A frozen result is of the current run. -/
theorem frozen_identity (hcontrolled : Controlled tasks.controller) {frozen : TrafficRunResult}
    (hfrozen : tasks.controller.frozenResult = some frozen) :
    Mirrors tasks.controller.view frozen ∧ tasks.controller.currentId = some frozen.runId := by
  have hmirrors := hcontrolled.mirrored frozen (List.mem_of_mem_head? hfrozen)
  exact ⟨hmirrors, mirrors_currentId hmirrors hcontrolled⟩

theorem closed_of_frozen (hcontrolled : Controlled tasks.controller)
    (hfrozen : tasks.controller.frozenResult ≠ none) : tasks.controller.Closed :=
  hcontrolled.frozen fun hnil => hfrozen (List.head?_eq_none_iff.mpr hnil)

/-- What a step of a controller adds to the log of endings. -/
theorem follow_cases (k : Custody) (before after : TrafficController) :
    k.follow before after = k ∨ ∃ frozen, before.frozenResult = none ∧
      after.frozenResult = some frozen ∧
        k.follow before after = { k with ended := k.ended.set frozen.runId frozen } := by
  unfold follow
  cases hbefore : before.frozenResult with
  | some earlier => exact Or.inl rfl
  | none =>
      cases hafter : after.frozenResult with
      | none => exact Or.inl rfl
      | some frozen => exact Or.inr ⟨frozen, rfl, rfl, rfl⟩

/-! ## Controllers -/

/-- The controllers of a custody in which one has gone on. -/
structure Moved (k l : Custody) (i : Nat) (tasks later : TrafficTasks) : Prop where
  get : k.controllers[i]? = some tasks
  controllers : l.controllers = k.controllers.set i later
  startedIds : l.startedIds = k.startedIds
  results : l.results = k.results
  summaries : l.summaries = k.summaries
  volatileResults : l.volatileResults = k.volatileResults
  ended : l.ended = (k.follow tasks.controller later.controller).ended

/-- A controller after the move is the one that went on, or stood in its place before. -/
theorem Moved.place {i j : Nat} (h : Moved k l i tasks later) {other : TrafficTasks}
    (hget : l.controllers[j]? = some other) :
    (j = i ∧ other = later) ∨ j ≠ i ∧ k.controllers[j]? = some other :=
  getElem?_set_cases (h.controllers ▸ hget)

theorem Moved.mem {i : Nat} (h : Moved k l i tasks later) {other : TrafficTasks}
    (hmember : other ∈ l.controllers) : other = later ∨ ∃ j, j ≠ i ∧
      k.controllers[j]? = some other := by
  obtain ⟨j, hget⟩ := List.mem_iff_getElem?.mp hmember
  rcases h.place hget with ⟨_, hlater⟩ | ⟨hj, hold⟩
  · exact Or.inl hlater
  · exact Or.inr ⟨j, hj, hold⟩

/-- The controller at a place keeps its run. -/
theorem Moved.getElem? {i j : Nat} (h : Moved k l i tasks later)
    (hsame : later.controller.currentId = tasks.controller.currentId) {other : TrafficTasks}
    (hget : l.controllers[j]? = some other) : ∃ old, k.controllers[j]? = some old ∧
      old.controller.currentId = other.controller.currentId := by
  rcases h.place hget with ⟨rfl, rfl⟩ | ⟨_, hold⟩
  · exact ⟨tasks, h.get, hsame.symm⟩
  · exact ⟨other, hold, rfl⟩

/-- The log of endings has what it had, or the result that has just been frozen. -/
theorem Moved.ended_get? {i : Nat} (h : Moved k l i tasks later) (runId : String) :
    l.ended.get? runId = k.ended.get? runId ∨ ∃ frozen, tasks.controller.frozenResult = none ∧
      later.controller.frozenResult = some frozen ∧ frozen.runId = runId ∧
        l.ended.get? runId = some frozen := by
  rw [h.ended]
  rcases follow_cases k tasks.controller later.controller with
    hsame | ⟨frozen, hbefore, hafter, hset⟩
  · exact Or.inl (by rw [hsame])
  · rw [hset]
    by_cases hid : frozen.runId = runId
    · subst hid
      exact Or.inr ⟨frozen, hbefore, hafter, rfl, Dict.get?_set_self _ _ _⟩
    · exact Or.inl (Dict.get?_set_of_ne _ (fun heq => hid heq.symm) _)

/-- A result that is frozen now is in the log of endings. -/
theorem Moved.ended_frozen {i : Nat} (h : Moved k l i tasks later) {frozen : TrafficRunResult}
    (hbefore : tasks.controller.frozenResult = none)
    (hafter : later.controller.frozenResult = some frozen) :
    l.ended.get? frozen.runId = some frozen := by
  rw [h.ended]
  unfold follow
  rw [hbefore, hafter]
  exact Dict.get?_set_self _ _ _

/-- A result that shows the run of a controller shows it when the controller has gone on. -/
theorem Holds.pursued (h : k.Holds runId tasks) (hcontrolled : Controlled tasks.controller)
    (hlater : Controlled later.controller) (hpursues : Pursues tasks later)
    (hcurrent : later.controller.currentId = some runId) {i : Nat}
    (hmoved : Moved k l i tasks later) : l.Holds runId later := by
  have hfrozen : ∀ result, tasks.controller.frozenResult ≠ none ∧
      Mirrors tasks.controller.view result → later.controller.frozenResult ≠ none ∧
        Mirrors later.controller.view result := by
    rintro result ⟨hfrozen, hshown⟩
    exact ⟨hpursues.continues.frozenResult hfrozen,
      hpursues.shown result (closed_of_frozen hcontrolled hfrozen) hshown⟩
  refine ⟨?_, ?_, ?_, ?_⟩
  · intro result hget
    rw [hmoved.results] at hget
    obtain ⟨hclosed, hshown⟩ := h.filed result hget
    exact ⟨hpursues.closed hclosed, hpursues.shown result hclosed hshown⟩
  · intro result hget
    rw [hmoved.volatileResults] at hget
    exact hfrozen result (h.archived result hget)
  · intro result hget
    rcases hmoved.ended_get? runId with hsame | ⟨frozen, _, hafter, _, hset⟩
    · exact hfrozen result (h.ended result (hsame ▸ hget))
    · obtain rfl := Option.some.inj (hset.symm.trans hget)
      exact ⟨by rw [hafter]; nofun, (frozen_identity hlater hafter).1⟩
  · intro hended
    cases hbefore : tasks.controller.frozenResult with
    | none =>
        obtain ⟨frozen, hafter⟩ := Option.ne_none_iff_exists'.mp hended
        have hidentity := (frozen_identity hlater hafter).2
        rw [hcurrent] at hidentity
        rw [Dict.contains, Option.some.inj hidentity, hmoved.ended_frozen hbefore hafter]
        rfl
    | some frozen =>
        have hlogged := h.frozen (by rw [hbefore]; nofun)
        rcases hmoved.ended_get? runId with hsame | ⟨_, hnone, _⟩
        · rw [Dict.contains, hsame]
          exact hlogged
        · rw [hbefore] at hnone
          cases hnone

/-- What is held under an id depends on the files, the archive and the log. -/
theorem Holds.congr (h : k.Holds runId tasks)
    (hresults : l.results.get? runId = k.results.get? runId)
    (harchived : l.volatileResults.get? runId = k.volatileResults.get? runId)
    (hended : l.ended.get? runId = k.ended.get? runId) : l.Holds runId tasks where
  filed result hget := h.filed result (hresults ▸ hget)
  archived result hget := h.archived result (harchived ▸ hget)
  ended result hget := h.ended result (hended ▸ hget)
  frozen hfrozen := by
    rw [Dict.contains, hended]
    exact h.frozen hfrozen

/-- One controller goes on. -/
theorem Kept.moved (h : k.Kept) {i : Nat} (hmoved : Moved k l i tasks later)
    (hpursues : Pursues tasks later) (hsettling : Settling later) : l.Kept := by
  have hmember := List.mem_of_getElem? hmoved.get
  have hcontrolled := (h.settling tasks hmember).structured.controlled
  have hlater := hsettling.structured.controlled
  have hsame := hpursues.continues.currentId
  have hfrozen : ∀ frozen, later.controller.frozenResult = some frozen →
      Mirrors later.controller.view frozen ∧ tasks.controller.currentId = some frozen.runId :=
    fun frozen hafter => hsame ▸ frozen_identity hlater hafter
  refine ⟨?_, ?_, ?_, ?_, ?_, ?_, ?_, ?_, ?_, ?_⟩
  · intro other hother
    rcases hmoved.mem hother with rfl | ⟨j, _, hget⟩
    · exact hsettling
    · exact h.settling other (List.mem_of_getElem? hget)
  · intro j j' first second runId hfirst hsecond hid hid'
    obtain ⟨old, hold, heq⟩ := hmoved.getElem? hsame hfirst
    obtain ⟨old', hold', heq'⟩ := hmoved.getElem? hsame hsecond
    exact h.distinct j j' old old' runId hold hold' (heq.trans hid) (heq'.trans hid')
  · intro other hother runId hid
    rw [hmoved.startedIds]
    rcases hmoved.mem hother with rfl | ⟨j, _, hget⟩
    · exact h.started tasks hmember runId (hsame ▸ hid)
    · exact h.started other (List.mem_of_getElem? hget) runId hid
  · intro other hother runId hid
    rcases hmoved.mem hother with rfl | ⟨j, hj, hget⟩
    · exact (h.holds tasks hmember runId (hsame ▸ hid)).pursued hcontrolled hlater hpursues hid
        hmoved
    · refine (h.holds other (List.mem_of_getElem? hget) runId hid).congr ?_ ?_ ?_
      · rw [hmoved.results]
      · rw [hmoved.volatileResults]
      · refine (hmoved.ended_get? runId).resolve_right ?_
        rintro ⟨frozen, _, hafter, rfl, _⟩
        exact hj (h.distinct j i other tasks _ hget hmoved.get hid (hfrozen frozen hafter).2)
  · rw [hmoved.startedIds]
    exact h.texts
  · rw [hmoved.results]
    exact h.filed
  · rw [hmoved.volatileResults, hmoved.startedIds]
    exact h.archived
  · intro runId result hget
    rw [hmoved.startedIds]
    rcases hmoved.ended_get? runId with hkept | ⟨frozen, _, hafter, rfl, _⟩
    · exact h.ended runId result (hkept ▸ hget)
    · exact h.started tasks hmember _ (hfrozen frozen hafter).2
  · intro runId result final hget hfinal
    rw [hmoved.results] at hget
    rcases hmoved.ended_get? runId with hkept | ⟨frozen, _, hafter, rfl, hset⟩
    · exact h.own runId result final hget (hkept ▸ hfinal)
    · obtain ⟨hshown, hcurrent⟩ := hfrozen frozen hafter
      obtain rfl := Option.some.inj (hset.symm.trans hfinal)
      obtain ⟨hclosed, hfiled⟩ := (h.holds tasks hmember _ hcurrent).filed result hget
      exact .of_mirrors (hpursues.shown result hclosed hfiled) hshown
  · intro runId result hget
    rw [hmoved.volatileResults] at hget
    rcases hmoved.ended_get? runId with hkept | ⟨frozen, hbefore, hafter, rfl, _⟩
    · rw [hkept]
      exact h.ownArchived runId result hget
    · have hheld := h.holds tasks hmember _ (hfrozen frozen hafter).2
      exact absurd hbefore (hheld.archived result hget).1

/-! ## The archive -/

/-- The result of a controller that is archived is frozen and not in a file. -/
theorem unpersisted_cases {c : TrafficController} {result : TrafficRunResult}
    (h : k.unpersisted c = some result) : c.frozenResult = some result ∧
      k.results.contains result.runId = false ∧ result.finishedAt ≠ none := by
  obtain ⟨hfrozen, hguard⟩ := Option.filter_eq_some_iff.mp h
  obtain ⟨hfile, hfinished⟩ := Bool.and_eq_true_iff.mp hguard
  exact ⟨hfrozen, by simpa using hfile, of_decide_eq_true hfinished⟩

/-- What archiving changes, if it changes anything. -/
theorem archive_cases (k : Custody) (c : TrafficController) :
    k.archive c = k ∨ ∃ result, k.unpersisted c = some result ∧
      k.archive c = { k with
        volatileResults :=
          (k.volatileResults.set result.runId result).keepLast MAX_VOLATILE_RESULTS
        archived := k.archived ++ [result.runId] } := by
  unfold archive
  cases hresult : k.unpersisted c with
  | none => exact Or.inl rfl
  | some result => exact Or.inr ⟨result, rfl, rfl⟩

/-- What the archive holds was there, or is the result that has just been archived. -/
theorem archive_get? {c : TrafficController} {result : TrafficRunResult}
    (hget : (k.archive c).volatileResults.get? runId = some result) :
    k.volatileResults.get? runId = some result ∨
      k.unpersisted c = some result ∧ result.runId = runId := by
  rcases k.archive_cases c with hsame | ⟨archived, hresult, harchive⟩
  · exact Or.inl (hsame ▸ hget)
  · rw [harchive] at hget
    have hset := Dict.get?_of_keepLast hget
    rw [Dict.get?_set] at hset
    split at hset
    · next hid =>
        obtain rfl := Option.some.inj hset
        exact Or.inr ⟨hresult, hid.symm⟩
    · exact Or.inl hset

/-- Archiving touches the archive only. -/
theorem archive_still (k : Custody) (c : TrafficController) :
    (k.archive c).controllers = k.controllers ∧ (k.archive c).startedIds = k.startedIds ∧
      (k.archive c).results = k.results ∧ (k.archive c).summaries = k.summaries ∧
        (k.archive c).ended = k.ended := by
  rcases k.archive_cases c with hsame | ⟨result, _, harchive⟩
  · rw [hsame]
    exact ⟨rfl, rfl, rfl, rfl, rfl⟩
  · rw [harchive]
    exact ⟨rfl, rfl, rfl, rfl, rfl⟩

theorem archive_current (k : Custody) (c : TrafficController) :
    (k.archive c).current = k.current := by
  rcases k.archive_cases c with hsame | ⟨result, _, harchive⟩
  · rw [hsame]
  · rw [harchive]

/-- The result of a controller is archived. -/
theorem Kept.archive (h : k.Kept) (hmember : tasks ∈ k.controllers) :
    (k.archive tasks.controller).Kept := by
  obtain ⟨hcontrollers, hstarted, hresults, hsummaries, hended⟩ := k.archive_still tasks.controller
  have hcontrolled := (h.settling tasks hmember).structured.controlled
  have hnew : ∀ result, k.unpersisted tasks.controller = some result →
      Mirrors tasks.controller.view result ∧
        tasks.controller.currentId = some result.runId ∧
          ∃ final, k.ended.get? result.runId = some final ∧ SameRun result final := by
    intro result hresult
    have hfrozen := (unpersisted_cases hresult).1
    obtain ⟨hshown, hcurrent⟩ := frozen_identity hcontrolled hfrozen
    have hholds := h.holds tasks hmember _ hcurrent
    obtain ⟨final, hfinal⟩ := Option.isSome_iff_exists.mp (hholds.frozen (by rw [hfrozen]; nofun))
    exact ⟨hshown, hcurrent, final, hfinal, .of_mirrors hshown (hholds.ended final hfinal).2⟩
  refine ⟨?_, ?_, ?_, ?_, ?_, ?_, ?_, ?_, ?_, ?_⟩
  · rw [hcontrollers]
    exact h.settling
  · rw [hcontrollers]
    exact h.distinct
  · rw [hcontrollers, hstarted]
    exact h.started
  · rw [hcontrollers]
    intro other hother runId hid
    have hholds := h.holds other hother runId hid
    refine ⟨?_, ?_, ?_, ?_⟩
    · rw [hresults]
      exact hholds.filed
    · intro result hget
      rcases archive_get? hget with hkept | ⟨hresult, rfl⟩
      · exact hholds.archived result hkept
      · obtain ⟨hshown, hcurrent, _⟩ := hnew result hresult
        obtain rfl := h.unique hother hmember hid hcurrent
        exact ⟨by rw [(unpersisted_cases hresult).1]; nofun, hshown⟩
    · rw [hended]
      exact hholds.ended
    · rw [hended]
      exact hholds.frozen
  · rw [hstarted]
    exact h.texts
  · rw [hresults]
    exact h.filed
  · intro runId result hget
    rw [hstarted]
    rcases archive_get? hget with hkept | ⟨hresult, rfl⟩
    · exact h.archived runId result hkept
    · exact ⟨h.started tasks hmember _ (hnew result hresult).2.1, rfl,
        (unpersisted_cases hresult).2.2⟩
  · rw [hstarted, hended]
    exact h.ended
  · rw [hresults, hended]
    exact h.own
  · intro runId result hget
    rw [hended]
    rcases archive_get? hget with hkept | ⟨hresult, rfl⟩
    · exact h.ownArchived runId result hkept
    · exact (hnew result hresult).2.2

/-! ## Steps -/

/-- Only the holder of the lock or the places of the controllers change. -/
theorem Kept.congr (h : k.Kept) (hcontrollers : l.controllers = k.controllers)
    (hstarted : l.startedIds = k.startedIds) (hresults : l.results = k.results)
    (harchived : l.volatileResults = k.volatileResults) (hended : l.ended = k.ended) : l.Kept where
  settling := hcontrollers ▸ h.settling
  distinct := hcontrollers ▸ h.distinct
  started := hcontrollers ▸ hstarted ▸ h.started
  holds tasks hmember runId hid := (h.holds tasks (hcontrollers ▸ hmember) runId hid).congr
    (by rw [hresults]) (by rw [harchived]) (by rw [hended])
  texts := hstarted ▸ h.texts
  filed := hresults ▸ h.filed
  archived := hstarted ▸ harchived ▸ h.archived
  ended := hstarted ▸ hended ▸ h.ended
  own := hresults ▸ hended ▸ h.own
  ownArchived := harchived ▸ hended ▸ h.ownArchived

/-- A controller without a run is created. -/
theorem Kept.created (h : k.Kept) (hnone : k.current = none) (hsettling : Settling tasks)
    (hidle : tasks.controller.currentId = none) : (k.withCurrent tasks).Kept := by
  have hcontrollers : (k.withCurrent tasks).controllers = k.controllers ++ [tasks] := by
    unfold controllers withCurrent
    rw [hnone]
    simp
  have hold : ∀ other ∈ (k.withCurrent tasks).controllers, ∀ runId,
      other.controller.currentId = some runId → other ∈ k.controllers := by
    intro other hother runId hid
    rw [hcontrollers] at hother
    rcases List.mem_append.mp hother with hearlier | hlast
    · exact hearlier
    · rw [List.mem_singleton.mp hlast, hidle] at hid
      cases hid
  refine ⟨?_, ?_, ?_, ?_, h.texts, h.filed, h.archived, h.ended, h.own, h.ownArchived⟩
  · intro other hother
    rw [hcontrollers] at hother
    rcases List.mem_append.mp hother with hearlier | hlast
    · exact h.settling other hearlier
    · exact List.mem_singleton.mp hlast ▸ hsettling
  · have hget : ∀ (j : Nat) (other : TrafficTasks) (runId : String),
        (k.withCurrent tasks).controllers[j]? = some other →
          other.controller.currentId = some runId → k.controllers[j]? = some other := by
      intro j other runId hother hid
      rw [hcontrollers] at hother
      by_cases hj : j < k.controllers.length
      · rwa [List.getElem?_append_left hj] at hother
      · rw [List.getElem?_append_right (by omega)] at hother
        rw [List.mem_singleton.mp (List.mem_of_getElem? hother), hidle] at hid
        cases hid
    intro i j first second runId hfirst hsecond hid hid'
    exact h.distinct i j first second runId (hget i first runId hfirst hid)
      (hget j second runId hsecond hid') hid hid'
  · intro other hother runId hid
    exact h.started other (hold other hother runId hid) runId hid
  · intro other hother runId hid
    exact (h.holds other (hold other hother runId hid) runId hid).congr rfl rfl rfl

/-- The place of the current controller is the last one. -/
theorem getElem?_current (hcurrent : k.current = some tasks) :
    k.controllers[k.retired.length]? = some tasks := by
  unfold controllers
  rw [hcurrent]
  simp

theorem controllers_withCurrent (hcurrent : k.current = some tasks) :
    (k.withCurrent later).controllers = k.controllers.set k.retired.length later := by
  unfold controllers withCurrent
  rw [hcurrent]
  simp

theorem mem_withCurrent {other : TrafficTasks}
    (hother : other ∈ (k.withCurrent later).controllers) :
    other = later ∨ other ∈ k.retired := by
  rcases List.mem_append.mp hother with hretired | hlast
  · exact Or.inr hretired
  · exact Or.inl (List.mem_singleton.mp hlast)

/-- The current controller starts a run under a new id. -/
theorem Kept.begun (h : k.Kept) (hcurrent : k.current = some tasks) (hfresh : k.Fresh runId)
    (hsettling : Settling later) (hid : later.controller.currentId = some runId)
    (hopen : later.controller.frozenResult = none) :
    ((k.withCurrent later).register runId).Kept := by
  have hretired : ∀ other ∈ k.retired, other ∈ k.controllers :=
    fun other hmember => List.mem_append_left _ hmember
  have hother : ∀ (j : Nat) (other : TrafficTasks) (otherId : String),
      (k.withCurrent later).controllers[j]? = some other →
        other.controller.currentId = some otherId →
          (other = later ∧ j = k.retired.length ∧ otherId = runId) ∨
            k.controllers[j]? = some other ∧ otherId ∈ k.startedIds := by
    intro j other otherId hget hcurrentId
    rw [controllers_withCurrent hcurrent] at hget
    rcases getElem?_set_cases hget with ⟨rfl, rfl⟩ | ⟨_, hold⟩
    · exact Or.inl ⟨rfl, rfl, Option.some.inj (hcurrentId.symm.trans hid)⟩
    · exact Or.inr ⟨hold, h.started other (List.mem_of_getElem? hold) otherId hcurrentId⟩
  refine ⟨?_, ?_, ?_, ?_, ?_, h.filed, ?_, ?_, h.own, h.ownArchived⟩
  · intro other hmember
    rcases mem_withCurrent hmember with rfl | hearlier
    · exact hsettling
    · exact h.settling other (hretired other hearlier)
  · intro i j first second otherId hfirst hsecond hid' hid''
    rcases hother i first otherId hfirst hid' with ⟨rfl, rfl, rfl⟩ | ⟨hget, hstarted⟩
    · rcases hother j second _ hsecond hid'' with ⟨_, rfl, _⟩ | ⟨_, hstarted⟩
      · rfl
      · exact absurd hstarted hfresh.unstarted
    · rcases hother j second _ hsecond hid'' with ⟨_, _, rfl⟩ | ⟨hget', _⟩
      · exact absurd hstarted hfresh.unstarted
      · exact h.distinct i j first second otherId hget hget' hid' hid''
  · intro other hmember otherId hid'
    rcases mem_withCurrent hmember with rfl | hearlier
    · rw [hid] at hid'
      exact List.mem_append_right _ (List.mem_singleton.mpr (Option.some.inj hid').symm)
    · exact List.mem_append_left _ (h.started other (hretired other hearlier) otherId hid')
  · intro other hmember otherId hid'
    rcases mem_withCurrent hmember with rfl | hearlier
    · rw [hid] at hid'
      obtain rfl := Option.some.inj hid'
      have hunarchived : ∀ result, k.volatileResults.get? runId ≠ some result := fun result hget =>
        hfresh.unstarted (h.archived runId result hget).1
      have hunended : ∀ result, k.ended.get? runId ≠ some result := fun result hget =>
        hfresh.unstarted (h.ended runId result hget)
      have hunfiled : ∀ result, k.results.get? runId ≠ some result := by
        intro result hget
        have hfile := hfresh.unexported
        rw [Dict.contains, hget] at hfile
        cases hfile
      exact ⟨fun result hget => absurd hget (hunfiled result),
        fun result hget => absurd hget (hunarchived result),
        fun result hget => absurd hget (hunended result), fun hfrozen => absurd hopen hfrozen⟩
    · exact (h.holds other (hretired other hearlier) otherId hid').congr rfl rfl rfl
  · intro otherId hmember
    rcases List.mem_append.mp hmember with hearlier | hlast
    · exact h.texts otherId hearlier
    · exact List.mem_singleton.mp hlast ▸ hfresh.text
  · intro otherId result hget
    obtain ⟨hstarted, hrest⟩ := h.archived otherId result hget
    exact ⟨List.mem_append_left _ hstarted, hrest⟩
  · intro otherId result hget
    exact List.mem_append_left _ (h.ended otherId result hget)

/-- A file is renamed or unlinked. -/
theorem Kept.refiled (h : k.Kept) (hmember : tasks ∈ k.controllers) {generation : Nat}
    {terminal : TrafficRunResult} (hterminal : terminal ∈ persisting tasks) {root : ResultsRoot}
    (hrefiles : k.root.Refiles generation terminal root) : (k.withRoot root).Kept := by
  have hsettling := h.settling tasks hmember
  obtain ⟨hclosed, hshown, hopen⟩ := persisting_shows hsettling hterminal
  have hcurrent := mirrors_currentId hshown hsettling.structured.controlled
  have hholds := h.holds tasks hmember _ hcurrent
  refine ⟨h.settling, h.distinct, h.started, ?_, h.texts, ?_, h.archived, h.ended, ?_,
    h.ownArchived⟩
  · intro other hother runId hid
    have hheld := h.holds other hother runId hid
    refine ⟨?_, hheld.archived, hheld.ended, hheld.frozen⟩
    intro result hget
    rcases hrefiles.get? hget with hkept | ⟨rfl, rfl⟩
    · exact hheld.filed result hkept
    · obtain rfl := h.unique hother hmember hid hcurrent
      exact ⟨hclosed, hshown⟩
  · intro runId result hget
    rcases hrefiles.get? hget with hkept | ⟨rfl, rfl⟩
    · exact h.filed runId result hkept
    · exact ⟨h.texts _ (h.started tasks hmember _ hcurrent), rfl, hshown.finished⟩
  · intro runId result final hget hfinal
    rcases hrefiles.get? hget with hkept | ⟨rfl, rfl⟩
    · exact h.own runId result final hkept hfinal
    · exact absurd hopen (hholds.ended final hfinal).1

/-! ## Every step -/

variable {pb : Protobuf}

/-- The current controller has gone on, and nothing else has changed. -/
theorem moved_current (hcurrent : k.current = some tasks) (later : TrafficTasks)
    (lock : LifecycleHolder)
    (hfrozen : tasks.controller.frozenResult = none → later.controller.frozenResult = none) :
    Moved k { k with current := some later, lock := lock } k.retired.length tasks later where
  get := getElem?_current hcurrent
  controllers := controllers_withCurrent hcurrent
  startedIds := rfl
  results := rfl
  summaries := rfl
  volatileResults := rfl
  ended := by rw [SimulatorService.follow_of_same hfrozen]

/-- The current controller has taken a step of its own. -/
theorem moved_acted (hcurrent : k.current = some tasks) (later : TrafficTasks)
    (input : Option FinishInput) :
    Moved k (((k.withCurrent later).follow tasks.controller later.controller).endThread
      k.retired.length tasks input) k.retired.length tasks later :=
  ⟨getElem?_current hcurrent, controllers_withCurrent hcurrent, rfl, rfl, rfl, rfl, rfl⟩

/-- A controller that was dropped has taken a step of its own. -/
theorem moved_outlived {generation : Nat} (hget : k.retired[generation]? = some tasks)
    (later : TrafficTasks) (input : Option FinishInput) :
    Moved k (({ k with retired := k.retired.set generation later }.follow tasks.controller
      later.controller).endThread generation tasks input) generation tasks later := by
  have hbound := (List.getElem?_eq_some_iff.mp hget).1
  exact ⟨(List.getElem?_append_left hbound).trans hget, (List.set_append_left _ _ hbound).symm, rfl,
    rfl, rfl, rfl, rfl⟩

/-- The tasks of a controller after `start`. -/
theorem settling_started (hsettling : Settling tasks) (hover : AllOver tasks) (m : Moment)
    (runId : String) (request : TrafficRunRequest) (scenario : Scenario)
    (baseline : FailedReceptionSample) :
    Settling (tasks.started m runId request (some scenario) (some baseline)) := by
  have hstep : TrafficTasks.step TrafficTasks.pairProtobuf tasks
      (.start m runId request (some scenario) (some baseline)) =
        some (tasks.started m runId request (some scenario) (some baseline)) := by
    unfold TrafficTasks.step
    exact if_pos (List.all_eq_true.mpr hover)
  exact hsettling.start TrafficTasks.pairProtobuf hstep

/-- No step breaks what is kept. -/
theorem Kept.step (h : k.Kept) (hstep : Step pb k l) : l.Kept := by
  have hmember : ∀ tasks, k.current = some tasks → tasks ∈ k.controllers :=
    fun tasks hcurrent => List.mem_of_getElem? (getElem?_current hcurrent)
  cases hstep with
  | locked lock hidle => exact h.congr rfl rfl rfl rfl rfl
  | created scenario hardwareIds buildMetadata settleSeconds failedReceptionSampler hnone hlock =>
      exact h.created hnone (TrafficTasks.settling_new _ _ _ _ _) rfl
  | noted tasks later hcurrent hnoted =>
      have hmoved := moved_current hcurrent later k.lock
        (SimulatorService.frozenResult_of_neutral hnoted.neutral)
      have hsettling := h.settling tasks (hmember tasks hcurrent)
      exact h.moved hmoved (.of_noted hsettling.structured.controlled hnoted)
        (settling_noted hsettling hnoted)
  | acted tasks later a hcurrent hown hagrees hstep =>
      have hsettling := h.settling tasks (hmember tasks hcurrent)
      exact h.moved (moved_acted hcurrent later a.finishInput)
        (.of_step pb hsettling hown.starts hstep)
        (hsettling.step pb hown.starts hown.calls hstep)
  | outlived generation tasks later a hget hown hagrees hstep =>
      have hmoved := moved_outlived hget later a.finishInput
      have hsettling := h.settling tasks (List.mem_of_getElem? hmoved.get)
      exact h.moved hmoved (.of_step pb hsettling hown.starts hstep)
        (hsettling.step pb hown.starts hown.calls hstep)
  | called tasks m kind lock hcurrent hover hlock =>
      have hsettling := h.settling tasks (hmember tasks hcurrent)
      have hcall : TrafficTasks.step pb tasks (.call m kind) = some (calling tasks m kind) := rfl
      have hmoved := moved_current hcurrent (calling tasks m kind) lock
        (SimulatorService.frozenResult_calling hsettling.toSound m kind)
      exact h.moved hmoved (.of_step pb hsettling rfl hcall) (hsettling.call pb hover m kind hcall)
  | begun tasks c m runId request scenario baseline hcurrent hover hfresh hidle hstart =>
      have hsettling := settling_started (h.settling tasks (hmember tasks hcurrent)) hover m runId
        request scenario baseline
      unfold TrafficTasks.started at hsettling
      rw [hstart] at hsettling
      obtain ⟨_, hstarted, hresults, hsummaries, _⟩ := k.archive_still tasks.controller
      rcases TrafficController.start_outcomes hstart with
        ⟨_, _, houtcome, _⟩ | ⟨_, _, ids, accumulators, run, hrun, _, hc⟩
      · cases houtcome
      · have hsame := (k.archive_current tasks.controller).trans hcurrent
        refine (h.archive (hmember tasks hcurrent)).begun hsame ?_ hsettling ?_ ?_
        · exact ⟨hfresh.text, hstarted ▸ hfresh.unstarted, hresults ▸ hfresh.unexported,
            hsummaries ▸ hfresh.unsummarized⟩
        · rw [hc, ← hrun]
          rfl
        · rw [hc]
          rfl
  | rejected tasks c m runId request scenario baseline error hcurrent hover hidle hstart =>
      have hsettling := settling_started (h.settling tasks (hmember tasks hcurrent)) hover m runId
        request scenario baseline
      unfold TrafficTasks.started at hsettling
      rw [hstart] at hsettling
      rcases TrafficController.start_outcomes hstart with
        ⟨_, ids, _, hc⟩ | ⟨houtcome, _⟩
      · have harchived := (k.archive_current tasks.controller).trans hcurrent
        have hpursues : Pursues tasks (tasks.withController c) := by
          rw [hc]
          exact .of_ids tasks ids
        have hmoved := moved_current harchived (tasks.withController c)
          (k.archive tasks.controller).lock (fun hnone => by rw [hc]; exact hnone)
        exact (h.archive (hmember tasks hcurrent)).moved hmoved hpursues hsettling
      · cases houtcome
  | stopped kind i tasks caller hlock hcurrent hget hreturned =>
      exact (h.archive (hmember tasks hcurrent)).congr rfl rfl rfl rfl rfl
  | outlasted kind i tasks caller hlock hcurrent hget hreturned =>
      exact h.congr rfl rfl rfl rfl rfl
  | dropped kind tasks lock hlock hcurrent hidle =>
      refine h.congr ?_ rfl rfl rfl rfl
      unfold controllers
      rw [hcurrent]
      exact List.append_nil _
  | filed generation tasks terminal root hget hterminal hrefiles =>
      exact h.refiled (List.mem_of_getElem? hget) hterminal hrefiles
  | settled generation tasks hget hlate hdone =>
      exact (h.congr rfl rfl rfl rfl rfl : Kept { k with
        lateFinalizations := k.lateFinalizations.erase generation }).archive
          (List.mem_of_getElem? hget)

end Custody

end MeshtasticLab.Simulator

/-
  Simulator/Threads.lean --- the persistence threads and the files of the runs.

  WHAT THIS FILE IS FOR

  The thread of a controller renames the export and after it the summary, or it unlinks
  both and raises.  `Threaded` says what the place of the thread tells of these files,
  and what is left when it is over: a frozen result has its export, or its persistence
  has raised, and an export without a frozen result is the one of a thread that goes on
  or of a persistence that has raised.
-/
import MeshtasticLab.Simulator.Keeping

set_option autoImplicit false

namespace MeshtasticLab.Simulator

open MeshtasticLab.Foundation MeshtasticLab.Gateway MeshtasticLab.Metrics MeshtasticLab.Traffic
open MeshtasticLab.Traffic.TrafficTasks (Persists Settling)
open SimulatorService (AllOver calling persisting ThreadAgrees threadsAfter unpersistedAfter)

/-! ## The end of a thread -/

theorem get?_threadsAfter (threads : Dict Nat ThreadPc) (generation other : Nat)
    (input : Option FinishInput) : (threadsAfter threads generation input).get? other =
      if other = generation ∧ input.any FinishInput.ends = true then none
      else threads.get? other := by
  have herased : (threads.erase generation).get? other =
      if other = generation ∧ true = true then none else threads.get? other := by
    rw [Dict.get?_erase]
    simp only [and_true]
  have hkept : threads.get? other =
      if other = generation ∧ false = true then none else threads.get? other := by
    rw [if_neg fun hends => Bool.false_ne_true hends.2]
  cases input with
  | none => exact hkept
  | some input =>
      cases input with
      | persisted => exact herased
      | persistenceRaised exception => exact herased
      | _ => exact hkept

theorem subset_unpersistedAfter (unpersisted : List String) (tasks : TrafficTasks)
    (input : Option FinishInput) : unpersisted ⊆ unpersistedAfter unpersisted tasks input := by
  unfold unpersistedAfter
  split
  · exact List.subset_append_left _ _
  · exact List.Subset.refl _

namespace Custody

variable {k l : Custody} {tasks later : TrafficTasks} {runId : String}

/-! ## Threads and files -/

/-- What the place of its thread tells of the files of a controller's run. -/
structure Traced (k : Custody) (generation : Nat) (runId : String) (tasks : TrafficTasks) :
    Prop where
  exported : k.threads.get? generation = some .renamed ∨
    k.threads.get? generation = some .written → k.results.contains runId = true
  written : tasks.controller.frozenResult = none → k.summaries.contains runId = true →
    k.threads.get? generation = some .written
  copying : 0 < tasks.finishers FinishPc.copies → runId ∈ k.unpersistedIds
  stored : tasks.controller.frozenResult ≠ none →
    k.results.contains runId = true ∨ runId ∈ k.unpersistedIds
  unsettled : tasks.controller.frozenResult = none → k.results.contains runId = true →
    k.threads.get? generation ≠ none ∨ runId ∈ k.unpersistedIds

/-- A thread is that of a task that waits for it, a summary stands beside an export, and the
files of every controller's run are where its thread says. -/
structure Threaded (k : Custody) : Prop where
  inHand : ∀ generation, k.threads.get? generation ≠ none →
    ∃ tasks, k.controllers[generation]? = some tasks ∧ 0 < tasks.finishers FinishPc.persists
  summarized : ∀ runId, k.summaries.contains runId = true → k.results.contains runId = true
  traced : ∀ generation tasks runId, k.controllers[generation]? = some tasks →
    tasks.controller.currentId = some runId → k.Traced generation runId tasks

theorem Traced.congr {generation : Nat} (h : k.Traced generation runId tasks)
    (hresults : l.results.get? runId = k.results.get? runId)
    (hsummaries : l.summaries.get? runId = k.summaries.get? runId)
    (hthreads : l.threads.get? generation = k.threads.get? generation)
    (hunpersisted : k.unpersistedIds ⊆ l.unpersistedIds) : l.Traced generation runId tasks := by
  have hcontains : l.results.contains runId = k.results.contains runId := by
    rw [Dict.contains, Dict.contains, hresults]
  refine ⟨?_, ?_, fun hcopies => hunpersisted (h.copying hcopies), ?_, ?_⟩
  · rw [hthreads, hcontains]
    exact h.exported
  · rw [hthreads, Dict.contains, hsummaries]
    exact h.written
  · rw [hcontains]
    exact fun hfrozen => (h.stored hfrozen).imp id fun hmember => hunpersisted hmember
  · rw [hthreads, hcontains]
    exact fun hopen hresult =>
      (h.unsettled hopen hresult).imp id fun hmember => hunpersisted hmember

theorem Threaded.congr (h : k.Threaded) (hcontrollers : l.controllers = k.controllers)
    (hresults : l.results = k.results) (hsummaries : l.summaries = k.summaries)
    (hthreads : l.threads = k.threads) (hunpersisted : l.unpersistedIds = k.unpersistedIds) :
    l.Threaded where
  inHand := hthreads ▸ hcontrollers ▸ h.inHand
  summarized := hresults ▸ hsummaries ▸ h.summarized
  traced generation tasks runId hget hid :=
    (h.traced generation tasks runId (hcontrollers ▸ hget) hid).congr (by rw [hresults])
      (by rw [hsummaries]) (by rw [hthreads]) (hunpersisted ▸ List.Subset.refl _)

/-- A controller without a task that waits has no thread. -/
theorem Threaded.threadless (h : k.Threaded) {generation : Nat}
    (hget : k.controllers[generation]? = some tasks)
    (hidle : tasks.finishers FinishPc.persists = 0) : k.threads.get? generation = none := by
  by_contra hthread
  obtain ⟨other, hother, hwaits⟩ := h.inHand generation hthread
  obtain rfl := Option.some.inj (hget.symm.trans hother)
  omega

/-! ## A controller goes on -/

theorem Traced.moved {i : Nat} {input : Option FinishInput} (h : k.Traced i runId tasks)
    (hcontinues : tasks.controller.Continues later.controller)
    (hpersists : Persists tasks input later) (hagrees : ThreadAgrees k.threads i input)
    (hresults : l.results = k.results) (hsummaries : l.summaries = k.summaries)
    (hthreads : l.threads = threadsAfter k.threads i input)
    (hunpersisted : l.unpersistedIds = unpersistedAfter k.unpersistedIds tasks input)
    (hheld : ∀ terminal ∈ persisting tasks, terminal.runId = runId) : l.Traced i runId later := by
  have hopen : later.controller.frozenResult = none → tasks.controller.frozenResult = none := by
    intro hnone
    by_contra hfrozen
    exact hcontinues.frozenResult hfrozen hnone
  have hstays : runId ∈ k.unpersistedIds → runId ∈ l.unpersistedIds := fun hmember =>
    hunpersisted ▸ subset_unpersistedAfter _ _ _ hmember
  -- When the persistence raises, the run is one of those whose persistence has raised.
  have hraised : ∀ exception, input = some (.persistenceRaised exception) →
      runId ∈ l.unpersistedIds := by
    rintro exception rfl
    obtain ⟨terminal, hterminal⟩ := TrafficTasks.waits_iff_inHand.mp (hpersists.raised rfl)
    have hmember := mem_persisting.mpr hterminal
    rw [hunpersisted]
    exact List.mem_append_right _ (List.mem_map.mpr ⟨terminal, hmember, hheld terminal hmember⟩)
  have hcopying : 0 < later.finishers FinishPc.copies → runId ∈ l.unpersistedIds := by
    intro hcopies
    rcases hpersists.copies hcopies with hbefore | ⟨exception, hinput⟩
    · exact hstays (h.copying hbefore)
    · exact hraised exception hinput
  have hget := get?_threadsAfter k.threads i i input
  rw [← hthreads] at hget
  simp only [true_and] at hget
  cases hends : input.any FinishInput.ends with
  | false =>
      rw [hends, if_neg Bool.false_ne_true] at hget
      refine ⟨?_, ?_, hcopying, ?_, ?_⟩
      · rw [hget, hresults]
        exact h.exported
      · rw [hget, hsummaries]
        exact fun hnone => h.written (hopen hnone)
      · rw [hresults]
        intro hfrozen
        rcases hpersists.freezes hfrozen with hbefore | rfl | hcopies
        · exact (h.stored hbefore).imp id hstays
        · cases hends
        · exact Or.inr (hstays (h.copying hcopies))
      · rw [hget, hresults]
        exact fun hnone hresult => (h.unsettled (hopen hnone) hresult).imp id hstays
  | true =>
      rw [hends, if_pos rfl] at hget
      have hover : ∀ pc, l.threads.get? i ≠ some pc := fun pc hthread => by
        rw [hget] at hthread
        cases hthread
      have hexported : l.threads.get? i = some .renamed ∨ l.threads.get? i = some .written →
          l.results.contains runId = true := fun hthread =>
        hthread.elim (fun hrenamed => absurd hrenamed (hover _))
          fun hwritten => absurd hwritten (hover _)
      cases input with
      | none => cases hends
      | some input =>
          cases input with
          | persisted =>
              have hfrozen := hpersists.persisted rfl
              refine ⟨hexported, fun hnone => absurd hnone hfrozen, hcopying, fun _ => Or.inl ?_,
                fun hnone => absurd hnone hfrozen⟩
              rw [hresults]
              exact h.exported (Or.inr hagrees)
          | persistenceRaised exception =>
              have hmember := hraised exception rfl
              refine ⟨hexported, fun hnone hsummary => ?_, hcopying, fun _ => Or.inr hmember,
                fun _ _ => Or.inr hmember⟩
              rw [hsummaries] at hsummary
              exact absurd (h.written (hopen hnone) hsummary) hagrees
          | _ => cases hends

/-- One controller goes on, and its thread may end. -/
theorem Threaded.moved (h : k.Threaded) (hkept : k.Kept) {i : Nat} {input : Option FinishInput}
    (hmoved : Moved k l i tasks later)
    (hcontinues : tasks.controller.Continues later.controller)
    (hpersists : Persists tasks input later) (hagrees : ThreadAgrees k.threads i input)
    (hthreads : l.threads = threadsAfter k.threads i input)
    (hunpersisted : l.unpersistedIds = unpersistedAfter k.unpersistedIds tasks input) :
    l.Threaded := by
  have hsettling := hkept.settling tasks (List.mem_of_getElem? hmoved.get)
  have hothers : ∀ j, j ≠ i → l.threads.get? j = k.threads.get? j := by
    intro j hj
    rw [hthreads, get?_threadsAfter, if_neg fun hends => hj hends.1]
  refine ⟨?_, ?_, ?_⟩
  · intro j hthread
    by_cases hj : j = i
    · subst hj
      rw [hthreads, get?_threadsAfter] at hthread
      split at hthread
      · exact absurd rfl hthread
      · next hends =>
          obtain ⟨other, hother, hwaits⟩ := h.inHand j hthread
          obtain rfl := Option.some.inj (hmoved.get.symm.trans hother)
          refine ⟨later, ?_, (hpersists.waits hwaits).resolve_right fun htrue => hends ⟨rfl, htrue⟩⟩
          rw [hmoved.controllers]
          exact List.getElem?_set_self (List.getElem?_eq_some_iff.mp hother).1
    · rw [hothers j hj] at hthread
      obtain ⟨other, hother, hwaits⟩ := h.inHand j hthread
      refine ⟨other, ?_, hwaits⟩
      rw [hmoved.controllers, List.getElem?_set_ne fun heq => hj heq.symm]
      exact hother
  · rw [hmoved.results, hmoved.summaries]
    exact h.summarized
  · intro j other runId hget hid
    rcases hmoved.place hget with ⟨rfl, rfl⟩ | ⟨hj, hold⟩
    · rw [hcontinues.currentId] at hid
      refine (h.traced j tasks runId hmoved.get hid).moved hcontinues hpersists hagrees
        hmoved.results hmoved.summaries hthreads hunpersisted fun terminal hterminal => ?_
      have hshown := (persisting_shows hsettling hterminal).2.1
      have hcurrent := mirrors_currentId hshown hsettling.structured.controlled
      exact Option.some.inj (hcurrent.symm.trans hid)
    · exact (h.traced j other runId hold hid).congr (by rw [hmoved.results])
        (by rw [hmoved.summaries]) (hothers j hj)
        (hunpersisted ▸ subset_unpersistedAfter _ _ _)

/-! ## Files -/

/-- The run whose files the thread has in hand is traced to its new place. -/
theorem Traced.refiled {generation : Nat} {terminal : TrafficRunResult} {root : ResultsRoot}
    (h : k.Traced generation terminal.runId tasks)
    (hopen : tasks.controller.frozenResult = none)
    (hrefiles : k.root.Refiles generation terminal root) :
    (k.withRoot root).Traced generation terminal.runId tasks := by
  have hplace : ∀ pc : ThreadPc, (k.threads.set generation pc).get? generation = some pc :=
    fun pc => Dict.get?_set_self _ _ _
  have hpresent : ∀ pc : ThreadPc, (k.threads.set generation pc).get? generation ≠ none := by
    intro pc hnone
    cases (hplace pc).symm.trans hnone
  -- A thread that unlinks has renamed nothing that stays.
  have hunlinks : ∀ pc : ThreadPc, pc ≠ .renamed → pc ≠ .written →
      ¬((k.threads.set generation pc).get? generation = some .renamed ∨
        (k.threads.set generation pc).get? generation = some .written) := by
    intro pc hrenamed hwritten
    simp only [hplace, Option.some.injEq, not_or]
    exact ⟨hrenamed, hwritten⟩
  have hunfrozen : tasks.controller.frozenResult ≠ none →
      root.results.contains terminal.runId = true ∨ terminal.runId ∈ k.unpersistedIds :=
    fun hfrozen => absurd hopen hfrozen
  -- A summary is there only when the thread has renamed it.
  have hunsummarized : k.threads.get? generation ≠ some .written →
      k.summaries.contains terminal.runId ≠ true := fun hthread hsummary =>
    hthread (h.written hopen hsummary)
  cases hrefiles with
  | replaceResult hthread =>
      refine ⟨fun _ => ?_, fun _ hsummary => ?_, h.copying, hunfrozen,
        fun _ _ => Or.inl (hpresent .renamed)⟩
      · exact (Dict.contains_set _ _ _ _).mpr (Or.inl rfl)
      · refine absurd hsummary (hunsummarized fun hwritten => ?_)
        cases hthread.symm.trans hwritten
  | replaceSummary hthread =>
      exact ⟨fun _ => h.exported (Or.inl hthread), fun _ _ => hplace .written, h.copying,
        hunfrozen, fun _ _ => Or.inl (hpresent .written)⟩
  | unlinkResult hthread =>
      have hunwritten : k.threads.get? generation ≠ some .written := by
        intro hwritten
        rcases hthread with hnone | hrenamed
        · cases hwritten.symm.trans hnone
        · cases hwritten.symm.trans hrenamed
      exact ⟨fun hplaced => absurd hplaced (hunlinks .removing (by decide) (by decide)),
        fun _ hsummary => absurd hsummary (hunsummarized hunwritten), h.copying, hunfrozen,
        fun _ _ => Or.inl (hpresent .removing)⟩
  | unlinkSummary hthread =>
      refine ⟨fun hplaced => absurd hplaced (hunlinks .removed (by decide) (by decide)),
        fun _ hsummary => ?_, h.copying, hunfrozen, fun _ _ => Or.inl (hpresent .removed)⟩
      change (k.summaries.erase terminal.runId).contains terminal.runId = true at hsummary
      rw [Dict.contains, Dict.get?_erase, if_pos rfl] at hsummary
      cases hsummary

/-- A summary stands beside an export after an operation of the thread, too. -/
theorem summarized_refiles {generation : Nat} {terminal : TrafficRunResult} {root : ResultsRoot}
    (h : k.Traced generation terminal.runId tasks)
    (hsummarized : ∀ runId, k.summaries.contains runId = true → k.results.contains runId = true)
    (hopen : tasks.controller.frozenResult = none)
    (hrefiles : k.root.Refiles generation terminal root) (runId : String)
    (hsummary : root.summaries.contains runId = true) : root.results.contains runId = true := by
  by_cases hid : runId = terminal.runId
  · subst hid
    have htraced := h.refiled hopen hrefiles
    exact htraced.exported (Or.inr (htraced.written hopen hsummary))
  · obtain ⟨hresults, hsummaries⟩ := hrefiles.others.1 runId hid
    rw [Dict.contains, hsummaries] at hsummary
    rw [Dict.contains, hresults]
    exact hsummarized runId hsummary

/-- A file is renamed or unlinked. -/
theorem Threaded.refiled (h : k.Threaded) (hkept : k.Kept) {generation : Nat}
    (hget : k.controllers[generation]? = some tasks) {terminal : TrafficRunResult}
    (hterminal : terminal ∈ persisting tasks) {root : ResultsRoot}
    (hrefiles : k.root.Refiles generation terminal root) : (k.withRoot root).Threaded := by
  have hsettling := hkept.settling tasks (List.mem_of_getElem? hget)
  obtain ⟨_, hshown, hopen⟩ := persisting_shows hsettling hterminal
  have hcurrent := mirrors_currentId hshown hsettling.structured.controlled
  have htraced := h.traced generation tasks _ hget hcurrent
  refine ⟨?_, summarized_refiles htraced h.summarized hopen hrefiles, ?_⟩
  · intro other hthread
    by_cases hother : other = generation
    · subst hother
      exact ⟨tasks, hget, TrafficTasks.waits_iff_inHand.mpr ⟨terminal,
        mem_persisting.mp hterminal⟩⟩
    · exact h.inHand other (hrefiles.others.2 other hother ▸ hthread)
  · intro i other runId hother hid
    by_cases hplace : i = generation
    · subst hplace
      obtain rfl := Option.some.inj (hget.symm.trans hother)
      obtain rfl := Option.some.inj (hcurrent.symm.trans hid)
      exact htraced.refiled hopen hrefiles
    · have hrun : runId ≠ terminal.runId := by
        rintro rfl
        exact hplace (hkept.distinct i generation other tasks _ hother hget hid hcurrent)
      obtain ⟨hresults, hsummaries⟩ := hrefiles.others.1 runId hrun
      exact (h.traced i other runId hother hid).congr hresults hsummaries
        (hrefiles.others.2 i hplace) (List.Subset.refl _)

/-! ## Runs -/

/-- The current controller starts a run under a new id. -/
theorem Threaded.begun (h : k.Threaded) (hcurrent : k.current = some tasks)
    (hover : ∀ p, FinishPc.Held p → tasks.finishers p = 0) (hfresh : k.Fresh runId)
    (hid : later.controller.currentId = some runId)
    (hopen : later.controller.frozenResult = none)
    (hidle : ∀ p, FinishPc.Held p → later.finishers p = 0) :
    ((k.withCurrent later).register runId).Threaded := by
  have hplace := getElem?_current hcurrent
  have hthread := h.threadless hplace (hover _ held_persists)
  have hset : ∀ i, i ≠ k.retired.length →
      (k.withCurrent later).controllers[i]? = k.controllers[i]? := by
    intro i hi
    rw [controllers_withCurrent hcurrent, List.getElem?_set_ne fun heq => hi heq.symm]
  refine ⟨?_, h.summarized, ?_⟩
  · intro i hstarted
    obtain ⟨other, hother, hwaits⟩ := h.inHand i hstarted
    refine ⟨other, ?_, hwaits⟩
    refine (hset i ?_).trans hother
    rintro rfl
    exact hstarted hthread
  · intro i other otherId hother hotherId
    by_cases hi : i = k.retired.length
    · subst hi
      change (k.withCurrent later).controllers[_]? = some other at hother
      rw [controllers_withCurrent hcurrent, List.getElem?_set_self
        (List.getElem?_eq_some_iff.mp hplace).1] at hother
      obtain rfl := Option.some.inj hother
      obtain rfl := Option.some.inj (hid.symm.trans hotherId)
      have hunthreaded : ∀ pc, k.threads.get? k.retired.length ≠ some pc := fun pc hpc => by
        cases hthread.symm.trans hpc
      refine ⟨?_, fun _ hsummary => ?_, fun hcopies => ?_, fun hfrozen => absurd hopen hfrozen,
        fun _ hresult => ?_⟩
      · rintro (hrenamed | hwritten)
        · exact absurd hrenamed (hunthreaded _)
        · exact absurd hwritten (hunthreaded _)
      · cases hfresh.unsummarized.symm.trans hsummary
      · rw [hidle _ held_copies] at hcopies
        cases hcopies
      · cases hfresh.unexported.symm.trans hresult
    · exact (h.traced i other otherId ((hset i hi).symm.trans hother) hotherId).congr rfl rfl rfl
        (List.Subset.refl _)

/-- A controller without a run is created. -/
theorem Threaded.created (h : k.Threaded) (hnone : k.current = none)
    (hidle : tasks.controller.currentId = none) : (k.withCurrent tasks).Threaded := by
  have hcontrollers : (k.withCurrent tasks).controllers = k.controllers ++ [tasks] := by
    unfold controllers withCurrent
    rw [hnone]
    simp
  refine ⟨?_, h.summarized, ?_⟩
  · intro i hthread
    obtain ⟨other, hother, hwaits⟩ := h.inHand i hthread
    refine ⟨other, ?_, hwaits⟩
    rw [hcontrollers, List.getElem?_append_left (List.getElem?_eq_some_iff.mp hother).1]
    exact hother
  · intro i other runId hother hid
    rw [hcontrollers] at hother
    by_cases hi : i < k.controllers.length
    · rw [List.getElem?_append_left hi] at hother
      exact (h.traced i other runId hother hid).congr rfl rfl rfl (List.Subset.refl _)
    · rw [List.getElem?_append_right (by omega)] at hother
      rw [List.mem_singleton.mp (List.mem_of_getElem? hother), hidle] at hid
      cases hid

/-! ## Every step -/

theorem Threaded.archive (h : k.Threaded) (c : TrafficController) : (k.archive c).Threaded := by
  rcases k.archive_cases c with hsame | ⟨result, _, harchive⟩
  · rw [hsame]
    exact h
  · rw [harchive]
    exact h.congr rfl rfl rfl rfl rfl

/-- The threads of a controller that takes no part in what happens to it stay. -/
theorem persists_noted (hnoted : Noted tasks later) : Persists tasks none later :=
  (TrafficTasks.rests_of_neutral hnoted.neutral).persists rfl

/-- No step parts the threads from the files. -/
theorem Threaded.step {pb : Protobuf} (h : k.Threaded) (hkept : k.Kept) (hstep : Step pb k l) :
    l.Threaded := by
  have hmember : ∀ tasks, k.current = some tasks → tasks ∈ k.controllers :=
    fun tasks hcurrent => List.mem_of_getElem? (getElem?_current hcurrent)
  cases hstep with
  | locked lock hidle => exact h.congr rfl rfl rfl rfl rfl
  | created scenario hardwareIds buildMetadata settleSeconds failedReceptionSampler hnone hlock =>
      exact h.created hnone rfl
  | noted tasks later hcurrent hnoted =>
      have hsettling := hkept.settling tasks (hmember tasks hcurrent)
      have hmoved := moved_current hcurrent later k.lock
        (SimulatorService.frozenResult_of_neutral hnoted.neutral)
      exact h.moved hkept hmoved (hnoted.neutral.continues hsettling.structured.controlled)
        (persists_noted hnoted) trivial rfl rfl
  | acted tasks later a hcurrent hown hagrees hstep =>
      have hsettling := hkept.settling tasks (hmember tasks hcurrent)
      exact h.moved hkept (moved_acted hcurrent later a.finishInput)
        (TrafficTasks.continues_step pb hsettling.structured hown.starts hstep)
        (TrafficTasks.persists_step pb hsettling.structured hown.starts hstep) hagrees rfl rfl
  | outlived generation tasks later a hget hown hagrees hstep =>
      have hmoved := moved_outlived hget later a.finishInput
      have hsettling := hkept.settling tasks (List.mem_of_getElem? hmoved.get)
      exact h.moved hkept hmoved
        (TrafficTasks.continues_step pb hsettling.structured hown.starts hstep)
        (TrafficTasks.persists_step pb hsettling.structured hown.starts hstep) hagrees rfl rfl
  | called tasks m kind lock hcurrent hover hlock =>
      have hsettling := hkept.settling tasks (hmember tasks hcurrent)
      have hcall : TrafficTasks.step pb tasks (.call m kind) = some (calling tasks m kind) := rfl
      have hmoved := moved_current hcurrent (calling tasks m kind) lock
        (SimulatorService.frozenResult_calling hsettling.toSound m kind)
      exact h.moved hkept hmoved (TrafficTasks.continues_step pb hsettling.structured rfl hcall)
        (TrafficTasks.persists_step pb hsettling.structured rfl hcall) trivial rfl rfl
  | begun tasks c m runId request scenario baseline hcurrent hover hfresh hidle hstart =>
      rcases TrafficController.start_outcomes hstart with
        ⟨_, _, houtcome, _⟩ | ⟨_, hactive, ids, accumulators, run, hrun, _, hc⟩
      · cases houtcome
      · obtain ⟨_, hstarted, hresults, hsummaries, _⟩ := k.archive_still tasks.controller
        have hended : tasks.runTask = .done := by simpa using hactive
        refine (h.archive tasks.controller).begun ((k.archive_current _).trans hcurrent)
          (fun p hp => TrafficTasks.finishers_of_over hended hover hp) ?_ ?_ ?_ fun p hp => ?_
        · exact ⟨hfresh.text, hstarted ▸ hfresh.unstarted, hresults ▸ hfresh.unexported,
            hsummaries ▸ hfresh.unsummarized⟩
        · rw [hc, ← hrun]
          rfl
        · rw [hc]
          rfl
        · rfl
  | rejected tasks c m runId request scenario baseline error hcurrent hover hidle hstart =>
      rcases TrafficController.start_outcomes hstart with ⟨_, ids, _, rfl⟩ | ⟨houtcome, _⟩
      · have hmoved := moved_current ((k.archive_current tasks.controller).trans hcurrent)
          (tasks.withController { tasks.controller with packetIds := ids })
          (k.archive tasks.controller).lock id
        have hrests : TrafficTasks.Rests tasks
            (tasks.withController { tasks.controller with packetIds := ids }) :=
          ⟨fun _ _ => rfl, rfl⟩
        have hpersists : Persists tasks none _ := hrests.persists rfl
        exact (h.archive tasks.controller).moved (hkept.archive (hmember tasks hcurrent)) hmoved
          ⟨rfl, le_refl _⟩ hpersists trivial rfl rfl
      · cases houtcome
  | stopped kind i tasks caller hlock hcurrent hget hreturned =>
      exact (h.archive tasks.controller).congr rfl rfl rfl rfl rfl
  | outlasted kind i tasks caller hlock hcurrent hget hreturned => exact h.congr rfl rfl rfl rfl rfl
  | dropped kind tasks lock hlock hcurrent hidle =>
      refine h.congr ?_ rfl rfl rfl rfl
      unfold controllers
      rw [hcurrent]
      exact List.append_nil _
  | filed generation tasks terminal root hget hterminal hrefiles =>
      exact h.refiled hkept hget hterminal hrefiles
  | settled generation tasks hget hlate hdone =>
      exact (h.congr rfl rfl rfl rfl rfl : Threaded { k with
        lateFinalizations := k.lateFinalizations.erase generation }).archive tasks.controller

end Custody

end MeshtasticLab.Simulator

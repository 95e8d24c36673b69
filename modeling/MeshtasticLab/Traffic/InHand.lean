/-
  Traffic/InHand.lean --- results in the hands of the persistence thread.

  WHAT THIS FILE IS FOR

  `_finish` hands its result to `_freeze_and_persist` and freezes it when that returns;
  when it raises, `_finish` copies the result and freezes the copy.  `HandsOver` says
  that nothing is in the hands of the thread that was not handed over, and `Persists`
  what a step does to the tasks that wait for the thread or for the copy, by what
  `_finish` is resumed with.
-/
import MeshtasticLab.Traffic.Settling

set_option autoImplicit false

namespace MeshtasticLab.Traffic

open MeshtasticLab.Foundation MeshtasticLab.Gateway MeshtasticLab.Metrics MeshtasticLab.Models
open TrafficController

namespace TrafficTasks

variable {s t u : TrafficTasks}

/-! ## What is handed over -/

/-- The persistence thread has the result. -/
def InHand (s : TrafficTasks) (terminal : TrafficRunResult) : Prop :=
  (∃ target, s.runTask = .finishing target (.persisting terminal)) ∨
    ∃ caller ∈ s.callers, ∃ target, caller.pc = .finishing target (.persisting terminal)

/-- What is handed over stays so, and what the thread gets is handed over. -/
structure HandsOver (s t : TrafficTasks) : Prop where
  calls : ∀ terminal ∈ s.persistCalls, terminal ∈ t.persistCalls
  inHand : ∀ terminal, t.InHand terminal → s.InHand terminal ∨ terminal ∈ t.persistCalls

/-- The position is not one in which the thread has a result. -/
theorem not_persisting_of_idle {pc : CallerPc} (hidle : pc.active = false)
    {target : TrafficRunState} {terminal : TrafficRunResult} :
    pc ≠ .finishing target (.persisting terminal) := by
  rintro rfl
  cases hidle

theorem FinishPc.eq_persisting_of_wake {pc : FinishPc} {terminal : TrafficRunResult}
    (h : pc.wake = .persisting terminal) : pc = .persisting terminal := by
  cases pc with
  | awaiting woken => cases h
  | _ => exact h

theorem RunPc.eq_persisting_of_wake {pc : RunPc} {target : TrafficRunState}
    {terminal : TrafficRunResult} (h : pc.wake = .finishing target (.persisting terminal)) :
    pc = .finishing target (.persisting terminal) := by
  cases pc with
  | finishing other held =>
      obtain ⟨rfl, hheld⟩ := RunPc.finishing.inj h
      rw [FinishPc.eq_persisting_of_wake hheld]
  | _ => exact h

theorem CallerPc.eq_persisting_of_wake {pc : CallerPc} {target : TrafficRunState}
    {terminal : TrafficRunResult} (h : pc.wake = .finishing target (.persisting terminal)) :
    pc = .finishing target (.persisting terminal) := by
  cases pc with
  | finishing other held =>
      obtain ⟨rfl, hheld⟩ := CallerPc.finishing.inj h
      rw [FinishPc.eq_persisting_of_wake hheld]
  | awaiting woken => cases h
  | _ => exact h

/-- A woken call has no other result in hand. -/
theorem SameCalls.persisting {callers later : List Caller} (h : SameCalls callers later)
    {target : TrafficRunState} {terminal : TrafficRunResult} {caller : Caller}
    (hmember : caller ∈ later) (hpc : caller.pc = .finishing target (.persisting terminal)) :
    ∃ old ∈ callers, ∃ target, old.pc = .finishing target (.persisting terminal) := by
  rcases h with rfl | rfl
  · exact ⟨caller, hmember, target, hpc⟩
  · obtain ⟨old, hold, rfl⟩ := List.mem_map.mp hmember
    exact ⟨old, hold, target, CallerPc.eq_persisting_of_wake hpc⟩

/-- No task moves that could have a result in hand. -/
theorem HandsOver.of_same (hcalls : t.persistCalls = s.persistCalls)
    (hrun : ∀ target terminal, t.runTask = .finishing target (.persisting terminal) →
      s.runTask = .finishing target (.persisting terminal))
    (hcallers : SameCalls s.callers t.callers) : HandsOver s t where
  calls terminal hmember := hcalls ▸ hmember
  inHand terminal := by
    rintro (⟨target, hpc⟩ | ⟨caller, hmember, target, hpc⟩)
    · exact Or.inl (Or.inl ⟨target, hrun target terminal hpc⟩)
    · exact Or.inl (Or.inr (hcallers.persisting hmember hpc))

theorem HandsOver.of_neutral {strict : Prop} (hneutral : Neutral strict s t) : HandsOver s t :=
  .of_same hneutral.persistCalls (fun _ _ hpc => hneutral.runTask ▸ hpc)
    (Or.inl hneutral.callers)

/-- What a step of `_finish` has in hand it has handed over. -/
theorem Resumed.handsOver {held : FinishPc} {outcome : FinishOutcome}
    (hresumed : Resumed s held t outcome) : HandsOver s t ∧
      ∀ terminal, outcome = .suspended (.persisting terminal) → terminal ∈ t.persistCalls := by
  cases hresumed with
  | handed captured c terminal hview hfrozen hmirrors =>
      refine ⟨⟨fun _ hmember => List.mem_cons_of_mem _ hmember, fun _ hheld => Or.inl hheld⟩, ?_⟩
      rintro _ ⟨⟩
      exact List.mem_cons_self
  | unpersisted terminal failed hmirrors =>
      refine ⟨.of_same rfl (fun _ _ hpc => hpc) (Or.inl rfl), ?_⟩
      intro other houtcome
      cases houtcome
  | persisted terminal =>
      refine ⟨.of_same rfl (fun _ _ hpc => RunPc.eq_persisting_of_wake hpc) (Or.inr rfl), ?_⟩
      intro other houtcome
      cases houtcome
  | copied terminal =>
      refine ⟨.of_same rfl (fun _ _ hpc => RunPc.eq_persisting_of_wake hpc) (Or.inr rfl), ?_⟩
      intro other houtcome
      cases houtcome

/-- A call that holds no finalization hands nothing over. -/
theorem CallMove.handsOver {strict : Prop} {entry : TrafficTasks × CallerPc}
    (hmove : CallMove strict s entry) : HandsOver s entry.1 ∧
      ∀ target terminal, entry.2 ≠ .finishing target (.persisting terminal) := by
  cases hmove with
  | idle t pc hneutral hphase hidle hwoken hfits =>
      exact ⟨.of_neutral hneutral, fun _ _ => not_persisting_of_idle hidle⟩
  | cancels t runFailed hneutral hphase hdone =>
      have hover := HandsOver.of_neutral hneutral
      exact ⟨⟨hover.calls, hover.inHand⟩, fun _ _ hpc => by cases hpc⟩
  | begin t target m hneutral hphase hover hopen hdone =>
      have hover := HandsOver.of_neutral hneutral
      exact ⟨⟨hover.calls, hover.inHand⟩, fun _ _ hpc => by cases hpc⟩

/-- The run task goes on, and what it has in hand it has handed over. -/
theorem HandsOver.runTask (h : HandsOver s t) {pc : RunPc}
    (hpc : ∀ target terminal, pc = .finishing target (.persisting terminal) →
      terminal ∈ t.persistCalls) : HandsOver s { t with runTask := pc } where
  calls := h.calls
  inHand terminal := by
    rintro (⟨target, hrun⟩ | hcaller)
    · exact Or.inr (hpc target terminal hrun)
    · exact h.inHand terminal (Or.inr hcaller)

/-- A call goes on, and what it has in hand it has handed over. -/
theorem HandsOver.callers (h : HandsOver s t) {callers : List Caller}
    (hcallers : ∀ caller ∈ callers, caller ∈ t.callers ∨ ∀ target terminal,
      caller.pc = .finishing target (.persisting terminal) → terminal ∈ t.persistCalls) :
    HandsOver s { t with callers := callers } where
  calls := h.calls
  inHand terminal := by
    rintro (hrun | ⟨caller, hmember, target, hpc⟩)
    · exact h.inHand terminal (Or.inl hrun)
    · rcases hcallers caller hmember with hold | hnew
      · exact h.inHand terminal (Or.inr ⟨caller, hold, target, hpc⟩)
      · exact Or.inr (hnew target terminal hpc)

theorem RunMove.handsOver {strict : Prop} (hmove : RunMove strict s t) : HandsOver s t := by
  cases hmove with
  | idle u pc hneutral hfree hidle hfits =>
      refine (HandsOver.of_neutral hneutral).runTask fun target terminal hpc => ?_
      subst hpc
      cases hidle
  | begin u target m hneutral hfree hopen =>
      have hbegun : HandsOver s { u with controller := u.controller.beginFinalization m } :=
        ⟨(HandsOver.of_neutral hneutral).calls, (HandsOver.of_neutral hneutral).inHand⟩
      exact hbegun.runTask fun _ _ hpc => by cases hpc
  | finish target held m u outcome hpc hresumed =>
      obtain ⟨hover, hnew⟩ := hresumed.handsOver
      cases outcome with
      | suspended pc =>
          refine hover.runTask fun other terminal hpc => hnew terminal ?_
          rw [(RunPc.finishing.inj hpc).2]
      | returned value => exact hover.runTask fun _ _ hpc => by cases hpc
      | raised message => cases hresumed

/-- Every step that starts no run hands over what it gives to the thread. -/
theorem Move.handsOver {strict mayResume : Prop} (hmove : Move strict mayResume s t) :
    HandsOver s t := by
  cases hmove with
  | event t hneutral hphase => exact .of_neutral hneutral
  | run t hactive hcancel hmove => exact hmove.handsOver
  | cancelled u hneutral hidle =>
      exact (HandsOver.of_neutral hneutral).runTask fun _ _ hpc => by cases hpc
  | call kind entry hmove =>
      obtain ⟨hover, hidle⟩ := hmove.handsOver
      refine hover.callers fun caller hmember => ?_
      rcases List.mem_append.mp hmember with hold | hnew
      · exact Or.inl hold
      · rw [List.mem_singleton.mp hnew]
        exact Or.inr fun target terminal hpc => absurd hpc (hidle target terminal)
  | resume i caller entry hget hmove =>
      cases hmove with
      | call entry hidle hmove =>
          obtain ⟨hover, hidle⟩ := hmove.handsOver
          refine hover.callers fun other hmember => ?_
          rcases List.mem_or_eq_of_mem_set hmember with hold | rfl
          · exact Or.inl hold
          · exact Or.inr fun target terminal hpc => absurd hpc (hidle target terminal)
      | woken target m hpc hmay =>
          have hbegun : HandsOver s { s with controller := s.controller.beginFinalization m } :=
            ⟨fun _ hmember => hmember, fun _ hheld => Or.inl hheld⟩
          refine hbegun.callers fun other hmember => ?_
          rcases List.mem_or_eq_of_mem_set hmember with hold | rfl
          · exact Or.inl hold
          · exact Or.inr fun target terminal hpc => by cases hpc
      | finish target held u outcome hpc hresumed =>
          obtain ⟨hover, hnew⟩ := hresumed.handsOver
          refine hover.callers fun other hmember => ?_
          rcases List.mem_or_eq_of_mem_set hmember with hold | rfl
          · exact Or.inl hold
          · refine Or.inr fun other terminal hpc => hnew terminal ?_
            cases outcome with
            | suspended pc =>
                change CallerPc.finishing target pc = _ at hpc
                rw [(CallerPc.finishing.inj hpc).2]
            | returned value => cases hpc
            | raised message => cases hpc

theorem handsOver_step (pb : Protobuf) (h : Structured s) {a : Action} (hstarts : a.starts = false)
    (hstep : step pb s a = some t) : HandsOver s t := by
  have hmove : Move False True s t :=
    move_of_step False True pb h hstarts False.elim False.elim (fun _ => trivial) hstep
  exact hmove.handsOver

/-! ## The end of the thread -/

end TrafficTasks

/-- The call of `_finish` waits for the persistence thread. -/
def FinishPc.persists : FinishPc → Bool
  | .persisting _ => true
  | _ => false

/-- The call of `_finish` waits for the copy of a result that could not be persisted. -/
def FinishPc.copies : FinishPc → Bool
  | .copying _ => true
  | _ => false

/-- The persistence thread has ended. -/
def FinishInput.ends : FinishInput → Bool
  | .persisted => true
  | .persistenceRaised _ => true
  | _ => false

theorem unwoken_persists : Unwoken FinishPc.persists := by
  intro pc
  cases pc <;> rfl

theorem unwoken_copies : Unwoken FinishPc.copies := by
  intro pc
  cases pc <;> rfl

/-- A position that only the holder of a finalization has. -/
def FinishPc.Held (p : FinishPc → Bool) : Prop :=
  ∀ pc : FinishPc, p pc = true → pc.handed = true

theorem held_persists : FinishPc.Held FinishPc.persists := by
  intro pc hpc
  cases pc <;> first | rfl | cases hpc

theorem held_copies : FinishPc.Held FinishPc.copies := by
  intro pc hpc
  cases pc <;> first | rfl | cases hpc

variable {p : FinishPc → Bool}

theorem FinishPc.Held.run (h : FinishPc.Held p) {pc : RunPc} (hidle : pc.active = false) :
    pc.finishes p = false := by
  have hhanded := RunPc.not_handed hidle
  cases pc with
  | finishing target held =>
      by_contra hheld
      rw [Bool.not_eq_false] at hheld
      rw [show (RunPc.finishing target held).finishes FinishPc.handed = true from h held hheld]
        at hhanded
      cases hhanded
  | _ => rfl

theorem FinishPc.Held.caller (h : FinishPc.Held p) {pc : CallerPc} (hidle : pc.active = false) :
    pc.finishes p = false := by
  have hhanded := CallerPc.not_handed hidle
  cases pc with
  | finishing target held =>
      by_contra hheld
      rw [Bool.not_eq_false] at hheld
      rw [show (CallerPc.finishing target held).finishes FinishPc.handed = true from h held hheld]
        at hhanded
      cases hhanded
  | _ => rfl

theorem FinishPc.Held.computing (h : FinishPc.Held p) (captured : Nat) :
    p (.computing captured) = false := by
  by_contra hheld
  rw [Bool.not_eq_false] at hheld
  cases h _ hheld

namespace TrafficTasks

variable {s t u : TrafficTasks}

/-- A task waits for the thread when a result is in hand. -/
theorem waits_iff_inHand : 0 < s.finishers FinishPc.persists ↔ ∃ terminal, s.InHand terminal := by
  have hrun : s.runTask.finishes FinishPc.persists = true ↔
      ∃ terminal target, s.runTask = .finishing target (.persisting terminal) := by
    cases s.runTask with
    | finishing target held => cases held <;> simp [RunPc.finishes, FinishPc.persists]
    | _ => simp [RunPc.finishes]
  have hcaller : ∀ pc : CallerPc, pc.finishes FinishPc.persists = true ↔
      ∃ terminal target, pc = .finishing target (.persisting terminal) := by
    intro pc
    cases pc with
    | finishing target held => cases held <;> simp [CallerPc.finishes, FinishPc.persists]
    | _ => simp [CallerPc.finishes]
  unfold finishers
  rw [Nat.add_pos_iff_pos_or_pos, List.countP_pos_iff, Nat.pos_iff_ne_zero, Ne, Bool.toNat_eq_zero,
    Bool.not_eq_false, hrun]
  constructor
  · rintro (⟨terminal, target, hpc⟩ | ⟨caller, hmember, hwaits⟩)
    · exact ⟨terminal, Or.inl ⟨target, hpc⟩⟩
    · obtain ⟨terminal, target, hpc⟩ := (hcaller caller.pc).mp hwaits
      exact ⟨terminal, Or.inr ⟨caller, hmember, target, hpc⟩⟩
  · rintro ⟨terminal, ⟨target, hpc⟩ | ⟨caller, hmember, target, hpc⟩⟩
    · exact Or.inl ⟨terminal, target, hpc⟩
    · exact Or.inr ⟨caller, hmember, (hcaller caller.pc).mpr ⟨terminal, target, hpc⟩⟩

/-- Nobody holds a result when all tasks are over. -/
theorem finishers_of_over (hrun : s.runTask = .done)
    (hcallers : ∀ caller ∈ s.callers, CallerPc.isOver caller.pc = true) (hp : FinishPc.Held p) :
    s.finishers p = 0 := by
  unfold finishers
  rw [hrun, List.countP_eq_zero.mpr fun caller hmember => ?_]
  · rfl
  · rw [hp.caller (not_active_of_over (hcallers caller hmember))]
    exact Bool.false_ne_true

/-- What a step does to the tasks that wait for the thread or for the copy.  The thread is
waited for until it ends, a copy is made only after it has raised, and a result is frozen
only when the thread has returned or the copy is made. -/
structure Persists (s : TrafficTasks) (input : Option FinishInput) (t : TrafficTasks) : Prop where
  waits : 0 < s.finishers FinishPc.persists → 0 < t.finishers FinishPc.persists ∨
    input.any FinishInput.ends = true
  copies : 0 < t.finishers FinishPc.copies → 0 < s.finishers FinishPc.copies ∨
    ∃ exception, input = some (.persistenceRaised exception)
  freezes : t.controller.frozenResult ≠ none → s.controller.frozenResult ≠ none ∨
    input = some .persisted ∨ 0 < s.finishers FinishPc.copies
  persisted : input = some .persisted → t.controller.frozenResult ≠ none
  raised : input.any FinishInput.ends = true → 0 < s.finishers FinishPc.persists

/-- The tasks that hold a finalization are where they were. -/
structure Rests (s t : TrafficTasks) : Prop where
  finishers : ∀ p, FinishPc.Held p → t.finishers p = s.finishers p
  frozen : t.controller.frozenResults.length = s.controller.frozenResults.length

theorem Rests.persists (h : Rests s t) {input : Option FinishInput}
    (hinput : input.any FinishInput.ends = false) : Persists s input t := by
  have hends : ∀ other : FinishInput, other.ends = true → input ≠ some other := by
    rintro other hends rfl
    rw [show (some other).any FinishInput.ends = other.ends from rfl, hends] at hinput
    cases hinput
  refine ⟨fun hwaits => Or.inl ?_, fun hcopies => Or.inl ?_, fun hfrozen => Or.inl ?_,
    fun hpersisted => absurd hpersisted (hends _ rfl), fun htrue => ?_⟩
  · rwa [h.finishers _ held_persists]
  · rwa [h.finishers _ held_copies] at hcopies
  · rw [frozenResult_ne_none, h.frozen] at hfrozen
    exact frozenResult_ne_none.mpr hfrozen
  · rw [hinput] at htrue
    cases htrue

theorem rests_of_neutral {strict : Prop} (hneutral : Neutral strict s t) : Rests s t :=
  ⟨fun p _ => hneutral.finishers p, hneutral.frozen⟩

theorem Rests.trans (hfirst : Rests s t) (hsecond : Rests t u) : Rests s u :=
  ⟨fun p hp => (hsecond.finishers p hp).trans (hfirst.finishers p hp),
    hsecond.frozen.trans hfirst.frozen⟩

/-- The run task goes on without a finalization. -/
theorem Rests.runTask (h : Rests s t) {pc : RunPc}
    (hbefore : ∀ p, FinishPc.Held p → t.runTask.finishes p = false)
    (hafter : ∀ p, FinishPc.Held p → pc.finishes p = false) :
    Rests s { t with runTask := pc } := by
  refine ⟨fun p hp => ?_, h.frozen⟩
  have hcount := finishers_run t pc p
  rw [hbefore p hp, hafter p hp, h.finishers p hp] at hcount
  exact hcount

theorem RunMove.rests {strict : Prop} (hmove : RunMove strict s t)
    (hfree : s.runTask.active = false) : Rests s t := by
  cases hmove with
  | idle u pc hneutral _ hidle hfits =>
      rw [← hneutral.runTask] at hfree
      exact (rests_of_neutral hneutral).runTask (fun p hp => hp.run hfree) fun p hp => hp.run hidle
  | begin u target m hneutral _ hopen =>
      rw [← hneutral.runTask] at hfree
      have hbegun : Rests s (u.withController (u.controller.beginFinalization m)) :=
        (rests_of_neutral hneutral).trans
          ⟨fun _ _ => rfl, length_frozen_beginFinalization hneutral.advance.controlled m⟩
      exact hbegun.runTask (fun p hp => hp.run hfree) fun p hp => hp.computing _
  | finish target held m u outcome hpc hresumed =>
      rw [hpc] at hfree
      cases hresumed <;> cases hfree

/-- A call of `stop` or `fail` that holds no finalization leaves the others where they are. -/
theorem CallMove.rests {strict : Prop} {entry : TrafficTasks × CallerPc}
    (hmove : CallMove strict s entry) : Rests s entry.1 ∧ entry.1.callers = s.callers ∧
      ∀ p, FinishPc.Held p → entry.2.finishes p = false := by
  cases hmove with
  | idle t pc hneutral hphase hidle hwoken hfits =>
      exact ⟨rests_of_neutral hneutral, hneutral.callers, fun p hp => hp.caller hidle⟩
  | cancels t runFailed hneutral hphase hdone =>
      have hrests := rests_of_neutral hneutral
      exact ⟨⟨hrests.finishers, hrests.frozen⟩, hneutral.callers, fun _ _ => rfl⟩
  | begin t target m hneutral hphase hover hopen hdone =>
      have hlength := length_frozen_beginFinalization hneutral.advance.controlled m
      have hrests := rests_of_neutral hneutral
      exact ⟨⟨hrests.finishers, hlength.trans hrests.frozen⟩, hneutral.callers,
        fun p hp => hp.computing _⟩

/-- A call goes on and holds a result neither before nor after. -/
theorem Rests.set (h : Rests s t) (hcallers : t.callers = s.callers) {i : Nat} {caller : Caller}
    (hget : s.callers[i]? = some caller) (hfree : caller.pc.active = false) {pc : CallerPc}
    (hafter : ∀ p, FinishPc.Held p → pc.finishes p = false) :
    Rests s { t with callers := t.callers.set i { caller with pc := pc } } := by
  refine ⟨fun p hp => ?_, h.frozen⟩
  have hcount := finishers_set (hcallers ▸ hget : t.callers[i]? = some caller) pc p
  rw [hp.caller hfree, hafter p hp, h.finishers p hp] at hcount
  exact hcount

/-- A run task that is told to end holds no result. -/
theorem rests_cancelled (h : Structured s) (hrequested : s.cancelRequested = true) :
    Rests s s.cancelled := by
  have hended : Rests s (s.withController s.controller.endDrain) := ⟨fun _ _ => rfl, rfl⟩
  have hidle : s.runTask.active = false →
      (s.withController s.controller.endDrain).runTask.active = false := id
  have hrun := h.run
  unfold cancelled
  cases hpc : s.runTask with
  | settling => exact hended.runTask (fun p hp => hp.run (hidle (by rw [hpc]; rfl))) fun _ _ => rfl
  | draining deadline =>
      exact hended.runTask (fun p hp => hp.run (hidle (by rw [hpc]; rfl))) fun _ _ => rfl
  | finishing target held =>
      rw [hpc] at hrun
      obtain ⟨_, _, _, _, hcancel⟩ := hrun
      rw [hrequested] at hcancel
      cases hcancel
  | _ =>
      have hrefl : Rests s s := ⟨fun _ _ => rfl, rfl⟩
      exact hrefl.runTask (fun p hp => hp.run (by rw [hpc]; rfl)) fun _ _ => rfl

/-- `_finish` is resumed where it holds its finalization. -/
theorem persists_resumeFinish (h : Controlled s.controller) {held : FinishPc}
    (hactive : held.active = true) (hfits : held.Fits s.controller) {m : Moment}
    {target : TrafficRunState} {input : FinishInput} {outcome : FinishOutcome}
    (hresume : s.resumeFinish m target held input = some (t, outcome))
    (hcontroller : u.controller = t.controller)
    (hmoved : ∀ p, Unwoken p →
      u.finishers p + (p held).toNat = s.finishers p + (outcome.finishes p).toNat) :
    Persists s (some input) u := by
  have hwaits := hmoved _ unwoken_persists
  have hcopies := hmoved _ unwoken_copies
  have hsame : t.controller.frozenResults = s.controller.frozenResults →
      u.controller.frozenResult ≠ none → s.controller.frozenResult ≠ none := by
    intro hfrozen hended
    rw [frozenResult_ne_none, hcontroller, hfrozen] at hended
    exact frozenResult_ne_none.mpr hended
  cases held with
  | awaiting woken => cases hactive
  | computing captured =>
      have hends : input.ends = false := by cases input <;> first | rfl | cases hresume
      cases resumed_of_active h hactive hfits hresume with
      | handed _ c terminal hview hfrozen hmirrors =>
          change u.finishers _ + 0 = s.finishers _ + 1 at hwaits
          change u.finishers _ + 0 = s.finishers _ + 0 at hcopies
          refine ⟨fun _ => Or.inl (by omega), fun hcopy => Or.inl (by omega),
            fun hended => Or.inl (hsame hfrozen hended), ?_, fun htrue => ?_⟩
          · rintro ⟨⟩
            cases hends
          · cases hends.symm.trans htrue
  | persisting terminal =>
      cases input with
      | persisted =>
          cases hresume
          change u.finishers _ + 1 = s.finishers _ + 0 at hwaits
          change u.finishers _ + 0 = s.finishers _ + 0 at hcopies
          refine ⟨fun _ => Or.inr rfl, fun hcopy => Or.inl (by omega),
            fun _ => Or.inr (Or.inl rfl), fun _ => ?_, fun _ => by omega⟩
          rw [frozenResult_ne_none, hcontroller]
          exact Nat.succ_pos _
      | persistenceRaised exception =>
          cases hresume
          change u.finishers _ + 1 = s.finishers _ + 0 at hwaits
          exact ⟨fun _ => Or.inr rfl, fun _ => Or.inr ⟨exception, rfl⟩,
            fun hended => Or.inl (hsame rfl hended), nofun, fun _ => by omega⟩
      | _ => cases hresume
  | copying terminal =>
      cases input with
      | copied =>
          cases hresume
          change u.finishers _ + 0 = s.finishers _ + 0 at hwaits
          change u.finishers _ + 1 = s.finishers _ + 0 at hcopies
          exact ⟨fun _ => Or.inl (by omega), fun hcopy => Or.inl (by omega),
            fun _ => Or.inr (Or.inr (by omega)), nofun, nofun⟩
      | _ => cases hresume

/-- Only a call of `_finish` that holds its finalization learns that the thread has ended. -/
theorem active_of_ends {held : FinishPc} {m : Moment} {target : TrafficRunState}
    {input : FinishInput} {resumed : TrafficTasks × FinishOutcome} (hends : input.ends = true)
    (hresume : s.resumeFinish m target held input = some resumed) : held.active = true := by
  cases held with
  | awaiting woken =>
      cases input with
      | persisted => cases woken <;> cases hresume
      | persistenceRaised exception => cases woken <;> cases hresume
      | _ => cases hends
  | _ => rfl

theorem persists_resumeRun (pb : Protobuf) (h : Structured s) {m : Moment} {input : RunInput}
    (hresume : s.resumeRun pb m s.runTask input = some t) :
    Persists s (Action.run m input).finishInput t := by
  have hmove : RunMove False s t :=
    runMove_resumeRun pb h.controlled h.run False.elim hresume
  cases hpc : s.runTask with
  | finishing target held =>
      have hrun := h.run
      rw [hpc] at hresume hrun
      cases input with
      | finish input =>
          obtain ⟨⟨u, outcome⟩, hfinish, rfl⟩ := Option.map_eq_some_iff.mp hresume
          have hresumed := resumed_of_active h.controlled hrun.1 hrun.2.1 hfinish
          refine persists_resumeFinish h.controlled hrun.1 hrun.2.1 hfinish ?_
            fun p hp => hresumed.finishers_run hpc m hp
          cases outcome with
          | raised message => cases hresumed
          | _ => rfl
      | _ => cases hresume
  | _ =>
      refine (hmove.rests (by rw [hpc]; rfl)).persists ?_
      rw [hpc] at hresume
      cases input <;> first | rfl | cases hresume

theorem persists_resumeCall (h : Structured s) {i : Nat} {caller : Caller}
    (hget : s.callers[i]? = some caller) {m : Moment} {input : CallerInput}
    {entry : TrafficTasks × CallerPc}
    (hresume : s.resumeCall m caller.kind caller.pc input = some entry) :
    Persists s (Action.resume i m input).finishInput
      { entry.1 with callers := entry.1.callers.set i { caller with pc := entry.2 } } := by
  have hfits := h.callers caller (List.mem_of_getElem? hget)
  have hmove : ResumeMove False True s caller.pc entry :=
    resumeMove_resumeCall h.controlled hfits (fun _ _ => trivial) hresume
  cases hactive : caller.pc.active with
  | true =>
      obtain ⟨target, held, hpc⟩ : ∃ target held, caller.pc = .finishing target held := by
        cases hpc : caller.pc with
        | finishing target held => exact ⟨target, held, rfl⟩
        | _ =>
            rw [hpc] at hactive
            cases hactive
      rw [hpc] at hresume hfits hactive
      cases input with
      | finish input =>
          obtain ⟨⟨u, outcome⟩, hfinish, rfl⟩ := Option.map_eq_some_iff.mp hresume
          have hresumed := resumed_of_active h.controlled hactive hfits.2.2 hfinish
          exact persists_resumeFinish h.controlled hactive hfits.2.2 hfinish rfl
            fun p hp => hresumed.finishers_set hget hpc hp
      | _ => cases hresume
  | false =>
      have hinput : (Action.resume i m input).finishInput.any FinishInput.ends = false := by
        by_contra hends
        rw [Bool.not_eq_false] at hends
        cases input with
        | finish input =>
            cases hpc : caller.pc with
            | finishing target held =>
                rw [hpc] at hresume hactive
                obtain ⟨resumed, hfinish, _⟩ := Option.map_eq_some_iff.mp hresume
                cases (active_of_ends hends hfinish).symm.trans hactive
            | awaiting woken =>
                rw [hpc] at hresume
                cases woken <;> cases hresume
            | _ =>
                rw [hpc] at hresume
                cases hresume
        | _ => cases hends
      cases hmove with
      | call entry hidle hmove =>
          obtain ⟨hrests, hcallers, hafter⟩ := hmove.rests
          exact (hrests.set hcallers hget hactive hafter).persists hinput
      | woken target m hpc hmay =>
          have hbegun : Rests s (s.withController (s.controller.beginFinalization m)) :=
            ⟨fun _ _ => rfl, length_frozen_beginFinalization h.controlled m⟩
          have hafter : ∀ p, FinishPc.Held p → (CallerPc.finishing target
              (.computing s.controller.frozenResults.length)).finishes p = false :=
            fun p hp => hp.computing _
          exact (hbegun.set rfl hget hactive hafter).persists hinput
      | finish target held u outcome hpc hresumed =>
          rw [hpc] at hactive
          cases hresumed <;> cases hactive

/-- Every step that starts no run moves the tasks that wait so. -/
theorem persists_step (pb : Protobuf) (h : Structured s) {a : Action} (hstarts : a.starts = false)
    (hstep : step pb s a = some t) : Persists s a.finishInput t := by
  have hreported : a.isEvent = true → Rests s t := by
    intro hevent
    obtain ⟨c, rfl, hbooks, hstill⟩ := event_step False pb h.controlled hevent False.elim hstep
    have hneutral : Neutral False s (s.withController c) :=
      .of_frame (.of_gated h.controlled hbooks hstill) hbooks.frame
    exact rests_of_neutral hneutral
  cases a with
  | start m runId request scenarioSnapshot baseline => cases hstarts
  | run m input =>
      obtain ⟨_, hresume⟩ := Option.ite_none_left_eq_some.mp hstep
      exact persists_resumeRun pb h hresume
  | cancelled =>
      obtain ⟨hrequested, hsome⟩ := Option.ite_none_right_eq_some.mp hstep
      cases hsome
      exact (rests_cancelled h hrequested.1).persists rfl
  | call m kind =>
      cases hstep
      have hmove : CallMove False s (s.enterCall m kind) := callMove_enterCall h m kind
      obtain ⟨hrests, hcallers, hafter⟩ := hmove.rests
      have hcalled : Rests s { (s.enterCall m kind).1 with
          callers := (s.enterCall m kind).1.callers ++
            [{ kind := kind, pc := (s.enterCall m kind).2 }] } := by
        refine ⟨fun p hp => ?_, hrests.frozen⟩
        rw [finishers_append, hafter p hp, hrests.finishers p hp]
        rfl
      exact hcalled.persists rfl
  | resume i m input =>
      unfold step at hstep
      dsimp only at hstep
      split at hstep
      · cases hstep
      · next caller hget =>
          obtain ⟨entry, hresume, rfl⟩ := Option.map_eq_some_iff.mp hstep
          exact persists_resumeCall h hget hresume
  | _ => exact (hreported rfl).persists rfl

end TrafficTasks

end MeshtasticLab.Traffic

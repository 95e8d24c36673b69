/-
  Traffic/Structure.lean --- every reachable state of the tasks is structured.

  WHAT THIS FILE IS FOR

  Each move keeps the tasks where the phase of the run lets them be, and while a
  finalization is under way some task holds it.  With the entries that a move
  makes, this is what the accounting of whole runs rests on.
-/
import MeshtasticLab.Traffic.Moves

set_option autoImplicit false

namespace MeshtasticLab.Traffic.TrafficTasks

open MeshtasticLab.Foundation MeshtasticLab.Gateway MeshtasticLab.Metrics MeshtasticLab.Models
open TrafficController

variable {strict mayResume : Prop} {s t u : TrafficTasks}

/-! ## Moves keep the structure -/

/-- The run task moves on while the controller advances. -/
theorem Structured.putRun (h : Structured s)
    (hadvance : Advance strict s.controller t.controller) (hcallers : t.callers = s.callers)
    (hcancel : t.cancelRequested = s.cancelRequested)
    (hrun : s.runTask = .done → t.runTask = .done)
    (hfits : t.runTask.Fits t.controller t.cancelRequested)
    (hfrozen : t.controller.frozenResults ≠ [] → t.runTask = .done) : Structured t where
  controlled := hadvance.controlled
  run := hfits
  frozen := hfrozen
  callers := by
    intro caller hmember
    rw [hcallers] at hmember
    rw [hcancel]
    exact (h.callers caller hmember).mono hadvance Or.inl hrun

/-- The controller advances while the run task is over. -/
theorem Structured.advance (h : Structured s) (hover : s.runTask = .done)
    {c : TrafficController} (hadvance : Advance strict s.controller c) :
    Structured (s.withController c) where
  controlled := hadvance.controlled
  run := by
    change s.runTask.Fits _ _
    rw [hover]
    trivial
  frozen _ := hover
  callers caller hmember := (h.callers caller hmember).mono hadvance Or.inl id

/-- A neutral change keeps the structure. -/
theorem Structured.neutral (h : Structured s) (hneutral : Neutral strict s t)
    (hphase : t.controller.phase = s.controller.phase) : Structured t where
  controlled := hneutral.advance.controlled
  run := hneutral.runFits h.run hphase
  frozen := by
    intro hne
    rw [hneutral.runTask]
    apply h.frozen
    rw [← List.length_pos_iff_ne_nil] at hne ⊢
    rw [← hneutral.frozen]
    exact hne
  callers := by
    intro caller hmember
    rw [hneutral.callers] at hmember
    rw [hneutral.cancelRequested, hneutral.runTask]
    exact (h.callers caller hmember).mono hneutral.advance Or.inl id

/-- One more call. -/
theorem Structured.append (h : Structured s) (kind : CallerKind) {pc : CallerPc}
    (hfits : pc.Fits s.controller s.cancelRequested s.runTask) :
    Structured { s with callers := s.callers ++ [{ kind := kind, pc := pc }] } where
  controlled := h.controlled
  run := h.run
  frozen := h.frozen
  callers caller hmember := by
    rcases List.mem_append.mp hmember with hold | hnew
    · exact h.callers caller hold
    · rw [List.mem_singleton.mp hnew]
      exact hfits

/-- One call moves on. -/
theorem Structured.set (h : Structured s) (i : Nat) (caller : Caller) {pc : CallerPc}
    (hfits : pc.Fits s.controller s.cancelRequested s.runTask) :
    Structured { s with callers := s.callers.set i { caller with pc := pc } } where
  controlled := h.controlled
  run := h.run
  frozen := h.frozen
  callers other hmember := by
    rcases List.mem_or_eq_of_mem_set hmember with hold | hnew
    · exact h.callers other hold
    · rw [hnew]
      exact hfits

/-- The cancellation of the run task is requested while no finalization is under way. -/
theorem Structured.cancels (h : Structured s) (hdone : s.controller.finalizationDone = true) :
    Structured { s with cancelRequested := true } where
  controlled := h.controlled
  run := by
    have hrun := h.run
    change s.runTask.Fits _ true
    cases hpc : s.runTask with
    | finishing target held =>
        rw [hpc] at hrun
        obtain ⟨_, _, _, hactive, _⟩ := hrun
        rw [hdone] at hactive
        cases hactive
    | _ =>
        rw [hpc] at hrun
        exact hrun
  frozen := h.frozen
  callers caller hmember := (h.callers caller hmember).mono
    (.refl h.controlled : Advance False _ _) (fun _ => Or.inl rfl) id

/-- The end of a finalization wakes whoever waits for it. -/
theorem Structured.wake (h : Structured s) (hover : s.runTask = .done) : Structured s.wake where
  controlled := h.controlled
  run := by
    change s.runTask.wake.Fits _ _
    rw [hover]
    trivial
  frozen _ := by
    change s.runTask.wake = .done
    rw [hover]
    rfl
  callers caller hmember := by
    obtain ⟨old, hold, rfl⟩ := List.mem_map.mp hmember
    have hfits := h.callers old hold
    change old.pc.wake.Fits s.controller s.cancelRequested s.runTask.wake
    have hsame : s.runTask.wake = s.runTask := by
      rw [hover]
      rfl
    rw [hsame]
    cases hpc : old.pc with
    | awaiting woken =>
        rw [hpc] at hfits
        exact ⟨hfits.1, fun _ => hover⟩
    | finishing target held =>
        rw [hpc] at hfits
        obtain ⟨hdone, hclosed, hheld⟩ := hfits
        cases held with
        | awaiting woken => exact ⟨hdone, hclosed, trivial⟩
        | _ => exact ⟨hdone, hclosed, hheld⟩
    | _ =>
        rw [hpc] at hfits
        exact hfits

/-- A `_finish` that holds a finalization advances the run. -/
theorem Resumed.advance (h : Controlled s.controller) (hclosed : s.controller.Closed)
    {held : FinishPc} (hheld : held.Fits s.controller) {outcome : FinishOutcome}
    (hresumed : Resumed s held t outcome) : Advance strict s.controller t.controller := by
  cases hresumed with
  | handed captured c terminal hview hfrozen hmirrors => exact .of_view h hview hfrozen
  | unpersisted terminal failed hmirrors => exact .refl h
  | persisted terminal => exact advance_freeze h hclosed hheld
  | copied terminal => exact advance_freeze h hclosed hheld

/-- What it holds afterwards shows the run. -/
theorem Resumed.fits (h : Controlled s.controller) (hclosed : s.controller.Closed)
    {held next : FinishPc} (hresumed : Resumed s held t (.suspended next)) :
    next.active = true ∧ next.Fits t.controller := by
  generalize houtcome : FinishOutcome.suspended next = outcome at hresumed
  cases hresumed with
  | handed captured c terminal hview hfrozen hmirrors =>
      cases houtcome
      exact ⟨rfl, hmirrors.advance hclosed (.of_view h hview hfrozen : Advance False _ _)⟩
  | unpersisted terminal failed hmirrors =>
      cases houtcome
      exact ⟨rfl, hmirrors⟩
  | persisted terminal => cases houtcome
  | copied terminal => cases houtcome

/-- A call of `stop` or `fail` that holds a finalization. -/
theorem Structured.resumed (h : Structured s) (hover : s.runTask = .done)
    (hclosed : s.controller.Closed) {held : FinishPc} (hheld : held.Fits s.controller)
    {outcome : FinishOutcome} (hresumed : Resumed s held t outcome) (target : TrafficRunState) :
    Structured t ∧
      (callerAfter target outcome).Fits t.controller t.cancelRequested t.runTask := by
  have hadvance : Advance False s.controller t.controller :=
    hresumed.advance h.controlled hclosed hheld
  have hadvanced := h.advance hover hadvance
  have hfits : ∀ next, outcome = .suspended next → next.Fits t.controller := by
    rintro next rfl
    exact (hresumed.fits h.controlled hclosed).2
  cases hresumed with
  | handed captured c terminal hview hfrozen hmirrors =>
      exact ⟨⟨hadvanced.controlled, hadvanced.run, hadvanced.frozen, hadvanced.callers⟩, hover,
        hadvance.closed hclosed, hfits _ rfl⟩
  | unpersisted terminal failed hmirrors =>
      exact ⟨⟨h.controlled, h.run, h.frozen, h.callers⟩, hover, hclosed, hfits _ rfl⟩
  | persisted terminal =>
      exact ⟨Structured.wake (s := { s with
        controller := s.controller.freeze terminal, exported := some terminal })
        ⟨hadvanced.controlled, hadvanced.run, hadvanced.frozen, hadvanced.callers⟩ hover, trivial⟩
  | copied terminal => exact ⟨Structured.wake hadvanced hover, trivial⟩

/-- What a call of `stop` or `fail` comes to. -/
theorem Structured.callMove (h : Structured s) {entry : TrafficTasks × CallerPc}
    (hmove : CallMove strict s entry) :
    Structured entry.1 ∧
      entry.2.Fits entry.1.controller entry.1.cancelRequested entry.1.runTask := by
  cases hmove with
  | idle t pc hneutral hphase hidle hwoken hfits => exact ⟨h.neutral hneutral hphase, hfits⟩
  | cancels t runFailed hneutral hphase hdone =>
      exact ⟨(h.neutral hneutral hphase).cancels hdone, Or.inl rfl⟩
  | begin t target m hneutral hphase hover hopen hdone =>
      have hstructured := h.neutral hneutral hphase
      have hbegun : Advance strict _ _ ∧ _ :=
        advance_beginFinalization hstructured.controlled m
      refine ⟨hstructured.advance hover hbegun.1, hover, ?_, trivial⟩
      exact Or.inl (congrArg Frame.phase hbegun.2)

theorem Structured.resumeMove (h : Structured s) {pc : CallerPc}
    (hfits : pc.Fits s.controller s.cancelRequested s.runTask)
    {entry : TrafficTasks × CallerPc} (hmove : ResumeMove strict mayResume s pc entry) :
    Structured entry.1 ∧
      entry.2.Fits entry.1.controller entry.1.cancelRequested entry.1.runTask := by
  cases hmove with
  | call entry hidle hmove => exact h.callMove hmove
  | woken target m hpc hmay =>
      rw [hpc] at hfits
      have hbegun : Advance strict _ _ ∧ _ := advance_beginFinalization h.controlled m
      refine ⟨h.advance hfits.1 hbegun.1, hfits.1, ?_, trivial⟩
      exact Or.inl (congrArg Frame.phase hbegun.2)
  | finish target held t outcome hpc hresumed =>
      rw [hpc] at hfits
      exact h.resumed hfits.1 hfits.2.1 hfits.2.2 hresumed target

/-- Unless the run task is over, no result is frozen and none can be in hand. -/
theorem Neutral.unfrozen (h : Structured s) (hneutral : Neutral strict s t)
    (hactive : s.runTask ≠ .done) : t.controller.frozenResults = [] := by
  have hnone : s.controller.frozenResults = [] := by_contra fun hne => hactive (h.frozen hne)
  have hlength := hneutral.frozen
  rw [hnone] at hlength
  exact List.length_eq_zero_iff.mp hlength

/-- What the run task comes to. -/
theorem Structured.runMove (h : Structured s) (hactive : s.runTask ≠ .done)
    (hcancel : s.cancelRequested = false) (hmove : RunMove strict s t) : Structured t := by
  cases hmove with
  | idle u pc hneutral hfree hidle hfits =>
      exact h.putRun hneutral.advance hneutral.callers hneutral.cancelRequested
        (fun hover => absurd hover hactive) hfits
        fun hne => absurd (hneutral.unfrozen h hactive) hne
  | begin u target m hneutral hfree hopen =>
      obtain ⟨hbegun, hframe⟩ : Advance strict _ _ ∧ _ :=
        advance_beginFinalization hneutral.advance.controlled m
      refine h.putRun (hneutral.advance.trans hbegun) hneutral.callers hneutral.cancelRequested
        (fun hover => absurd hover hactive) ?_ ?_
      · refine ⟨rfl, trivial, congrArg Frame.phase hframe, congrArg Frame.finalizationDone hframe,
          ?_⟩
        exact hneutral.cancelRequested.trans hcancel
      · intro hne
        have hlength : (u.controller.beginFinalization m).frozenResults.length =
            u.controller.frozenResults.length := congrArg Frame.frozen hframe
        rw [hneutral.unfrozen h hactive] at hlength
        exact absurd (List.length_eq_zero_iff.mp hlength) hne
  | finish target held m u outcome hpc hresumed =>
      have hrun := h.run
      rw [hpc] at hrun
      obtain ⟨hheldActive, hheld, hphase, hdone, _⟩ := hrun
      have hclosed : s.controller.Closed := Or.inl hphase
      have hunfrozen : s.controller.frozenResults = [] :=
        by_contra fun hne => hactive (h.frozen hne)
      have hadvance : Advance strict s.controller u.controller :=
        hresumed.advance h.controlled hclosed hheld
      cases hresumed with
      | handed captured c terminal hview hfrozen hmirrors =>
          have hframe : c.frame = s.controller.frame := congrArg View.frame hview
          refine h.putRun hadvance rfl rfl (fun hover => absurd hover hactive) ?_ ?_
          · refine ⟨rfl, ?_, ?_, ?_, hcancel⟩
            · exact hmirrors.advance hclosed hadvance
            · exact (congrArg Frame.phase hframe).trans hphase
            · exact (congrArg Frame.finalizationDone hframe).trans hdone
          · intro hne
            exact absurd (hfrozen.trans hunfrozen) hne
      | unpersisted terminal failed hmirrors =>
          exact h.putRun hadvance rfl rfl (fun hover => absurd hover hactive)
            ⟨rfl, hmirrors, hphase, hdone, hcancel⟩ fun hne => absurd hunfrozen hne
      | persisted terminal =>
          have hfrozen : Structured { s with
              controller := s.controller.freeze terminal
              exported := some terminal
              runTask := .done } :=
            h.putRun hadvance rfl rfl (fun _ => rfl) trivial fun _ => rfl
          exact hfrozen.wake rfl
      | copied terminal =>
          have hfrozen : Structured { s with
              controller := s.controller.freeze terminal
              runTask := .done } :=
            h.putRun hadvance rfl rfl (fun _ => rfl) trivial fun _ => rfl
          exact hfrozen.wake rfl

/-- A move keeps the structure. -/
theorem Structured.move (h : Structured s) (hmove : Move strict mayResume s t) : Structured t := by
  cases hmove with
  | event t hneutral hphase => exact h.neutral hneutral hphase
  | run t hactive hcancel hmove => exact h.runMove hactive hcancel hmove
  | cancelled u hneutral hidle =>
      exact h.putRun hneutral.advance hneutral.callers hneutral.cancelRequested (fun _ => rfl)
        trivial fun _ => rfl
  | call kind entry hmove =>
      obtain ⟨hstructured, hfits⟩ := h.callMove hmove
      exact hstructured.append kind hfits
  | resume i caller entry hget hmove =>
      obtain ⟨hstructured, hfits⟩ :=
        h.resumeMove (h.callers caller (List.mem_of_getElem? hget)) hmove
      exact hstructured.set i caller hfits

/-! ## Moves advance the run -/

theorem CallMove.advance {entry : TrafficTasks × CallerPc} (hmove : CallMove strict s entry) :
    Advance strict s.controller entry.1.controller := by
  cases hmove with
  | idle t pc hneutral hphase hidle hwoken hfits => exact hneutral.advance
  | cancels t runFailed hneutral hphase hdone => exact hneutral.advance
  | begin t target m hneutral hphase hover hopen hdone =>
      exact hneutral.advance.trans (advance_beginFinalization hneutral.advance.controlled m).1

theorem RunMove.advance (h : Structured s) (hmove : RunMove strict s t) :
    Advance strict s.controller t.controller := by
  cases hmove with
  | idle u pc hneutral hfree hidle hfits => exact hneutral.advance
  | begin u target m hneutral hfree hopen =>
      exact hneutral.advance.trans (advance_beginFinalization hneutral.advance.controlled m).1
  | finish target held m u outcome hpc hresumed =>
      have hrun := h.run
      rw [hpc] at hrun
      obtain ⟨_, hheld, hphase, _⟩ := hrun
      have hadvance : Advance strict s.controller u.controller :=
        hresumed.advance h.controlled (Or.inl hphase) hheld
      cases hresumed <;> exact hadvance

/-- A move advances the run. -/
theorem Move.advance (h : Structured s) (hmove : Move strict mayResume s t) :
    Advance strict s.controller t.controller := by
  cases hmove with
  | event t hneutral hphase => exact hneutral.advance
  | run t hactive hcancel hmove => exact hmove.advance h
  | cancelled u hneutral hidle => exact hneutral.advance
  | call kind entry hmove => exact hmove.advance
  | resume i caller entry hget hmove =>
      have hfits := h.callers caller (List.mem_of_getElem? hget)
      cases hmove with
      | call entry hidle hmove => exact hmove.advance
      | woken target m hpc hmay => exact (advance_beginFinalization h.controlled m).1
      | finish target held t outcome hpc hresumed =>
          rw [hpc] at hfits
          have hadvance : Advance strict s.controller t.controller :=
            hresumed.advance h.controlled hfits.2.1 hfits.2.2
          exact hadvance

/-! ## Who holds a finalization -/

/-- While a finalization is under way some task holds it. -/
def Held (s : TrafficTasks) : Prop :=
  s.controller.finalizationDone = false →
    s.runTask.active = true ∨ ∃ caller ∈ s.callers, caller.pc.active = true

/-- A call that holds a finalization finds the run task over. -/
theorem Structured.over_of_active (h : Structured s) {caller : Caller}
    (hmember : caller ∈ s.callers) (hactive : caller.pc.active = true) : s.runTask = .done := by
  have hfits := h.callers caller hmember
  cases hpc : caller.pc with
  | finishing target held =>
      rw [hpc] at hfits
      exact hfits.1
  | _ =>
      rw [hpc] at hactive
      cases hactive

/-- Another call that holds the finalization stays. -/
theorem active_set {callers : List Caller} {i : Nat} {caller : Caller}
    (hget : callers[i]? = some caller) {pc : CallerPc}
    (hchange : caller.pc.active = false ∨ pc.active = true)
    (hactive : ∃ other ∈ callers, other.pc.active = true) :
    ∃ other ∈ callers.set i { caller with pc := pc }, other.pc.active = true := by
  obtain ⟨hlt, hcaller⟩ := List.getElem?_eq_some_iff.mp hget
  rcases hchange with hidle | hholds
  · obtain ⟨other, hmember, hother⟩ := hactive
    obtain ⟨j, hj⟩ := List.mem_iff_getElem?.mp hmember
    have hne : i ≠ j := by
      rintro rfl
      rw [hget] at hj
      cases hj
      rw [hidle] at hother
      cases hother
    refine ⟨other, List.mem_iff_getElem?.mpr ⟨j, ?_⟩, hother⟩
    rw [List.getElem?_set_ne hne, hj]
  · exact ⟨_, List.mem_set hlt _, hholds⟩

theorem Held.neutral (h : Held s) (hneutral : Neutral strict s t) : Held t := by
  intro hdone
  rw [hneutral.runTask, hneutral.callers]
  exact h (hneutral.finalizationDone ▸ hdone)

/-- A move keeps a holder of the finalization under way. -/
theorem Held.move (h : Structured s) (hheld : Held s) (hmove : Move strict mayResume s t) :
    Held t := by
  cases hmove with
  | event t hneutral hphase => exact hheld.neutral hneutral
  | run t hactive hcancel hmove =>
      cases hmove with
      | idle u pc hneutral hfree hidle hfits =>
          intro hdone
          rcases hheld (hneutral.finalizationDone ▸ hdone) with hrun | ⟨caller, hmember, hholds⟩
          · rw [hfree] at hrun
            cases hrun
          · exact absurd (h.over_of_active hmember hholds) hactive
      | begin u target m hneutral hfree hopen => exact fun _ => Or.inl rfl
      | finish target held m u outcome hpc hresumed =>
          cases hresumed with
          | handed captured c terminal hview hfrozen hmirrors => exact fun _ => Or.inl rfl
          | unpersisted terminal failed hmirrors => exact fun _ => Or.inl rfl
          | persisted terminal => exact fun hdone => by cases hdone
          | copied terminal => exact fun hdone => by cases hdone
  | cancelled u hneutral hidle =>
      intro hdone
      rcases hheld (hneutral.finalizationDone ▸ hdone) with hrun | hcallers
      · rw [hidle] at hrun
        cases hrun
      · exact Or.inr (hneutral.callers ▸ hcallers)
  | call kind entry hmove =>
      have happend : ∀ u : TrafficTasks, Held u → ∀ caller : Caller,
          Held { u with callers := u.callers ++ [caller] } := by
        intro u hu caller hdone
        rcases hu hdone with hrun | ⟨other, hmember, hother⟩
        · exact Or.inl hrun
        · exact Or.inr ⟨other, List.mem_append_left _ hmember, hother⟩
      cases hmove with
      | idle u pc hneutral hphase hidle hwoken hfits => exact happend u (hheld.neutral hneutral) _
      | cancels u runFailed hneutral hphase hdone =>
          have hsame : Held u := hheld.neutral hneutral
          exact happend { u with cancelRequested := true } hsame _
      | begin u target m hneutral hphase hover hopen hdone =>
          exact fun _ => Or.inr ⟨_, List.mem_append_right _ (List.mem_singleton.mpr rfl), rfl⟩
  | resume i caller entry hget hmove =>
      have hset : ∀ u : TrafficTasks, Held u → u.callers = s.callers → ∀ pc : CallerPc,
          (caller.pc.active = false ∨ pc.active = true) →
            Held { u with callers := u.callers.set i { caller with pc := pc } } := by
        intro u hu hcallers pc hchange hdone
        rcases hu hdone with hrun | hholder
        · exact Or.inl hrun
        · exact Or.inr (active_set (hcallers ▸ hget) hchange hholder)
      have hplaced : ∀ u : TrafficTasks, u.callers = s.callers → ∀ pc : CallerPc,
          pc.active = true →
            Held { u with callers := u.callers.set i { caller with pc := pc } } := by
        intro u hcallers pc hholds _
        obtain ⟨hlt, _⟩ := List.getElem?_eq_some_iff.mp hget
        exact Or.inr ⟨_, List.mem_set (hcallers ▸ hlt) _, hholds⟩
      cases hmove with
      | call entry hidle hmove =>
          cases hmove with
          | idle u pc hneutral hphase hidle' hwoken hfits =>
              exact hset u (hheld.neutral hneutral) hneutral.callers pc (Or.inl hidle)
          | cancels u runFailed hneutral hphase hdone =>
              have hsame : Held u := hheld.neutral hneutral
              exact hset { u with cancelRequested := true } hsame hneutral.callers _ (Or.inl hidle)
          | begin u target m hneutral hphase hover hopen hdone =>
              exact hplaced { u with controller := u.controller.beginFinalization m }
                hneutral.callers _ rfl
      | woken target m hpc hmay =>
          exact hplaced { s with controller := s.controller.beginFinalization m } rfl _ rfl
      | finish target held u outcome hpc hresumed =>
          cases hresumed with
          | handed captured c terminal hview hfrozen hmirrors =>
              exact hplaced { s with controller := c, persistCalls := terminal :: s.persistCalls }
                rfl _ rfl
          | unpersisted terminal failed hmirrors =>
              exact hplaced { s with exported := none } rfl _ rfl
          | persisted terminal => exact fun hdone => by cases hdone
          | copied terminal => exact fun hdone => by cases hdone

end MeshtasticLab.Traffic.TrafficTasks

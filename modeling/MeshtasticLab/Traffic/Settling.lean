/-
  Traffic/Settling.lean --- calls of a controller one at a time.

  WHAT THIS FILE IS FOR

  The service makes a call of `stop` or `fail` only when the earlier ones are over.
  Then no call waits in `_finish` for another finalization, a run is finalized once,
  and a `stop` that returns `True` leaves no run without a frozen result.
-/
import MeshtasticLab.Traffic.Finalization
import MeshtasticLab.Traffic.Stopping

set_option autoImplicit false

namespace MeshtasticLab.Traffic

open MeshtasticLab.Foundation MeshtasticLab.Gateway MeshtasticLab.Metrics MeshtasticLab.Models

/-- A call of `stop` or `fail` that waits in `_finish` for another finalization. -/
def CallerPc.queued : CallerPc → Bool
  | .finishing _ pc => !pc.active
  | _ => false

theorem CallerPc.queued_wake (pc : CallerPc) : pc.wake.queued = pc.queued := by
  cases pc with
  | finishing target pc => cases pc <;> rfl
  | _ => rfl

namespace TrafficController

variable {c d e : TrafficController}

/-- There is no run, or its result is frozen. -/
def HasResult (c : TrafficController) : Prop :=
  c.currentId = none ∨ c.frozenResult ≠ none

/-- The same run is as far as it was, or further. -/
structure Continues (c d : TrafficController) : Prop where
  currentId : d.currentId = c.currentId
  frozen : c.frozenResults.length ≤ d.frozenResults.length

theorem frozenResult_ne_none : c.frozenResult ≠ none ↔ 0 < c.frozenResults.length := by
  unfold frozenResult
  rw [Ne, List.head?_eq_none_iff, List.length_pos_iff]

theorem Continues.frozenResult (h : Continues c d) (hfrozen : c.frozenResult ≠ none) :
    d.frozenResult ≠ none :=
  frozenResult_ne_none.mpr ((frozenResult_ne_none.mp hfrozen).trans_le h.frozen)

theorem Continues.hasResult (h : Continues c d) (hresult : c.HasResult) : d.HasResult :=
  hresult.imp h.currentId.trans h.frozenResult

/-- A change between two suspension points stays with the run. -/
theorem Continues.of_advance {strict : Prop} (h : Controlled c) (hadvance : Advance strict c d)
    (hfrozen : c.frozenResults.length ≤ d.frozenResults.length) : Continues c d where
  currentId := by
    have hrequest : d.frame.request = c.frame.request := hadvance.entries.identity.1
    rw [h.currentId, hadvance.controlled.currentId, hrequest]
  frozen := hfrozen

theorem length_frozen_beginFinalization (h : Controlled c) (m : Moment) :
    (c.beginFinalization m).frozenResults.length = c.frozenResults.length := by
  obtain ⟨_, hframe⟩ : Advance False _ _ ∧ _ := advance_beginFinalization h m
  exact congrArg Frame.frozen hframe

end TrafficController

open TrafficController

namespace TrafficTasks

theorem not_woken_of_queued {pc : CallerPc} (h : pc.queued = false) :
    CallerPc.woken pc = false := by
  cases pc with
  | finishing target pc =>
      cases pc with
      | awaiting woken => cases h
      | _ => rfl
  | _ => rfl

variable {strict mayResume : Prop} {s t : TrafficTasks}

/-! ## Results stay frozen -/

theorem CallMove.frozen_le {entry : TrafficTasks × CallerPc} (hmove : CallMove strict s entry) :
    s.controller.frozenResults.length ≤ entry.1.controller.frozenResults.length := by
  cases hmove with
  | idle t pc hneutral hphase hidle hwoken hfits => exact hneutral.frozen.ge
  | cancels t runFailed hneutral hphase hdone => exact hneutral.frozen.ge
  | begin t target m hneutral hphase hover hopen hdone =>
      have hlength := length_frozen_beginFinalization hneutral.advance.controlled m
      exact (hlength.trans hneutral.frozen).ge

theorem Resumed.frozen_le {held : FinishPc} {outcome : FinishOutcome}
    (hresumed : Resumed s held t outcome) :
    s.controller.frozenResults.length ≤ t.controller.frozenResults.length := by
  cases hresumed with
  | handed captured c terminal hview hfrozen hmirrors => exact (congrArg List.length hfrozen).ge
  | unpersisted terminal failed hmirrors => exact le_refl _
  | persisted terminal => exact Nat.le_succ _
  | copied terminal => exact Nat.le_succ _

theorem RunMove.frozen_le (hmove : RunMove strict s t) :
    s.controller.frozenResults.length ≤ t.controller.frozenResults.length := by
  cases hmove with
  | idle u pc hneutral hfree hidle hfits => exact hneutral.frozen.ge
  | begin u target m hneutral hfree hopen =>
      have hlength := length_frozen_beginFinalization hneutral.advance.controlled m
      exact (hlength.trans hneutral.frozen).ge
  | finish target held m u outcome hpc hresumed =>
      have hkept := hresumed.frozen_le
      cases outcome with
      | suspended pc => exact hkept
      | returned value => exact hkept
      | raised message => cases hresumed

theorem Move.frozen_le (h : Structured s) (hmove : Move strict mayResume s t) :
    s.controller.frozenResults.length ≤ t.controller.frozenResults.length := by
  cases hmove with
  | event t hneutral hphase => exact hneutral.frozen.ge
  | run t hactive hcancel hmove => exact hmove.frozen_le
  | cancelled u hneutral hidle => exact hneutral.frozen.ge
  | call kind entry hmove => exact hmove.frozen_le
  | resume i caller entry hget hmove =>
      cases hmove with
      | call entry hidle hmove => exact hmove.frozen_le
      | woken target m hpc hmay => exact (length_frozen_beginFinalization h.controlled m).ge
      | finish target held u outcome hpc hresumed => exact hresumed.frozen_le

/-- A step that starts no run stays with the run. -/
theorem continues_step (pb : Protobuf) (h : Structured s) {a : Action} (hstarts : a.starts = false)
    (hstep : step pb s a = some t) : Continues s.controller t.controller := by
  have hmove : Move False True s t :=
    move_of_step False True pb h hstarts False.elim False.elim (fun _ => trivial) hstep
  exact .of_advance h.controlled (hmove.advance h) (hmove.frozen_le h)

theorem Neutral.continues (h : Controlled s.controller) (hneutral : Neutral strict s t) :
    Continues s.controller t.controller :=
  .of_advance h hneutral.advance hneutral.frozen.ge

/-! ## Calls that return -/

/-- A call does not wait in `_finish`, and a `stop` that returns `True` leaves no run without
a result. -/
structure Told (kind : CallerKind) (entry : TrafficTasks × CallerPc) : Prop where
  unqueued : entry.2.queued = false
  result : kind = .stop → entry.2 = .returned true → entry.1.controller.HasResult

theorem Told.returned (kind : CallerKind) (h : s.controller.HasResult) :
    Told kind (s, .returned true) :=
  ⟨rfl, fun _ _ => h⟩

theorem told_afterSampling (hdone : s.controller.finalizationDone = true) (m : Moment)
    (kind : CallerKind) (runFailed : Bool) : Told kind (s.afterSampling m kind runFailed) := by
  unfold afterSampling
  split
  · next hfrozen => exact .returned kind (Or.inr hfrozen)
  · unfold enterFinish
    dsimp only
    split
    · next hended =>
        refine ⟨rfl, fun _ _ => hended.imp (fun hnone => ?_) id⟩
        unfold currentId
        rw [hnone]
        rfl
    · exact ⟨rfl, fun _ hreturned => by cases hreturned⟩

theorem told_afterCancel (h : Controlled s.controller)
    (hdone : s.controller.finalizationDone = true) (m : Moment) (kind : CallerKind)
    (runFailed : Bool) : Told kind (s.afterCancel m kind runFailed) := by
  have hsampled : ∀ u : TrafficTasks, u.controller.finalizationDone = true →
      Told kind (if u.controller.failedReceptionSampler then (u, .sampling runFailed)
        else u.afterSampling m kind runFailed) := by
    intro u hu
    split
    · exact ⟨rfl, fun _ hreturned => by cases hreturned⟩
    · exact told_afterSampling hu m kind runFailed
  unfold afterCancel
  dsimp only
  split
  · exact hsampled s hdone
  · obtain ⟨_, hframe⟩ : Advance False _ _ ∧ _ := advance_finalizePendingSubmissions h m
    exact hsampled (s.withController _) ((congrArg Frame.finalizationDone hframe).trans hdone)

theorem told_cancelRunTask (h : Controlled s.controller)
    (hdone : s.controller.finalizationDone = true) (m : Moment) (kind : CallerKind)
    (runFailed : Bool) : Told kind (s.cancelRunTask m kind runFailed) := by
  unfold cancelRunTask
  split
  · exact told_afterCancel h hdone m kind runFailed
  · exact ⟨rfl, fun _ hreturned => by cases hreturned⟩

/-- After its wait a call goes on; a run whose task has ended has a result. -/
theorem told_afterWait (h : Controlled s.controller)
    (hdone : s.controller.finalizationDone = true)
    (hended : s.runTask = .done → s.controller.HasResult) (m : Moment) (kind : CallerKind) :
    Told kind (s.afterWait m kind) := by
  unfold afterWait
  cases kind with
  | stop =>
      dsimp only
      split
      · exact told_cancelRunTask h hdone m .stop true
      · split
        · next hover => exact .returned .stop (hended hover)
        · have hstopping : Neutral False s (s.withController
              { s.controller with state := .stopping }) := neutral_setState h .stopping
          exact told_cancelRunTask (s := s.withController _) hstopping.advance.controlled hdone m
            .stop false
  | fail reason =>
      dsimp only
      split
      · exact ⟨rfl, nofun⟩
      · have hstopping : Neutral False s (s.withController
            { s.controller with state := .stopping }) := neutral_setState h .stopping
        have hfailure := hstopping.trans
          (.modifyCurrent hstopping.advance.controlled (keeps_failure (some reason)))
        exact told_cancelRunTask hfailure.advance.controlled
          (hfailure.finalizationDone.trans hdone) m (.fail reason) false

/-- A call of `stop` or `fail` up to its first suspension. -/
theorem told_enterCall (h : Controlled s.controller)
    (hended : s.runTask = .done → s.controller.finalizationDone = true → s.controller.HasResult)
    (m : Moment) (kind : CallerKind) : Told kind (s.enterCall m kind) := by
  unfold enterCall
  dsimp only
  split
  · next hfrozen => exact .returned kind (Or.inr hfrozen.2)
  · split
    · next hdone => exact told_afterWait h hdone (fun hover => hended hover hdone) m kind
    · split <;> exact ⟨rfl, fun _ hreturned => by cases hreturned⟩

/-- A call of `stop` or `fail` from one suspension to the next, while no other task holds a
finalization. -/
theorem told_resumeCall (h : Controlled s.controller)
    {pc : CallerPc} (hfits : pc.Fits s.controller s.cancelRequested s.runTask)
    (hunqueued : pc.queued = false)
    (hdone : pc.active = false → s.runTask = .done → s.controller.finalizationDone = true)
    (hended : pc.stops = false → s.runTask = .done → s.controller.finalizationDone = true →
      s.controller.HasResult) {m : Moment} {kind : CallerKind} {input : CallerInput}
    {entry : TrafficTasks × CallerPc} (hresume : s.resumeCall m kind pc input = some entry) :
    Told kind entry := by
  unfold resumeCall at hresume
  split at hresume
  · cases hresume
    have hover := hfits.2 rfl
    exact told_afterWait h (hdone rfl hover) (fun _ => hended rfl hover (hdone rfl hover)) m kind
  · cases hresume
    exact ⟨rfl, fun _ hreturned => by cases hreturned⟩
  · split at hresume
    · next hover =>
        cases hresume
        exact told_afterCancel h (hdone rfl hover) m kind _
    · cases hresume
  · next answer =>
      cases hresume
      obtain ⟨_, hframe⟩ : Advance False _ _ ∧ _ := advance_applyFinalSample h m answer
      exact told_afterSampling (s := s.withController _)
        ((congrArg Frame.finalizationDone hframe).trans (hdone rfl hfits)) m kind _
  · next target held input =>
      obtain ⟨⟨u, outcome⟩, hresumed, rfl⟩ := Option.map_eq_some_iff.mp hresume
      have hactive : held.active = true := by simpa [CallerPc.queued] using hunqueued
      cases resumed_of_active h hactive hfits.2.2 hresumed with
      | handed captured c terminal hview hfrozen hmirrors =>
          exact ⟨rfl, fun _ hreturned => by cases hreturned⟩
      | unpersisted terminal failed hmirrors =>
          exact ⟨rfl, fun _ hreturned => by cases hreturned⟩
      | persisted terminal => exact ⟨rfl, fun _ _ => Or.inr nofun⟩
      | copied terminal => exact ⟨rfl, fun _ _ => Or.inr nofun⟩
  · cases hresume

/-! ## What holds while calls are made one at a time -/

/-- At most one call is under way, and a closed run is being finalized or has a result. -/
structure Settling (s : TrafficTasks) : Prop extends Orderly s where
  stopping : Stopping s
  alone : ∀ (i j : Nat) (first second : Caller), s.callers[i]? = some first →
    s.callers[j]? = some second → CallerPc.isOver first.pc = false →
      CallerPc.isOver second.pc = false → i = j
  settled : s.controller.Closed → s.controller.finalizationDone = false ∨ s.controller.HasResult
  told : ∀ caller ∈ s.callers, Told caller.kind (s, caller.pc)

theorem settling_new (scenario : Scenario) (hardwareIds : Dict String Nat)
    (buildMetadata : BuildMetadata) (settleSeconds : Option ℚ) (failedReceptionSampler : Bool) :
    Settling (.new scenario hardwareIds buildMetadata settleSeconds failedReceptionSampler) where
  toOrderly := orderly_of_run pairProtobuf (.refl _)
  stopping := stopping_new _ _ _ _ _
  alone i j first second hget := by cases hget
  settled _ := Or.inr (Or.inl rfl)
  told caller hmember := by cases hmember

/-- A call that has not gone on itself was told no more than before. -/
theorem Told.kept {kind : CallerKind} {pc : CallerPc} (h : Told kind (s, pc))
    (hcontinues : Continues s.controller t.controller) : Told kind (t, pc) :=
  ⟨h.unqueued, fun hstop hreturned => hcontinues.hasResult (h.result hstop hreturned)⟩

theorem Told.wake {kind : CallerKind} {pc : CallerPc} (h : Told kind (s, pc)) :
    Told kind (s, pc.wake) := by
  refine ⟨(CallerPc.queued_wake pc).trans h.unqueued, fun hstop hreturned => h.result hstop ?_⟩
  cases pc with
  | returned value => exact hreturned
  | _ => cases hreturned

/-- The calls that have not gone on. -/
theorem SameCalls.told {callers later : List Caller} (hsame : SameCalls callers later)
    (h : ∀ caller ∈ callers, Told caller.kind (s, caller.pc))
    (hcontinues : Continues s.controller t.controller) :
    ∀ caller ∈ later, Told caller.kind (t, caller.pc) := by
  intro caller hmember
  rcases hsame with rfl | rfl
  · exact (h caller hmember).kept hcontinues
  · obtain ⟨old, hold, rfl⟩ := List.mem_map.mp hmember
    exact ((h old hold).kept hcontinues).wake

theorem not_active_of_over {pc : CallerPc} (hover : CallerPc.isOver pc = true) :
    pc.active = false := by
  cases pc <;> first | rfl | cases hover

theorem not_stops_of_over {pc : CallerPc} (hover : CallerPc.isOver pc = true) :
    pc.stops = false := by
  cases pc <;> first | rfl | cases hover

/-- When no task holds a finalization, none is under way. -/
theorem Single.done_of_idle (h : Single s) (hover : s.runTask = .done)
    (hcallers : ∀ caller ∈ s.callers, caller.pc.active = false) :
    s.controller.finalizationDone = true := by
  have hnone : s.holding = 0 := by
    unfold TrafficTasks.holding TrafficTasks.finishers
    rw [hover, List.countP_eq_zero.mpr fun caller hmember => ?_]
    · rfl
    · rw [CallerPc.finishes_active, hcallers caller hmember]
      decide
  by_contra hactive
  have hholding := h.holding
  rw [if_neg hactive, hnone] at hholding
  cases hholding

/-- A run whose task has ended has a result when no call closes it any more. -/
theorem Settling.hasResult (h : Settling s) (hover : s.runTask = .done)
    (hcallers : ∀ caller ∈ s.callers, caller.pc.stops = false)
    (hdone : s.controller.finalizationDone = true) : s.controller.HasResult := by
  rcases h.stopping.ended (Or.inl hover) with hclosed | ⟨caller, hmember, hstops⟩
  · refine (h.settled hclosed).resolve_left fun hactive => ?_
    rw [hdone] at hactive
    cases hactive
  · rw [hcallers caller hmember] at hstops
    cases hstops

/-- The calls other than the one that is under way are over. -/
theorem Settling.others (h : Settling s) {i : Nat} {caller : Caller}
    (hget : s.callers[i]? = some caller) (hactive : CallerPc.isOver caller.pc = false) :
    ∀ other ∈ s.callers, other = caller ∨ CallerPc.isOver other.pc = true := by
  intro other hmember
  obtain ⟨j, hother⟩ := List.mem_iff_getElem?.mp hmember
  cases hover : CallerPc.isOver other.pc with
  | true => exact Or.inr rfl
  | false =>
      have hsame := h.alone i j caller other hget hother hactive hover
      subst hsame
      rw [hget] at hother
      cases hother
      exact Or.inl rfl

theorem Settling.rechecks (h : Settling s) (a : Action) : Rechecks s a := by
  intro hwoken
  cases a with
  | resume i m input =>
      obtain ⟨_, hcaller⟩ := Bool.and_eq_true_iff.mp hwoken
      cases hget : s.callers[i]? with
      | none =>
          rw [hget] at hcaller
          cases hcaller
      | some caller =>
          rw [hget, Option.any_some,
            not_woken_of_queued (h.told caller (List.mem_of_getElem? hget)).unqueued] at hcaller
          cases hcaller
  | _ => cases hwoken

/-! ### Settled runs -/

/-- A closed run is being finalized or has a result. -/
def Settled (c : TrafficController) : Prop :=
  c.Closed → c.finalizationDone = false ∨ c.HasResult

theorem Settled.framed (h : Settled s.controller) (hcontinues : Continues s.controller t.controller)
    (hphase : t.controller.phase = s.controller.phase)
    (hdone : t.controller.finalizationDone = s.controller.finalizationDone) :
    Settled t.controller := by
  intro hclosed
  unfold Closed at hclosed
  rw [hphase] at hclosed
  exact (h hclosed).imp hdone.trans hcontinues.hasResult

theorem settled_beginFinalization (h : Controlled s.controller) (m : Moment) :
    Settled (s.controller.beginFinalization m) := by
  obtain ⟨_, hframe⟩ : Advance False _ _ ∧ _ := advance_beginFinalization h m
  exact fun _ => Or.inl (congrArg Frame.finalizationDone hframe)

theorem CallMove.settled (hcontrolled : Controlled s.controller) (h : Settled s.controller)
    {entry : TrafficTasks × CallerPc} (hmove : CallMove False s entry) :
    Settled entry.1.controller := by
  cases hmove with
  | idle t pc hneutral hphase hidle hwoken hfits =>
      exact h.framed (hneutral.continues hcontrolled) hphase hneutral.finalizationDone
  | cancels t runFailed hneutral hphase hdone =>
      exact h.framed (t := t) (hneutral.continues hcontrolled) hphase hneutral.finalizationDone
  | begin t target m hneutral hphase hover hopen hdone =>
      exact settled_beginFinalization hneutral.advance.controlled m

theorem Resumed.settled {held : FinishPc} {outcome : FinishOutcome}
    (hresumed : Resumed s held t outcome) (hactive : s.controller.finalizationDone = false) :
    Settled t.controller := by
  cases hresumed with
  | handed captured c terminal hview hfrozen hmirrors =>
      exact fun _ => Or.inl ((congrArg (fun v => v.frame.finalizationDone) hview).trans hactive)
  | unpersisted terminal failed hmirrors => exact fun _ => Or.inl hactive
  | persisted terminal => exact fun _ => Or.inr (Or.inr nofun)
  | copied terminal => exact fun _ => Or.inr (Or.inr nofun)

/-! ### Steps -/

/-- What is handed to the controller leaves the calls and the phase of the run. -/
theorem Settling.framed (h : Settling s) (horderly : Orderly t) (hstopping : Stopping t)
    (hcontinues : Continues s.controller t.controller)
    (hframe : t.controller.frame = s.controller.frame) (hcallers : t.callers = s.callers) :
    Settling t where
  toOrderly := horderly
  stopping := hstopping
  alone := hcallers ▸ h.alone
  settled := Settled.framed h.settled hcontinues (congrArg Frame.phase hframe)
    (congrArg Frame.finalizationDone hframe)
  told caller hmember := (h.told caller (hcallers ▸ hmember)).kept hcontinues

/-- The tasks go on, and the run stays settled and the calls told. -/
theorem Settling.onward (h : Settling s) (horderly : Orderly t) (honward : Onward s t)
    (hsettled : Settled t.controller)
    (htold : ∀ caller ∈ t.callers, Told caller.kind (t, caller.pc)) :
    Settling t where
  toOrderly := horderly
  stopping := honward.stopping
  alone i j first second hfirst hsecond hactive hactive' := by
    obtain ⟨old, hold, hstays, _⟩ := honward.calls i first hfirst
    obtain ⟨old', hold', hstays', _⟩ := honward.calls j second hsecond
    refine h.alone i j old old' hold hold' ?_ ?_
    · by_contra hover
      rw [Bool.not_eq_false] at hover
      rw [hstays hover] at hactive
      cases hactive
    · by_contra hover
      rw [Bool.not_eq_false] at hover
      rw [hstays' hover] at hactive'
      cases hactive'
  settled := hsettled
  told := htold

/-- A call goes on. -/
theorem Settling.resume (pb : Protobuf) (h : Settling s) {i : Nat} {m : Moment}
    {input : CallerInput} (hstep : step pb s (.resume i m input) = some t) : Settling t := by
  have horderly := h.toOrderly.step pb (h.rechecks _) hstep
  have honward := h.stopping.onward pb h.toSound (a := .resume i m input) rfl nofun hstep
  have hcontinues := continues_step pb h.structured (a := .resume i m input) rfl hstep
  have hstructured := h.structured
  unfold TrafficTasks.step at hstep
  dsimp only at hstep
  split at hstep
  · cases hstep
  next caller hget =>
  obtain ⟨entry, hresume, rfl⟩ := Option.map_eq_some_iff.mp hstep
  have hmember := List.mem_of_getElem? hget
  have hfits := hstructured.callers caller hmember
  have hunqueued := (h.told caller hmember).unqueued
  have hothers := h.others hget (not_over_of_resumeCall hresume)
  have hdone : caller.pc.active = false → s.runTask = .done →
      s.controller.finalizationDone = true := fun hidle hover =>
    h.single.done_of_idle hover fun other hother => by
      rcases hothers other hother with rfl | hended
      · exact hidle
      · exact not_active_of_over hended
  have hresult : caller.pc.stops = false → s.runTask = .done →
      s.controller.finalizationDone = true → s.controller.HasResult :=
    fun hidle hover => h.hasResult hover fun other hother => by
      rcases hothers other hother with rfl | hended
      · exact hidle
      · exact not_stops_of_over hended
  have htold := told_resumeCall hstructured.controlled hfits hunqueued hdone hresult hresume
  have hmove : ResumeMove False False s caller.pc entry :=
    resumeMove_resumeCall hstructured.controlled hfits
      (fun hwoken _ => by rw [not_woken_of_queued hunqueued] at hwoken; cases hwoken) hresume
  have hsame := hmove.sameCalls
  have hsettled : Settled entry.1.controller := by
    cases hmove with
    | call entry hidle hmove => exact hmove.settled hstructured.controlled h.settled
    | woken target m hpc hmay => exact hmay.elim
    | finish target held u outcome hpc hresumed =>
        refine hresumed.settled ?_
        by_contra hended
        have hfree := h.single.free (by simpa using hended)
        have hcount := finishers_set hget (.returned true) FinishPc.active
        have hheld : held.active = true := by cases hresumed <;> rfl
        rw [hpc, show s.finishers FinishPc.active = 0 from hfree] at hcount
        simp [CallerPc.finishes, hheld] at hcount
  refine h.onward horderly honward hsettled fun other hother => ?_
  rcases List.mem_or_eq_of_mem_set hother with hbefore | rfl
  · exact hsame.told h.told hcontinues other hbefore
  · exact ⟨htold.unqueued, htold.result⟩

/-- A run task that is told to end holds no finalization. -/
theorem frame_cancelled (h : Structured s) (hrequested : s.cancelRequested = true) :
    s.cancelled.controller.phase = s.controller.phase ∧
      s.cancelled.controller.finalizationDone = s.controller.finalizationDone := by
  have hrun := h.run
  unfold cancelled
  split
  · exact ⟨rfl, rfl⟩
  · exact ⟨rfl, rfl⟩
  · exact ⟨rfl, rfl⟩
  · next hpc =>
      rw [hpc] at hrun
      obtain ⟨_, _, _, _, hcancel⟩ := hrun
      rw [hrequested] at hcancel
      cases hcancel
  · exact ⟨rfl, rfl⟩

/-- Every step of a task or an event keeps the calls one at a time. -/
theorem Settling.step (pb : Protobuf) (h : Settling s) {a : Action} (hstarts : a.starts = false)
    (hcall : ∀ m kind, a ≠ .call m kind) (hstep : step pb s a = some t) : Settling t := by
  have horderly := h.toOrderly.step pb (h.rechecks a) hstep
  have honward := h.stopping.onward pb h.toSound hstarts hcall hstep
  have hcontinues := continues_step pb h.structured hstarts hstep
  have hevent : a.isEvent = true → Settling t := by
    intro hevent
    obtain ⟨c, rfl, hbooks, _⟩ :=
      event_step False pb h.structured.controlled hevent False.elim hstep
    exact h.framed horderly honward.stopping hcontinues hbooks.frame rfl
  cases a with
  | start m runId request scenarioSnapshot baseline => cases hstarts
  | run m input =>
      have hcalls := callsMove_step pb h.structured (a := .run m input) rfl hstep
      unfold TrafficTasks.step at hstep
      dsimp only at hstep
      split at hstep
      · cases hstep
      · have hunended := unended_resumeRun pb h.structured h.stopping.idle hstep
        refine h.onward horderly honward ?_ ?_
        · intro hclosed
          rcases hunended with ⟨_, hopen⟩ | hconcluding
          · exact absurd hclosed hopen
          · exact hconcluding.ended.imp id Or.inr
        · cases hcalls with
          | kept _ _ hsame => exact hsame.told h.told hcontinues
  | cancelled =>
      have hcalls := callsMove_step pb h.structured (a := .cancelled) rfl hstep
      unfold TrafficTasks.step at hstep
      dsimp only at hstep
      split at hstep
      swap
      · cases hstep
      next hrequested =>
      refine h.onward horderly honward ?_ ?_
      · cases hstep
        obtain ⟨hphase, hdone⟩ := frame_cancelled h.structured hrequested.1
        exact Settled.framed h.settled hcontinues hphase hdone
      · cases hcalls with
        | kept _ _ hsame => exact hsame.told h.told hcontinues
  | call m kind => exact absurd rfl (hcall m kind)
  | resume i m input => exact h.resume pb hstep
  | _ => exact hevent rfl

/-- The tasks after a call that is made while no other is under way. -/
theorem Settling.call (pb : Protobuf) (h : Settling s)
    (hover : ∀ caller ∈ s.callers, CallerPc.isOver caller.pc = true) (m : Moment)
    (kind : CallerKind) (hstep : TrafficTasks.step pb s (.call m kind) = some t) : Settling t := by
  have horderly := h.toOrderly.step pb (h.rechecks _) hstep
  have hstopping := h.stopping.step pb h.toSound hstep
  have hcontinues := continues_step pb h.structured (a := .call m kind) rfl hstep
  have hcontrolled := h.structured.controlled
  have hmove : CallMove False s (s.enterCall m kind) := callMove_enterCall h.structured m kind
  have htold := told_enterCall hcontrolled (fun hended hdone =>
    h.hasResult hended (fun caller hmember => not_stops_of_over (hover caller hmember)) hdone)
    m kind
  cases hstep
  refine ⟨horderly, hstopping, ?_, hmove.settled hcontrolled h.settled, ?_⟩
  · have hold : ∀ (i : Nat) (caller : Caller), i < s.callers.length →
        ((s.enterCall m kind).1.callers ++
          [{ kind := kind, pc := (s.enterCall m kind).2 }])[i]? = some caller →
            CallerPc.isOver caller.pc = true := by
      intro i caller hi hget
      rw [hmove.sameCalls, List.getElem?_append_left hi] at hget
      exact hover caller (List.mem_of_getElem? hget)
    have hlast : ∀ (i : Nat) (caller : Caller),
        ((s.enterCall m kind).1.callers ++
          [{ kind := kind, pc := (s.enterCall m kind).2 }])[i]? = some caller →
            CallerPc.isOver caller.pc = false → i = s.callers.length := by
      intro i caller hget hactive
      by_contra hne
      have hbound := (List.getElem?_eq_some_iff.mp hget).1
      rw [hmove.sameCalls, List.length_append, List.length_singleton] at hbound
      rw [hold i caller (by omega) hget] at hactive
      cases hactive
    intro i j first second hfirst hsecond hactive hactive'
    rw [hlast i first hfirst hactive, hlast j second hsecond hactive']
  · intro caller hmember
    rcases List.mem_append.mp hmember with hbefore | hnew
    · rw [hmove.sameCalls] at hbefore
      exact (h.told caller hbefore).kept hcontinues
    · rw [List.mem_singleton.mp hnew]
      exact ⟨htold.unqueued, htold.result⟩

/-- A run that has started is open, and nobody has called `stop` yet. -/
theorem Settling.start (pb : Protobuf) (h : Settling s) {m : Moment} {runId : String}
    {request : TrafficRunRequest} {scenarioSnapshot : Option Scenario}
    {baseline : Option FailedReceptionSample}
    (hstep : TrafficTasks.step pb s (.start m runId request scenarioSnapshot baseline) = some t) :
    Settling t := by
  have horderly := h.toOrderly.step pb (h.rechecks _) hstep
  have hstopping := h.stopping.step pb h.toSound hstep
  unfold TrafficTasks.step at hstep
  dsimp only at hstep
  split at hstep <;> cases hstep
  unfold TrafficTasks.started at horderly hstopping ⊢
  split
  · next c error hstart =>
      rw [hstart] at horderly hstopping
      rcases start_outcomes hstart with ⟨_, ids, _, rfl⟩ | ⟨houtcome, _⟩
      · exact ⟨horderly, hstopping, h.alone, h.settled, fun caller hmember =>
          (h.told caller hmember).kept ⟨rfl, le_refl _⟩⟩
      · cases houtcome
  · next c started hstart =>
      rw [hstart] at horderly hstopping
      rcases start_outcomes hstart with
        ⟨_, _, houtcome, _⟩ | ⟨_, _, ids, accumulators, run, _, _, rfl⟩
      · cases houtcome
      · refine ⟨horderly, hstopping, ?_, ?_, ?_⟩
        · intro i j first second hget
          cases hget
        · rintro (hfinalizing | hterminal)
          · cases hfinalizing
          · cases hterminal
        · intro caller hmember
          cases hmember

end TrafficTasks

end MeshtasticLab.Traffic

/-
  Traffic/Finalization.lean --- one run is finalized once.

  WHAT THIS FILE IS FOR

  `_finish` looks for a frozen result before it waits for another finalization and
  not after.  A run in which no call goes on after such a wait once a result is
  frozen keeps `Single`: at most one task holds a finalization, and every result
  handed to persistence is in hand or frozen.
-/
import MeshtasticLab.Traffic.Accounting

set_option autoImplicit false

namespace MeshtasticLab.Traffic

open MeshtasticLab.Foundation MeshtasticLab.Gateway MeshtasticLab.Metrics MeshtasticLab.Models
open TrafficController

/-! ## Calls of `_finish` -/

/-- The run task is in a call of `_finish` at such a position. -/
def RunPc.finishes (p : FinishPc → Bool) : RunPc → Bool
  | .finishing _ pc => p pc
  | _ => false

/-- A call of `stop` or `fail` is in a call of `_finish` at such a position. -/
def CallerPc.finishes (p : FinishPc → Bool) : CallerPc → Bool
  | .finishing _ pc => p pc
  | _ => false

/-- A step of `_finish` leaves its call at such a position. -/
def FinishOutcome.finishes (p : FinishPc → Bool) : FinishOutcome → Bool
  | .suspended pc => p pc
  | _ => false

/-- Being woken leaves such a position as it is. -/
def Unwoken (p : FinishPc → Bool) : Prop :=
  ∀ pc : FinishPc, p pc.wake = p pc

theorem unwoken_active : Unwoken FinishPc.active := by
  intro pc
  cases pc <;> rfl

theorem unwoken_handed : Unwoken FinishPc.handed := by
  intro pc
  cases pc <;> rfl

/-- A result in hand is that of a finalization under way. -/
theorem FinishPc.active_of_handed {pc : FinishPc} (h : pc.handed = true) : pc.active = true := by
  cases pc with
  | persisting terminal => rfl
  | copying terminal => rfl
  | _ => cases h

theorem RunPc.finishes_wake {p : FinishPc → Bool} (h : Unwoken p) (pc : RunPc) :
    pc.wake.finishes p = pc.finishes p := by
  cases pc with
  | finishing target pc => exact h pc
  | _ => rfl

theorem CallerPc.finishes_wake {p : FinishPc → Bool} (h : Unwoken p) (pc : CallerPc) :
    pc.wake.finishes p = pc.finishes p := by
  cases pc with
  | finishing target pc => exact h pc
  | _ => rfl

/-- A task that holds no finalization has no result in hand. -/
theorem RunPc.not_handed {pc : RunPc} (h : pc.active = false) :
    pc.finishes FinishPc.handed = false := by
  cases pc with
  | finishing target held =>
      by_contra hhanded
      rw [Bool.not_eq_false] at hhanded
      have hactive : held.active = true := FinishPc.active_of_handed hhanded
      rw [show held.active = false from h] at hactive
      cases hactive
  | _ => rfl

theorem CallerPc.not_handed {pc : CallerPc} (h : pc.active = false) :
    pc.finishes FinishPc.handed = false := by
  cases pc with
  | finishing target held =>
      by_contra hhanded
      rw [Bool.not_eq_false] at hhanded
      have hactive : held.active = true := FinishPc.active_of_handed hhanded
      rw [show held.active = false from h] at hactive
      cases hactive
  | _ => rfl

theorem RunPc.finishes_active (pc : RunPc) : pc.finishes FinishPc.active = pc.active := by
  cases pc <;> rfl

theorem CallerPc.finishes_active (pc : CallerPc) : pc.finishes FinishPc.active = pc.active := by
  cases pc <;> rfl

namespace TrafficTasks

variable {strict : Prop} {s t u : TrafficTasks}

/-- The number of tasks in a call of `_finish` at such a position. -/
def finishers (s : TrafficTasks) (p : FinishPc → Bool) : Nat :=
  (s.runTask.finishes p).toNat + s.callers.countP fun caller => caller.pc.finishes p

/-- The tasks that hold a finalization. -/
def holding (s : TrafficTasks) : Nat := s.finishers FinishPc.active

/-- The tasks that have handed their result to persistence. -/
def inHand (s : TrafficTasks) : Nat := s.finishers FinishPc.handed

theorem finishers_wake {p : FinishPc → Bool} (h : Unwoken p) (s : TrafficTasks) :
    s.wake.finishers p = s.finishers p := by
  unfold finishers wake
  dsimp only
  rw [RunPc.finishes_wake h, List.countP_map]
  congr 2
  funext caller
  exact CallerPc.finishes_wake h caller.pc

theorem inHand_le (s : TrafficTasks) : s.inHand ≤ s.holding := by
  have hrun : (s.runTask.finishes FinishPc.handed).toNat ≤
      (s.runTask.finishes FinishPc.active).toNat := by
    cases s.runTask with
    | finishing target pc => cases pc <;> simp [RunPc.finishes, FinishPc.handed, FinishPc.active]
    | _ => exact Nat.zero_le _
  have hcallers : s.callers.countP (fun caller => caller.pc.finishes FinishPc.handed) ≤
      s.callers.countP fun caller => caller.pc.finishes FinishPc.active := by
    apply List.countP_mono_left
    intro caller _ hhanded
    cases hpc : caller.pc with
    | finishing target pc =>
        rw [hpc] at hhanded
        exact FinishPc.active_of_handed hhanded
    | _ =>
        rw [hpc] at hhanded
        cases hhanded
  exact Nat.add_le_add hrun hcallers

/-- A call of `stop` or `fail` that comes adds what it does. -/
theorem finishers_append (s : TrafficTasks) (caller : Caller) (p : FinishPc → Bool) :
    ({ s with callers := s.callers ++ [caller] } : TrafficTasks).finishers p =
      s.finishers p + (caller.pc.finishes p).toNat := by
  unfold finishers
  dsimp only
  rw [List.countP_append, List.countP_singleton]
  cases caller.pc.finishes p <;> simp [Nat.add_assoc]

/-- A call of `stop` or `fail` that moves changes what it does. -/
theorem finishers_set {i : Nat} {caller : Caller} (hget : s.callers[i]? = some caller)
    (pc : CallerPc) (p : FinishPc → Bool) :
    ({ s with callers := s.callers.set i { caller with pc := pc } } : TrafficTasks).finishers p +
        (caller.pc.finishes p).toNat =
      s.finishers p + (pc.finishes p).toNat := by
  unfold finishers
  dsimp only
  rw [List.set_eq_modify]
  have hcount := countP_modify hget (fun caller => caller.pc.finishes p)
    fun _ => { caller with pc := pc }
  dsimp only at hcount
  omega

/-- The run task that moves changes what it does. -/
theorem finishers_run (s : TrafficTasks) (pc : RunPc) (p : FinishPc → Bool) :
    ({ s with runTask := pc } : TrafficTasks).finishers p + (s.runTask.finishes p).toNat =
      s.finishers p + (pc.finishes p).toNat := by
  unfold finishers
  dsimp only
  omega

/-! ## One finalization at a time -/

/-- At most one task holds a finalization, and what has been handed to persistence
is in hand or frozen. -/
structure Single (s : TrafficTasks) : Prop where
  holding : s.holding = if s.controller.finalizationDone then 0 else 1
  persisted : s.persistCalls.length = s.controller.frozenResults.length + s.inHand
  isOver : 0 < s.controller.frozenResults.length → s.controller.finalizationDone = true
  once : s.controller.frozenResults.length ≤ 1
  woken : ∀ caller ∈ s.callers, CallerPc.woken caller.pc = true →
    0 < s.controller.frozenResults.length

theorem Single.free (h : Single s) (hdone : s.controller.finalizationDone = true) :
    s.holding = 0 := by
  have hholding := h.holding
  rw [hdone, if_pos rfl] at hholding
  exact hholding

/-- Nothing that the invariant counts has changed. -/
theorem Single.congr (h : Single s)
    (hdone : u.controller.finalizationDone = s.controller.finalizationDone)
    (hfrozen : u.controller.frozenResults.length = s.controller.frozenResults.length)
    (hcalls : u.persistCalls = s.persistCalls)
    (hholding : u.holding = s.holding) (hinHand : u.inHand = s.inHand)
    (hwoken : ∀ caller ∈ u.callers, CallerPc.woken caller.pc = true → caller ∈ s.callers) :
    Single u where
  holding := by rw [hholding, hdone, h.holding]
  persisted := by rw [hcalls, hfrozen, hinHand, h.persisted]
  isOver := by
    rw [hfrozen, hdone]
    exact h.isOver
  once := hfrozen ▸ h.once
  woken := by
    intro caller hmember hcaller
    rw [hfrozen]
    exact h.woken caller (hwoken caller hmember hcaller) hcaller

/-- A finalization is under way: one task holds it, and all that it has handed to
persistence is in hand. -/
structure UnderWay (s : TrafficTasks) : Prop where
  active : s.controller.finalizationDone = false
  unfrozen : s.controller.frozenResults = []
  holding : s.holding = 1
  persisted : s.persistCalls.length = s.inHand
  unwoken : ∀ caller ∈ s.callers, CallerPc.woken caller.pc = false

theorem Single.unwoken (h : Single s) (hunfrozen : s.controller.frozenResults = []) :
    ∀ caller ∈ s.callers, CallerPc.woken caller.pc = false := by
  intro caller hmember
  by_contra hwoken
  rw [Bool.not_eq_false] at hwoken
  have hpositive := h.woken caller hmember hwoken
  rw [hunfrozen] at hpositive
  cases hpositive

theorem Single.underWay (h : Single s) (hactive : s.controller.finalizationDone = false) :
    UnderWay s := by
  have hunfrozen : s.controller.frozenResults = [] := by
    by_contra hne
    rw [h.isOver (List.length_pos_iff.mpr hne)] at hactive
    cases hactive
  have hholding := h.holding
  have hpersisted := h.persisted
  rw [hactive] at hholding
  rw [hunfrozen, List.length_nil, Nat.zero_add] at hpersisted
  exact ⟨hactive, hunfrozen, hholding, hpersisted, h.unwoken hunfrozen⟩

theorem UnderWay.single (h : UnderWay s) : Single s where
  holding := by
    rw [h.active, h.holding]
    rfl
  persisted := by rw [h.persisted, h.unfrozen, List.length_nil, Nat.zero_add]
  isOver := by simp [h.unfrozen]
  once := by simp [h.unfrozen]
  woken := by
    intro caller hmember hwoken
    rw [h.unwoken caller hmember] at hwoken
    cases hwoken

/-- The result is frozen and no task holds a finalization. -/
theorem single_of_frozen (hdone : s.controller.finalizationDone = true)
    (hfrozen : s.controller.frozenResults.length = 1) (hholding : s.holding = 0)
    (hpersisted : s.persistCalls.length = 1 + s.inHand) : Single s where
  holding := by
    rw [hdone, hholding]
    rfl
  persisted := by rw [hpersisted, hfrozen]
  isOver := fun _ => hdone
  once := hfrozen.le
  woken := fun _ _ _ => hfrozen ▸ Nat.one_pos

/-- At most one result is handed to persistence. -/
theorem Single.persistedOnce (h : Single s) : s.persistCalls.length ≤ 1 := by
  have hinHand := s.inHand_le
  cases hdone : s.controller.finalizationDone with
  | true =>
      have hfree := h.free hdone
      have hpersisted := h.persisted
      have honce := h.once
      omega
  | false =>
      have hunderWay := h.underWay hdone
      have hholding := hunderWay.holding
      have hpersisted := hunderWay.persisted
      omega

/-! ## Moves of the task that holds a finalization -/

theorem finishes_callerAfter (p : FinishPc → Bool) (target : TrafficRunState)
    (outcome : FinishOutcome) : (callerAfter target outcome).finishes p = outcome.finishes p := by
  cases outcome <;> rfl

/-- Being woken apart, only the call of `_finish` itself moves. -/
theorem Resumed.finishers {held : FinishPc} {outcome : FinishOutcome}
    (hresumed : Resumed s held t outcome) {p : FinishPc → Bool} (hp : Unwoken p) :
    t.finishers p = s.finishers p := by
  cases hresumed with
  | handed captured c terminal hview hfrozen hmirrors => rfl
  | unpersisted terminal failed hmirrors => rfl
  | persisted terminal => exact finishers_wake hp _
  | copied terminal => exact finishers_wake hp _

theorem Resumed.runTask {held : FinishPc} {outcome : FinishOutcome}
    (hresumed : Resumed s held t outcome) {p : FinishPc → Bool} (hp : Unwoken p) :
    t.runTask.finishes p = s.runTask.finishes p := by
  cases hresumed with
  | handed captured c terminal hview hfrozen hmirrors => rfl
  | unpersisted terminal failed hmirrors => rfl
  | persisted terminal => exact RunPc.finishes_wake hp _
  | copied terminal => exact RunPc.finishes_wake hp _

theorem Resumed.callers {held : FinishPc} {outcome : FinishOutcome}
    (hresumed : Resumed s held t outcome) {i : Nat} {caller : Caller}
    (hget : s.callers[i]? = some caller) :
    ∃ pc, t.callers[i]? = some { caller with pc := pc } ∧
      ∀ p, Unwoken p → pc.finishes p = caller.pc.finishes p := by
  have hwoken : ∀ c : TrafficController, ∀ exported : Option TrafficRunResult,
      ({ s with controller := c, exported := exported } : TrafficTasks).wake.callers[i]? =
        some { caller with pc := caller.pc.wake } := by
    intro c exported
    unfold wake
    dsimp only
    rw [List.getElem?_map, hget]
    rfl
  cases hresumed with
  | handed captured c terminal hview hfrozen hmirrors => exact ⟨caller.pc, hget, fun p _ => rfl⟩
  | unpersisted terminal failed hmirrors => exact ⟨caller.pc, hget, fun p _ => rfl⟩
  | persisted terminal =>
      exact ⟨caller.pc.wake, hwoken _ _, fun p hp => CallerPc.finishes_wake hp caller.pc⟩
  | copied terminal =>
      exact ⟨caller.pc.wake, hwoken _ _, fun p hp => CallerPc.finishes_wake hp caller.pc⟩

/-- The run task goes on with its finalization, and nobody else moves. -/
theorem Resumed.finishers_run {held : FinishPc} {outcome : FinishOutcome}
    (hresumed : Resumed s held t outcome) {target : TrafficRunState}
    (hpc : s.runTask = .finishing target held) (m : Moment) {p : FinishPc → Bool}
    (hp : Unwoken p) : (t.runAfterFinish m target outcome).finishers p + (p held).toNat =
      s.finishers p + (outcome.finishes p).toNat := by
  have hmoved : ∀ pc : RunPc, pc.finishes p = outcome.finishes p →
      ({ t with runTask := pc } : TrafficTasks).finishers p + (p held).toNat =
        s.finishers p + (outcome.finishes p).toNat := by
    intro pc hafter
    have hcount := TrafficTasks.finishers_run t pc p
    rw [hresumed.finishers hp, hresumed.runTask hp, hpc, hafter] at hcount
    exact hcount
  cases outcome with
  | suspended pc => exact hmoved (.finishing target pc) rfl
  | returned value => exact hmoved .done rfl
  | raised message => cases hresumed

/-- A call of `stop` or `fail` goes on with its finalization, and nobody else moves. -/
theorem Resumed.finishers_set {held : FinishPc} {outcome : FinishOutcome}
    (hresumed : Resumed s held t outcome) {target : TrafficRunState} {i : Nat} {caller : Caller}
    (hget : s.callers[i]? = some caller) (hpc : caller.pc = .finishing target held)
    {p : FinishPc → Bool} (hp : Unwoken p) :
    ({ t with callers := t.callers.set i { caller with pc := callerAfter target outcome } } :
        TrafficTasks).finishers p + (p held).toNat =
      s.finishers p + (outcome.finishes p).toNat := by
  obtain ⟨pc, hcaller, hfinishes⟩ := hresumed.callers hget
  have hcount := TrafficTasks.finishers_set hcaller (callerAfter target outcome) p
  rw [hresumed.finishers hp, hfinishes p hp, hpc, finishes_callerAfter] at hcount
  exact hcount

/-- The task that holds the finalization has gone on. -/
theorem UnderWay.resumed (h : UnderWay s) {held : FinishPc} {outcome : FinishOutcome}
    (hresumed : Resumed s held t outcome)
    (hcontroller : u.controller = t.controller) (hcalls : u.persistCalls = t.persistCalls)
    (hmoved : ∀ p, Unwoken p →
      u.finishers p + (p held).toNat = s.finishers p + (outcome.finishes p).toNat)
    (hunwoken : t.callers = s.callers →
      ∀ caller ∈ u.callers, CallerPc.woken caller.pc = false) :
    Single u := by
  have hholding : u.holding + _ = s.holding + _ := hmoved _ unwoken_active
  have hinHand : u.inHand + _ = s.inHand + _ := hmoved _ unwoken_handed
  have hpersisted := h.persisted
  rw [h.holding] at hholding
  cases hresumed with
  | handed captured c terminal hview hfrozen hmirrors =>
      refine UnderWay.single ⟨?_, ?_, Nat.add_right_cancel hholding, ?_, hunwoken rfl⟩
      · rw [hcontroller, ← h.active]
        exact congrArg (fun v => v.frame.finalizationDone) hview
      · rw [hcontroller]
        exact hfrozen.trans h.unfrozen
      · change u.inHand + 0 = s.inHand + 1 at hinHand
        rw [hcalls, List.length_cons]
        omega
  | unpersisted terminal failed hmirrors =>
      refine UnderWay.single ⟨?_, ?_, Nat.add_right_cancel hholding, ?_, hunwoken rfl⟩
      · rw [hcontroller, h.active]
      · rw [hcontroller, h.unfrozen]
      · change u.inHand + 1 = s.inHand + 1 at hinHand
        change u.persistCalls = s.persistCalls at hcalls
        rw [hcalls]
        omega
  | persisted terminal =>
      refine single_of_frozen ?_ ?_ (Nat.add_right_cancel hholding) ?_
      · exact congrArg TrafficController.finalizationDone hcontroller
      · rw [hcontroller]
        exact congrArg (·.length + 1) h.unfrozen
      · change u.inHand + 1 = s.inHand + 0 at hinHand
        change u.persistCalls = s.persistCalls at hcalls
        rw [hcalls]
        omega
  | copied terminal =>
      refine single_of_frozen ?_ ?_ (Nat.add_right_cancel hholding) ?_
      · exact congrArg TrafficController.finalizationDone hcontroller
      · rw [hcontroller]
        exact congrArg (·.length + 1) h.unfrozen
      · change u.inHand + 1 = s.inHand + 0 at hinHand
        change u.persistCalls = s.persistCalls at hcalls
        rw [hcalls]
        omega

/-! ## Every move -/

theorem Neutral.finishers (hneutral : Neutral strict s t) (p : FinishPc → Bool) :
    t.finishers p = s.finishers p := by
  unfold TrafficTasks.finishers
  rw [hneutral.runTask, hneutral.callers]

theorem Single.neutral (h : Single s) (hneutral : Neutral strict s t) : Single t :=
  h.congr hneutral.finalizationDone hneutral.frozen hneutral.persistCalls
    (hneutral.finishers _) (hneutral.finishers _)
    fun _ hmember _ => hneutral.callers ▸ hmember

/-- A change of the run task that neither takes nor gives up a finalization. -/
theorem Single.idleRun (h : Single s) (hfree : s.runTask.active = false) {pc : RunPc}
    (hidle : pc.active = false) : Single { s with runTask := pc } := by
  refine h.congr rfl rfl rfl ?_ ?_ fun _ hmember _ => hmember
  · have hcount := finishers_run s pc FinishPc.active
    rw [RunPc.finishes_active, RunPc.finishes_active, hfree, hidle] at hcount
    exact hcount
  · have hcount := finishers_run s pc FinishPc.handed
    rw [RunPc.not_handed hfree, RunPc.not_handed hidle] at hcount
    exact hcount

/-- A call of `stop` or `fail` that comes and holds no finalization. -/
theorem Single.idleCall (h : Single s) (kind : CallerKind) {pc : CallerPc}
    (hidle : pc.active = false) (hwoken : CallerPc.woken pc = false) :
    Single { s with callers := s.callers ++ [{ kind := kind, pc := pc }] } := by
  refine h.congr rfl rfl rfl ?_ ?_ ?_
  · have hcount := finishers_append s { kind := kind, pc := pc } FinishPc.active
    rw [CallerPc.finishes_active, hidle] at hcount
    exact hcount
  · have hcount := finishers_append s { kind := kind, pc := pc } FinishPc.handed
    rw [CallerPc.not_handed hidle] at hcount
    exact hcount
  · intro caller hmember hcaller
    rcases List.mem_append.mp hmember with hearlier | hlast
    · exact hearlier
    · obtain rfl := List.mem_singleton.mp hlast
      rw [hwoken] at hcaller
      cases hcaller

/-- What is not woken at one place of the callers is not woken there. -/
theorem mem_of_mem_set {callers : List Caller} {i : Nat} {new : Caller}
    (hwoken : CallerPc.woken new.pc = false) :
    ∀ caller ∈ callers.set i new, CallerPc.woken caller.pc = true → caller ∈ callers := by
  intro caller hmember hcaller
  rcases List.mem_or_eq_of_mem_set hmember with hearlier | rfl
  · exact hearlier
  · rw [hwoken] at hcaller
    cases hcaller

/-- A call of `stop` or `fail` that moves and holds no finalization. -/
theorem Single.idleResume (h : Single s) {i : Nat} {caller : Caller}
    (hget : s.callers[i]? = some caller) (hfree : caller.pc.active = false) {pc : CallerPc}
    (hidle : pc.active = false) (hwoken : CallerPc.woken pc = false) :
    Single { s with callers := s.callers.set i { caller with pc := pc } } := by
  refine h.congr rfl rfl rfl ?_ ?_ (mem_of_mem_set hwoken)
  · have hcount := finishers_set hget pc FinishPc.active
    rw [CallerPc.finishes_active, CallerPc.finishes_active, hfree, hidle] at hcount
    exact hcount
  · have hcount := finishers_set hget pc FinishPc.handed
    rw [CallerPc.not_handed hfree, CallerPc.not_handed hidle] at hcount
    exact hcount

/-- A task begins to finalize. -/
theorem Single.begin (h : Single s) (hcontrolled : Controlled s.controller)
    (hdone : s.controller.finalizationDone = true) (hopen : s.controller.frozenResults = [])
    (m : Moment) (hcontroller : u.controller = s.controller.beginFinalization m)
    (hcalls : u.persistCalls = s.persistCalls)
    (hholding : u.holding = s.holding + 1) (hinHand : u.inHand = s.inHand)
    (hunwoken : ∀ caller ∈ u.callers, CallerPc.woken caller.pc = false) : Single u := by
  obtain ⟨_, hframe⟩ : Advance False _ _ ∧ _ := advance_beginFinalization hcontrolled m
  have hpersisted := h.persisted
  rw [hopen, List.length_nil, Nat.zero_add] at hpersisted
  refine UnderWay.single ⟨?_, ?_, ?_, ?_, hunwoken⟩
  · rw [hcontroller]
    exact congrArg Frame.finalizationDone hframe
  · rw [hcontroller]
    have hlength : (s.controller.beginFinalization m).frozenResults.length =
        s.controller.frozenResults.length := congrArg Frame.frozen hframe
    rw [hopen] at hlength
    exact List.length_eq_zero_iff.mp hlength
  · rw [hholding, h.free hdone]
  · rw [hcalls, hpersisted, hinHand]

/-- The run task begins to finalize. -/
theorem Single.beginRun (h : Single s) (hcontrolled : Controlled s.controller)
    (hfree : s.runTask.active = false) (hopen : ¬s.controller.Closed) (m : Moment)
    (target : TrafficRunState) (captured : Nat) :
    Single { s with
      controller := s.controller.beginFinalization m
      runTask := .finishing target (.computing captured) } := by
  have hunfrozen : s.controller.frozenResults = [] :=
    by_contra fun hne => hopen (hcontrolled.frozen hne)
  have hdone : s.controller.finalizationDone = true := by
    by_contra hactive
    exact hopen (hcontrolled.active (by simpa using hactive))
  refine h.begin hcontrolled hdone hunfrozen m rfl rfl ?_ ?_ (h.unwoken hunfrozen)
  · have hcount := finishers_run s (.finishing target (.computing captured)) FinishPc.active
    rw [RunPc.finishes_active, hfree] at hcount
    exact hcount
  · have hcount := finishers_run s (.finishing target (.computing captured)) FinishPc.handed
    rw [RunPc.not_handed hfree] at hcount
    exact hcount

theorem Single.runMove (h : Single s) (hstructured : Structured s)
    (hmove : RunMove strict s t) : Single t := by
  cases hmove with
  | idle u pc hneutral hfree hidle hfits =>
      rw [← hneutral.runTask] at hfree
      exact (h.neutral hneutral).idleRun hfree hidle
  | begin u target m hneutral hfree hopen =>
      rw [← hneutral.runTask] at hfree
      exact (h.neutral hneutral).beginRun hneutral.advance.controlled hfree hopen m target _
  | finish target held m u outcome hpc hresumed =>
      have hrun := hstructured.run
      rw [hpc] at hrun
      obtain ⟨_, _, _, hactive, _⟩ := hrun
      have hunderWay := h.underWay hactive
      have hmoved := fun p (hp : Unwoken p) => hresumed.finishers_run hpc m hp
      have hunwoken : u.callers = s.callers →
          ∀ caller ∈ u.callers, CallerPc.woken caller.pc = false :=
        fun hcallers => hcallers ▸ hunderWay.unwoken
      cases houtcome : outcome with
      | suspended pc =>
          rw [houtcome] at hmoved hresumed
          exact hunderWay.resumed hresumed rfl rfl hmoved hunwoken
      | returned value =>
          rw [houtcome] at hmoved hresumed
          exact hunderWay.resumed hresumed rfl rfl hmoved hunwoken
      | raised message =>
          rw [houtcome] at hresumed
          cases hresumed

theorem Single.callMove (h : Single s) {entry : TrafficTasks × CallerPc}
    (hmove : CallMove strict s entry) (kind : CallerKind) :
    Single { entry.1 with callers := entry.1.callers ++ [{ kind := kind, pc := entry.2 }] } := by
  cases hmove with
  | idle t pc hneutral hphase hidle hwoken hfits =>
      exact (h.neutral hneutral).idleCall kind hidle hwoken
  | cancels t runFailed hneutral hphase hdone =>
      have hrequested : Single { t with cancelRequested := true } :=
        (h.neutral hneutral).congr rfl rfl rfl rfl rfl fun _ hmember _ => hmember
      exact hrequested.idleCall kind rfl rfl
  | begin t target m hneutral hphase hover hopen hdone =>
      have hsingle := h.neutral hneutral
      refine hsingle.begin hneutral.advance.controlled hdone hopen m rfl rfl ?_ ?_ ?_
      · exact finishers_append t _ _
      · exact finishers_append t _ _
      · intro caller hmember
        rcases List.mem_append.mp hmember with hearlier | hlast
        · exact hsingle.unwoken hopen caller hearlier
        · obtain rfl := List.mem_singleton.mp hlast
          rfl

theorem Single.resumeMove (h : Single s) {i : Nat} {caller : Caller}
    (hget : s.callers[i]? = some caller) {entry : TrafficTasks × CallerPc}
    (hmove : ResumeMove strict (s.controller.frozenResults = []) s caller.pc entry) :
    Single { entry.1 with callers := entry.1.callers.set i { caller with pc := entry.2 } } := by
  cases hmove with
  | call entry hfree hmove =>
      cases hmove with
      | idle t pc hneutral hphase hidle hwoken hfits =>
          exact (h.neutral hneutral).idleResume (hneutral.callers ▸ hget) hfree hidle hwoken
      | cancels t runFailed hneutral hphase hdone =>
          have hrequested : Single { t with cancelRequested := true } :=
            (h.neutral hneutral).congr rfl rfl rfl rfl rfl fun _ hmember _ => hmember
          exact hrequested.idleResume (hneutral.callers ▸ hget) hfree rfl rfl
      | begin t target m hneutral hphase hover hopen hdone =>
          have hsingle := h.neutral hneutral
          have hcaller : t.callers[i]? = some caller := hneutral.callers ▸ hget
          refine hsingle.begin hneutral.advance.controlled hdone hopen m rfl rfl ?_ ?_ ?_
          · have hcount := finishers_set hcaller
              (.finishing target (.computing t.controller.frozenResults.length)) FinishPc.active
            rw [CallerPc.finishes_active, hfree] at hcount
            exact hcount
          · have hcount := finishers_set hcaller
              (.finishing target (.computing t.controller.frozenResults.length)) FinishPc.handed
            rw [CallerPc.not_handed hfree] at hcount
            exact hcount
          · intro other hmember
            rcases List.mem_or_eq_of_mem_set hmember with hearlier | rfl
            · exact hsingle.unwoken hopen other hearlier
            · rfl
  | woken target m hpc hmay =>
      have hunwoken := h.unwoken hmay caller (List.mem_of_getElem? hget)
      rw [hpc] at hunwoken
      cases hunwoken
  | finish target held t outcome hpc hresumed =>
      have hheld : held.active = true := by cases hresumed <;> rfl
      have hactive : s.controller.finalizationDone = false := by
        by_contra hdone
        have hfree := h.free (by simpa using hdone)
        have hcount := finishers_set hget (.returned true) FinishPc.active
        rw [hpc, show s.finishers FinishPc.active = 0 from hfree] at hcount
        simp [CallerPc.finishes, hheld] at hcount
      have hunderWay := h.underWay hactive
      refine hunderWay.resumed hresumed rfl rfl ?_ ?_
      · exact fun p hp => hresumed.finishers_set hget hpc hp
      · intro hcallers other hmember
        rcases List.mem_or_eq_of_mem_set hmember with hearlier | rfl
        · exact hunderWay.unwoken other (hcallers ▸ hearlier)
        · cases hresumed <;> rfl

/-- A move that wakes no call after a result is frozen keeps one finalization. -/
theorem Single.move (h : Single s) (hstructured : Structured s)
    (hmove : Move strict (s.controller.frozenResults = []) s t) : Single t := by
  cases hmove with
  | event t hneutral hphase => exact h.neutral hneutral
  | run t hactive hcancel hmove => exact h.runMove hstructured hmove
  | cancelled u hneutral hidle =>
      rw [← hneutral.runTask] at hidle
      exact (h.neutral hneutral).idleRun hidle rfl
  | call kind entry hmove => exact h.callMove hmove kind
  | resume i caller entry hget hmove => exact h.resumeMove hget hmove

/-! ## Runs -/

/-- A call of `_finish` that waited for another finalization goes on only when
nothing is frozen. -/
def Rechecks (s : TrafficTasks) (a : Action) : Prop :=
  s.resumesWoken a = true → s.controller.frozenResult = none

instance (s : TrafficTasks) (a : Action) : Decidable (Rechecks s a) :=
  inferInstanceAs (Decidable (s.resumesWoken a = true → s.controller.frozenResult = none))

/-- What holds in every state of every run that rechecks. -/
structure Orderly (s : TrafficTasks) : Prop extends Sound s where
  single : Single s

/-- A run that has just started is not finalized. -/
theorem Started.single (h : Started s t) (hheld : Held s) : Single t := by
  have hdone := h.done hheld
  have hfrozen := h.begun.frozen
  have hfinishers : ∀ p, t.finishers p = 0 := by
    intro p
    unfold finishers
    rw [h.runTask, h.callers]
    rfl
  refine ⟨?_, ?_, fun _ => hdone, by simp [hfrozen], by simp [h.callers]⟩
  · rw [hdone]
    exact hfinishers _
  · rw [h.persistCalls, hfrozen]
    exact (congrArg (0 + ·) (hfinishers FinishPc.handed)).symm

/-- A step that rechecks keeps one finalization. -/
theorem Orderly.step (pb : Protobuf) (h : Orderly s) {a : Action} (hrechecks : Rechecks s a)
    (hstep : step pb s a = some t) : Orderly t := by
  refine ⟨h.toSound.step pb hstep, ?_⟩
  have hunfrozen : s.resumesWoken a = true → s.controller.frozenResults = [] :=
    fun hwoken => List.head?_eq_none_iff.mp (hrechecks hwoken)
  rcases step_cases False (s.controller.frozenResults = []) pb h.structured False.elim
    False.elim hunfrozen hstep with hstarted | hmove
  · exact hstarted.single h.held
  · exact h.single.move h.structured hmove

section Runs

variable {scenario : Scenario} {hardwareIds : Dict String Nat} {buildMetadata : BuildMetadata}
  {settleSeconds : Option ℚ} {failedReceptionSampler : Bool}

theorem orderly_of_run (pb : Protobuf)
    (hrun : Run (step pb) Rechecks
      (.new scenario hardwareIds buildMetadata settleSeconds failedReceptionSampler) s) :
    Orderly s := by
  refine hrun.invariant (fun _ _ _ h hrechecks hstep => h.step pb hrechecks hstep) ?_
  refine ⟨(exact_new _ _ _ _ _).toSound, ⟨rfl, rfl, fun _ => rfl, Nat.zero_le _, ?_⟩⟩
  intro caller hmember
  cases hmember

/-- In a run that rechecks, a result is persisted and frozen at most once. -/
theorem finalized_once (pb : Protobuf)
    (hrun : Run (step pb) Rechecks
      (.new scenario hardwareIds buildMetadata settleSeconds failedReceptionSampler) s) :
    s.persistCalls.length ≤ 1 ∧ s.controller.frozenResults.length ≤ 1 := by
  have hsingle := (orderly_of_run pb hrun).single
  exact ⟨hsingle.persistedOnce, hsingle.once⟩

end Runs

/-! ## Two calls at once -/

/-- A call of `fail` and a call of `stop` both cancel the run task; `fail` finalizes
while `stop` waits for it in `_finish`. -/
def failedThenStopped : List Action :=
  pairSubmission ++
    [.call pairMoment (.fail "gateway"), .call pairMoment .stop, .cancelled,
      .resume 0 pairMoment .runTaskDone, .resume 1 pairMoment .runTaskDone,
      .resume 0 pairMoment (.finish .computed), .resume 0 pairMoment (.finish .persisted),
      .resume 1 pairMoment (.finish .woken), .resume 1 pairMoment (.finish .computed),
      .resume 1 pairMoment (.finish .persisted)]

/-- The run fails, a call of `stop` waits for its finalization to end and finds the
frozen result. -/
def failedWhileStopped : List Action :=
  pairSubmission ++
    [.call pairMoment (.fail "gateway"), .cancelled, .resume 0 pairMoment .runTaskDone,
      .call pairMoment .stop, .resume 0 pairMoment (.finish .computed),
      .resume 0 pairMoment (.finish .persisted), .resume 1 pairMoment .woken]

/-- A run frozen as failed is persisted and frozen again as cancelled. -/
theorem failed_result_refrozen :
    ∃ s, Run (step pairProtobuf) Always pairTasks s ∧
      s.persistCalls.map (·.state) = [.cancelled, .failed] ∧
      s.controller.frozenResults.map (·.state) = [.cancelled, .failed] := by
  have hstate : (exec (step pairProtobuf) failedThenStopped pairTasks).map (fun s =>
      (s.persistCalls.map (·.state), s.controller.frozenResults.map (·.state))) =
        some ([.cancelled, .failed], [.cancelled, .failed]) := by
    decide +kernel
  obtain ⟨s, hexec, hstate⟩ := Option.map_eq_some_iff.mp hstate
  obtain ⟨hcalls, hfrozen⟩ := Prod.mk.inj hstate
  exact ⟨s, .of_exec hexec (conforms_always _ _), hcalls, hfrozen⟩

/-- A call of `stop` that waits before it looks for the result leaves it alone. -/
theorem failed_result_frozen_once :
    ∃ s, exec (step pairProtobuf) failedWhileStopped pairTasks = some s ∧
      s.persistCalls.length ≤ 1 ∧ s.controller.frozenResults.length ≤ 1 := by
  have hsome : (exec (step pairProtobuf) failedWhileStopped pairTasks).isSome = true := by
    decide +kernel
  have hrechecks : Conforms (step pairProtobuf) Rechecks failedWhileStopped pairTasks := by
    decide +kernel
  obtain ⟨s, hexec⟩ := Option.isSome_iff_exists.mp hsome
  exact ⟨s, hexec, finalized_once pairProtobuf (.of_exec hexec hrechecks)⟩

end TrafficTasks

end MeshtasticLab.Traffic

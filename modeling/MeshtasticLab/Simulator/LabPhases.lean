/-
  Simulator/LabPhases.lean --- what a lab has in every phase of its life cycle.

  `Phase` says for every place of the holder of the lifecycle lock which children,
  gateways and verifications there are.  A step of a child or of a gateway keeps it, and so
  does a failure that is reported; the steps of the holder lead from phase to phase.
-/
import MeshtasticLab.Simulator.LabGateways

set_option autoImplicit false

namespace MeshtasticLab.Simulator

open MeshtasticLab.Foundation MeshtasticLab.Gateway MeshtasticLab.Models MeshtasticLab.Runtime

namespace Lab

open NodeGateway (Staged Closed)
open NativeProcessSupervisor (Tended Unfailed Ending)

variable {config : LabConfig} {lab after : Lab}

/-! ## Phases -/

/-- A start is under way, or has failed and does not know yet. -/
structure Starting (startupTask : Bool) (state expected : LifecycleState) : Prop where
  task : startupTask = true
  state : state = expected ∨ state = .failed

/-- No gateway, no verification and no traffic. -/
structure Bare (gateways : Dict String NodeGateway) (verified : List String)
    (simulation : Bool) : Prop where
  gateways : gateways.items = []
  verified : verified = []
  simulation : simulation = false

/-- The children of all nodes are being started, or this has failed at once. -/
def Spawning (nodeIds : List String) (s : NativeProcessSupervisor) : Prop :=
  s.requested = nodeIds ∨ s.records.items = [] ∧ s.lifecycleLock = .idle

/-- The nodes, and no others, have their children and gateways. -/
structure Manned (nodeIds : List String) (s : NativeProcessSupervisor)
    (gateways : Dict String NodeGateway) : Prop where
  lock : s.lifecycleLock = .idle
  records : s.records.items ≠ []
  requested : s.requested = nodeIds
  gateways : ∀ nodeId, gateways.contains nodeId = true ↔ nodeId ∈ nodeIds

/-- The nodes that are not verified are some others. -/
structure Covered (nodeIds verified pending : List String) : Prop where
  covers : ∀ nodeId ∈ nodeIds, nodeId ∈ verified ∨ nodeId ∈ pending
  apart : ∀ nodeId ∈ pending, nodeId ∉ verified

/-- Every gateway among some nodes has been started. -/
def Served (gateways : Dict String NodeGateway) (nodeIds : List String) : Prop :=
  ∀ nodeId g, gateways.get? nodeId = some g → nodeId ∈ nodeIds → Serving g

/-- `stop` was called on every gateway but some. -/
def Halted (gateways : Dict String NodeGateway) (uncalled : List String) : Prop :=
  ∀ nodeId g, gateways.get? nodeId = some g → nodeId ∉ uncalled → Halting g

/-- No call is under way on a gateway. -/
def Quiet (gateways : Dict String NodeGateway) : Prop :=
  ∀ nodeId g, gateways.get? nodeId = some g → g.lifecycle = .idle

/-- The state during a cleanup. -/
def Tidying (startupTask : Bool) (state : LifecycleState) : CleanupKind → Prop
  | .stop => startupTask = false ∧ state = .stopping
  | .failure => startupTask = false ∧ (state = .failed ∨ state = .stopped)
  | .startup => startupTask = true ∧ state = .failed
  | .recovery => startupTask = false ∧ state = .failed

/-- Nothing is left of a run. -/
structure Clean (lab : Lab) : Prop where
  records : lab.supervisor.records.items = []
  bare : Bare lab.gateways lab.verified lab.simulation

/-- Everything a run needs is there. -/
structure Full (lab : Lab) : Prop where
  manned : Manned lab.scenario.nodeIds lab.supervisor lab.gateways
  covered : Covered lab.scenario.nodeIds lab.verified []
  simulation : lab.simulation = true

/-- What a lab has when nobody holds the lock. -/
def Resting (lab : Lab) : Prop :=
  lab.state = .stopped ∧ Clean lab ∨
  lab.state = .failed ∧ (lab.failureCleanup = true ∨ Clean lab) ∨
  lab.state = .running ∧ Full lab

/-- What a lab has in the phase before the first attempt. -/
structure Configuring (lab : Lab) : Prop where
  starting : Starting lab.startupTask lab.state .starting
  manned : Manned lab.scenario.nodeIds lab.supervisor lab.gateways
  verified : lab.verified = []

/-- What a lab has while the pending gateways of an attempt are stopped and started. -/
structure Attempting (lab : Lab) (pending uncalled : List String) : Prop where
  starting : Starting lab.startupTask lab.state .starting
  manned : Manned lab.scenario.nodeIds lab.supervisor lab.gateways
  covered : Covered lab.scenario.nodeIds lab.verified pending
  called : uncalled ⊆ pending

/-- What a lab has while it watches the pending gateways of an attempt. -/
structure Verifying (lab : Lab) (remaining unstable : List String) : Prop where
  starting : Starting lab.startupTask lab.state .starting
  manned : Manned lab.scenario.nodeIds lab.supervisor lab.gateways
  covered : Covered lab.scenario.nodeIds lab.verified (remaining ++ unstable)
  once : ∀ nodeId ∈ remaining, nodeId ∉ unstable
  served : Served lab.gateways remaining

/-- What a lab has when the holder of the lock is at a place. -/
def Phase (lab : Lab) : LabPc → Prop
  | .free =>
      lab.startupTask = false ∧ lab.supervisor.lifecycleLock = .idle ∧ Resting lab
  | .processes =>
      Starting lab.startupTask lab.state .starting ∧
        Bare lab.gateways lab.verified lab.simulation ∧
        Spawning lab.scenario.nodeIds lab.supervisor
  | .gateways _ => Configuring lab
  | .abandoning => Configuring lab
  | .configuring => Configuring lab
  | .rebooting => Configuring lab
  | .stopping _ pending uncalled => Attempting lab pending uncalled
  | .restarting _ pending uncalled => Attempting lab pending uncalled
  | .verifying _ remaining unstable => Verifying lab remaining unstable
  | .medium => Starting lab.startupTask lab.state .starting ∧ Full lab
  | .warmingUp => Starting lab.startupTask lab.state .warmingUp ∧ Full lab
  | .enabling => Starting lab.startupTask lab.state .warmingUp ∧ Full lab
  | .cleaning kind .simulation =>
      Tidying lab.startupTask lab.state kind ∧ lab.supervisor.lifecycleLock = .idle
  | .cleaning kind (.gateways uncalled) =>
      Tidying lab.startupTask lab.state kind ∧ lab.supervisor.lifecycleLock = .idle ∧
        Halted lab.gateways uncalled
  | .cleaning kind .processes =>
      Tidying lab.startupTask lab.state kind ∧ Ending lab.supervisor ∧
        Halted lab.gateways [] ∧ Quiet lab.gateways

/-! ## A step of the processes -/

section Processes

variable {s t : NativeProcessSupervisor} {a : NativeProcessSupervisor.Action}
  {nodeIds : List String} {gateways : Dict String NodeGateway}

theorem Manned.own (h : Manned nodeIds s gateways) (hown : a.isOwn = true)
    (hstep : s.step config.supervisor a = some t) : Manned nodeIds t gateways := by
  obtain ⟨halike, hlock⟩ := NativeProcessSupervisor.own_of_idle h.lock hown hstep
  exact ⟨hlock, fun hempty => h.records (halike.empty_iff.mp hempty),
    halike.requested.trans h.requested, h.gateways⟩

theorem Spawning.own (h : Spawning nodeIds s) (hown : a.isOwn = true)
    (hstep : s.step config.supervisor a = some t) : Spawning nodeIds t := by
  rcases h with hrequested | ⟨hempty, hidle⟩
  · left
    exact (NativeProcessSupervisor.requested_own hown hstep).trans hrequested
  · right
    obtain ⟨halike, hlock⟩ := NativeProcessSupervisor.own_of_idle hidle hown hstep
    exact ⟨halike.empty_iff.mpr hempty, hlock⟩

end Processes

section Supervisor

variable {t : NativeProcessSupervisor} {a : NativeProcessSupervisor.Action}

theorem Full.own (h : Full lab) (hown : a.isOwn = true)
    (hstep : lab.supervisor.step config.supervisor a = some t) :
    Full { lab with supervisor := t } :=
  ⟨h.manned.own hown hstep, h.covered, h.simulation⟩

theorem Resting.own (h : Resting lab) (hidle : lab.supervisor.lifecycleLock = .idle)
    (hown : a.isOwn = true) (hstep : lab.supervisor.step config.supervisor a = some t) :
    Resting { lab with supervisor := t } := by
  have hclean : Clean lab → Clean { lab with supervisor := t } := by
    rintro ⟨hrecords, hbare⟩
    have halike := (NativeProcessSupervisor.own_of_idle hidle hown hstep).1
    exact ⟨halike.empty_iff.mpr hrecords, hbare⟩
  rcases h with ⟨hstate, h⟩ | ⟨hstate, h⟩ | ⟨hstate, h⟩
  · exact .inl ⟨hstate, hclean h⟩
  · exact .inr (.inl ⟨hstate, h.imp_right hclean⟩)
  · exact .inr (.inr ⟨hstate, h.own hown hstep⟩)

theorem Configuring.own (h : Configuring lab) (hown : a.isOwn = true)
    (hstep : lab.supervisor.step config.supervisor a = some t) :
    Configuring { lab with supervisor := t } :=
  ⟨h.starting, h.manned.own hown hstep, h.verified⟩

theorem Attempting.own {pending uncalled : List String} (h : Attempting lab pending uncalled)
    (hown : a.isOwn = true) (hstep : lab.supervisor.step config.supervisor a = some t) :
    Attempting { lab with supervisor := t } pending uncalled :=
  ⟨h.starting, h.manned.own hown hstep, h.covered, h.called⟩

theorem Phase.own {pc : LabPc} (h : Phase lab pc) (hown : a.isOwn = true)
    (hstep : lab.supervisor.step config.supervisor a = some t) :
    Phase { lab with supervisor := t } pc := by
  have hlock : lab.supervisor.lifecycleLock = .idle → t.lifecycleLock = .idle :=
    fun hidle => (NativeProcessSupervisor.own_of_idle hidle hown hstep).2
  cases pc with
  | free => exact ⟨h.1, hlock h.2.1, h.2.2.own h.2.1 hown hstep⟩
  | processes => exact ⟨h.1, h.2.1, h.2.2.own hown hstep⟩
  | gateways uncalled => exact Configuring.own h hown hstep
  | abandoning => exact Configuring.own h hown hstep
  | configuring => exact Configuring.own h hown hstep
  | rebooting => exact Configuring.own h hown hstep
  | stopping attempt pending uncalled => exact Attempting.own h hown hstep
  | restarting attempt pending uncalled => exact Attempting.own h hown hstep
  | verifying attempt remaining unstable =>
      exact ⟨h.starting, h.manned.own hown hstep, h.covered, h.once, h.served⟩
  | medium => exact ⟨h.1, h.2.own hown hstep⟩
  | warmingUp => exact ⟨h.1, h.2.own hown hstep⟩
  | enabling => exact ⟨h.1, h.2.own hown hstep⟩
  | cleaning kind cleanup =>
      cases cleanup with
      | simulation => exact ⟨h.1, hlock h.2⟩
      | gateways uncalled => exact ⟨h.1, hlock h.2.1, h.2.2⟩
      | processes => exact ⟨h.1, h.2.1.own hown hstep, h.2.2⟩

end Supervisor

/-! ## A failure -/

/-- The lab starts or runs, and no failure was acted on. -/
def isLive : LifecycleState → Bool
  | .starting => true
  | .warmingUp => true
  | .running => true
  | _ => false

theorem scheduleRuntimeFailure_eq (lab : Lab) :
    lab.scheduleRuntimeFailure =
      if isLive lab.state = true then
        { lab with
          state := .failed
          failureCleanup := lab.failureCleanup || !lab.startupTask }
      else lab := by
  unfold scheduleRuntimeFailure
  cases lab.state <;> rfl

theorem scheduleRuntimeFailure_state (lab : Lab) :
    isLive lab.scheduleRuntimeFailure.state = false := by
  rw [scheduleRuntimeFailure_eq]
  split
  · rfl
  · next hlive => exact Bool.eq_false_iff.mpr hlive

theorem Tidying.not_live {startupTask : Bool} {state : LifecycleState} {kind : CleanupKind}
    (h : Tidying startupTask state kind) : isLive state = false := by
  cases kind with
  | stop => rw [h.2]; rfl
  | failure => rcases h.2 with hstate | hstate <;> rw [hstate] <;> rfl
  | startup => rw [h.2]; rfl
  | recovery => rw [h.2]; rfl

theorem Phase.scheduleRuntimeFailure {pc : LabPc} (h : Phase lab pc) :
    Phase lab.scheduleRuntimeFailure pc := by
  rw [scheduleRuntimeFailure_eq]
  split
  · next hlive =>
      cases pc with
      | free => exact ⟨h.1, h.2.1, .inr (.inl ⟨rfl, .inl (by simp [h.1])⟩)⟩
      | processes => exact ⟨⟨h.1.task, .inr rfl⟩, h.2⟩
      | gateways uncalled => exact ⟨⟨h.starting.task, .inr rfl⟩, h.manned, h.verified⟩
      | abandoning => exact ⟨⟨h.starting.task, .inr rfl⟩, h.manned, h.verified⟩
      | configuring => exact ⟨⟨h.starting.task, .inr rfl⟩, h.manned, h.verified⟩
      | rebooting => exact ⟨⟨h.starting.task, .inr rfl⟩, h.manned, h.verified⟩
      | stopping attempt pending uncalled =>
          exact ⟨⟨h.starting.task, .inr rfl⟩, h.manned, h.covered, h.called⟩
      | restarting attempt pending uncalled =>
          exact ⟨⟨h.starting.task, .inr rfl⟩, h.manned, h.covered, h.called⟩
      | verifying attempt remaining unstable =>
          exact ⟨⟨h.starting.task, .inr rfl⟩, h.manned, h.covered, h.once, h.served⟩
      | medium => exact ⟨⟨h.1.task, .inr rfl⟩, h.2.manned, h.2.covered, h.2.simulation⟩
      | warmingUp => exact ⟨⟨h.1.task, .inr rfl⟩, h.2.manned, h.2.covered, h.2.simulation⟩
      | enabling => exact ⟨⟨h.1.task, .inr rfl⟩, h.2.manned, h.2.covered, h.2.simulation⟩
      | cleaning kind cleanup =>
          have hnot : Tidying lab.startupTask lab.state kind → False := by
            intro htidying
            rw [htidying.not_live] at hlive
            cases hlive
          cases cleanup with
          | simulation => exact (hnot h.1).elim
          | gateways uncalled => exact (hnot h.1).elim
          | processes => exact (hnot h.1).elim
  · exact h

/-- The failures that were not acted on do not count. -/
theorem Phase.missed {pc : LabPc} (h : Phase lab pc) (missed : List String) :
    Phase { lab with missed } pc := by
  have hfull : Full lab → Full { lab with missed } :=
    fun hfull => ⟨hfull.manned, hfull.covered, hfull.simulation⟩
  cases pc with
  | free =>
      refine ⟨h.1, h.2.1, h.2.2.imp ?_ (Or.imp ?_ ?_)⟩
      · exact fun ⟨hstate, hclean⟩ => ⟨hstate, hclean.records, hclean.bare⟩
      · exact fun ⟨hstate, hrest⟩ => ⟨hstate, hrest.imp_right fun hclean =>
          ⟨hclean.records, hclean.bare⟩⟩
      · exact fun ⟨hstate, hrest⟩ => ⟨hstate, hfull hrest⟩
  | processes => exact h
  | stopping attempt pending uncalled => exact ⟨h.starting, h.manned, h.covered, h.called⟩
  | restarting attempt pending uncalled => exact ⟨h.starting, h.manned, h.covered, h.called⟩
  | verifying attempt remaining unstable =>
      exact ⟨h.starting, h.manned, h.covered, h.once, h.served⟩
  | medium => exact ⟨h.1, hfull h.2⟩
  | warmingUp => exact ⟨h.1, hfull h.2⟩
  | enabling => exact ⟨h.1, hfull h.2⟩
  | cleaning kind cleanup => cases cleanup <;> exact h
  | _ => exact ⟨h.starting, h.manned, h.verified⟩

/-! ## A step of a gateway -/

section Gateways

variable {nodeId : String} {g next : NodeGateway} {a : NodeGateway.Action}
  {gateways : Dict String NodeGateway}

theorem Manned.set {nodeIds : List String} {s : NativeProcessSupervisor}
    (h : Manned nodeIds s gateways) (hg : gateways.get? nodeId = some g) (next : NodeGateway) :
    Manned nodeIds s (gateways.set nodeId next) := by
  refine ⟨h.lock, h.records, h.requested, fun other => ?_⟩
  rw [Dict.contains_set, h.gateways other]
  refine or_iff_right_of_imp ?_
  rintro rfl
  exact (h.gateways other).mp (by simp [Dict.contains, hg])

/-- What holds of a gateway before its step holds of it after, and of the others still. -/
theorem forall_set {P : String → NodeGateway → Prop}
    (hall : ∀ other g, gateways.get? other = some g → P other g) (hnext : P nodeId next) :
    ∀ other g, (gateways.set nodeId next).get? other = some g → P other g := by
  intro other g hg
  rw [Dict.get?_set] at hg
  split at hg
  · next hsame =>
      cases hg
      rw [hsame]
      exact hnext
  · exact hall other g hg

theorem Halted.set {uncalled : List String} (h : Halted gateways uncalled)
    (hnext : nodeId ∉ uncalled → Halting next) :
    Halted (gateways.set nodeId next) uncalled :=
  forall_set (P := fun other g => other ∉ uncalled → Halting g) h hnext

theorem Full.set (h : Full lab) (hg : lab.gateways.get? nodeId = some g) (next : NodeGateway) :
    Full { lab with gateways := lab.gateways.set nodeId next } :=
  ⟨h.manned.set hg next, h.covered, h.simulation⟩

/-- A gateway that is not called keeps the phase. -/
theorem Phase.beside {pc : LabPc} (h : Phase lab pc) (hg : lab.gateways.get? nodeId = some g)
    (hstaged : Staged g) (hcall : isCall a = false)
    (hstep : g.step config.api a = some next) :
    Phase { lab with gateways := lab.gateways.set nodeId next } pc := by
  have hstart : a ≠ .lifecycle .start := by
    rintro rfl
    cases hcall
  have hhalted : ∀ {uncalled}, Halted lab.gateways uncalled →
      Halted (lab.gateways.set nodeId next) uncalled := fun hhalted =>
    hhalted.set fun hcalled => (hhalted nodeId g hg hcalled).step hstaged hstart hstep
  have hempty : lab.gateways.items ≠ [] := by
    intro hempty
    simp [Dict.get?, hempty] at hg
  cases pc with
  | free =>
      refine ⟨h.1, h.2.1, ?_⟩
      rcases h.2.2 with ⟨_, hclean⟩ | ⟨hstate, hcleanup | hclean⟩ | ⟨hstate, hfull⟩
      · exact absurd hclean.bare.gateways hempty
      · exact .inr (.inl ⟨hstate, .inl hcleanup⟩)
      · exact absurd hclean.bare.gateways hempty
      · exact .inr (.inr ⟨hstate, hfull.set hg next⟩)
  | processes => exact absurd h.2.1.gateways hempty
  | gateways uncalled => exact ⟨h.starting, h.manned.set hg next, h.verified⟩
  | abandoning => exact ⟨h.starting, h.manned.set hg next, h.verified⟩
  | configuring => exact ⟨h.starting, h.manned.set hg next, h.verified⟩
  | rebooting => exact ⟨h.starting, h.manned.set hg next, h.verified⟩
  | stopping attempt pending uncalled =>
      exact ⟨h.starting, h.manned.set hg next, h.covered, h.called⟩
  | restarting attempt pending uncalled =>
      exact ⟨h.starting, h.manned.set hg next, h.covered, h.called⟩
  | verifying attempt remaining unstable =>
      refine ⟨h.starting, h.manned.set hg next, h.covered, h.once, ?_⟩
      apply forall_set (P := fun other g => other ∈ remaining → Serving g) h.served
      exact fun hwatched => (h.served nodeId g hg hwatched).step hcall hstep
  | medium => exact ⟨h.1, h.2.set hg next⟩
  | warmingUp => exact ⟨h.1, h.2.set hg next⟩
  | enabling => exact ⟨h.1, h.2.set hg next⟩
  | cleaning kind cleanup =>
      cases cleanup with
      | simulation => exact h
      | gateways uncalled => exact ⟨h.1, h.2.1, hhalted h.2.2⟩
      | processes =>
          refine ⟨h.1, h.2.1, hhalted h.2.2.1, ?_⟩
          apply forall_set (P := fun _ g => g.lifecycle = .idle) h.2.2.2
          exact lifecycle_of_idle (h.2.2.2 nodeId g hg) hcall hstep

theorem filter_subset {uncalled pending : List String} (h : uncalled ⊆ pending)
    (nodeId : String) : uncalled.filter (· ≠ nodeId) ⊆ pending :=
  fun _ hmember => h (List.mem_of_mem_filter hmember)

/-- A call of `start` or `stop` on a gateway keeps the phase. -/
theorem Phase.called {pc : LabPc} (h : Phase lab pc) (hg : lab.gateways.get? nodeId = some g)
    (hpermits : permits pc nodeId a = true)
    (hcall : isCall a = true) (hstep : g.step config.api a = some next) :
    Phase { lab with gateways := lab.gateways.set nodeId next, lifecycleLock := pc.call nodeId }
      (pc.call nodeId) := by
  have hcases : a = .lifecycle .start ∧ nodeId ∈ pc.starts ∨
      a = .lifecycle .stop ∧ nodeId ∈ pc.stops := by
    unfold isCall at hcall
    split at hcall
    · exact .inl ⟨rfl, by simpa [permits] using hpermits⟩
    · exact .inr ⟨rfl, by simpa [permits] using hpermits⟩
    · cases hcall
  rcases hcases with ⟨rfl, hmember⟩ | ⟨rfl, hmember⟩
  · cases pc with
    | gateways uncalled => exact ⟨h.starting, h.manned.set hg next, h.verified⟩
    | restarting attempt pending uncalled =>
        exact ⟨h.starting, h.manned.set hg next, h.covered, filter_subset h.called nodeId⟩
    | _ => cases hmember
  · cases pc with
    | stopping attempt pending uncalled =>
        exact ⟨h.starting, h.manned.set hg next, h.covered, filter_subset h.called nodeId⟩
    | cleaning kind cleanup =>
        cases cleanup with
        | gateways uncalled =>
            refine ⟨h.1, h.2.1, fun other found hfound hcalled => ?_⟩
            rw [Dict.get?_set] at hfound
            split at hfound
            · cases hfound
              exact halting_stop hstep
            · next hother =>
                refine h.2.2 other found hfound fun hmember => hcalled ?_
                exact List.mem_filter.mpr ⟨hmember, by simpa using hother⟩
        | _ => cases hmember
    | _ => cases hmember

end Gateways

end Lab

end MeshtasticLab.Simulator

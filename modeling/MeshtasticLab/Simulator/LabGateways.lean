/-
  Simulator/LabGateways.lean --- the gateways of a lab while nobody calls them.

  A gateway whose lock is free makes only steps beside its life cycle.  It keeps its
  listeners, and it stays RUNNING without a failure or reports one.  A gateway on which
  `stop` was called stays so, and is closed when the call is over.
-/
import MeshtasticLab.Gateway.Resources
import MeshtasticLab.Simulator.Lab

set_option autoImplicit false

namespace MeshtasticLab.Simulator

open MeshtasticLab.Foundation MeshtasticLab.Gateway MeshtasticLab.Models MeshtasticLab.Runtime

namespace Lab

open NodeGateway (Staged Settled Closed Open Connected LifecycleMove)

variable {api : ClientApi} {g h : NodeGateway}

/-! ## A free lock -/

/-- With a free lock and no call, a gateway makes a step beside its life cycle. -/
theorem beside_of_idle (hidle : g.lifecycle = .idle) {a : NodeGateway.Action}
    (hcall : isCall a = false) (hstep : g.step api a = some h) :
    ∀ action, a ≠ .lifecycle action := by
  rintro action rfl
  have hpc : ∀ {pc : LifecyclePc}, g.lifecycle = pc → pc = .idle :=
    fun hpc => hpc.symm.trans hidle
  have hmove : LifecycleMove api g action h := NodeGateway.lifecycle_move hstep
  cases hmove with
  | start => cases hcall
  | stop => cases hcall
  | requested raw hat => cases hpc hat
  | returned hat =>
      rcases hat with hat | hat
      · cases hpc hat
      · cases hpc hat
  | raised hstarting => simp [NodeGateway.starting, hidle] at hstarting
  | transportsClosed reason hat => cases hpc hat
  | tasksCancelled reason hat => cases hpc hat
  | _ hat => cases hpc hat

theorem lifecycle_of_idle (hidle : g.lifecycle = .idle) {a : NodeGateway.Action}
    (hcall : isCall a = false) (hstep : g.step api a = some h) : h.lifecycle = .idle :=
  (NodeGateway.aside_step (beside_of_idle hidle hcall hstep) hstep).lifecycle.trans hidle

/-! ## Started gateways -/

/-- A gateway on which a call of `start` has returned. -/
structure Serving (g : NodeGateway) : Prop where
  idle : g.lifecycle = .idle
  server : g.server = true

theorem serving_of_hasStarted (hstarted : hasStarted g = true) : Serving g := by
  simp only [hasStarted, isIdle, Bool.and_eq_true, decide_eq_true_eq] at hstarted
  exact ⟨hstarted.1, hstarted.2⟩

theorem Serving.step (hserving : Serving g) {a : NodeGateway.Action} (hcall : isCall a = false)
    (hstep : g.step api a = some h) : Serving h where
  idle := lifecycle_of_idle hserving.idle hcall hstep
  server :=
    (NodeGateway.drifts_step (beside_of_idle hserving.idle hcall hstep) hstep).listeners.1.trans
      hserving.server

/-- A gateway that runs and has not failed. -/
structure Ready (g : NodeGateway) : Prop where
  idle : g.lifecycle = .idle
  state : g.state = .running
  failed : g.failed = false

theorem Serving.ready (hserving : Serving g) (hstaged : Staged g) (hcalm : g.failed = false) :
    Ready g := by
  simp only [Staged, hserving.idle] at hstaged
  have hopen : ¬ Closed g := by
    intro hclosed
    have hserver := hserving.server
    rw [hclosed.server] at hserver
    cases hserver
  rcases hstaged with ⟨_, hclosed⟩ | ⟨hstate, _⟩ | ⟨_, hclosed | ⟨hfailed, _⟩⟩
  · exact absurd hclosed hopen
  · exact ⟨hserving.idle, hstate, hcalm⟩
  · exact absurd hclosed hopen
  · rw [hfailed] at hcalm
    cases hcalm

/-- A gateway stays ready, or it reports a failure. -/
theorem Ready.step (hready : Ready g) {a : NodeGateway.Action} (hcall : isCall a = false)
    (hstep : g.step api a = some h) : Ready h ∨ emitsFailure a g h = true := by
  have hbeside := beside_of_idle hready.idle hcall hstep
  rcases NodeGateway.drifts_step hbeside hstep with hsame | ⟨hfailed, _⟩
  · left
    exact ⟨lifecycle_of_idle hready.idle hcall hstep,
      (congrArg (fun w => w.2.2.1) hsame).trans hready.state,
      (congrArg (fun w => w.2.2.2.1) hsame).trans hready.failed⟩
  · right
    have hstate : h.state = .failed := congrArg (fun w => w.2.2.1) hfailed
    unfold emitsFailure
    split
    · next action => exact absurd rfl (hbeside action)
    · rw [hready.state, hstate]
      rfl

/-! ## Stopped gateways -/

/-- A gateway on which `stop` was called. -/
def Halting (g : NodeGateway) : Prop := g.state = .stopped ∨ g.state = .stopping

theorem halting_stopUnlocked (g : NodeGateway) : Halting g.stopUnlocked := by
  unfold NodeGateway.stopUnlocked
  split
  · next hstate => exact .inl hstate
  · exact .inr rfl

theorem halting_stop (hstep : g.step api (.lifecycle .stop) = some h) : Halting h := by
  obtain ⟨_, rfl⟩ := NodeGateway.of_guarded hstep
  exact halting_stopUnlocked g

theorem Halting.state_ne (hhalting : Halting g) {state : GatewayState}
    (hstopped : state ≠ .stopped) (hstopping : state ≠ .stopping) : g.state ≠ state := by
  rintro rfl
  rcases hhalting with hhalting | hhalting
  · exact hstopped hhalting
  · exact hstopping hhalting

/-- As long as `start` can raise, `stop` was not called. -/
theorem Halting.not_starting (hhalting : Halting g) (hstaged : Staged g) :
    g.starting = false := by
  have halert : ¬ NodeGateway.Alert g := by
    rintro (hstate | hstate | ⟨hstate, _⟩)
    · exact hhalting.state_ne (by decide) (by decide) hstate
    · exact hhalting.state_ne (by decide) (by decide) hstate
    · exact hhalting.state_ne (by decide) (by decide) hstate
  unfold Staged at hstaged
  unfold NodeGateway.starting
  cases hpc : g.lifecycle <;> simp only [hpc] at hstaged ⊢
  all_goals first | exact absurd hstaged halert | exact absurd hstaged.1 halert

theorem Halting.lifecycle (hhalting : Halting g) (hstaged : Staged g)
    {action : NodeGateway.LifecycleAction} (hstart : action ≠ .start)
    (hmove : LifecycleMove api g action h) : Halting h := by
  have hstarts : ¬ g.starting = true := by simp [hhalting.not_starting hstaged]
  have hfailed : g.state ≠ .failed := hhalting.state_ne (by decide) (by decide)
  cases hmove with
  | start => exact absurd rfl hstart
  | requested raw hpc => exact absurd (by simp [NodeGateway.starting, hpc]) hstarts
  | returned hpc => exact hhalting
  | raised hstarting => exact absurd hstarting hstarts
  | stop => exact halting_stopUnlocked g
  | transportsClosed reason hpc =>
      cases reason with
      | failedStart =>
          simp only [Staged, hpc] at hstaged
          exact absurd hstaged hfailed
      | stop => exact hhalting
      | alreadyStopped => exact hhalting
  | tasksCancelled reason hpc =>
      cases reason with
      | failedStart =>
          simp only [Staged, hpc] at hstaged
          exact absurd hstaged.1 hfailed
      | stop => exact .inl rfl
      | alreadyStopped => exact hhalting
  | _ hpc => exact absurd (by simp [NodeGateway.starting, hpc]) hstarts

theorem Halting.step (hhalting : Halting g) (hstaged : Staged g) {a : NodeGateway.Action}
    (hstart : a ≠ .lifecycle .start) (hstep : g.step api a = some h) : Halting h := by
  rcases NodeGateway.lifecycle_or_beside a with ⟨action, rfl⟩ | hbeside
  · refine hhalting.lifecycle hstaged ?_ (NodeGateway.lifecycle_move hstep)
    rintro rfl
    exact hstart rfl
  · have hdrifts := NodeGateway.drifts_step hbeside hstep
    exact hhalting.imp (fun hstate => (hdrifts.state hstate (by decide) (by decide)).1)
      (fun hstate => (hdrifts.state hstate (by decide) (by decide)).1)

/-- When the call of `stop` is over the gateway is closed. -/
theorem Halting.closed (hhalting : Halting g) (hstaged : Staged g) (hidle : g.lifecycle = .idle) :
    Closed g := by
  simp only [Staged, hidle] at hstaged
  rcases hstaged with ⟨_, hclosed⟩ | ⟨hstate, _⟩ | ⟨hstate, _⟩
  · exact hclosed
  · exact absurd hstate (hhalting.state_ne (by decide) (by decide))
  · exact absurd hstate (hhalting.state_ne (by decide) (by decide))

end Lab

end MeshtasticLab.Simulator

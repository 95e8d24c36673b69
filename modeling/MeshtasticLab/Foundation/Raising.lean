/-
  Foundation/Raising.lean --- actions that change a state and may raise.

  WHAT THIS FILE IS FOR

  An exception leaves behind what was done before it.  `Keeps` says of an action that
  the state it leaves is related to the one it found, however it ends; a preorder is
  kept by a sequence, a handler and a loop of actions that keep it.  The remaining
  lemmas run an action past what its first part is known to do.
-/
import Mathlib.Order.Defs.Unbundled

set_option autoImplicit false

namespace MeshtasticLab.Foundation

variable {ε σ α β : Type}

/-- The state that an action leaves. -/
def stateAfter : EStateM.Result ε σ α → σ
  | .ok _ s => s
  | .error _ s => s

@[simp] theorem stateAfter_ok (a : α) (s : σ) :
    stateAfter (.ok a s : EStateM.Result ε σ α) = s := rfl

@[simp] theorem stateAfter_error (e : ε) (s : σ) :
    stateAfter (.error e s : EStateM.Result ε σ α) = s := rfl

/-! ## What the parts of an action do -/

theorem run_bind_ok {action : EStateM ε σ α} {next : α → EStateM ε σ β} {s t : σ} {a : α}
    (h : action.run s = .ok a t) : (action >>= next).run s = (next a).run t := by
  change EStateM.bind action next s = _
  unfold EStateM.bind
  rw [show action s = .ok a t from h]
  rfl

theorem run_bind_error {action : EStateM ε σ α} {next : α → EStateM ε σ β} {s t : σ} {e : ε}
    (h : action.run s = .error e t) : (action >>= next).run s = .error e t := by
  change EStateM.bind action next s = _
  unfold EStateM.bind
  rw [show action s = .error e t from h]

theorem run_tryCatch_ok {action : EStateM ε σ α} {handler : ε → EStateM ε σ α} {s t : σ} {a : α}
    (h : action.run s = .ok a t) : (tryCatch action handler).run s = .ok a t := by
  change EStateM.tryCatch action handler s = _
  unfold EStateM.tryCatch
  rw [show action s = .ok a t from h]

theorem run_tryCatch_error {action : EStateM ε σ α} {handler : ε → EStateM ε σ α} {s t : σ}
    {e : ε} (h : action.run s = .error e t) :
    (tryCatch action handler).run s = (handler e).run t := by
  change EStateM.tryCatch action handler s = _
  unfold EStateM.tryCatch
  rw [show action s = .error e t from h]
  rfl

/-! ## Relations that actions keep -/

/-- However the action ends, the state it leaves is related to the one it found. -/
def Keeps (R : σ → σ → Prop) (action : EStateM ε σ α) : Prop :=
  ∀ s, R s (stateAfter (action.run s))

variable {R : σ → σ → Prop} [IsPreorder σ R]

theorem keeps_pure (a : α) : Keeps R (pure a : EStateM ε σ α) := fun s => refl_of R s

theorem keeps_throw (e : ε) : Keeps R (throw e : EStateM ε σ α) := fun s => refl_of R s

theorem Keeps.bind {action : EStateM ε σ α} {next : α → EStateM ε σ β} (h : Keeps R action)
    (hnext : ∀ a, Keeps R (next a)) : Keeps R (action >>= next) := by
  intro s
  have hfirst := h s
  cases hrun : action.run s with
  | ok a t =>
      rw [hrun] at hfirst
      rw [run_bind_ok hrun]
      exact trans_of R hfirst (hnext a t)
  | error e t =>
      rw [hrun] at hfirst
      rw [run_bind_error hrun]
      exact hfirst

theorem Keeps.tryCatch {action : EStateM ε σ α} {handler : ε → EStateM ε σ α}
    (h : Keeps R action) (hhandler : ∀ e, Keeps R (handler e)) :
    Keeps R (tryCatch action handler) := by
  intro s
  have hfirst := h s
  cases hrun : action.run s with
  | ok a t =>
      rw [hrun] at hfirst
      rw [run_tryCatch_ok hrun]
      exact hfirst
  | error e t =>
      rw [hrun] at hfirst
      rw [run_tryCatch_error hrun]
      exact trans_of R hfirst (hhandler e t)

theorem Keeps.forM {action : α → EStateM ε σ PUnit} {items : List α}
    (h : ∀ item ∈ items, Keeps R (action item)) : Keeps R (items.forM action) := by
  induction items with
  | nil => exact keeps_pure PUnit.unit
  | cons item rest ih =>
      exact (h item List.mem_cons_self).bind fun _ =>
        ih fun other hother => h other (List.mem_cons_of_mem _ hother)

end MeshtasticLab.Foundation

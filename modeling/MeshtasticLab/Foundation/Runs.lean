/-
  Foundation/Runs.lean --- runs of a state machine and what they preserve.

  WHAT THIS FILE IS FOR

  A state machine is a partial step function: in a state, an action is enabled
  when the step is defined.  A `Run` is a finite sequence of enabled steps, each
  of which meets a condition on the state and the action; with the condition that
  always holds these are all the runs.  A property of every state of every run is
  proved once, by `Run.invariant`, from what one step preserves.
-/
import Mathlib.Logic.Basic

set_option autoImplicit false

namespace MeshtasticLab.Foundation

variable {σ α : Type}

/-- A run from one state to another whose steps all meet a condition. -/
inductive Run (step : σ → α → Option σ) (meets : σ → α → Prop) : σ → σ → Prop where
  | refl (s : σ) : Run step meets s s
  | snoc {s t u : σ} {a : α} : Run step meets s t → meets t a → step t a = some u →
      Run step meets s u

/-- The condition that every step meets. -/
def Always (_ : σ) (_ : α) : Prop := True

variable {step : σ → α → Option σ} {meets : σ → α → Prop}

/-- What holds at the start and is preserved by every step that meets the
condition holds at the end of every run. -/
theorem Run.invariant {I : σ → Prop} {s t : σ} (hrun : Run step meets s t)
    (hpreserved : ∀ u a v, I u → meets u a → step u a = some v → I v)
    (hstart : I s) : I t := by
  induction hrun with
  | refl => exact hstart
  | snoc _ hmeets hstep ih => exact hpreserved _ _ _ ih hmeets hstep

/-- A run under a condition is a run under any condition it implies. -/
theorem Run.mono {weaker : σ → α → Prop} {s t : σ} (hrun : Run step meets s t)
    (himplies : ∀ u a, meets u a → weaker u a) : Run step weaker s t := by
  induction hrun with
  | refl => exact .refl _
  | snoc _ hmeets hstep ih => exact .snoc ih (himplies _ _ hmeets) hstep

theorem Run.trans {s t u : σ} (hfirst : Run step meets s t) (hsecond : Run step meets t u) :
    Run step meets s u := by
  induction hsecond with
  | refl => exact hfirst
  | snoc _ hmeets hstep ih => exact .snoc ih hmeets hstep

/-! ## Histories -/

/-- The machine that also keeps a history of its steps. -/
def recorded {η : Type} (step : σ → α → Option σ) (record : η → σ → α → σ → η) (s : σ × η)
    (a : α) : Option (σ × η) :=
  (step s.1 a).map fun t => (t, record s.2 s.1 a t)

/-- A recorded step is a step with its record. -/
theorem recorded_eq_some {η : Type} {record : η → σ → α → σ → η} {s t : σ × η} {a : α} :
    recorded step record s a = some t ↔
      step s.1 a = some t.1 ∧ t.2 = record s.2 s.1 a t.1 := by
  unfold recorded
  rw [Option.map_eq_some_iff]
  constructor
  · rintro ⟨u, hstep, rfl⟩
    exact ⟨hstep, rfl⟩
  · rintro ⟨hstep, hrecord⟩
    exact ⟨t.1, hstep, by rw [← hrecord]⟩

/-! ## Execution -/

/-- The state after a sequence of actions, when each is enabled in its turn. -/
def exec (step : σ → α → Option σ) : List α → σ → Option σ
  | [], s => some s
  | a :: rest, s => (step s a).bind (exec step rest)

/-- Every step of executing a sequence of actions meets a condition. -/
def Conforms (step : σ → α → Option σ) (meets : σ → α → Prop) : List α → σ → Prop
  | [], _ => True
  | a :: rest, s => meets s a ∧ ∀ t, step s a = some t → Conforms step meets rest t

/-- Whether every step meets the condition can be found by executing. -/
instance Conforms.decide (step : σ → α → Option σ) (meets : σ → α → Prop)
    [∀ s a, Decidable (meets s a)] : ∀ (actions : List α) (s : σ),
      Decidable (Conforms step meets actions s)
  | [], _ => instDecidableTrue
  | a :: rest, s =>
      have : Decidable (∀ t, step s a = some t → Conforms step meets rest t) :=
        match step s a with
        | none => .isTrue nofun
        | some t =>
            have := Conforms.decide step meets rest t
            decidable_of_iff (Conforms step meets rest t) (by simp)
      inferInstanceAs (Decidable (_ ∧ _))

/-- An execution whose steps meet the condition is a run. -/
theorem Run.of_exec {actions : List α} {s t : σ} (hexec : exec step actions s = some t)
    (hconforms : Conforms step meets actions s) : Run step meets s t := by
  suffices hextend : ∀ r, Run step meets r s → Run step meets r t from hextend s (.refl s)
  induction actions generalizing s with
  | nil =>
      intro r hrun
      cases hexec
      exact hrun
  | cons a rest ih =>
      intro r hrun
      obtain ⟨u, hstep, hrest⟩ := Option.bind_eq_some_iff.mp hexec
      exact ih hrest (hconforms.2 u hstep) r (.snoc hrun hconforms.1 hstep)

theorem conforms_always (actions : List α) (s : σ) : Conforms step Always actions s := by
  induction actions generalizing s with
  | nil => trivial
  | cons a rest ih => exact ⟨trivial, fun t _ => ih t⟩

end MeshtasticLab.Foundation

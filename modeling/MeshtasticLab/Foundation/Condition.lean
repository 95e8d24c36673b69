/-
  Foundation/Condition.lean --- the waiters of a condition variable.

  WHAT THIS FILE IS FOR

  A condition variable of an event loop keeps a future for every task that waits, in
  the order in which they came.  Notifying sets the first of them that are not done,
  cancelling a wait sets its own, and a task runs again, and leaves the list, once its
  future is done.  The lock of the variable is free whenever a task is suspended, so
  it does not show.
-/
import Mathlib.Data.List.Basic

set_option autoImplicit false

namespace MeshtasticLab.Foundation

/-- The waiters by name, each with whether its future is done. -/
abbrev Waiters (κ : Type) := List (κ × Bool)

namespace Waiters

variable {κ : Type}

/-- `Condition.notify(n)`. -/
def notify : Nat → Waiters κ → Waiters κ
  | 0, waiters => waiters
  | _ + 1, [] => []
  | n + 1, (name, true) :: rest => (name, true) :: notify (n + 1) rest
  | n + 1, (name, false) :: rest => (name, true) :: notify n rest

/-- `Condition.notify_all()`. -/
def notifyAll (waiters : Waiters κ) : Waiters κ := notify waiters.length waiters

/-- A task begins to wait. -/
def enter (waiters : Waiters κ) (name : κ) : Waiters κ := waiters ++ [(name, false)]

variable [DecidableEq κ]

/-- The wait of a task is cancelled. -/
def cancel (waiters : Waiters κ) (name : κ) : Waiters κ :=
  waiters.map fun waiter => if waiter.1 = name then (name, true) else waiter

/-- A task is no longer waiting. -/
def leave (waiters : Waiters κ) (name : κ) : Waiters κ :=
  waiters.filter fun waiter => waiter.1 ≠ name

omit [DecidableEq κ]

/-- Notifying as many as there are sets them all. -/
theorem notifyAll_eq (waiters : Waiters κ) :
    waiters.notifyAll = waiters.map fun waiter => (waiter.1, true) := by
  suffices hmany : ∀ n (waiters : Waiters κ), waiters.length ≤ n →
      notify n waiters = waiters.map fun waiter => (waiter.1, true) from
    hmany _ _ (Nat.le_refl _)
  intro n waiters
  induction waiters generalizing n with
  | nil => cases n <;> exact fun _ => rfl
  | cons waiter rest ih =>
      intro hlength
      obtain ⟨name, done⟩ := waiter
      cases n with
      | zero => cases hlength
      | succ n =>
          rw [List.length_cons, Nat.succ_le_succ_iff] at hlength
          cases done with
          | true =>
              unfold notify
              rw [ih (n + 1) (Nat.le_succ_of_le hlength)]
              rfl
          | false =>
              unfold notify
              rw [ih n hlength]
              rfl

/-- Notifying keeps who waits, and keeps done what was done. -/
theorem mem_notify {n : Nat} {waiters : Waiters κ} {name : κ} {done : Bool}
    (h : (name, done) ∈ waiters) :
    (name, done) ∈ notify n waiters ∨ (name, true) ∈ notify n waiters := by
  induction waiters generalizing n with
  | nil => cases h
  | cons waiter rest ih =>
      obtain ⟨first, set⟩ := waiter
      cases n with
      | zero => exact Or.inl h
      | succ n =>
          cases set with
          | true =>
              unfold notify
              rcases List.mem_cons.mp h with heq | hrest
              · exact Or.inl (heq ▸ List.mem_cons_self)
              · exact (ih hrest).imp (List.mem_cons_of_mem _) (List.mem_cons_of_mem _)
          | false =>
              unfold notify
              rcases List.mem_cons.mp h with heq | hrest
              · obtain ⟨rfl, rfl⟩ := Prod.mk.inj heq
                exact Or.inr List.mem_cons_self
              · exact (ih hrest).imp (List.mem_cons_of_mem _) (List.mem_cons_of_mem _)

theorem mem_notifyAll {waiters : Waiters κ} {name : κ} {done : Bool}
    (h : (name, done) ∈ waiters) : (name, true) ∈ waiters.notifyAll := by
  rw [notifyAll_eq]
  exact List.mem_map.mpr ⟨(name, done), h, rfl⟩

/-- Cancelling a wait sets its future and no other. -/
theorem mem_cancel [DecidableEq κ] {waiters : Waiters κ} (name : κ) {other : κ} {done : Bool}
    (h : (other, done) ∈ waiters) :
    (other, if other = name then true else done) ∈ waiters.cancel name := by
  refine List.mem_map.mpr ⟨(other, done), h, ?_⟩
  dsimp only
  split
  · next heq => rw [heq]
  · rfl

end Waiters

end MeshtasticLab.Foundation

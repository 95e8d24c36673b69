/-
  Foundation/BoundedDeque.lean --- a queue that forgets its oldest entries.

  `collections.deque(maxlen=n)`: appending to a full deque drops the entry at
  the other end.  The one fact every user of such a deque needs is that it holds
  the last `n` of the values ever appended (`Holds`), which `List.rtake` states.
-/
import Mathlib.Data.List.DropRight

set_option autoImplicit false

namespace MeshtasticLab.Foundation

/-- A deque with a maximal length; the proof field says that it is respected. -/
structure BoundedDeque (α : Type) where
  maxlen : Nat
  items : List α
  bounded : items.length ≤ maxlen

namespace BoundedDeque

variable {α : Type}

/-- The empty deque of maximal length `maxlen`. -/
def empty (maxlen : Nat) : BoundedDeque α := ⟨maxlen, [], Nat.zero_le _⟩

/-- Append on the right, dropping from the left what no longer fits. -/
def append (d : BoundedDeque α) (x : α) : BoundedDeque α where
  maxlen := d.maxlen
  items := (d.items ++ [x]).rtake d.maxlen
  bounded := by
    simp only [List.rtake, List.length_drop]
    omega

/-- The same deque without entries. -/
def clear (d : BoundedDeque α) : BoundedDeque α := empty d.maxlen

@[simp] theorem maxlen_empty (n : Nat) : (empty n : BoundedDeque α).maxlen = n := rfl
@[simp] theorem items_empty (n : Nat) : (empty n : BoundedDeque α).items = [] := rfl
@[simp] theorem maxlen_append (d : BoundedDeque α) (x : α) :
    (d.append x).maxlen = d.maxlen := rfl
@[simp] theorem items_append (d : BoundedDeque α) (x : α) :
    (d.append x).items = (d.items ++ [x]).rtake d.maxlen := rfl
@[simp] theorem maxlen_clear (d : BoundedDeque α) : d.clear.maxlen = d.maxlen := rfl
@[simp] theorem items_clear (d : BoundedDeque α) : d.clear.items = [] := rfl

/-- The deque holds the last `maxlen` of the values in `log`. -/
def Holds (d : BoundedDeque α) (log : List α) : Prop := d.items = log.rtake d.maxlen

theorem holds_of_items_nil {d : BoundedDeque α} (h : d.items = []) : d.Holds [] := by
  rw [Holds, h, List.rtake_nil]

theorem holds_empty (n : Nat) : (empty n : BoundedDeque α).Holds [] :=
  holds_of_items_nil rfl

theorem holds_clear (d : BoundedDeque α) : d.clear.Holds [] :=
  holds_of_items_nil rfl

/-- Keeping the last `n` values and appending is appending and keeping the last
`n` values. -/
theorem rtake_append_singleton (n : Nat) (log : List α) (x : α) :
    (log.rtake n ++ [x]).rtake n = (log ++ [x]).rtake n := by
  simp only [List.rtake, List.length_append, List.length_drop, List.length_singleton]
  by_cases hfull : log.length ≤ n
  · rw [Nat.sub_eq_zero_of_le hfull]
    simp
  · rw [show log.length - (log.length - n) + 1 - n = 1 by omega,
      show log.length + 1 - n = log.length - n + 1 by omega]
    have hdrop : log.length - n ≤ log.length := Nat.sub_le _ _
    rw [← List.drop_append_of_le_length hdrop, List.drop_drop]

theorem Holds.append {d : BoundedDeque α} {log : List α} (h : d.Holds log) (x : α) :
    (d.append x).Holds (log ++ [x]) := by
  unfold Holds at h ⊢
  rw [items_append, maxlen_append, h, rtake_append_singleton]

/-- Nothing has been forgotten as long as the log is short. -/
theorem Holds.items_eq {d : BoundedDeque α} {log : List α} (h : d.Holds log)
    (hshort : log.length ≤ d.maxlen) : d.items = log := by
  rw [h, List.rtake, Nat.sub_eq_zero_of_le hshort, List.drop_zero]

end BoundedDeque

end MeshtasticLab.Foundation

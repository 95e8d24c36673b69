/-
  Foundation/Counting.lean --- totals over a list that changes in one place.

  WHAT THIS FILE IS FOR

  A running count over a list of records is right when it moves with the one
  record that changes.  The equations here are additive, so that a decrease needs
  no side condition.
-/
import Mathlib.Algebra.BigOperators.Group.List.Basic
import Mathlib.Algebra.GroupWithZero.Nat
import Mathlib.Data.List.Nodup

set_option autoImplicit false

namespace MeshtasticLab.Foundation

variable {α : Type}

/-- A total moves with the record that changes. -/
theorem sum_modify {l : List α} {i : Nat} {a : α} (hget : l[i]? = some a) (weight : α → Nat)
    (f : α → α) :
    ((l.modify i f).map weight).sum + weight a = (l.map weight).sum + weight (f a) := by
  induction l generalizing i with
  | nil => simp at hget
  | cons first rest ih =>
      cases i with
      | zero =>
          simp only [List.getElem?_cons_zero, Option.some.injEq] at hget
          subst hget
          simp only [List.modify_zero_cons, List.map_cons, List.sum_cons]
          omega
      | succ i =>
          simp only [List.getElem?_cons_succ] at hget
          simp only [List.modify_succ_cons, List.map_cons, List.sum_cons]
          have hrest := ih hget
          omega

/-- A count moves with the record that changes. -/
theorem countP_modify {l : List α} {i : Nat} {a : α} (hget : l[i]? = some a) (p : α → Bool)
    (f : α → α) :
    (l.modify i f).countP p + (p a).toNat = l.countP p + (p (f a)).toNat := by
  have hcount : ∀ l : List α, l.countP p = (l.map fun x => (p x).toNat).sum := by
    intro l
    induction l with
    | nil => rfl
    | cons first rest ih =>
        rw [List.countP_cons, List.map_cons, List.sum_cons, ih]
        cases p first with
        | true => simp [Nat.add_comm]
        | false => simp
  rw [hcount, hcount]
  exact sum_modify hget (fun x => (p x).toNat) f

/-- A change that a predicate does not see leaves its count. -/
theorem countP_modify_of_eq (l : List α) (i : Nat) (p : α → Bool) (f : α → α)
    (hsame : ∀ a, p (f a) = p a) : (l.modify i f).countP p = l.countP p := by
  cases hget : l[i]? with
  | none => rw [List.modify_eq_self (List.getElem?_eq_none_iff.mp hget)]
  | some a =>
      have hcount := countP_modify hget p f
      rw [hsame] at hcount
      omega

/-- A record of the changed list is an old one or the changed one. -/
theorem getElem?_modify_cases {l : List α} {i j : Nat} {f : α → α} {b : α}
    (hget : (l.modify i f)[j]? = some b) :
    (j ≠ i ∧ l[j]? = some b) ∨ (j = i ∧ ∃ a, l[i]? = some a ∧ b = f a) := by
  rw [List.getElem?_modify] at hget
  obtain ⟨a, ha, hb⟩ := Option.map_eq_some_iff.mp hget
  by_cases hij : i = j
  · subst hij
    rw [if_pos rfl] at hb
    exact Or.inr ⟨rfl, a, ha, hb.symm⟩
  · rw [if_neg hij] at hb
    subst hb
    exact Or.inl ⟨Ne.symm hij, ha⟩

theorem mem_modify_cases {l : List α} {i : Nat} {f : α → α} {b : α}
    (hmember : b ∈ l.modify i f) : b ∈ l ∨ ∃ a, l[i]? = some a ∧ b = f a := by
  obtain ⟨j, hj⟩ := List.mem_iff_getElem?.mp hmember
  rcases getElem?_modify_cases hj with ⟨_, hold⟩ | ⟨_, hnew⟩
  · exact Or.inl (List.mem_of_getElem? hold)
  · exact Or.inr hnew

/-- A record of a list with one place overwritten is the new one or stands elsewhere. -/
theorem getElem?_set_cases {l : List α} {i j : Nat} {a b : α}
    (hget : (l.set i a)[j]? = some b) : (j = i ∧ b = a) ∨ j ≠ i ∧ l[j]? = some b := by
  by_cases hij : i = j
  · subst hij
    rw [List.getElem?_set_self'] at hget
    obtain ⟨_, _, rfl⟩ := Option.map_eq_some_iff.mp hget
    exact Or.inl ⟨rfl, rfl⟩
  · rw [List.getElem?_set_ne hij] at hget
    exact Or.inr ⟨Ne.symm hij, hget⟩

/-- A total is at most the number of records times a bound of each. -/
theorem sum_map_le_length_mul {l : List α} {weight : α → Nat} {bound : Nat}
    (hbound : ∀ a ∈ l, weight a ≤ bound) : (l.map weight).sum ≤ l.length * bound := by
  induction l with
  | nil => simp
  | cons first rest ih =>
      have hfirst := hbound first List.mem_cons_self
      have hrest := ih fun a ha => hbound a (List.mem_cons_of_mem _ ha)
      simp only [List.map_cons, List.sum_cons, List.length_cons, Nat.succ_mul]
      omega

/-- Only one element of a list without duplicates contributes. -/
theorem flatMap_eq_of_only {β : Type} {l : List α} (hnodup : l.Nodup) {a : α}
    (hmember : a ∈ l) {f : α → List β} (honly : ∀ b ∈ l, b ≠ a → f b = []) :
    l.flatMap f = f a := by
  induction l with
  | nil => cases hmember
  | cons first rest ih =>
      obtain ⟨hfirst, hrest⟩ := List.nodup_cons.mp hnodup
      rw [List.flatMap_cons]
      rcases List.mem_cons.mp hmember with rfl | hmember
      · have hnone : rest.flatMap f = [] := by
          rw [List.flatMap_eq_nil_iff]
          intro b hb
          refine honly b (List.mem_cons_of_mem _ hb) ?_
          rintro rfl
          exact hfirst hb
        rw [hnone, List.append_nil]
      · have hne : first ≠ a := by
          rintro rfl
          exact hfirst hmember
        rw [honly first List.mem_cons_self hne, List.nil_append]
        exact ih hrest hmember fun b hb => honly b (List.mem_cons_of_mem _ hb)

/-- Among records with distinct keys only one has the key of a given one. -/
theorem filter_key_eq_singleton {β : Type} [DecidableEq β] {l : List α} {key : α → β}
    (hnodup : (l.map key).Nodup) {a : α} (hmember : a ∈ l) :
    (l.filter fun b => key b = key a) = [a] := by
  induction l with
  | nil => cases hmember
  | cons first rest ih =>
      rw [List.map_cons, List.nodup_cons] at hnodup
      rcases List.mem_cons.mp hmember with rfl | hmember
      · rw [List.filter_cons_of_pos (by simp), List.filter_eq_nil_iff.mpr]
        intro b hb
        rw [decide_eq_true_eq]
        intro hsame
        exact hnodup.1 (hsame ▸ List.mem_map_of_mem hb)
      · rw [List.filter_cons_of_neg]
        · exact ih hnodup.2 hmember
        · rw [decide_eq_true_eq]
          intro hsame
          exact hnodup.1 (hsame ▸ List.mem_map_of_mem hmember)

/-- Records counted by key: over distinct keys that cover the records, the counts of each key
add up to the count of all. -/
theorem sum_countP_filter_key {β : Type} [DecidableEq β] {keys : List β} (hnodup : keys.Nodup)
    {key : α → β} {l : List α} (hcovered : ∀ a ∈ l, key a ∈ keys) (p : α → Bool) :
    (keys.map fun k => (l.filter fun a => key a = k).countP p).sum = l.countP p := by
  induction keys generalizing l with
  | nil =>
      cases l with
      | nil => rfl
      | cons first rest => exact absurd (hcovered first List.mem_cons_self) List.not_mem_nil
  | cons k rest ih =>
      obtain ⟨hnew, hrest⟩ := List.nodup_cons.mp hnodup
      have hothers : ∀ a ∈ l.filter fun a => !decide (key a = k), key a ∈ rest := by
        intro a ha
        obtain ⟨hmember, hne⟩ := List.mem_filter.mp ha
        exact (List.mem_cons.mp (hcovered a hmember)).resolve_left (by simpa using hne)
      have hsame : ∀ other ∈ rest, (l.filter fun a => key a = other) =
          (l.filter fun a => !decide (key a = k)).filter fun a => key a = other := by
        intro other hother
        rw [List.filter_filter]
        refine List.filter_congr fun a _ => ?_
        have hne : other ≠ k := fun heq => hnew (heq ▸ hother)
        by_cases heq : key a = other <;> simp [heq, hne]
      rw [List.map_cons, List.sum_cons, List.map_congr_left fun other hother => by
        rw [hsame other hother], ih hrest hothers]
      exact (List.countP_eq_countP_filter_add l p fun a => key a = k).symm

/-- Moving one element from one list to the end of another leaves what both hold. -/
theorem perm_move {l : List α} {i : Nat} {a : α} (hget : l[i]? = some a) (moved : List α) :
    (moved ++ [a] ++ l.eraseIdx i).Perm (moved ++ l) := by
  obtain ⟨hlt, rfl⟩ := List.getElem?_eq_some_iff.mp hget
  rw [List.append_assoc]
  exact (List.getElem_cons_eraseIdx_perm hlt).append_left moved

end MeshtasticLab.Foundation

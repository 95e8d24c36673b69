/-
  Foundation/FirstFree.lean --- counting up to the first name that is not in use.

  WHAT THIS FILE IS FOR

  `while used.has(name(n)) n += 1` ends, since distinct numbers have distinct names
  and finitely many are in use.  What it passes is in use, so it passes at most as
  many numbers as there are names, however the names were chosen.
-/
import Mathlib.Data.List.Nodup
import Mathlib.Data.List.Perm.Subperm
import Mathlib.Logic.Embedding.Basic

set_option autoImplicit false

namespace MeshtasticLab.Foundation

variable {β : Type} (name : ℕ ↪ β)

/-- From some number on no name is in use. -/
theorem exists_unused_from (used : List β) : ∃ bound, ∀ n, name n ∈ used → n < bound := by
  induction used with
  | nil => exact ⟨0, fun n hn => absurd hn List.not_mem_nil⟩
  | cons b rest ih =>
      obtain ⟨bound, hbound⟩ := ih
      by_cases hnamed : ∃ k, name k = b
      · obtain ⟨k, rfl⟩ := hnamed
        refine ⟨max bound (k + 1), fun n hn => ?_⟩
        rcases List.mem_cons.mp hn with heq | hrest
        · have : n = k := name.injective heq
          omega
        · have := hbound n hrest
          omega
      · refine ⟨bound, fun n hn => ?_⟩
        rcases List.mem_cons.mp hn with heq | hrest
        · exact absurd ⟨n, heq⟩ hnamed
        · exact hbound n hrest

/-- The first number, from `n` on, whose name is not in use. -/
def firstFree [DecidableEq β] (used : List β) (n : ℕ) : ℕ :=
  if name n ∈ used then firstFree used (n + 1) else n
termination_by (exists_unused_from name used).choose - n
decreasing_by
  rename_i hused
  have := (exists_unused_from name used).choose_spec n hused
  omega

section Taken

variable {name} {used : List β}

/-- The names of an interval of numbers are all in use. -/
def Taken (name : ℕ ↪ β) (used : List β) (first last : ℕ) : Prop :=
  ∀ n, first ≤ n → n < last → name n ∈ used

theorem Taken.mono {used' : List β} {first last : ℕ} (h : Taken name used first last)
    (hsub : used ⊆ used') : Taken name used' first last :=
  fun n hfirst hlast => hsub (h n hfirst hlast)

/-- An interval of names in use is no longer than the list of all of them. -/
theorem Taken.le {first last : ℕ} (h : Taken name used first last) :
    last ≤ first + used.length := by
  have hnames : ((List.range' first (last - first)).map name).Nodup :=
    List.Nodup.map name.injective List.nodup_range'
  have hsub : (List.range' first (last - first)).map name ⊆ used := by
    intro b hb
    obtain ⟨n, hn, rfl⟩ := List.mem_map.mp hb
    obtain ⟨hfirst, hlast⟩ := List.mem_range'_1.mp hn
    exact h n hfirst (by omega)
  have hlength := (List.subperm_of_subset hnames hsub).length_le
  rw [List.length_map, List.length_range'] at hlength
  omega

end Taken

variable [DecidableEq β] (used : List β)

theorem firstFree_not_mem (n : ℕ) : name (firstFree name used n) ∉ used := by
  fun_induction firstFree name used n with
  | case1 n _ ih => exact ih
  | case2 n hfree => exact hfree

theorem le_firstFree (n : ℕ) : n ≤ firstFree name used n := by
  fun_induction firstFree name used n with
  | case1 n _ ih => exact Nat.le_of_succ_le ih
  | case2 n _ => exact Nat.le_refl n

/-- The search passes only names in use. -/
theorem Taken.firstFree {name : ℕ ↪ β} {used : List β} {first n : ℕ} (h : Taken name used first n) :
    Taken name used first (firstFree name used n) := by
  fun_induction Foundation.firstFree name used n with
  | case1 n hused ih =>
      refine ih fun m hfirst hlast => ?_
      rcases Nat.lt_succ_iff_lt_or_eq.mp hlast with hlt | rfl
      · exact h m hfirst hlt
      · exact hused
  | case2 n _ => exact h

end MeshtasticLab.Foundation

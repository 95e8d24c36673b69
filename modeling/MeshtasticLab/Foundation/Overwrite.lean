/-
  Foundation/Overwrite.lean --- lists whose entries are overwritten by key.

  WHAT THIS FILE IS FOR

  Two lists with the same distinct keys differ in some entries.  Writing the differing
  entries of the second into the first, one after the other, gives the second, and each
  of these writes changes the list.
-/
import Mathlib.Data.List.Nodup

set_option autoImplicit false

namespace MeshtasticLab.Foundation

variable {α κ : Type} [DecidableEq κ] (key : α → κ)

/-- The entry with the key of `x` becomes `x`. -/
def overwrite (l : List α) (x : α) : List α := l.map fun y => if key y = key x then x else y

/-- The entries are written one after the other. -/
def overwriteAll (l xs : List α) : List α := xs.foldl (overwrite key) l

/-- Each write brings in an entry that is not there yet. -/
def Overwrites : List α → List α → Prop
  | _, [] => True
  | l, x :: rest => x ∉ l ∧ Overwrites (overwrite key l x) rest

variable {key}

theorem overwrites_append {l xs ys : List α} : Overwrites key l (xs ++ ys) ↔
    Overwrites key l xs ∧ Overwrites key (overwriteAll key l xs) ys := by
  induction xs generalizing l with
  | nil => exact (and_iff_right trivial).symm
  | cons x rest ih =>
      rw [List.cons_append, Overwrites, Overwrites, ih, and_assoc]
      rfl

/-- A key that is not there is not written. -/
theorem overwrite_of_absent {l : List α} {x : α} (h : key x ∉ l.map key) :
    overwrite key l x = l := by
  unfold overwrite
  rw [List.map_congr_left (g := id), List.map_id]
  intro y hy
  rw [if_neg]
  · rfl
  · intro hsame
    exact h (hsame ▸ List.mem_map_of_mem hy)

/-- The only entry with the key is overwritten. -/
theorem overwrite_middle {before after : List α} {x y : α} (hkey : key x = key y)
    (hbefore : key x ∉ before.map key) (hafter : key x ∉ after.map key) :
    overwrite key (before ++ y :: after) x = before ++ x :: after := by
  have hparts : overwrite key (before ++ y :: after) x =
      overwrite key before x ++ (if key y = key x then x else y) :: overwrite key after x := by
    unfold overwrite
    rw [List.map_append, List.map_cons]
  rw [hparts, overwrite_of_absent hbefore, overwrite_of_absent hafter, if_pos hkey.symm]

/-- Behind the entries that are done, the differing ones are written. -/
theorem overwriteAll_behind [DecidableEq α] {p : α → Bool} (old : List α) :
    ∀ (done new : List α), old.map key = new.map key → ((done ++ old).map key).Nodup →
      (∀ x ∈ new, p x = true ↔ x ∉ old) →
        overwriteAll key (done ++ old) (new.filter p) = done ++ new ∧
          Overwrites key (done ++ old) (new.filter p) := by
  induction old with
  | nil =>
      intro done new hkeys _ _
      rw [List.map_eq_nil_iff.mp hkeys.symm]
      exact ⟨rfl, trivial⟩
  | cons y old ih =>
      intro done new hkeys hdistinct hp
      cases new with
      | nil => cases hkeys
      | cons x new =>
          obtain ⟨hkey, hrest⟩ := List.cons.inj hkeys
          rw [List.map_append, List.map_cons] at hdistinct
          obtain ⟨_, htail, hapart⟩ := List.nodup_append.mp hdistinct
          have hlast : key x ∉ old.map key := hkey ▸ (List.nodup_cons.mp htail).1
          have hdone : key x ∉ done.map key := fun hmember =>
            hapart _ hmember _ List.mem_cons_self hkey.symm
          have hnext := ih (done ++ [x]) new hrest (by simpa [hkey] using hdistinct) ?_
          · rw [List.append_assoc, List.append_assoc, List.singleton_append,
              List.singleton_append] at hnext
            by_cases hsame : x = y
            · have hskip : ¬p x = true := fun h => (hp x List.mem_cons_self).mp h
                (hsame ▸ List.mem_cons_self)
              rw [List.filter_cons_of_neg hskip, ← hsame]
              exact hnext
            · have habsent : x ∉ y :: old := by
                rw [List.mem_cons, not_or]
                exact ⟨hsame, fun hmember => hlast (List.mem_map_of_mem hmember)⟩
              rw [List.filter_cons_of_pos ((hp x List.mem_cons_self).mpr habsent)]
              have hwrite := overwrite_middle hkey.symm hdone hlast
              refine ⟨?_, ?_, ?_⟩
              · rw [overwriteAll, List.foldl_cons, hwrite]
                exact hnext.1
              · rw [List.mem_append, not_or]
                exact ⟨fun hmember => hdone (List.mem_map_of_mem hmember), habsent⟩
              · rw [hwrite]
                exact hnext.2
          · intro z hz
            rw [hp z (List.mem_cons_of_mem _ hz), List.mem_cons, not_or, and_iff_right]
            rintro rfl
            have hmember : key z ∈ old.map key := by
              rw [hrest]
              exact List.mem_map_of_mem hz
            exact hlast (hkey ▸ hmember)

/-- The entries that differ, written into the one list, give the other. -/
theorem overwriteAll_differing [DecidableEq α] {old new : List α} {p : α → Bool}
    (hkeys : old.map key = new.map key) (hdistinct : (old.map key).Nodup)
    (hp : ∀ x ∈ new, p x = true ↔ x ∉ old) :
    overwriteAll key old (new.filter p) = new ∧ Overwrites key old (new.filter p) :=
  overwriteAll_behind old [] new hkeys hdistinct hp

end MeshtasticLab.Foundation

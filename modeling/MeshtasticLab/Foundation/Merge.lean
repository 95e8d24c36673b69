/-
  Foundation/Merge.lean --- merging cursors by always taking the least.

  WHAT THIS FILE IS FOR

  Each of several sources has a number of ticks, and each tick has a rank that
  grows with the tick.  A program keeps the next tick of every source that has
  ticks left, and always takes the one of least rank.  Nothing is lost and nothing
  is taken twice, the ranks of what is taken increase, and what has been taken is
  the beginning of the sorted list of all ticks.
-/
import MeshtasticLab.Foundation.Dict
import Mathlib.Algebra.BigOperators.Group.Finset.Basic
import Mathlib.Algebra.GroupWithZero.Nat
import Mathlib.Data.List.MinMax
import Mathlib.Data.Finset.Sort
import Mathlib.Order.Monotone.Defs

set_option autoImplicit false

namespace MeshtasticLab.Foundation

/-! ## Sorted lists -/

/-- A strictly sorted list whose elements are all those of another one up to some point is
the beginning of it. -/
theorem prefix_of_sorted {α : Type} {r : α → α → Prop} [IsTrans α r] [Std.Irrefl r]
    {l whole : List α} (hl : l.Pairwise r) (hwhole : whole.Pairwise r)
    (hsubset : ∀ a ∈ l, a ∈ whole) (hclosed : ∀ a ∈ l, ∀ b ∈ whole, r b a → b ∈ l) :
    l <+: whole := by
  induction l generalizing whole with
  | nil => exact List.nil_prefix
  | cons first rest ih =>
      cases whole with
      | nil => cases hsubset first List.mem_cons_self
      | cons head tail =>
          rw [List.pairwise_cons] at hl hwhole
          have hhead : head = first := by
            rcases List.mem_cons.mp (hsubset first List.mem_cons_self) with heq | htail
            · exact heq.symm
            · have hbelow := hwhole.1 first htail
              rcases List.mem_cons.mp (hclosed first List.mem_cons_self head
                List.mem_cons_self hbelow) with heq | hrest
              · exact heq
              · exact absurd (IsTrans.trans _ _ _ hbelow (hl.1 head hrest)) (irrefl head)
          subst hhead
          rw [List.prefix_cons_inj]
          apply ih hl.2 hwhole.2
          · intro a ha
            rcases List.mem_cons.mp (hsubset a (List.mem_cons_of_mem _ ha)) with rfl | htail
            · exact absurd (hl.1 a ha) (irrefl a)
            · exact htail
          · intro a ha b hb hbelow
            rcases List.mem_cons.mp (hclosed a (List.mem_cons_of_mem _ ha) b
              (List.mem_cons_of_mem _ hb) hbelow) with rfl | hrest
            · exact absurd (hwhole.1 b hb) (irrefl b)
            · exact hrest

namespace Merge

variable {κ τ : Type} [LinearOrder τ] {rank : κ → Nat → τ} {count : κ → Nat}
  {keys : List κ} {emitted : List (κ × Nat)} {pending : Dict κ Nat} {key : κ} {tick : Nat}

/-- The next tick of least rank. -/
def next (rank : κ → Nat → τ) (pending : Dict κ Nat) : Option (κ × Nat) :=
  pending.items.argmin fun entry => rank entry.1 entry.2

theorem next_eq_none : next rank pending = none ↔ pending.items = [] :=
  List.argmin_eq_none

/-- All ticks of the sources. -/
def ticks (keys : List κ) (count : κ → Nat) : List (κ × Nat) :=
  keys.flatMap fun key => (List.range (count key)).map fun tick => (key, tick)

theorem mem_ticks {entry : κ × Nat} :
    entry ∈ ticks keys count ↔ entry.1 ∈ keys ∧ entry.2 < count entry.1 := by
  obtain ⟨key, tick⟩ := entry
  simp [ticks]

theorem length_ticks : (ticks keys count).length = (keys.map count).sum := by
  unfold ticks
  rw [List.length_flatMap]
  simp

theorem nodup_ticks (hkeys : keys.Nodup) : (ticks keys count).Nodup := by
  unfold ticks
  rw [List.nodup_flatMap]
  constructor
  · intro key _
    exact List.Nodup.map (fun a b heq => (Prod.mk.inj heq).2) List.nodup_range
  · refine hkeys.imp ?_
    intro a b hne
    rw [Function.onFun, List.disjoint_left]
    rintro ⟨key, tick⟩ ha hb
    simp only [List.mem_map, Prod.mk.injEq] at ha hb
    obtain ⟨_, _, hkey, _⟩ := ha
    obtain ⟨_, _, hkey', _⟩ := hb
    exact hne (hkey.trans hkey'.symm)

variable [DecidableEq κ]

/-- A source goes on to its next tick, or is done. -/
def advance (count : κ → Nat) (pending : Dict κ Nat) (key : κ) (tick : Nat) : Dict κ Nat :=
  if tick + 1 = count key then pending.erase key else pending.set key (tick + 1)

/-- Every source at its first tick. -/
def start (keys : List κ) : Dict κ Nat := (∅ : Dict κ Nat).update (keys.map fun key => (key, 0))

/-- How the ranks of ticks grow, and that no two sources share one. -/
structure Ranked (keys : List κ) (rank : κ → Nat → τ) : Prop where
  grows : ∀ key ∈ keys, StrictMono (rank key)
  differs : ∀ key ∈ keys, ∀ other ∈ keys, ∀ tick tick', rank key tick = rank other tick' →
    key = other

/-- What holds of the ticks taken and the ticks that come next. -/
structure Merged (keys : List κ) (rank : κ → Nat → τ) (count : κ → Nat)
    (emitted : List (κ × Nat)) (pending : Dict κ Nat) : Prop where
  ahead : ∀ key tick, pending.get? key = some tick → key ∈ keys ∧ tick < count key
  taken : ∀ entry, entry ∈ emitted ↔
    entry.1 ∈ keys ∧ entry.2 < (pending.get? entry.1).getD (count entry.1)
  sorted : emitted.Pairwise fun a b => rank a.1 a.2 < rank b.1 b.2
  below : ∀ entry ∈ emitted, ∀ key tick, pending.get? key = some tick →
    rank entry.1 entry.2 < rank key tick

theorem get?_start : (start keys).get? key = if key ∈ keys then some 0 else none := by
  unfold start
  have hgeneral : ∀ (d : Dict κ Nat), (d.update (keys.map fun key => (key, 0))).get? key =
      if key ∈ keys then some 0 else d.get? key := by
    induction keys with
    | nil => intro d; rfl
    | cons first rest ih =>
        intro d
        change ((d.set first 0).update (rest.map fun key => (key, 0))).get? key = _
        rw [ih, Dict.get?_set]
        by_cases hfirst : key = first
        · simp [hfirst]
        · simp [hfirst]
  exact hgeneral ∅

/-- At the start nothing is taken. -/
theorem merged_start (hcount : ∀ key ∈ keys, 0 < count key) :
    Merged keys rank count [] (start keys) where
  ahead key tick hget := by
    rw [get?_start] at hget
    split at hget
    · next hmember =>
        cases hget
        exact ⟨hmember, hcount key hmember⟩
    · cases hget
  taken entry := by
    rw [get?_start]
    constructor
    · exact fun hmember => absurd hmember List.not_mem_nil
    · rintro ⟨hmember, hbelow⟩
      rw [if_pos hmember] at hbelow
      exact absurd hbelow (Nat.not_lt_zero _)
  sorted := List.Pairwise.nil
  below entry hmember := absurd hmember List.not_mem_nil

theorem get?_of_next (hnext : next rank pending = some (key, tick)) :
    pending.get? key = some tick :=
  Dict.get?_eq_some.mpr (List.argmin_mem hnext)

/-- What comes next has the least rank. -/
theorem rank_next_le (hnext : next rank pending = some (key, tick)) {other : κ} {tick' : Nat}
    (hget : pending.get? other = some tick') : rank key tick ≤ rank other tick' :=
  List.le_of_mem_argmin (Dict.get?_eq_some.mp hget) hnext

theorem get?_advance (other : κ) : (advance count pending key tick).get? other =
    if other = key then (if tick + 1 = count key then none else some (tick + 1))
    else pending.get? other := by
  unfold advance
  split
  · rw [Dict.get?_erase]
  · rw [Dict.get?_set]

/-- Taking the next tick keeps the merge. -/
theorem Merged.step (h : Merged keys rank count emitted pending) (hranked : Ranked keys rank)
    (hnext : next rank pending = some (key, tick)) :
    Merged keys rank count (emitted ++ [(key, tick)]) (advance count pending key tick) := by
  have hget := get?_of_next hnext
  obtain ⟨hkey, htick⟩ := h.ahead key tick hget
  -- What is left of every source outranks the tick taken.
  have hafter : ∀ other tick', (advance count pending key tick).get? other = some tick' →
      other ∈ keys ∧ tick' < count other ∧ rank key tick < rank other tick' := by
    intro other tick' hother
    rw [get?_advance] at hother
    split at hother
    · next heq =>
        subst heq
        split at hother
        · cases hother
        · next hmore =>
            cases hother
            exact ⟨hkey, by omega, hranked.grows other hkey (Nat.lt_succ_self tick)⟩
    · next hne =>
        obtain ⟨hmember, hbelow⟩ := h.ahead other tick' hother
        refine ⟨hmember, hbelow, lt_of_le_of_ne (rank_next_le hnext hother) ?_⟩
        exact fun heq => hne (hranked.differs key hkey other hmember _ _ heq).symm
  constructor
  · exact fun other tick' hother => ⟨(hafter other tick' hother).1, (hafter other tick' hother).2.1⟩
  · rintro ⟨other, tick'⟩
    rw [List.mem_append, h.taken, List.mem_singleton, get?_advance, Prod.mk.injEq]
    by_cases heq : other = key
    · subst heq
      rw [hget, if_pos rfl]
      split
      · next hlast =>
          simp only [Option.getD_some, Option.getD_none, true_and]
          constructor
          · rintro (⟨_, hbelow⟩ | rfl)
            · exact ⟨hkey, by omega⟩
            · exact ⟨hkey, htick⟩
          · rintro ⟨_, hbelow⟩
            rcases Nat.lt_or_ge tick' tick with hold | hnew
            · exact Or.inl ⟨hkey, hold⟩
            · exact Or.inr (by omega)
      · simp only [Option.getD_some, true_and]
        constructor
        · rintro (⟨_, hbelow⟩ | rfl)
          · exact ⟨hkey, by omega⟩
          · exact ⟨hkey, Nat.lt_succ_self _⟩
        · rintro ⟨_, hbelow⟩
          rcases Nat.lt_or_ge tick' tick with hold | hnew
          · exact Or.inl ⟨hkey, hold⟩
          · exact Or.inr (by omega)
    · rw [if_neg heq]
      simp [heq]
  · rw [List.pairwise_append]
    refine ⟨h.sorted, List.pairwise_singleton _ _, ?_⟩
    intro entry hentry last hlast
    rw [List.mem_singleton.mp hlast]
    exact h.below entry hentry key tick hget
  · intro entry hentry other tick' hother
    obtain ⟨_, _, habove⟩ := hafter other tick' hother
    rcases List.mem_append.mp hentry with hold | hlast
    · exact (h.below entry hold key tick hget).trans habove
    · rw [List.mem_singleton.mp hlast]
      exact habove

/-- Nothing is taken twice. -/
theorem Merged.nodup (h : Merged keys rank count emitted pending) : emitted.Nodup :=
  h.sorted.imp fun hlt heq => absurd (heq ▸ hlt) (lt_irrefl _)

/-- Only ticks of the sources are taken. -/
theorem Merged.subset (h : Merged keys rank count emitted pending) :
    ∀ entry ∈ emitted, entry ∈ ticks keys count := by
  intro entry hentry
  obtain ⟨hkey, hbelow⟩ := (h.taken entry).mp hentry
  refine mem_ticks.mpr ⟨hkey, ?_⟩
  cases hget : pending.get? entry.1 with
  | none =>
      rw [hget] at hbelow
      exact hbelow
  | some tick =>
      rw [hget] at hbelow
      exact lt_trans hbelow (h.ahead entry.1 tick hget).2

/-- No more ticks are taken than there are. -/
theorem Merged.length_le (h : Merged keys rank count emitted pending) :
    emitted.length ≤ (keys.map count).sum := by
  rw [← length_ticks]
  exact (List.subperm_of_subset h.nodup h.subset).length_le

/-- When no source has ticks left, all of them are taken. -/
theorem Merged.perm_of_done (h : Merged keys rank count emitted pending) (hkeys : keys.Nodup)
    (hdone : pending.items = []) : emitted.Perm (ticks keys count) := by
  rw [List.perm_ext_iff_of_nodup h.nodup (nodup_ticks hkeys)]
  intro entry
  have hnone : pending.get? entry.1 = none := by
    rw [Dict.get?_eq_none, hdone]
    exact fun value => List.not_mem_nil
  rw [h.taken, mem_ticks, hnone]
  rfl

/-- The ticks of one source. -/
theorem filter_ticks (hkeys : keys.Nodup) (hkey : key ∈ keys) :
    ((ticks keys count).filter fun entry => entry.1 = key).Perm
      ((List.range (count key)).map fun tick => (key, tick)) := by
  rw [List.perm_ext_iff_of_nodup ((nodup_ticks hkeys).filter _)
    (List.Nodup.map (fun a b heq => (Prod.mk.inj heq).2) List.nodup_range)]
  rintro ⟨other, tick⟩
  rw [List.mem_filter, mem_ticks]
  simp only [decide_eq_true_eq, List.mem_map, List.mem_range, Prod.mk.injEq]
  constructor
  · rintro ⟨⟨_, hbelow⟩, rfl⟩
    exact ⟨tick, hbelow, rfl, rfl⟩
  · rintro ⟨_, hbelow, rfl, rfl⟩
    exact ⟨⟨hkey, hbelow⟩, rfl⟩

/-- When no source has ticks left, every source has been taken as often as it has ticks. -/
theorem Merged.countP_of_done (h : Merged keys rank count emitted pending) (hkeys : keys.Nodup)
    (hdone : pending.items = []) (hkey : key ∈ keys) :
    emitted.countP (fun entry => entry.1 = key) = count key := by
  rw [List.countP_eq_length_filter,
    (((h.perm_of_done hkeys hdone).filter _).trans (filter_ticks hkeys hkey)).length_eq]
  simp

/-- What has a lower rank than a tick that is taken is taken too. -/
theorem Merged.closed (h : Merged keys rank count emitted pending) (hranked : Ranked keys rank)
    {entry other : κ × Nat} (hentry : entry ∈ emitted) (hother : other ∈ ticks keys count)
    (hlt : rank other.1 other.2 < rank entry.1 entry.2) : other ∈ emitted := by
  obtain ⟨hkey, hbelow⟩ := mem_ticks.mp hother
  refine (h.taken other).mpr ⟨hkey, ?_⟩
  cases hget : pending.get? other.1 with
  | none => exact hbelow
  | some tick =>
      have habove := hlt.trans (h.below entry hentry other.1 tick hget)
      exact (hranked.grows other.1 hkey).lt_iff_lt.mp habove

omit [DecidableEq κ] in
/-- All ticks in the order of their ranks. -/
theorem exists_sorted_ticks (hranked : Ranked keys rank) (hkeys : keys.Nodup) :
    ∃ whole : List (κ × Nat), (∀ entry, entry ∈ whole ↔ entry ∈ ticks keys count) ∧
      whole.Pairwise fun a b => rank a.1 a.2 < rank b.1 b.2 := by
  have hperm := List.mergeSort_perm (ticks keys count)
    fun a b => decide (rank a.1 a.2 ≤ rank b.1 b.2)
  have hsorted : ((ticks keys count).mergeSort
      fun a b => decide (rank a.1 a.2 ≤ rank b.1 b.2)).Pairwise
        fun a b => decide (rank a.1 a.2 ≤ rank b.1 b.2) = true := by
    apply List.pairwise_mergeSort
    · intro a b c hab hbc
      exact decide_eq_true ((of_decide_eq_true hab).trans (of_decide_eq_true hbc))
    · intro a b
      simpa using le_total (rank a.1 a.2) (rank b.1 b.2)
  refine ⟨_, fun entry => hperm.mem_iff, ?_⟩
  have hdistinct := (hperm.nodup_iff).mpr (nodup_ticks hkeys)
  refine (hsorted.and hdistinct).imp_of_mem ?_
  rintro ⟨a, i⟩ ⟨b, j⟩ ha hb ⟨hle, hne⟩
  refine lt_of_le_of_ne (of_decide_eq_true hle) fun heq => hne ?_
  obtain ⟨hkeyA, _⟩ := mem_ticks.mp (hperm.mem_iff.mp ha)
  obtain ⟨hkeyB, _⟩ := mem_ticks.mp (hperm.mem_iff.mp hb)
  have hkey : a = b := hranked.differs a hkeyA b hkeyB i j heq
  subst hkey
  exact Prod.ext rfl ((hranked.grows a hkeyA).injective heq)

/-- The part of a merge that belongs to some of its keys is the beginning of the sorted list
of their ticks, and all of it when no source has ticks left. -/
theorem Merged.prefix_of_part {κ' : Type} {r : κ' × Nat → κ' × Nat → Prop} [IsTrans _ r]
    [Std.Irrefl r] {own whole : List (κ' × Nat)}
    (h : Merged keys rank count emitted pending) (embed : κ' → κ) (hranked : Ranked keys rank)
    (hkeys : keys.Nodup) (hown : ∀ entry, entry ∈ own ↔ (embed entry.1, entry.2) ∈ emitted)
    (hsorted : own.Pairwise r)
    (hwhole : ∀ entry, entry ∈ whole ↔ (embed entry.1, entry.2) ∈ ticks keys count)
    (hwholeSorted : whole.Pairwise r)
    (hr : ∀ a ∈ whole, ∀ b ∈ whole, r a b → rank (embed a.1) a.2 < rank (embed b.1) b.2) :
    own <+: whole ∧ (pending.items = [] → own = whole) := by
  have hsubset : ∀ a ∈ own, a ∈ whole := fun a ha =>
    (hwhole a).mpr (h.subset _ ((hown a).mp ha))
  have hbeginning : own <+: whole := by
    refine prefix_of_sorted hsorted hwholeSorted hsubset ?_
    intro a ha b hb hba
    exact (hown b).mpr (h.closed hranked ((hown a).mp ha) ((hwhole b).mp hb)
      (hr b hb a (hsubset a ha) hba))
  refine ⟨hbeginning, fun hdone => ?_⟩
  have hnodup : ∀ {l : List (κ' × Nat)}, l.Pairwise r → l.Nodup := fun hl =>
    hl.imp fun hlt heq => absurd (heq ▸ hlt) (irrefl _)
  have hperm : own.Perm whole := by
    rw [List.perm_ext_iff_of_nodup (hnodup hsorted) (hnodup hwholeSorted)]
    exact fun entry => ⟨hsubset entry, fun hentry =>
      (hown entry).mpr ((h.perm_of_done hkeys hdone).mem_iff.mpr ((hwhole entry).mp hentry))⟩
  exact hbeginning.eq_of_length hperm.length_eq

end Merge

end MeshtasticLab.Foundation

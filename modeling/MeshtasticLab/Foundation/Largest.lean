/-
  Foundation/Largest.lean --- a list of the entries with the largest keys.

  WHAT THIS FILE IS FOR

  A cache of bounded size merges what arrives into what it holds, sorts by key and
  keeps the last `n` entries.  What it drops on the way has `n` larger keys above it
  in the cache, and these have it dropped in the end whatever arrives later: the
  `n` largest keys of a union need of each part only its own `n` largest.
-/
import Mathlib.Data.Finset.Card
import Mathlib.Data.List.DropRight
import Mathlib.Data.List.Sort

set_option autoImplicit false

namespace MeshtasticLab.Foundation

variable {κ ε : Type} [LinearOrder κ] {n : ℕ}

/-! ## The largest keys of a set -/

/-- The `n` largest keys of a set: those with fewer than `n` above them. -/
def largest (n : ℕ) (keys : Finset κ) : Finset κ :=
  keys.filter fun key => (keys.filter (key < ·)).card < n

theorem mem_largest {keys : Finset κ} {key : κ} :
    key ∈ largest n keys ↔ key ∈ keys ∧ (keys.filter (key < ·)).card < n := Finset.mem_filter

theorem largest_subset (n : ℕ) (keys : Finset κ) : largest n keys ⊆ keys :=
  Finset.filter_subset _ _

/-- A key with `n` others above it has `n` of the largest above it. -/
theorem le_card_above_largest {keys : Finset κ} {key : κ}
    (hmany : n ≤ (keys.filter (key < ·)).card) :
    n ≤ ((largest n keys).filter (key < ·)).card := by
  generalize hcount : (keys.filter (key < ·)).card = count
  induction count using Nat.strong_induction_on generalizing key with
  | _ count ih =>
      by_cases hall : ∀ above ∈ keys, key < above → above ∈ largest n keys
      · refine hmany.trans (Finset.card_le_card fun above habove => ?_)
        obtain ⟨hmember, hlt⟩ := Finset.mem_filter.mp habove
        exact Finset.mem_filter.mpr ⟨hall above hmember hlt, hlt⟩
      · -- The induction is on how many keys are above: one that is not among the largest
        -- has fewer above it, and still `n`.
        push Not at hall
        obtain ⟨above, hmember, hlt, hnot⟩ := hall
        have habove : n ≤ (keys.filter (above < ·)).card := by
          by_contra hfew
          exact hnot (mem_largest.mpr ⟨hmember, not_le.mp hfew⟩)
        have hsubset : keys.filter (above < ·) ⊂ keys.filter (key < ·) := by
          refine Finset.ssubset_iff_of_subset ?_ |>.mpr ⟨above, ?_, ?_⟩
          · intro other hother
            obtain ⟨hin, hhigher⟩ := Finset.mem_filter.mp hother
            exact Finset.mem_filter.mpr ⟨hin, hlt.trans hhigher⟩
          · exact Finset.mem_filter.mpr ⟨hmember, hlt⟩
          · intro hself
            exact lt_irrefl _ (Finset.mem_filter.mp hself).2
        have hrest := ih _ (hcount ▸ Finset.card_lt_card hsubset) habove rfl
        refine hrest.trans (Finset.card_le_card fun other hother => ?_)
        obtain ⟨hin, hhigher⟩ := Finset.mem_filter.mp hother
        exact Finset.mem_filter.mpr ⟨hin, hlt.trans hhigher⟩

/-- The largest of a union are found among the largest of its first part and the second. -/
theorem largest_union (n : ℕ) (keys more : Finset κ) :
    largest n (largest n keys ∪ more) = largest n (keys ∪ more) := by
  have hsubset : largest n keys ∪ more ⊆ keys ∪ more :=
    Finset.union_subset_union_left (largest_subset n keys)
  ext key
  rw [mem_largest, mem_largest]
  constructor
  · rintro ⟨hmember, hfew⟩
    refine ⟨hsubset hmember, ?_⟩
    by_cases hall : ∀ above ∈ keys, key < above → above ∈ largest n keys
    · refine lt_of_le_of_lt (Finset.card_le_card fun above habove => ?_) hfew
      obtain ⟨hin, hlt⟩ := Finset.mem_filter.mp habove
      refine Finset.mem_filter.mpr ⟨?_, hlt⟩
      rcases Finset.mem_union.mp hin with hkey | hmore
      · exact Finset.mem_union_left _ (hall above hkey hlt)
      · exact Finset.mem_union_right _ hmore
    · -- A key above that is not among the largest has `n` of them above it.
      push Not at hall
      obtain ⟨above, hin, hlt, hnot⟩ := hall
      have hmany : n ≤ (keys.filter (above < ·)).card := by
        by_contra hless
        exact hnot (mem_largest.mpr ⟨hin, not_le.mp hless⟩)
      refine absurd ((le_card_above_largest hmany).trans (Finset.card_le_card ?_))
        (not_le.mpr hfew)
      intro other hother
      obtain ⟨hlargest, hhigher⟩ := Finset.mem_filter.mp hother
      exact Finset.mem_filter.mpr ⟨Finset.mem_union_left _ hlargest, hlt.trans hhigher⟩
  · rintro ⟨hmember, hfew⟩
    refine ⟨?_, lt_of_le_of_lt (Finset.card_le_card
      (Finset.filter_subset_filter _ hsubset)) hfew⟩
    rcases Finset.mem_union.mp hmember with hkey | hmore
    · refine Finset.mem_union_left _ (mem_largest.mpr ⟨hkey, ?_⟩)
      exact lt_of_le_of_lt (Finset.card_le_card
        (Finset.filter_subset_filter _ Finset.subset_union_left)) hfew
    · exact Finset.mem_union_right _ hmore

/-! ## The last entries of a sorted list -/

theorem rtake_cons (n : ℕ) (entry : ε) (rest : List ε) :
    (entry :: rest).rtake n = if rest.length < n then entry :: rest else rest.rtake n := by
  unfold List.rtake
  rw [List.length_cons]
  split
  · next hshort => rw [Nat.sub_eq_zero_of_le hshort, List.drop_zero]
  · next hlong => rw [Nat.succ_sub (Nat.not_lt.mp hlong), List.drop_succ_cons]

theorem rtake_of_length_le {entries : List ε} (h : entries.length ≤ n) :
    entries.rtake n = entries := by
  unfold List.rtake
  rw [Nat.sub_eq_zero_of_le h, List.drop_zero]

/-- Cutting a list whose wanted entries come last cuts those only. -/
theorem filter_rtake {p : ε → Bool} {entries : List ε}
    (hsorted : entries.Pairwise fun earlier later => p earlier → p later) (n : ℕ) :
    (entries.rtake n).filter p = (entries.filter p).rtake n := by
  induction entries with
  | nil => simp
  | cons entry rest ih =>
      rw [List.pairwise_cons] at hsorted
      rw [rtake_cons]
      split
      · next hshort =>
          refine (rtake_of_length_le ?_).symm
          exact (List.length_filter_le _ _).trans hshort
      · next hlong =>
          rw [ih hsorted.2]
          by_cases hwanted : p entry
          · have hall : rest.filter p = rest :=
              List.filter_eq_self.mpr fun later hlater => hsorted.1 later hlater hwanted
            rw [List.filter_cons_of_pos hwanted, hall, rtake_cons, if_neg hlong]
          · rw [List.filter_cons_of_neg hwanted]

/-- The last `n` entries of a list with increasing keys are those with the largest. -/
theorem mem_rtake {key : ε → κ} {entries : List ε}
    (hsorted : entries.Pairwise fun earlier later => key earlier < key later) {entry : ε} :
    entry ∈ entries.rtake n ↔
      entry ∈ entries ∧ key entry ∈ largest n (entries.map key).toFinset := by
  induction entries with
  | nil => simp
  | cons first rest ih =>
      rw [List.pairwise_cons] at hsorted
      have hcard : (rest.map key).toFinset.card = rest.length := by
        rw [List.toFinset_card_of_nodup, List.length_map]
        exact (hsorted.2.map key fun _ _ hlt => hlt).imp ne_of_lt
      have habove : ∀ other ∈ first :: rest, ((first :: rest).map key).toFinset.filter
          (key other < ·) = (rest.map key).toFinset.filter (key other < ·) := by
        intro other hother
        rw [List.map_cons, List.toFinset_cons, Finset.filter_insert, if_neg]
        rcases List.mem_cons.mp hother with rfl | hlater
        · exact lt_irrefl _
        · exact (hsorted.1 other hlater).asymm
      have hmember : ∀ other ∈ first :: rest,
          key other ∈ largest n ((first :: rest).map key).toFinset ↔
            ((rest.map key).toFinset.filter (key other < ·)).card < n := by
        intro other hother
        rw [mem_largest, habove other hother, List.mem_toFinset]
        exact and_iff_right (List.mem_map_of_mem hother)
      rw [rtake_cons]
      split
      · next hshort =>
          refine (and_iff_left_of_imp fun hin => (hmember entry hin).mpr ?_).symm
          exact lt_of_le_of_lt ((Finset.card_filter_le _ _).trans hcard.le) hshort
      · next hlong =>
          rw [ih hsorted.2, mem_largest, List.mem_toFinset]
          constructor
          · rintro ⟨hin, _, hfew⟩
            have hcons := List.mem_cons_of_mem first hin
            exact ⟨hcons, (hmember entry hcons).mpr hfew⟩
          · rintro ⟨hcons, hlargest⟩
            have hfew := (hmember entry hcons).mp hlargest
            rcases List.mem_cons.mp hcons with rfl | hin
            · -- All the rest is above the first entry.
              refine absurd hfew (not_lt.mpr ?_)
              rw [Finset.filter_true_of_mem, hcard]
              · exact Nat.not_lt.mp hlong
              · intro other hother
                obtain ⟨later, hlater, rfl⟩ := List.mem_map.mp (List.mem_toFinset.mp hother)
                exact hsorted.1 later hlater
            · exact ⟨hin, List.mem_map_of_mem hin, hfew⟩

/-! ## Keeping the entries with the largest keys -/

variable {key : ε → κ}

/-- Entries with the same key are the same entry. -/
def KeyedBy (key : ε → κ) (entries : List ε) : Prop :=
  ∀ one ∈ entries, ∀ other ∈ entries, key one = key other → one = other

/-- A list holds of the entries seen those with the `n` largest keys, each once and in
increasing order. -/
structure Newest (n : ℕ) (key : ε → κ) (seen kept : List ε) : Prop where
  increasing : kept.Pairwise fun earlier later => key earlier < key later
  holds : ∀ entry, entry ∈ kept ↔ entry ∈ seen ∧ key entry ∈ largest n (seen.map key).toFinset

namespace Newest

variable {seen more kept merged : List ε}

theorem nil (n : ℕ) (key : ε → κ) : Newest n key [] [] where
  increasing := List.Pairwise.nil
  holds := by simp

/-- The keys that are kept are the largest. -/
theorem keys (h : Newest n key seen kept) :
    (kept.map key).toFinset = largest n (seen.map key).toFinset := by
  ext wanted
  rw [List.mem_toFinset, List.mem_map]
  constructor
  · rintro ⟨entry, hkept, rfl⟩
    exact ((h.holds entry).mp hkept).2
  · intro hlargest
    obtain ⟨entry, hseen, rfl⟩ :=
      List.mem_map.mp (List.mem_toFinset.mp (largest_subset n _ hlargest))
    exact ⟨entry, (h.holds entry).mpr ⟨hseen, hlargest⟩, rfl⟩

/-- Merging, sorting and cutting keep the largest of everything seen. -/
theorem merge (h : Newest n key seen kept) (hkeyed : KeyedBy key (seen ++ more))
    (hsorted : merged.Pairwise fun earlier later => key earlier < key later)
    (hmerged : ∀ entry, entry ∈ merged ↔ entry ∈ kept ∨ entry ∈ more) :
    Newest n key (seen ++ more) (merged.rtake n) where
  increasing := hsorted.sublist (List.drop_sublist _ _)
  holds := by
    intro entry
    have hkeys : largest n (merged.map key).toFinset =
        largest n ((seen ++ more).map key).toFinset := by
      have hunion : (merged.map key).toFinset =
          largest n (seen.map key).toFinset ∪ (more.map key).toFinset := by
        rw [← h.keys, ← List.toFinset_append, ← List.map_append]
        ext wanted
        simp only [List.mem_toFinset, List.mem_map, List.mem_append, hmerged]
      rw [hunion, largest_union, ← List.toFinset_append, ← List.map_append]
    rw [mem_rtake hsorted, hmerged, hkeys, List.mem_append]
    constructor
    · rintro ⟨hkept | hmore, hlargest⟩
      · exact ⟨Or.inl ((h.holds entry).mp hkept).1, hlargest⟩
      · exact ⟨Or.inr hmore, hlargest⟩
    · rintro ⟨hseen | hmore, hlargest⟩
      · refine ⟨?_, hlargest⟩
        have hpart := hlargest
        rw [List.map_append, List.toFinset_append, ← largest_union] at hpart
        rcases Finset.mem_union.mp (largest_subset n _ hpart) with hkept | hlater
        · exact Or.inl ((h.holds entry).mpr ⟨hseen, hkept⟩)
        · obtain ⟨other, hother, hsame⟩ := List.mem_map.mp (List.mem_toFinset.mp hlater)
          have heq := hkeyed other (List.mem_append_right _ hother) entry
            (List.mem_append_left _ hseen) hsame
          exact Or.inr (heq ▸ hother)
      · exact ⟨Or.inr hmore, hlargest⟩

/-- How often and in what order the entries were seen does not matter. -/
theorem congr {seen' : List ε} (h : Newest n key seen kept)
    (hseen : ∀ entry, entry ∈ seen ↔ entry ∈ seen') : Newest n key seen' kept where
  increasing := h.increasing
  holds := by
    intro entry
    have hkeys : (seen.map key).toFinset = (seen'.map key).toFinset := by
      ext wanted
      simp only [List.mem_toFinset, List.mem_map, hseen]
    rw [h.holds, hseen, hkeys]

/-- The entries seen determine the list. -/
theorem unique {kept' : List ε} (h : Newest n key seen kept) (h' : Newest n key seen kept') :
    kept = kept' := by
  have : Std.Antisymm fun one other : ε => key one < key other :=
    ⟨fun _ _ hlt hgt => absurd hgt hlt.asymm⟩
  have : Std.Irrefl fun one other : ε => key one < key other := ⟨fun _ => lt_irrefl _⟩
  refine h.increasing.eq_of_mem_iff h'.increasing fun entry => ?_
  rw [h.holds, h'.holds]

end Newest

end MeshtasticLab.Foundation

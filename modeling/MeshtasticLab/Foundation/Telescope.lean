/-
  Foundation/Telescope.lean --- counters read as running totals.

  WHAT THIS FILE IS FOR

  Each of several sources reports a running total now and then.  What it counted
  between two reports is the difference, so a program keeps the last total of each
  source and adds the differences up.  While no total decreases, the sum is, over
  all sources, the last total less the first one known.
-/
import MeshtasticLab.Foundation.Dict
import Mathlib.Algebra.BigOperators.Group.Finset.Basic

set_option autoImplicit false

namespace MeshtasticLab.Foundation

variable {κ : Type} [DecidableEq κ]

/-- The last total of each source and the sum of the differences. -/
structure Totals (κ : Type) where
  latest : Dict κ Nat
  counted : Nat := 0

namespace Totals

/-- A source reports a total.  The first total of a source that none is known of
counts nothing. -/
def report (totals : Totals κ) (entry : κ × Nat) : Totals κ where
  latest := totals.latest.set entry.1 entry.2
  counted := totals.counted + (totals.latest.get? entry.1).elim 0 (entry.2 - ·)

/-- Reports in their order. -/
def reportAll (totals : Totals κ) (reports : List (κ × Nat)) : Totals κ :=
  reports.foldl report totals

/-- The totals known of a source: that of the baseline and those it reported. -/
def known (baseline : Dict κ Nat) (reports : List (κ × Nat)) (key : κ) : List Nat :=
  (baseline.get? key).toList ++ (reports.filter (·.1 = key)).map Prod.snd

/-- No source reports less than is known of it. -/
def NeverDecrease (baseline : Dict κ Nat) (reports : List (κ × Nat)) : Prop :=
  ∀ key, (known baseline reports key).Pairwise (· ≤ ·)

/-- The total that a source counts from: its baseline, or its first report. -/
def base (baseline : Dict κ Nat) (reports : List (κ × Nat)) (key : κ) : Option Nat :=
  (baseline.get? key).or ((reports.filter (·.1 = key)).map Prod.snd).head?

/-- The last total that a source reported. -/
def last (reports : List (κ × Nat)) (key : κ) : Option Nat :=
  ((reports.filter (·.1 = key)).map Prod.snd).getLast?

/-- Over all sources that reported, the last total less the base. -/
def telescoped (baseline : Dict κ Nat) (reports : List (κ × Nat)) : Nat :=
  ∑ key ∈ (reports.map Prod.fst).toFinset,
    ((last reports key).getD 0 - (base baseline reports key).getD 0)

theorem reportAll_concat (totals : Totals κ) (reports : List (κ × Nat)) (entry : κ × Nat) :
    totals.reportAll (reports ++ [entry]) = (totals.reportAll reports).report entry :=
  List.foldl_concat ..

/-- The latest total of a source is its last report, or its baseline. -/
theorem get?_latest (baseline : Dict κ Nat) (reports : List (κ × Nat)) (key : κ) :
    ((⟨baseline, 0⟩ : Totals κ).reportAll reports).latest.get? key =
      (last reports key).or (baseline.get? key) := by
  induction reports using List.reverseRecOn with
  | nil => rfl
  | append_singleton reports entry ih =>
      rw [reportAll_concat]
      unfold report last
      dsimp only
      rw [Dict.get?_set, List.filter_append, List.map_append]
      split
      · next heq => simp [heq]
      · next hne =>
          have hother : ¬entry.1 = key := fun heq => hne heq.symm
          rw [ih]
          simp [last, hother]

theorem last_eq_none {reports : List (κ × Nat)} {key : κ} :
    last reports key = none ↔ key ∉ reports.map Prod.fst := by
  unfold last
  rw [List.getLast?_eq_none_iff, List.map_eq_nil_iff, List.filter_eq_nil_iff]
  constructor
  · intro hnone hmember
    obtain ⟨entry, hentry, hkey⟩ := List.mem_map.mp hmember
    exact hnone entry hentry (by simpa using hkey)
  · intro habsent entry hentry hkey
    exact habsent (List.mem_map.mpr ⟨entry, hentry, by simpa using hkey⟩)

/-- Without a report of its own a source counts from its baseline. -/
theorem base_of_absent {reports : List (κ × Nat)} {key : κ} (hnone : last reports key = none)
    (baseline : Dict κ Nat) : base baseline reports key = baseline.get? key := by
  unfold last at hnone
  unfold base
  rw [List.getLast?_eq_none_iff.mp hnone]
  simp

theorem known_concat (baseline : Dict κ Nat) (reports : List (κ × Nat)) (entry : κ × Nat)
    (key : κ) :
    known baseline (reports ++ [entry]) key =
      known baseline reports key ++ if entry.1 = key then [entry.2] else [] := by
  unfold known
  rw [List.filter_append, List.map_append, List.append_assoc]
  split
  · next heq => simp [heq]
  · next hne => simp [hne]

theorem NeverDecrease.init {baseline : Dict κ Nat} {reports : List (κ × Nat)} {entry : κ × Nat}
    (h : NeverDecrease baseline (reports ++ [entry])) : NeverDecrease baseline reports := by
  intro key
  have hkey := h key
  rw [known_concat, List.pairwise_append] at hkey
  exact hkey.1

/-- The last report is not below what was known before it. -/
theorem NeverDecrease.le_report {baseline : Dict κ Nat} {reports : List (κ × Nat)}
    {entry : κ × Nat} (h : NeverDecrease baseline (reports ++ [entry])) {total : Nat}
    (hknown : total ∈ known baseline reports entry.1) : total ≤ entry.2 := by
  have hkey := h entry.1
  rw [known_concat, if_pos rfl, List.pairwise_append] at hkey
  exact hkey.2.2 total hknown entry.2 List.mem_cons_self

/-- Only the sources that reported have to be looked at. -/
theorem neverDecrease_iff {baseline : Dict κ Nat} {reports : List (κ × Nat)} :
    NeverDecrease baseline reports ↔
      ∀ key ∈ reports.map Prod.fst, (known baseline reports key).Pairwise (· ≤ ·) := by
  constructor
  · intro h key _
    exact h key
  · intro h key
    by_cases hreported : key ∈ reports.map Prod.fst
    · exact h key hreported
    · have hsilent := last_eq_none.mpr hreported
      unfold last at hsilent
      unfold known
      rw [List.getLast?_eq_none_iff.mp hsilent, List.append_nil]
      cases baseline.get? key with
      | none => exact .nil
      | some first => exact List.pairwise_singleton _ first

instance (baseline : Dict κ Nat) (reports : List (κ × Nat)) :
    Decidable (NeverDecrease baseline reports) :=
  decidable_of_iff _ neverDecrease_iff.symm

theorem mem_known_of_last {baseline : Dict κ Nat} {reports : List (κ × Nat)} {key : κ}
    {total : Nat} (hlast : last reports key = some total) :
    total ∈ known baseline reports key := by
  unfold known
  exact List.mem_append_right _ (List.mem_of_getLast? hlast)

theorem mem_known_of_base {baseline : Dict κ Nat} {reports : List (κ × Nat)} {key : κ}
    {total : Nat} (hbase : base baseline reports key = some total) :
    total ∈ known baseline reports key := by
  unfold base at hbase
  unfold known
  cases hget : baseline.get? key with
  | some first =>
      rw [hget] at hbase
      cases hbase
      simp
  | none =>
      rw [hget, Option.none_or] at hbase
      exact List.mem_append_right _ (List.mem_of_head? hbase)

/-- The last report is not below the base. -/
theorem NeverDecrease.base_le_last {baseline : Dict κ Nat} {reports : List (κ × Nat)}
    (h : NeverDecrease baseline reports) {key : κ} {first total : Nat}
    (hbase : base baseline reports key = some first) (hlast : last reports key = some total) :
    first ≤ total := by
  have hsplit : ∃ earlier, known baseline reports key = earlier ++ [total] := by
    obtain ⟨earlier, hearlier⟩ := List.getLast?_eq_some_iff.mp hlast
    refine ⟨(baseline.get? key).toList ++ earlier, ?_⟩
    unfold known
    rw [hearlier, List.append_assoc]
  obtain ⟨earlier, hsplit⟩ := hsplit
  have hpairwise := h key
  have hmember := mem_known_of_base hbase
  rw [hsplit] at hpairwise hmember
  rcases List.mem_append.mp hmember with hearlier | hsame
  · exact (List.pairwise_append.mp hpairwise).2.2 first hearlier total List.mem_cons_self
  · exact (List.mem_singleton.mp hsame).le

theorem last_concat (reports : List (κ × Nat)) (entry : κ × Nat) (key : κ) :
    last (reports ++ [entry]) key =
      if entry.1 = key then some entry.2 else last reports key := by
  unfold last
  rw [List.filter_append, List.map_append]
  split
  · next heq => simp [heq]
  · next hne => simp [hne]

theorem base_concat (baseline : Dict κ Nat) (reports : List (κ × Nat)) (entry : κ × Nat)
    (key : κ) :
    base baseline (reports ++ [entry]) key =
      if entry.1 = key then (base baseline reports key).or (some entry.2)
      else base baseline reports key := by
  unfold base
  rw [List.filter_append, List.map_append, List.head?_append, ← Option.or_assoc]
  split
  · next heq => simp [heq]
  · next hne => simp [hne]

/-- While no total decreases, the sum of the differences is, over all sources, the last
total less the base. -/
theorem counted_eq_telescoped {baseline : Dict κ Nat} {reports : List (κ × Nat)}
    (h : NeverDecrease baseline reports) :
    ((⟨baseline, 0⟩ : Totals κ).reportAll reports).counted = telescoped baseline reports := by
  induction reports using List.reverseRecOn with
  | nil => rfl
  | append_singleton reports entry ih =>
      obtain ⟨key, total⟩ := entry
      have hbefore := ih h.init
      rw [reportAll_concat]
      unfold report
      dsimp only
      rw [hbefore, get?_latest]
      let before := fun other =>
        (last reports other).getD 0 - (base baseline reports other).getD 0
      let after := fun other => (last (reports ++ [(key, total)]) other).getD 0 -
        (base baseline (reports ++ [(key, total)]) other).getD 0
      have hothers : ∀ other, other ≠ key → after other = before other := by
        intro other hne
        simp only [after, before]
        rw [last_concat, base_concat, if_neg hne.symm, if_neg hne.symm]
      have hkey : after key = total - ((base baseline reports key).or (some total)).getD 0 := by
        simp only [after]
        rw [last_concat, base_concat, if_pos rfl, if_pos rfl]
        rfl
      change telescoped baseline reports + _ =
        ∑ other ∈ ((reports ++ [(key, total)]).map Prod.fst).toFinset, after other
      change (∑ other ∈ (reports.map Prod.fst).toFinset, before other) + _ = _
      cases hlast : last reports key with
      | none =>
          have hnew : key ∉ (reports.map Prod.fst).toFinset := by
            rw [List.mem_toFinset]
            exact last_eq_none.mp hlast
          have hkeys : ((reports ++ [(key, total)]).map Prod.fst).toFinset =
              insert key (reports.map Prod.fst).toFinset := by
            rw [List.map_append, List.toFinset_append, Finset.union_comm]
            rfl
          have hsame : ∑ other ∈ (reports.map Prod.fst).toFinset, after other =
              ∑ other ∈ (reports.map Prod.fst).toFinset, before other := by
            refine Finset.sum_congr rfl fun other hmember => hothers other ?_
            rintro rfl
            exact hnew hmember
          rw [hkeys, Finset.sum_insert hnew, hsame, hkey, base_of_absent hlast, Nat.add_comm,
            Option.none_or]
          cases baseline.get? key with
          | none => simp
          | some first => rfl
      | some previous =>
          have hold : key ∈ (reports.map Prod.fst).toFinset := by
            rw [List.mem_toFinset]
            by_contra habsent
            rw [last_eq_none.mpr habsent] at hlast
            cases hlast
          have hkeys : ((reports ++ [(key, total)]).map Prod.fst).toFinset =
              (reports.map Prod.fst).toFinset := by
            simpa using hold
          obtain ⟨first, hfirst⟩ : ∃ first, base baseline reports key = some first := by
            rw [← Option.isSome_iff_exists, Option.isSome_iff_ne_none]
            intro hnone
            have hempty := (Option.or_eq_none_iff.mp hnone).2
            rw [List.head?_eq_none_iff] at hempty
            unfold last at hlast
            rw [hempty] at hlast
            cases hlast
          have hsame : ∑ other ∈ (reports.map Prod.fst).toFinset.erase key, after other =
              ∑ other ∈ (reports.map Prod.fst).toFinset.erase key, before other :=
            Finset.sum_congr rfl fun other hmember => hothers other (Finset.ne_of_mem_erase hmember)
          have hcounted : before key = previous - first := by
            simp only [before]
            rw [hlast, hfirst]
            rfl
          have hle : first ≤ previous := h.init.base_le_last hfirst hlast
          have hlast' : previous ≤ total := h.le_report (mem_known_of_last hlast)
          rw [hkeys, ← Finset.add_sum_erase _ after hold, ← Finset.add_sum_erase _ before hold,
            hsame, hkey, hfirst, hcounted]
          simp only [Option.some_or, Option.elim_some, Option.getD_some]
          omega

end Totals

end MeshtasticLab.Foundation

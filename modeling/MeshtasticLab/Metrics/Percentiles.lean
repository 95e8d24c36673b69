/-
  Metrics/Percentiles.lean --- percentiles lie in the sample and grow with the
  proportion.

  WHAT THIS FILE IS FOR

  The interpolation of `percentile` is the polygon through the sorted sample.  A single
  value is a sample like any other: the polygon through it is constant.  So the
  percentile is monotone in the proportion and lies between the smallest and the
  largest value, and it depends on the values only as far as sorting keeps them apart.
-/
import MeshtasticLab.Foundation.Interpolation
import MeshtasticLab.Metrics.Calculations
import Mathlib.Data.List.Sort

set_option autoImplicit false

namespace MeshtasticLab.Metrics

open MeshtasticLab.Foundation

/-! ## The sorted sample -/

theorem pairwise_sorted (values : List ℚ) : (sorted values).Pairwise (· ≤ ·) :=
  List.pairwise_mergeSort' (· ≤ ·) values

theorem sorted_perm (values : List ℚ) : (sorted values).Perm values :=
  List.mergeSort_perm values _

/-- Sorting forgets the order of the values. -/
theorem sorted_congr {values other : List ℚ} (h : other.Perm values) :
    sorted other = sorted values :=
  ((sorted_perm other).trans (h.trans (sorted_perm values).symm)).eq_of_pairwise
    (fun _ _ _ _ => le_antisymm) (pairwise_sorted other) (pairwise_sorted values)

/-- The members of the sample by position; past the end it stays at the last one. -/
def sample (ordered : List ℚ) (i : Nat) : ℚ := ordered.getD (min i (ordered.length - 1)) 0

theorem getElem?_sample {ordered : List ℚ} {i : Nat} (hi : i < ordered.length) :
    ordered[i]? = some (sample ordered i) := by
  unfold sample
  rw [min_eq_left (by omega), List.getD_eq_getElem?_getD, List.getElem?_eq_getElem hi]
  rfl

theorem sample_mem {ordered : List ℚ} (hne : ordered ≠ []) (i : Nat) :
    sample ordered i ∈ ordered := by
  have hlength := List.length_pos_iff.mpr hne
  have hbound : min i (ordered.length - 1) < ordered.length := by omega
  unfold sample
  rw [List.getD_eq_getElem?_getD, List.getElem?_eq_getElem hbound]
  exact List.getElem_mem hbound

theorem sample_mono {ordered : List ℚ} (hordered : ordered.Pairwise (· ≤ ·)) :
    Monotone (sample ordered) := by
  intro i j hij
  by_cases hne : ordered = []
  · subst hne
    exact le_refl _
  · have hlength := List.length_pos_iff.mpr hne
    have hfirst : min i (ordered.length - 1) < ordered.length := by omega
    have hsecond : min j (ordered.length - 1) < ordered.length := by omega
    unfold sample
    rw [List.getD_eq_getElem?_getD, List.getD_eq_getElem?_getD, List.getElem?_eq_getElem hfirst,
      List.getElem?_eq_getElem hsecond]
    rcases Nat.eq_or_lt_of_le (min_le_min_right (ordered.length - 1) hij) with hsame | hless
    · simp only [hsame, le_refl]
    · exact List.pairwise_iff_getElem.mp hordered _ _ hfirst hsecond hless

/-! ## Interpolation -/

/-- Inside the list the interpolation is the polygon through it. -/
theorem interpolate_eq_lerp {ordered : List ℚ} {position : ℚ} (hlow : 0 ≤ position)
    (hhigh : ⌈position⌉.toNat < ordered.length) :
    interpolate ordered position = .ok (some (lerp (sample ordered) position)) := by
  rw [Int.ceil_toNat] at hhigh
  have hle := Nat.floor_le_ceil position
  have hnext := Nat.ceil_le_floor_add_one position
  unfold interpolate
  dsimp only
  rw [Int.ceil_toNat, Int.floor_toNat, getElem?_sample hhigh, getElem?_sample (by omega)]
  dsimp only
  split
  · next hsame =>
      have hinteger : position = (⌊position⌋₊ : ℚ) :=
        le_antisymm (hsame ▸ Nat.le_ceil position) (Nat.floor_le hlow)
      rw [lerp_of_floor hinteger]
  · next hdifferent =>
      have hupper : ⌈position⌉₊ = ⌊position⌋₊ + 1 := by omega
      rw [hupper]
      rfl

/-- The position of a proportion in a sample of this length. -/
theorem position_mem {length : Nat} {proportion : ℚ} (hlength : 0 < length)
    (hlow : 0 ≤ proportion) (hhigh : proportion ≤ 1) :
    0 ≤ ((length : ℚ) - 1) * proportion ∧
      ((length : ℚ) - 1) * proportion ≤ ((length - 1 : Nat) : ℚ) := by
  have hlast : ((length - 1 : Nat) : ℚ) = (length : ℚ) - 1 := by
    rw [Nat.cast_sub hlength, Nat.cast_one]
  have hnonneg : (0 : ℚ) ≤ (length : ℚ) - 1 := hlast ▸ Nat.cast_nonneg _
  rw [hlast]
  exact ⟨mul_nonneg hnonneg hlow, mul_le_of_le_one_right hnonneg hhigh⟩

/-- The ceiling of that position is a position. -/
theorem ceil_position_lt {length : Nat} {proportion : ℚ} (hlength : 0 < length)
    (hlow : 0 ≤ proportion) (hhigh : proportion ≤ 1) :
    ⌈((length : ℚ) - 1) * proportion⌉.toNat < length := by
  have hceil := Nat.ceil_le.mpr (position_mem hlength hlow hhigh).2
  rw [Int.ceil_toNat]
  omega

/-- The percentile of a sample that is large enough is the polygon through it. -/
theorem percentileOrdered_eq_lerp {ordered : List ℚ} {proportion : ℚ} {minimumSamples : Nat}
    (hne : ordered ≠ []) (henough : minimumSamples ≤ ordered.length) (hlow : 0 ≤ proportion)
    (hhigh : proportion ≤ 1) :
    percentileOrdered ordered proportion minimumSamples =
      .ok (some (lerp (sample ordered) ((ordered.length - 1) * proportion))) := by
  have hlength := List.length_pos_iff.mpr hne
  unfold percentileOrdered
  rw [if_neg (not_lt.mpr henough), if_neg (not_not.mpr ⟨hlow, hhigh⟩)]
  split
  · next only =>
      have hzero : (([only] : List ℚ).length - 1 : ℚ) * proportion = ((0 : Nat) : ℚ) := by simp
      rw [hzero, lerp_natCast]
      rfl
  · exact interpolate_eq_lerp (position_mem hlength hlow hhigh).1
      (ceil_position_lt hlength hlow hhigh)

/-! ## Order -/

/-- A larger proportion has no smaller percentile. -/
theorem lerp_sample_mono {ordered : List ℚ} (hordered : ordered.Pairwise (· ≤ ·))
    (hne : ordered ≠ []) {p q : ℚ} (hlow : 0 ≤ p) (hle : p ≤ q) (hhigh : q ≤ 1) :
    lerp (sample ordered) ((ordered.length - 1) * p) ≤
      lerp (sample ordered) ((ordered.length - 1) * q) := by
  have hlength := List.length_pos_iff.mpr hne
  have hlast : (0 : ℚ) ≤ (ordered.length : ℚ) - 1 := by
    have hone : (1 : ℚ) ≤ (ordered.length : ℚ) := by exact_mod_cast hlength
    linarith
  exact lerp_mono (sample_mono hordered) (position_mem hlength hlow (hle.trans hhigh)).1
    (mul_le_mul_of_nonneg_left hle hlast)

/-- The percentile lies between the bounds of the sample. -/
theorem lerp_sample_mem {ordered : List ℚ} (hordered : ordered.Pairwise (· ≤ ·))
    (hne : ordered ≠ []) {p : ℚ} (hlow : 0 ≤ p) (hhigh : p ≤ 1) :
    (∀ least, (∀ value ∈ ordered, least ≤ value) →
        least ≤ lerp (sample ordered) ((ordered.length - 1) * p)) ∧
      ∀ greatest, (∀ value ∈ ordered, value ≤ greatest) →
        lerp (sample ordered) ((ordered.length - 1) * p) ≤ greatest := by
  obtain ⟨hzero, hlast⟩ := position_mem (List.length_pos_iff.mpr hne) hlow hhigh
  obtain ⟨hfirst, hfinal⟩ := lerp_mem (sample_mono hordered) hzero hlast
  exact ⟨fun least hleast => (hleast _ (sample_mem hne 0)).trans hfirst,
    fun greatest hgreatest => hfinal.trans (hgreatest _ (sample_mem hne _))⟩

/-- Of two reported percentiles of one sample the later one is no smaller. -/
theorem percentileOrdered_mono {values : List ℚ} {p q low high : ℚ} {few many : Nat}
    (hzero : 0 ≤ p) (hle : p ≤ q) (hone : q ≤ 1) (hfew : 0 < few) (hmany : 0 < many)
    (hlow : percentileOrdered (sorted values) p few = .ok (some low))
    (hhigh : percentileOrdered (sorted values) q many = .ok (some high)) : low ≤ high := by
  have henough : ∀ {proportion value : ℚ} {least : Nat}, 0 < least →
      percentileOrdered (sorted values) proportion least = .ok (some value) →
        least ≤ (sorted values).length ∧ sorted values ≠ [] := by
    intro proportion value least hleast hreported
    have hlength : least ≤ (sorted values).length := by
      by_contra hshort
      unfold percentileOrdered at hreported
      rw [if_pos (not_le.mp hshort)] at hreported
      cases hreported
    exact ⟨hlength, List.length_pos_iff.mp (hleast.trans_le hlength)⟩
  obtain ⟨hlengthLow, hne⟩ := henough hfew hlow
  obtain ⟨hlengthHigh, _⟩ := henough hmany hhigh
  rw [percentileOrdered_eq_lerp hne hlengthLow hzero (hle.trans hone)] at hlow
  rw [percentileOrdered_eq_lerp hne hlengthHigh (hzero.trans hle) hone] at hhigh
  obtain rfl := Option.some.inj (Except.ok.inj hlow)
  obtain rfl := Option.some.inj (Except.ok.inj hhigh)
  exact lerp_sample_mono (pairwise_sorted values) hne hzero hle hone

/-- The percentiles that the calculation reports are ordered. -/
theorem reported_percentiles_ordered {input : MetricsInput} {metrics : MetricsSnapshot}
    (h : calculateMetrics input = .ok metrics) :
    (∀ median p95, metrics.medianLatencyMs = some median → metrics.p95LatencyMs = some p95 →
        median ≤ p95) ∧
      ∀ p95 p99, metrics.p95LatencyMs = some p95 → metrics.p99LatencyMs = some p99 →
        p95 ≤ p99 := by
  cases hairtime : input.resolvedAirtime with
  | error message =>
      unfold calculateMetrics at h
      rw [hairtime] at h
      cases h
  | ok perNodeAirtimeMs =>
      obtain ⟨median, p95, p99, hmedian, hp95, hp99, hmetrics⟩ := calculateMetrics_ok hairtime
      rw [h] at hmetrics
      obtain rfl := Except.ok.inj hmetrics
      constructor
      · rintro low high rfl rfl
        exact percentileOrdered_mono (by norm_num) (by norm_num) (by norm_num) (by decide)
          (by decide) hmedian hp95
      · rintro low high rfl rfl
        exact percentileOrdered_mono (by norm_num) (by norm_num) (by norm_num) (by decide)
          (by decide) hp95 hp99

/-- For every sample and all proportions between zero and one the percentile is between the
bounds of the sample, grows with the proportion, does not depend on the order of the values,
looks only at positions inside the list and is that of the sorted list; the percentiles that
`calculate_metrics` reports are in order. -/
theorem percentile_well_behaved (values : List ℚ) (hne : values ≠ []) (p q : ℚ) (hzero : 0 ≤ p)
    (hle : p ≤ q) (hone : q ≤ 1) :
    (∃ low high, percentile values p = .ok (some low) ∧ percentile values q = .ok (some high) ∧
      low ≤ high ∧ (∀ least, (∀ value ∈ values, least ≤ value) → least ≤ low) ∧
      ∀ greatest, (∀ value ∈ values, value ≤ greatest) → low ≤ greatest) ∧
    (∀ other, other.Perm values → percentile other p = percentile values p) ∧
    (0 ≤ ⌊((values.length : ℚ) - 1) * p⌋ ∧
      ⌈((values.length : ℚ) - 1) * p⌉ < values.length) ∧
    percentile values p = percentileOrdered (sorted values) p ∧
    ∀ (input : MetricsInput) (metrics : MetricsSnapshot), calculateMetrics input = .ok metrics →
      (∀ median p95, metrics.medianLatencyMs = some median → metrics.p95LatencyMs = some p95 →
        median ≤ p95) ∧
      ∀ p95 p99, metrics.p95LatencyMs = some p95 → metrics.p99LatencyMs = some p99 →
        p95 ≤ p99 := by
  have hlength : 0 < values.length := List.length_pos_iff.mpr hne
  have hsorted : sorted values ≠ [] := by
    rw [← List.length_pos_iff, length_sorted]
    exact hlength
  have henough : 1 ≤ (sorted values).length := List.length_pos_iff.mpr hsorted
  have hvalue : ∀ proportion, 0 ≤ proportion → proportion ≤ 1 → percentile values proportion =
      .ok (some (lerp (sample (sorted values)) (((sorted values).length - 1) * proportion))) :=
    fun proportion hlow hhigh => (percentile_eq_percentileOrdered _ _ _).trans
      (percentileOrdered_eq_lerp hsorted henough hlow hhigh)
  have hone' := hle.trans hone
  obtain ⟨hleast, hgreatest⟩ := lerp_sample_mem (pairwise_sorted values) hsorted hzero hone'
  refine ⟨⟨_, _, hvalue p hzero hone', hvalue q (hzero.trans hle) hone, ?_, ?_, ?_⟩, ?_, ?_,
    percentile_eq_percentileOrdered _ _ _, fun input metrics => reported_percentiles_ordered⟩
  · exact lerp_sample_mono (pairwise_sorted values) hsorted hzero hle hone
  · exact fun least hbound => hleast least fun value hmember =>
      hbound value ((sorted_perm values).mem_iff.mp hmember)
  · exact fun greatest hbound => hgreatest greatest fun value hmember =>
      hbound value ((sorted_perm values).mem_iff.mp hmember)
  · intro other hperm
    rw [percentile_eq_percentileOrdered, percentile_eq_percentileOrdered, sorted_congr hperm]
  · have hposition := position_mem hlength hzero hone'
    have hceil := ceil_position_lt hlength hzero hone'
    exact ⟨Int.floor_nonneg.mpr hposition.1, by omega⟩

/-- Two values in the wrong order, at a quarter and at three quarters. -/
theorem percentile_of_two :
    (∃ low high, percentile [4, 2] (1 / 4) = .ok (some low) ∧
      percentile [4, 2] (3 / 4) = .ok (some high) ∧ low ≤ high ∧
      (∀ least, (∀ value ∈ [(4 : ℚ), 2], least ≤ value) → least ≤ low) ∧
      ∀ greatest, (∀ value ∈ [(4 : ℚ), 2], value ≤ greatest) → low ≤ greatest) :=
  (percentile_well_behaved [4, 2] (by decide) (1 / 4) (3 / 4) (by norm_num) (by norm_num)
    (by norm_num)).1

end MeshtasticLab.Metrics

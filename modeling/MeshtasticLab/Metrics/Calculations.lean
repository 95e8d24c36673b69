/-
  Metrics/Calculations.lean --- the metric calculations behind live and persisted
  results.

  Embeds `backend/app/metrics/calculations.py`, with floating-point arithmetic
  read as exact.  A keyword argument with a default is a field with a default of
  `MetricsInput`.
-/
import MeshtasticLab.Foundation.Dict
import Mathlib.Data.Finset.Card
import Mathlib.Data.Rat.Floor
import Mathlib.Tactic.Linarith

set_option autoImplicit false

namespace MeshtasticLab.Metrics

open MeshtasticLab.Foundation

/-- `_MetricsBase`, which is also `MetricsSummary`. -/
structure MetricsSummary where
  generatedApplicationMessages : Nat
  uniqueApplicationMessagesDelivered : Nat
  deliveryRatio : Option ℚ
  receiverDeliveries : Nat
  receiverDeliveryRatio : Option ℚ
  acknowledgmentSuccessRatio : Option ℚ
  medianLatencyMs : Option ℚ
  p95LatencyMs : Option ℚ
  p99LatencyMs : Option ℚ
  rfTransmissions : Nat
  rfTransmissionsPerDelivery : Option ℚ
  relayTransmissions : Nat
  duplicateReceptions : Nat
  failedReceptions : Nat
  dropsByReason : Dict String Nat
  observedAirtimeMs : Nat
  perNodeTransmitCounts : Dict String Nat
  perNodeAirtimeMs : Dict String Nat
  eventLoopLagMs : Option ℚ
  deriving DecidableEq

/-- `MetricsSnapshot`. -/
structure MetricsSnapshot extends MetricsSummary where
  receiversPerBroadcast : Dict String Nat
  deriving DecidableEq

/-! ## Percentiles -/

/-- The interpolation of `_percentile_ordered` between two neighbouring samples,
which it looks up by position. -/
def interpolate (ordered : List ℚ) (position : ℚ) : Except String (Option ℚ) :=
  let lower := ⌊position⌋.toNat
  let upper := ⌈position⌉.toNat
  match ordered[lower]?, ordered[upper]? with
  | some low, some high =>
      if lower = upper then .ok (some low)
      else .ok (some (low + (high - low) * (position - lower)))
  | _, _ => .error "list index out of range"

/-- `_percentile_ordered`. -/
def percentileOrdered (ordered : List ℚ) (proportion : ℚ) (minimumSamples : Nat := 1) :
    Except String (Option ℚ) :=
  if ordered.length < minimumSamples then .ok none
  else if ¬(0 ≤ proportion ∧ proportion ≤ 1) then
    .error "percentile proportion must be between zero and one"
  else
    match ordered with
    | [only] => .ok (some only)
    | _ => interpolate ordered ((ordered.length - 1) * proportion)

/-- `sorted(values)`. -/
def sorted (values : List ℚ) : List ℚ := values.mergeSort fun a b => decide (a ≤ b)

/-- `percentile`, which repeats the body of `_percentile_ordered`. -/
def percentile (values : List ℚ) (proportion : ℚ) (minimumSamples : Nat := 1) :
    Except String (Option ℚ) :=
  if values.length < minimumSamples then .ok none
  else if ¬(0 ≤ proportion ∧ proportion ≤ 1) then
    .error "percentile proportion must be between zero and one"
  else
    match sorted values with
    | [only] => .ok (some only)
    | ordered => interpolate ordered ((ordered.length - 1) * proportion)

theorem length_sorted (values : List ℚ) : (sorted values).length = values.length :=
  List.length_mergeSort values

/-- The two bodies do the same on the sorted list. -/
theorem percentile_eq_percentileOrdered (values : List ℚ) (proportion : ℚ)
    (minimumSamples : Nat) : percentile values proportion minimumSamples =
      percentileOrdered (sorted values) proportion minimumSamples := by
  unfold percentile percentileOrdered
  rw [← length_sorted values]
  rcases sorted values with _ | ⟨first, _ | ⟨second, rest⟩⟩ <;> rfl

/-! ## The metrics -/

/-- The arguments of `calculate_metrics`. -/
structure MetricsInput where
  generated : Nat
  deliveredIds : Finset (String × Nat)
  deliveredCount : Option Nat := none
  acknowledged : Nat
  acknowledgmentExpected : Nat
  latenciesMs : List ℚ
  rfTransmitters : List String
  relayTransmissions : Nat
  duplicateReceptions : Nat
  failedReceptions : Nat
  dropReasons : List String
  airtimesMs : List Nat
  eventLoopLagMs : Option ℚ := none
  receiverDeliveries : Option Nat := none
  receiverDeliveryOpportunities : Option Nat := none
  receiversPerBroadcast : Dict String Nat := ∅
  rfTransmissionCount : Option Nat := none
  observedAirtimeMs : Option Nat := none
  perNodeTransmitCounts : Option (Dict String Nat) := none
  perNodeAirtimeMs : Option (Dict String Nat) := none
  dropsByReason : Option (Dict String Nat) := none

/-- A quotient of counts, absent when there is nothing to divide by. -/
def ratio (part whole : Nat) : Option ℚ :=
  if whole = 0 then none else some ((part : ℚ) / whole)

/-- The airtime by transmitter; the strict `zip` raises on lists of different
lengths. -/
def airtimeByTransmitter (rfTransmitters : List String) (airtimesMs : List Nat) :
    Except String (Dict String Nat) :=
  if airtimesMs.length < rfTransmitters.length then
    .error "zip() argument 2 is shorter than argument 1"
  else if rfTransmitters.length < airtimesMs.length then
    .error "zip() argument 2 is longer than argument 1"
  else .ok (Dict.tally (rfTransmitters.zip airtimesMs))

namespace MetricsInput

/-- `delivered` in `calculate_metrics`. -/
def delivered (input : MetricsInput) : Nat := input.deliveredCount.getD input.deliveredIds.card

/-- `rf_count` in `calculate_metrics`. -/
def rfCount (input : MetricsInput) : Nat :=
  input.rfTransmissionCount.getD input.rfTransmitters.length

/-- The snapshot that `calculate_metrics` returns, from the airtime by transmitter
and the percentiles. -/
def snapshot (input : MetricsInput) (perNodeAirtimeMs : Dict String Nat)
    (median p95 p99 : Option ℚ) : MetricsSnapshot where
  generatedApplicationMessages := input.generated
  uniqueApplicationMessagesDelivered := input.delivered
  deliveryRatio := ratio input.delivered input.generated
  receiverDeliveries := input.receiverDeliveries.getD input.delivered
  receiverDeliveryRatio :=
    ratio (input.receiverDeliveries.getD input.delivered)
      (input.receiverDeliveryOpportunities.getD input.generated)
  receiversPerBroadcast := input.receiversPerBroadcast
  acknowledgmentSuccessRatio := ratio input.acknowledged input.acknowledgmentExpected
  medianLatencyMs := median
  p95LatencyMs := p95
  p99LatencyMs := p99
  rfTransmissions := input.rfCount
  rfTransmissionsPerDelivery := ratio input.rfCount input.delivered
  relayTransmissions := input.relayTransmissions
  duplicateReceptions := input.duplicateReceptions
  failedReceptions := input.failedReceptions
  dropsByReason := input.dropsByReason.getD (Dict.countOf input.dropReasons)
  observedAirtimeMs := input.observedAirtimeMs.getD input.airtimesMs.sum
  perNodeTransmitCounts :=
    input.perNodeTransmitCounts.getD (Dict.countOf input.rfTransmitters)
  perNodeAirtimeMs := perNodeAirtimeMs
  eventLoopLagMs := input.eventLoopLagMs

/-- `per_node_airtime_ms` in `calculate_metrics`. -/
def resolvedAirtime (input : MetricsInput) : Except String (Dict String Nat) :=
  match input.perNodeAirtimeMs with
  | some given => .ok given
  | none => airtimeByTransmitter input.rfTransmitters input.airtimesMs

end MetricsInput

/-- `calculate_metrics`. -/
def calculateMetrics (input : MetricsInput) : Except String MetricsSnapshot := do
  let perNodeAirtimeMs ← input.resolvedAirtime
  let orderedLatencies := sorted input.latenciesMs
  let median ← percentileOrdered orderedLatencies (1 / 2)
  let p95 ← percentileOrdered orderedLatencies (95 / 100) 20
  let p99 ← percentileOrdered orderedLatencies (99 / 100) 100
  return input.snapshot perNodeAirtimeMs median p95 p99

/-! ## When the calculation raises -/

/-- A position inside the list is interpolated. -/
theorem interpolate_ok (ordered : List ℚ) {position : ℚ}
    (hhigh : position ≤ ((ordered.length - 1 : Nat) : ℚ)) (hnonempty : 0 < ordered.length) :
    ∃ value, interpolate ordered position = .ok (some value) := by
  have hupper : ⌈position⌉.toNat < ordered.length := by
    have hceil : ⌈position⌉ ≤ ((ordered.length - 1 : Nat) : Int) :=
      Int.ceil_le.mpr (by exact_mod_cast hhigh)
    omega
  have hlower : ⌊position⌋.toNat < ordered.length := by
    have hfloor : ⌊position⌋ ≤ ⌈position⌉ := Int.floor_le_ceil position
    omega
  unfold interpolate
  simp only [List.getElem?_eq_getElem hupper, List.getElem?_eq_getElem hlower]
  split
  · exact ⟨_, rfl⟩
  · exact ⟨_, rfl⟩

/-- A proportion between zero and one never raises. -/
theorem percentileOrdered_ok (ordered : List ℚ) (proportion : ℚ) (minimumSamples : Nat)
    (hlow : 0 ≤ proportion) (hhigh : proportion ≤ 1) (hminimum : 0 < minimumSamples) :
    ∃ value, percentileOrdered ordered proportion minimumSamples = .ok value := by
  unfold percentileOrdered
  split
  · exact ⟨none, rfl⟩
  · next henough =>
      rw [if_neg (not_not.mpr ⟨hlow, hhigh⟩)]
      have hlength : 0 < ordered.length := by omega
      have hlast : ((ordered.length : ℚ) - 1) = ((ordered.length - 1 : Nat) : ℚ) := by
        rw [Nat.cast_sub hlength, Nat.cast_one]
      split
      · exact ⟨_, rfl⟩
      · rw [hlast]
        have hnonneg : (0 : ℚ) ≤ ((ordered.length - 1 : Nat) : ℚ) := Nat.cast_nonneg _
        obtain ⟨value, hvalue⟩ := interpolate_ok ordered
          (mul_le_of_le_one_right hnonneg hhigh) hlength
        exact ⟨some value, hvalue⟩

/-- The strict `zip` accepts lists of equal length. -/
theorem airtimeByTransmitter_ok {rfTransmitters : List String} {airtimesMs : List Nat}
    (hlength : rfTransmitters.length = airtimesMs.length) :
    airtimeByTransmitter rfTransmitters airtimesMs =
      .ok (Dict.tally (rfTransmitters.zip airtimesMs)) := by
  unfold airtimeByTransmitter
  rw [if_neg (by omega), if_neg (by omega)]

/-- With an airtime by transmitter, the calculation returns the snapshot with the
percentiles of the latencies. -/
theorem calculateMetrics_ok {input : MetricsInput} {perNodeAirtimeMs : Dict String Nat}
    (hairtime : input.resolvedAirtime = .ok perNodeAirtimeMs) :
    ∃ median p95 p99,
      percentileOrdered (sorted input.latenciesMs) (1 / 2) = .ok median ∧
      percentileOrdered (sorted input.latenciesMs) (95 / 100) 20 = .ok p95 ∧
      percentileOrdered (sorted input.latenciesMs) (99 / 100) 100 = .ok p99 ∧
      calculateMetrics input = .ok (input.snapshot perNodeAirtimeMs median p95 p99) := by
  obtain ⟨median, hmedian⟩ := percentileOrdered_ok (sorted input.latenciesMs)
    (1 / 2) 1 (by norm_num) (by norm_num) (by decide)
  obtain ⟨p95, hp95⟩ := percentileOrdered_ok (sorted input.latenciesMs)
    (95 / 100) 20 (by norm_num) (by norm_num) (by decide)
  obtain ⟨p99, hp99⟩ := percentileOrdered_ok (sorted input.latenciesMs)
    (99 / 100) 100 (by norm_num) (by norm_num) (by decide)
  refine ⟨median, p95, p99, hmedian, hp95, hp99, ?_⟩
  unfold calculateMetrics
  rw [hairtime]
  simp only [hmedian, hp95, hp99, bind, Except.bind, pure, Except.pure]

/-- What the calculation returns is a snapshot of its input. -/
theorem snapshot_of_calculateMetrics {input : MetricsInput} {metrics : MetricsSnapshot}
    (h : calculateMetrics input = .ok metrics) :
    ∃ perNodeAirtimeMs median p95 p99,
      metrics = input.snapshot perNodeAirtimeMs median p95 p99 := by
  cases hairtime : input.resolvedAirtime with
  | error message =>
      unfold calculateMetrics at h
      rw [hairtime] at h
      cases h
  | ok perNodeAirtimeMs =>
      obtain ⟨median, p95, p99, _, _, _, hmetrics⟩ := calculateMetrics_ok hairtime
      rw [h] at hmetrics
      exact ⟨perNodeAirtimeMs, median, p95, p99, Except.ok.inj hmetrics⟩

end MeshtasticLab.Metrics

/-
  Traffic/Cursors.lean --- the cursors of a request and their ranks.

  WHAT THIS FILE IS FOR

  A request that `start` accepts has distinct cursors, the due times of a cursor
  grow with its ticks, and no two cursors share a rank.  The messages of all cursors
  add up to `_maximum_sequence`, and a cursor has a message for every tick that
  falls due before the end of the run.
-/
import MeshtasticLab.Traffic.Schedule
import Mathlib.Data.Rat.Cast.Order
import Mathlib.Data.Set.Card
import Mathlib.Tactic.Linarith
import Mathlib.Tactic.Positivity
import Mathlib.Tactic.FieldSimp

set_option autoImplicit false

namespace MeshtasticLab.Traffic

open MeshtasticLab.Foundation

/-- The ticks of a source at this rate that fall before the end of the run. -/
def ticksBefore (durationSeconds messagesPerMinute : ℚ) : Set ℕ :=
  { tick | tick * (60 / messagesPerMinute) < durationSeconds }

/-- A tick falls before the end of the run when its number is below the offered
messages. -/
theorem mem_ticksBefore {durationSeconds messagesPerMinute : ℚ}
    (hrate : 0 < messagesPerMinute) {tick : ℕ} :
    tick ∈ ticksBefore durationSeconds messagesPerMinute ↔
      tick < ⌈durationSeconds * messagesPerMinute / 60⌉.toNat := by
  have hscaled : tick * (60 / messagesPerMinute) < durationSeconds ↔
      (tick : ℚ) < durationSeconds * messagesPerMinute / 60 := by
    rw [← mul_div_assoc, div_lt_iff₀ hrate, lt_div_iff₀ (by norm_num)]
  change tick * (60 / messagesPerMinute) < durationSeconds ↔ _
  rw [hscaled, Int.lt_toNat, Int.lt_ceil]
  simp

/-- `_messages_per_source` is the number of ticks before the end of the run. -/
theorem ncard_ticksBefore {durationSeconds messagesPerMinute : ℚ} (hduration : 0 < durationSeconds)
    (hrate : 0 < messagesPerMinute) : (ticksBefore durationSeconds messagesPerMinute).ncard =
      TrafficRunRequest.messagesPerSource durationSeconds messagesPerMinute := by
  have hoffered : 1 ≤ ⌈durationSeconds * messagesPerMinute / 60⌉.toNat := by
    have hpositive : 0 < ⌈durationSeconds * messagesPerMinute / 60⌉ :=
      Int.ceil_pos.mpr (by positivity)
    omega
  have hset : ticksBefore durationSeconds messagesPerMinute =
      ↑(Finset.range ⌈durationSeconds * messagesPerMinute / 60⌉.toNat) := by
    ext tick
    rw [mem_ticksBefore hrate, Finset.coe_range, Set.mem_Iio]
  rw [hset, Set.ncard_coe_finset, Finset.card_range]
  exact (max_eq_right hoffered).symm

namespace TrafficRunRequest

variable {request : TrafficRunRequest} {R : Randomness}

/-- What the schedule of an accepted request rests on. -/
structure Scheduled (request : TrafficRunRequest) : Prop where
  duration : 0 < request.durationSeconds
  flows : request.schedulingFlows ≠ []
  sources : ∀ flow ∈ request.schedulingFlows, flow.sourceNodes ≠ []
  rates : ∀ flow ∈ request.schedulingFlows, 0 < flow.messagesPerMinute
  distinct : ∀ flow ∈ request.schedulingFlows, flow.sourceNodes.Nodup
  bounded : request.maximumSequence ≤ MAX_TRAFFIC_MESSAGES_PER_RUN

theorem WellFormed.scheduled (h : request.WellFormed) {known : List String}
    (hvalid : request.validateRequestNodes known request.schedulingFlows = .ok ())
    (hbounded : request.maximumSequence ≤ MAX_TRAFFIC_MESSAGES_PER_RUN) : request.Scheduled where
  duration := h.durationSeconds.1
  flows := h.schedulingFlows.1
  sources flow hflow := (h.schedulingFlows.2 flow hflow).1
  rates flow hflow := (h.schedulingFlows.2 flow hflow).2
  distinct _ hflow := sourceNodes_nodup (validateFlowNodes_of_mem hvalid hflow)
  bounded := hbounded

theorem mem_cursors {key : Nat × String} : key ∈ request.cursors ↔
    ∃ flow, request.schedulingFlows[key.1]? = some flow ∧ key.2 ∈ flow.sourceNodes := by
  obtain ⟨index, source⟩ := key
  unfold cursors
  rw [List.mem_flatMap]
  constructor
  · rintro ⟨⟨flow, place⟩, hflow, hsource⟩
    obtain ⟨_, hmember, heq⟩ := List.mem_map.mp hsource
    cases heq
    exact ⟨flow, List.mem_zipIdx_iff_getElem?.mp hflow, hmember⟩
  · rintro ⟨flow, hflow, hmember⟩
    exact ⟨(flow, index), List.mem_zipIdx_iff_getElem?.mpr hflow,
      List.mem_map.mpr ⟨source, hmember, rfl⟩⟩

theorem Scheduled.nodup_cursors (h : request.Scheduled) : request.cursors.Nodup := by
  unfold cursors
  rw [List.nodup_flatMap]
  constructor
  · rintro ⟨flow, index⟩ hflow
    refine List.Nodup.map (fun a b heq => (Prod.mk.inj heq).2) (h.distinct flow ?_)
    exact List.mem_of_getElem? (List.mem_zipIdx_iff_getElem?.mp hflow)
  · have hindices : (request.schedulingFlows.zipIdx.map Prod.snd).Nodup := by
      rw [List.zipIdx_map_snd]
      exact List.nodup_range'
    refine (List.pairwise_map.mp hindices).imp ?_
    rintro ⟨flow, index⟩ ⟨flow', index'⟩ hne
    rw [Function.onFun, List.disjoint_left]
    rintro ⟨place, source⟩ ha hb
    obtain ⟨_, _, heq⟩ := List.mem_map.mp ha
    obtain ⟨_, _, heq'⟩ := List.mem_map.mp hb
    exact hne ((Prod.mk.inj heq).1.trans (Prod.mk.inj heq').1.symm)

/-- The messages of all cursors add up to `_maximum_sequence`. -/
theorem sum_cursorMessages (request : TrafficRunRequest) :
    (request.cursors.map request.cursorMessages).sum = request.maximumSequence := by
  unfold cursors maximumSequence
  rw [List.map_flatMap, List.flatMap_def, List.sum_flatten, List.map_map]
  have hentry : ∀ entry ∈ request.schedulingFlows.zipIdx,
      (List.sum ∘ fun entry : TrafficFlow × Nat =>
        (entry.1.sourceNodes.map fun source => (entry.2, source)).map
          request.cursorMessages) entry =
        entry.1.sourceNodes.length * request.messagesPerFlow entry.1 := by
    rintro ⟨flow, index⟩ hentry
    have hflow := List.mem_zipIdx_iff_getElem?.mp hentry
    have hmessages : ∀ source, request.cursorMessages (index, source) =
        request.messagesPerFlow flow := by
      intro source
      unfold cursorMessages
      rw [hflow]
    simp [Function.comp_def, hmessages]
  rw [List.map_congr_left hentry]
  have hsplit : request.schedulingFlows.zipIdx.map (fun entry =>
      entry.1.sourceNodes.length * request.messagesPerFlow entry.1) =
      (request.schedulingFlows.zipIdx.map Prod.fst).map fun flow =>
        flow.sourceNodes.length * request.messagesPerFlow flow := by
    rw [List.map_map]
    rfl
  rw [hsplit, List.zipIdx_map_fst]

theorem cursorMessages_pos {key : Nat × String} (hkey : key ∈ request.cursors) :
    0 < request.cursorMessages key := by
  obtain ⟨flow, hflow, _⟩ := mem_cursors.mp hkey
  unfold cursorMessages
  rw [hflow]
  exact Nat.lt_of_lt_of_le Nat.zero_lt_one (Nat.le_max_left 1 _)

theorem Scheduled.cursors_ne_nil (h : request.Scheduled) : request.cursors ≠ [] := by
  intro hnil
  obtain ⟨flow, hflow⟩ := List.exists_mem_of_ne_nil _ h.flows
  obtain ⟨source, hsource⟩ := List.exists_mem_of_ne_nil _ (h.sources flow hflow)
  obtain ⟨index, hindex⟩ := List.mem_iff_getElem?.mp hflow
  have hkey : (index, source) ∈ request.cursors := mem_cursors.mpr ⟨flow, hindex, hsource⟩
  rw [hnil] at hkey
  cases hkey

theorem TrafficFlow.interval_pos {flow : TrafficFlow} (h : 0 < flow.messagesPerMinute) :
    0 < flow.interval :=
  div_pos (by norm_num) h

/-- The due times of a source grow. -/
theorem strictMono_due (R : Randomness) (seed : Int) {flow : TrafficFlow}
    (h : 0 < flow.messagesPerMinute) (source : String) :
    StrictMono (flow.due R seed source) := by
  intro a b hlt
  have hinterval := TrafficFlow.interval_pos h
  have hticks : (a : ℚ) < b := by exact_mod_cast hlt
  have hscaled := mul_lt_mul_of_pos_right hticks hinterval
  unfold TrafficFlow.due
  linarith

/-- The ranks of a cursor grow, and no two cursors share one. -/
theorem Scheduled.ranked (h : request.Scheduled) (R : Randomness) :
    Merge.Ranked request.cursors (request.rank R) where
  grows key hkey := by
    obtain ⟨flow, hflow, _⟩ := mem_cursors.mp hkey
    intro a b hlt
    refine Prod.Lex.toLex_lt_toLex.mpr (Or.inl ?_)
    unfold due
    rw [hflow]
    exact strictMono_due R _ (h.rates flow (List.mem_of_getElem? hflow)) key.2 hlt
  differs key hkey other hother tick tick' heq := by
    obtain ⟨flow, hflow, hsource⟩ := mem_cursors.mp hkey
    obtain ⟨flow', hflow', hsource'⟩ := mem_cursors.mp hother
    have hplaces : (key.1, request.position key) = (other.1, request.position other) :=
      congrArg ofLex (congrArg (fun r => (ofLex r).2) heq)
    obtain ⟨hindex, hposition⟩ := Prod.mk.inj hplaces
    rw [← hindex, hflow] at hflow'
    cases hflow'
    unfold position at hposition
    rw [← hindex, hflow] at hposition
    exact Prod.ext hindex ((List.idxOf_inj hsource).mp hposition)

end TrafficRunRequest

end MeshtasticLab.Traffic

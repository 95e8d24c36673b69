/-
  Experiments/WaitDeadline.lean --- how long the system bench waits for a run.

  Embeds `traffic_wait_deadline` of `experiments/run_system_bench.py`.  The bench
  bounds a run by its duration and the largest phase that a source may have; the
  scheduler counts the messages of a source and places them an interval apart from
  its offset.  No message is due after what the bench allows for.
-/
import MeshtasticLab.Traffic.MergedSchedule
import Mathlib.Algebra.Order.Field.Basic
import Mathlib.Tactic.Linarith

set_option autoImplicit false

namespace MeshtasticLab.Experiments

open MeshtasticLab.Foundation MeshtasticLab.Traffic

def TRAFFIC_WAIT_GRACE_SECONDS : ℚ := 30

/-- The bound on the offsets of the sources of a flow. -/
def phaseBound (flow : TrafficFlow) : ℚ :=
  if flow.sourceTiming = .aligned then 0 else 60 / flow.messagesPerMinute

/-- `maximum_phase_offset`, the largest bound over the flows. -/
def maximumPhaseOffset (request : TrafficRunRequest) : ℚ :=
  (request.schedulingFlows.map phaseBound).max?.getD 0

/-- `traffic_wait_deadline` of a request that passed its validation. -/
def trafficWaitDeadline (request : TrafficRunRequest) : ℚ :=
  request.durationSeconds + maximumPhaseOffset request + MAX_DRAIN_SECONDS +
    TRAFFIC_WAIT_GRACE_SECONDS

/-- `random()` answers in [0, 1). -/
def UnitInterval (R : Randomness) : Prop :=
  ∀ stream, 0 ≤ (R.random stream).1 ∧ (R.random stream).1 < 1

theorem phaseBound_le_maximum {request : TrafficRunRequest} {flow : TrafficFlow}
    (hflow : flow ∈ request.schedulingFlows) :
    phaseBound flow ≤ maximumPhaseOffset request := by
  unfold maximumPhaseOffset
  have hmember := List.mem_map_of_mem (f := phaseBound) hflow
  cases hmax : (request.schedulingFlows.map phaseBound).max? with
  | none => simp [List.max?_eq_none_iff.mp hmax] at hmember
  | some bound => exact (List.max?_eq_some_iff.mp hmax).2 _ hmember

/-! ## Offsets -/

theorem mem_jitter {R : Randomness} (hunit : UnitInterval R) {interval : ℚ}
    (hinterval : 0 < interval) {stream : R.Stream} {sources : List String}
    {entry : String × ℚ} (hentry : entry ∈ R.jitter interval stream sources) :
    entry.2 < interval := by
  induction sources generalizing stream with
  | nil => cases hentry
  | cons source rest ih =>
      rcases List.mem_cons.mp hentry with rfl | hrest
      · calc (R.random stream).1 * interval < 1 * interval :=
              mul_lt_mul_of_pos_right (hunit stream).2 hinterval
          _ = interval := one_mul _
      · exact ih hrest

/-- The offset of a source is at most the bound of its flow. -/
theorem offset_le_phaseBound {R : Randomness} (hunit : UnitInterval R) {flow : TrafficFlow}
    (hrate : 0 < flow.messagesPerMinute) (seed : Int) (source : String) :
    ((flow.sourceOffsets R seed).get? source).getD 0 ≤ phaseBound flow := by
  have hinterval : 0 < flow.interval := div_pos (by norm_num) hrate
  have hbound : 0 ≤ phaseBound flow := by
    unfold phaseBound
    split
    · exact le_rfl
    · exact hinterval.le
  cases hget : (flow.sourceOffsets R seed).get? source with
  | none => exact hbound
  | some offset =>
      unfold TrafficFlow.sourceOffsets Randomness.sourceOffsetsFor at hget
      unfold phaseBound
      cases htiming : flow.sourceTiming with
      | aligned =>
          rw [htiming] at hget
          rcases Dict.get?_update hget with hnone | hmember
          · cases hnone
          · obtain ⟨_, _, heq⟩ := List.mem_map.mp hmember
            cases heq
            exact le_rfl
      | evenlyStaggered =>
          rw [htiming] at hget
          rcases Dict.get?_update hget with hnone | hmember
          · cases hnone
          · obtain ⟨⟨_, index⟩, hindexed, heq⟩ := List.mem_map.mp hmember
            cases heq
            have hindex : index < flow.sourceNodes.length := by
              have := List.snd_lt_of_mem_zipIdx hindexed
              omega
            have hle : (index : ℚ) ≤ flow.sourceNodes.length := by exact_mod_cast hindex.le
            have hcount : (0 : ℚ) < flow.sourceNodes.length := by
              exact_mod_cast Nat.zero_lt_of_lt hindex
            refine (div_le_iff₀ hcount).mpr ?_
            calc (index : ℚ) * flow.interval ≤ flow.sourceNodes.length * flow.interval :=
                  mul_le_mul_of_nonneg_right hle hinterval.le
              _ = flow.interval * flow.sourceNodes.length := mul_comm _ _
      | deterministicJitter =>
          rw [htiming] at hget
          rcases Dict.get?_update hget with hnone | hmember
          · cases hnone
          · exact (mem_jitter hunit hinterval hmember).le

/-! ## Due times -/

/-- The last message of a source falls within the duration, counted from its first. -/
theorem tick_within_duration {durationSeconds messagesPerMinute : ℚ}
    (hduration : 0 < durationSeconds) (hrate : 0 < messagesPerMinute) {tick : Nat}
    (htick : tick < TrafficRunRequest.messagesPerSource durationSeconds messagesPerMinute) :
    tick * (60 / messagesPerMinute) < durationSeconds := by
  have hscaled : (tick : ℚ) < durationSeconds * messagesPerMinute / 60 := by
    rcases lt_max_iff.mp htick with hfirst | hceil
    · have hzero : tick = 0 := by omega
      subst hzero
      positivity
    · have := Int.lt_ceil.mp (Int.lt_toNat.mp hceil)
      exact_mod_cast this
  calc (tick : ℚ) * (60 / messagesPerMinute)
      < durationSeconds * messagesPerMinute / 60 * (60 / messagesPerMinute) :=
        mul_lt_mul_of_pos_right hscaled (div_pos (by norm_num) hrate)
    _ = durationSeconds := by field_simp

/-- Every message of a valid request is due before its duration and the largest phase of
its flows are over, so the longest drain after it ends before the deadline of the bench
less its grace. -/
theorem due_before_deadline (R : Randomness) (hunit : UnitInterval R)
    (request : TrafficRunRequest) (hrequest : request.WellFormed)
    {key : Nat × String} {tick : Nat}
    (hscheduled : (key, tick) ∈ Merge.ticks request.cursors request.cursorMessages) :
    request.due R key tick < request.durationSeconds + maximumPhaseOffset request ∧
      request.due R key tick + MAX_DRAIN_SECONDS <
        trafficWaitDeadline request - TRAFFIC_WAIT_GRACE_SECONDS := by
  obtain ⟨_, htick⟩ := Merge.mem_ticks.mp hscheduled
  have hdue : request.due R key tick <
      request.durationSeconds + maximumPhaseOffset request := by
    unfold TrafficRunRequest.cursorMessages at htick
    unfold TrafficRunRequest.due
    split at htick
    · cases htick
    · next flow hflow =>
        rw [hflow]
        have hmember := List.mem_of_getElem? hflow
        have hrate := (hrequest.schedulingFlows.2 flow hmember).2
        have hoffset := offset_le_phaseBound hunit hrate request.seed key.2
        have hphase := phaseBound_le_maximum hmember
        have hlast := tick_within_duration hrequest.durationSeconds.1 hrate htick
        dsimp only
        unfold TrafficFlow.due TrafficFlow.interval
        linarith
  refine ⟨hdue, ?_⟩
  unfold trafficWaitDeadline
  linarith

/-- One message within ten seconds, at a random place of an interval of a minute. -/
def rareMessage : TrafficRunRequest where
  sourceNodes := ["node-1"]
  messagesPerMinute := 1
  durationSeconds := 10
  sourceTiming := .deterministicJitter

theorem unitInterval_countingRandomness : UnitInterval ScheduledTasks.countingRandomness := by
  intro stream
  change (0 : ℚ) ≤ 1 / 2 ∧ (1 / 2 : ℚ) < 1
  norm_num

/-- The message is due after the duration and before the interval that the bench adds. -/
theorem rareMessage_before_deadline :
    rareMessage.due ScheduledTasks.countingRandomness (0, "node-1") 0 = 30 ∧
      trafficWaitDeadline rareMessage = 400 ∧
      rareMessage.due ScheduledTasks.countingRandomness (0, "node-1") 0 + MAX_DRAIN_SECONDS <
        trafficWaitDeadline rareMessage - TRAFFIC_WAIT_GRACE_SECONDS := by
  refine ⟨by decide +kernel, by decide +kernel, ?_⟩
  exact (due_before_deadline ScheduledTasks.countingRandomness unitInterval_countingRandomness
    rareMessage (by decide +kernel) (by decide +kernel)).2

end MeshtasticLab.Experiments

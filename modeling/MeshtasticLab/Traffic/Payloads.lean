/-
  Traffic/Payloads.lean --- the payloads of a run fit and decode.

  WHAT THIS FILE IS FOR

  `start` compares the size of a payload with the marker of one sequence, the
  largest that the run can reach; `_submit` compares it with the marker of every
  message.  A run never submits more messages than its request can schedule, so the
  second check always passes, and every payload that is sent decodes to the run id
  and the sequence of its message.
-/
import MeshtasticLab.Traffic.Addressing
import MeshtasticLab.Traffic.Markers

set_option autoImplicit false

namespace MeshtasticLab.Traffic

open MeshtasticLab.Foundation MeshtasticLab.Gateway MeshtasticLab.Metrics MeshtasticLab.Models
open TrafficController TrafficTasks

/-- A call of `start` that returns has found room for the longest marker. -/
theorem start_fits {c d : TrafficController} {m : Moment} {runId : String} {taskActive : Bool}
    {request : TrafficRunRequest} {scenarioSnapshot : Option Scenario}
    {baseline : Option FailedReceptionSample} {started : String}
    (hstart : c.start m runId taskActive request scenarioSnapshot baseline = (d, .ok started)) :
    (trafficMarker runId request.maximumSequence).length ≤ request.payloadBytes := by
  unfold TrafficController.start at hstart
  dsimp only at hstart
  split at hstart
  · cases hstart
  · split at hstart
    · cases hstart
    · split at hstart
      · cases hstart
      · split at hstart
        · cases hstart
        · next hfits => exact Nat.le_of_not_lt hfits

/-- The packet of `_submit` carries the padded marker of its message. -/
theorem submit_payload {pb : Protobuf} {c d : TrafficController} {m : Moment}
    {source destination name : String} {draws : List Nat} {ref : Nat} {packet : MeshPacket}
    {run : TrafficRunResult} (hcurrent : c.current = some run)
    (hsubmit : c.submit pb m source destination draws name =
      some (d, .ok (some (ref, packet)))) :
    (trafficMarker run.runId (c.accumulators.sequence + 1)).utf8ByteSize ≤
        run.request.payloadBytes ∧
      packet.decoded.payload = paddedMarker run.runId (c.accumulators.sequence + 1)
        (run.request.payloadBytes -
          (trafficMarker run.runId (c.accumulators.sequence + 1)).utf8ByteSize) := by
  unfold submit at hsubmit
  rw [hcurrent] at hsubmit
  dsimp only at hsubmit
  split at hsubmit
  · cases hsubmit
  · next hfits =>
      refine ⟨Nat.le_of_not_lt hfits, ?_⟩
      split at hsubmit
      · cases hsubmit
      · split at hsubmit
        · cases hsubmit
        · cases hsubmit
        · split at hsubmit
          · cases hsubmit
          · cases hsubmit
            rfl

/-- A payload that was sent, with the message it is of. -/
structure SentPayload where
  runId : String
  sequence : Nat
  payloadBytes : Nat
  payload : List UInt8

/-- The payload has the size asked for and decodes to its message. -/
structure SentPayload.Decodes (sent : SentPayload) : Prop where
  length : sent.payload.length = sent.payloadBytes
  identifier : parseIdentifier sent.payload = some (sent.runId, (sent.sequence : Int))

namespace ScheduledTasks

variable {R : Randomness} {pb : Protobuf}

/-- The payload that a step hands to `send_to_radio`. -/
def sentPayload (pb : Protobuf) (u : ScheduledTasks R) : Action → Option SentPayload
  | .run m (.submit flow source pick draws) => do
      let run ← u.tasks.controller.current
      let (source, destination, name) ← u.tasks.submission flow source pick
      match ← u.tasks.controller.submit pb m source destination draws name with
      | (_, .ok (some (_, packet))) =>
          some
            { runId := run.runId
              sequence := u.tasks.controller.accumulators.sequence + 1
              payloadBytes := run.request.payloadBytes
              payload := packet.decoded.payload }
      | _ => none
  | _ => none

/-- The history grows by the payload of each step. -/
def noteSent (pb : Protobuf) (sent : List SentPayload) (u : ScheduledTasks R × CallHistory)
    (a : Action) (_ : ScheduledTasks R × CallHistory) : List SentPayload :=
  sent ++ (sentPayload pb u.1 a).toList

/-- A request that is handed to `start` is an object of its type, and the id of the run is
the text of a random UUID. -/
def PlainStart (u : ScheduledTasks R × CallHistory) (a : Action) : Prop :=
  WellFormedStart u a ∧
    match a with
    | .start _ runId _ _ _ => PlainRunId runId
    | _ => True

/-- The current run is the one whose calls are remembered, and its longest marker fits. -/
def Fitting (s : ScheduledTasks R × CallHistory) : Prop :=
  ∀ runId request, s.1.tasks.controller.frame.request = some (runId, request) →
    s.2.request = some request ∧ PlainRunId runId ∧
      (trafficMarker runId request.maximumSequence).length ≤ request.payloadBytes

theorem noteCalls_request {h : CallHistory} {u v : ScheduledTasks R} {a : Action}
    (hstarts : a.starts = false) : (noteCalls h u a v).request = h.request := by
  unfold noteCalls
  split
  · cases hstarts
  · dsimp only
    split <;> rfl
  all_goals rfl

theorem Fitting.step {s t : ScheduledTasks R × CallHistory} (h : Fitting s)
    (hscheduling : Scheduling s) {a : Action} (hplain : PlainStart s a)
    (hstep : recorded (ScheduledTasks.step R pb) noteCalls s a = some t) : Fitting t := by
  obtain ⟨hstep, hnote⟩ := recorded_eq_some.mp hstep
  have htasks := tasks_step hstep
  cases hstarts : a.starts with
  | false =>
      obtain ⟨hrequest, _⟩ := step_identity pb hscheduling.sound.structured hstarts htasks
      unfold Fitting
      rw [hrequest, hnote, noteCalls_request hstarts]
      exact h
  | true =>
      cases a with
      | start m runId request scenarioSnapshot baseline =>
          unfold TrafficTasks.step at htasks
          dsimp only at htasks
          split at htasks
          · have hstarted := (Option.some.inj htasks).symm
            unfold started at hstarted
            split at hstarted
            · next c error hstart =>
                -- a call that raises keeps the run and its calls
                rcases start_cases False hstart with ⟨_, _, hbooks, _⟩ | ⟨hok, _⟩
                · have hrequest : c.frame.request = s.1.tasks.controller.frame.request :=
                    congrArg Frame.request hbooks.frame
                  have hkept : t.2 = s.2 := by
                    rw [hnote]
                    refine if_neg fun hboth => ?_
                    rw [hstarted] at hboth
                    exact absurd (hboth.1.symm.trans hboth.2) (by simp)
                  unfold Fitting
                  rw [hstarted, hkept]
                  unfold withController
                  rw [hrequest]
                  exact h
                · cases hok
            · next c outcome hstart =>
                obtain ⟨_, _, hidentity, _⟩ := start_accepts hstart
                rcases start_cases False hstart with ⟨_, hraised, _⟩ | ⟨_, hactive, _⟩
                · cases hraised
                · intro runId' request' hrequest
                  rw [hstarted] at hrequest
                  cases hidentity.symm.trans hrequest
                  refine ⟨?_, hplain.2, start_fits hstart⟩
                  rw [hnote]
                  unfold noteCalls
                  dsimp only
                  rw [if_pos ⟨by simpa using hactive, by rw [hstarted]⟩]
          · cases htasks
      | _ => cases hstarts

/-- While the run task sleeps the marker of the next message fits. -/
theorem Fitting.next {s : ScheduledTasks R × CallHistory} (h : Fitting s)
    (hscheduling : Scheduling s) (hsleeping : s.1.tasks.runTask = .sleeping)
    {run : TrafficRunResult} (hcurrent : s.1.tasks.controller.current = some run) :
    PlainRunId run.runId ∧
      s.1.tasks.controller.accumulators.sequence + 1 ≤ run.request.maximumSequence ∧
      run.request.maximumSequence ≤ MAX_TRAFFIC_MESSAGES_PER_RUN ∧
      (trafficMarker run.runId
        (s.1.tasks.controller.accumulators.sequence + 1)).utf8ByteSize ≤
          run.request.payloadBytes := by
  have hactive : s.1.tasks.runTask ≠ .done := by
    rw [hsleeping]
    exact nofun
  obtain ⟨hremembered, hplain, hfits⟩ :=
    h _ _ (hscheduling.sound.structured.request_of_current hactive hcurrent)
  have hon := hscheduling.onSchedule run.request hremembered
  have hnext := (hon.nextCall_of_sleeping hsleeping).1
  have hsequence := hon.sequence
  have hle : s.1.tasks.controller.accumulators.sequence + 1 ≤ run.request.maximumSequence := by
    omega
  refine ⟨hplain, hle, hon.scheduled.bounded, ?_⟩
  rw [hplain.markerSize]
  exact le_trans (trafficMarker_length_mono run.runId hle) hfits

/-- A payload that a step hands to the gateway decodes. -/
theorem decodes_sentPayload {s t : ScheduledTasks R × CallHistory} (h : Fitting s)
    (hscheduling : Scheduling s) {a : Action}
    (hstep : recorded (ScheduledTasks.step R pb) noteCalls s a = some t)
    {sent : SentPayload} (hsent : sentPayload pb s.1 a = some sent) : sent.Decodes := by
  have htasks := tasks_step (recorded_eq_some.mp hstep).1
  unfold sentPayload at hsent
  split at hsent
  · next m flow source pick draws =>
      have hsleeping := sleeping_of_submit htasks
      obtain ⟨run, hcurrent, hsent⟩ := Option.bind_eq_some_iff.mp hsent
      obtain ⟨⟨from_, destination, name⟩, _, hsent⟩ := Option.bind_eq_some_iff.mp hsent
      obtain ⟨⟨c, outcome⟩, hsubmit, hsent⟩ := Option.bind_eq_some_iff.mp hsent
      split at hsent
      · next ref packet hpacket =>
          cases hpacket
          cases hsent
          obtain ⟨hplain, hle, hbounded, hfits⟩ := h.next hscheduling hsleeping hcurrent
          obtain ⟨_, hpayload⟩ := submit_payload hcurrent hsubmit
          refine ⟨?_, ?_⟩
          · dsimp only
            rw [hpayload]
            exact length_paddedMarker hfits
          · dsimp only
            rw [hpayload]
            refine parseIdentifier_paddedMarker hplain.no_colon ?_ _
            -- a run numbers its messages with at most five digits
            refine (Nat.length_toDigits_le_iff (by decide) (by decide)).mpr ?_
            refine lt_of_le_of_lt (le_trans hle hbounded) ?_
            exact lt_of_lt_of_le (by decide : MAX_TRAFFIC_MESSAGES_PER_RUN < 10 ^ 5)
              (Nat.pow_le_pow_right (by decide) (by decide))
      · cases hsent
  · cases hsent

/-- What holds of a run and the payloads that it has sent. -/
structure Marking (s : (ScheduledTasks R × CallHistory) × List SentPayload) : Prop where
  scheduling : Scheduling s.1
  fitting : Fitting s.1
  decodes : ∀ sent ∈ s.2, sent.Decodes

section Runs

variable {scenario : Scenario} {hardwareIds : Dict String Nat} {buildMetadata : BuildMetadata}
  {settleSeconds : Option ℚ} {failedReceptionSampler : Bool}

theorem marking_of_run {s : (ScheduledTasks R × CallHistory) × List SentPayload}
    (hrun : Run (recorded (recorded (ScheduledTasks.step R pb) noteCalls) (noteSent pb))
      (fun u a => PlainStart u.1 a)
      (fresh R (.new scenario hardwareIds buildMetadata settleSeconds failedReceptionSampler),
        []) s) : Marking s := by
  refine hrun.invariant (I := Marking) ?_ ?_
  · rintro ⟨u, sent⟩ a ⟨v, sent'⟩ hmarking hplain hstep
    obtain ⟨hstep, hnote⟩ := recorded_eq_some.mp hstep
    refine ⟨?_, hmarking.fitting.step hmarking.scheduling hplain hstep, ?_⟩
    · obtain ⟨hinner, hrecord⟩ := recorded_eq_some.mp hstep
      have hscheduling := hmarking.scheduling.step hplain.1 hinner
      rwa [← hrecord] at hscheduling
    · intro payload hpayload
      rw [show sent' = _ from hnote] at hpayload
      rcases List.mem_append.mp hpayload with hold | hnew
      · exact hmarking.decodes payload hold
      · exact decodes_sentPayload hmarking.fitting hmarking.scheduling hstep
          (Option.mem_toList.mp hnew)
  · exact ⟨⟨(exact_new _ _ _ _ _).toSound, nofun⟩, nofun, nofun⟩

/-- In every run the size check of `_submit` passes for the next message.  Every payload
that was sent has the size asked for and decodes to the run id and the sequence of its
message, so equal payloads are of one run and one sequence.  The marker of every run id
without a colon decodes at every sequence and with every padding. -/
theorem payloads_of_run {s : (ScheduledTasks R × CallHistory) × List SentPayload}
    (hrun : Run (recorded (recorded (ScheduledTasks.step R pb) noteCalls) (noteSent pb))
      (fun u a => PlainStart u.1 a)
      (fresh R (.new scenario hardwareIds buildMetadata settleSeconds failedReceptionSampler),
        []) s) :
    (∀ run, s.1.1.tasks.runTask = .sleeping → s.1.1.tasks.controller.current = some run →
      (trafficMarker run.runId
        (s.1.1.tasks.controller.accumulators.sequence + 1)).utf8ByteSize ≤
          run.request.payloadBytes) ∧
      (∀ sent ∈ s.2, sent.payload.length = sent.payloadBytes ∧
        parseIdentifier sent.payload = some (sent.runId, (sent.sequence : Int))) ∧
      (∀ sent ∈ s.2, ∀ other ∈ s.2, sent.payload = other.payload →
        sent.runId = other.runId ∧ sent.sequence = other.sequence) ∧
      ∀ runId sequence padding, ':' ∉ String.toList runId →
        (Nat.toDigits 10 sequence).length ≤ MAX_INT_DIGITS →
        parseIdentifier (paddedMarker runId sequence padding) =
          some (runId, (sequence : Int)) := by
  have hmarking := marking_of_run hrun
  refine ⟨?_, ?_, ?_, ?_⟩
  · intro run hsleeping hcurrent
    exact (hmarking.fitting.next hmarking.scheduling hsleeping hcurrent).2.2.2
  · intro sent hsent
    exact ⟨(hmarking.decodes sent hsent).length, (hmarking.decodes sent hsent).identifier⟩
  · intro sent hsent other hother hsame
    have hfirst := (hmarking.decodes sent hsent).identifier
    rw [hsame, (hmarking.decodes other hother).identifier] at hfirst
    obtain ⟨hrunId, hsequence⟩ := Prod.mk.inj (Option.some.inj hfirst)
    exact ⟨hrunId.symm, (Int.ofNat.inj hsequence).symm⟩
  · intro runId sequence padding hcolon hlength
    exact parseIdentifier_paddedMarker hcolon hlength padding

end Runs

section Pair

instance (s : ScheduledTasks R × CallHistory) (a : Action) : Decidable (PlainStart s a) :=
  match a with
  | .start _ runId request _ _ =>
      inferInstanceAs (Decidable (request.WellFormed ∧ PlainRunId runId))
  | .fromRadio .. | .rfTransmission .. | .drop .. | .failedReceptions ..
  | .duplicateReceptions .. | .eventLoopLag .. | .topologyChange .. | .run .. | .cancelled
  | .call .. | .resume .. => .isTrue ⟨trivial, trivial⟩

/-- The payloads of the two flows have the size asked for and are all different. -/
theorem generated_flows_decode :
    ∃ s, exec (recorded (recorded (ScheduledTasks.step countingRandomness pairProtobuf)
        noteCalls) (noteSent pairProtobuf)) generatedFlows
        (fresh countingRandomness pairTasks, []) = some s ∧
      s.2.map (fun sent => (sent.runId, sent.sequence)) = [("run", 1), ("run", 2), ("run", 3)] ∧
      ∀ sent ∈ s.2, sent.payload.length = 64 ∧
        parseIdentifier sent.payload = some (sent.runId, (sent.sequence : Int)) := by
  have hstate : (exec (recorded (recorded (ScheduledTasks.step countingRandomness pairProtobuf)
      noteCalls) (noteSent pairProtobuf)) generatedFlows
      (fresh countingRandomness pairTasks, [])).map
        (fun s => s.2.map fun sent => (sent.runId, sent.sequence, sent.payloadBytes)) =
      some [("run", 1, 64), ("run", 2, 64), ("run", 3, 64)] := by
    decide +kernel
  have hplain : Conforms (recorded (recorded (ScheduledTasks.step countingRandomness
      pairProtobuf) noteCalls) (noteSent pairProtobuf)) (fun u a => PlainStart u.1 a)
      generatedFlows (fresh countingRandomness pairTasks, []) := by
    decide +kernel
  obtain ⟨s, hexec, hstate⟩ := Option.map_eq_some_iff.mp hstate
  obtain ⟨_, hdecodes, _⟩ := payloads_of_run (.of_exec hexec hplain)
  refine ⟨s, hexec, ?_, ?_⟩
  · have := congrArg (List.map fun entry : String × Nat × Nat => (entry.1, entry.2.1)) hstate
    rwa [List.map_map] at this
  · intro sent hsent
    obtain ⟨hlength, hidentifier⟩ := hdecodes sent hsent
    refine ⟨hlength.trans ?_, hidentifier⟩
    have hmember := List.mem_map_of_mem (f := fun sent : SentPayload =>
      (sent.runId, sent.sequence, sent.payloadBytes)) hsent
    rw [hstate] at hmember
    simp only [List.mem_cons, Prod.mk.injEq, List.not_mem_nil, or_false] at hmember
    rcases hmember with h | h | h <;> exact h.2.2

end Pair

end ScheduledTasks

end MeshtasticLab.Traffic

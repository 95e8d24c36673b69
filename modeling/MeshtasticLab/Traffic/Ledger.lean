/-
  Traffic/Ledger.lean --- what the counters of a run say about its messages.

  WHAT THIS FILE IS FOR

  Two readings of the accumulators of a run, on plain data.  A `Ledger` holds
  when every counter is the count over the generated messages that it stands for;
  an `Agreement` holds when the counters kept for the live metrics are what the
  full records add up to.  Each is preserved by what a handler does to one
  message, to the pending submissions or to the records; `Traffic/Effects` says
  which handler does what.
-/
import MeshtasticLab.Foundation.Counting
import MeshtasticLab.Traffic.Handlers

set_option autoImplicit false

namespace MeshtasticLab.Traffic

open MeshtasticLab.Foundation MeshtasticLab.Metrics
open TrafficController (isApplicableReceiver)

/-! ## The ledger -/

/-- A message that the handlers can produce. -/
structure GeneratedMessage.Sound (kind : TrafficKind) (message : GeneratedMessage) : Prop where
  acknowledged : message.acknowledged = true → message.transmitted = true
  transmitted : message.transmitted = true → message.submitted = true
  distinct : message.deliveredTo.Nodup
  applicable : ∀ nodeId ∈ message.deliveredTo, isApplicableReceiver kind message nodeId = true

/-- A write that leaves what identifies a message, and its deliveries. -/
structure KeepsIdentity (f : GeneratedMessage → GeneratedMessage) : Prop where
  sequence : ∀ message, (f message).sequence = message.sequence
  sourceNode : ∀ message, (f message).sourceNode = message.sourceNode
  packetId : ∀ message, (f message).packetId = message.packetId
  deliveredTo : ∀ message, (f message).deliveredTo = message.deliveredTo

namespace GeneratedMessage

theorem keeps_setSubmitted (submitted : Bool) : KeepsIdentity (·.setSubmitted submitted) :=
  ⟨fun _ => rfl, fun _ => rfl, fun _ => rfl, fun _ => rfl⟩

theorem keeps_setSubmissionError (error : String) : KeepsIdentity (·.setSubmissionError error) :=
  ⟨fun _ => rfl, fun _ => rfl, fun _ => rfl, fun _ => rfl⟩

theorem keeps_setTransmitted : KeepsIdentity (·.setTransmitted) :=
  ⟨fun _ => rfl, fun _ => rfl, fun _ => rfl, fun _ => rfl⟩

theorem keeps_setAcknowledged : KeepsIdentity (·.setAcknowledged) :=
  ⟨fun _ => rfl, fun _ => rfl, fun _ => rfl, fun _ => rfl⟩

end GeneratedMessage

/-- Every counter is the count it stands for. -/
structure Ledger (kind : TrafficKind) (opportunities : Nat) (messages : List GeneratedMessage)
    (acc : Accumulators) : Prop where
  generated : acc.generatedCount = messages.length
  submitted : acc.submittedCount = messages.countP (·.submitted)
  submissionFailed : acc.submissionFailedCount = messages.countP (·.submissionError.isSome)
  transmitted : acc.transmittedCount = messages.countP (·.transmitted)
  acknowledged : acc.acknowledgments = messages.countP (·.acknowledged)
  delivered : acc.uniqueDeliveries = messages.countP (!·.deliveredTo.isEmpty)
  receivers : acc.receiverDeliveries = (messages.map (·.deliveredTo.length)).sum
  opportunities : acc.receiverOpportunities = messages.length * opportunities
  sound : ∀ message ∈ messages, message.Sound kind
  numbered : messages.Pairwise (·.sequence < ·.sequence)
  bounded : ∀ message ∈ messages, message.sequence ≤ acc.sequence
  known : ∀ message ∈ messages,
    message.sequence ∈ acc.deliveredSequences ↔ message.deliveredTo.isEmpty = false
  knownBounded : ∀ sequence ∈ acc.deliveredSequences, sequence ≤ acc.sequence

variable {kind : TrafficKind} {opportunities : Nat} {messages : List GeneratedMessage}
  {acc : Accumulators}

theorem ledger_empty : Ledger kind opportunities [] {} where
  generated := rfl
  submitted := rfl
  submissionFailed := rfl
  transmitted := rfl
  acknowledged := rfl
  delivered := rfl
  receivers := rfl
  opportunities := by simp
  sound := by simp
  numbered := .nil
  bounded := by simp
  known := by simp
  knownBounded := by simp

/-- The fields of the accumulators that a ledger reads. -/
structure Accumulators.SameLedger (acc acc' : Accumulators) : Prop where
  sequence : acc'.sequence = acc.sequence
  deliveredSequences : acc'.deliveredSequences = acc.deliveredSequences
  generatedCount : acc'.generatedCount = acc.generatedCount
  submittedCount : acc'.submittedCount = acc.submittedCount
  submissionFailedCount : acc'.submissionFailedCount = acc.submissionFailedCount
  transmittedCount : acc'.transmittedCount = acc.transmittedCount
  uniqueDeliveries : acc'.uniqueDeliveries = acc.uniqueDeliveries
  receiverDeliveries : acc'.receiverDeliveries = acc.receiverDeliveries
  receiverOpportunities : acc'.receiverOpportunities = acc.receiverOpportunities
  acknowledgments : acc'.acknowledgments = acc.acknowledgments

theorem Ledger.congr (h : Ledger kind opportunities messages acc) {acc' : Accumulators}
    (hsame : acc.SameLedger acc') : Ledger kind opportunities messages acc' where
  generated := hsame.generatedCount ▸ h.generated
  submitted := hsame.submittedCount ▸ h.submitted
  submissionFailed := hsame.submissionFailedCount ▸ h.submissionFailed
  transmitted := hsame.transmittedCount ▸ h.transmitted
  acknowledged := hsame.acknowledgments ▸ h.acknowledged
  delivered := hsame.uniqueDeliveries ▸ h.delivered
  receivers := hsame.receiverDeliveries ▸ h.receivers
  opportunities := hsame.receiverOpportunities ▸ h.opportunities
  sound := h.sound
  numbered := h.numbered
  bounded := hsame.sequence ▸ h.bounded
  known := hsame.deliveredSequences ▸ h.known
  knownBounded := by
    rw [hsame.sequence, hsame.deliveredSequences]
    exact h.knownBounded

/-- Drawing a sequence number leaves the ledger right. -/
theorem Ledger.nextSequence (h : Ledger kind opportunities messages acc) :
    Ledger kind opportunities messages acc.nextSequence where
  generated := h.generated
  submitted := h.submitted
  submissionFailed := h.submissionFailed
  transmitted := h.transmitted
  acknowledged := h.acknowledged
  delivered := h.delivered
  receivers := h.receivers
  opportunities := h.opportunities
  sound := h.sound
  numbered := h.numbered
  bounded message hmember := Nat.le_succ_of_le (h.bounded message hmember)
  known := h.known
  knownBounded sequence hmember := Nat.le_succ_of_le (h.knownBounded sequence hmember)

/-- A message with a new sequence number joins the list with every flag down. -/
theorem Ledger.generate (h : Ledger kind opportunities messages acc)
    (message : GeneratedMessage) (hsequence : acc.sequence = message.sequence)
    (hnew : ∀ old ∈ messages, old.sequence < message.sequence)
    (hknown : message.sequence ∉ acc.deliveredSequences)
    (hsubmitted : message.submitted = false) (herror : message.submissionError = none)
    (htransmitted : message.transmitted = false) (hdelivered : message.deliveredTo = [])
    (hacknowledged : message.acknowledged = false) :
    Ledger kind opportunities (messages ++ [message]) (acc.addGenerated opportunities) where
  generated := by simp [Accumulators.addGenerated, h.generated]
  submitted := by simp [Accumulators.addGenerated, h.submitted, hsubmitted]
  submissionFailed := by simp [Accumulators.addGenerated, h.submissionFailed, herror]
  transmitted := by simp [Accumulators.addGenerated, h.transmitted, htransmitted]
  acknowledged := by simp [Accumulators.addGenerated, h.acknowledged, hacknowledged]
  delivered := by simp [Accumulators.addGenerated, h.delivered, hdelivered]
  receivers := by simp [Accumulators.addGenerated, h.receivers, hdelivered]
  opportunities := by simp [Accumulators.addGenerated, h.opportunities, Nat.succ_mul]
  sound := by
    intro other hmember
    rcases List.mem_append.mp hmember with hold | hlast
    · exact h.sound other hold
    · rw [List.mem_singleton.mp hlast]
      constructor
      · simp [hacknowledged]
      · simp [htransmitted]
      · simp [hdelivered]
      · simp [hdelivered]
  numbered := by
    rw [List.pairwise_append]
    refine ⟨h.numbered, List.pairwise_singleton _ _, ?_⟩
    intro old hold last hlast
    rw [List.mem_singleton.mp hlast]
    exact hnew old hold
  bounded := by
    intro other hmember
    rcases List.mem_append.mp hmember with hold | hlast
    · exact h.bounded other hold
    · rw [List.mem_singleton.mp hlast]
      exact Nat.le_of_eq hsequence.symm
  known := by
    intro other hmember
    rcases List.mem_append.mp hmember with hold | hlast
    · exact h.known other hold
    · rw [List.mem_singleton.mp hlast, hdelivered]
      simp [Accumulators.addGenerated, hknown]
  knownBounded := h.knownBounded

/-- Sequence numbers stay in order when a change of one message keeps its own. -/
theorem pairwise_sequence_modify (hnumbered : messages.Pairwise (·.sequence < ·.sequence))
    (ref : Nat) {f : GeneratedMessage → GeneratedMessage}
    (hsequence : ∀ message, (f message).sequence = message.sequence) :
    (messages.modify ref f).Pairwise (·.sequence < ·.sequence) := by
  have hmap : ∀ l : List GeneratedMessage, l.Pairwise (·.sequence < ·.sequence) ↔
      (l.map (·.sequence)).Pairwise (· < ·) := fun l => List.pairwise_map.symm
  have hsame : (messages.modify ref f).map (·.sequence) = messages.map (·.sequence) := by
    apply List.ext_getElem?
    intro i
    rw [List.getElem?_map, List.getElem?_map, List.getElem?_modify, Option.map_eq_map,
      Option.map_map]
    congr 1
    funext message
    simp only [Function.comp_apply]
    split
    · exact hsequence message
    · rfl
  rw [hmap, hsame, ← hmap]
  exact hnumbered

variable {ref : Nat} {message : GeneratedMessage}

/-- The status of one message changes, and the four status counters with it. -/
theorem Ledger.changeStatus (h : Ledger kind opportunities messages acc)
    (hget : messages[ref]? = some message) {f : GeneratedMessage → GeneratedMessage}
    (hkeeps : KeepsIdentity f) (hsound : (f message).Sound kind)
    {submittedCount submissionFailedCount transmittedCount acknowledgments : Nat}
    (hsubmitted : submittedCount + message.submitted.toNat =
      acc.submittedCount + (f message).submitted.toNat)
    (hfailed : submissionFailedCount + message.submissionError.isSome.toNat =
      acc.submissionFailedCount + (f message).submissionError.isSome.toNat)
    (htransmitted : transmittedCount + message.transmitted.toNat =
      acc.transmittedCount + (f message).transmitted.toNat)
    (hacknowledged : acknowledgments + message.acknowledged.toNat =
      acc.acknowledgments + (f message).acknowledged.toNat) :
    Ledger kind opportunities (messages.modify ref f)
      { acc with
        submittedCount := submittedCount
        submissionFailedCount := submissionFailedCount
        transmittedCount := transmittedCount
        acknowledgments := acknowledgments } where
  generated := by
    rw [List.length_modify]
    exact h.generated
  submitted := by
    have hcount := countP_modify hget (·.submitted) f
    have hold := h.submitted
    change submittedCount = _
    omega
  submissionFailed := by
    have hcount := countP_modify hget (·.submissionError.isSome) f
    have hold := h.submissionFailed
    change submissionFailedCount = _
    omega
  transmitted := by
    have hcount := countP_modify hget (·.transmitted) f
    have hold := h.transmitted
    change transmittedCount = _
    omega
  acknowledged := by
    have hcount := countP_modify hget (·.acknowledged) f
    have hold := h.acknowledged
    change acknowledgments = _
    omega
  delivered := by
    have hcount := countP_modify hget (!·.deliveredTo.isEmpty) f
    simp only [hkeeps.deliveredTo] at hcount
    have hold := h.delivered
    change acc.uniqueDeliveries = _
    omega
  receivers := by
    have hsum := sum_modify hget (·.deliveredTo.length) f
    simp only [hkeeps.deliveredTo] at hsum
    have hold := h.receivers
    change acc.receiverDeliveries = _
    omega
  opportunities := by
    rw [List.length_modify]
    exact h.opportunities
  sound := by
    intro other hmember
    rcases mem_modify_cases hmember with hold | ⟨changed, hchanged, rfl⟩
    · exact h.sound other hold
    · rw [hget] at hchanged
      cases hchanged
      exact hsound
  numbered := pairwise_sequence_modify h.numbered ref hkeeps.sequence
  bounded := by
    intro other hmember
    rcases mem_modify_cases hmember with hold | ⟨changed, hchanged, rfl⟩
    · exact h.bounded other hold
    · rw [hkeeps.sequence]
      exact h.bounded changed (List.mem_of_getElem? hchanged)
  known := by
    intro other hmember
    rcases mem_modify_cases hmember with hold | ⟨changed, hchanged, rfl⟩
    · exact h.known other hold
    · rw [hkeeps.sequence, hkeeps.deliveredTo]
      exact h.known changed (List.mem_of_getElem? hchanged)
  knownBounded := h.knownBounded

/-- In a list numbered in order, a sequence number names one position. -/
theorem numbered_injective (hnumbered : messages.Pairwise (·.sequence < ·.sequence))
    {i j : Nat} {a b : GeneratedMessage} (ha : messages[i]? = some a)
    (hb : messages[j]? = some b) (hsequence : a.sequence = b.sequence) : i = j := by
  obtain ⟨hi, rfl⟩ := List.getElem?_eq_some_iff.mp ha
  obtain ⟨hj, rfl⟩ := List.getElem?_eq_some_iff.mp hb
  rw [List.pairwise_iff_getElem] at hnumbered
  rcases Nat.lt_trichotomy i j with hlt | heq | hgt
  · have := hnumbered i j hi hj hlt
    omega
  · exact heq
  · have := hnumbered j i hj hi hgt
    omega

/-- A message is delivered at one more node. -/
theorem Ledger.deliver (h : Ledger kind opportunities messages acc)
    (hget : messages[ref]? = some message) {nodeId : String}
    (happlicable : isApplicableReceiver kind message nodeId = true)
    (hfirst : nodeId ∉ message.deliveredTo) (latencyMs : ℚ) :
    Ledger kind opportunities
      (messages.modify ref (GeneratedMessage.deliverTo nodeId latencyMs))
      (acc.addDelivery message.sequence latencyMs) := by
  have hmember : message ∈ messages := List.mem_of_getElem? hget
  have hknown := h.known message hmember
  have hin : message.sequence ∈ acc.deliveredSequences ∨
      message.sequence ∉ acc.deliveredSequences := Classical.em _
  constructor
  case generated =>
    rw [List.length_modify]
    exact h.generated
  case submitted =>
    exact h.submitted.trans
      (countP_modify_of_eq messages ref _ (GeneratedMessage.deliverTo nodeId latencyMs)
        fun _ => rfl).symm
  case submissionFailed =>
    exact h.submissionFailed.trans
      (countP_modify_of_eq messages ref _ (GeneratedMessage.deliverTo nodeId latencyMs)
        fun _ => rfl).symm
  case transmitted =>
    exact h.transmitted.trans
      (countP_modify_of_eq messages ref _ (GeneratedMessage.deliverTo nodeId latencyMs)
        fun _ => rfl).symm
  case acknowledged =>
    exact h.acknowledged.trans
      (countP_modify_of_eq messages ref _ (GeneratedMessage.deliverTo nodeId latencyMs)
        fun _ => rfl).symm
  case delivered =>
    have hcount := countP_modify hget (!·.deliveredTo.isEmpty)
      (GeneratedMessage.deliverTo nodeId latencyMs)
    have hold := h.delivered
    have hnonempty : (message.deliveredTo ++ [nodeId]).isEmpty = false := by simp
    simp only [GeneratedMessage.deliverTo, hnonempty, Bool.not_false, Bool.toNat_true] at hcount
    rcases hin with hold' | hnew
    · rw [hknown.mp hold', Bool.not_false, Bool.toNat_true] at hcount
      simp only [Accumulators.addDelivery, if_pos hold']
      omega
    · have hempty : message.deliveredTo.isEmpty = true := by
        rw [hknown, Bool.not_eq_false] at hnew
        exact hnew
      rw [hempty, Bool.not_true, Bool.toNat_false] at hcount
      simp only [Accumulators.addDelivery, if_neg hnew]
      omega
  case receivers =>
    have hsum := sum_modify hget (·.deliveredTo.length)
      (GeneratedMessage.deliverTo nodeId latencyMs)
    have hold := h.receivers
    simp only [GeneratedMessage.deliverTo, List.length_append, List.length_singleton] at hsum
    change acc.receiverDeliveries + 1 = _
    omega
  case opportunities =>
    rw [List.length_modify]
    exact h.opportunities
  case sound =>
    intro other hother
    rcases mem_modify_cases hother with hold | ⟨changed, hchanged, rfl⟩
    · exact h.sound other hold
    · rw [hget] at hchanged
      cases hchanged
      have hsound := h.sound message hmember
      constructor
      · exact hsound.acknowledged
      · exact hsound.transmitted
      · exact List.nodup_append.mpr ⟨hsound.distinct, List.nodup_singleton _, by
          rintro a ha b hb rfl
          exact hfirst (List.mem_singleton.mp hb ▸ ha)⟩
      · intro node hnode
        rcases List.mem_append.mp hnode with hold | hlast
        · exact hsound.applicable node hold
        · rw [List.mem_singleton.mp hlast]
          exact happlicable
  case numbered => exact pairwise_sequence_modify h.numbered ref fun _ => rfl
  case bounded =>
    intro other hother
    rcases mem_modify_cases hother with hold | ⟨changed, hchanged, rfl⟩
    · exact h.bounded other hold
    · exact h.bounded changed (List.mem_of_getElem? hchanged)
  case known =>
    intro other hother
    obtain ⟨j, hj⟩ := List.mem_iff_getElem?.mp hother
    rcases getElem?_modify_cases hj with ⟨hne, hold⟩ | ⟨_, changed, hchanged, rfl⟩
    · have hdistinct : other.sequence ≠ message.sequence := fun hsame =>
        hne (numbered_injective h.numbered hold hget hsame)
      have hother := h.known other (List.mem_of_getElem? hold)
      rcases hin with hold' | hnew
      · simp only [Accumulators.addDelivery, if_pos hold']
        exact hother
      · simp only [Accumulators.addDelivery, if_neg hnew, List.mem_append, List.mem_singleton,
        hdistinct, or_false]
        exact hother
    · rw [hget] at hchanged
      cases hchanged
      rcases hin with hold' | hnew
      · simp [Accumulators.addDelivery, GeneratedMessage.deliverTo, hold']
      · simp [Accumulators.addDelivery, GeneratedMessage.deliverTo, if_neg hnew]
  case knownBounded =>
    intro sequence hsequence
    rcases hin with hold' | hnew
    · simp only [Accumulators.addDelivery, if_pos hold'] at hsequence
      exact h.knownBounded sequence hsequence
    · simp only [Accumulators.addDelivery, if_neg hnew] at hsequence
      rcases List.mem_append.mp hsequence with hold | hlast
      · exact h.knownBounded sequence hold
      · rw [List.mem_singleton.mp hlast]
        exact h.bounded message hmember

/-! ## The agreement of counters and records -/

/-- The live counters are what the full records add up to. -/
structure Agreement (acc : Accumulators) : Prop where
  transmissions : acc.rfTransmissionCount = acc.rfTransmitters.length
  paired : acc.rfTransmitters.length = acc.airtimesMs.length
  airtime : acc.observedAirtimeMs = acc.airtimesMs.sum
  transmitCounts : acc.perNodeTransmitCounts = Dict.countOf acc.rfTransmitters
  airtimes : acc.perNodeAirtimeMs = Dict.tally (acc.rfTransmitters.zip acc.airtimesMs)
  drops : acc.dropCounts = Dict.countOf acc.dropReasons
  latencies : acc.liveLatenciesMs.Holds acc.latenciesMs
  sampleSize : acc.liveLatenciesMs.maxlen = LIVE_LATENCY_SAMPLE_SIZE
  deliveries : acc.latenciesMs.length = acc.receiverDeliveries

theorem agreement_empty : Agreement {} where
  transmissions := rfl
  paired := rfl
  airtime := rfl
  transmitCounts := rfl
  airtimes := rfl
  drops := rfl
  latencies := BoundedDeque.holds_empty _
  sampleSize := rfl
  deliveries := rfl

/-- The fields of the accumulators that an agreement reads. -/
structure Accumulators.SameRecords (acc acc' : Accumulators) : Prop where
  rfTransmissionCount : acc'.rfTransmissionCount = acc.rfTransmissionCount
  rfTransmitters : acc'.rfTransmitters = acc.rfTransmitters
  airtimesMs : acc'.airtimesMs = acc.airtimesMs
  observedAirtimeMs : acc'.observedAirtimeMs = acc.observedAirtimeMs
  perNodeTransmitCounts : acc'.perNodeTransmitCounts = acc.perNodeTransmitCounts
  perNodeAirtimeMs : acc'.perNodeAirtimeMs = acc.perNodeAirtimeMs
  dropReasons : acc'.dropReasons = acc.dropReasons
  dropCounts : acc'.dropCounts = acc.dropCounts
  latenciesMs : acc'.latenciesMs = acc.latenciesMs
  liveLatenciesMs : acc'.liveLatenciesMs = acc.liveLatenciesMs
  receiverDeliveries : acc'.receiverDeliveries = acc.receiverDeliveries

theorem Agreement.congr (h : Agreement acc) {acc' : Accumulators}
    (hsame : acc.SameRecords acc') : Agreement acc' where
  transmissions := by
    rw [hsame.rfTransmissionCount, hsame.rfTransmitters]
    exact h.transmissions
  paired := by
    rw [hsame.rfTransmitters, hsame.airtimesMs]
    exact h.paired
  airtime := by
    rw [hsame.observedAirtimeMs, hsame.airtimesMs]
    exact h.airtime
  transmitCounts := by
    rw [hsame.perNodeTransmitCounts, hsame.rfTransmitters]
    exact h.transmitCounts
  airtimes := by
    rw [hsame.perNodeAirtimeMs, hsame.rfTransmitters, hsame.airtimesMs]
    exact h.airtimes
  drops := by
    rw [hsame.dropCounts, hsame.dropReasons]
    exact h.drops
  latencies := by
    rw [hsame.liveLatenciesMs, hsame.latenciesMs]
    exact h.latencies
  sampleSize := by
    rw [hsame.liveLatenciesMs]
    exact h.sampleSize
  deliveries := by
    rw [hsame.latenciesMs, hsame.receiverDeliveries]
    exact h.deliveries

/-- One RF transmission is recorded and counted alike. -/
theorem Agreement.addTransmission (h : Agreement acc) (transmitter : String)
    (packetAirtimeMs : Nat) : Agreement (acc.addTransmission transmitter packetAirtimeMs) where
  transmissions := by simp [Accumulators.addTransmission, h.transmissions]
  paired := by simp [Accumulators.addTransmission, h.paired]
  airtime := by simp [Accumulators.addTransmission, h.airtime]
  transmitCounts := by
    simp only [Accumulators.addTransmission]
    rw [Dict.countOf_concat, h.transmitCounts]
  airtimes := by
    simp only [Accumulators.addTransmission]
    rw [List.zip_append h.paired, List.zip_cons_cons, List.zip_nil_left, Dict.tally_concat,
      h.airtimes]
  drops := h.drops
  latencies := h.latencies
  sampleSize := h.sampleSize
  deliveries := h.deliveries

/-- One drop is recorded and counted alike. -/
theorem Agreement.addDrop (h : Agreement acc) (reason : String) :
    Agreement (acc.addDrop reason) where
  transmissions := h.transmissions
  paired := h.paired
  airtime := h.airtime
  transmitCounts := h.transmitCounts
  airtimes := h.airtimes
  drops := by
    simp only [Accumulators.addDrop]
    rw [Dict.countOf_concat, h.drops]
  latencies := h.latencies
  sampleSize := h.sampleSize
  deliveries := h.deliveries

/-- One delivery adds one latency to the records and to the live sample. -/
theorem Agreement.addDelivery (h : Agreement acc) (sequence : Nat) (latencyMs : ℚ) :
    Agreement (acc.addDelivery sequence latencyMs) where
  transmissions := h.transmissions
  paired := h.paired
  airtime := h.airtime
  transmitCounts := h.transmitCounts
  airtimes := h.airtimes
  drops := h.drops
  latencies := h.latencies.append latencyMs
  sampleSize := h.sampleSize
  deliveries := by simp [Accumulators.addDelivery, h.deliveries]

end MeshtasticLab.Traffic

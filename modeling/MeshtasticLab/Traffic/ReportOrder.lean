/-
  Traffic/ReportOrder.lean --- the outcome of a submission does not depend on the
  order of the reports about it.

  WHAT THIS FILE IS FOR

  A queue status and a rate-limit response for one packet contradict each other and
  may come in either order.  What the controller makes of a submission is a function of
  the set of the reports about it: a step lemma says what one report does to that
  function, and the run of any list of reports follows.  The reports must find the
  message: a response on the air that has taken the identity of the message sends its
  rejection to another one.
-/
import MeshtasticLab.Traffic.Attribution

set_option autoImplicit false

namespace MeshtasticLab.Traffic

open MeshtasticLab.Foundation MeshtasticLab.Gateway MeshtasticLab.Metrics MeshtasticLab.Models

/-! ## Reports -/

/-- What the firmware says of a submission. -/
inductive AdmissionReport where
  | queueStatus (res : Int)
  | rateLimited
  deriving DecidableEq, Repr

namespace AdmissionReport

/-- The firmware has taken the message. -/
def accepts : AdmissionReport → Bool
  | .queueStatus res => res ∈ FIRMWARE_QUEUE_SUCCESS
  | .rateLimited => false

/-- The firmware has not taken the message. -/
def rejects (report : AdmissionReport) : Bool := !report.accepts

def isQueueStatus : AdmissionReport → Bool
  | .queueStatus _ => true
  | .rateLimited => false

def isRateLimited (report : AdmissionReport) : Bool := !report.isQueueStatus

@[simp] theorem accepts_queueStatus (res : Int) :
    (queueStatus res).accepts = decide (res ∈ FIRMWARE_QUEUE_SUCCESS) := rfl

@[simp] theorem rejects_queueStatus (res : Int) :
    (queueStatus res).rejects = !decide (res ∈ FIRMWARE_QUEUE_SUCCESS) := rfl

@[simp] theorem accepts_rateLimited : rateLimited.accepts = false := rfl

@[simp] theorem rejects_rateLimited : rateLimited.rejects = true := rfl

end AdmissionReport

/-- The submission that a message from a radio reports on, by the node and the packet
identifier, and what it says of it. -/
def admissionReport (pb : Protobuf) (nodeId : String) :
    FromRadio → Option ((String × Nat) × AdmissionReport)
  | .queueStatus status => some ((nodeId, status.meshPacketId), .queueStatus status.res)
  | .packet packet =>
      match packet.payload with
      | .decoded data =>
          if data.portnum = ROUTING_APP ∧ data.requestId ≠ 0 ∧
              pb.parseRouting data.payload = some ROUTING_ERROR_RATE_LIMIT_EXCEEDED then
            some ((nodeId, data.requestId), .rateLimited)
          else none
      | _ => none
  | .other => none

/-- How the controller classifies a submission. -/
structure Standing where
  pending : Bool
  submitted : Bool
  failed : Bool
  deriving DecidableEq, Repr

/-- What has been said so far, in order. -/
abbrev Told := List ((String × Nat) × AdmissionReport)

namespace Told

/-- A report about the submission satisfies a condition. -/
def reports (told : Told) (key : String × Nat) (what : AdmissionReport → Bool) : Bool :=
  told.any fun entry => entry.1 = key && what entry.2

/-- The classification that the reports about a submission come to: failed when one of
them rejects it, submitted when one accepts it and none rejects it, otherwise pending. -/
def standing (told : Told) (key : String × Nat) : Standing where
  pending := !told.reports key fun _ => true
  submitted := told.reports key (·.accepts) && !told.reports key (·.rejects)
  failed := told.reports key (·.rejects)

/-- No submission has two queue statuses. -/
def OneStatus (told : Told) : Prop := ((told.filter (·.2.isQueueStatus)).map Prod.fst).Nodup

/-- The rate-limit responses. -/
def rateLimits (told : Told) : Nat := told.countP (·.2.isRateLimited)

variable {told : Told} {key other : String × Nat} {report : AdmissionReport}

theorem reports_concat (what : AdmissionReport → Bool) :
    reports (told ++ [(key, report)]) other what =
      (told.reports other what || (decide (key = other) && what report)) := by
  simp [reports]

/-- A report about one submission says nothing of another. -/
theorem standing_concat_of_ne (hne : key ≠ other) :
    standing (told ++ [(key, report)]) other = told.standing other := by
  simp [standing, reports_concat, hne]

/-- After a rate-limit response the submission has failed. -/
theorem standing_rateLimited :
    standing (told ++ [(key, .rateLimited)]) key =
      { pending := false, submitted := false, failed := true } := by
  simp [standing, reports_concat]

theorem reports_of_rejects (h : told.reports key (·.rejects) = true) :
    (told.reports key fun _ => true) = true := by
  unfold reports at h ⊢
  rw [List.any_eq_true] at h ⊢
  obtain ⟨entry, hmember, hentry⟩ := h
  refine ⟨entry, hmember, ?_⟩
  simp only [Bool.and_eq_true] at hentry ⊢
  exact ⟨hentry.1, trivial⟩

/-- Before the queue status of a submission there is none of it. -/
theorem no_status_before (honce : OneStatus (told ++ [(key, report)]))
    (hstatus : report.isQueueStatus = true) :
    ∀ entry ∈ told, entry.1 = key → entry.2.isQueueStatus = false := by
  intro entry hmember hkey
  unfold OneStatus at honce
  rw [List.filter_append, List.map_append, List.nodup_append] at honce
  by_contra hanother
  have hbefore : key ∈ (told.filter (·.2.isQueueStatus)).map Prod.fst :=
    List.mem_map.mpr ⟨entry, List.mem_filter.mpr ⟨hmember, by simpa using hanother⟩, hkey⟩
  exact honce.2.2 key hbefore key (by simp [hstatus]) rfl

/-- Before its queue status a submission is pending, or a rate limit has rejected it. -/
theorem standing_of_no_status
    (hnone : ∀ entry ∈ told, entry.1 = key → entry.2.isQueueStatus = false) :
    told.standing key = { pending := true, submitted := false, failed := false } ∨
      told.standing key = { pending := false, submitted := false, failed := true } := by
  have hlimited : ∀ entry ∈ told, entry.1 = key → entry.2 = .rateLimited := by
    intro entry hmember hkey
    have hnot := hnone entry hmember hkey
    cases hreport : entry.2 with
    | queueStatus res => rw [hreport] at hnot; cases hnot
    | rateLimited => rfl
  have haccepts : told.reports key (·.accepts) = false := by
    unfold reports
    rw [List.any_eq_false]
    intro entry hmember haccepted
    rw [Bool.and_eq_true, decide_eq_true_iff] at haccepted
    rw [hlimited entry hmember haccepted.1] at haccepted
    exact Bool.false_ne_true haccepted.2
  cases hsaid : told.reports key fun _ => true with
  | false =>
      have hrejects : told.reports key (·.rejects) = false := by
        cases hrejects : told.reports key (·.rejects) with
        | false => rfl
        | true => rw [reports_of_rejects hrejects] at hsaid; cases hsaid
      left
      simp [standing, haccepts, hrejects, hsaid]
  | true =>
      have hrejects : told.reports key (·.rejects) = true := by
        unfold reports at hsaid ⊢
        rw [List.any_eq_true] at hsaid ⊢
        obtain ⟨entry, hmember, hentry⟩ := hsaid
        rw [Bool.and_eq_true, decide_eq_true_iff] at hentry
        refine ⟨entry, hmember, ?_⟩
        rw [hlimited entry hmember hentry.1]
        simp [hentry.1]
      right
      simp [standing, haccepts, hrejects, hsaid]

/-- The standing after a queue status, when the submission was pending before it. -/
theorem standing_status_of_pending (res : Int)
    (hpending : told.standing key = { pending := true, submitted := false, failed := false }) :
    standing (told ++ [(key, .queueStatus res)]) key =
      { pending := false
        submitted := decide (res ∈ FIRMWARE_QUEUE_SUCCESS)
        failed := !decide (res ∈ FIRMWARE_QUEUE_SUCCESS) } := by
  simp only [standing, Standing.mk.injEq] at hpending
  obtain ⟨_, _, hfailed⟩ := hpending
  have hsaid : told.reports key (·.accepts) = false := by
    cases haccepts : told.reports key (·.accepts) with
    | false => rfl
    | true => simp_all
  simp [standing, reports_concat, hfailed, hsaid]

theorem not_submitted_of_failed (h : (told.standing key).failed = true) :
    (told.standing key).submitted = false := by
  have hrejects : told.reports key (·.rejects) = true := h
  simp [standing, hrejects]

theorem not_pending_of_failed (h : (told.standing key).failed = true) :
    (told.standing key).pending = false := by
  simp [standing, reports_of_rejects h]

/-- A failed submission stays failed. -/
theorem standing_concat_of_failed
    (hfailed : told.standing key = { pending := false, submitted := false, failed := true }) :
    standing (told ++ [(key, report)]) key =
      { pending := false, submitted := false, failed := true } := by
  simp only [standing, Standing.mk.injEq] at hfailed
  obtain ⟨hpending, _, hrejects⟩ := hfailed
  have hsaid : (told.reports key fun _ => true) = true := by simpa using hpending
  simp [standing, reports_concat, hrejects, hsaid]

/-- The standings are a function of what was said, not of its order. -/
theorem standing_perm {reordered : Told} (hperm : told.Perm reordered) (key : String × Nat) :
    reordered.standing key = told.standing key := by
  have hreports : ∀ what, reordered.reports key what = told.reports key what :=
    fun _ => hperm.any_eq.symm
  simp only [standing, hreports]

end Told

/-! ## What one report does -/

/-- One rate-limit response more in the drop counts. -/
def addRateLimit (pb : Protobuf) (dropCounts : Dict String Nat) : Dict String Nat :=
  match pb.routingErrorName ROUTING_ERROR_RATE_LIMIT_EXCEEDED with
  | none => dropCounts
  | some name => dropCounts.bump name 1

/-- From one view to the other the controller has taken in what was said of these
messages, and nothing else. -/
structure Follows (pb : Protobuf) (refs : List Nat) (told : Told) (v w : View) : Prop where
  frame : w.frame = v.frame
  index : w.accumulators.messagesByPacket = v.accumulators.messagesByPacket
  drops : w.accumulators.dropCounts =
    (addRateLimit pb)^[told.rateLimits] v.accumulators.dropCounts
  others : ∀ ref, ref ∉ refs → w.messages[ref]? = v.messages[ref]?
  pending : ∀ ref ∈ refs, ∀ message, v.messages[ref]? = some message →
    w.pending.get? message.key =
      if (told.standing message.key).pending then some ref else none
  messages : ∀ ref ∈ refs, ∀ message, v.messages[ref]? = some message →
    ∃ now, w.messages[ref]? = some now ∧ now.key = message.key ∧
      now.transmitted = message.transmitted ∧
      now.submitted = (told.standing message.key).submitted ∧
      now.submissionError.isSome = (told.standing message.key).failed

/-- A report changes the message it is about and its pending entry. -/
theorem Follows.report {pb : Protobuf} {refs : List Nat} {told : Told} {v w x : View}
    (h : Follows pb refs told v w) {ref : Nat} (hmember : ref ∈ refs)
    {message : GeneratedMessage} (hget : v.messages[ref]? = some message)
    (hown : ∀ other ∈ refs, ∀ found, v.messages[other]? = some found →
      found.key = message.key → other = ref)
    {report : AdmissionReport} (hframe : x.frame = w.frame)
    (hindex : x.accumulators.messagesByPacket = w.accumulators.messagesByPacket)
    (hdrops : x.accumulators.dropCounts =
      if report.isRateLimited then addRateLimit pb w.accumulators.dropCounts
      else w.accumulators.dropCounts)
    (hothers : ∀ other, other ≠ ref → x.messages[other]? = w.messages[other]?)
    (hpending : ∀ key, x.pending.get? key =
      if key = message.key then none else w.pending.get? key)
    (hmessage : ∃ now, x.messages[ref]? = some now ∧ now.key = message.key ∧
      now.transmitted = message.transmitted ∧
      Told.standing (told ++ [(message.key, report)]) message.key =
        { pending := false, submitted := now.submitted, failed := now.submissionError.isSome }) :
    Follows pb refs (told ++ [(message.key, report)]) v x where
  frame := hframe.trans h.frame
  index := hindex.trans h.index
  drops := by
    have hcount : Told.rateLimits (told ++ [(message.key, report)]) =
        told.rateLimits + if report.isRateLimited then 1 else 0 := by
      simp [Told.rateLimits]
    rw [hdrops, hcount, h.drops]
    split
    · rw [Function.iterate_succ_apply']
    · rfl
  others := by
    intro other hother
    rw [hothers other (fun heq => hother (heq ▸ hmember)), h.others other hother]
  pending := by
    intro other hother found hfound
    rw [hpending]
    by_cases hkey : found.key = message.key
    · obtain ⟨now, _, _, _, hstanding⟩ := hmessage
      rw [hkey, if_pos rfl, hstanding]
      rfl
    · rw [if_neg hkey, h.pending other hother found hfound,
        Told.standing_concat_of_ne (Ne.symm hkey)]
  messages := by
    intro other hother found hfound
    by_cases hsame : other = ref
    · subst hsame
      rw [hget] at hfound
      cases hfound
      obtain ⟨now, hnow, hkey, hsilent, hstanding⟩ := hmessage
      exact ⟨now, hnow, hkey, hsilent, by rw [hstanding], by rw [hstanding]⟩
    · have hkey : message.key ≠ found.key := fun hkey =>
        hsame (hown other hother found hfound hkey.symm)
      rw [hothers other hsame, Told.standing_concat_of_ne hkey]
      exact h.messages other hother found hfound

namespace TrafficController

variable {c d : TrafficController}

/-- How the controller classifies the submission of a message. -/
def standing (c : TrafficController) (ref : Nat) : Option Standing :=
  c.messages[ref]?.map fun message =>
    { pending := c.accumulators.pendingSubmissions.get? message.key = some ref
      submitted := message.submitted
      failed := message.submissionError.isSome }

/-- The message has been handed to the firmware and nothing has been heard of it. -/
structure Awaiting (c : TrafficController) (ref : Nat) (message : GeneratedMessage) : Prop where
  known : c.messages[ref]? = some message
  unresolved : message.Unresolved
  silent : message.transmitted = false
  numbered : message.packetId ≠ 0
  pending : c.view.pending.get? message.key = some ref
  found : ∃ hardwareId, c.hardwareIds.get? message.sourceNode = some hardwareId ∧
    c.accumulators.messagesByPacket.get? (hardwareId, message.packetId) = some ref

/-- The outcome that a queue status gives a submission. -/
def statusError (pb : Protobuf) (res : Int) : Option String :=
  if res ∈ FIRMWARE_QUEUE_SUCCESS then none else some (firmwareQueueError pb res)

theorem view_recordQueueStatus (pb : Protobuf) (hopen : c.frozenResults = []) (m : Moment)
    {nodeId : String} {status : QueueStatus} (hid : status.meshPacketId ≠ 0) {ref : Nat}
    {message : GeneratedMessage}
    (hpending : c.view.pending.get? (nodeId, status.meshPacketId) = some ref)
    (hget : c.messages[ref]? = some message) (hunresolved : message.Unresolved) :
    (c.recordQueueStatus pb m nodeId status).view =
      (c.view.popPending (nodeId, status.meshPacketId)).resolve ref
        (statusError pb status.res) := by
  have hentry : c.accumulators.pendingSubmissions.get? (nodeId, status.meshPacketId) =
      some ref := hpending
  unfold recordQueueStatus statusError
  rw [if_neg hid, hentry]
  dsimp only
  split
  · exact view_resolveSubmission
      (c := c.modifyAccumulators (·.popPending (nodeId, status.meshPacketId))) hopen m nodeId
      hget hunresolved none
  · exact view_resolveSubmission
      (c := c.modifyAccumulators (·.popPending (nodeId, status.meshPacketId))) hopen m nodeId
      hget hunresolved _

/-- A queue status of a submission that is not pending changes nothing. -/
theorem recordQueueStatus_of_absent (pb : Protobuf) (m : Moment) {nodeId : String}
    {status : QueueStatus}
    (hpending : c.view.pending.get? (nodeId, status.meshPacketId) = none) :
    c.recordQueueStatus pb m nodeId status = c := by
  have hentry : c.accumulators.pendingSubmissions.get? (nodeId, status.meshPacketId) =
      none := hpending
  unfold recordQueueStatus
  rw [hentry]
  split <;> rfl

/-- The view in which a submission is taken back. -/
theorem view_recordPretransmissionRejection {run : TrafficRunResult}
    (hcurrent : c.current = some run) (m : Moment) (source : String) (ref : Nat)
    {message : GeneratedMessage} (hpassed : message.submissionError = none) (reason : String) :
    (c.recordPretransmissionRejection m source ref message reason).view =
      (if message.submitted then (c.view.popPending (source, message.packetId)).unmarkSubmitted ref
        else c.view.popPending (source, message.packetId)).markFailed ref reason := by
  unfold recordPretransmissionRejection
  rw [hcurrent]
  dsimp only
  rw [if_neg (not_not.mpr hpassed)]
  refine (view_publishSubmissionCounts _ _).trans ((view_markFailed _ ref reason).trans ?_)
  split
  · exact congrArg (View.markFailed · ref reason) (view_unmarkSubmitted _ ref)
  · rfl

/-- A submission that has failed is not taken back. -/
theorem recordPretransmissionRejection_of_failed (m : Moment) (source : String) (ref : Nat)
    {message : GeneratedMessage} (hfailed : message.submissionError ≠ none) (reason : String) :
    c.recordPretransmissionRejection m source ref message reason = c := by
  unfold recordPretransmissionRejection
  split
  · rfl
  · rw [if_pos hfailed]

theorem getElem?_modify_self {α : Type} {l : List α} {i : Nat} {a : α} (hget : l[i]? = some a)
    (f : α → α) : (l.modify i f)[i]? = some (f a) := by
  rw [List.getElem?_modify_eq, hget]
  rfl

/-- What a rejection of a message comes to: the message has failed and is not pending. -/
structure Rejected (v w : View) (ref : Nat) (message : GeneratedMessage) : Prop where
  frame : w.frame = v.frame
  index : w.accumulators.messagesByPacket = v.accumulators.messagesByPacket
  drops : w.accumulators.dropCounts = v.accumulators.dropCounts
  others : ∀ other, other ≠ ref → w.messages[other]? = v.messages[other]?
  pending : ∀ key, w.pending.get? key =
    if key = message.key then none else v.pending.get? key
  message : ∃ now, w.messages[ref]? = some now ∧ now.key = message.key ∧
    now.transmitted = message.transmitted ∧ now.submitted = false ∧
    now.submissionError.isSome = true

/-- A rejection by its source leaves a message failed, also one that had failed. -/
theorem rejected_recordPretransmissionRejection {run : TrafficRunResult}
    (hcurrent : c.current = some run) (m : Moment) {ref : Nat} {message : GeneratedMessage}
    (hget : c.messages[ref]? = some message) (reason : String)
    (hfailed : message.submissionError ≠ none →
      message.submitted = false ∧ c.view.pending.get? message.key = none) :
    Rejected c.view
      (c.recordPretransmissionRejection m message.sourceNode ref message reason).view ref
      message := by
  by_cases hpassed : message.submissionError = none
  · rw [view_recordPretransmissionRejection hcurrent m message.sourceNode ref hpassed reason]
    have herased : ∀ key, (c.view.pending.erase message.key).get? key =
        if key = message.key then none else c.view.pending.get? key :=
      fun key => Dict.get?_erase _ _ _
    cases hsubmitted : message.submitted with
    | true =>
        rw [if_pos rfl]
        refine ⟨rfl, rfl, rfl, ?_, herased,
          (message.setSubmitted false).setSubmissionError reason,
          getElem?_modify_self (getElem?_modify_self hget _) _, rfl, rfl, rfl, rfl⟩
        intro other hne
        exact (List.getElem?_modify_ne _ _ (Ne.symm hne)).trans
          (List.getElem?_modify_ne _ _ (Ne.symm hne))
    | false =>
        rw [if_neg Bool.false_ne_true]
        refine ⟨rfl, rfl, rfl, fun other hne => List.getElem?_modify_ne _ _ (Ne.symm hne),
          herased, message.setSubmissionError reason, getElem?_modify_self hget _, rfl, rfl,
          hsubmitted, rfl⟩
  · obtain ⟨hsubmitted, hpending⟩ := hfailed hpassed
    rw [recordPretransmissionRejection_of_failed m message.sourceNode ref hpassed reason]
    refine ⟨rfl, rfl, rfl, fun _ _ => rfl, ?_, message, hget, rfl, rfl, hsubmitted,
      Option.isSome_iff_ne_none.mpr hpassed⟩
    intro key
    split
    · next hsame => rw [hsame, hpending]
    · rfl

/-- A rate-limit response counts a drop. -/
theorem view_reportRouting (pb : Protobuf) (c : TrafficController) (m : Moment)
    (run : TrafficRunResult) (nodeId : String) (packet : MeshPacket)
    (acknowledgmentOrigin ref : Nat) (message : GeneratedMessage) :
    let x := (c.reportRouting pb m run nodeId packet acknowledgmentOrigin ref message
      ROUTING_ERROR_RATE_LIMIT_EXCEEDED).1.view
    x.frame = c.view.frame ∧ x.messages = c.view.messages ∧ x.pending = c.view.pending ∧
      x.accumulators.messagesByPacket = c.view.accumulators.messagesByPacket ∧
      x.accumulators.dropCounts = addRateLimit pb c.view.accumulators.dropCounts := by
  intro x
  have hx : x = (c.reportRouting pb m run nodeId packet acknowledgmentOrigin ref message
      ROUTING_ERROR_RATE_LIMIT_EXCEEDED).1.view := rfl
  unfold reportRouting at hx
  rw [if_neg (by decide)] at hx
  unfold addRateLimit
  cases hname : pb.routingErrorName ROUTING_ERROR_RATE_LIMIT_EXCEEDED with
  | none =>
      rw [hname] at hx
      rw [hx]
      exact ⟨rfl, rfl, rfl, rfl, rfl⟩
  | some name =>
      rw [hname] at hx
      have hview : x = ((c.modifyAccumulators
          (·.addRoutingTerminal message.sequence)).modifyAccumulators (·.addDrop name)).view :=
        hx.trans (view_publishDrops _ _)
      rw [hview]
      exact ⟨rfl, rfl, rfl, rfl, rfl⟩

/-- No two submissions that are awaited have one key. -/
theorem Awaiting.own {ref other : Nat} {message found : GeneratedMessage}
    (h : c.Awaiting ref message) (hother : c.Awaiting other found)
    (hkey : found.key = message.key) : other = ref := by
  have hpending := hother.pending
  rw [hkey, h.pending] at hpending
  exact (Option.some.inj hpending).symm

/-- Before anything is said the controller follows. -/
theorem follows_nil (pb : Protobuf) {refs : List Nat}
    (hawaiting : ∀ ref ∈ refs, ∃ message, c.Awaiting ref message) :
    Follows pb refs [] c.view c.view where
  frame := rfl
  index := rfl
  drops := rfl
  others := fun _ _ => rfl
  pending := by
    intro ref hmember message hget
    obtain ⟨found, hfound⟩ := hawaiting ref hmember
    cases hget.symm.trans hfound.known
    exact hfound.pending
  messages := by
    intro ref hmember message hget
    obtain ⟨found, hfound⟩ := hawaiting ref hmember
    cases hget.symm.trans hfound.known
    exact ⟨message, hget, rfl, rfl, hfound.unresolved.1, by rw [hfound.unresolved.2]; rfl⟩

section Step

variable {pb : Protobuf} {refs : List Nat} {told : Told} {ref : Nat} {message : GeneratedMessage}
  {m : Moment} {nodeId : String}

/-- The first queue status of a submission settles it, unless a rate limit has. -/
theorem follows_queueStatus (hopen : d.frozenResults = [])
    (h : Follows pb refs told c.view d.view)
    (hawaiting : ∀ ref ∈ refs, ∃ message, c.Awaiting ref message) (hmember : ref ∈ refs)
    (hmessage : c.Awaiting ref message) {status : QueueStatus}
    (hkey : (nodeId, status.meshPacketId) = message.key)
    (hfirst : ∀ entry ∈ told, entry.1 = message.key → entry.2.isQueueStatus = false) :
    Follows pb refs (told ++ [(message.key, .queueStatus status.res)]) c.view
      (d.recordQueueStatus pb m nodeId status).view := by
  have hown : ∀ other ∈ refs, ∀ found, c.view.messages[other]? = some found →
      found.key = message.key → other = ref := by
    intro other hother found hfound hsame
    obtain ⟨awaited, hawaited⟩ := hawaiting other hother
    cases hfound.symm.trans hawaited.known
    exact hmessage.own hawaited hsame
  obtain ⟨now, hnow, hnowKey, hsilent, hsubmitted, hfailed⟩ :=
    h.messages ref hmember message hmessage.known
  have hpending := h.pending ref hmember message hmessage.known
  rcases Told.standing_of_no_status hfirst with hstanding | hstanding
  · rw [hstanding] at hpending hsubmitted hfailed
    have hid : status.meshPacketId ≠ 0 := by
      have hsame : status.meshPacketId = message.packetId := congrArg Prod.snd hkey
      rw [hsame]
      exact hmessage.numbered
    have hunresolved : now.Unresolved := ⟨hsubmitted, by simpa using hfailed⟩
    rw [view_recordQueueStatus pb hopen m hid (by rw [hkey]; exact hpending) hnow hunresolved]
    have herased : ∀ key, (d.view.pending.erase (nodeId, status.meshPacketId)).get? key =
        if key = message.key then none else d.view.pending.get? key := by
      intro key
      rw [Dict.get?_erase, hkey]
    have hafter := Told.standing_status_of_pending status.res hstanding
    by_cases hsuccess : status.res ∈ FIRMWARE_QUEUE_SUCCESS
    · rw [statusError, if_pos hsuccess]
      refine h.report hmember hmessage.known hown rfl rfl rfl
        (fun other hne => List.getElem?_modify_ne _ _ (Ne.symm hne)) herased
        ⟨now.setSubmitted true, getElem?_modify_self hnow _, hnowKey, hsilent, ?_⟩
      rw [hafter]
      simp [hsuccess, GeneratedMessage.setSubmitted, hfailed]
    · rw [statusError, if_neg hsuccess]
      refine h.report hmember hmessage.known hown rfl rfl rfl
        (fun other hne => List.getElem?_modify_ne _ _ (Ne.symm hne)) herased
        ⟨now.setSubmissionError (firmwareQueueError pb status.res),
          getElem?_modify_self hnow _, hnowKey, hsilent, ?_⟩
      rw [hafter]
      simp [hsuccess, GeneratedMessage.setSubmissionError, hsubmitted]
  · rw [hstanding] at hpending
    rw [recordQueueStatus_of_absent pb m (by rw [hkey]; exact hpending)]
    refine h.report hmember hmessage.known hown rfl rfl rfl (fun _ _ => rfl) ?_
      ⟨now, hnow, hnowKey, hsilent, ?_⟩
    · intro key
      split
      · next hsame => rw [hsame]; exact hpending
      · rfl
    · rw [hstanding] at hsubmitted hfailed
      rw [Told.standing_concat_of_failed hstanding, hsubmitted, hfailed]

/-- A rate-limit response fails its submission, whatever was said before. -/
theorem follows_rateLimited {run : TrafficRunResult} (hcurrent : d.current = some run)
    (h : Follows pb refs told c.view d.view)
    (hawaiting : ∀ ref ∈ refs, ∃ message, c.Awaiting ref message) (hmember : ref ∈ refs)
    (hmessage : c.Awaiting ref message) {packet : MeshPacket}
    (hkey : (nodeId, packet.decoded.requestId) = message.key)
    (hparse : pb.parseRouting packet.decoded.payload = some ROUTING_ERROR_RATE_LIMIT_EXCEEDED) :
    Follows pb refs (told ++ [(message.key, .rateLimited)]) c.view
      (d.handleRouting pb m run nodeId packet).1.view := by
  have hown : ∀ other ∈ refs, ∀ found, c.view.messages[other]? = some found →
      found.key = message.key → other = ref := by
    intro other hother found hfound hsame
    obtain ⟨awaited, hawaited⟩ := hawaiting other hother
    cases hfound.symm.trans hawaited.known
    exact hmessage.own hawaited hsame
  obtain ⟨now, hnow, hnowKey, hsilent, hsubmitted, hfailed⟩ :=
    h.messages ref hmember message hmessage.known
  obtain ⟨hardwareId, hhardware, hindex⟩ := hmessage.found
  -- The look-ups of the response read what the controller had before the reports.
  have hnode : nodeId = message.sourceNode := congrArg Prod.fst hkey
  have hid : packet.decoded.requestId = message.packetId := congrArg Prod.snd hkey
  have horigin : d.hardwareIds.get? nodeId = some hardwareId := by
    rw [hnode, ← hhardware]
    exact congrArg (fun f => f.hardwareIds.get? message.sourceNode) h.frame
  have hresolve : d.resolve (d.accumulators.messagesByPacket.get?
      (hardwareId, packet.decoded.requestId)) = some (ref, now) := by
    have hsame : d.accumulators.messagesByPacket = c.accumulators.messagesByPacket := h.index
    have hget : d.messages[ref]? = some now := hnow
    rw [hsame, hid, hindex]
    simp [resolve, hget]
  unfold handleRouting
  rw [horigin]
  dsimp only
  rw [hresolve]
  dsimp only
  rw [hparse]
  dsimp only
  rw [if_pos ⟨rfl, by rw [hsilent, hmessage.silent]; exact Bool.false_ne_true⟩]
  obtain ⟨hframe, hmessages, hpending, hindex, hdrops⟩ := view_reportRouting pb
    (d.recordPretransmissionRejection m nodeId ref now
      "firmware text-message rate limit exceeded") m run nodeId packet hardwareId ref now
  have hpassed : now.submissionError ≠ none →
      now.submitted = false ∧ d.view.pending.get? now.key = none := by
    intro herror
    have hrejected : (told.standing message.key).failed = true := by
      rw [← hfailed]
      exact Option.isSome_iff_ne_none.mpr herror
    have hpending := h.pending ref hmember message hmessage.known
    rw [hnowKey, hpending, hsubmitted]
    refine ⟨Told.not_submitted_of_failed hrejected, ?_⟩
    rw [Told.not_pending_of_failed hrejected]
    rfl
  have hsource : now.sourceNode = nodeId := by
    rw [hnode]
    exact congrArg Prod.fst hnowKey
  have hrejected := rejected_recordPretransmissionRejection hcurrent m hnow
    "firmware text-message rate limit exceeded" hpassed
  rw [hsource] at hrejected
  obtain ⟨after, hafter, hafterKey, hafterSilent, hnot, herror⟩ := hrejected.message
  refine h.report hmember hmessage.known hown (hframe.trans hrejected.frame)
    (hindex.trans hrejected.index) ?_ ?_ ?_ ⟨after, ?_, hafterKey.trans hnowKey,
      hafterSilent.trans hsilent, ?_⟩
  · rw [hdrops, hrejected.drops]
    rfl
  · intro other hne
    rw [hmessages, hrejected.others other hne]
  · intro key
    rw [hpending, hrejected.pending, hnowKey]
  · rw [hmessages, hafter]
  · rw [Told.standing_rateLimited, hnot, herror]

/-- One report about an awaited submission is taken in. -/
theorem follows_handleFromRadio {run : TrafficRunResult} (hcurrent : d.current = some run)
    (hopen : d.frozenResults = []) (haccepts : d.acceptsRunEvents = true)
    (h : Follows pb refs told c.view d.view)
    (hawaiting : ∀ ref ∈ refs, ∃ message, c.Awaiting ref message) (hmember : ref ∈ refs)
    (hmessage : c.Awaiting ref message) {radio : FromRadio} {report : AdmissionReport}
    (hreport : admissionReport pb nodeId radio = some (message.key, report))
    (hfirst : report.isQueueStatus = true →
      ∀ entry ∈ told, entry.1 = message.key → entry.2.isQueueStatus = false) :
    Follows pb refs (told ++ [(message.key, report)]) c.view
      (d.handleFromRadio pb m nodeId radio).1.view := by
  unfold handleFromRadio
  rw [hcurrent]
  dsimp only
  rw [if_neg (not_not.mpr haccepts)]
  cases radio with
  | other => cases hreport
  | queueStatus status =>
      obtain ⟨hkey, hstatus⟩ := Prod.mk.inj (Option.some.inj hreport)
      subst hstatus
      exact follows_queueStatus hopen h hawaiting hmember hmessage hkey (hfirst rfl)
  | packet packet =>
      unfold admissionReport at hreport
      dsimp only at hreport ⊢
      cases hpayload : packet.payload with
      | decoded data =>
          rw [hpayload] at hreport
          dsimp only at hreport
          split at hreport
          · next hlimited =>
              obtain ⟨hport, hrequest, hparse⟩ := hlimited
              obtain ⟨hkey, hstatus⟩ := Prod.mk.inj (Option.some.inj hreport)
              subst hstatus
              have hdata : packet.decoded = data := by
                unfold MeshPacket.decoded
                rw [hpayload]
              dsimp only
              rw [if_neg (by rw [hport]; decide), if_pos ⟨hport, hrequest⟩]
              exact follows_rateLimited hcurrent h hawaiting hmember hmessage
                (by rw [hdata]; exact hkey) (by rw [hdata]; exact hparse)
          · cases hreport
      | _ =>
          rw [hpayload] at hreport
          cases hreport

end Step

end TrafficController

/-! ## Any list of reports -/

/-- What a list of messages from radios says. -/
def toldBy (pb : Protobuf) (reports : List (Moment × String × FromRadio)) : Told :=
  reports.filterMap fun report => admissionReport pb report.2.1 report.2.2

namespace TrafficTasks

variable {s t u : TrafficTasks}

/-- The message from a radio, with its moment and its node, is handled. -/
def Action.handling (report : Moment × String × FromRadio) : Action :=
  .fromRadio report.1 report.2.1 report.2.2

/-- The message from a radio reports on one of these messages. -/
def About (pb : Protobuf) (c : TrafficController) (refs : List Nat)
    (report : Moment × String × FromRadio) : Prop :=
  ∃ ref ∈ refs, ∃ message, c.messages[ref]? = some message ∧
    (admissionReport pb report.2.1 report.2.2).map Prod.fst = some message.key

/-- A controller that has taken in some reports has its run and accepts. -/
theorem ready_of_follows {pb : Protobuf} {refs : List Nat} {told : Told}
    {c d : TrafficController} (h : Follows pb refs told c.view d.view)
    (hopen : c.frozenResults = []) (haccepts : c.acceptsRunEvents = true) {ref : Nat}
    {message : GeneratedMessage} (hget : c.messages[ref]? = some message) :
    d.frozenResults = [] ∧ d.acceptsRunEvents = true ∧ ∃ run, d.current = some run := by
  have hframe : d.frame = c.frame := h.frame
  have hdopen := TrafficController.opened_of_frame hframe hopen
  refine ⟨hdopen, ?_, ?_⟩
  · have hphase : d.phase = c.phase := congrArg Frame.phase hframe
    have hstate : d.state = c.state := congrArg Frame.state hframe
    unfold TrafficController.acceptsRunEvents at haccepts ⊢
    rw [hphase, hstate]
    exact haccepts
  · rw [TrafficController.current_of_open hdopen]
    have hrequest : d.run.map (fun run => (run.runId, run.request)) =
        c.run.map fun run => (run.runId, run.request) := congrArg Frame.request hframe
    cases hrun : c.run with
    | none =>
        unfold TrafficController.messages at hget
        rw [hrun] at hget
        cases hget
    | some run =>
        rw [hrun] at hrequest
        obtain ⟨found, hfound, _⟩ := Option.map_eq_some_iff.mp hrequest
        exact ⟨found, hfound⟩

/-- Reports about awaited submissions are taken in, in any order. -/
theorem follows_reports (pb : Protobuf) {c : TrafficController} {refs : List Nat}
    (hopen : c.frozenResults = []) (haccepts : c.acceptsRunEvents = true)
    (hawaiting : ∀ ref ∈ refs, ∃ message, c.Awaiting ref message)
    (reports : List (Moment × String × FromRadio))
    (habout : ∀ report ∈ reports, About pb c refs report) {told : Told}
    (honce : Told.OneStatus (told ++ toldBy pb reports))
    (h : Follows pb refs told c.view s.controller.view) :
    ∃ t, exec (TrafficTasks.step pb) (reports.map Action.handling) s = some t ∧
      Follows pb refs (told ++ toldBy pb reports) c.view t.controller.view := by
  induction reports generalizing s told with
  | nil => exact ⟨s, rfl, by simpa [toldBy] using h⟩
  | cons first rest ih =>
      obtain ⟨m, nodeId, radio⟩ := first
      obtain ⟨ref, hmember, message, hget, hkey⟩ := habout _ List.mem_cons_self
      obtain ⟨⟨key, report⟩, hreport, rfl⟩ := Option.map_eq_some_iff.mp hkey
      obtain ⟨awaited, hmessage⟩ := hawaiting ref hmember
      cases hget.symm.trans hmessage.known
      have htold : toldBy pb ((m, nodeId, radio) :: rest) =
          [(message.key, report)] ++ toldBy pb rest := by
        simp [toldBy, hreport]
      rw [htold, ← List.append_assoc] at honce ⊢
      obtain ⟨hsopen, hsaccepts, run, hcurrent⟩ := ready_of_follows h hopen haccepts hget
      have hfirst : report.isQueueStatus = true →
          ∀ entry ∈ told, entry.1 = message.key → entry.2.isQueueStatus = false :=
        Told.no_status_before (honce.sublist (List.Sublist.map _
          ((List.sublist_append_left _ (toldBy pb rest)).filter _)))
      have hnext := TrafficController.follows_handleFromRadio (m := m) hcurrent hsopen hsaccepts h
        hawaiting hmember hmessage hreport hfirst
      exact ih (fun other hother => habout other (List.mem_cons_of_mem _ hother)) honce
        (s := s.withController (s.controller.handleFromRadio pb m nodeId radio).1) hnext

/-! ## What a run knows of its messages -/

/-- The packet identifiers that an action draws. -/
def Action.draws : Action → List Nat
  | .run _ (.submit _ _ _ draws) => draws
  | _ => []

/-- `randrange(1, 0xFFFFFFFF)` does not return 0. -/
def DrawsNumbers (a : Action) : Prop := ∀ packetId ∈ a.draws, packetId ≠ 0

/-- The condition on a step under which a report finds the message it is about. -/
def FindsReported (pb : Protobuf) (s : TrafficTasks) (a : Action) : Prop :=
  DistinguishesResponses pb s a ∧ Attributes pb s a ∧ DrawsNumbers a

instance (a : Action) : Decidable (DrawsNumbers a) :=
  inferInstanceAs (Decidable (∀ packetId ∈ a.draws, packetId ≠ 0))

instance (pb : Protobuf) (s : TrafficTasks) (a : Action) : Decidable (FindsReported pb s a) :=
  inferInstanceAs (Decidable (_ ∧ _))

end TrafficTasks

/-- Every message has a source with a hardware id and an identifier other than 0. -/
def Watch.Issued (v : Watch) : Prop :=
  ∀ identity ∈ v.identities, (v.hardwareIds.get? identity.1).isSome = true ∧ identity.2 ≠ 0

theorem Watch.Issued.congr {v w : Watch} (h : v.Issued) (hidentities : w.identities = v.identities)
    (hhardware : w.hardwareIds = v.hardwareIds) : w.Issued := by
  unfold Watch.Issued
  rw [hidentities, hhardware]
  exact h

/-- An allocated identifier has been drawn. -/
theorem PacketIds.mem_of_allocateFresh {ids ids' : PacketIds} {source : String} {now : ℚ}
    {draws : List Nat} {packetId : Nat}
    (h : ids.allocateFresh source now draws = some (packetId, ids')) : packetId ∈ draws := by
  induction draws with
  | nil => cases h
  | cons draw rest ih =>
      unfold allocateFresh at h
      split at h
      · obtain ⟨rfl, _⟩ := Prod.mk.inj (Option.some.inj h)
        exact List.mem_cons_self
      · exact List.mem_cons_of_mem _ (ih h)

namespace TrafficTasks

variable {s t u : TrafficTasks}

/-- A call of `_submit` issues the message an identifier that it has drawn. -/
theorem issued_submitHandled (pb : Protobuf) (h : s.controller.watch.Issued)
    (hopen : s.controller.frozenResults = []) (m : Moment) (flow source pick : Nat)
    {draws : List Nat} (hdraws : ∀ packetId ∈ draws, packetId ≠ 0) :
    (s.submitHandled pb m flow source pick draws).watch.Issued := by
  cases hcall : s.submission flow source pick with
  | none =>
      rw [submitHandled_of_none pb m hcall draws]
      exact h
  | some call =>
      obtain ⟨from_, destination, name⟩ := call
      cases submitted_submitHandled pb hopen m hcall draws with
      | nothing hnone hwatch =>
          rw [hwatch]
          exact h
      | reserved packetId ids hallocation hwatch =>
          rw [hwatch]
          exact h
      | generated packetId hardwareId ids hallocation hhardware hdoes =>
          have hkeys := hdoes.sameKeys_of_none
          refine Watch.Issued.congr ?_ hkeys.identities hkeys.hardwareIds
          intro identity hmember
          rcases List.mem_append.mp hmember with hold | hnew
          · exact h identity hold
          · cases List.mem_singleton.mp hnew
            refine ⟨Option.isSome_iff_exists.mpr ⟨hardwareId, hhardware⟩, hdraws packetId ?_⟩
            exact PacketIds.mem_of_allocateFresh
              (TrafficController.allocate_of_submitAllocation hallocation)

/-- Looking up a packet issues nothing. -/
theorem issued_identified (pb : Protobuf) {c : TrafficController} (h : c.watch.Issued)
    (packet : MeshPacket) (transmitter : String) :
    (c.identified pb packet transmitter).watch.Issued := by
  unfold TrafficController.identified
  rcases TrafficController.messageForPacketIdentity_cases pb c packet (some transmitter) with
    ⟨_, hsame⟩ | ⟨response, _, hsame⟩
  · rw [hsame]
    exact h
  · rw [hsame]
    exact h

/-- Every handler leaves the messages issued. -/
theorem issued_handled (pb : Protobuf) (hstructured : Structured s)
    (h : s.controller.watch.Issued) {a : Action} (hdraws : DrawsNumbers a)
    (hstep : step pb s a = some t) : (s.handled pb a).watch.Issued := by
  have hkeep : ∀ {w : Watch}, Watch.SameKeys s.controller.watch w → w.Issued :=
    fun hsame => h.congr hsame.identities hsame.hardwareIds
  cases a with
  | fromRadio m nodeId message =>
      exact hkeep ((TrafficController.does_handleFromRadio pb s.controller m nodeId
        message).sameKeys TrafficController.keyless_mayReport)
  | rfTransmission m transmitter packet packetAirtimeMs =>
      rcases TrafficController.counts_recordRfTransmission pb s.controller m transmitter packet
        packetAirtimeMs with hsame | ⟨_, hcounts⟩
      · dsimp only [TrafficTasks.handled]
        rw [hsame]
        exact h
      · have hkeys := hcounts.sameKeys TrafficController.keyless_mayCount
        exact (issued_identified pb h packet transmitter).congr hkeys.identities
          hkeys.hardwareIds
  | drop m transmitter packet reason =>
      rcases TrafficController.counts_recordDrop pb s.controller m transmitter packet reason with
        hsame | ⟨_, hcounts⟩
      · dsimp only [TrafficTasks.handled]
        rw [hsame]
        exact h
      · have hkeys := hcounts.sameKeys TrafficController.keyless_mayCount
        exact (issued_identified pb h packet transmitter).congr hkeys.identities
          hkeys.hardwareIds
  | failedReceptions m nodeId total =>
      exact hkeep ((TrafficController.samples_recordFailedReceptions s.controller m nodeId
        total).sameKeys TrafficController.keyless_maySample)
  | duplicateReceptions m nodeId total =>
      exact hkeep ((TrafficController.samples_recordDuplicateReceptions s.controller m nodeId
        total).sameKeys TrafficController.keyless_maySample)
  | run m input =>
      cases input with
      | submit flow source pick draws =>
          exact issued_submitHandled pb h (hstructured.open_of_submit hstep) m flow source pick
            hdraws
      | sampled answer =>
          exact hkeep ((TrafficController.samples_applyFinalSample s.controller m
            answer).sameKeys TrafficController.keyless_maySample)
      | _ => exact h
  | resume i m input =>
      cases input with
      | sampled answer =>
          exact hkeep ((TrafficController.samples_applyFinalSample s.controller m
            answer).sameKeys TrafficController.keyless_maySample)
      | _ => exact h
  | _ => exact h

theorem issued_step (pb : Protobuf) (hstructured : Structured s)
    (h : s.controller.watch.Issued) {a : Action} (hdraws : DrawsNumbers a)
    (hstep : step pb s a = some t) : t.controller.watch.Issued := by
  cases hstarts : a.starts with
  | false =>
      have hdoes : Watch.Does Watch.NoDeed (s.handled pb a).watch t.controller.watch :=
        does_step pb hstarts hstep
      have hkeys := hdoes.sameKeys_of_none
      exact (issued_handled pb hstructured h hdraws hstep).congr hkeys.identities
        hkeys.hardwareIds
  | true =>
      cases a with
      | start m runId request scenarioSnapshot baseline =>
          rcases watch_start hstep with rfl | ⟨_, ids, _, rfl⟩ | ⟨ids, _, _, _, hwatch⟩
          · exact h
          · exact h
          · rw [hwatch]
            intro identity hmember
            cases hmember
      | _ => cases hstarts

/-- What holds in every state of a run whose reports find their messages. -/
structure Findable (s : TrafficTasks) : Prop extends Exact s where
  keyed : s.controller.watch.Keyed
  issued : s.controller.watch.Issued

theorem Findable.step (pb : Protobuf) (h : Findable s) {a : Action}
    (hfinds : FindsReported pb s a) (hstep : step pb s a = some t) : Findable t where
  toExact := h.toExact.step pb hfinds.2.1 hstep
  keyed :=
    (Attributable.step pb ⟨h.toExact.toSound, h.keyed⟩ hfinds.1 hstep).keyed
  issued := issued_step pb h.structured h.issued hfinds.2.2 hstep

/-- An unresolved message awaits its reports. -/
theorem Findable.awaiting (h : Findable s) {ref : Nat} {message : GeneratedMessage}
    (hget : s.controller.messages[ref]? = some message) (hunresolved : message.Unresolved) :
    s.controller.Awaiting ref message := by
  obtain ⟨kind, hledger⟩ := h.toExact.toSound.ledger
  have hmember : message ∈ s.controller.messages := List.mem_of_getElem? hget
  have hidentity : s.controller.watch.identities[ref]? =
      some (message.sourceNode, message.packetId) :=
    TrafficController.identities_getElem?.mpr ⟨message, hget, rfl, rfl⟩
  obtain ⟨hhardware, hnumbered⟩ := h.issued _ (List.mem_of_getElem? hidentity)
  obtain ⟨hardwareId, hhardware⟩ := Option.isSome_iff_exists.mp hhardware
  refine ⟨hget, hunresolved, ?_, hnumbered, h.admitted.pending_of_unresolved hget hunresolved,
    hardwareId, hhardware, h.keyed.correlated ref _ _ hardwareId hidentity hhardware⟩
  by_contra htransmitted
  have hsubmitted := (hledger.sound message hmember).transmitted (by simpa using htransmitted)
  rw [hunresolved.1] at hsubmitted
  cases hsubmitted

/-! ## Every order of the reports -/

/-- Two controllers classify and count the submissions alike. -/
structure SameAdmission (refs : List Nat) (c d : TrafficController) : Prop where
  standing : ∀ ref ∈ refs, d.standing ref = c.standing ref
  submitted : d.accumulators.submittedCount = c.accumulators.submittedCount
  submissionFailed :
    d.accumulators.submissionFailedCount = c.accumulators.submissionFailedCount
  dropCounts : d.accumulators.dropCounts = c.accumulators.dropCounts

/-- A controller that follows classifies each submission by what was said of it. -/
theorem standing_of_follows {pb : Protobuf} {refs : List Nat} {told : Told}
    {c d : TrafficController} (h : Follows pb refs told c.view d.view) {ref : Nat}
    (hmember : ref ∈ refs) {message : GeneratedMessage} (hget : c.messages[ref]? = some message) :
    d.standing ref = some (told.standing message.key) := by
  obtain ⟨now, hnow, hkey, _, hsubmitted, hfailed⟩ := h.messages ref hmember message hget
  have hpending : d.accumulators.pendingSubmissions.get? message.key =
      if (told.standing message.key).pending then some ref else none :=
    h.pending ref hmember message hget
  have hmessage : d.messages[ref]? = some now := hnow
  unfold TrafficController.standing
  rw [hmessage]
  simp only [Option.map_some, Option.some.injEq, hkey, hpending, hsubmitted, hfailed]
  generalize told.standing message.key = standing
  obtain ⟨pending, _, _⟩ := standing
  cases pending with
  | true => simp
  | false => simp

/-- What a message counts for. -/
def outcome (message : GeneratedMessage) : Bool × Bool :=
  (message.submitted, message.submissionError.isSome)

/-- Controllers that follow the same reports in different orders hold messages with the
same outcomes. -/
theorem outcomes_of_follows {pb : Protobuf} {refs : List Nat} {told reordered : Told}
    (hperm : told.Perm reordered) {c d e : TrafficController}
    (hrefs : ∀ ref ∈ refs, ∃ message, c.messages[ref]? = some message)
    (hd : Follows pb refs told c.view d.view) (he : Follows pb refs reordered c.view e.view) :
    e.messages.map outcome = d.messages.map outcome := by
  apply List.ext_getElem?
  intro ref
  rw [List.getElem?_map, List.getElem?_map]
  by_cases hmember : ref ∈ refs
  · obtain ⟨message, hget⟩ := hrefs ref hmember
    obtain ⟨first, hfirst, _, _, hsubmitted, hfailed⟩ := hd.messages ref hmember message hget
    obtain ⟨second, hsecond, _, _, hsubmitted', hfailed'⟩ :=
      he.messages ref hmember message hget
    have hfirst : d.messages[ref]? = some first := hfirst
    have hsecond : e.messages[ref]? = some second := hsecond
    rw [Told.standing_perm hperm] at hsubmitted' hfailed'
    rw [hfirst, hsecond]
    simp only [Option.map_some, outcome, hsubmitted, hfailed, hsubmitted', hfailed']
  · have hfirst : d.messages[ref]? = c.messages[ref]? := hd.others ref hmember
    have hsecond : e.messages[ref]? = c.messages[ref]? := he.others ref hmember
    rw [hfirst, hsecond]

theorem toldBy_perm (pb : Protobuf) {reports reordered : List (Moment × String × FromRadio)}
    (hperm : (reports.map Prod.snd).Perm (reordered.map Prod.snd)) :
    (toldBy pb reports).Perm (toldBy pb reordered) := by
  have hmap : ∀ l : List (Moment × String × FromRadio), toldBy pb l =
      (l.map Prod.snd).filterMap fun report => admissionReport pb report.1 report.2 := by
    intro l
    rw [List.filterMap_map]
    rfl
  rw [hmap, hmap]
  exact hperm.filterMap _

section Runs

variable {scenario : Scenario} {hardwareIds : Dict String Nat} {buildMetadata : BuildMetadata}
  {settleSeconds : Option ℚ} {failedReceptionSampler : Bool}

theorem findable_of_run (pb : Protobuf)
    (hdistinct : ∀ a b hardwareId, hardwareIds.get? a = some hardwareId →
      hardwareIds.get? b = some hardwareId → a = b)
    (hrun : Run (step pb) (FindsReported pb)
      (.new scenario hardwareIds buildMetadata settleSeconds failedReceptionSampler) s) :
    Findable s := by
  refine hrun.invariant (fun _ _ _ h hfinds hstep => h.step pb hfinds hstep) ?_
  refine ⟨exact_new _ _ _ _ _, ⟨hdistinct, ?_, ?_⟩, ?_⟩
  · intro ref source packetId hget
    cases hget
  · intro ref source packetId hardwareId hget
    cases hget
  · intro identity hmember
    cases hmember

/-- In a run whose reports find their messages, every order of the reports about
unresolved messages ends with the classification that was said, and with the same
counters. -/
theorem admission_of_run (pb : Protobuf)
    (hdistinct : ∀ a b hardwareId, hardwareIds.get? a = some hardwareId →
      hardwareIds.get? b = some hardwareId → a = b)
    (hrun : Run (step pb) (FindsReported pb)
      (.new scenario hardwareIds buildMetadata settleSeconds failedReceptionSampler) s)
    (haccepts : s.controller.acceptsRunEvents = true) {refs : List Nat}
    (hsubmitted : ∀ ref ∈ refs, ∃ message, s.controller.messages[ref]? = some message ∧
      message.Unresolved)
    {reports reordered : List (Moment × String × FromRadio)}
    (habout : ∀ report ∈ reports, About pb s.controller refs report)
    (honce : (toldBy pb reports).OneStatus)
    (hperm : (reports.map Prod.snd).Perm (reordered.map Prod.snd)) :
    ∃ t u, exec (step pb) (reports.map Action.handling) s = some t ∧
      exec (step pb) (reordered.map Action.handling) s = some u ∧
      (∀ ref ∈ refs, ∀ message, s.controller.messages[ref]? = some message →
        t.controller.standing ref = some ((toldBy pb reports).standing message.key)) ∧
      SameAdmission refs t.controller u.controller := by
  have hfindable := findable_of_run pb hdistinct hrun
  have hsound := hfindable.toExact.toSound
  have hopen : s.controller.frozenResults = [] :=
    TrafficController.open_of_accepts hsound.structured.controlled.frozen haccepts
  have hawaiting : ∀ ref ∈ refs, ∃ message, s.controller.Awaiting ref message := by
    intro ref hmember
    obtain ⟨message, hget, hunresolved⟩ := hsubmitted ref hmember
    exact ⟨message, hfindable.awaiting hget hunresolved⟩
  have htold := toldBy_perm pb hperm
  have habout' : ∀ report ∈ reordered, About pb s.controller refs report := by
    intro report hmember
    have hmapped : report.2 ∈ reports.map Prod.snd :=
      hperm.mem_iff.mpr (List.mem_map_of_mem hmember)
    obtain ⟨original, horiginal, hsame⟩ := List.mem_map.mp hmapped
    have horiginalAbout := habout original horiginal
    unfold About at horiginalAbout ⊢
    rw [← hsame]
    exact horiginalAbout
  have honce' : (toldBy pb reordered).OneStatus :=
    ((htold.filter _).map Prod.fst).nodup_iff.mp honce
  have hstart := TrafficController.follows_nil pb hawaiting
  obtain ⟨t, ht, hfollowsT⟩ := follows_reports pb hopen haccepts hawaiting reports habout
    (by rw [List.nil_append]; exact honce) hstart
  obtain ⟨u, hu, hfollowsU⟩ := follows_reports pb hopen haccepts hawaiting reordered habout'
    (by rw [List.nil_append]; exact honce') hstart
  have hstanding : ∀ ref ∈ refs, ∀ message, s.controller.messages[ref]? = some message →
      t.controller.standing ref = some ((toldBy pb reports).standing message.key) :=
    fun ref hmember message hget => standing_of_follows hfollowsT hmember hget
  have hsoundT : Sound t := (Run.of_exec ht (conforms_always _ _)).invariant
    (fun _ _ _ h _ hstep => h.step pb hstep) hsound
  have hsoundU : Sound u := (Run.of_exec hu (conforms_always _ _)).invariant
    (fun _ _ _ h _ hstep => h.step pb hstep) hsound
  obtain ⟨_, hledgerT⟩ := hsoundT.ledger
  obtain ⟨_, hledgerU⟩ := hsoundU.ledger
  have houtcomes := outcomes_of_follows htold
    (fun ref hmember => (hsubmitted ref hmember).imp fun _ h => h.1) hfollowsT hfollowsU
  have hcount : ∀ p : Bool × Bool → Bool,
      u.controller.messages.countP (p ∘ outcome) = t.controller.messages.countP (p ∘ outcome) := by
    intro p
    rw [← List.countP_map, ← List.countP_map, houtcomes]
  refine ⟨t, u, ht, hu, hstanding, ?_, ?_, ?_, ?_⟩
  · intro ref hmember
    obtain ⟨message, hget, _⟩ := hsubmitted ref hmember
    rw [hstanding ref hmember message hget, standing_of_follows hfollowsU hmember hget]
    exact congrArg some (Told.standing_perm htold message.key)
  · rw [hledgerU.submitted, hledgerT.submitted]
    exact hcount Prod.fst
  · rw [hledgerU.submissionFailed, hledgerT.submissionFailed]
    exact hcount Prod.snd
  · have hdropsT : t.controller.accumulators.dropCounts = _ := hfollowsT.drops
    have hdropsU : u.controller.accumulators.dropCounts = _ := hfollowsU.drops
    have hlimits : Told.rateLimits (toldBy pb reordered) = Told.rateLimits (toldBy pb reports) :=
      htold.countP_eq _ |>.symm
    rw [hdropsT, hdropsU, List.nil_append, List.nil_append, hlimits]

end Runs

/-! ## Reports about crossing messages -/

section Pair

/-- The firmware of a node rejects a message of this identifier. -/
def rateLimitFor (nodeId : String) (node packetId : Nat) : Moment × String × FromRadio :=
  (pairMoment, nodeId, .packet (routingPacket node node 11 packetId 38))

def queueStatusFor (nodeId : String) (packetId : Nat) (res : Int) :
    Moment × String × FromRadio :=
  (pairMoment, nodeId, .queueStatus { meshPacketId := packetId, res := res })

/-- The first message is on the air and its acknowledgment has the identifier of the
second one, which is in `send_to_radio`. -/
def crossingOnAir : List Action :=
  crossing ++
    [.handling (queueStatusFor "node-1" 7 0),
      .rfTransmission pairMoment "node-1"
        { from_ := 1, to_ := 2, id := 7, payload := .decoded { portnum := TEXT_MESSAGE_APP } } 50,
      .rfTransmission pairMoment "node-2" (routingPacket 2 1 9 7 0) 50]

/-- In this run the firmware rejects the second message, and it stays pending. -/
theorem namesake_rejection_lost :
    ∃ s t, Run (step pairProtobuf) Always pairTasks s ∧
      s.controller.acceptsRunEvents = true ∧
      (∃ message, s.controller.messages[1]? = some message ∧ message.Unresolved) ∧
      About pairProtobuf s.controller [1] (rateLimitFor "node-2" 2 9) ∧
      exec (step pairProtobuf) ([rateLimitFor "node-2" 2 9].map Action.handling) s = some t ∧
      t.controller.standing 1 = some { pending := true, submitted := false, failed := false } ∧
      (toldBy pairProtobuf [rateLimitFor "node-2" 2 9]).standing ("node-2", 9) =
        { pending := false, submitted := false, failed := true } := by
  have hstate : (exec (step pairProtobuf) crossingOnAir pairTasks).map (fun s =>
      (s.controller.acceptsRunEvents,
        (s.controller.messages[1]?).map (fun message =>
          (message.key, !message.submitted && message.submissionError.isNone)),
        (exec (step pairProtobuf) ([rateLimitFor "node-2" 2 9].map Action.handling) s).bind
          fun t => t.controller.standing 1)) =
      some (true, some (("node-2", 9), true),
        some { pending := true, submitted := false, failed := false }) := by
    decide +kernel
  obtain ⟨s, hexec, hstate⟩ := Option.map_eq_some_iff.mp hstate
  obtain ⟨haccepts, hstate⟩ := Prod.mk.inj hstate
  obtain ⟨hmessage, hafter⟩ := Prod.mk.inj hstate
  obtain ⟨message, hget, hmessage⟩ := Option.map_eq_some_iff.mp hmessage
  obtain ⟨hkey, hunresolved⟩ := Prod.mk.inj hmessage
  have hunresolved : message.Unresolved := by
    unfold GeneratedMessage.Unresolved
    simpa using hunresolved
  obtain ⟨t, hexecT, hstanding⟩ := Option.bind_eq_some_iff.mp hafter
  have habout : About pairProtobuf s.controller [1] (rateLimitFor "node-2" 2 9) :=
    ⟨1, List.mem_singleton_self 1, message, hget, by rw [hkey]; decide⟩
  exact ⟨s, t, .of_exec hexec (conforms_always _ _), haccepts,
    ⟨message, hget, hunresolved⟩, habout, hexecT, hstanding, by decide⟩

/-- Two messages in flight: the first is taken and then rejected, the second taken. -/
def crossingReports : List (Moment × String × FromRadio) :=
  [queueStatusFor "node-1" 7 0, rateLimitFor "node-1" 1 7, queueStatusFor "node-2" 9 0]

/-- The same reports, the rejection first. -/
def crossingReordered : List (Moment × String × FromRadio) :=
  [rateLimitFor "node-1" 1 7, queueStatusFor "node-2" 9 0, queueStatusFor "node-1" 7 0]

/-- Both orders end with the first message failed and the second submitted. -/
theorem crossing_admitted_alike :
    ∃ s t u, exec (step pairProtobuf) crossing pairTasks = some s ∧
      exec (step pairProtobuf) (crossingReports.map Action.handling) s = some t ∧
      exec (step pairProtobuf) (crossingReordered.map Action.handling) s = some u ∧
      t.controller.standing 0 = some { pending := false, submitted := false, failed := true } ∧
      SameAdmission [0, 1] t.controller u.controller := by
  have hstate : (exec (step pairProtobuf) crossing pairTasks).map (fun s =>
      (s.controller.acceptsRunEvents, s.controller.messages.map fun message =>
        (message.key, !message.submitted && message.submissionError.isNone))) =
      some (true, [(("node-1", 7), true), (("node-2", 9), true)]) := by
    decide +kernel
  have hfinds : Conforms (step pairProtobuf) (FindsReported pairProtobuf) crossing
      pairTasks := by
    decide +kernel
  obtain ⟨s, hexec, hstate⟩ := Option.map_eq_some_iff.mp hstate
  obtain ⟨haccepts, hmessages⟩ := Prod.mk.inj hstate
  have hentry : ∀ (ref : Nat) (key : String × Nat),
      [(("node-1", 7), true), (("node-2", 9), true)][ref]? = some (key, true) →
        ∃ message, s.controller.messages[ref]? = some message ∧ message.key = key ∧
          message.Unresolved := by
    intro ref key hkey
    rw [← hmessages, List.getElem?_map] at hkey
    obtain ⟨message, hget, hpair⟩ := Option.map_eq_some_iff.mp hkey
    obtain ⟨hkey, hunresolved⟩ := Prod.mk.inj hpair
    refine ⟨message, hget, hkey, ?_⟩
    unfold GeneratedMessage.Unresolved
    simpa using hunresolved
  obtain ⟨first, hfirst, hfirstKey, hfirstUnresolved⟩ := hentry 0 ("node-1", 7) rfl
  obtain ⟨second, hsecond, hsecondKey, hsecondUnresolved⟩ := hentry 1 ("node-2", 9) rfl
  have hsubmitted : ∀ ref ∈ [0, 1], ∃ message, s.controller.messages[ref]? = some message ∧
      message.Unresolved := by
    intro ref hmember
    simp only [List.mem_cons, List.not_mem_nil, or_false] at hmember
    rcases hmember with rfl | rfl
    · exact ⟨first, hfirst, hfirstUnresolved⟩
    · exact ⟨second, hsecond, hsecondUnresolved⟩
  have habout : ∀ report ∈ crossingReports, About pairProtobuf s.controller [0, 1] report := by
    intro report hmember
    simp only [crossingReports, List.mem_cons, List.not_mem_nil, or_false] at hmember
    rcases hmember with rfl | rfl | rfl
    · exact ⟨0, by decide, first, hfirst, by rw [hfirstKey]; decide⟩
    · exact ⟨0, by decide, first, hfirst, by rw [hfirstKey]; decide⟩
    · exact ⟨1, by decide, second, hsecond, by rw [hsecondKey]; decide⟩
  have honce : (toldBy pairProtobuf crossingReports).OneStatus := by
    unfold Told.OneStatus
    decide
  have hperm : (crossingReports.map Prod.snd).Perm (crossingReordered.map Prod.snd) := by
    decide
  obtain ⟨t, u, ht, hu, hstanding, hsame⟩ := admission_of_run pairProtobuf pair_distinct
    (.of_exec hexec hfinds) haccepts hsubmitted habout honce hperm
  refine ⟨s, t, u, hexec, ht, hu, ?_, hsame⟩
  rw [hstanding 0 (by decide) first hfirst, hfirstKey]
  decide

end Pair

end TrafficTasks

end MeshtasticLab.Traffic

/-
  Traffic/Entries.lean --- the entries that handlers make in the books of a run.

  WHAT THIS FILE IS FOR

  The `View` of a controller is what the accounting of a run reads.  An `Entry` is
  one change of a view, abstract from the packets and calls that cause it: a
  message is generated, resolved, transmitted, delivered, acknowledged or
  rejected, or the records grow.  Every handler comes down to a sequence of
  entries (`Traffic/Frames`), so that what entries preserve, all runs preserve.

  An entry is `strict` when it also meets the conditions under which the pending
  submissions stay in step with the messages.
-/
import MeshtasticLab.Traffic.Ledger
import Mathlib.Logic.Relation

set_option autoImplicit false

namespace MeshtasticLab.Traffic

open MeshtasticLab.Foundation MeshtasticLab.Models
open TrafficController (isApplicableReceiver)

/-- The fields of a controller that no handler of events changes: the configuration,
the lifecycle of the run, its identity and its scenario. -/
structure Frame where
  hardwareIds : Dict String Nat
  buildMetadata : BuildMetadata
  settleSeconds : Option ℚ
  failedReceptionSampler : Bool
  state : TrafficRunState
  request : Option (String × TrafficRunRequest)
  frozen : Nat
  finalizationDone : Bool
  finalizationWaitTimedOut : Bool
  phase : TrafficRunPhase
  drainDeadlineMonotonic : Option ℚ
  eventStreamId : Option String
  runScenario : Scenario

/-- What the accounting of a run reads. -/
structure View where
  messages : List GeneratedMessage
  accumulators : Accumulators
  packetIds : PacketIds
  frame : Frame

namespace View

/-- The kind of the run. -/
def kind (v : View) : Option TrafficKind := v.frame.request.map (·.2.kind)

/-- The node ids of the run scenario. -/
def nodeIds (v : View) : List String := v.frame.runScenario.nodeIds

/-- The receivers that one message of this kind can reach. -/
def opportunities (v : View) (kind : TrafficKind) : Nat :=
  match kind with
  | .broadcastText => v.frame.runScenario.nodes.length - 1
  | .directText => 1

/-- The pending submissions. -/
def pending (v : View) : Dict (String × Nat) Nat := v.accumulators.pendingSubmissions

def modifyMessage (v : View) (ref : Nat) (f : GeneratedMessage → GeneratedMessage) : View :=
  { v with messages := v.messages.modify ref f }

def modifyAccumulators (v : View) (f : Accumulators → Accumulators) : View :=
  { v with accumulators := f v.accumulators }

def popPending (v : View) (key : String × Nat) : View :=
  v.modifyAccumulators (·.popPending key)

def markSubmitted (v : View) (ref : Nat) : View :=
  (v.modifyMessage ref (·.setSubmitted true)).modifyAccumulators (·.addSubmitted)

def unmarkSubmitted (v : View) (ref : Nat) : View :=
  (v.modifyMessage ref (·.setSubmitted false)).modifyAccumulators (·.removeSubmitted)

def markFailed (v : View) (ref : Nat) (error : String) : View :=
  (v.modifyMessage ref (·.setSubmissionError error)).modifyAccumulators (·.addSubmissionFailed)

/-- The outcome of a submission: an error, or none. -/
def resolve (v : View) (ref : Nat) (error : Option String) : View :=
  match error with
  | none => v.markSubmitted ref
  | some error => v.markFailed ref error

/-- The message is generated under fresh identifiers. -/
def generate (v : View) (kind : TrafficKind) (message : GeneratedMessage) (ids : PacketIds) :
    View :=
  { v with
    messages := v.messages ++ [message]
    packetIds := ids
    accumulators :=
      ((v.accumulators.nextSequence).addGenerated (v.opportunities kind)).addPending
        (message.sourceNode, message.packetId) v.messages.length }

end View

/-- The key under which a message is pending. -/
def GeneratedMessage.key (message : GeneratedMessage) : String × Nat :=
  (message.sourceNode, message.packetId)

/-- No outcome of the submission is known. -/
def GeneratedMessage.Unresolved (message : GeneratedMessage) : Prop :=
  message.submitted = false ∧ message.submissionError = none

/-- A change of the accumulators that no account reads. -/
structure Quiet (f : Accumulators → Accumulators) : Prop where
  ledger : ∀ acc : Accumulators, acc.SameLedger (f acc)
  records : ∀ acc : Accumulators, acc.SameRecords (f acc)
  pending : ∀ acc : Accumulators, (f acc).pendingSubmissions = acc.pendingSubmissions

/-- A message as `_submit` makes it. -/
structure GeneratedMessage.Fresh (message : GeneratedMessage) : Prop where
  submitted : message.submitted = false
  submissionError : message.submissionError = none
  transmitted : message.transmitted = false
  deliveredTo : message.deliveredTo = []
  acknowledged : message.acknowledged = false

/-- One change of the view of a run. -/
inductive Entry (strict : Prop) (v : View) : View → Prop where
  | quiet (f : Accumulators → Accumulators) (hquiet : Quiet f) :
      Entry strict v (v.modifyAccumulators f)
  | transmission (transmitter : String) (packetAirtimeMs : Nat) :
      Entry strict v (v.modifyAccumulators (·.addTransmission transmitter packetAirtimeMs))
  | drop (reason : String) : Entry strict v (v.modifyAccumulators (·.addDrop reason))
  | control (frame : Frame) (hrequest : frame.request = v.frame.request)
      (hscenario : frame.runScenario = v.frame.runScenario) :
      Entry strict v { v with frame := frame }
  | sequence : Entry strict v (v.modifyAccumulators (·.nextSequence))
  | reserve (ids : PacketIds)
      (hused : ∀ source packetId, (v.packetIds.used source).get? packetId ≠ none →
        (ids.used source).get? packetId ≠ none) :
      Entry strict v { v with packetIds := ids }
  | generate (kind : TrafficKind) (message : GeneratedMessage) (ids : PacketIds)
      (hkind : v.kind = some kind) (hfresh : message.Fresh)
      (hsequence : message.sequence = v.accumulators.sequence + 1)
      (hunused : (v.packetIds.used message.sourceNode).get? message.packetId = none)
      (hreserved : (ids.used message.sourceNode).get? message.packetId ≠ none)
      (hused : ∀ source packetId, (v.packetIds.used source).get? packetId ≠ none →
        (ids.used source).get? packetId ≠ none)
      (hsource : strict → message.sourceNode ∈ v.nodeIds) :
      Entry strict v (v.generate kind message ids)
  | resolve (key : String × Nat) (ref : Nat) (message : GeneratedMessage)
      (error : Option String) (hget : v.messages[ref]? = some message)
      (hunresolved : message.Unresolved)
      (hkey : strict → v.pending.get? key = some ref ∨ key = message.key) :
      Entry strict v ((v.popPending key).resolve ref error)
  | unpend (key : String × Nat)
      (hresolved : strict → ∀ ref message, v.pending.get? key = some ref →
        v.messages[ref]? = some message → ¬message.Unresolved) :
      Entry strict v (v.popPending key)
  | reject (source : String) (ref : Nat) (message : GeneratedMessage) (error : String)
      (hget : v.messages[ref]? = some message) (hpassed : message.submissionError = none)
      (hquiet : message.transmitted = false)
      (hkey : strict →
        v.pending.get? (source, message.packetId) = v.pending.get? message.key) :
      Entry strict v
        ((if message.submitted then (v.popPending (source, message.packetId)).unmarkSubmitted ref
          else v.popPending (source, message.packetId)).markFailed ref error)
  | transmit (ref : Nat) (message : GeneratedMessage) (hget : v.messages[ref]? = some message)
      (hsubmitted : message.submitted = true) (hquiet : message.transmitted = false) :
      Entry strict v ((v.modifyMessage ref (·.setTransmitted)).modifyAccumulators
        (·.addTransmitted))
  | deliver (kind : TrafficKind) (ref : Nat) (message : GeneratedMessage) (nodeId : String)
      (latencyMs : ℚ) (hkind : v.kind = some kind) (hget : v.messages[ref]? = some message)
      (happlicable : isApplicableReceiver kind message nodeId = true)
      (hfirst : nodeId ∉ message.deliveredTo) (hnode : strict → nodeId ∈ v.nodeIds) :
      Entry strict v ((v.modifyMessage ref (·.deliverTo nodeId latencyMs)).modifyAccumulators
        (·.addDelivery message.sequence latencyMs))
  | acknowledge (ref : Nat) (message : GeneratedMessage)
      (hget : v.messages[ref]? = some message) (htransmitted : message.transmitted = true)
      (hfirst : message.acknowledged = false) :
      Entry strict v ((v.modifyMessage ref (·.setAcknowledged)).modifyAccumulators
        (·.addAcknowledged))

/-- A sequence of entries. -/
def Entries (strict : Prop) : View → View → Prop := Relation.ReflTransGen (Entry strict)

/-! ## The ledger is kept -/

/-- Every counter of the run, if there is one, is the count it stands for. -/
def View.Ledgered (v : View) : Prop :=
  ∀ kind, (∀ actual, v.kind = some actual → actual = kind) →
    Ledger kind (v.opportunities kind) v.messages v.accumulators

variable {strict : Prop} {v w : View}

theorem Ledger.markSubmitted {kind : TrafficKind} {opportunities : Nat}
    {messages : List GeneratedMessage} {acc : Accumulators}
    (h : Ledger kind opportunities messages acc) {ref : Nat} {message : GeneratedMessage}
    (hget : messages[ref]? = some message) (hsubmitted : message.submitted = false) :
    Ledger kind opportunities (messages.modify ref (·.setSubmitted true)) acc.addSubmitted := by
  have hsound := h.sound message (List.mem_of_getElem? hget)
  apply h.changeStatus hget (GeneratedMessage.keeps_setSubmitted true)
  · exact ⟨hsound.acknowledged, fun _ => rfl, hsound.distinct, hsound.applicable⟩
  · simp [GeneratedMessage.setSubmitted, hsubmitted]
  · rfl
  · rfl
  · rfl

theorem Ledger.unmarkSubmitted {kind : TrafficKind} {opportunities : Nat}
    {messages : List GeneratedMessage} {acc : Accumulators}
    (h : Ledger kind opportunities messages acc) {ref : Nat} {message : GeneratedMessage}
    (hget : messages[ref]? = some message) (hsubmitted : message.submitted = true)
    (htransmitted : message.transmitted = false) :
    Ledger kind opportunities (messages.modify ref (·.setSubmitted false))
      acc.removeSubmitted := by
  have hsound := h.sound message (List.mem_of_getElem? hget)
  have hpositive : 0 < acc.submittedCount := by
    rw [h.submitted]
    exact List.countP_pos_iff.mpr ⟨message, List.mem_of_getElem? hget, hsubmitted⟩
  apply h.changeStatus hget (GeneratedMessage.keeps_setSubmitted false)
  · refine ⟨hsound.acknowledged, ?_, hsound.distinct, hsound.applicable⟩
    intro hchanged
    change message.transmitted = true at hchanged
    rw [htransmitted] at hchanged
    cases hchanged
  · simp only [GeneratedMessage.setSubmitted, hsubmitted, Bool.toNat_true, Bool.toNat_false]
    omega
  · rfl
  · rfl
  · rfl

theorem Ledger.markFailed {kind : TrafficKind} {opportunities : Nat}
    {messages : List GeneratedMessage} {acc : Accumulators}
    (h : Ledger kind opportunities messages acc) {ref : Nat} {message : GeneratedMessage}
    (hget : messages[ref]? = some message) (hpassed : message.submissionError = none)
    (error : String) :
    Ledger kind opportunities (messages.modify ref (·.setSubmissionError error))
      acc.addSubmissionFailed := by
  have hsound := h.sound message (List.mem_of_getElem? hget)
  apply h.changeStatus hget (GeneratedMessage.keeps_setSubmissionError error)
  · exact ⟨hsound.acknowledged, hsound.transmitted, hsound.distinct, hsound.applicable⟩
  · rfl
  · simp [GeneratedMessage.setSubmissionError, hpassed]
  · rfl
  · rfl

theorem Ledger.transmit {kind : TrafficKind} {opportunities : Nat}
    {messages : List GeneratedMessage} {acc : Accumulators}
    (h : Ledger kind opportunities messages acc) {ref : Nat} {message : GeneratedMessage}
    (hget : messages[ref]? = some message) (hsubmitted : message.submitted = true)
    (htransmitted : message.transmitted = false) :
    Ledger kind opportunities (messages.modify ref (·.setTransmitted)) acc.addTransmitted := by
  have hsound := h.sound message (List.mem_of_getElem? hget)
  apply h.changeStatus hget GeneratedMessage.keeps_setTransmitted
  · exact ⟨fun _ => rfl, fun _ => hsubmitted, hsound.distinct, hsound.applicable⟩
  · rfl
  · rfl
  · simp [GeneratedMessage.setTransmitted, htransmitted]
  · rfl

theorem Ledger.acknowledge {kind : TrafficKind} {opportunities : Nat}
    {messages : List GeneratedMessage} {acc : Accumulators}
    (h : Ledger kind opportunities messages acc) {ref : Nat} {message : GeneratedMessage}
    (hget : messages[ref]? = some message) (htransmitted : message.transmitted = true)
    (hacknowledged : message.acknowledged = false) :
    Ledger kind opportunities (messages.modify ref (·.setAcknowledged))
      acc.addAcknowledged := by
  have hsound := h.sound message (List.mem_of_getElem? hget)
  apply h.changeStatus hget GeneratedMessage.keeps_setAcknowledged
  · exact ⟨fun _ => htransmitted, hsound.transmitted, hsound.distinct, hsound.applicable⟩
  · rfl
  · rfl
  · rfl
  · simp [GeneratedMessage.setAcknowledged, hacknowledged]

/-- The ledger looks at no pending submission. -/
theorem Ledger.popPending {kind : TrafficKind} {opportunities : Nat}
    {messages : List GeneratedMessage} {acc : Accumulators}
    (h : Ledger kind opportunities messages acc) (key : String × Nat) :
    Ledger kind opportunities messages (acc.popPending key) :=
  h.congr ⟨rfl, rfl, rfl, rfl, rfl, rfl, rfl, rfl, rfl, rfl⟩

theorem Ledger.addPending {kind : TrafficKind} {opportunities : Nat}
    {messages : List GeneratedMessage} {acc : Accumulators}
    (h : Ledger kind opportunities messages acc) (key : String × Nat) (ref : Nat) :
    Ledger kind opportunities messages (acc.addPending key ref) :=
  h.congr ⟨rfl, rfl, rfl, rfl, rfl, rfl, rfl, rfl, rfl, rfl⟩

/-- A generated message enters the ledger under the next sequence number. -/
theorem Ledger.generateNext {kind : TrafficKind} {opportunities : Nat}
    {messages : List GeneratedMessage} {acc : Accumulators}
    (h : Ledger kind opportunities messages acc) {message : GeneratedMessage}
    (hfresh : message.Fresh) (hsequence : message.sequence = acc.sequence + 1) :
    Ledger kind opportunities (messages ++ [message])
      (acc.nextSequence.addGenerated opportunities) := by
  apply h.nextSequence.generate message hsequence.symm
  · intro old hold
    have hbound := h.bounded old hold
    omega
  · intro hknown
    have hbound := h.knownBounded _ hknown
    omega
  · exact hfresh.submitted
  · exact hfresh.submissionError
  · exact hfresh.transmitted
  · exact hfresh.deliveredTo
  · exact hfresh.acknowledged

/-- An entry keeps the ledger. -/
theorem View.Ledgered.entry (h : v.Ledgered) (hentry : Entry strict v w) : w.Ledgered := by
  intro kind hkind
  cases hentry with
  | quiet f hquiet => exact (h kind hkind).congr (hquiet.ledger _)
  | transmission transmitter packetAirtimeMs =>
      exact (h kind hkind).congr ⟨rfl, rfl, rfl, rfl, rfl, rfl, rfl, rfl, rfl, rfl⟩
  | drop reason =>
      exact (h kind hkind).congr ⟨rfl, rfl, rfl, rfl, rfl, rfl, rfl, rfl, rfl, rfl⟩
  | control frame hrequest hscenario =>
      have hsame : View.opportunities { v with frame := frame } kind = v.opportunities kind := by
        unfold View.opportunities
        rw [show ({ v with frame := frame } : View).frame.runScenario =
          v.frame.runScenario from hscenario]
      rw [hsame]
      apply h kind
      intro actual hactual
      apply hkind actual
      unfold View.kind at hactual ⊢
      rw [hrequest]
      exact hactual
  | sequence => exact (h kind hkind).nextSequence
  | reserve ids hused => exact h kind hkind
  | generate kind' message ids hkind' hfresh hsequence hunused hreserved hused hsource =>
      have hsame : kind' = kind := hkind kind' hkind'
      subst hsame
      exact ((h kind' hkind).generateNext hfresh hsequence).addPending _ _
  | resolve key ref message error hget hunresolved hkey =>
      cases error with
      | none => exact ((h kind hkind).popPending key).markSubmitted hget hunresolved.1
      | some error => exact ((h kind hkind).popPending key).markFailed hget hunresolved.2 error
  | unpend key hresolved => exact (h kind hkind).popPending key
  | reject source ref message error hget hpassed hquiet hkey =>
      have hpopped := (h kind (by split at hkind <;> exact hkind)).popPending
        (source, message.packetId)
      split
      · next hsubmitted =>
          have hretracted : (v.messages.modify ref (·.setSubmitted false))[ref]? =
              some (message.setSubmitted false) := by
            rw [List.getElem?_modify_eq, hget]
            rfl
          exact (hpopped.unmarkSubmitted hget hsubmitted hquiet).markFailed hretracted hpassed
            error
      · exact hpopped.markFailed hget hpassed error
  | transmit ref message hget hsubmitted hquiet =>
      exact (h kind hkind).transmit hget hsubmitted hquiet
  | deliver kind' ref message nodeId latencyMs hkind' hget happlicable hfirst hnode =>
      have hsame : kind' = kind := hkind kind' hkind'
      subst hsame
      exact (h kind' hkind).deliver hget happlicable hfirst latencyMs
  | acknowledge ref message hget htransmitted hfirst =>
      exact (h kind hkind).acknowledge hget htransmitted hfirst

/-! ## The records are kept -/

/-- An entry keeps the agreement of counters and records. -/
theorem Agreement.entry (h : Agreement v.accumulators) (hentry : Entry strict v w) :
    Agreement w.accumulators := by
  cases hentry with
  | quiet f hquiet => exact h.congr (hquiet.records _)
  | transmission transmitter packetAirtimeMs => exact h.addTransmission _ _
  | drop reason => exact h.addDrop reason
  | control frame hrequest hscenario => exact h
  | sequence => exact h.congr ⟨rfl, rfl, rfl, rfl, rfl, rfl, rfl, rfl, rfl, rfl, rfl⟩
  | reserve ids hused => exact h
  | generate kind message ids hkind hfresh hsequence hunused hreserved hused hsource =>
      exact h.congr ⟨rfl, rfl, rfl, rfl, rfl, rfl, rfl, rfl, rfl, rfl, rfl⟩
  | resolve key ref message error hget hunresolved hkey =>
      cases error with
      | none => exact h.congr ⟨rfl, rfl, rfl, rfl, rfl, rfl, rfl, rfl, rfl, rfl, rfl⟩
      | some error => exact h.congr ⟨rfl, rfl, rfl, rfl, rfl, rfl, rfl, rfl, rfl, rfl, rfl⟩
  | unpend key hresolved =>
      exact h.congr ⟨rfl, rfl, rfl, rfl, rfl, rfl, rfl, rfl, rfl, rfl, rfl⟩
  | reject source ref message error hget hpassed hquiet hkey =>
      split
      · exact h.congr ⟨rfl, rfl, rfl, rfl, rfl, rfl, rfl, rfl, rfl, rfl, rfl⟩
      · exact h.congr ⟨rfl, rfl, rfl, rfl, rfl, rfl, rfl, rfl, rfl, rfl, rfl⟩
  | transmit ref message hget hsubmitted hquiet =>
      exact h.congr ⟨rfl, rfl, rfl, rfl, rfl, rfl, rfl, rfl, rfl, rfl, rfl⟩
  | deliver kind ref message nodeId latencyMs hkind hget happlicable hfirst hnode =>
      exact h.addDelivery message.sequence latencyMs
  | acknowledge ref message hget htransmitted hfirst =>
      exact h.congr ⟨rfl, rfl, rfl, rfl, rfl, rfl, rfl, rfl, rfl, rfl, rfl⟩

/-! ## Sequences of entries -/

theorem View.Ledgered.entries (h : v.Ledgered) (hentries : Entries strict v w) :
    w.Ledgered := by
  induction hentries with
  | refl => exact h
  | tail _ hentry ih => exact ih.entry hentry

theorem Agreement.entries (h : Agreement v.accumulators) (hentries : Entries strict v w) :
    Agreement w.accumulators := by
  induction hentries with
  | refl => exact h
  | tail _ hentry ih => exact ih.entry hentry

/-! ## What entries leave alone -/

/-- The request and the scenario of the run are the same. -/
theorem Entry.identity (hentry : Entry strict v w) :
    w.frame.request = v.frame.request ∧ w.frame.runScenario = v.frame.runScenario := by
  cases hentry with
  | control frame hrequest hscenario => exact ⟨hrequest, hscenario⟩
  | resolve key ref message error hget hunresolved hkey => cases error <;> exact ⟨rfl, rfl⟩
  | reject source ref message error hget hpassed hquiet hkey => split <;> exact ⟨rfl, rfl⟩
  | _ => exact ⟨rfl, rfl⟩

theorem Entries.identity (hentries : Entries strict v w) :
    w.frame.request = v.frame.request ∧ w.frame.runScenario = v.frame.runScenario := by
  induction hentries with
  | refl => exact ⟨rfl, rfl⟩
  | tail _ hentry ih => exact ⟨hentry.identity.1.trans ih.1, hentry.identity.2.trans ih.2⟩

/-- A message of the run keeps its place and its source. -/
def View.Sent (v : View) (ref : Nat) (source : String) : Prop :=
  ∃ message, v.messages[ref]? = some message ∧ message.sourceNode = source

theorem View.Sent.modify {ref : Nat} {source : String} (h : v.Sent ref source) (changed : Nat)
    {f : GeneratedMessage → GeneratedMessage}
    (hsource : ∀ message, (f message).sourceNode = message.sourceNode)
    (hmessages : w.messages = v.messages.modify changed f) : w.Sent ref source := by
  obtain ⟨message, hget, hmessage⟩ := h
  refine ⟨if changed = ref then f message else message, ?_, ?_⟩
  · rw [hmessages, List.getElem?_modify, hget]
    rfl
  · split
    · rw [hsource, hmessage]
    · exact hmessage

theorem View.Sent.entry {ref : Nat} {source : String} (h : v.Sent ref source)
    (hentry : Entry strict v w) : w.Sent ref source := by
  cases hentry with
  | generate kind message ids hkind hfresh hsequence hunused hreserved hused hsource =>
      obtain ⟨old, hget, hold⟩ := h
      refine ⟨old, ?_, hold⟩
      obtain ⟨hlt, _⟩ := List.getElem?_eq_some_iff.mp hget
      exact (List.getElem?_append_left hlt).trans hget
  | resolve key changed message error hget hunresolved hkey =>
      cases error with
      | none => exact h.modify changed (GeneratedMessage.keeps_setSubmitted true).sourceNode rfl
      | some error =>
          exact h.modify changed (GeneratedMessage.keeps_setSubmissionError error).sourceNode rfl
  | reject source changed message error hget hpassed hquiet hkey =>
      split
      · have hretracted := h.modify (w := (v.popPending (source,
          message.packetId)).unmarkSubmitted changed) changed
          (GeneratedMessage.keeps_setSubmitted false).sourceNode rfl
        exact hretracted.modify changed
          (GeneratedMessage.keeps_setSubmissionError error).sourceNode rfl
      · exact h.modify changed (GeneratedMessage.keeps_setSubmissionError error).sourceNode rfl
  | transmit changed message hget hsubmitted hquiet =>
      exact h.modify changed GeneratedMessage.keeps_setTransmitted.sourceNode rfl
  | deliver kind changed message nodeId latencyMs hkind hget happlicable hfirst hnode =>
      exact h.modify changed (f := (·.deliverTo nodeId latencyMs)) (fun _ => rfl) rfl
  | acknowledge changed message hget htransmitted hfirst =>
      exact h.modify changed GeneratedMessage.keeps_setAcknowledged.sourceNode rfl
  | _ => exact h

theorem View.Sent.entries {ref : Nat} {source : String} (h : v.Sent ref source)
    (hentries : Entries strict v w) : w.Sent ref source := by
  induction hentries with
  | refl => exact h
  | tail _ hentry ih => exact ih.entry hentry

end MeshtasticLab.Traffic

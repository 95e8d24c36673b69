/-
  Traffic/Admission.lean --- every message is pending, submitted or failed.

  WHAT THIS FILE IS FOR

  The pending submissions of a run and the flags of its messages say the same
  thing twice.  `View.Admitted` holds when they agree, `View.Received` when the
  messages stay within the run scenario; strict entries keep both.
-/
import MeshtasticLab.Traffic.Entries

set_option autoImplicit false

namespace MeshtasticLab.Traffic

open MeshtasticLab.Foundation MeshtasticLab.Models
open TrafficController (isApplicableReceiver)

variable {strict : Prop} {v w : View}

/-! ## The pending submissions -/

/-- Exactly one of three propositions holds. -/
def ExactlyOne (p q r : Prop) : Prop := (p ∧ ¬q ∧ ¬r) ∨ (¬p ∧ q ∧ ¬r) ∨ (¬p ∧ ¬q ∧ r)

/-- Each message is pending, submitted or failed, and never two of them. -/
structure View.Admitted (v : View) : Prop where
  keyed : ∀ (key : String × Nat) (ref : Nat), v.pending.get? key = some ref →
    ∃ message, v.messages[ref]? = some message ∧ message.key = key
  status : ∀ (ref : Nat) (message : GeneratedMessage), v.messages[ref]? = some message →
    ExactlyOne (v.pending.get? message.key = some ref) (message.submitted = true)
      (message.submissionError ≠ none)
  distinct : ∀ (i j : Nat) (a b : GeneratedMessage), v.messages[i]? = some a →
    v.messages[j]? = some b → a.key = b.key → i = j
  reserved : ∀ message ∈ v.messages,
    (v.packetIds.used message.sourceNode).get? message.packetId ≠ none

/-- What is pending under a message's key is the message. -/
theorem View.Admitted.own (h : v.Admitted) {ref other : Nat} {message : GeneratedMessage}
    (hget : v.messages[ref]? = some message) (hpending : v.pending.get? message.key = some other) :
    other = ref := by
  obtain ⟨found, hfound, hkey⟩ := h.keyed _ _ hpending
  exact h.distinct _ _ _ _ hfound hget hkey

/-- An unresolved message is pending. -/
theorem View.Admitted.pending_of_unresolved (h : v.Admitted) {ref : Nat}
    {message : GeneratedMessage} (hget : v.messages[ref]? = some message)
    (hunresolved : message.Unresolved) : v.pending.get? message.key = some ref := by
  rcases h.status ref message hget with ⟨hpending, _⟩ | ⟨_, hsubmitted, _⟩ | ⟨_, _, hfailed⟩
  · exact hpending
  · rw [hunresolved.1] at hsubmitted
    cases hsubmitted
  · exact absurd hunresolved.2 hfailed

/-- A pending message is unresolved. -/
theorem View.Admitted.unresolved_of_pending (h : v.Admitted) {ref : Nat}
    {message : GeneratedMessage} (hget : v.messages[ref]? = some message)
    (hpending : v.pending.get? message.key = some ref) : message.Unresolved := by
  rcases h.status ref message hget with ⟨_, hsubmitted, hfailed⟩ | ⟨hnot, _⟩ | ⟨hnot, _⟩
  · exact ⟨by simpa using hsubmitted, by simpa using hfailed⟩
  · exact absurd hpending hnot
  · exact absurd hpending hnot

/-- The pending submissions change only for the message that changes. -/
theorem View.Admitted.change (h : v.Admitted) {ref : Nat} {message : GeneratedMessage}
    (hget : v.messages[ref]? = some message) {f : GeneratedMessage → GeneratedMessage}
    (hkey : ∀ message : GeneratedMessage, (f message).key = message.key)
    (hmessages : w.messages = v.messages.modify ref f) (hids : w.packetIds = v.packetIds)
    (hother : ∀ key, key ≠ message.key → w.pending.get? key = v.pending.get? key)
    (hown : ∀ other, w.pending.get? message.key = some other → other = ref)
    (hstatus : ExactlyOne (w.pending.get? message.key = some ref)
      ((f message).submitted = true) ((f message).submissionError ≠ none)) :
    w.Admitted where
  keyed key found hpending := by
    rw [hmessages]
    by_cases heq : key = message.key
    · subst heq
      rw [hown found hpending, List.getElem?_modify_eq, hget]
      exact ⟨f message, rfl, hkey message⟩
    · rw [hother key heq] at hpending
      obtain ⟨old, hold, hold'⟩ := h.keyed key found hpending
      refine ⟨if ref = found then f old else old, ?_, ?_⟩
      · rw [List.getElem?_modify, hold]
        rfl
      · split
        · rw [hkey, hold']
        · exact hold'
  status found changed hfound := by
    rw [hmessages] at hfound
    rcases getElem?_modify_cases hfound with ⟨hne, hold⟩ | ⟨rfl, old, hold, rfl⟩
    · have hdifferent : changed.key ≠ message.key := fun heq =>
        hne (h.distinct _ _ _ _ hold hget heq)
      rw [hother _ hdifferent]
      exact h.status found changed hold
    · rw [hget] at hold
      cases hold
      rw [hkey]
      exact hstatus
  distinct i j a b ha hb hsame := by
    rw [hmessages] at ha hb
    have hlookup : ∀ (k : Nat) (c : GeneratedMessage),
        (v.messages.modify ref f)[k]? = some c →
          ∃ old, v.messages[k]? = some old ∧ c.key = old.key := by
      intro k c hc
      rcases getElem?_modify_cases hc with ⟨_, hold⟩ | ⟨rfl, old, hold, rfl⟩
      · exact ⟨c, hold, rfl⟩
      · exact ⟨old, hold, hkey old⟩
    obtain ⟨a', ha', hakey⟩ := hlookup i a ha
    obtain ⟨b', hb', hbkey⟩ := hlookup j b hb
    exact h.distinct i j a' b' ha' hb' (by rw [← hakey, ← hbkey, hsame])
  reserved changed hmember := by
    rw [hmessages] at hmember
    rw [hids]
    rcases mem_modify_cases hmember with hold | ⟨old, hold, rfl⟩
    · exact h.reserved changed hold
    · have hsame := hkey old
      simp only [GeneratedMessage.key, Prod.mk.injEq] at hsame
      rw [hsame.1, hsame.2]
      exact h.reserved old (List.mem_of_getElem? hold)

/-- A write that no status shows keeps the pending submissions in step. -/
theorem View.Admitted.relabel (h : v.Admitted) {ref : Nat} {message : GeneratedMessage}
    (hget : v.messages[ref]? = some message) {f : GeneratedMessage → GeneratedMessage}
    (hkey : ∀ message : GeneratedMessage, (f message).key = message.key)
    (hsubmitted : (f message).submitted = message.submitted)
    (herror : (f message).submissionError = message.submissionError)
    (hmessages : w.messages = v.messages.modify ref f) (hids : w.packetIds = v.packetIds)
    (hpending : w.pending = v.pending) : w.Admitted := by
  apply h.change hget hkey hmessages hids
  · intro key _
    rw [hpending]
  · intro other hother
    rw [hpending] at hother
    exact h.own hget hother
  · rw [hpending, hsubmitted, herror]
    exact h.status ref message hget

/-- The same messages, pending submissions and more reserved identifiers. -/
theorem View.Admitted.congr (h : v.Admitted) (hmessages : w.messages = v.messages)
    (hpending : ∀ key, w.pending.get? key = v.pending.get? key)
    (hused : ∀ source packetId, (v.packetIds.used source).get? packetId ≠ none →
      (w.packetIds.used source).get? packetId ≠ none) : w.Admitted where
  keyed key ref hget := by
    rw [hpending] at hget
    rw [hmessages]
    exact h.keyed key ref hget
  status ref message hget := by
    rw [hmessages] at hget
    rw [hpending]
    exact h.status ref message hget
  distinct i j a b ha hb := by
    rw [hmessages] at ha hb
    exact h.distinct i j a b ha hb
  reserved message hmember := by
    rw [hmessages] at hmember
    exact hused _ _ (h.reserved message hmember)

/-- A message generated under an unused identifier is pending. -/
theorem View.Admitted.generate (h : v.Admitted) (kind : TrafficKind)
    {message : GeneratedMessage} {ids : PacketIds} (hfresh : message.Fresh)
    (hunused : (v.packetIds.used message.sourceNode).get? message.packetId = none)
    (hreserved : (ids.used message.sourceNode).get? message.packetId ≠ none)
    (hused : ∀ source packetId, (v.packetIds.used source).get? packetId ≠ none →
      (ids.used source).get? packetId ≠ none) :
    (v.generate kind message ids).Admitted := by
  have hnew : ∀ (i : Nat) (old : GeneratedMessage), v.messages[i]? = some old →
      old.key ≠ message.key := by
    intro i old hold hsame
    simp only [GeneratedMessage.key, Prod.mk.injEq] at hsame
    apply h.reserved old (List.mem_of_getElem? hold)
    rw [hsame.1, hsame.2]
    exact hunused
  have hlookup : ∀ (i : Nat) (found : GeneratedMessage),
      (v.messages ++ [message])[i]? = some found →
        v.messages[i]? = some found ∨ (i = v.messages.length ∧ found = message) := by
    intro i found hfound
    rw [List.getElem?_append] at hfound
    split at hfound
    · exact Or.inl hfound
    · next hge =>
        obtain ⟨hzero, hmessage⟩ := List.getElem?_eq_some_iff.mp hfound
        simp only [List.length_singleton] at hzero
        refine Or.inr ⟨by omega, ?_⟩
        rw [← hmessage, List.getElem_singleton]
  have hpending : ∀ key, (v.generate kind message ids).pending.get? key =
      if key = message.key then some v.messages.length else v.pending.get? key :=
    fun key => Dict.get?_set _ _ _ _
  constructor
  · intro key ref hget
    rw [hpending] at hget
    split at hget
    · next heq =>
        cases hget
        exact ⟨message, by simp [View.generate], heq.symm⟩
    · obtain ⟨old, hold, hkey⟩ := h.keyed key ref hget
      obtain ⟨hlt, _⟩ := List.getElem?_eq_some_iff.mp hold
      exact ⟨old, by simpa [View.generate, List.getElem?_append, hlt] using hold, hkey⟩
  · intro ref found hfound
    rcases hlookup ref found hfound with hold | ⟨rfl, rfl⟩
    · rw [hpending, if_neg (hnew ref found hold)]
      exact h.status ref found hold
    · rw [hpending, if_pos rfl]
      exact Or.inl ⟨rfl, by simp [hfresh.submitted], by simp [hfresh.submissionError]⟩
  · intro i j a b ha hb hsame
    rcases hlookup i a ha with hold | ⟨rfl, rfl⟩
    · rcases hlookup j b hb with hold' | ⟨rfl, rfl⟩
      · exact h.distinct i j a b hold hold' hsame
      · exact absurd hsame (hnew i a hold)
    · rcases hlookup j b hb with hold' | ⟨rfl, rfl⟩
      · exact absurd hsame.symm (hnew j b hold')
      · rfl
  · intro found hmember
    rcases List.mem_append.mp hmember with hold | hlast
    · exact hused _ _ (h.reserved found hold)
    · rw [List.mem_singleton.mp hlast]
      exact hreserved

/-- The outcome of a submission is known, and the message is pending no longer. -/
theorem View.Admitted.settle (h : v.Admitted) {ref : Nat} {message : GeneratedMessage}
    (hget : v.messages[ref]? = some message) {f : GeneratedMessage → GeneratedMessage}
    (hkey : ∀ message : GeneratedMessage, (f message).key = message.key)
    (hstatus : (f message).submitted = true ↔ (f message).submissionError = none)
    (hmessages : w.messages = v.messages.modify ref f) (hids : w.packetIds = v.packetIds)
    (hnone : w.pending.get? message.key = none)
    (hother : ∀ key, key ≠ message.key → w.pending.get? key = v.pending.get? key) :
    w.Admitted := by
  apply h.change hget hkey hmessages hids hother
  · intro other hpending
    rw [hnone] at hpending
    cases hpending
  · rw [hnone]
    cases herror : (f message).submissionError with
    | none => exact Or.inr (Or.inl ⟨by simp, hstatus.mpr herror, by simp⟩)
    | some error =>
        refine Or.inr (Or.inr ⟨by simp, ?_, by simp⟩)
        intro hsubmitted
        rw [hstatus.mp hsubmitted] at herror
        cases herror

/-- A pending message is resolved: it is pending no longer. -/
theorem View.Admitted.resolve (h : v.Admitted) {ref : Nat} {message : GeneratedMessage}
    (hget : v.messages[ref]? = some message) (hunresolved : message.Unresolved)
    (error : Option String) : ((v.popPending message.key).resolve ref error).Admitted := by
  have hpending : ∀ key, (v.popPending message.key).pending.get? key =
      if key = message.key then none else v.pending.get? key :=
    fun key => Dict.get?_erase _ _ _
  have hnone : (v.popPending message.key).pending.get? message.key = none :=
    (hpending _).trans (if_pos rfl)
  have hother : ∀ key, key ≠ message.key →
      (v.popPending message.key).pending.get? key = v.pending.get? key :=
    fun key hne => (hpending key).trans (if_neg hne)
  cases error with
  | none =>
      refine h.settle hget (f := (·.setSubmitted true)) (fun _ => rfl) ?_ rfl rfl hnone hother
      simp [GeneratedMessage.setSubmitted, hunresolved.2]
  | some error =>
      refine h.settle hget (f := (·.setSubmissionError error)) (fun _ => rfl) ?_ rfl rfl hnone
        hother
      simp [GeneratedMessage.setSubmissionError, hunresolved.1]

/-- Taking back a submission under a key that stands for the message. -/
theorem View.Admitted.reject (h : v.Admitted) {source : String} {ref : Nat}
    {message : GeneratedMessage} (hget : v.messages[ref]? = some message)
    (hkey : v.pending.get? (source, message.packetId) = v.pending.get? message.key)
    (error : String) :
    ((if message.submitted then (v.popPending (source, message.packetId)).unmarkSubmitted ref
      else v.popPending (source, message.packetId)).markFailed ref error).Admitted := by
  have hpending : ∀ key, (v.popPending (source, message.packetId)).pending.get? key =
      if key = (source, message.packetId) then none else v.pending.get? key :=
    fun key => Dict.get?_erase _ _ _
  -- Under the popped key there is this message or nothing.
  have hpopped : (v.popPending (source, message.packetId)).pending.get? message.key = none ∧
      ∀ key, key ≠ message.key →
        (v.popPending (source, message.packetId)).pending.get? key = v.pending.get? key := by
    cases hsource : v.pending.get? (source, message.packetId) with
    | none =>
        refine ⟨?_, ?_⟩
        · rw [hpending]
          split
          · rfl
          · rw [← hkey, hsource]
        · intro key _
          rw [hpending]
          split
          · next heq => rw [heq, hsource]
          · rfl
    | some other =>
        have hown : v.pending.get? message.key = some other := by rw [← hkey, hsource]
        have href := h.own hget hown
        subst href
        obtain ⟨found, hfound, hfoundKey⟩ := h.keyed _ _ hsource
        rw [hget] at hfound
        cases hfound
        refine ⟨?_, ?_⟩
        · rw [hpending, if_pos hfoundKey]
        · intro key hne
          rw [hpending, if_neg]
          intro heq
          exact hne (heq.trans hfoundKey.symm)
  split
  · refine h.settle hget
      (f := fun message => (message.setSubmitted false).setSubmissionError error)
      (fun _ => rfl) ?_ (List.modify_modify_eq _ _ _ _) rfl hpopped.1 hpopped.2
    simp [GeneratedMessage.setSubmissionError, GeneratedMessage.setSubmitted]
  · next hsubmitted =>
      refine h.settle hget (f := (·.setSubmissionError error)) (fun _ => rfl) ?_ rfl rfl
        hpopped.1 hpopped.2
      simp [GeneratedMessage.setSubmissionError, hsubmitted]

/-- A strict entry keeps the pending submissions in step with the messages. -/
theorem View.Admitted.entry (h : v.Admitted) (hstrict : strict) (hentry : Entry strict v w) :
    w.Admitted := by
  cases hentry with
  | quiet f hquiet =>
      refine h.congr rfl ?_ ?_
      · intro key
        change (f v.accumulators).pendingSubmissions.get? key = _
        rw [hquiet.pending]
        rfl
      · exact fun _ _ hused => hused
  | transmission transmitter packetAirtimeMs =>
      exact h.congr rfl (fun _ => rfl) fun _ _ hused => hused
  | drop reason => exact h.congr rfl (fun _ => rfl) fun _ _ hused => hused
  | control frame hrequest hscenario =>
      exact h.congr rfl (fun _ => rfl) fun _ _ hused => hused
  | sequence => exact h.congr rfl (fun _ => rfl) fun _ _ hused => hused
  | reserve ids hused => exact h.congr rfl (fun _ => rfl) hused
  | generate kind message ids hkind hfresh hsequence hunused hreserved hused hsource =>
      exact h.generate kind hfresh hunused hreserved hused
  | resolve key ref message error hget hunresolved hkey =>
      have hown : key = message.key := by
        rcases hkey hstrict with hpending | hkey
        · obtain ⟨found, hfound, hfoundKey⟩ := h.keyed _ _ hpending
          rw [hget] at hfound
          cases hfound
          exact hfoundKey.symm
        · exact hkey
      subst hown
      exact h.resolve hget hunresolved error
  | unpend key hresolved =>
      have hnone : v.pending.get? key = none := by
        cases hpending : v.pending.get? key with
        | none => rfl
        | some ref =>
            obtain ⟨message, hget, hkey⟩ := h.keyed key ref hpending
            rw [← hkey] at hpending
            exact absurd (h.unresolved_of_pending hget hpending)
              (hresolved hstrict ref message (hkey ▸ hpending) hget)
      refine h.congr rfl ?_ ?_
      · intro other
        change (v.pending.erase key).get? other = _
        rw [Dict.get?_erase]
        split
        · next heq => rw [heq, hnone]
        · rfl
      · exact fun _ _ hused => hused
  | reject source ref message error hget hpassed hquiet hkey =>
      exact h.reject hget (hkey hstrict) error
  | transmit ref message hget hsubmitted hquiet =>
      exact h.relabel hget (f := (·.setTransmitted)) (fun _ => rfl) rfl rfl rfl rfl rfl
  | deliver kind ref message nodeId latencyMs hkind hget happlicable hfirst hnode =>
      exact h.relabel hget (f := (·.deliverTo nodeId latencyMs)) (fun _ => rfl) rfl rfl rfl rfl
        rfl
  | acknowledge ref message hget htransmitted hfirst =>
      exact h.relabel hget (f := (·.setAcknowledged)) (fun _ => rfl) rfl rfl rfl rfl rfl

/-! ## Messages stay within the scenario -/

/-- Messages come from nodes of the run scenario and reach such nodes. -/
structure View.Received (v : View) : Prop where
  source : ∀ message ∈ v.messages, message.sourceNode ∈ v.nodeIds
  receivers : ∀ message ∈ v.messages, ∀ nodeId ∈ message.deliveredTo, nodeId ∈ v.nodeIds

/-- A write that leaves sources and receivers. -/
theorem View.Received.relabel (h : v.Received) {ref : Nat}
    {f : GeneratedMessage → GeneratedMessage} (hkeeps : KeepsIdentity f)
    (hmessages : w.messages = v.messages.modify ref f) (hnodes : w.nodeIds = v.nodeIds) :
    w.Received where
  source message hmember := by
    rw [hmessages] at hmember
    rw [hnodes]
    rcases mem_modify_cases hmember with hold | ⟨old, hold, rfl⟩
    · exact h.source message hold
    · rw [hkeeps.sourceNode]
      exact h.source old (List.mem_of_getElem? hold)
  receivers message hmember nodeId hnode := by
    rw [hmessages] at hmember
    rw [hnodes]
    rcases mem_modify_cases hmember with hold | ⟨old, hold, rfl⟩
    · exact h.receivers message hold nodeId hnode
    · rw [hkeeps.deliveredTo] at hnode
      exact h.receivers old (List.mem_of_getElem? hold) nodeId hnode

/-- A strict entry keeps the messages within the scenario. -/
theorem View.Received.entry (h : v.Received) (hstrict : strict) (hentry : Entry strict v w) :
    w.Received := by
  cases hentry with
  | quiet f hquiet => exact ⟨h.source, h.receivers⟩
  | transmission transmitter packetAirtimeMs => exact ⟨h.source, h.receivers⟩
  | drop reason => exact ⟨h.source, h.receivers⟩
  | control frame hrequest hscenario =>
      have hsame : View.nodeIds { v with frame := frame } = v.nodeIds :=
        congrArg Scenario.nodeIds hscenario
      constructor
      · rw [hsame]
        exact h.source
      · rw [hsame]
        exact h.receivers
  | sequence => exact ⟨h.source, h.receivers⟩
  | reserve ids hused => exact ⟨h.source, h.receivers⟩
  | generate kind message ids hkind hfresh hsequence hunused hreserved hused hsource =>
      constructor
      · intro found hmember
        rcases List.mem_append.mp hmember with hold | hlast
        · exact h.source found hold
        · rw [List.mem_singleton.mp hlast]
          exact hsource hstrict
      · intro found hmember nodeId hnode
        rcases List.mem_append.mp hmember with hold | hlast
        · exact h.receivers found hold nodeId hnode
        · rw [List.mem_singleton.mp hlast, hfresh.deliveredTo] at hnode
          cases hnode
  | resolve key ref message error hget hunresolved hkey =>
      cases error with
      | none => exact h.relabel (GeneratedMessage.keeps_setSubmitted true) rfl rfl
      | some error => exact h.relabel (GeneratedMessage.keeps_setSubmissionError error) rfl rfl
  | unpend key hresolved => exact ⟨h.source, h.receivers⟩
  | reject source ref message error hget hpassed hquiet hkey =>
      have hpopped : (v.popPending (source, message.packetId)).Received :=
        ⟨h.source, h.receivers⟩
      split
      · have hretracted := hpopped.relabel (w := (v.popPending (source,
          message.packetId)).unmarkSubmitted ref) (GeneratedMessage.keeps_setSubmitted false)
          rfl rfl
        exact hretracted.relabel (GeneratedMessage.keeps_setSubmissionError error) rfl rfl
      · exact hpopped.relabel (GeneratedMessage.keeps_setSubmissionError error) rfl rfl
  | transmit ref message hget hsubmitted hquiet =>
      exact h.relabel GeneratedMessage.keeps_setTransmitted rfl rfl
  | deliver kind ref message nodeId latencyMs hkind hget happlicable hfirst hnode =>
      constructor
      · intro found hmember
        rcases mem_modify_cases hmember with hold | ⟨old, hold, rfl⟩
        · exact h.source found hold
        · exact h.source old (List.mem_of_getElem? hold)
      · intro found hmember receiver hreceiver
        rcases mem_modify_cases hmember with hold | ⟨old, hold, rfl⟩
        · exact h.receivers found hold receiver hreceiver
        · rcases List.mem_append.mp hreceiver with hbefore | hlast
          · exact h.receivers old (List.mem_of_getElem? hold) receiver hbefore
          · rw [List.mem_singleton.mp hlast]
            exact hnode hstrict
  | acknowledge ref message hget htransmitted hfirst =>
      exact h.relabel GeneratedMessage.keeps_setAcknowledged rfl rfl

/-! ## Sequences of entries -/

theorem View.Admitted.entries (h : v.Admitted) (hstrict : strict)
    (hentries : Entries strict v w) : w.Admitted := by
  induction hentries with
  | refl => exact h
  | tail _ hentry ih => exact ih.entry hstrict hentry

theorem View.Received.entries (h : v.Received) (hstrict : strict)
    (hentries : Entries strict v w) : w.Received := by
  induction hentries with
  | refl => exact h
  | tail _ hentry ih => exact ih.entry hstrict hentry

end MeshtasticLab.Traffic

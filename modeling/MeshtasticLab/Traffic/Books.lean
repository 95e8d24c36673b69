/-
  Traffic/Books.lean --- the entries that each handler makes.

  WHAT THIS FILE IS FOR

  One lemma for each handler of the controller: what it does to the view of the
  run is a sequence of entries, and it leaves the frame alone.  This is the only
  place that looks into the handlers; everything about whole runs is proved from
  the entries.
-/
import MeshtasticLab.Traffic.Admission

set_option autoImplicit false

namespace MeshtasticLab.Traffic.TrafficController

open MeshtasticLab.Foundation MeshtasticLab.Gateway MeshtasticLab.Metrics MeshtasticLab.Models

/-! ## The view of a controller -/

/-- The frame of a controller. -/
def frame (c : TrafficController) : Frame where
  hardwareIds := c.hardwareIds
  buildMetadata := c.buildMetadata
  settleSeconds := c.settleSeconds
  failedReceptionSampler := c.failedReceptionSampler
  state := c.state
  request := c.run.map fun run => (run.runId, run.request)
  frozen := c.frozenResults.length
  finalizationDone := c.finalizationDone
  finalizationWaitTimedOut := c.finalizationWaitTimedOut
  phase := c.phase
  drainDeadlineMonotonic := c.drainDeadlineMonotonic
  eventStreamId := c.eventStreamId
  runScenario := c.runScenario

/-- What the accounting of the run reads from a controller. -/
def view (c : TrafficController) : View where
  messages := c.messages
  accumulators := c.accumulators
  packetIds := c.packetIds
  frame := c.frame

/-- The run accepts no more events. -/
def Closed (c : TrafficController) : Prop := c.phase = .finalizing ∨ c.phase = .terminal

variable {strict : Prop} {c d e : TrafficController}

/-- From one controller to the other a handler makes entries and leaves the frame. -/
structure Books (strict : Prop) (c d : TrafficController) : Prop where
  entries : Entries strict c.view d.view
  frame : d.frame = c.frame

theorem Books.refl (c : TrafficController) : Books strict c c :=
  ⟨Relation.ReflTransGen.refl, rfl⟩

theorem Books.trans (hfirst : Books strict c d) (hsecond : Books strict d e) :
    Books strict c e :=
  ⟨hfirst.entries.trans hsecond.entries, hsecond.frame.trans hfirst.frame⟩

/-- A change that the view does not show. -/
theorem Books.of_view (hview : d.view = c.view) : Books strict c d where
  entries := by
    rw [hview]
    exact Relation.ReflTransGen.refl
  frame := congrArg View.frame hview

/-- A change that is one entry. -/
theorem Books.of_entry {w : View} (hentry : Entry strict c.view w) (hview : d.view = w)
    (hframe : w.frame = c.frame) : Books strict c d where
  entries := by
    rw [hview]
    exact Relation.ReflTransGen.single hentry
  frame := (congrArg View.frame hview).trans hframe

/-- A change followed by one that the view does not show. -/
theorem Books.then_view (hbooks : Books strict c d) (hview : e.view = d.view) :
    Books strict c e :=
  hbooks.trans (.of_view hview)

/-- Under the same frame there are as many frozen results. -/
theorem opened_of_frame (hframe : d.frame = c.frame) (hopen : c.frozenResults = []) :
    d.frozenResults = [] := by
  have hlength : d.frozenResults.length = c.frozenResults.length :=
    congrArg Frame.frozen hframe
  rw [hopen] at hlength
  exact List.length_eq_zero_iff.mp hlength

/-! ## Writes -/

theorem current_of_open (hopen : c.frozenResults = []) : c.current = c.run := by
  unfold current
  rw [hopen]

theorem view_modifyMessage (c : TrafficController) (ref : Nat)
    (f : GeneratedMessage → GeneratedMessage) :
    (c.modifyMessage ref f).view = c.view.modifyMessage ref f := by
  cases hrun : c.run with
  | none => simp [view, View.modifyMessage, modifyMessage, messages, frame, hrun]
  | some run => simp [view, View.modifyMessage, modifyMessage, messages, frame, hrun]

/-- A write through `self.current` that leaves messages, run id and request. -/
theorem view_modifyCurrent (c : TrafficController) {f : TrafficRunResult → TrafficRunResult}
    (hmessages : ∀ run, (f run).generatedMessages = run.generatedMessages)
    (hidentity : ∀ run, ((f run).runId, (f run).request) = (run.runId, run.request)) :
    (c.modifyCurrent f).view = c.view := by
  unfold modifyCurrent
  split
  · cases hrun : c.run with
    | none => simp [view, messages, frame, hrun]
    | some run =>
        have hsame := hidentity run
        simp only [Prod.mk.injEq] at hsame
        simp [view, messages, frame, hrun, hmessages, hsame.1, hsame.2]
  · next hfrozen => simp [view, messages, frame, hfrozen]

theorem view_publishMetricUpdate (c : TrafficController) (m : Moment)
    (values : List (String × MetricValue)) (result : String) :
    (c.publishMetricUpdate m values result).view = c.view := by
  unfold publishMetricUpdate
  split
  · rfl
  · split
    · rfl
    · rfl

theorem view_publishSubmissionCounts (c : TrafficController) (m : Moment) :
    (c.publishSubmissionCounts m).view = c.view :=
  view_publishMetricUpdate _ _ _ _

theorem view_publishDrops (c : TrafficController) (m : Moment) :
    (c.publishDrops m).view = c.view :=
  view_publishMetricUpdate _ _ _ _

theorem view_markSubmitted (c : TrafficController) (ref : Nat) :
    (c.markSubmitted ref).view = c.view.markSubmitted ref := by
  unfold markSubmitted
  rw [view_modifyCurrent]
  · exact congrArg (View.modifyAccumulators · (·.addSubmitted)) (view_modifyMessage c ref _)
  · exact fun _ => rfl
  · exact fun _ => rfl

theorem view_unmarkSubmitted (c : TrafficController) (ref : Nat) :
    (c.unmarkSubmitted ref).view = c.view.unmarkSubmitted ref := by
  unfold unmarkSubmitted
  rw [view_modifyCurrent]
  · exact congrArg (View.modifyAccumulators · (·.removeSubmitted)) (view_modifyMessage c ref _)
  · exact fun _ => rfl
  · exact fun _ => rfl

theorem view_markFailed (c : TrafficController) (ref : Nat) (error : String) :
    (c.markFailed ref error).view = c.view.markFailed ref error := by
  unfold markFailed
  rw [view_modifyCurrent]
  · exact congrArg (View.modifyAccumulators · (·.addSubmissionFailed)) (view_modifyMessage c ref _)
  · exact fun _ => rfl
  · exact fun _ => rfl

/-- A change of the accumulators that no account reads. -/
theorem Books.quiet (c : TrafficController) {f : Accumulators → Accumulators}
    (hquiet : Quiet f) : Books strict c (c.modifyAccumulators f) :=
  .of_entry (.quiet f hquiet) rfl rfl

theorem Books.transmission (c : TrafficController) (transmitter : String)
    (packetAirtimeMs : Nat) :
    Books strict c (c.modifyAccumulators (·.addTransmission transmitter packetAirtimeMs)) :=
  .of_entry (.transmission transmitter packetAirtimeMs) rfl rfl

theorem Books.drop (c : TrafficController) (reason : String) :
    Books strict c (c.modifyAccumulators (·.addDrop reason)) :=
  .of_entry (.drop reason) rfl rfl

/-! ## Quiet changes -/

theorem quiet_index (key : Nat × Nat) (ref : Nat) : Quiet (·.index key ref) :=
  ⟨fun _ => by constructor <;> rfl, fun _ => by constructor <;> rfl, fun _ => rfl⟩

theorem quiet_addDuplicates (amount : Nat) : Quiet (·.addDuplicates amount) :=
  ⟨fun _ => by constructor <;> rfl, fun _ => by constructor <;> rfl, fun _ => rfl⟩

theorem quiet_addFailedReceptions (amount : Nat) : Quiet (·.addFailedReceptions amount) :=
  ⟨fun _ => by constructor <;> rfl, fun _ => by constructor <;> rfl, fun _ => rfl⟩

theorem quiet_setLatestFailed (nodeId : String) (total : Nat) :
    Quiet (·.setLatestFailed nodeId total) :=
  ⟨fun _ => by constructor <;> rfl, fun _ => by constructor <;> rfl, fun _ => rfl⟩

theorem quiet_setLatestDuplicates (nodeId : String) (total : Nat) :
    Quiet (·.setLatestDuplicates nodeId total) :=
  ⟨fun _ => by constructor <;> rfl, fun _ => by constructor <;> rfl, fun _ => rfl⟩

theorem quiet_addRelay : Quiet (·.addRelay) :=
  ⟨fun _ => by constructor <;> rfl, fun _ => by constructor <;> rfl, fun _ => rfl⟩

theorem quiet_addRoutingTerminal (sequence : Nat) : Quiet (·.addRoutingTerminal sequence) :=
  ⟨fun _ => by constructor <;> rfl, fun _ => by constructor <;> rfl, fun _ => rfl⟩

theorem quiet_setEventLoopLag (lagMs : ℚ) : Quiet (·.setEventLoopLag lagMs) :=
  ⟨fun _ => by constructor <;> rfl, fun _ => by constructor <;> rfl, fun _ => rfl⟩

theorem quiet_noteMaxima (packetLength : Nat) (preset : ModemPreset) :
    Quiet (·.noteMaxima packetLength preset) :=
  ⟨fun _ => by constructor <;> rfl, fun _ => by constructor <;> rfl, fun _ => rfl⟩

/-! ## Correlation -/

theorem books_messageForPacketIdentity (pb : Protobuf) (c : TrafficController)
    (packet : MeshPacket) (transmitter : Option String) :
    Books strict c (c.messageForPacketIdentity pb packet transmitter).2 := by
  unfold messageForPacketIdentity
  dsimp only
  split
  · exact .quiet c (quiet_index _ _)
  · exact .refl c

theorem books_correlatedDeliveryMessage (pb : Protobuf) (c : TrafficController)
    (packet : MeshPacket) : Books strict c (c.correlatedDeliveryMessage pb packet).2 := by
  unfold correlatedDeliveryMessage
  split
  · dsimp only
    split
    · exact .refl c
    · split
      · exact books_messageForPacketIdentity pb c packet none
      · split
        · exact books_messageForPacketIdentity pb c packet none
        · exact books_messageForPacketIdentity pb c packet none
  · exact .refl c

/-- A reference that resolves names a message. -/
theorem getElem?_of_resolve {found : Option Nat} {ref : Nat} {message : GeneratedMessage}
    (hresolve : c.resolve found = some (ref, message)) : c.messages[ref]? = some message := by
  unfold resolve at hresolve
  obtain ⟨i, _, hmap⟩ := Option.bind_eq_some_iff.mp hresolve
  obtain ⟨found, hget, hpair⟩ := Option.map_eq_some_iff.mp hmap
  cases hpair
  exact hget

theorem resolve_of_correlatedDeliveryMessage {pb : Protobuf} {packet : MeshPacket} {ref : Nat}
    {message : GeneratedMessage}
    (hfound : (c.correlatedDeliveryMessage pb packet).1 = some (ref, message)) :
    (c.correlatedDeliveryMessage pb packet).2.messages[ref]? = some message := by
  unfold correlatedDeliveryMessage at hfound ⊢
  dsimp only at hfound ⊢
  split at hfound
  · split at hfound
    · cases hfound
    · next hidentity =>
        rw [if_neg hidentity]
        split at hfound
        · cases hfound
        · next hresolve =>
            split at hfound
            · cases hfound
            · next hsequence =>
                cases hfound
                rw [if_neg hsequence]
                exact getElem?_of_resolve hresolve
  · cases hfound

/-! ## Resolving submissions -/

/-- The outcome of an unresolved submission is recorded. -/
theorem view_resolveSubmission (hopen : c.frozenResults = []) (m : Moment) (source : String)
    {ref : Nat} {message : GeneratedMessage} (hget : c.messages[ref]? = some message)
    (hunresolved : message.Unresolved) (error : Option String) :
    (c.resolveSubmission m source ref error).view = c.view.resolve ref error := by
  have hcurrent := current_of_open hopen
  unfold resolveSubmission
  rw [hcurrent, hget]
  cases hrun : c.run with
  | none =>
      unfold messages at hget
      rw [hrun] at hget
      cases hget
  | some run =>
      have hpending : ¬(message.submitted = true ∨ message.submissionError ≠ none) := by
        rw [hunresolved.1, hunresolved.2]
        simp
      dsimp only
      rw [if_neg hpending]
      refine (view_publishSubmissionCounts _ _).trans ?_
      cases error with
      | none => exact view_markSubmitted c ref
      | some error => exact view_markFailed c ref error

/-- A resolved submission stays as it is. -/
theorem resolveSubmission_of_resolved (m : Moment) (source : String) {ref : Nat}
    (hresolved : ∀ message, c.messages[ref]? = some message → ¬message.Unresolved)
    (error : Option String) : c.resolveSubmission m source ref error = c := by
  unfold resolveSubmission
  split
  · next hget =>
      rw [if_pos]
      have hnot := hresolved _ hget
      unfold GeneratedMessage.Unresolved at hnot
      rw [not_and_or] at hnot
      rcases hnot with hsubmitted | hfailed
      · exact Or.inl (by simpa using hsubmitted)
      · exact Or.inr hfailed
  · rfl

/-- A submission leaves the pending ones and is resolved. -/
theorem books_popResolve (hopen : c.frozenResults = []) (m : Moment) (source : String)
    (key : String × Nat) (ref : Nat) (error : Option String)
    (hkey : strict → c.view.pending.get? key = some ref ∨
      ∀ message, c.messages[ref]? = some message → key = message.key)
    (hown : strict → ∀ other, c.view.pending.get? key = some other → other = ref) :
    Books strict c
      ((c.modifyAccumulators (·.popPending key)).resolveSubmission m source ref error) := by
  by_cases hunresolved : ∃ message, c.messages[ref]? = some message ∧ message.Unresolved
  · obtain ⟨message, hget, hunresolved⟩ := hunresolved
    have hview := view_resolveSubmission (c := c.modifyAccumulators (·.popPending key)) hopen m
      source hget hunresolved error
    apply Books.of_entry
      (.resolve key ref message error hget hunresolved fun hstrict =>
        (hkey hstrict).imp id fun hsame => hsame message hget) hview
    cases error with
    | none => rfl
    | some error => rfl
  · have hresolved : ∀ message, c.messages[ref]? = some message → ¬message.Unresolved :=
      fun message hget h => hunresolved ⟨message, hget, h⟩
    rw [resolveSubmission_of_resolved (c := c.modifyAccumulators (·.popPending key)) m source
      hresolved error]
    refine Books.of_entry (.unpend key ?_) rfl rfl
    intro hstrict other message hpending hget
    rw [hown hstrict other hpending] at hget
    exact hresolved message hget

theorem books_recordQueueStatus (pb : Protobuf) (hopen : c.frozenResults = []) (m : Moment)
    (nodeId : String) (status : QueueStatus) :
    Books strict c (c.recordQueueStatus pb m nodeId status) := by
  unfold recordQueueStatus
  split
  · exact .refl c
  · split
    · exact .refl c
    · next ref hpending =>
        have hown : ∀ other,
            c.view.pending.get? (nodeId, status.meshPacketId) = some other → other = ref :=
          fun other hother => Option.some.inj (hother.symm.trans hpending)
        dsimp only
        split
        · exact books_popResolve hopen m nodeId _ ref none (fun _ => Or.inl hpending)
            fun _ => hown
        · exact books_popResolve hopen m nodeId _ ref _ (fun _ => Or.inl hpending)
            fun _ => hown

theorem books_submitFailed (hopen : c.frozenResults = []) (m : Moment) (source : String)
    (ref : Nat) (exception : String)
    (hsent : c.view.Sent ref source) (hadmitted : strict → c.view.Admitted) :
    Books strict c (c.submitFailed m source ref exception) := by
  unfold submitFailed
  split
  · exact .refl c
  · next message hget =>
      have hkey : (source, message.packetId) = message.key := by
        obtain ⟨found, hfound, hsource⟩ := hsent
        rw [show c.view.messages = c.messages from rfl, hget] at hfound
        cases hfound
        rw [← hsource]
        rfl
      apply books_popResolve hopen
      · intro _
        refine Or.inr ?_
        intro found hfound
        rw [hget] at hfound
        cases hfound
        exact hkey
      · intro hstrict other hother
        rw [hkey] at hother
        exact (hadmitted hstrict).own hget hother

/-- A submission is taken back. -/
theorem books_recordPretransmissionRejection (m : Moment) (source : String) {ref : Nat}
    {message : GeneratedMessage}
    (hget : c.messages[ref]? = some message) (hquiet : message.transmitted = false)
    (reason : String)
    (hkey : strict → message.submissionError = none →
      c.view.pending.get? (source, message.packetId) = c.view.pending.get? message.key) :
    Books strict c (c.recordPretransmissionRejection m source ref message reason) := by
  unfold recordPretransmissionRejection
  split
  · exact .refl c
  · split
    · exact .refl c
    · next hpassed =>
        have herror : message.submissionError = none := not_not.mp hpassed
        refine Books.of_entry
          (.reject source ref message reason hget herror hquiet fun hstrict =>
            hkey hstrict herror) ?_ ?_
        · refine (view_publishSubmissionCounts _ _).trans ((view_markFailed _ ref reason).trans ?_)
          split
          · exact congrArg (View.markFailed · ref reason) (view_unmarkSubmitted _ ref)
          · rfl
        · split
          · rfl
          · rfl

/-! ## Submitting -/

/-- Reserving one identifier keeps those reserved before. -/
theorem used_of_allocate {ids ids' : PacketIds} {source : String} {now : ℚ}
    {draws : List Nat} {packetId : Nat}
    (hallocate : ids.allocate source now draws = some (packetId, ids')) :
    (∀ other otherId, (ids.used other).get? otherId ≠ none →
      (ids'.used other).get? otherId ≠ none) ∧
      (ids'.used source).get? packetId ≠ none := by
  have hused := (PacketIds.allocate_spec hallocate).2
  refine ⟨?_, ?_⟩
  · intro other otherId hbefore
    rw [hused]
    split
    · next heq =>
        rw [Dict.get?_set]
        split
        · simp
        · rw [← heq]
          exact hbefore
    · exact hbefore
  · rw [hused, if_pos rfl, Dict.get?_set_self]
    simp

/-- The generated message joins the view; nothing else of it changes. -/
theorem view_addGenerated (hopen : c.frozenResults = []) {run : TrafficRunResult}
    (hrun : c.run = some run) (ids : PacketIds) (m : Moment) (kind : TrafficKind)
    (message : GeneratedMessage) (hardwareId : Nat) :
    (({ c.modifyAccumulators (·.nextSequence) with packetIds := ids }).addGenerated m kind
      message hardwareId).view =
      (c.view.generate kind message ids).modifyAccumulators
        (·.index (hardwareId, message.packetId) c.messages.length) := by
  unfold addGenerated
  simp only [modifyCurrent, modifyAccumulators, publishMetricUpdate, current, hopen, hrun,
    Option.map_some]
  cases kind with
  | broadcastText =>
      split <;> simp [view, View.generate, View.modifyAccumulators, View.opportunities, messages,
        frame, hrun, hopen, opportunities, Accumulators.addPending, Accumulators.index, publish]
  | directText =>
      split <;> simp [view, View.generate, View.modifyAccumulators, View.opportunities, messages,
        frame, hrun, hopen, opportunities, Accumulators.addPending, Accumulators.index, publish]

theorem messages_addGenerated (hopen : c.frozenResults = []) {run : TrafficRunResult}
    (hrun : c.run = some run) (ids : PacketIds) (m : Moment) (kind : TrafficKind)
    (message : GeneratedMessage) (hardwareId : Nat) :
    (({ c.modifyAccumulators (·.nextSequence) with packetIds := ids }).addGenerated m kind
      message hardwareId).messages = c.messages ++ [message] :=
  congrArg View.messages (view_addGenerated hopen hrun ids m kind message hardwareId)

/-- The generated message is the one at the end of the list. -/
theorem sent_addGenerated (hopen : c.frozenResults = []) {run : TrafficRunResult}
    (hrun : c.run = some run) (ids : PacketIds) (m : Moment) (kind : TrafficKind)
    {message : GeneratedMessage} (hardwareId : Nat) {source : String}
    (hsource : message.sourceNode = source) :
    (({ c.modifyAccumulators (·.nextSequence) with packetIds := ids }).addGenerated m kind
      message hardwareId).view.Sent c.messages.length source := by
  refine ⟨message, ?_, hsource⟩
  change (TrafficController.messages _)[_]? = _
  rw [messages_addGenerated hopen hrun]
  exact List.getElem?_concat_length

theorem books_noteMaxima (c : TrafficController) (m : Moment) (packetLength : Nat)
    (preset : ModemPreset) :
    Books strict c ((c.modifyAccumulators (·.noteMaxima packetLength preset)).noteActivity m) :=
  (Books.quiet c (quiet_noteMaxima packetLength preset)).then_view rfl

/-- Generating a message under the identifier that was allocated for it. -/
theorem books_addGenerated (hopen : c.frozenResults = []) {run : TrafficRunResult}
    (hrun : c.run = some run) {ids : PacketIds} {now : ℚ} {draws : List Nat}
    {message : GeneratedMessage}
    (hallocate : c.packetIds.allocate message.sourceNode now draws =
      some (message.packetId, ids))
    (hfresh : message.Fresh) (hsequence : message.sequence = c.accumulators.sequence + 1)
    (hsource : strict → message.sourceNode ∈ c.view.nodeIds) (m : Moment) (hardwareId : Nat) :
    Books strict c
      (({ c.modifyAccumulators (·.nextSequence) with packetIds := ids }).addGenerated m
        run.request.kind message hardwareId) := by
  have hview := view_addGenerated hopen hrun ids m run.request.kind message hardwareId
  have hused := used_of_allocate hallocate
  have hkind : c.view.kind = some run.request.kind := by
    simp [View.kind, view, frame, hrun]
  refine ⟨?_, congrArg View.frame hview⟩
  rw [hview]
  refine Relation.ReflTransGen.tail (Relation.ReflTransGen.single ?_) (.quiet _ (quiet_index _ _))
  exact .generate run.request.kind message ids hkind hfresh hsequence
    (PacketIds.allocate_spec hallocate).1 hused.2 hused.1 hsource

/-- `_submit` draws a sequence number, reserves an identifier and generates the
message; what it refers to afterwards is the new message. -/
theorem books_submit {pb : Protobuf} (hopen : c.frozenResults = []) {m : Moment}
    {source destination flowName : String} {draws : List Nat}
    {outcome : Except TrafficError (Option (Nat × MeshPacket))}
    (hsubmit : c.submit pb m source destination draws flowName = some (d, outcome))
    (hsource : strict → source ∈ c.view.nodeIds) :
    Books strict c d ∧ ∀ ref packet, outcome = .ok (some (ref, packet)) →
      d.view.Sent ref source := by
  have hcurrent := current_of_open hopen
  have hsequence : Books strict c (c.modifyAccumulators (·.nextSequence)) :=
    .of_entry .sequence rfl rfl
  unfold submit at hsubmit
  rw [hcurrent] at hsubmit
  split at hsubmit
  · cases hsubmit
    exact ⟨.refl _, by simp⟩
  · next run hrun =>
      dsimp only at hsubmit
      split at hsubmit
      · cases hsubmit
        exact ⟨hsequence, by simp⟩
      · split at hsubmit
        · cases hsubmit
        · next packetId ids hallocate =>
            have hallocate : c.packetIds.allocate source m.now draws = some (packetId, ids) :=
              hallocate
            have hused := used_of_allocate hallocate
            have hreserved : Books strict c
                { c.modifyAccumulators (·.nextSequence) with packetIds := ids } :=
              hsequence.trans (.of_entry (.reserve ids hused.1) rfl rfl)
            split at hsubmit
            · cases hsubmit
              exact ⟨hreserved, by simp⟩
            · cases hsubmit
              exact ⟨hreserved, by simp⟩
            · split at hsubmit
              · cases hsubmit
                refine ⟨?_, by simp⟩
                exact books_addGenerated hopen hrun hallocate (by constructor <;> rfl) rfl
                  hsource m _
              · cases hsubmit
                refine ⟨?_, ?_⟩
                · refine Books.trans ?_ (books_noteMaxima _ m _ _)
                  exact books_addGenerated hopen hrun hallocate (by constructor <;> rfl) rfl
                    hsource m _
                · intro ref packet houtcome
                  cases houtcome
                  refine View.Sent.entries ?_
                    (books_noteMaxima _ m _ _ : Books strict _ _).entries
                  exact sent_addGenerated hopen hrun ids m _ _ rfl

/-! ## Evidence -/

/-- A run that accepts events has no frozen result, when what is frozen is closed. -/
theorem open_of_accepts (hfrozen : c.frozenResults ≠ [] → c.Closed) {allowFailed : Bool}
    (haccepts : c.acceptsRunEvents allowFailed = true) : c.frozenResults = [] := by
  by_contra hne
  unfold acceptsRunEvents at haccepts
  rcases hfrozen hne with hphase | hphase
  · simp [hphase] at haccepts
  · simp [hphase] at haccepts

theorem books_recordRfTransmission (pb : Protobuf) (c : TrafficController) (m : Moment)
    (transmitter : String) (packet : MeshPacket) (packetAirtimeMs : Nat) :
    Books strict c (c.recordRfTransmission pb m transmitter packet packetAirtimeMs).1 := by
  have hidentity : Books strict c _ :=
    books_messageForPacketIdentity pb c packet (some transmitter)
  unfold recordRfTransmission
  split
  · exact .refl c
  · split
    · exact .refl c
    · dsimp only
      split
      · exact hidentity
      · next ref message hresolve =>
          have hget := getElem?_of_resolve hresolve
          split
          · exact hidentity
          · next hsubmitted =>
              have hsubmitted : message.submitted = true := by simpa using hsubmitted
              have htransmitted : Books strict c
                  ((c.messageForPacketIdentity pb packet (some transmitter)).2.markTransmitted
                    ref message) := by
                refine hidentity.trans ?_
                unfold markTransmitted
                split
                · exact .refl _
                · next hquiet =>
                    refine Books.of_entry
                      (.transmit ref message hget hsubmitted (by simpa using hquiet)) ?_ rfl
                    exact congrArg (View.modifyAccumulators · (·.addTransmitted))
                      (view_modifyMessage _ ref _)
              have hrecorded := htransmitted.trans
                (.transmission _ transmitter packetAirtimeMs)
              split
              · exact hrecorded
              · dsimp only
                refine (hrecorded.trans ?_).then_view (view_publishMetricUpdate _ _ _ _)
                unfold countRelay
                split
                · exact .of_view rfl
                · exact (Books.quiet _ quiet_addRelay).then_view rfl

theorem books_recordDrop (pb : Protobuf) (c : TrafficController) (m : Moment)
    (transmitter : String) (packet : MeshPacket) (reason : String) :
    Books strict c (c.recordDrop pb m transmitter packet reason) := by
  have hidentity : Books strict c _ :=
    books_messageForPacketIdentity pb c packet (some transmitter)
  unfold recordDrop
  split
  · exact .refl c
  · dsimp only
    split
    · exact hidentity
    · split
      · exact hidentity
      · exact (hidentity.trans (.drop _ reason)).then_view (view_publishDrops _ _)

theorem books_recordFailedReceptions (c : TrafficController) (m : Moment) (nodeId : String)
    (total : Nat) : Books strict c (c.recordFailedReceptions m nodeId total) := by
  have hlatest : Books strict c _ := .quiet c (quiet_setLatestFailed nodeId total)
  unfold recordFailedReceptions
  split
  · exact .refl c
  · dsimp only
    split
    · exact hlatest
    · next previous _ =>
        have hadded := hlatest.trans (.quiet _ (quiet_addFailedReceptions (total - previous)))
        split
        · exact hadded
        · exact hadded.then_view (view_publishMetricUpdate _ _ _ _)

theorem books_recordDuplicateReceptions (c : TrafficController) (m : Moment) (nodeId : String)
    (total : Nat) : Books strict c (c.recordDuplicateReceptions m nodeId total) := by
  have hlatest : Books strict c _ := .quiet c (quiet_setLatestDuplicates nodeId total)
  unfold recordDuplicateReceptions
  split
  · exact .refl c
  · dsimp only
    split
    · exact hlatest
    · next previous _ =>
        have hadded := hlatest.trans (.quiet _ (quiet_addDuplicates (total - previous)))
        split
        · exact hadded
        · exact hadded.then_view (view_publishMetricUpdate _ _ _ _)

theorem books_setEventLoopLag (c : TrafficController) (m : Moment) (lagMs : ℚ) :
    Books strict c (c.setEventLoopLag m lagMs) := by
  unfold setEventLoopLag
  split
  · exact .refl c
  · exact (Books.quiet c (quiet_setEventLoopLag lagMs)).then_view
      (view_publishMetricUpdate _ _ _ _)

theorem books_recordTopologyChange (c : TrafficController) (event : PacketEvent)
    (link : DirectedLink) : Books strict c (c.recordTopologyChange event link).1 := by
  unfold recordTopologyChange
  split
  · exact .refl c
  · split
    · exact .refl c
    · apply Books.of_view
      rw [view_modifyCurrent]
      · exact fun _ => rfl
      · exact fun _ => rfl

/-! ## Messages of the firmware -/

theorem books_handleText (pb : Protobuf) (m : Moment) {run : TrafficRunResult}
    (hrun : c.run = some run) (nodeId : String) (packet : MeshPacket)
    (hnode : strict → nodeId ∈ c.view.nodeIds) :
    Books strict c (c.handleText pb m run nodeId packet) := by
  have hcorrelated : Books strict c _ := books_correlatedDeliveryMessage pb c packet
  unfold handleText
  dsimp only
  split
  · exact hcorrelated
  · next ref message hfound =>
      have hget := resolve_of_correlatedDeliveryMessage hfound
      split
      · exact hcorrelated
      · split
        · exact hcorrelated
        · next happlicable =>
            split
            · split
              · exact hcorrelated
              · exact (hcorrelated.trans (.quiet _ (quiet_addDuplicates 1))).then_view
                  (view_publishMetricUpdate _ _ _ _)
            · next hfirst =>
                have hkind : (c.correlatedDeliveryMessage pb packet).2.view.kind =
                    some run.request.kind := by
                  unfold View.kind
                  rw [show (c.correlatedDeliveryMessage pb packet).2.view.frame = c.frame from
                    hcorrelated.frame]
                  simp [frame, hrun]
                have hnodes : (c.correlatedDeliveryMessage pb packet).2.view.nodeIds =
                    c.view.nodeIds :=
                  congrArg (fun frame : Frame => frame.runScenario.nodeIds) hcorrelated.frame
                refine (hcorrelated.trans ?_).then_view
                  (view_publishMetricUpdate _ _ _ _)
                refine Books.of_entry
                  (.deliver run.request.kind ref message nodeId
                    ((m.now - message.generatedMonotonic) * 1000) hkind hget
                    (by simpa using happlicable) hfirst fun hstrict => hnodes ▸ hnode hstrict)
                  ?_ rfl
                exact congrArg (View.modifyAccumulators ·
                  (·.addDelivery message.sequence ((m.now - message.generatedMonotonic) * 1000)))
                  (view_modifyMessage _ ref _)

theorem books_acknowledge (c : TrafficController) (m : Moment) {ref : Nat}
    {message : GeneratedMessage} (hget : c.messages[ref]? = some message)
    (htransmitted : message.transmitted = true) :
    Books strict c (c.acknowledge m ref message) := by
  unfold acknowledge
  split
  · exact .refl c
  · next hfirst =>
      refine Books.then_view (d := (c.modifyMessage ref (·.setAcknowledged)).modifyAccumulators
        (·.addAcknowledged)) ?_ (view_publishMetricUpdate _ _ _ _)
      refine Books.of_entry (.acknowledge ref message hget htransmitted (by simpa using hfirst))
        ?_ rfl
      exact congrArg (View.modifyAccumulators · (·.addAcknowledged)) (view_modifyMessage c ref _)

theorem books_reportRouting (pb : Protobuf) (c : TrafficController) (m : Moment)
    (run : TrafficRunResult) (nodeId : String) (packet : MeshPacket)
    (acknowledgmentOrigin ref : Nat) (message : GeneratedMessage) (errorReason : Int)
    (hreported : errorReason = ROUTING_ERROR_NONE →
      c.messages[ref]? = some message ∧ message.transmitted = true) :
    Books strict c
      (c.reportRouting pb m run nodeId packet acknowledgmentOrigin ref message errorReason).1 := by
  unfold reportRouting
  split
  · next hnone =>
      obtain ⟨hget, htransmitted⟩ := hreported hnone
      dsimp only
      split
      · exact .refl c
      · exact .refl c
      · exact (books_acknowledge c m hget htransmitted).then_view rfl
  · split
    · exact .refl c
    · have hterminal : Books strict c _ := .quiet c (quiet_addRoutingTerminal message.sequence)
      exact (hterminal.trans (.drop _ _)).then_view (view_publishDrops _ _)

/-- The message whose submission a routing packet reported at a node takes back. -/
def rejectedMessage (pb : Protobuf) (c : TrafficController) (nodeId : String)
    (packet : MeshPacket) : Option GeneratedMessage := do
  let acknowledgmentOrigin ← c.hardwareIds.get? nodeId
  let (_, message) ← c.resolve (c.accumulators.messagesByPacket.get?
    (acknowledgmentOrigin, packet.decoded.requestId))
  if pb.parseRouting packet.decoded.payload = some ROUTING_ERROR_RATE_LIMIT_EXCEEDED ∧
      message.transmitted = false ∧ message.submissionError = none then
    some message
  else none

/-- The message whose submission a message from a radio takes back. -/
def rejectedBy (pb : Protobuf) (c : TrafficController) (nodeId : String) :
    FromRadio → Option GeneratedMessage
  | .packet packet =>
      match packet.payload with
      | .decoded data =>
          if data.portnum = ROUTING_APP ∧ data.requestId ≠ 0 ∧ c.acceptsRunEvents = true then
            c.rejectedMessage pb nodeId packet
          else none
      | _ => none
  | _ => none

/-- A rejection is attributed to its submission: under the reporting node and the
identifier of the message the same is pending as under the message's own key. -/
def Attributed (pb : Protobuf) (c : TrafficController) (nodeId : String) (message : FromRadio) :
    Prop :=
  ∀ rejected ∈ c.rejectedBy pb nodeId message,
    c.accumulators.pendingSubmissions.get? (nodeId, rejected.packetId) =
      c.accumulators.pendingSubmissions.get? rejected.key

instance (pb : Protobuf) (c : TrafficController) (nodeId : String) (message : FromRadio) :
    Decidable (Attributed pb c nodeId message) :=
  inferInstanceAs (Decidable (∀ rejected ∈ c.rejectedBy pb nodeId message,
    c.accumulators.pendingSubmissions.get? (nodeId, rejected.packetId) =
      c.accumulators.pendingSubmissions.get? rejected.key))

theorem books_handleRouting (pb : Protobuf) (c : TrafficController) (m : Moment)
    (run : TrafficRunResult) (nodeId : String) (packet : MeshPacket)
    (hattributed : strict → ∀ rejected ∈ c.rejectedMessage pb nodeId packet,
      c.view.pending.get? (nodeId, rejected.packetId) = c.view.pending.get? rejected.key) :
    Books strict c (c.handleRouting pb m run nodeId packet).1 := by
  unfold handleRouting
  split
  · exact .refl c
  · next acknowledgmentOrigin horigin =>
      dsimp only
      split
      · exact .refl c
      · next ref message hresolve =>
          have hget := getElem?_of_resolve hresolve
          split
          · exact .refl c
          · next errorReason hparse =>
              split
              · next hrejected =>
                  have hquiet : message.transmitted = false := by simpa using hrejected.2
                  have hrejection : Books strict c _ := books_recordPretransmissionRejection m
                    nodeId hget hquiet "firmware text-message rate limit exceeded"
                    fun hstrict herror => by
                      apply hattributed hstrict
                      unfold rejectedMessage
                      simp [horigin, hresolve, hparse, hrejected.1, hquiet, herror]
                  refine hrejection.trans (books_reportRouting pb _ m run nodeId packet _ ref
                    message errorReason ?_)
                  intro hnone
                  rw [hrejected.1] at hnone
                  exact absurd hnone (by decide)
              · split
                · exact .refl c
                · next htransmitted =>
                    exact books_reportRouting pb c m run nodeId packet _ ref message errorReason
                      fun _ => ⟨hget, by simpa using htransmitted⟩

theorem books_handleFromRadio (pb : Protobuf) (hfrozen : c.frozenResults ≠ [] → c.Closed)
    (m : Moment) (nodeId : String) (message : FromRadio)
    (hnode : strict → nodeId ∈ c.view.nodeIds)
    (hattributed : strict → Attributed pb c nodeId message) :
    Books strict c (c.handleFromRadio pb m nodeId message).1 := by
  unfold handleFromRadio
  split
  · exact .refl c
  · next run hcurrent =>
      split
      · exact .refl c
      · next haccepts =>
          have hopen := open_of_accepts hfrozen (not_not.mp haccepts)
          rw [current_of_open hopen] at hcurrent
          split
          · exact books_recordQueueStatus pb hopen m nodeId _
          · exact .refl c
          · split
            · split
              · exact books_handleText pb m hcurrent nodeId _ hnode
              · split
                · next hrouting =>
                    refine books_handleRouting pb c m run nodeId _ fun hstrict rejected hmember =>
                      hattributed hstrict rejected ?_
                    have haccepts := not_not.mp haccepts
                    simp [rejectedBy, *]
                · exact .refl c
            · exact .refl c

/-! ## Finalizing what is pending -/

/-- The accumulators with other pending submissions. -/
def withPending (pending : Dict (String × Nat) Nat) (acc : Accumulators) : Accumulators :=
  { acc with pendingSubmissions := pending }

/-- The loop of `_finalize_pending_submissions` is a sequence of entries that takes
each submission off the pending ones as it is resolved. -/
theorem entries_finalizeLoop (m : Moment) (error : String) (pending : Dict (String × Nat) Nat)
    (hopen : c.frozenResults = []) :
    Entries strict (c.view.modifyAccumulators (withPending pending))
        ((pending.items.foldl (fun c entry =>
          c.resolveSubmission m entry.1.1 entry.2 (some error)) c).view.modifyAccumulators
          (withPending ∅)) ∧
      (pending.items.foldl (fun c entry =>
        c.resolveSubmission m entry.1.1 entry.2 (some error)) c).frame = c.frame := by
  obtain ⟨items, hdistinct⟩ := pending
  induction items generalizing c with
  | nil => exact ⟨Relation.ReflTransGen.refl, rfl⟩
  | cons item rest ih =>
      obtain ⟨key, ref⟩ := item
      rw [List.foldl_cons]
      have hrest : (rest.map Prod.fst).Nodup := (List.nodup_cons.mp hdistinct).2
      have hpending : (c.view.modifyAccumulators (withPending
          ⟨(key, ref) :: rest, hdistinct⟩)).pending.get? key = some ref :=
        Dict.get?_eq_some.mpr List.mem_cons_self
      have herase : ((c.view.modifyAccumulators (withPending
          ⟨(key, ref) :: rest, hdistinct⟩)).popPending key) =
          c.view.modifyAccumulators (withPending ⟨rest, hrest⟩) :=
        congrArg (fun pending => c.view.modifyAccumulators (withPending pending))
          (Dict.erase_head hdistinct)
      by_cases hunresolved : ∃ message, c.messages[ref]? = some message ∧ message.Unresolved
      · obtain ⟨message, hget, hunresolved⟩ := hunresolved
        have hview := view_resolveSubmission hopen m key.1 hget hunresolved (some error)
        have hsame : (c.resolveSubmission m key.1 ref (some error)).frame = c.frame :=
          congrArg View.frame hview
        obtain ⟨hentries, hframe⟩ := ih (c := c.resolveSubmission m key.1 ref (some error))
          (opened_of_frame hsame hopen) hrest
        refine ⟨Relation.ReflTransGen.head ?_ hentries, hframe.trans hsame⟩
        have hentry : Entry strict (c.view.modifyAccumulators (withPending
            ⟨(key, ref) :: rest, hdistinct⟩)) _ :=
          .resolve key ref message (some error) hget hunresolved fun _ => Or.inl hpending
        rw [herase] at hentry
        rw [hview]
        exact hentry
      · have hresolved : ∀ message, c.messages[ref]? = some message → ¬message.Unresolved :=
          fun message hget h => hunresolved ⟨message, hget, h⟩
        rw [resolveSubmission_of_resolved m key.1 hresolved]
        obtain ⟨hentries, hframe⟩ := ih hopen hrest
        refine ⟨Relation.ReflTransGen.head ?_ hentries, hframe⟩
        rw [← herase]
        refine Entry.unpend key ?_
        intro _ other message hother hget
        rw [hpending] at hother
        cases hother
        exact hresolved message hget

/-- What is pending is finalized, and nothing is pending afterwards. -/
theorem books_finalizePendingSubmissions (hopen : c.frozenResults = []) (m : Moment) :
    Books strict c (c.finalizePendingSubmissions m) := by
  obtain ⟨hentries, hframe⟩ := entries_finalizeLoop m
    "firmware queue admission timed out" c.accumulators.pendingSubmissions hopen
  exact ⟨hentries, hframe⟩

@[simp] theorem pending_finalizePendingSubmissions (c : TrafficController) (m : Moment) :
    (c.finalizePendingSubmissions m).accumulators.pendingSubmissions = ∅ := rfl

/-- Without pending submissions there is nothing to finalize. -/
theorem finalizePendingSubmissions_of_empty (m : Moment)
    (hpending : c.accumulators.pendingSubmissions = ∅) :
    c.finalizePendingSubmissions m = c := by
  have hclear : c.modifyAccumulators (·.clearPending) = c := by
    unfold modifyAccumulators Accumulators.clearPending
    rw [← hpending]
  unfold finalizePendingSubmissions
  rw [hpending]
  exact hclear

end MeshtasticLab.Traffic.TrafficController

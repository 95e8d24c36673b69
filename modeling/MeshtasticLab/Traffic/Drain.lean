/-
  Traffic/Drain.lean --- the drain ends for the right reason and is never left asleep.

  WHAT THIS FILE IS FOR

  `_drain` looks at the run, clears one event and sleeps until the event is set or a
  time has passed.  Each pass of its loop ends it only when the run has settled or the
  deadline has come.  While it sleeps, a handler either leaves alone what the pass
  looked at, or notes activity, which sets the event; so the run cannot settle behind
  its back.  The latter needs that a submission leaves the pending ones only when it is
  resolved, which a rejection of a foreign submission breaks.
-/
import MeshtasticLab.Traffic.Quarantine

set_option autoImplicit false

namespace MeshtasticLab.Traffic

open MeshtasticLab.Foundation MeshtasticLab.Gateway MeshtasticLab.Metrics MeshtasticLab.Models

namespace TrafficController

variable {c d e : TrafficController} {m : Moment}

/-! ## The condition of the loop -/

/-- `ready_to_settle`. -/
def readyToSettle (c : TrafficController) : Bool :=
  c.accumulators.pendingSubmissions.items.isEmpty && c.unresolvedDirectMessages = 0

/-- A direct message that the drain has not to wait for. -/
structure Resolved (c : TrafficController) (request : TrafficRunRequest)
    (message : GeneratedMessage) : Prop where
  outcome : message.submissionError ≠ none ∨
    message.sequence ∈ c.accumulators.routingTerminalSequences ∨
    (message.submitted = true ∧ message.destinationNode ∈ message.deliveredTo ∧
      (request.acknowledgmentRequested = true → message.acknowledged = true))

/-- Why `_drain` may return before its deadline. -/
structure Settled (c : TrafficController) (now : ℚ) : Prop where
  pending : c.accumulators.pendingSubmissions = ∅
  resolved : ∀ run ∈ c.current, run.request.kind = .directText →
    ∀ message ∈ run.generatedMessages, Resolved c run.request message
  quiet : c.lastActivityMonotonic + c.drainWindows.1 ≤ now

theorem pending_of_readyToSettle (h : c.readyToSettle = true) :
    c.accumulators.pendingSubmissions = ∅ := by
  unfold readyToSettle at h
  obtain ⟨hempty, _⟩ := Bool.and_eq_true_iff.mp h
  obtain ⟨items, hdistinct⟩ : { d : Dict (String × Nat) Nat //
    d = c.accumulators.pendingSubmissions } := ⟨_, rfl⟩
  rw [← hdistinct] at hempty ⊢
  obtain ⟨items, hdistinct⟩ := items
  cases List.isEmpty_iff.mp hempty
  rfl

theorem resolved_of_readyToSettle (h : c.readyToSettle = true) {run : TrafficRunResult}
    (hrun : c.current = some run) (hkind : run.request.kind = .directText)
    {message : GeneratedMessage} (hmessage : message ∈ run.generatedMessages) :
    Resolved c run.request message := by
  unfold readyToSettle at h
  obtain ⟨_, hnone⟩ := Bool.and_eq_true_iff.mp h
  have hcount : run.generatedMessages.countP
      (c.isUnresolved run.request.acknowledgmentRequested) = 0 := by
    have hzero := of_decide_eq_true hnone
    unfold unresolvedDirectMessages at hzero
    rw [hrun] at hzero
    dsimp only at hzero
    rwa [if_neg (by rw [hkind]; simp)] at hzero
  have hmessage := List.countP_eq_zero.mp hcount message hmessage
  unfold isUnresolved at hmessage
  constructor
  split at hmessage
  · next hfailed => exact Or.inl hfailed
  · split at hmessage
    · next hterminal => exact Or.inr (Or.inl hterminal)
    · split at hmessage
      · simp at hmessage
      · next hdelivered =>
          rw [not_or, not_not, not_not] at hdelivered
          refine Or.inr (Or.inr ⟨hdelivered.1, hdelivered.2, fun hrequested => ?_⟩)
          simpa [hrequested] using hmessage

/-- A pass that ends the drain before the deadline has found the run settled. -/
theorem settled_of_verdict {deadline now : ℚ}
    (h : c.drainVerdict deadline now = .settled) : c.Settled now := by
  unfold drainVerdict at h
  dsimp only at h
  split at h
  · next hready =>
      have hsettles : c.readyToSettle = true := hready.1
      refine ⟨pending_of_readyToSettle hsettles, ?_, by linarith [hready.2]⟩
      intro run hrun hkind message hmessage
      exact resolved_of_readyToSettle hsettles hrun hkind hmessage
  · split at h <;> cases h

theorem deadline_of_expired {deadline now : ℚ}
    (h : c.drainVerdict deadline now = .expired) : deadline ≤ now := by
  unfold drainVerdict at h
  dsimp only at h
  split at h
  · cases h
  · split at h
    · next hpassed => linarith
    · cases h

/-! ## What the handlers signal -/

/-- What a pass of the loop looks at is left alone.  Whether a message has been on the
air is none of it. -/
structure Unmoved (c d : TrafficController) : Prop where
  request : d.run.map (·.request) = c.run.map (·.request)
  messages : d.messages.map (·.setTransmitted) = c.messages.map (·.setTransmitted)
  pending : d.accumulators.pendingSubmissions = c.accumulators.pendingSubmissions
  terminal : d.accumulators.routingTerminalSequences = c.accumulators.routingTerminalSequences
  lastActivity : d.lastActivityMonotonic = c.lastActivityMonotonic
  activityChanged : d.activityChanged = c.activityChanged

/-- Activity was noted at this moment. -/
def Noted (m : Moment) (d : TrafficController) : Prop :=
  d.activityChanged = true ∧ d.lastActivityMonotonic = m.now

/-- A handler notes activity or leaves alone what a pass looks at. -/
def Signals (m : Moment) (c d : TrafficController) : Prop := Noted m d ∨ Unmoved c d

theorem Unmoved.refl (c : TrafficController) : Unmoved c c := by constructor <;> rfl

theorem Unmoved.trans (hfirst : Unmoved c d) (hsecond : Unmoved d e) : Unmoved c e where
  request := hsecond.request.trans hfirst.request
  messages := hsecond.messages.trans hfirst.messages
  pending := hsecond.pending.trans hfirst.pending
  terminal := hsecond.terminal.trans hfirst.terminal
  lastActivity := hsecond.lastActivity.trans hfirst.lastActivity
  activityChanged := hsecond.activityChanged.trans hfirst.activityChanged

theorem Unmoved.noted (h : Unmoved c d) (hnoted : Noted m c) : Noted m d :=
  ⟨h.activityChanged.trans hnoted.1, h.lastActivity.trans hnoted.2⟩

theorem Signals.refl (c : TrafficController) : Signals m c c := Or.inr (.refl c)

theorem Signals.trans (hfirst : Signals m c d) (hsecond : Signals m d e) : Signals m c e := by
  rcases hsecond with hnoted | hsame
  · exact Or.inl hnoted
  · exact hfirst.imp hsame.noted fun h => h.trans hsame

theorem noted_noteActivity (c : TrafficController) (m : Moment) :
    Noted m (c.noteActivity m) := ⟨rfl, rfl⟩

theorem unmoved_publish (c : TrafficController) (event : PacketEvent) :
    Unmoved c (c.publish event) := by constructor <;> rfl

theorem unmoved_publishMetricUpdate (c : TrafficController) (m : Moment)
    (values : List (String × MetricValue)) (result : String) :
    Unmoved c (c.publishMetricUpdate m values result) := by
  unfold publishMetricUpdate
  split
  · exact .refl c
  · split
    · exact .refl c
    · exact unmoved_publish c _

theorem unmoved_markTransmitted (c : TrafficController) (ref : Nat)
    (message : GeneratedMessage) : Unmoved c (c.markTransmitted ref message) := by
  unfold markTransmitted
  split
  · exact .refl c
  · have hmodified : (c.messages.modify ref (·.setTransmitted)).map (·.setTransmitted) =
        c.messages.map (·.setTransmitted) := by
      apply List.ext_getElem?
      intro i
      simp only [List.getElem?_map, List.getElem?_modify]
      cases c.messages[i]? with
      | none => rfl
      | some message => split <;> rfl
    have hview := view_modifyMessage c ref (·.setTransmitted)
    refine ⟨?_, ?_, rfl, rfl, rfl, rfl⟩
    · change Option.map _ (c.run.map _) = _
      rw [Option.map_map]
      rfl
    · rw [← hmodified]
      exact congrArg (fun v => v.messages.map (·.setTransmitted)) hview

theorem unmoved_messageForPacketIdentity (pb : Protobuf) (c : TrafficController)
    (packet : MeshPacket) (transmitter : Option String) :
    Unmoved c (c.messageForPacketIdentity pb packet transmitter).2 := by
  unfold messageForPacketIdentity
  dsimp only
  split
  · constructor <;> rfl
  · exact .refl c

theorem unmoved_correlatedDeliveryMessage (pb : Protobuf) (c : TrafficController)
    (packet : MeshPacket) : Unmoved c (c.correlatedDeliveryMessage pb packet).2 := by
  unfold correlatedDeliveryMessage
  split
  · dsimp only
    split
    · exact .refl c
    · split
      · exact unmoved_messageForPacketIdentity pb c packet none
      · split <;> exact unmoved_messageForPacketIdentity pb c packet none
  · exact .refl c

/-- A message whose submission is resolved is noted; an unresolved one is there to be. -/
theorem noted_resolveSubmission {source : String} {ref : Nat} {message : GeneratedMessage}
    {run : TrafficRunResult} (hcurrent : c.current = some run)
    (hget : c.messages[ref]? = some message) (hunresolved : message.Unresolved)
    (error : Option String) : Noted m (c.resolveSubmission m source ref error) := by
  have hpending : ¬(message.submitted = true ∨ message.submissionError ≠ none) := by
    rw [hunresolved.1, hunresolved.2]
    simp
  unfold resolveSubmission
  rw [hcurrent, hget]
  dsimp only
  rw [if_neg hpending]
  exact ((unmoved_publishMetricUpdate _ _ _ _).trans (unmoved_publish _ _)).noted
    (noted_noteActivity _ m)

/-- A queue status that takes a submission off the pending ones resolves it. -/
theorem signals_recordQueueStatus (pb : Protobuf) (h : c.view.Admitted)
    {run : TrafficRunResult} (hcurrent : c.current = some run) (m : Moment) (nodeId : String)
    (status : QueueStatus) : Signals m c (c.recordQueueStatus pb m nodeId status) := by
  unfold recordQueueStatus
  split
  · exact .refl c
  · split
    · exact .refl c
    · next ref hpending =>
        obtain ⟨message, hget, hkey⟩ := h.keyed _ _ hpending
        have hunresolved := h.unresolved_of_pending hget (by rw [hkey]; exact hpending)
        dsimp only
        split
        · exact Or.inl (noted_resolveSubmission
            (c := c.modifyAccumulators (·.popPending (nodeId, status.meshPacketId))) hcurrent
            hget hunresolved _)
        · exact Or.inl (noted_resolveSubmission
            (c := c.modifyAccumulators (·.popPending (nodeId, status.meshPacketId))) hcurrent
            hget hunresolved _)

theorem signals_handleText (pb : Protobuf) (c : TrafficController) (m : Moment)
    (run : TrafficRunResult) (nodeId : String) (packet : MeshPacket) :
    Signals m c (c.handleText pb m run nodeId packet) := by
  have hcorrelated := unmoved_correlatedDeliveryMessage pb c packet
  unfold handleText
  dsimp only
  split
  · exact Or.inr hcorrelated
  · split
    · exact Or.inr hcorrelated
    · split
      · exact Or.inr hcorrelated
      · split
        · split
          · exact Or.inr hcorrelated
          · refine Or.inr (hcorrelated.trans (Unmoved.trans ?_
              (unmoved_publishMetricUpdate _ _ _ _)))
            constructor <;> rfl
        · exact Or.inl (((unmoved_publishMetricUpdate _ _ _ _).trans
            (unmoved_publish _ _)).noted (noted_noteActivity _ m))

theorem signals_recordPretransmissionRejection (c : TrafficController) (m : Moment)
    (source : String) (ref : Nat) (message : GeneratedMessage) (reason : String) :
    Signals m c (c.recordPretransmissionRejection m source ref message reason) := by
  unfold recordPretransmissionRejection
  split
  · exact .refl c
  · split
    · exact .refl c
    · exact Or.inl (((unmoved_publishMetricUpdate _ _ _ _).trans (unmoved_publish _ _)).noted
        (noted_noteActivity _ m))

theorem signals_reportRouting (pb : Protobuf) (c : TrafficController) (m : Moment)
    (run : TrafficRunResult) (nodeId : String) (packet : MeshPacket)
    (acknowledgmentOrigin ref : Nat) (message : GeneratedMessage) (errorReason : Int) :
    Signals m c (c.reportRouting pb m run nodeId packet acknowledgmentOrigin ref message
      errorReason).1 := by
  unfold reportRouting
  dsimp only
  split
  · split
    · exact .refl c
    · exact .refl c
    · exact Or.inl ((unmoved_publish _ _).noted (noted_noteActivity _ m))
  · split
    · exact .refl c
    · exact Or.inl ((unmoved_publish _ _).noted (noted_noteActivity _ m))

theorem signals_handleRouting (pb : Protobuf) (c : TrafficController) (m : Moment)
    (run : TrafficRunResult) (nodeId : String) (packet : MeshPacket) :
    Signals m c (c.handleRouting pb m run nodeId packet).1 := by
  unfold handleRouting
  split
  · exact .refl c
  · dsimp only
    split
    · exact .refl c
    · split
      · exact .refl c
      · split
        · exact (signals_recordPretransmissionRejection c m nodeId _ _ _).trans
            (signals_reportRouting pb _ m run nodeId packet _ _ _ _)
        · split
          · exact .refl c
          · exact signals_reportRouting pb c m run nodeId packet _ _ _ _

theorem signals_handleFromRadio (pb : Protobuf) (h : c.view.Admitted) (m : Moment)
    (nodeId : String) (message : FromRadio) :
    Signals m c (c.handleFromRadio pb m nodeId message).1 := by
  unfold handleFromRadio
  split
  · exact .refl c
  · next run hcurrent =>
      split
      · exact .refl c
      · split
        · exact signals_recordQueueStatus pb h hcurrent m nodeId _
        · exact .refl c
        · split
          · split
            · exact signals_handleText pb c m run nodeId _
            · split
              · exact signals_handleRouting pb c m run nodeId _
              · exact .refl c
          · exact .refl c

theorem signals_recordRfTransmission (pb : Protobuf) (c : TrafficController) (m : Moment)
    (transmitter : String) (packet : MeshPacket) (packetAirtimeMs : Nat) :
    Signals m c (c.recordRfTransmission pb m transmitter packet packetAirtimeMs).1 := by
  have hidentified := unmoved_messageForPacketIdentity pb c packet (some transmitter)
  unfold recordRfTransmission
  split
  · exact .refl c
  · split
    · exact .refl c
    · dsimp only
      split
      · exact Or.inr hidentified
      · split
        · exact Or.inr hidentified
        · split
          · exact Or.inr
              (hidentified.trans ((unmoved_markTransmitted _ _ _).trans (by constructor <;> rfl)))
          · exact Or.inl ((unmoved_publishMetricUpdate _ _ _ _).noted (noted_noteActivity _ m))

theorem signals_recordDrop (pb : Protobuf) (c : TrafficController) (m : Moment)
    (transmitter : String) (packet : MeshPacket) (reason : String) :
    Signals m c (c.recordDrop pb m transmitter packet reason) := by
  have hidentified := unmoved_messageForPacketIdentity pb c packet (some transmitter)
  unfold recordDrop
  split
  · exact .refl c
  · dsimp only
    split
    · exact Or.inr hidentified
    · split
      · exact Or.inr hidentified
      · exact Or.inl ((unmoved_publishMetricUpdate _ _ _ _).noted (noted_noteActivity _ m))

/-- What a pass looks at is left alone by a controller that differs only elsewhere. -/
theorem Unmoved.of_view (hview : d.view = c.view)
    (hlast : d.lastActivityMonotonic = c.lastActivityMonotonic)
    (hchanged : d.activityChanged = c.activityChanged) : Unmoved c d where
  request := by
    have hrequest := congrArg (fun v => v.frame.request.map Prod.snd) hview
    simpa [view, frame, Function.comp_def] using hrequest
  messages := congrArg (fun v => v.messages.map (·.setTransmitted)) hview
  pending := congrArg (fun v => v.accumulators.pendingSubmissions) hview
  terminal := congrArg (fun v => v.accumulators.routingTerminalSequences) hview
  lastActivity := hlast
  activityChanged := hchanged

/-- A write through `self.current` that leaves messages and request. -/
theorem unmoved_modifyCurrent (c : TrafficController)
    {f : TrafficRunResult → TrafficRunResult}
    (hmessages : ∀ run, (f run).generatedMessages = run.generatedMessages)
    (hidentity : ∀ run, ((f run).runId, (f run).request) = (run.runId, run.request)) :
    Unmoved c (c.modifyCurrent f) := by
  refine .of_view (view_modifyCurrent c hmessages hidentity) ?_ ?_ <;> unfold modifyCurrent <;>
    split <;> rfl

theorem unmoved_recordFailedReceptions (c : TrafficController) (m : Moment) (nodeId : String)
    (total : Nat) : Unmoved c (c.recordFailedReceptions m nodeId total) := by
  unfold recordFailedReceptions
  split
  · exact .refl c
  · dsimp only
    split
    · constructor <;> rfl
    · split
      · constructor <;> rfl
      · exact Unmoved.trans (by constructor <;> rfl) (unmoved_publishMetricUpdate _ _ _ _)

theorem unmoved_recordDuplicateReceptions (c : TrafficController) (m : Moment)
    (nodeId : String) (total : Nat) :
    Unmoved c (c.recordDuplicateReceptions m nodeId total) := by
  unfold recordDuplicateReceptions
  split
  · exact .refl c
  · dsimp only
    split
    · constructor <;> rfl
    · split
      · constructor <;> rfl
      · exact Unmoved.trans (by constructor <;> rfl) (unmoved_publishMetricUpdate _ _ _ _)

theorem unmoved_setEventLoopLag (c : TrafficController) (m : Moment) (lagMs : ℚ) :
    Unmoved c (c.setEventLoopLag m lagMs) := by
  unfold setEventLoopLag
  split
  · exact .refl c
  · exact Unmoved.trans (by constructor <;> rfl) (unmoved_publishMetricUpdate _ _ _ _)

theorem unmoved_recordTopologyChange (c : TrafficController) (event : PacketEvent)
    (link : DirectedLink) : Unmoved c (c.recordTopologyChange event link).1 := by
  unfold recordTopologyChange
  split
  · exact .refl c
  · split
    · exact .refl c
    · exact unmoved_modifyCurrent c (fun _ => rfl) fun _ => rfl

/-- The run has settled after what left the condition alone only if it had before. -/
theorem Unmoved.readyToSettle (h : Unmoved c d) (hopen : c.frozenResults = [])
    (hopen' : d.frozenResults = []) : d.readyToSettle = c.readyToSettle := by
  have hcount : ∀ (c : TrafficController) (required : Bool) (messages : List GeneratedMessage),
      messages.countP (c.isUnresolved required) =
        (messages.map (·.setTransmitted)).countP (c.isUnresolved required) := by
    intro c required messages
    rw [List.countP_map]
    rfl
  have hsame : d.unresolvedDirectMessages = c.unresolvedDirectMessages := by
    unfold unresolvedDirectMessages
    rw [current_of_open hopen, current_of_open hopen']
    have hrequest := h.request
    have hmessages := h.messages
    unfold TrafficController.messages at hmessages
    cases hc : c.run with
    | none =>
        rw [hc] at hrequest
        rw [Option.map_eq_none_iff.mp hrequest]
    | some run =>
        rw [hc] at hrequest hmessages
        obtain ⟨run', hd, hsame⟩ := Option.map_eq_some_iff.mp hrequest
        rw [hd] at hmessages ⊢
        dsimp only at hmessages ⊢
        rw [hsame, hcount d, hcount c, hmessages]
        have hcondition : d.isUnresolved run.request.acknowledgmentRequested =
            c.isUnresolved run.request.acknowledgmentRequested := by
          funext message
          unfold isUnresolved
          rw [h.terminal]
        rw [hcondition]
  unfold TrafficController.readyToSettle
  rw [h.pending, hsame]

/-! ## What the deadline fails -/

/-- Messages stay, none becomes submitted, and failures stay. -/
def Fails (c d : TrafficController) : Prop :=
  ∀ (ref : Nat) (message : GeneratedMessage), c.messages[ref]? = some message →
    ∃ later, d.messages[ref]? = some later ∧ later.submitted = message.submitted ∧
      (message.submissionError ≠ none → later.submissionError ≠ none)

theorem Fails.refl (c : TrafficController) : Fails c c :=
  fun _ message hget => ⟨message, hget, rfl, id⟩

theorem Fails.trans (hfirst : Fails c d) (hsecond : Fails d e) : Fails c e := by
  intro ref message hget
  obtain ⟨later, hlater, hsame, hstays⟩ := hfirst ref message hget
  obtain ⟨last, hlast, hsame', hstays'⟩ := hsecond ref later hlater
  exact ⟨last, hlast, hsame'.trans hsame, fun hfailed => hstays' (hstays hfailed)⟩

/-- A submission that is resolved with an error fails, unless it was submitted. -/
theorem fails_resolveSubmission (hopen : c.frozenResults = []) (m : Moment) (source : String)
    (ref : Nat) (error : String) :
    Fails c (c.resolveSubmission m source ref (some error)) ∧
      (c.resolveSubmission m source ref (some error)).frozenResults = [] ∧
      ∀ message, c.messages[ref]? = some message → message.submitted = false →
        ∃ later, (c.resolveSubmission m source ref (some error)).messages[ref]? = some later ∧
          later.submissionError ≠ none := by
  by_cases hunresolved : ∃ message, c.messages[ref]? = some message ∧ message.Unresolved
  · obtain ⟨message, hget, hunresolved⟩ := hunresolved
    have hview := view_resolveSubmission hopen m source hget hunresolved (some error)
    have hmessages : (c.resolveSubmission m source ref (some error)).messages =
        c.messages.modify ref (·.setSubmissionError error) := congrArg View.messages hview
    have hframe : (c.resolveSubmission m source ref (some error)).frame = c.frame :=
      congrArg View.frame hview
    refine ⟨?_, opened_of_frame hframe hopen, ?_⟩
    · intro i found hfound
      rw [hmessages, List.getElem?_modify, hfound]
      by_cases hi : ref = i
      · exact ⟨found.setSubmissionError error, by simp [hi], rfl, fun _ => by
          simp [GeneratedMessage.setSubmissionError]⟩
      · exact ⟨found, by simp [hi], rfl, id⟩
    · intro found hfound _
      rw [hmessages, List.getElem?_modify, hfound]
      exact ⟨found.setSubmissionError error, by simp, by
        simp [GeneratedMessage.setSubmissionError]⟩
  · have hresolved : ∀ message, c.messages[ref]? = some message → ¬message.Unresolved :=
      fun message hget h => hunresolved ⟨message, hget, h⟩
    rw [resolveSubmission_of_resolved m source hresolved]
    refine ⟨.refl c, hopen, ?_⟩
    intro message hget hsubmitted
    exact ⟨message, hget, fun hnone => hresolved message hget ⟨hsubmitted, hnone⟩⟩

/-- What is pending and not submitted at the deadline fails. -/
theorem failed_finalizePendingSubmissions (h : c.view.Admitted) (hopen : c.frozenResults = [])
    (m : Moment) {key : String × Nat} {ref : Nat}
    (hpending : c.accumulators.pendingSubmissions.get? key = some ref) :
    ∃ message, (c.finalizePendingSubmissions m).messages[ref]? = some message ∧
      message.submissionError ≠ none := by
  suffices hloop : ∀ (entries : List ((String × Nat) × Nat)) (c : TrafficController),
      c.frozenResults = [] → ∀ ref message, c.messages[ref]? = some message →
        message.submitted = false → (∃ key, (key, ref) ∈ entries) →
        ∃ later, (entries.foldl (fun c entry => c.resolveSubmission m entry.1.1 entry.2
          (some "firmware queue admission timed out")) c).messages[ref]? = some later ∧
          later.submissionError ≠ none by
    obtain ⟨message, hget, hkey⟩ := h.keyed _ _ hpending
    have hunresolved := h.unresolved_of_pending hget (by rw [hkey]; exact hpending)
    exact hloop _ c hopen ref message hget hunresolved.1
      ⟨key, Dict.get?_eq_some.mp hpending⟩
  -- Entry by entry: the entry itself fails its message, and the later ones let it be.
  have hstays : ∀ (entries : List ((String × Nat) × Nat)) (c : TrafficController),
      c.frozenResults = [] →
        Fails c (entries.foldl (fun c entry => c.resolveSubmission m entry.1.1 entry.2
          (some "firmware queue admission timed out")) c) := by
    intro entries
    induction entries with
    | nil => exact fun c _ => .refl c
    | cons entry rest ih =>
        intro c hopen
        obtain ⟨hfails, hopen', _⟩ := fails_resolveSubmission hopen m entry.1.1 entry.2
          "firmware queue admission timed out"
        exact hfails.trans (ih _ hopen')
  intro entries
  induction entries with
  | nil =>
      rintro c _ ref message _ _ ⟨key, hmember⟩
      cases hmember
  | cons entry rest ih =>
      rintro c hopen ref message hget hsubmitted ⟨key, hmember⟩
      obtain ⟨hfails, hopen', hfailed⟩ := fails_resolveSubmission hopen m entry.1.1 entry.2
        "firmware queue admission timed out"
      rcases List.mem_cons.mp hmember with rfl | hrest
      · obtain ⟨later, hlater, herror⟩ := hfailed message hget hsubmitted
        obtain ⟨last, hlast, _, hkept⟩ := hstays rest _ hopen' ref later hlater
        exact ⟨last, hlast, hkept herror⟩
      · obtain ⟨later, hlater, hsame, _⟩ := hfails ref message hget
        exact ih _ hopen' ref later hlater (hsame.trans hsubmitted) ⟨key, hrest⟩

end TrafficController

/-- The run task sleeps in the loop of `_drain`. -/
def RunPc.drains : RunPc → Bool
  | .draining _ => true
  | _ => false

namespace TrafficTasks

open TrafficController

variable {s t : TrafficTasks} {a : Action}

/-- A pass through the loop of `_drain`: the controller that it looks at, its deadline and
its readings of the clock. -/
structure DrainPass where
  controller : TrafficController
  deadline : ℚ
  m : Moment

/-- The pass that a step makes: when the run task wakes, and when it enters the loop after
its last message. -/
def drainPass (s : TrafficTasks) : Action → Option DrainPass
  | .run m .drained =>
      match s.runTask with
      | .draining deadline => some ⟨s.controller, deadline, m⟩
      | _ => none
  | .run m (.sent exception true) =>
      match s.runTask with
      | .sending source ref =>
          let sent :=
            match exception with
            | none => s.controller
            | some exception => s.controller.submitFailed m source ref exception
          let c := sent.beginDrain m
          match c.settleSeconds with
          | none => some ⟨c, m.now + c.drainWindows.2, m⟩
          | some _ => none
      | _ => none
  | _ => none

/-- The tasks after a pass. -/
def passed (s : TrafficTasks) (pass : DrainPass) : TrafficTasks :=
  match pass.controller.drainVerdict pass.deadline pass.m.now with
  | .settled => (s.withController pass.controller).afterDrain pass.m
  | .expired =>
      (s.withController
        (pass.controller.finalizePendingSubmissions pass.m)).afterDrain pass.m
  | .waiting =>
      { s with
        controller := { pass.controller with activityChanged := false }
        runTask := .draining pass.deadline }

/-- Entering the loop of `_drain` is its first pass. -/
theorem enterDrain_eq_passed (s : TrafficTasks) (m : Moment)
    (hsettle : (s.controller.beginDrain m).settleSeconds = none) :
    s.enterDrain m =
      s.passed ⟨s.controller.beginDrain m,
        m.now + (s.controller.beginDrain m).drainWindows.2, m⟩ := by
  unfold enterDrain
  dsimp only
  split
  · next hsome =>
      rw [hsettle] at hsome
      cases hsome
  · rfl

/-- A step that makes a pass does what the pass decides. -/
theorem step_of_pass (pb : Protobuf) {pass : DrainPass} (hpass : s.drainPass a = some pass)
    (hstep : step pb s a = some t) : t = s.passed pass := by
  unfold drainPass at hpass
  split at hpass
  · next m =>
      split at hpass
      · next deadline hdraining =>
          cases hpass
          unfold TrafficTasks.step at hstep
          rw [hdraining] at hstep
          dsimp only [resumeRun] at hstep
          unfold passed
          dsimp only
          split at hstep
          · cases hstep
          · cases hverdict : s.controller.drainVerdict deadline m.now with
            | settled =>
                rw [hverdict] at hstep
                exact (Option.some.inj hstep).symm
            | expired =>
                rw [hverdict] at hstep
                exact (Option.some.inj hstep).symm
            | waiting =>
                rw [hverdict] at hstep
                dsimp only
                rw [← hdraining]
                exact (Option.some.inj hstep).symm
      · cases hpass
  · next m exception =>
      split at hpass
      · next source ref hsending =>
          dsimp only at hpass
          split at hpass
          · next hsettle =>
              cases hpass
              unfold TrafficTasks.step at hstep
              rw [hsending] at hstep
              dsimp only [resumeRun] at hstep
              split at hstep
              · cases hstep
              · cases exception with
                | none =>
                    exact (Option.some.inj hstep).symm.trans (enterDrain_eq_passed s m hsettle)
                | some exception =>
                    exact (Option.some.inj hstep).symm.trans
                      (enterDrain_eq_passed (s.withController _) m hsettle)
          · cases hpass
      · cases hpass
  · cases hpass

/-! ## The end of the drain -/

/-- After the drain the run task is at its final sample or in `_finish`. -/
theorem drains_afterDrain (s : TrafficTasks) (m : Moment) :
    (s.afterDrain m).runTask.drains = false := by
  unfold afterDrain
  dsimp only
  split
  · rfl
  · unfold runFinish runAfterFinish
    dsimp only
    split
    · rfl
    · rfl
    · split
      · rfl
      · split <;> rfl

/-- Nothing that is not pending changes at the end of the drain. -/
theorem messages_afterDrain (s : TrafficTasks) (m : Moment)
    (hnone : s.controller.accumulators.pendingSubmissions = ∅) :
    (s.afterDrain m).controller.messages = s.controller.messages := by
  have hfinish : ∀ u : TrafficTasks, u.controller.accumulators.pendingSubmissions = ∅ →
      (u.enterFinish m).1.controller.messages = u.controller.messages := by
    intro u hu
    have hbegin : (u.controller.beginFinalization m).messages = u.controller.messages := by
      unfold beginFinalization
      rw [finalizePendingSubmissions_of_empty]
      · rfl
      · exact hu
    unfold enterFinish proceedFinish
    dsimp only
    split
    · rfl
    · split
      · exact hbegin
      · split <;> rfl
  unfold afterDrain
  dsimp only
  split
  · rfl
  · have hentered := hfinish { s with controller := s.controller.endDrain } hnone
    unfold runFinish runAfterFinish
    dsimp only
    rcases enterFinish_cases { s with controller := s.controller.endDrain } m with
      ⟨value, hreturned⟩ | ⟨_, hwaits⟩ | ⟨_, _, hbegins⟩
    · rw [hreturned]
      rfl
    · rw [hwaits]
      rfl
    · rw [hbegins] at hentered ⊢
      exact hentered

/-- Only a pass ends the drain; what it looks at is open, and its pending submissions are
those of its messages. -/
theorem admitted_of_pass (h : Exact s) {pass : DrainPass} (hpass : s.drainPass a = some pass) :
    pass.controller.frozenResults = [] ∧ pass.controller.view.Admitted := by
  have hopen : s.runTask ≠ .done → s.controller.frozenResults = [] :=
    fun hactive => by_contra fun hne => hactive (h.structured.frozen hne)
  unfold drainPass at hpass
  split at hpass
  · split at hpass
    · next hdraining =>
        cases hpass
        exact ⟨hopen (by simp [hdraining]), h.admitted⟩
    · cases hpass
  · next m exception =>
      split at hpass
      · next source ref hsending =>
          have hopen := hopen (by simp [hsending])
          dsimp only at hpass
          split at hpass
          · cases hpass
            have hbegins : ∀ c : TrafficController, Books True s.controller c →
                (c.beginDrain m).frozenResults = [] ∧ (c.beginDrain m).view.Admitted := by
              intro c hbooks
              have hadmitted := h.admitted.entries trivial hbooks.entries
              have hopened : c.frozenResults = [] := opened_of_frame hbooks.frame hopen
              exact ⟨hopened, hadmitted.congr rfl (fun _ => rfl) fun _ _ => id⟩
            have hsent := h.structured.run
            rw [hsending] at hsent
            cases exception with
            | none => exact hbegins _ (.refl _)
            | some exception =>
                exact hbegins _ (books_submitFailed hopen m source ref exception hsent.2
                  fun _ => h.admitted)
          · cases hpass
      · cases hpass
  · cases hpass

/-! ## While the run task sleeps -/

/-- While the run task sleeps in the loop, calls of `stop` and `fail` leave alone what a
pass looks at. -/
theorem unmoved_enterCall (hdrains : s.runTask.drains = true) (m : Moment)
    (kind : CallerKind) : Unmoved s.controller (s.enterCall m kind).1.controller := by
  have hactive : s.runTask ≠ .done := by
    intro hover
    rw [hover] at hdrains
    cases hdrains
  have hcancel : ∀ (u : TrafficTasks) (runFailed : Bool), u.runTask = s.runTask →
      Unmoved s.controller u.controller →
      Unmoved s.controller (u.cancelRunTask m kind runFailed).1.controller := by
    intro u runFailed hsame hunmoved
    unfold cancelRunTask
    rw [if_neg (by rw [hsame]; exact hactive)]
    exact hunmoved
  unfold enterCall
  dsimp only
  split
  · exact .refl _
  · split
    · unfold afterWait
      cases kind with
      | stop =>
          dsimp only
          split
          · exact hcancel s true rfl (.refl _)
          · exact hcancel _ false rfl (by constructor <;> rfl)
      | fail reason =>
          dsimp only
          split
          · exact .refl _
          · refine hcancel _ false rfl (Unmoved.trans ?_ (unmoved_modifyCurrent _ ?_ ?_))
            · constructor <;> rfl
            · exact fun _ => rfl
            · exact fun _ => rfl
    · split <;> exact .refl _

/-- No call of `stop` or `fail` resumes while the run task sleeps in the loop: each waits
for the run task, for a finalization or for a sample behind the run. -/
theorem not_resumes_of_drains (h : Structured s) (hdrains : s.runTask.drains = true)
    {caller : Caller} (hcaller : caller ∈ s.callers) (m : Moment) (input : CallerInput) :
    s.resumeCall m caller.kind caller.pc input = none := by
  have hactive : s.runTask ≠ .done := by
    intro hover
    rw [hover] at hdrains
    cases hdrains
  have hphase : s.controller.phase = .draining := by
    have hrun := h.run
    cases hpc : s.runTask with
    | draining deadline =>
        rw [hpc] at hrun
        exact hrun
    | _ =>
        rw [hpc] at hdrains
        cases hdrains
  have hopen := not_closed_of_draining hphase
  have hfits := h.callers caller hcaller
  generalize caller.pc = pc at hfits ⊢
  cases pc with
  | awaiting woken => exact absurd hfits.1 hopen
  | cancelling runFailed =>
      unfold resumeCall
      split <;> simp_all
  | sampling runFailed => exact absurd hfits hactive
  | finishing target pc => exact absurd hfits.1 hactive
  | returned value => rfl
  | raised message => rfl

/-- A step notes activity, or leaves alone the condition of the loop and the time of the
last activity. -/
def Watched (s : TrafficTasks) (a : Action) (t : TrafficTasks) : Prop :=
  (∃ m ∈ a.moment, Noted m t.controller) ∨
    (t.controller.readyToSettle = s.controller.readyToSettle ∧
      t.controller.lastActivityMonotonic = s.controller.lastActivityMonotonic)

theorem watched_of_signals {m : Moment} (ha : a.moment = some m)
    (hsignals : Signals m s.controller t.controller)
    (hopen : s.controller.frozenResults = []) (hopen' : t.controller.frozenResults = []) :
    Watched s a t := by
  rcases hsignals with hnoted | hunmoved
  · exact Or.inl ⟨m, ha, hnoted⟩
  · exact Or.inr ⟨hunmoved.readyToSettle hopen hopen', hunmoved.lastActivity⟩

/-- A step that leaves the run task asleep either notes activity, which wakes it, or leaves
the condition of the loop alone. -/
theorem Exact.watched (pb : Protobuf) (h : Exact s) (hstructured : Structured t)
    (hstep : TrafficTasks.step pb s a = some t) (hdrains : s.runTask.drains = true)
    (hdrains' : t.runTask.drains = true) : Watched s a t := by
  have hopens : ∀ u : TrafficTasks, Structured u → u.runTask.drains = true →
      u.controller.frozenResults = [] := by
    intro u hu hdrains
    by_contra hne
    rw [hu.frozen hne] at hdrains
    cases hdrains
  have hopen := hopens s h.structured hdrains
  have hopen' := hopens t hstructured hdrains'
  have hunmoved : Unmoved s.controller t.controller → Watched s a t :=
    fun hunmoved => Or.inr ⟨hunmoved.readyToSettle hopen hopen', hunmoved.lastActivity⟩
  cases a with
  | start m runId request scenarioSnapshot baseline =>
      unfold TrafficTasks.step at hstep
      dsimp only at hstep
      split at hstep
      · cases hstep
        have hactive : s.runTask ≠ .done := by
          intro hover
          rw [hover] at hdrains
          cases hdrains
        have hraises : s.started m runId request scenarioSnapshot baseline =
            s.withController s.controller := by
          unfold started start
          simp [hactive]
        rw [hraises] at hunmoved ⊢
        exact hunmoved (.refl _)
      · cases hstep
  | fromRadio m nodeId message =>
      cases hstep
      exact watched_of_signals rfl (signals_handleFromRadio pb h.admitted m nodeId message)
        hopen hopen'
  | rfTransmission m transmitter packet packetAirtimeMs =>
      cases hstep
      exact watched_of_signals rfl
        (signals_recordRfTransmission pb s.controller m transmitter packet packetAirtimeMs)
        hopen hopen'
  | drop m transmitter packet reason =>
      cases hstep
      exact watched_of_signals rfl (signals_recordDrop pb s.controller m transmitter packet reason)
        hopen hopen'
  | failedReceptions m nodeId total =>
      cases hstep
      exact hunmoved (unmoved_recordFailedReceptions s.controller m nodeId total)
  | duplicateReceptions m nodeId total =>
      cases hstep
      exact hunmoved (unmoved_recordDuplicateReceptions s.controller m nodeId total)
  | eventLoopLag m lagMs =>
      cases hstep
      exact hunmoved (unmoved_setEventLoopLag s.controller m lagMs)
  | topologyChange event link =>
      cases hstep
      exact hunmoved (unmoved_recordTopologyChange s.controller event link)
  | run m input =>
      have hpass : ∃ pass, s.drainPass (.run m input) = some pass ∧
          pass.controller = s.controller := by
        unfold TrafficTasks.step at hstep
        dsimp only at hstep
        split at hstep
        · cases hstep
        · cases hpc : s.runTask with
          | draining deadline =>
              rw [hpc] at hstep
              cases input with
              | drained => exact ⟨_, by unfold drainPass; rw [hpc], rfl⟩
              | _ => cases hstep
          | _ =>
              rw [hpc] at hdrains
              cases hdrains
      obtain ⟨pass, hpass, hcontroller⟩ := hpass
      rw [step_of_pass pb hpass hstep] at hdrains' ⊢
      unfold passed at hdrains' ⊢
      split at hdrains'
      · rw [drains_afterDrain] at hdrains'
        cases hdrains'
      · rw [drains_afterDrain] at hdrains'
        cases hdrains'
      · have hready := congrArg readyToSettle hcontroller
        have hlast := congrArg lastActivityMonotonic hcontroller
        exact Or.inr ⟨hready, hlast⟩
  | cancelled =>
      unfold TrafficTasks.step at hstep
      dsimp only at hstep
      split at hstep
      · cases hstep
        unfold TrafficTasks.cancelled at hdrains'
        split at hdrains' <;> cases hdrains'
      · cases hstep
  | call m kind =>
      cases hstep
      exact hunmoved (unmoved_enterCall hdrains m kind)
  | resume i m input =>
      unfold TrafficTasks.step at hstep
      dsimp only at hstep
      split at hstep
      · cases hstep
      · next caller hget =>
          rw [not_resumes_of_drains h.structured hdrains (List.mem_of_getElem? hget)] at hstep
          cases hstep

/-! ## The drain -/

/-- What a step says of the drain. -/
structure Drains (s : TrafficTasks) (a : Action) (t : TrafficTasks) : Prop where
  /-- a drain that ends before its deadline has found the run settled -/
  early : ∀ pass ∈ s.drainPass a, t.runTask.drains = false → pass.m.now < pass.deadline →
    pass.controller.Settled pass.m.now
  /-- a drain that ends at its deadline fails what is still pending -/
  late : ∀ pass ∈ s.drainPass a, t.runTask.drains = false → pass.deadline ≤ pass.m.now →
    ∀ key ref, pass.controller.accumulators.pendingSubmissions.get? key = some ref →
      ∃ message, t.controller.messages[ref]? = some message ∧ message.submissionError ≠ none
  /-- the run does not settle behind the back of the sleeping run task -/
  awake : s.runTask.drains = true → t.runTask.drains = true →
    s.controller.readyToSettle = false → t.controller.readyToSettle = true →
    t.controller.activityChanged = true
  /-- the time of the last activity is that at which activity was noted last -/
  noted : s.runTask.drains = true → t.runTask.drains = true → Watched s a t

theorem Exact.drains (pb : Protobuf) (h : Exact s) (hstructured : Structured t)
    (hstep : TrafficTasks.step pb s a = some t) : Drains s a t where
  early := by
    intro pass hpass hends hbefore
    rw [step_of_pass pb hpass hstep] at hends
    cases hverdict : pass.controller.drainVerdict pass.deadline pass.m.now with
    | settled => exact settled_of_verdict hverdict
    | expired => exact absurd hbefore (not_lt.mpr (deadline_of_expired hverdict))
    | waiting =>
        unfold passed at hends
        rw [hverdict] at hends
        cases hends
  late := by
    intro pass hpass hends hpassed key ref hpending
    obtain ⟨hopen, hadmitted⟩ := admitted_of_pass h hpass
    have ht := step_of_pass pb hpass hstep
    unfold passed at ht
    cases hverdict : pass.controller.drainVerdict pass.deadline pass.m.now with
    | settled =>
        -- a settled run has nothing pending
        rw [(settled_of_verdict hverdict).pending] at hpending
        cases hpending
    | expired =>
        rw [hverdict] at ht
        rw [ht, messages_afterDrain _ _ rfl]
        exact failed_finalizePendingSubmissions hadmitted hopen pass.m hpending
    | waiting =>
        rw [hverdict] at ht
        rw [ht] at hends
        cases hends
  awake := by
    intro hdrains hdrains' hbefore hafter
    rcases h.watched pb hstructured hstep hdrains hdrains' with ⟨m, _, hnoted⟩ | ⟨hsame, _⟩
    · exact hnoted.1
    · rw [hsame, hbefore] at hafter
      cases hafter
  noted := fun hdrains hdrains' => h.watched pb hstructured hstep hdrains hdrains'

section Runs

variable {scenario : Scenario} {hardwareIds : Dict String Nat} {buildMetadata : BuildMetadata}
  {settleSeconds : Option ℚ} {failedReceptionSampler : Bool}

/-- In a run that attributes what it rejects, every drain ends for the right reason and is
never left asleep. -/
theorem drains_of_run (pb : Protobuf)
    (hrun : Run (step pb) (Attributes pb)
      (.new scenario hardwareIds buildMetadata settleSeconds failedReceptionSampler) s)
    (hattributes : Attributes pb s a) (hstep : step pb s a = some t) : Drains s a t := by
  have hexact : Exact s :=
    hrun.invariant (fun _ _ _ h hattributes hstep => h.step pb hattributes hstep)
      (exact_new _ _ _ _ _)
  exact hexact.drains pb (hexact.step pb hattributes hstep).structured hstep

end Runs

/-! ## A queue status that signals nothing -/

section Pair

/-- The last message of the run has been sent; the firmware of the receiver rejects its
acknowledgment, and the drain takes note of that. -/
def rejectedInDrain : List Action :=
  pairSubmission ++
    [.run pairMoment (.sent none true),
      .rfTransmission pairMoment "node-2" (routingPacket 2 1 9 7 0) 50,
      .fromRadio pairMoment "node-2" (.packet (routingPacket 1 2 11 9 38)),
      .run pairMoment .drained]

/-- The queue status of the message. -/
def lateQueueStatus : Action :=
  .fromRadio pairMoment "node-1" (.queueStatus { meshPacketId := 7, res := 0 })

/-- The queue status settles the run, and nothing wakes the run task. -/
theorem settled_run_left_asleep :
    ∃ s t, Run (step pairProtobuf) FromScenario pairTasks s ∧
      step pairProtobuf s lateQueueStatus = some t ∧
      s.runTask.drains = true ∧ t.runTask.drains = true ∧
      s.controller.readyToSettle = false ∧ t.controller.readyToSettle = true ∧
      t.controller.activityChanged = false := by
  have hafter : ((exec (step pairProtobuf) rejectedInDrain pairTasks).bind fun s =>
      (step pairProtobuf s lateQueueStatus).map fun t =>
        ((s.runTask.drains, t.runTask.drains),
          (s.controller.readyToSettle, t.controller.readyToSettle),
          t.controller.activityChanged)) =
      some ((true, true), (false, true), false) := by
    decide +kernel
  have hscenario : Conforms (step pairProtobuf) FromScenario rejectedInDrain pairTasks := by
    decide +kernel
  obtain ⟨s, hexec, hafter⟩ := Option.bind_eq_some_iff.mp hafter
  obtain ⟨t, hstep, hafter⟩ := Option.map_eq_some_iff.mp hafter
  simp only [Prod.mk.injEq] at hafter
  obtain ⟨⟨hs, ht⟩, ⟨hready, hready'⟩, hchanged⟩ := hafter
  exact ⟨s, t, .of_exec hexec hscenario, hstep, hs, ht, hready, hready', hchanged⟩

/-- The last message of the run has been sent and its queue status is due. -/
def sentInDrain : List Action := pairSubmission ++ [.run pairMoment (.sent none true)]

/-- The rejection of the message itself, by the firmware of its sender. -/
def rejectedMessage : Action :=
  .fromRadio pairMoment "node-1" (.packet (routingPacket 1 1 11 7 38))

/-- The sender's own rejection settles the run and wakes the run task. -/
theorem settled_run_awake :
    ∃ s t, exec (step pairProtobuf) sentInDrain pairTasks = some s ∧
      step pairProtobuf s rejectedMessage = some t ∧ Drains s rejectedMessage t ∧
      s.runTask.drains = true ∧ s.controller.readyToSettle = false ∧
      t.controller.readyToSettle = true := by
  have hafter : ((exec (step pairProtobuf) sentInDrain pairTasks).bind fun s =>
      (step pairProtobuf s rejectedMessage).map fun t =>
        (decide (Attributes pairProtobuf s rejectedMessage), s.runTask.drains,
          s.controller.readyToSettle, t.controller.readyToSettle)) =
      some (true, true, false, true) := by
    decide +kernel
  have hattributes : Conforms (step pairProtobuf) (Attributes pairProtobuf) sentInDrain
      pairTasks := by
    decide +kernel
  obtain ⟨s, hexec, hafter⟩ := Option.bind_eq_some_iff.mp hafter
  obtain ⟨t, hstep, hafter⟩ := Option.map_eq_some_iff.mp hafter
  simp only [Prod.mk.injEq, decide_eq_true_eq] at hafter
  obtain ⟨hlast, hdrains, hready, hready'⟩ := hafter
  exact ⟨s, t, hexec, hstep,
    drains_of_run pairProtobuf (.of_exec hexec hattributes) hlast hstep, hdrains, hready, hready'⟩

end Pair

end TrafficTasks

end MeshtasticLab.Traffic

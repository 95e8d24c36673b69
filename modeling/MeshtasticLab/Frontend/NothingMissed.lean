/-
  Frontend/NothingMissed.lean --- a page misses nothing that it is not told of.

  A page that was not disturbed in the current stream of the broker shows all retained
  events up to its position, as far as it has room, until a notice tells it of a gap.  When
  nothing is on its way any more its position is the end of the stream, even after a notice.

  A run may disturb a page in three ways (`disturbedBy`): a burst of events overruns its
  waiting handler, the history it asked for at first arrives after a reset, or its own reset
  returns after the first events of the new stream.
-/
import MeshtasticLab.Frontend.PageProgress

set_option autoImplicit false

namespace MeshtasticLab.Frontend

open MeshtasticLab.Foundation MeshtasticLab.Metrics

/-! ## The page -/

/-- A retained event is one of the log that is not gone. -/
theorem Recorded.items {b : EventBroker} {streamIds : List String} {published : List PacketEvent}
    (h : Recorded b streamIds published) {item : PacketEvent} (hmember : item ∈ b.history.items) :
    item ∈ streamLog published b.streamId ∧
      b.forgotten (streamLog published b.streamId) < item.sequence ∧
        item.sequence ≤ b.sequence := by
  rw [h.retains.held] at hmember
  have hlogged := List.mem_of_mem_drop hmember
  have hnumber := List.mem_map_of_mem (f := (·.sequence)) hmember
  change item.sequence ∈ (List.drop (b.forgotten _) _).map _ at hnumber
  rw [numbered_drop h.retains.numbered, List.mem_range'_1] at hnumber
  have hbound := (h.numbered.bounds (mem_streamLog.mp hlogged).1).2
  rw [(mem_streamLog.mp hlogged).2, ← h.retains.latest] at hbound
  exact ⟨hlogged, by omega, hbound⟩

/-- What the page has asked for, and what its handler attends to. -/
structure Asks (w : LivePage) (h : PageHistory) : Prop where
  attentive : ∀ stream subscription, w.session = some (stream, subscription) →
    Attentive w.server.broker h.server.streamIds stream subscription
  connecting : ∀ afterSequence streamId, w.socket = .connecting afterSequence streamId →
    (streamId = none → afterSequence = 0) ∧ ∀ known ∈ streamId, known ∈ h.server.streamIds
  answered : ∀ generation history, w.load = .answered generation history →
    history.streamId = w.server.broker.streamId → ∀ item ∈ w.server.broker.history.items,
      (∃ event ∈ history.events, item.sequence ≤ event.sequence) → item ∈ history.events

/-- What holds of a page that is not disturbed in the current stream. -/
structure Undisturbed (w : LivePage) (h : PageHistory) : Prop where
  complete : w.server.broker.streamId ∉ h.told →
    Complete w.evidence w.server.broker.streamId w.server.broker.history.items
  connecting : ∀ afterSequence,
    w.socket = .connecting afterSequence (some w.server.broker.streamId) →
      afterSequence ≤ w.evidence.reachedIn w.server.broker.streamId
  tracks : w.link.Tracks w.server.broker (streamLog h.published w.server.broker.streamId)
    (w.server.broker.streamId ∈ h.told) (w.evidence.reachedIn w.server.broker.streamId)

/-- What holds of a page and of a broker of the given size at any time. -/
structure Follows (historySize : ℕ) (w : LivePage) (h : PageHistory) : Prop where
  sound : Sound w h
  size : w.server.broker.history.maxlen = historySize
  asks : Asks w h
  undisturbed : w.server.broker.streamId ∉ h.disturbed → Undisturbed w h

section Steps

variable {historySize : ℕ} {w t : LivePage} {h : PageHistory}

/-- A page whose evidence changes, but not back, in a page that stays complete. -/
theorem Undisturbed.evidence (hundisturbed : Undisturbed w h) {evidence : EventEvidence}
    {load : InitialLoad} {disturbed : List String}
    (hreached : w.evidence.reachedIn w.server.broker.streamId ≤
      evidence.reachedIn w.server.broker.streamId)
    (hcomplete : w.server.broker.streamId ∉ h.told →
      Complete evidence w.server.broker.streamId w.server.broker.history.items) :
    Undisturbed { w with evidence := evidence, load := load }
      { h with disturbed := disturbed } where
  complete := hcomplete
  connecting afterSequence hsocket :=
    (hundisturbed.connecting afterSequence hsocket).trans hreached
  tracks := hundisturbed.tracks.ahead hreached

/-- An opened socket stays open in a step of the server. -/
theorem after_opened (before after : EventStreams) (handler : Option ℕ)
    (inbox : List PacketEvent) (a : StreamAction) :
    ∃ handler' inbox', (PageSocket.opened handler inbox).after before after a =
      .opened handler' inbox' := by
  cases handler with
  | none => cases a <;> exact ⟨_, _, rfl⟩
  | some i =>
      cases a with
      | handler j input =>
          rw [after_handler]
          split <;> exact ⟨_, _, rfl⟩
      | close j =>
          rw [after_close]
          split
          · exact ⟨_, _, rfl⟩
          · split <;> exact ⟨_, _, rfl⟩
      | _ => exact ⟨_, _, rfl⟩

/-- The socket asks for something only in a step of the page. -/
theorem after_eq_connecting {socket : PageSocket} {before after : EventStreams}
    {a : StreamAction} {afterSequence : ℕ} {streamId : Option String}
    (hafter : socket.after before after a = .connecting afterSequence streamId) :
    socket = .connecting afterSequence streamId := by
  cases socket with
  | closed => cases a <;> exact hafter
  | connecting afterSequence' streamId' => cases a <;> exact hafter
  | opened handler inbox =>
      obtain ⟨handler', inbox', hopened⟩ := after_opened before after handler inbox a
      rw [hopened] at hafter
      cases hafter

/-- The handler of the page with what the server has for it. -/
theorem Asks.session (hasks : Asks w h) (hsound : Sound w h) :
    ∀ stream subscription, w.link.session = some (stream, subscription) →
      Attentive w.server.broker h.server.streamIds stream subscription ∧
        ∃ ledger, Session w.server.broker h.server.streamIds subscription stream ledger :=
  fun _ _ hsession =>
    ⟨hasks.attentive _ _ hsession, session_of_link hsound.sessions hsession⟩

/-- What an answer of the stream covers after a step of the server. -/
theorem answered_server (hasks : Asks w h) (hsound : Sound w h) {a : StreamAction}
    {l k : Link} {c : EventBroker} (hstep : LinkStep w.server.broker l a c k)
    {generation : ℕ} {history : EventHistoryPage}
    (hanswered : w.load = .answered generation history) (hstream : history.streamId = c.streamId) :
    ∀ item ∈ c.history.items,
      (∃ event ∈ history.events, item.sequence ≤ event.sequence) → item ∈ history.events := by
  have hcovers := hasks.answered generation history hanswered
  cases hstep with
  | publish event =>
      intro item hitem hbehind
      rcases List.mem_append.mp (List.mem_of_mem_drop hitem) with hold | hnew
      · exact hcovers hstream item hold hbehind
      · -- The new event is behind everything that was published before.
        obtain ⟨earlier, hmember, hle⟩ := hbehind
        obtain ⟨hpublished, hsame⟩ :=
          (hsound.answer generation history hanswered).events earlier hmember
        have hbound := (hsound.recorded.numbered.bounds hpublished).2
        rw [hsame, hstream] at hbound
        have hlatest := hsound.recorded.retains.latest
        rw [List.mem_singleton.mp hnew] at hle
        change w.server.broker.sequence + 1 ≤ _ at hle
        change _ ≤ (streamLog h.published w.server.broker.streamId).length at hbound
        omega
  | clear streamId now => exact fun item hitem => absurd hitem List.not_mem_nil
  | handled subscribers haside hsession hmove => exact hcovers hstream
  | ended subscribers haside => exact hcovers hstream
  | beside subscribers haside => exact hcovers hstream

/-- A step of the server. -/
theorem Asks.server (hasks : Asks w h) (hsound : Sound w h) {a : StreamAction}
    (hproper : LivePage.Proper (w, h) (.server a))
    (hstep : LinkStep w.server.broker w.link a t.server.broker t.link)
    (hafter : t.socket = w.socket.after w.server t.server a) (hload : t.load = w.load) :
    Asks t (LivePage.note h w (.server a) t) := by
  obtain ⟨more, hids, hnone⟩ := note_streamIds w.server t.server h.server a
  constructor
  case attentive =>
    change ∀ stream subscription, _ → Attentive _
      (EventStreams.note h.server w.server a t.server).streamIds stream subscription
    rw [hids]
    refine Attentive.linkStep hstep (hasks.session hsound) ?_
    rintro streamId now rfl
    exact ⟨hproper.1, (List.append_cancel_left hids).symm⟩
  case connecting =>
    intro afterSequence streamId hsocket
    rw [hafter] at hsocket
    obtain ⟨hzero, hknown⟩ := hasks.connecting afterSequence streamId (after_eq_connecting hsocket)
    refine ⟨hzero, fun known hmember => ?_⟩
    change known ∈ (EventStreams.note h.server w.server a t.server).streamIds
    rw [hids]
    exact List.mem_append_left _ (hknown known hmember)
  case answered =>
    intro generation history hanswered hstream
    rw [hload] at hanswered
    exact answered_server hasks hsound hstep hanswered hstream

/-- A publish that does not overrun the page. -/
theorem calm_of_not_disturbed {event : PacketEvent}
    (hcalm : w.server.broker.streamId ∉ h.disturbed ++
      LivePage.disturbedBy w (.server (.publish event)) t) :
    ∀ stream subscription, w.link.session = some (stream, subscription) →
      stream.pc = .waiting → subscription.full = true →
        subscription.deliveredDropNoticeLast = true := by
  intro stream subscription hsession hpc hfull
  change w.session = _ at hsession
  by_contra hflag
  rw [Bool.not_eq_true] at hflag
  refine hcalm (List.mem_append_right _ ?_)
  have hoverrun : w.overrun = true := by
    simp [LivePage.overrun, hsession, hpc, hfull, hflag]
  simp [LivePage.disturbedBy, hoverrun]

/-- An event is published. -/
theorem Undisturbed.publish (hundisturbed : Undisturbed w h) (hsound : Sound w h)
    {event : PacketEvent} (hplain : event.eventType ≠ .uiEventsDropped)
    (hbroker : t.server.broker = (w.server.broker.publish event).2)
    (hlink : t.link = { w.link with
      session := w.link.session.map
        fun s => (s.1, s.2.publish (w.server.broker.sequenced event)) })
    (hsocket : ∀ afterSequence streamId, t.socket = .connecting afterSequence streamId →
      w.socket = .connecting afterSequence streamId)
    (hevidence : t.evidence = w.evidence)
    (hcalm : ∀ stream subscription, w.link.session = some (stream, subscription) →
      stream.pc = .waiting → subscription.full = true →
        subscription.deliveredDropNoticeLast = true) :
    Undisturbed t (LivePage.note h w (.server (.publish event)) t) := by
  have hstream : t.server.broker.streamId = w.server.broker.streamId := by
    rw [hbroker]
    rfl
  constructor
  case complete =>
    intro htold item hitem
    rw [hstream, hevidence]
    rw [hstream] at htold
    rw [hbroker] at hitem
    rcases List.mem_append.mp (List.mem_of_mem_drop hitem) with hold | hnew
    · exact hundisturbed.complete htold item hold
    · intro hbehind
      -- The page is not ahead of what was published before.
      have hreached := hsound.shows.reachedIn_le w.server.broker.streamId
      rw [← hsound.recorded.retains.latest] at hreached
      rw [List.mem_singleton.mp hnew] at hbehind
      change w.server.broker.sequence + 1 ≤ _ at hbehind
      omega
  case connecting =>
    intro afterSequence hconnecting
    rw [hstream] at hconnecting ⊢
    rw [hevidence]
    exact hundisturbed.connecting afterSequence (hsocket _ _ hconnecting)
  case tracks =>
    have hlog : streamLog (LivePage.note h w (.server (.publish event)) t).published
        w.server.broker.streamId = streamLog h.published w.server.broker.streamId ++
          [w.server.broker.sequenced event] := by
      refine (Recorded.streamLog_publish _ _ _ _).trans ?_
      rw [if_pos rfl]
    rw [hlink, hstream, hevidence, hlog, hbroker]
    exact hundisturbed.tracks.publish hplain hcalm

/-- A new stream begins. -/
theorem undisturbed_clear (hsound : Sound w h) (hasks : Asks w h) {fresh : String} {now : ℚ}
    (hfresh : fresh ∉ h.server.streamIds)
    (hbroker : t.server.broker = w.server.broker.clear fresh now)
    (hlink : t.link = { w.link with
      session := w.link.session.map fun s => (s.1, s.2.restart fresh now) })
    (hsocket : ∀ afterSequence streamId, t.socket = .connecting afterSequence streamId →
      w.socket = .connecting afterSequence streamId) :
    Undisturbed t (LivePage.note h w (.server (.clear fresh now)) t) := by
  have hstream : t.server.broker.streamId = fresh := by
    rw [hbroker]
    rfl
  constructor
  case complete =>
    intro _ item hitem
    rw [hbroker] at hitem
    exact absurd hitem List.not_mem_nil
  case connecting =>
    intro afterSequence hconnecting
    rw [hstream] at hconnecting
    have hknown := (hasks.connecting _ _ (hsocket _ _ hconnecting)).2 fresh rfl
    exact absurd hknown hfresh
  case tracks =>
    have hlog : streamLog (LivePage.note h w (.server (.clear fresh now)) t).published fresh =
        [] := by
      refine List.filter_eq_nil_iff.mpr fun event hmember hsame => hfresh ?_
      rw [← of_decide_eq_true hsame]
      exact hsound.recorded.known event (by simpa [LivePage.note, LivePage.publishedBy] using
        hmember)
    rw [hlink, hstream, hlog, hbroker]
    refine Link.tracks_clear (fun event hmember hsame => hfresh ?_) now
    rw [← hsame]
    exact (hsound.flow event hmember).known

/-- Another step of the server. -/
theorem Undisturbed.aside (hundisturbed : Undisturbed w h) (hsound : Sound w h)
    (hasks : Asks w h) {a : StreamAction} (haside : isAside a = true)
    (hstep : LinkStep w.server.broker w.link a t.server.broker t.link)
    (hsocket : ∀ afterSequence streamId, t.socket = .connecting afterSequence streamId →
      w.socket = .connecting afterSequence streamId)
    (hevidence : t.evidence = w.evidence) :
    Undisturbed t (LivePage.note h w (.server a) t) := by
  have htracks := hundisturbed.tracks.aside hstep haside fun stream subscription hsession => by
    obtain ⟨hattentive, ledger, hledger⟩ := hasks.session hsound stream subscription hsession
    exact ⟨hledger.streamId, fun event hmember =>
      hattentive.unsent event (List.mem_append_left _ hmember)⟩
  obtain ⟨subscribers, hbroker⟩ := hstep.broker_of_aside haside
  have hpublished : (LivePage.note h w (.server a) t).published = h.published := by
    cases a with
    | publish event => cases haside
    | clear streamId now => cases haside
    | _ => exact List.append_nil _
  have hstream : t.server.broker.streamId = w.server.broker.streamId := by
    rw [hbroker]
  have hitems : t.server.broker.history = w.server.broker.history := by
    rw [hbroker]
  constructor
  case complete =>
    rw [hstream, hevidence, hitems]
    exact hundisturbed.complete
  case connecting =>
    intro afterSequence hconnecting
    rw [hstream] at hconnecting ⊢
    rw [hevidence]
    exact hundisturbed.connecting afterSequence (hsocket _ _ hconnecting)
  case tracks =>
    rw [hstream, hevidence, hpublished]
    exact htracks

/-- A step of the server. -/
theorem Follows.server (hfollows : Follows historySize w h) {a : StreamAction}
    (hproper : LivePage.Proper (w, h) (.server a)) (hserver : w.server.step a = some t.server)
    (hafter : t.socket = w.socket.after w.server t.server a) (hevidence : t.evidence = w.evidence)
    (hload : t.load = w.load) : Follows historySize t (LivePage.note h w (.server a) t) := by
  have hsound := hfollows.sound
  have hstep := linkStep_server hsound.sessions.handlers hsound.handled hserver hafter
  have hsocket : ∀ afterSequence streamId, t.socket = .connecting afterSequence streamId →
      w.socket = .connecting afterSequence streamId := by
    intro afterSequence streamId hconnecting
    exact after_eq_connecting (hafter.symm.trans hconnecting)
  have hbefore : w.server.broker.streamId ∉ (LivePage.note h w (.server a) t).disturbed →
      Undisturbed w h := fun hcalm =>
    hfollows.undisturbed fun hmember => hcalm (List.mem_append_left _ hmember)
  have haside : isAside a = true → t.server.broker.history = w.server.broker.history ∧
      (t.server.broker.streamId ∉ (LivePage.note h w (.server a) t).disturbed →
        Undisturbed t (LivePage.note h w (.server a) t)) := by
    intro haction
    obtain ⟨subscribers, hbroker⟩ := hstep.broker_of_aside haction
    refine ⟨by rw [hbroker], fun hcalm => ?_⟩
    rw [hbroker] at hcalm
    exact (hbefore hcalm).aside hsound hfollows.asks haction hstep hsocket hevidence
  have hsize : t.server.broker.history.maxlen = w.server.broker.history.maxlen ∧
      (t.server.broker.streamId ∉ (LivePage.note h w (.server a) t).disturbed →
        Undisturbed t (LivePage.note h w (.server a) t)) := by
    cases a with
    | publish event =>
        obtain ⟨hbroker, hlink⟩ := hstep.of_publish
        refine ⟨by rw [hbroker]; rfl, fun hcalm => ?_⟩
        rw [hbroker] at hcalm
        exact (hbefore hcalm).publish hsound hproper hbroker hlink hsocket hevidence
          (calm_of_not_disturbed hcalm)
    | clear fresh now =>
        obtain ⟨hbroker, hlink⟩ := hstep.of_clear
        refine ⟨by rw [hbroker]; rfl, fun _ => ?_⟩
        exact undisturbed_clear hsound hfollows.asks hproper.1 hbroker hlink hsocket
    | _ => exact ⟨congrArg _ (haside rfl).1, (haside rfl).2⟩
  exact
    { sound := hsound.server hproper hserver hafter hevidence hload
      size := hsize.1.trans hfollows.size
      asks := hfollows.asks.server hsound hproper hstep hafter hload
      undisturbed := hsize.2 }

/-- Only the socket changes, and nothing is on its way. -/
theorem Follows.idle (hfollows : Follows historySize w h) {socket : PageSocket}
    (hsound : Sound { w with socket := socket } h)
    (hidle : LivePage.link { w with socket := socket } = ⟨[], none⟩)
    (hconnecting : ∀ afterSequence streamId, socket = .connecting afterSequence streamId →
      (streamId = none → afterSequence = 0) ∧ (∀ known ∈ streamId, known ∈ h.server.streamIds) ∧
        (streamId = some w.server.broker.streamId →
          afterSequence ≤ w.evidence.reachedIn w.server.broker.streamId)) :
    Follows historySize { w with socket := socket } h where
  sound := hsound
  size := hfollows.size
  asks :=
    { attentive := by
        intro stream subscription hsession
        have hnone : (LivePage.link { w with socket := socket }).session = none := by
          rw [hidle]
        exact absurd (hnone.symm.trans hsession) (by simp)
      connecting := fun afterSequence streamId hsocket =>
        ⟨(hconnecting afterSequence streamId hsocket).1,
          (hconnecting afterSequence streamId hsocket).2.1⟩
      answered := hfollows.asks.answered }
  undisturbed hcalm :=
    { complete := (hfollows.undisturbed hcalm).complete
      connecting := fun afterSequence hsocket =>
        (hconnecting afterSequence _ hsocket).2.2 rfl
      tracks := by
        rw [hidle]
        exact fun _ => trivial }

/-- The page asks for what is behind its position. -/
theorem connecting_of_connect (hsound : Sound w h) {afterSequence : ℕ} {streamId : Option String}
    (hsocket : PageSocket.connecting w.evidence.latestEventSequence
      (w.evidence.eventStreamId.filter (· ≠ "")) = .connecting afterSequence streamId) :
    (streamId = none → afterSequence = 0) ∧ (∀ known ∈ streamId, known ∈ h.server.streamIds) ∧
      (streamId = some w.server.broker.streamId →
        afterSequence ≤ w.evidence.reachedIn w.server.broker.streamId) := by
  have hkept : w.evidence.eventStreamId.filter (· ≠ "") = w.evidence.eventStreamId := by
    cases hpage : w.evidence.eventStreamId with
    | none => rfl
    | some streamId =>
        refine Option.filter_some_pos (decide_eq_true ?_)
        rintro rfl
        exact hsound.named (hsound.known "" hpage)
  rw [hkept] at hsocket
  cases hsocket
  refine ⟨hsound.shows.unset, hsound.known, fun hpage => ?_⟩
  rw [reachedIn_of_eq hpage]

/-- The socket of the page is accepted. -/
theorem Follows.accepted (hfollows : Follows historySize w h) (hsize : 1 ≤ historySize)
    (hlimit : historySize ≤ 5000) {now : ℚ} {afterSequence : ℕ} {streamId : Option String}
    (hsocket : w.socket = .connecting afterSequence streamId) {server : EventStreams}
    (hserver : w.server.step (.connect now afterSequence streamId) = some server) :
    Follows historySize
      { w with server := server, socket := .opened (some w.server.streams.length) [] }
      { h with
        server := EventStreams.note h.server w.server (.connect now afterSequence streamId)
          server } := by
  have hsound := hfollows.sound
  have hlink := link_accepted (w := w)
    (t := { w with server := server, socket := .opened (some w.server.streams.length) [] })
    hsound.sessions.handlers hserver rfl
  have hbroker : server.broker = w.server.broker.subscribe := by
    rw [← Option.some.inj hserver]
  obtain ⟨hzero, hknown⟩ := hfollows.asks.connecting afterSequence streamId hsocket
  constructor
  case sound => exact hsound.accepted hserver
  case size =>
    rw [hbroker]
    exact hfollows.size
  case asks =>
    refine ⟨?_, fun _ _ hopened => (by cases hopened), ?_⟩
    · intro stream subscription hsession
      cases (congrArg Link.session hlink).symm.trans hsession
      rw [hbroker]
      obtain ⟨hcurrent, hbounded, hunsent⟩ := attentive_replay (b := w.server.broker)
        hsound.sessions.streamed.mem afterSequence 5000 streamId now
      exact ⟨hcurrent, hbounded, hunsent⟩
    · rw [hbroker]
      exact hfollows.asks.answered
  case undisturbed =>
    intro hcalm
    rw [hbroker] at hcalm
    have hundisturbed := hfollows.undisturbed hcalm
    refine ⟨?_, fun _ hopened => (by cases hopened), ?_⟩
    · rw [hbroker]
      exact hundisturbed.complete
    · rw [hlink, hbroker]
      refine tracks_replay hsound.recorded ?_ ?_ ?_ _ now
      · rw [hfollows.size]
        exact hsize
      · rw [hfollows.size]
        exact hlimit
      · rintro (rfl | rfl)
        · rw [hzero rfl]
          exact Nat.zero_le _
        · exact hundisturbed.connecting afterSequence hsocket

/-- A page is told of a gap by a notice that it takes. -/
theorem mem_told {told : List String} {current : String} {event : PacketEvent}
    {rest : List PacketEvent} :
    current ∈ told ++ (((event :: rest).head?.filter isDropNotice).toList.map (·.streamId)) ↔
      current ∈ told ∨ Tells current event := by
  rw [List.mem_append, List.head?_cons]
  unfold Tells
  by_cases hdropped : isDropNotice event = true
  · rw [Option.filter_some_pos hdropped]
    simp [hdropped, eq_comm]
  · rw [Option.filter_some_neg (by simpa using hdropped)]
    simp [hdropped]

/-- The page takes a message. -/
theorem Follows.message (hfollows : Follows historySize w h) {handler : Option ℕ}
    {event : PacketEvent} {rest : List PacketEvent}
    (hsocket : w.socket = .opened handler (event :: rest)) {told : List String}
    (htold : w.server.broker.streamId ∈ told ↔
      w.server.broker.streamId ∈ h.told ∨ Tells w.server.broker.streamId event)
    (hsound' : Sound
      { w with evidence := w.evidence.receive event, socket := .opened handler rest }
      { h with told := told }) :
    Follows historySize
      { w with evidence := w.evidence.receive event, socket := .opened handler rest }
      { h with told := told } := by
  have hsound := hfollows.sound
  obtain ⟨hinbox, hlink⟩ := link_message hsocket (w.evidence.receive event)
  have hgenuine : Genuine h.server.streamIds h.published event := by
    refine hsound.flow event (List.mem_append_left _ ?_)
    rw [hinbox]
    exact List.mem_cons_self
  have hstream : event.streamId ≠ "" := fun hempty => hsound.named (hempty ▸ hgenuine.known)
  have hreached := hsound.shows.reachedIn_receive hstream w.server.broker.streamId
  refine ⟨hsound', hfollows.size, ⟨?_, fun _ _ hopened => (by cases hopened),
    hfollows.asks.answered⟩, fun hcalm => ?_⟩
  · intro stream subscription hsession
    have hsame : LivePage.session { w with
        evidence := w.evidence.receive event, socket := .opened handler rest } = w.session :=
      congrArg Link.session hlink
    exact hfollows.asks.attentive stream subscription (hsame.symm.trans hsession)
  · have hundisturbed := hfollows.undisturbed hcalm
    refine ⟨fun hnot => ?_, fun _ hopened => (by cases hopened), ?_⟩
    · obtain ⟨huntold, hsilent⟩ := not_or.mp fun hor => hnot (htold.mpr hor)
      have hgapless := hundisturbed.tracks.gapless huntold
      rw [hinbox] at hgapless
      refine (hundisturbed.complete huntold).receive hsound.shows hsound.recorded.numbered
        hgenuine hsound.named (fun item hitem => ?_) (hgapless.resolve_left hsilent).1
      obtain ⟨hlogged, hkept, -⟩ := hsound.recorded.items hitem
      exact ⟨hlogged, hkept⟩
    · have htracks := hundisturbed.tracks.message hinbox
      rw [← hreached, ← htold, ← hlink] at htracks
      exact htracks

/-- Only the load of the history changes. -/
theorem Follows.load (hfollows : Follows historySize w h) {load : InitialLoad}
    (hsound : Sound { w with load := load } h)
    (hanswered : ∀ generation history, load = .answered generation history →
      history.streamId = w.server.broker.streamId → ∀ item ∈ w.server.broker.history.items,
        (∃ event ∈ history.events, item.sequence ≤ event.sequence) → item ∈ history.events) :
    Follows historySize { w with load := load } h where
  sound := hsound
  size := hfollows.size
  asks := ⟨hfollows.asks.attentive, hfollows.asks.connecting, hanswered⟩
  undisturbed hcalm :=
    ⟨(hfollows.undisturbed hcalm).complete, (hfollows.undisturbed hcalm).connecting,
      (hfollows.undisturbed hcalm).tracks⟩

/-- The evidence of the page changes in a step that may take it back. -/
theorem Follows.evidence (hfollows : Follows historySize w h) {evidence : EventEvidence}
    {load : InitialLoad} {disturbed : List String}
    (hsound : Sound { w with evidence := evidence, load := load }
      { h with disturbed := h.disturbed ++ disturbed })
    (hload : ∀ generation history, load = .answered generation history → w.load = load)
    (hback : evidence.reachedIn w.server.broker.streamId <
      w.evidence.reachedIn w.server.broker.streamId → w.server.broker.streamId ∈ disturbed)
    (hcomplete : (w.server.broker.streamId ∉ h.told →
        Complete w.evidence w.server.broker.streamId w.server.broker.history.items) →
      w.server.broker.streamId ∉ h.told →
        Complete evidence w.server.broker.streamId w.server.broker.history.items) :
    Follows historySize { w with evidence := evidence, load := load }
      { h with disturbed := h.disturbed ++ disturbed } where
  sound := hsound
  size := hfollows.size
  asks := ⟨hfollows.asks.attentive, hfollows.asks.connecting, fun generation history hanswered =>
    hfollows.asks.answered generation history
      ((hload generation history hanswered).trans hanswered)⟩
  undisturbed hcalm := by
    rw [List.mem_append, not_or] at hcalm
    have hundisturbed := hfollows.undisturbed hcalm.1
    exact hundisturbed.evidence (Nat.le_of_not_lt fun hlt => hcalm.2 (hback hlt))
      (hcomplete hundisturbed.complete)

/-- Every step keeps what holds of a page that follows its stream. -/
theorem Follows.step (hfollows : Follows historySize w h) (hsize : 1 ≤ historySize)
    (hlimit : historySize ≤ 5000) {a : LivePage.Action} (hproper : LivePage.Proper (w, h) a)
    (hstep : w.step a = some t) : Follows historySize t (LivePage.note h w a t) := by
  have hsound := hfollows.sound
  have hnext := hsound.step hproper hstep
  have hpositive : ∀ item ∈ w.server.broker.history.items, 0 < item.sequence := fun item hitem =>
    Nat.zero_lt_of_lt (hsound.recorded.items hitem).2.1
  unfold LivePage.step at hstep
  cases a with
  | server a =>
      obtain ⟨server, hserver, heq⟩ := Option.bind_eq_some_iff.mp hstep
      cases heq
      exact hfollows.server hproper hserver rfl rfl rfl
  | connect =>
      dsimp only at hstep
      split at hstep
      · cases hstep
        exact hfollows.idle hnext rfl fun _ _ hsocket => connecting_of_connect hsound hsocket
      · cases hstep
  | accepted now =>
      dsimp only at hstep
      cases hbefore : w.socket with
      | closed => rw [hbefore] at hstep; cases hstep
      | opened handler inbox => rw [hbefore] at hstep; cases hstep
      | connecting afterSequence streamId =>
          rw [hbefore] at hstep
          obtain ⟨server, hserver, heq⟩ := Option.bind_eq_some_iff.mp hstep
          cases heq
          unfold LivePage.note
          rw [hbefore]
          exact hfollows.accepted hsize hlimit hbefore hserver
  | message =>
      dsimp only at hstep
      split at hstep
      · next handler event rest hbefore =>
          cases hstep
          refine hfollows.message hbefore ?_ hnext
          have hinbox : w.inbox = event :: rest := (link_message hbefore w.evidence).1
          rw [hinbox]
          exact mem_told
      · cases hstep
  | closed =>
      dsimp only at hstep
      split at hstep
      · cases hstep
      · cases hstep
        exact hfollows.idle hnext rfl fun _ _ hsocket => by cases hsocket
  | requestHistory =>
      dsimp only at hstep
      split at hstep
      · cases hstep
        exact hfollows.load hnext fun _ _ hanswered => by cases hanswered
      · cases hstep
  | historyAnswered =>
      dsimp only at hstep
      split at hstep
      · cases hstep
        refine hfollows.load hnext fun generation history hanswered _ item hitem _ => ?_
        cases hanswered
        have hevents := historyPage_events 0 none hsound.recorded.retains
          (hfollows.size.trans_le hlimit)
        rw [hsound.recorded.retains.held] at hitem
        rw [hevents, show startOf w.server.broker 0 none = 0 from rfl, Nat.max_zero]
        exact hitem
      · cases hstep
  | historyArrived =>
      dsimp only at hstep
      split at hstep
      · next generation history hanswered =>
          cases hstep
          have hanswer := hsound.answer generation history hanswered
          refine hfollows.evidence hnext (fun _ _ hother => by cases hother) ?_ ?_
          · intro hback
            exact List.mem_of_mem_head? (by simp [LivePage.disturbedBy, hback])
          · intro hcomplete htold
            split
            · exact (hcomplete htold).answered hsound.shows hsound.recorded.numbered hanswer
                hsound.named hpositive (hfollows.asks.answered generation history hanswered)
            · exact hcomplete htold
      · cases hstep
  | loadFailed =>
      dsimp only at hstep
      split at hstep
      · cases hstep
        exact hfollows.load hnext fun _ _ hanswered => by cases hanswered
      · cases hstep
        exact hfollows.load hnext fun _ _ hanswered => by cases hanswered
      · cases hstep
  | resetReturned =>
      cases hstep
      refine hfollows.evidence hnext (fun _ _ _ => rfl) ?_ ?_
      · intro hback
        exact List.mem_of_mem_head? (by simp [LivePage.disturbedBy, hback])
      · intro _ _
        exact complete_of_reachedIn hpositive rfl

end Steps

/-! ## Runs -/

/-- Nothing is on its way to a page whose handler runs. -/
def LivePage.Quiet (w : LivePage) : Prop :=
  ∃ stream subscription, w.link = ⟨[], some (stream, subscription)⟩ ∧ stream.pending = [] ∧
    subscription.queue = []

section Runs

variable {historySize bufferSize : ℕ} {streamId : String} {s : LivePage × PageHistory}

theorem follows_fresh (hbuffer : 1 ≤ bufferSize) (hnamed : streamId ≠ "") :
    Follows historySize (LivePage.fresh historySize bufferSize streamId).1
      (LivePage.fresh historySize bufferSize streamId).2 where
  sound := sound_fresh hbuffer hnamed
  size := rfl
  asks :=
    { attentive := fun _ _ hsession => by cases hsession
      connecting := fun _ _ hsocket => by cases hsocket
      answered := fun _ _ hanswered => by cases hanswered }
  undisturbed _ :=
    { complete := fun _ _ hitem => absurd hitem List.not_mem_nil
      connecting := fun _ hsocket => by cases hsocket
      tracks := fun _ => trivial }

theorem follows_of_run (hsize : 1 ≤ historySize) (hlimit : historySize ≤ 5000)
    (hbuffer : 1 ≤ bufferSize) (hnamed : streamId ≠ "")
    (hrun : Run (recorded LivePage.step LivePage.note) LivePage.Proper
      (LivePage.fresh historySize bufferSize streamId) s) : Follows historySize s.1 s.2 := by
  refine hrun.invariant (I := fun u => Follows historySize u.1 u.2) ?_
    (follows_fresh hbuffer hnamed)
  rintro u a ⟨t, h⟩ hfollows hproper hstep
  obtain ⟨hstep, hrecord⟩ := recorded_eq_some.mp hstep
  rw [show h = _ from hrecord]
  exact hfollows.step hsize hlimit hproper hstep

/-- A quiet page has come to the end of the stream. -/
theorem Undisturbed.reachedIn_eq {w : LivePage} {h : PageHistory}
    (hundisturbed : Undisturbed w h) (hsound : Sound w h) (hquiet : w.Quiet) :
    w.evidence.reachedIn w.server.broker.streamId =
      (streamLog h.published w.server.broker.streamId).length := by
  obtain ⟨stream, subscription, hlink, hpending, hqueue⟩ := hquiet
  refine le_antisymm (hsound.shows.reachedIn_le _) ?_
  rw [← hsound.recorded.retains.latest]
  have htracks := hundisturbed.tracks
  rw [hlink] at htracks
  have hcaughtUp := Frontend.Tracks.caughtUp htracks
  rw [hpending, hqueue] at hcaughtUp
  exact hcaughtUp

/-- A recent event of the stream is retained by a broker with room for it. -/
theorem Recorded.retained_of_recent {b : EventBroker} {streamIds : List String}
    {published : List PacketEvent} (h : Recorded b streamIds published)
    {room : ℕ} (hroom : room ≤ b.history.maxlen) {event : PacketEvent}
    (hmember : event ∈ streamLog published b.streamId)
    (hrecent : (streamLog published b.streamId).length < event.sequence + room) :
    event ∈ b.history.items := by
  by_contra hgone
  have hpositive := (h.numbered.bounds (mem_streamLog.mp hmember).1).1
  have hlost := (h.retains.lost_iff (event.sequence - 1)).mp
    ⟨event, hmember, by omega, hgone⟩
  unfold EventBroker.forgotten at hlost
  omega

/-- A page that shows the recent events of its stream shows the last five hundred. -/
theorem Shows.sequencedEvents_eq {published : List PacketEvent} {page : EventEvidence}
    {current : String} (hshows : Shows published page) (hnumbered : Numbered published)
    (hpage : page.eventStreamId = some current)
    (hrecent : ∀ event ∈ streamLog published current,
      (streamLog published current).length < event.sequence + 500 → event ∈ page.events) :
    sequencedEvents page.events = (streamLog published current).rtake 500 := by
  have hsublist := hshows.sublist hnumbered hpage
  have hlength : (sequencedEvents page.events).length ≤
      ((streamLog published current).rtake 500).length := by
    have hshown : (sequencedEvents page.events).length ≤ 500 :=
      (List.length_filter_le _ _).trans hshows.short
    have hlogged := hsublist.length_le
    rw [List.rtake, List.length_drop]
    omega
  have hnumbers : ((streamLog published current).map (·.sequence)).Pairwise (· < ·) := by
    rw [hnumbered]
    exact List.pairwise_lt_range'
  have hincreasing := (List.pairwise_map.mp hnumbers).sublist
    (List.drop_sublist ((streamLog published current).length - 500) _)
  have : Std.Antisymm fun earlier later : PacketEvent => earlier.sequence < later.sequence :=
    ⟨fun _ _ hlt hgt => absurd hgt hlt.asymm⟩
  refine (List.Sublist.eq_of_length_le ?_ hlength).symm
  refine List.sublist_of_subperm_of_pairwise (List.subperm_of_subset ?_ ?_) hincreasing
    hshows.increasing
  · refine hincreasing.imp fun {earlier later} hlt => ?_
    rintro rfl
    exact lt_irrefl _ hlt
  · intro event hmember
    have hnumber := List.mem_map_of_mem (f := (·.sequence)) hmember
    change event.sequence ∈ (List.drop _ _).map _ at hnumber
    rw [numbered_drop (hnumbered current), List.mem_range'_1] at hnumber
    have hlogged := List.mem_of_mem_drop hmember
    exact mem_sequencedEvents.mpr ⟨hrecent event hlogged (by omega), by omega⟩

/-- A page that is not disturbed in the current stream shows every retained event up to its
position that is among the last five hundred up to there, unless a notice told it of a gap.
When nothing is on its way any more it has come to the end of the stream, and without such a
notice it shows exactly the last five hundred events of the stream. -/
theorem page_misses_nothing (hsize : 1 ≤ historySize) (hlimit : historySize ≤ 5000)
    (hbuffer : 1 ≤ bufferSize) (hnamed : streamId ≠ "")
    (hrun : Run (recorded LivePage.step LivePage.note) LivePage.Proper
      (LivePage.fresh historySize bufferSize streamId) s)
    (hcalm : s.1.server.broker.streamId ∉ s.2.disturbed) :
    (s.1.server.broker.streamId ∉ s.2.told →
      ∀ event ∈ s.1.server.broker.history.items,
        event.sequence ≤ s.1.evidence.reachedIn s.1.server.broker.streamId →
        s.1.evidence.reachedIn s.1.server.broker.streamId < event.sequence + 500 →
          event ∈ s.1.evidence.events) ∧
    (s.1.Quiet → streamLog s.2.published s.1.server.broker.streamId ≠ [] →
      s.1.evidence.eventStreamId = some s.1.server.broker.streamId ∧
      s.1.evidence.latestEventSequence =
        (streamLog s.2.published s.1.server.broker.streamId).length ∧
      (s.1.server.broker.streamId ∉ s.2.told → 500 ≤ historySize →
        sequencedEvents s.1.evidence.events =
          (streamLog s.2.published s.1.server.broker.streamId).rtake 500)) := by
  have hfollows := follows_of_run hsize hlimit hbuffer hnamed hrun
  have hsound := hfollows.sound
  have hundisturbed := hfollows.undisturbed hcalm
  refine ⟨hundisturbed.complete, fun hquiet hlog => ?_⟩
  have hreached := hundisturbed.reachedIn_eq hsound hquiet
  have hpage : s.1.evidence.eventStreamId = some s.1.server.broker.streamId := by
    by_contra hother
    rw [reachedIn_of_ne hother] at hreached
    exact hlog (List.length_eq_zero_iff.mp hreached.symm)
  refine ⟨hpage, (reachedIn_of_eq hpage).symm.trans hreached, fun htold hroom => ?_⟩
  refine hsound.shows.sequencedEvents_eq hsound.recorded.numbered hpage fun event hmember hlt => ?_
  have hitem := hsound.recorded.retained_of_recent (hroom.trans_eq hfollows.size.symm) hmember hlt
  refine hundisturbed.complete htold event hitem ?_ (hreached.trans_lt hlt)
  rw [hreached, ← hsound.recorded.retains.latest]
  exact (hsound.recorded.items hitem).2.2

/-- The history answers before the first event comes over the socket, the connection breaks
behind the second event, and the third is published before the page connects again. -/
def brokenSocket : List LivePage.Action :=
  [.connect,
    .accepted 0,
    .requestHistory,
    .server (.publish EventStreams.trafficEvent),
    .historyAnswered,
    .server (.handler 0 .sent),
    .server (.handler 0 (.next 0)),
    .server (.handler 0 .got),
    .historyArrived,
    .server (.handler 0 .deliver),
    .message,
    .server (.publish EventStreams.trafficEvent),
    .closed,
    .server (.close 0),
    .server (.publish EventStreams.trafficEvent),
    .connect,
    .accepted 0,
    .server (.handler 0 .sent),
    .server (.handler 0 .sent),
    .server (.handler 0 .sent),
    .message,
    .message]

/-- The page has all three events after it. -/
theorem brokenSocket_shown :
    ∃ s, exec (recorded LivePage.step LivePage.note) brokenSocket
        (LivePage.fresh 500 2 "a") = some s ∧
      s.1.evidence.eventStreamId = some "a" ∧ s.1.evidence.latestEventSequence = 3 ∧
      sequencedEvents s.1.evidence.events =
        [{ EventStreams.trafficEvent with streamId := "a", sequence := 1 },
          { EventStreams.trafficEvent with streamId := "a", sequence := 2 },
          { EventStreams.trafficEvent with streamId := "a", sequence := 3 }] := by
  have hhistory : (exec (recorded LivePage.step LivePage.note) brokenSocket
      (LivePage.fresh 500 2 "a")).map (fun s =>
        (s.1.server.broker.streamId, s.2.disturbed, s.2.told, streamLog s.2.published "a")) =
      some ("a", [], [],
        [{ EventStreams.trafficEvent with streamId := "a", sequence := 1 },
          { EventStreams.trafficEvent with streamId := "a", sequence := 2 },
          { EventStreams.trafficEvent with streamId := "a", sequence := 3 }]) := by
    decide +kernel
  have hway : (exec (recorded LivePage.step LivePage.note) brokenSocket
      (LivePage.fresh 500 2 "a")).map (fun s => (s.1.link.inbox,
        s.1.link.session.map fun session => (session.1.pending, session.2.queue))) =
      some ([], some ([], [])) := by
    decide +kernel
  have hproper : Conforms (recorded LivePage.step LivePage.note) LivePage.Proper brokenSocket
      (LivePage.fresh 500 2 "a") := by
    decide +kernel
  obtain ⟨s, hexec, hhistory⟩ := Option.map_eq_some_iff.mp hhistory
  simp only [Prod.mk.injEq] at hhistory
  obtain ⟨hbroker, hcalm, htold, hlog⟩ := hhistory
  rw [hexec, Option.map_some, Option.some.injEq, Prod.mk.injEq] at hway
  obtain ⟨hinbox, hsession⟩ := hway
  obtain ⟨⟨stream, subscription⟩, hlink, hempty⟩ := Option.map_eq_some_iff.mp hsession
  simp only [Prod.mk.injEq] at hempty
  have hquiet : s.1.Quiet :=
    ⟨stream, subscription, by rw [← hinbox, ← hlink], hempty.1, hempty.2⟩
  have hmissed := (page_misses_nothing (by decide) (by decide) (by decide) (by decide)
    (.of_exec hexec hproper) (by rw [hcalm]; exact List.not_mem_nil)).2 hquiet
  rw [hbroker, htold, hlog] at hmissed
  obtain ⟨hpage, hreached, hshown⟩ := hmissed (by simp)
  exact ⟨s, hexec, hpage, hreached, hshown List.not_mem_nil (le_refl 500)⟩

end Runs

end MeshtasticLab.Frontend

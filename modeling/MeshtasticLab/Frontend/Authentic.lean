/-
  Frontend/Authentic.lean --- a page shows nothing that was not published.

  Everything that is on its way to the page, over the socket or in the answer to its
  request, is a notice or was published in the stream that it names (`Sound`).  What the
  page shows is what it was given, so it shows published events of one stream, in their
  order, whatever was lost, repeated or mixed on the way.
-/
import MeshtasticLab.Frontend.PageSessions

set_option autoImplicit false

namespace MeshtasticLab.Frontend

open MeshtasticLab.Foundation MeshtasticLab.Metrics

/-! ## The broker and what it has published -/

/-- What the broker retains are the last events of its stream. -/
structure Recorded (b : EventBroker) (streamIds : List String) (published : List PacketEvent) :
    Prop where
  retains : Retains b (streamLog published b.streamId)
  numbered : Numbered published
  known : ∀ event ∈ published, event.streamId ∈ streamIds
  plain : ∀ event ∈ published, event.eventType ≠ .uiEventsDropped

namespace Recorded

variable {b : EventBroker} {streamIds : List String} {published : List PacketEvent}

theorem congr (h : Recorded b streamIds published) (subscribers : List EventSubscription) :
    Recorded { b with subscribers := subscribers } streamIds published where
  retains := ⟨h.retains.held, h.retains.latest, h.retains.numbered⟩
  numbered := h.numbered
  known := h.known
  plain := h.plain

/-- The log of the stream grows by a published event, and that of the others stays. -/
theorem streamLog_publish (b : EventBroker) (published : List PacketEvent) (event : PacketEvent)
    (streamId : String) :
    streamLog (published ++ [b.sequenced event]) streamId =
      if b.streamId = streamId then streamLog published streamId ++ [b.sequenced event]
      else streamLog published streamId := by
  rw [streamLog_append]
  have hsingle : streamLog [b.sequenced event] streamId =
      if b.streamId = streamId then [b.sequenced event] else [] := by
    unfold streamLog
    rw [List.filter_cons, List.filter_nil]
    simp only [decide_eq_true_eq]
    rfl
  rw [hsingle]
  split
  · rfl
  · exact List.append_nil _

theorem publish (h : Recorded b streamIds published) (hcurrent : b.streamId ∈ streamIds)
    {event : PacketEvent} (hplain : event.eventType ≠ .uiEventsDropped) :
    Recorded (b.publish event).2 streamIds (published ++ [b.sequenced event]) where
  retains := by
    change Retains _ (streamLog _ b.streamId)
    rw [streamLog_publish, if_pos rfl]
    exact h.retains.publish event
  numbered streamId := by
    rw [streamLog_publish]
    split
    · next hsame =>
        have hnumbered := (h.retains.publish event).numbered
        rwa [hsame] at hnumbered
    · exact h.numbered streamId
  known other hmember :=
    (List.mem_append.mp hmember).elim (h.known other) fun hnew => by
      rw [List.mem_singleton.mp hnew]
      exact hcurrent
  plain other hmember :=
    (List.mem_append.mp hmember).elim (h.plain other) fun hnew => by
      rw [List.mem_singleton.mp hnew]
      exact hplain

theorem clear (h : Recorded b streamIds published) {fresh : String}
    (hfresh : fresh ∉ streamIds) (now : ℚ) :
    Recorded (b.clear fresh now) (streamIds ++ [fresh]) published where
  retains := by
    have hempty : streamLog published fresh = [] := by
      refine List.filter_eq_nil_iff.mpr fun event hmember hsame => hfresh ?_
      rw [← of_decide_eq_true hsame]
      exact h.known event hmember
    change Retains _ (streamLog published fresh)
    rw [hempty]
    exact .clear fresh now
  numbered := h.numbered
  known event hmember := List.mem_append_left _ (h.known event hmember)
  plain := h.plain

/-- What is retained was published in the current stream. -/
theorem retained (h : Recorded b streamIds published) {event : PacketEvent}
    (hmember : event ∈ b.history.items) :
    event ∈ published ∧ event.streamId = b.streamId := by
  rw [h.retains.held] at hmember
  exact mem_streamLog.mp (List.mem_of_mem_drop hmember)

end Recorded

/-! ## What is on its way -/

/-- The event was published, or is a notice. -/
structure Genuine (streamIds : List String) (published : List PacketEvent) (event : PacketEvent) :
    Prop where
  known : event.streamId ∈ streamIds
  published : 0 < event.sequence → event ∈ published

theorem Genuine.mono {streamIds more : List String} {published others : List PacketEvent}
    {event : PacketEvent} (h : Genuine streamIds published event) :
    Genuine (streamIds ++ more) (published ++ others) event :=
  ⟨List.mem_append_left _ h.known,
    fun hpositive => List.mem_append_left _ (h.published hpositive)⟩

/-- The answer to the request for the history is a page of one stream. -/
structure Answer (streamIds : List String) (published : List PacketEvent)
    (history : EventHistoryPage) : Prop where
  known : history.streamId ∈ streamIds
  events : ∀ event ∈ history.events, event ∈ published ∧ event.streamId = history.streamId

/-- What holds of a page and of the server at any time. -/
structure Sound (w : LivePage) (h : PageHistory) : Prop where
  sessions : w.server.Sessions h.server
  recorded : Recorded w.server.broker h.server.streamIds h.published
  named : "" ∉ h.server.streamIds
  handled : w.Handled
  flow : ∀ event ∈ w.link.flow, Genuine h.server.streamIds h.published event
  answer : ∀ generation history, w.load = .answered generation history →
    Answer h.server.streamIds h.published history
  shows : Shows h.published w.evidence
  known : ∀ streamId, w.evidence.eventStreamId = some streamId → streamId ∈ h.server.streamIds

section Flow

variable {b c : EventBroker} {l k : Link} {a : StreamAction} {event : PacketEvent}

theorem mem_flow_some {inbox : List PacketEvent} {stream : EventStream}
    {subscription : EventSubscription} :
    event ∈ Link.flow ⟨inbox, some (stream, subscription)⟩ ↔
      event ∈ inbox ∨ event ∈ stream.pending ∨ event ∈ subscription.queue := by
  simp [Link.flow]

/-- The handler adds only notices of the stream to what is on its way. -/
theorem flow_handled {stream next : EventStream} {subscription after : EventSubscription}
    {inbox inbox' : List PacketEvent}
    (hmove : HandlerMove stream subscription inbox next after inbox')
    (hmember : event ∈ Link.flow ⟨inbox', some (next, after)⟩) :
    event ∈ Link.flow ⟨inbox, some (stream, subscription)⟩ ∨
      event.sequence = 0 ∧ event.streamId = subscription.streamId := by
  rw [mem_flow_some] at hmember ⊢
  cases hmove with
  | replayed first rest hpc =>
      simp only [EventStream.pending, hpc, List.mem_append, List.mem_cons, List.not_mem_nil,
        or_false] at hmember ⊢
      tauto
  | looped hpc =>
      simp only [EventStream.pending, List.not_mem_nil, false_or] at hmember
      tauto
  | noticed now hpc hdue =>
      simp only [EventStream.pending, List.mem_singleton] at hmember
      rcases hmember with hinbox | rfl | hqueue
      · exact Or.inl (Or.inl hinbox)
      · exact Or.inr ⟨rfl, rfl⟩
      · exact Or.inl (Or.inr (Or.inr hqueue))
  | waited hpc hdue =>
      simp only [EventStream.pending, List.not_mem_nil, false_or] at hmember
      tauto
  | got first rest hpc hqueue =>
      simp only [EventStream.pending, hpc, hqueue, List.mem_cons, List.not_mem_nil, or_false]
        at hmember ⊢
      tauto
  | delivered first hpc hkept =>
      simp only [EventStream.pending, hpc, List.mem_append, List.mem_cons, List.not_mem_nil,
        or_false, false_or] at hmember ⊢
      tauto
  | skipped first hpc hskips =>
      simp only [EventStream.pending, List.not_mem_nil, false_or] at hmember
      tauto

/-- A published event may be the last of those that are on their way. -/
theorem mem_publish {subscription : EventSubscription} {fresh : PacketEvent}
    (hmember : event ∈ (subscription.publish fresh).queue) :
    event ∈ subscription.queue ∨ event = fresh := by
  unfold EventSubscription.publish at hmember
  split at hmember
  · rcases List.mem_append.mp hmember with hold | hnew
    · exact Or.inl (List.mem_of_mem_tail hold)
    · exact Or.inr (List.mem_singleton.mp hnew)
  · rcases List.mem_append.mp hmember with hold | hnew
    · exact Or.inl hold
    · exact Or.inr (List.mem_singleton.mp hnew)

/-- What a step of the server adds to what is on its way. -/
theorem flow_step (hstep : LinkStep b l a c k) (hmember : event ∈ k.flow)
    (hsubscription : ∀ stream subscription, l.session = some (stream, subscription) →
      subscription.streamId = b.streamId) :
    event ∈ l.flow ∨ (∃ plain, a = .publish plain ∧ event = b.sequenced plain) ∨
      event.sequence = 0 ∧ event.streamId = c.streamId := by
  obtain ⟨inbox, session⟩ := l
  cases hstep with
  | publish plain =>
      cases session with
      | none => exact Or.inl hmember
      | some session =>
          rw [Option.map_some, mem_flow_some] at hmember
          rw [mem_flow_some]
          rcases hmember with hinbox | hpending | hqueue
          · exact Or.inl (Or.inl hinbox)
          · exact Or.inl (Or.inr (Or.inl hpending))
          · rcases mem_publish hqueue with hold | rfl
            · exact Or.inl (Or.inr (Or.inr hold))
            · exact Or.inr (Or.inl ⟨plain, rfl, rfl⟩)
  | clear streamId now =>
      cases session with
      | none => exact Or.inl hmember
      | some session =>
          rw [Option.map_some, mem_flow_some] at hmember
          rw [mem_flow_some]
          rcases hmember with hinbox | hpending | hmarker
          · exact Or.inl (Or.inl hinbox)
          · exact Or.inl (Or.inr (Or.inl hpending))
          · rw [List.mem_singleton.mp hmarker]
            exact Or.inr (Or.inr ⟨rfl, rfl⟩)
  | handled subscribers haside hsession hmove =>
      cases hsession
      rcases flow_handled hmove hmember with hold | ⟨hsequence, hstream⟩
      · exact Or.inl hold
      · exact Or.inr (Or.inr ⟨hsequence, hstream.trans (hsubscription _ _ rfl)⟩)
  | ended subscribers haside =>
      refine Or.inl (List.mem_append_left _ ?_)
      simpa [Link.flow] using hmember
  | beside subscribers haside => exact Or.inl hmember

end Flow

/-! ## Steps -/

section Steps

variable {w t : LivePage} {h : PageHistory}

/-- The session of the page is one of the server's. -/
theorem session_of_link (hsessions : w.server.Sessions h.server) {stream : EventStream}
    {subscription : EventSubscription} (hsession : w.session = some (stream, subscription)) :
    ∃ ledger, Session w.server.broker h.server.streamIds subscription stream ledger := by
  unfold LivePage.session at hsession
  split at hsession
  · next i inbox hsocket =>
      obtain ⟨stream', hstream, hrest⟩ := Option.bind_eq_some_iff.mp hsession
      obtain ⟨subscription', hsubscription, heq⟩ := Option.bind_eq_some_iff.mp hrest
      cases heq
      have hi := (List.getElem?_eq_some_iff.mp hsubscription).1
      have hledger := List.getElem?_eq_getElem (hsessions.ledgers ▸ hi)
      exact ⟨_, hsessions.each i _ _ _ hsubscription hstream hledger⟩
  · cases hsession

/-- Only a reset brings a new stream. -/
theorem note_streamIds (server after : EventStreams) (history : StreamHistory)
    (a : StreamAction) :
    ∃ more, (EventStreams.note history server a after).streamIds = history.streamIds ++ more ∧
      (isAside a = true → more = []) := by
  cases a with
  | publish event => exact ⟨[], (List.append_nil _).symm, fun _ => rfl⟩
  | clear streamId now => exact ⟨[streamId], rfl, nofun⟩
  | connect now afterSequence streamId => exact ⟨[], (List.append_nil _).symm, fun _ => rfl⟩
  | handler i input =>
      refine ⟨[], ?_, fun _ => rfl⟩
      rw [List.append_nil]
      unfold EventStreams.note
      dsimp only
      split <;> rfl
  | close i => exact ⟨[], (List.append_nil _).symm, fun _ => rfl⟩

/-- What is published and named in a step of the server. -/
theorem Recorded.linkStep {b c : EventBroker} {l k : Link} {a : StreamAction}
    {streamIds : List String} {published : List PacketEvent} {server after : EventStreams}
    {history : StreamHistory} (h : Recorded b streamIds published)
    (hids : history.streamIds = streamIds) (hbroker : server.broker = b)
    (hcurrent : b.streamId ∈ streamIds) (hstep : LinkStep b l a c k)
    (hfresh : ∀ streamId now, a = .clear streamId now → streamId ∉ streamIds)
    (hplain : ∀ event, a = .publish event → event.eventType ≠ .uiEventsDropped) :
    Recorded c (EventStreams.note history server a after).streamIds
      (published ++ LivePage.publishedBy server a) := by
  subst hids hbroker
  have haside : ∀ subscribers, isAside a = true →
      Recorded { server.broker with subscribers := subscribers }
        (EventStreams.note history server a after).streamIds
        (published ++ LivePage.publishedBy server a) := by
    intro subscribers haside
    obtain ⟨more, hmore, hnone⟩ := note_streamIds server after history a
    have hsilent : LivePage.publishedBy server a = [] := by
      cases a <;> first | rfl | cases haside
    rw [hmore, hnone haside, hsilent, List.append_nil, List.append_nil]
    exact h.congr subscribers
  cases hstep with
  | publish event => exact h.publish hcurrent (hplain event rfl)
  | clear streamId now =>
      have hcleared := h.clear (hfresh streamId now rfl) now
      rw [show published ++ LivePage.publishedBy server (.clear streamId now) = published from
        List.append_nil _]
      exact hcleared
  | handled subscribers haction hsession hmove => exact haside subscribers haction
  | ended subscribers haction => exact haside subscribers haction
  | beside subscribers haction => exact haside subscribers haction

/-- A step of the server keeps what holds of a page. -/
theorem Sound.server (hsound : Sound w h) {a : StreamAction}
    (hproper : LivePage.Proper (w, h) (.server a)) (hserver : w.server.step a = some t.server)
    (hafter : t.socket = w.socket.after w.server t.server a) (hevidence : t.evidence = w.evidence)
    (hload : t.load = w.load) : Sound t (LivePage.note h w (.server a) t) := by
  have hlink := linkStep_server hsound.sessions.handlers hsound.handled hserver hafter
  have hsessions : t.server.Sessions (EventStreams.note h.server w.server a t.server) := by
    refine hsound.sessions.step ?_ hserver
    cases a with
    | clear streamId now => exact hproper.1
    | _ => trivial
  have hrecorded : Recorded t.server.broker
      (EventStreams.note h.server w.server a t.server).streamIds
      (h.published ++ LivePage.publishedBy w.server a) := by
    refine hsound.recorded.linkStep rfl rfl hsound.sessions.streamed.mem hlink ?_ ?_
    · rintro streamId now rfl
      exact hproper.1
    · rintro event rfl
      exact hproper
  obtain ⟨more, hids, hnone⟩ := note_streamIds w.server t.server h.server a
  have hknown : ∀ streamId ∈ h.server.streamIds,
      streamId ∈ (EventStreams.note h.server w.server a t.server).streamIds := by
    intro streamId hmember
    rw [hids]
    exact List.mem_append_left _ hmember
  refine ⟨hsessions, hrecorded, ?_, hsound.handled.server hserver hafter, ?_, ?_, ?_, ?_⟩
  · change "" ∉ (EventStreams.note h.server w.server a t.server).streamIds
    cases a with
    | publish event => exact hsound.named
    | clear streamId now =>
        intro hempty
        rcases List.mem_append.mp hempty with hold | hnew
        · exact hsound.named hold
        · exact hproper.2 (List.mem_singleton.mp hnew).symm
    | _ =>
        rw [hids, hnone rfl, List.append_nil]
        exact hsound.named
  · intro event hmember
    change Genuine (EventStreams.note h.server w.server a t.server).streamIds _ event
    rcases flow_step hlink hmember fun stream subscription hsession =>
        (session_of_link hsound.sessions hsession).choose_spec.streamId with
      hold | ⟨plain, rfl, rfl⟩ | ⟨hzero, hstream⟩
    · rw [hids]
      exact (hsound.flow event hold).mono
    · exact ⟨hknown _ hsound.sessions.streamed.mem,
        fun _ => List.mem_append_right _ (List.mem_singleton_self _)⟩
    · refine ⟨?_, fun hpositive => absurd hpositive (by omega)⟩
      rw [hstream]
      exact hsessions.streamed.mem
  · intro generation history hanswered
    rw [hload] at hanswered
    have hanswer := hsound.answer generation history hanswered
    refine ⟨hknown _ hanswer.known, fun event hmember => ?_⟩
    obtain ⟨hpublished, hstream⟩ := hanswer.events event hmember
    exact ⟨List.mem_append_left _ hpublished, hstream⟩
  · rw [hevidence]
    exact hsound.shows.published_append _
  · intro streamId hstream
    rw [hevidence] at hstream
    exact hknown _ (hsound.known streamId hstream)

/-- The replay of a handler is on its way when a socket is accepted. -/
theorem link_accepted {now : ℚ} {afterSequence : ℕ} {streamId : Option String}
    (hlengths : w.server.streams.length = w.server.broker.subscribers.length)
    (hserver : w.server.step (.connect now afterSequence streamId) = some t.server)
    (hsocket : t.socket = .opened (some w.server.streams.length) []) :
    t.link = ⟨[], some
      (.replay (w.server.broker.historyPage afterSequence 5000 streamId) now,
        .new w.server.broker.subscriberBufferSize w.server.broker.streamId)⟩ := by
  refine link_of_handler hsocket ?_ ?_
  · rw [← Option.some.inj hserver]
    exact List.getElem?_concat_length
  · rw [← Option.some.inj hserver, hlengths]
    exact List.getElem?_concat_length

/-- What is replayed is genuine. -/
theorem genuine_replay (hsound : Sound w h) {event : PacketEvent} {now : ℚ}
    {afterSequence limit : ℕ} {streamId : Option String}
    (hmember :
      event ∈ (w.server.broker.historyPage afterSequence limit streamId).replayNotice now ++
      (w.server.broker.historyPage afterSequence limit streamId).events) :
    Genuine h.server.streamIds h.published event := by
  rcases List.mem_append.mp hmember with hnotice | hevent
  · unfold EventHistoryPage.replayNotice at hnotice
    have hcurrent := hsound.sessions.streamed.mem
    split at hnotice
    · rw [List.mem_singleton.mp hnotice]
      exact ⟨hcurrent, fun hpositive => absurd hpositive (Nat.lt_irrefl 0)⟩
    · split at hnotice
      · rw [List.mem_singleton.mp hnotice]
        exact ⟨hcurrent, fun hpositive => absurd hpositive (Nat.lt_irrefl 0)⟩
      · cases hnotice
  · obtain ⟨hpublished, -⟩ := hsound.recorded.retained
      (List.mem_of_mem_filter (List.mem_of_mem_take hevent))
    exact ⟨hsound.recorded.known event hpublished, fun _ => hpublished⟩

/-- What is received is shown. -/
theorem Shows.receive {published : List PacketEvent} {streamIds : List String}
    {page : EventEvidence} {event : PacketEvent} (hshows : Shows published page)
    (hnumbered : Numbered published) (hgenuine : Genuine streamIds published event)
    (hnamed : "" ∉ streamIds) :
    Shows published (page.receive event) ∧
      (page.receive event).eventStreamId = some event.streamId := by
  have hstream : event.streamId ≠ "" := fun hempty => hnamed (hempty ▸ hgenuine.known)
  rw [page.receive_eq hstream]
  split
  · exact ⟨.cleared _ _ _, rfl⟩
  · obtain ⟨hturned, hcurrent⟩ := hshows.turnTo event.streamId
    refine ⟨hturned.merge hnumbered hcurrent (by simp) (by simpa using hgenuine.published), ?_⟩
    rw [EventEvidence.eventStreamId_merge]
    exact hcurrent

/-- What the answer brings is shown. -/
theorem Shows.answered {published : List PacketEvent} {streamIds : List String}
    {page : EventEvidence} {history : EventHistoryPage} (hshows : Shows published page)
    (hnumbered : Numbered published) (hanswer : Answer streamIds published history)
    (hnamed : "" ∉ streamIds) :
    Shows published (page.acceptEvents history.events (some history.streamId)) ∧
      (page.acceptEvents history.events (some history.streamId)).eventStreamId =
        some history.streamId := by
  have hstream : history.streamId ≠ "" := fun hempty => hnamed (hempty ▸ hanswer.known)
  rw [page.acceptEvents_eq hstream fun event hmember => (hanswer.events event hmember).2]
  obtain ⟨hturned, hcurrent⟩ := hshows.turnTo history.streamId
  refine ⟨hturned.merge hnumbered hcurrent
    (fun event hmember => (hanswer.events event hmember).2)
    (fun event hmember _ => (hanswer.events event hmember).1), ?_⟩
  rw [EventEvidence.eventStreamId_merge]
  exact hcurrent

/-- The server does nothing. -/
theorem Sound.aside (hsound : Sound w h) {evidence : EventEvidence} {socket : PageSocket}
    {load : InitialLoad} (told disturbed : List String)
    (hhandled : LivePage.Handled { w with evidence := evidence, socket := socket, load := load })
    (hflow : ∀ event ∈ (LivePage.link
      { w with evidence := evidence, socket := socket, load := load }).flow, event ∈ w.link.flow)
    (hanswer : ∀ generation history, load = .answered generation history →
      Answer h.server.streamIds h.published history)
    (hshows : Shows h.published evidence)
    (hknown : ∀ streamId, evidence.eventStreamId = some streamId →
      streamId ∈ h.server.streamIds) :
    Sound { w with evidence := evidence, socket := socket, load := load }
      { h with told := told, disturbed := disturbed } where
  sessions := hsound.sessions
  recorded := hsound.recorded
  named := hsound.named
  handled := hhandled
  flow event hmember := hsound.flow event (hflow event hmember)
  answer := hanswer
  shows := hshows
  known := hknown

/-- A socket is accepted. -/
theorem Sound.accepted (hsound : Sound w h) {now : ℚ} {afterSequence : ℕ}
    {streamId : Option String} {server : EventStreams}
    (hserver : w.server.step (.connect now afterSequence streamId) = some server) :
    Sound { w with server := server, socket := .opened (some w.server.streams.length) [] }
      { h with
        server := EventStreams.note h.server w.server (.connect now afterSequence streamId)
          server } := by
  have hlink := link_accepted (w := w)
    (t := { w with server := server, socket := .opened (some w.server.streams.length) [] })
    hsound.sessions.handlers hserver rfl
  refine ⟨hsound.sessions.step (a := .connect now afterSequence streamId) trivial hserver,
    ?_, hsound.named, ?_, ?_, hsound.answer, hsound.shows, hsound.known⟩
  · rw [← Option.some.inj hserver]
    exact hsound.recorded.congr _
  · intro i inbox hopened
    cases hopened
    rw [← Option.some.inj hserver]
    simp
  · intro event hmember
    rw [hlink, mem_flow_some] at hmember
    rcases hmember with hinbox | hpending | hqueue
    · cases hinbox
    · exact genuine_replay hsound hpending
    · cases hqueue

/-- A page takes the next message of its inbox. -/
theorem link_message {handler : Option ℕ} {event : PacketEvent} {rest : List PacketEvent}
    (hsocket : w.socket = .opened handler (event :: rest)) (evidence : EventEvidence) :
    w.link.inbox = event :: rest ∧
      LivePage.link { w with evidence := evidence, socket := .opened handler rest } =
        { w.link with inbox := rest } := by
  unfold LivePage.link LivePage.inbox LivePage.session
  rw [hsocket]
  cases handler <;> exact ⟨rfl, rfl⟩

/-- Every step keeps what holds of a page. -/
theorem Sound.step (hsound : Sound w h) {a : LivePage.Action}
    (hproper : LivePage.Proper (w, h) a) (hstep : w.step a = some t) :
    Sound t (LivePage.note h w a t) := by
  unfold LivePage.step at hstep
  have hsocket : ∀ socket, (∀ i inbox, socket ≠ .opened (some i) inbox) →
      LivePage.inbox { w with socket := socket } = [] →
      Sound { w with socket := socket } h := by
    intro socket hother hempty
    refine hsound.aside h.told h.disturbed ?_ ?_ hsound.answer hsound.shows hsound.known
    · intro i inbox hopened
      exact absurd hopened (hother i inbox)
    · intro event hmember
      unfold Link.flow LivePage.link at hmember
      rw [session_of_other hother, hempty] at hmember
      cases hmember
  have hload : ∀ load, (∀ generation history, load = .answered generation history →
      Answer h.server.streamIds h.published history) → Sound { w with load := load } h := by
    intro load hanswer
    exact hsound.aside h.told h.disturbed hsound.handled (fun _ hmember => hmember) hanswer
      hsound.shows hsound.known
  cases a with
  | server a =>
      obtain ⟨server, hserver, heq⟩ := Option.bind_eq_some_iff.mp hstep
      cases heq
      exact hsound.server hproper hserver rfl rfl rfl
  | connect =>
      dsimp only at hstep
      split at hstep
      · cases hstep
        exact hsocket _ (fun _ _ => nofun) rfl
      · cases hstep
  | accepted now =>
      dsimp only at hstep
      cases hbefore : w.socket with
      | closed => rw [hbefore] at hstep; cases hstep
      | opened handler inbox => rw [hbefore] at hstep; cases hstep
      | connecting afterSequence streamId =>
          rw [hbefore] at hstep
          obtain ⟨server, hserver, heq⟩ := Option.bind_eq_some_iff.mp hstep
          cases heq
          unfold LivePage.note
          rw [hbefore]
          exact hsound.accepted hserver
  | message =>
      dsimp only at hstep
      split at hstep
      · next handler event rest hbefore =>
          cases hstep
          obtain ⟨hinbox, hlink⟩ := link_message hbefore (w.evidence.receive event)
          have hgenuine : Genuine h.server.streamIds h.published event := by
            refine hsound.flow event (List.mem_append_left _ ?_)
            rw [hinbox]
            exact List.mem_cons_self
          obtain ⟨hshows, hcurrent⟩ :=
            hsound.shows.receive hsound.recorded.numbered hgenuine hsound.named
          refine hsound.aside _ h.disturbed ?_ ?_ hsound.answer hshows ?_
          · intro i inbox hopened
            cases hopened
            exact hsound.handled i _ hbefore
          · intro other hmember
            rw [hlink] at hmember
            unfold Link.flow at hmember ⊢
            rw [hinbox]
            exact List.mem_cons_of_mem _ hmember
          · intro streamId hstream
            rw [hcurrent] at hstream
            cases hstream
            exact hgenuine.known
      · cases hstep
  | closed =>
      dsimp only at hstep
      split at hstep
      · cases hstep
      · cases hstep
        exact hsocket _ (fun _ _ => nofun) rfl
  | requestHistory =>
      dsimp only at hstep
      split at hstep
      · cases hstep
        exact hload _ (fun _ _ => nofun)
      · cases hstep
  | historyAnswered =>
      dsimp only at hstep
      split at hstep
      · cases hstep
        refine hload _ ?_
        intro generation history hanswered
        cases hanswered
        refine ⟨hsound.sessions.streamed.mem, fun event hmember => ?_⟩
        exact hsound.recorded.retained (List.mem_of_mem_filter (List.mem_of_mem_take hmember))
      · cases hstep
  | historyArrived =>
      dsimp only at hstep
      split at hstep
      · next generation history hanswered =>
          cases hstep
          have hanswer := hsound.answer generation history hanswered
          refine hsound.aside h.told _ hsound.handled (fun _ hmember => hmember)
            (fun _ _ => nofun) ?_ ?_
          · split
            · exact (hsound.shows.answered hsound.recorded.numbered hanswer hsound.named).1
            · exact hsound.shows
          · split
            · intro streamId hstream
              rw [(hsound.shows.answered hsound.recorded.numbered hanswer hsound.named).2]
                at hstream
              cases hstream
              exact hanswer.known
            · exact hsound.known
      · cases hstep
  | loadFailed =>
      dsimp only at hstep
      split at hstep
      · cases hstep
        exact hload _ (fun _ _ => nofun)
      · cases hstep
        exact hload _ (fun _ _ => nofun)
      · cases hstep
  | resetReturned =>
      cases hstep
      refine hsound.aside h.told _ hsound.handled (fun _ hmember => hmember) hsound.answer
        (.cleared _ _ _) ?_
      intro streamId hstream
      cases hstream

end Steps

/-! ## Runs -/

section Runs

variable {historySize bufferSize : ℕ} {streamId : String} {s : LivePage × PageHistory}

theorem sound_fresh (hbuffer : 1 ≤ bufferSize) (hnamed : streamId ≠ "") :
    Sound (LivePage.fresh historySize bufferSize streamId).1
      (LivePage.fresh historySize bufferSize streamId).2 where
  sessions := EventStreams.sessions_of_run hbuffer (.refl _)
  recorded := ⟨retains_new _ _ _, fun _ => rfl, by simp [LivePage.fresh],
    by simp [LivePage.fresh]⟩
  named hempty := hnamed (List.mem_singleton.mp hempty).symm
  handled _ _ := nofun
  flow event hmember := by cases hmember
  answer _ _ := nofun
  shows := ⟨by simp [LivePage.fresh], by simp [LivePage.fresh], by simp [LivePage.fresh],
    List.Pairwise.nil, by simp [LivePage.fresh], fun _ => rfl, fun _ _ => Nat.zero_le _⟩
  known _ hstream := by cases hstream

theorem sound_of_run (hbuffer : 1 ≤ bufferSize) (hnamed : streamId ≠ "")
    (hrun : Run (recorded LivePage.step LivePage.note) LivePage.Proper
      (LivePage.fresh historySize bufferSize streamId) s) : Sound s.1 s.2 := by
  refine hrun.invariant (I := fun u => Sound u.1 u.2) ?_ (sound_fresh hbuffer hnamed)
  rintro u a ⟨t, h⟩ hsound hproper hstep
  obtain ⟨hstep, hrecord⟩ := recorded_eq_some.mp hstep
  rw [show h = _ from hrecord]
  exact hsound.step hproper hstep

/-- At any time a page shows events of one stream only, and those that are no notices are
some of the events published in that stream, each once and in their order, up to a cursor
that no event of the page is behind and that the stream has reached. -/
theorem page_authentic (hbuffer : 1 ≤ bufferSize) (hnamed : streamId ≠ "")
    (hrun : Run (recorded LivePage.step LivePage.note) LivePage.Proper
      (LivePage.fresh historySize bufferSize streamId) s) :
    (s.1.evidence.eventStreamId = none → s.1.evidence.events = []) ∧
      ∀ current, s.1.evidence.eventStreamId = some current →
        (∀ event ∈ s.1.evidence.events, event.streamId = current) ∧
        (sequencedEvents s.1.evidence.events).Sublist (streamLog s.2.published current) ∧
        (∀ event ∈ s.1.evidence.events, event.sequence ≤ s.1.evidence.latestEventSequence) ∧
        s.1.evidence.latestEventSequence ≤ (streamLog s.2.published current).length ∧
        s.1.evidence.events.length ≤ 500 := by
  have hsound := sound_of_run hbuffer hnamed hrun
  have hshows := hsound.shows
  constructor
  · intro hnone
    refine List.eq_nil_iff_forall_not_mem.mpr fun event hmember => ?_
    have hstream := hshows.current event hmember
    rw [hnone] at hstream
    cases hstream
  · intro current hpage
    refine ⟨?_, hshows.sublist hsound.recorded.numbered hpage, hshows.behind,
      hshows.reached current hpage, hshows.short⟩
    intro event hmember
    have hstream := hshows.current event hmember
    rw [hpage] at hstream
    exact (Option.some.inj hstream).symm

/-- An event is published before the socket of a page is accepted and one behind it, and a
reset follows before the page takes the second. -/
def resetBehind : List LivePage.Action :=
  [.connect,
    .server (.publish EventStreams.trafficEvent),
    .accepted 0,
    .server (.handler 0 .sent),
    .server (.handler 0 .sent),
    .message,
    .server (.publish EventStreams.trafficEvent),
    .server (.handler 0 (.next 0)),
    .server (.handler 0 .got),
    .server (.handler 0 .deliver),
    .server (.clear "b" 0),
    .message]

instance (s : LivePage × PageHistory) (a : LivePage.Action) :
    Decidable (LivePage.Proper s a) :=
  match a with
  | .server (.publish event) =>
      inferInstanceAs (Decidable (event.eventType ≠ .uiEventsDropped))
  | .server (.clear streamId _) =>
      inferInstanceAs (Decidable (streamId ∉ s.2.server.streamIds ∧ streamId ≠ ""))
  | .server (.connect _ _ _) | .server (.handler _ _) | .server (.close _) | .connect
  | .accepted _ | .message | .closed | .requestHistory | .historyAnswered | .historyArrived
  | .loadFailed | .resetReturned => .isTrue trivial

/-- The page still shows events of the stream that was reset, and nothing else. -/
theorem resetBehind_authentic :
    ∃ s, exec (recorded LivePage.step LivePage.note) resetBehind (LivePage.fresh 4 2 "a") = some s ∧
      s.1.evidence.eventStreamId = some "a" ∧ s.1.server.broker.streamId = "b" ∧
      s.1.evidence.latestEventSequence = 2 ∧
      (sequencedEvents s.1.evidence.events).Sublist
        [{ EventStreams.trafficEvent with streamId := "a", sequence := 1 },
          { EventStreams.trafficEvent with streamId := "a", sequence := 2 }] := by
  have hstate : (exec (recorded LivePage.step LivePage.note) resetBehind
      (LivePage.fresh 4 2 "a")).map (fun s => (s.1.evidence.eventStreamId,
        s.1.server.broker.streamId, s.1.evidence.latestEventSequence, s.2.published)) =
      some (some "a", "b", 2,
        [{ EventStreams.trafficEvent with streamId := "a", sequence := 1 },
          { EventStreams.trafficEvent with streamId := "a", sequence := 2 }]) := by
    decide +kernel
  have hproper : Conforms (recorded LivePage.step LivePage.note) LivePage.Proper resetBehind
      (LivePage.fresh 4 2 "a") := by
    decide +kernel
  obtain ⟨s, hexec, hstate⟩ := Option.map_eq_some_iff.mp hstate
  simp only [Prod.mk.injEq] at hstate
  obtain ⟨hpage, hbroker, hcursor, hpublished⟩ := hstate
  have hshown := ((page_authentic (by decide) (by decide) (.of_exec hexec hproper)).2 "a"
    hpage).2.1
  rw [hpublished] at hshown
  exact ⟨s, hexec, hpage, hbroker, hcursor, hshown⟩

end Runs

end MeshtasticLab.Frontend

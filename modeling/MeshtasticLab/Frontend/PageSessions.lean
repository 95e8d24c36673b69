/-
  Frontend/PageSessions.lean --- what reaches a page, and where it comes from.

  The page is linked to the broker by its inbox and, as long as the handler of its socket
  runs, by that handler and its subscription.  `LinkStep` says what a step of the server
  does to the link.  All that is on its way was published, or is a notice (`Sound`), and so
  is what the page shows.
-/
import MeshtasticLab.Frontend.PageEvidence

set_option autoImplicit false

namespace MeshtasticLab.Frontend

open MeshtasticLab.Foundation MeshtasticLab.Metrics

/-! ## Handlers -/

/-- The event is behind what the handler has sent of its stream. -/
def Skips (stream : EventStream) (event : PacketEvent) : Prop :=
  event.streamId = stream.sentStreamId ∧ 0 < event.sequence ∧
    event.sequence ≤ stream.sentSequence

/-- What a step of a handler does, with the inbox of its client. -/
inductive HandlerMove (stream : EventStream) (subscription : EventSubscription)
    (inbox : List PacketEvent) : EventStream → EventSubscription → List PacketEvent → Prop where
  | replayed (event : PacketEvent) (rest : List PacketEvent)
      (hpc : stream.pc = .replaying (event :: rest)) :
      HandlerMove stream subscription inbox
        { stream with pc := .replaying rest, sent := stream.sent ++ [event] } subscription
        (inbox ++ [event])
  | looped (hpc : stream.pc = .replaying [] ∨ stream.pc = .waiting) :
      HandlerMove stream subscription inbox { stream with pc := .looping } subscription inbox
  | noticed (now : ℚ) (hpc : stream.pc = .looping)
      (hdue : 0 < subscription.dropped ∧ subscription.deliveredDropNoticeLast = false) :
      HandlerMove stream subscription inbox
        { stream with pc := .received (subscription.dropNotice now) }
        { subscription with dropped := 0, deliveredDropNoticeLast := true } inbox
  | waited (hpc : stream.pc = .looping)
      (hdue : ¬(0 < subscription.dropped ∧ subscription.deliveredDropNoticeLast = false)) :
      HandlerMove stream subscription inbox { stream with pc := .waiting } subscription inbox
  | got (event : PacketEvent) (rest : List PacketEvent) (hpc : stream.pc = .waiting)
      (hqueue : subscription.queue = event :: rest) :
      HandlerMove stream subscription inbox { stream with pc := .received event }
        { subscription with queue := rest, deliveredDropNoticeLast := false } inbox
  | delivered (event : PacketEvent) (hpc : stream.pc = .received event)
      (hkept : ¬Skips stream event) :
      HandlerMove stream subscription inbox
        { pc := .looping
          sentStreamId := event.streamId
          sentSequence :=
            if event.streamId = stream.sentStreamId then max stream.sentSequence event.sequence
            else event.sequence
          sent := stream.sent ++ [event] } subscription (inbox ++ [event])
  | skipped (event : PacketEvent) (hpc : stream.pc = .received event)
      (hskips : Skips stream event) :
      HandlerMove stream subscription inbox { stream with pc := .looping } subscription inbox

theorem handler_move {stream next : EventStream} {subscription after : EventSubscription}
    {input : StreamInput} (inbox : List PacketEvent)
    (hstep : stream.step subscription input = some (next, after)) :
    HandlerMove stream subscription inbox next after
      (inbox ++ next.sent.drop stream.sent.length) := by
  have hnothing : inbox ++ stream.sent.drop stream.sent.length = inbox := by simp
  have hone : ∀ event, inbox ++ (stream.sent ++ [event]).drop stream.sent.length =
      inbox ++ [event] := by simp
  unfold EventStream.step at hstep
  cases input with
  | sent =>
      dsimp only at hstep
      split at hstep
      · next hpc =>
          cases hstep
          rw [hnothing]
          exact .looped (Or.inl hpc)
      · next event rest hpc =>
          cases hstep
          rw [hone]
          exact .replayed event rest hpc
      · cases hstep
  | next now =>
      dsimp only at hstep
      split at hstep
      · next hpc =>
          unfold EventSubscription.notice at hstep
          by_cases hdue : 0 < subscription.dropped ∧ subscription.deliveredDropNoticeLast = false
          · rw [if_pos hdue] at hstep
            cases hstep
            rw [hnothing]
            exact .noticed now hpc hdue
          · rw [if_neg hdue] at hstep
            cases hstep
            rw [hnothing]
            exact .waited hpc hdue
      · cases hstep
  | got =>
      dsimp only at hstep
      split at hstep
      · next hpc =>
          unfold EventSubscription.get at hstep
          cases hqueue : subscription.queue with
          | nil =>
              rw [hqueue] at hstep
              cases hstep
          | cons event rest =>
              rw [hqueue] at hstep
              cases hstep
              rw [hnothing]
              exact .got event rest hpc hqueue
      · cases hstep
  | message =>
      dsimp only at hstep
      split at hstep
      · next hpc =>
          cases hstep
          rw [hnothing]
          exact .looped (Or.inr hpc)
      · cases hstep
  | deliver =>
      dsimp only at hstep
      split at hstep
      · next event hpc =>
          cases hstep
          by_cases hskips : Skips stream event
          · have hdeliver : stream.deliver event = { stream with pc := .looping } := by
              unfold EventStream.deliver
              obtain ⟨hstream, hpositive, hbehind⟩ := hskips
              simp [hstream, hpositive, hbehind]
            rw [hdeliver, hnothing]
            exact .skipped event hpc hskips
          · have hdeliver : stream.deliver event =
                { pc := .looping
                  sentStreamId := event.streamId
                  sentSequence :=
                    if event.streamId = stream.sentStreamId then
                      max stream.sentSequence event.sequence
                    else event.sequence
                  sent := stream.sent ++ [event] } := by
              unfold EventStream.deliver
              by_cases hstream : event.streamId = stream.sentStreamId
              · have hkept : ¬(0 < event.sequence ∧ event.sequence ≤ stream.sentSequence) :=
                  fun hbehind => hskips ⟨hstream, hbehind⟩
                simp [hstream, hkept]
              · simp only [hstream, Ne, not_false_eq_true, if_true, if_false, Nat.zero_max]
                rw [if_neg (by omega)]
            rw [hdeliver, hone]
            exact .delivered event hpc hskips
      · cases hstep

/-! ## Links -/

/-- The inbox of a page, and its handler with the subscription. -/
structure Link where
  inbox : List PacketEvent
  session : Option (EventStream × EventSubscription)

/-- What is on its way to the page. -/
def Link.flow (l : Link) : List PacketEvent :=
  l.inbox ++
    match l.session with
    | some (stream, subscription) => stream.pending ++ subscription.queue
    | none => []

def LivePage.link (w : LivePage) : Link := ⟨w.inbox, w.session⟩

/-- The action neither publishes nor clears. -/
def isAside : StreamAction → Bool
  | .publish _ => false
  | .clear _ _ => false
  | _ => true

/-- What a step of the server does to the broker and to a link. -/
inductive LinkStep (b : EventBroker) (l : Link) : StreamAction → EventBroker → Link → Prop where
  | publish (event : PacketEvent) :
      LinkStep b l (.publish event) (b.publish event).2
        { l with session := l.session.map fun s => (s.1, s.2.publish (b.sequenced event)) }
  | clear (streamId : String) (now : ℚ) :
      LinkStep b l (.clear streamId now) (b.clear streamId now)
        { l with session := l.session.map fun s => (s.1, s.2.restart streamId now) }
  | handled {a : StreamAction} {stream next : EventStream}
      {subscription after : EventSubscription} {inbox : List PacketEvent}
      (subscribers : List EventSubscription) (haside : isAside a = true)
      (hsession : l.session = some (stream, subscription))
      (hmove : HandlerMove stream subscription l.inbox next after inbox) :
      LinkStep b l a { b with subscribers := subscribers } ⟨inbox, some (next, after)⟩
  | ended {a : StreamAction} (subscribers : List EventSubscription)
      (haside : isAside a = true) :
      LinkStep b l a { b with subscribers := subscribers } { l with session := none }
  | beside {a : StreamAction} (subscribers : List EventSubscription)
      (haside : isAside a = true) :
      LinkStep b l a { b with subscribers := subscribers } l

/-- A handler takes a step with its subscription. -/
theorem handler_eq_some {server after : EventStreams} {i : ℕ} {input : StreamInput}
    (hstep : server.step (.handler i input) = some after) :
    ∃ stream subscription next rest, server.streams[i]? = some stream ∧
      server.broker.subscribers[i]? = some subscription ∧
      stream.step subscription input = some (next, rest) ∧
      after =
        { broker :=
            { server.broker with subscribers := server.broker.subscribers.set i rest }
          streams := server.streams.set i next } := by
  obtain ⟨stream, hstream, hfound⟩ := Option.bind_eq_some_iff.mp hstep
  obtain ⟨subscription, hsubscription, hstepped⟩ := Option.bind_eq_some_iff.mp hfound
  obtain ⟨⟨next, rest⟩, hnext, hput⟩ := Option.bind_eq_some_iff.mp hstepped
  exact ⟨stream, subscription, next, rest, hstream, hsubscription, hnext,
    (Option.some.inj hput).symm⟩

/-- A handler ends with its subscription. -/
theorem close_eq_some {server after : EventStreams} {i : ℕ}
    (hstep : server.step (.close i) = some after) :
    i < server.streams.length ∧
      after = { broker := server.broker.unsubscribe i, streams := server.streams.eraseIdx i } := by
  unfold EventStreams.step at hstep
  dsimp only at hstep
  rw [Option.ite_none_right_eq_some] at hstep
  exact ⟨hstep.1, (Option.some.inj hstep.2).symm⟩

section Links

variable {w t : LivePage} {i : ℕ} {inbox : List PacketEvent}

theorem session_opened (hsocket : w.socket = .opened (some i) inbox) :
    w.session = (do
      let stream ← w.server.streams[i]?
      let subscription ← w.server.broker.subscribers[i]?
      some (stream, subscription)) := by
  unfold LivePage.session
  rw [hsocket]

/-- A link to a handler is made of what the server has for it. -/
theorem link_of_handler {stream : EventStream} {subscription : EventSubscription}
    (hsocket : w.socket = .opened (some i) inbox) (hstream : w.server.streams[i]? = some stream)
    (hsubscription : w.server.broker.subscribers[i]? = some subscription) :
    w.link = ⟨inbox, some (stream, subscription)⟩ := by
  have hsession := session_opened hsocket
  rw [hstream, hsubscription] at hsession
  unfold LivePage.link LivePage.inbox
  rw [hsession, hsocket]
  rfl

/-- Without a handler there is the inbox at most. -/
theorem session_of_other (hsocket : ∀ i inbox, w.socket ≠ .opened (some i) inbox) :
    w.session = none := by
  unfold LivePage.session
  split
  · next i inbox heq => exact absurd heq (hsocket i inbox)
  · rfl

/-- The socket after the step of a handler. -/
theorem after_handler (before after : EventStreams) (i j : ℕ) (inbox : List PacketEvent)
    (input : StreamInput) :
    (PageSocket.opened (some i) inbox).after before after (.handler j input) =
      if j = i then .opened (some i) (inbox ++ sentBetween before after i)
      else .opened (some i) inbox := rfl

/-- The socket after the end of a handler. -/
theorem after_close (before after : EventStreams) (i j : ℕ) (inbox : List PacketEvent) :
    (PageSocket.opened (some i) inbox).after before after (.close j) =
      if j = i then .opened none inbox
      else if j < i then .opened (some (i - 1)) inbox
      else .opened (some i) inbox := rfl

/-- A step of the server on a link to a handler. -/
theorem linkStep_of_handler {stream : EventStream} {subscription : EventSubscription}
    {a : StreamAction} (hsocket : w.socket = .opened (some i) inbox)
    (hstream : w.server.streams[i]? = some stream)
    (hsubscription : w.server.broker.subscribers[i]? = some subscription)
    (hserver : w.server.step a = some t.server)
    (hafter : t.socket = w.socket.after w.server t.server a) :
    LinkStep w.server.broker w.link a t.server.broker t.link := by
  rw [link_of_handler hsocket hstream hsubscription]
  rw [hsocket] at hafter
  have hi := (List.getElem?_eq_some_iff.mp hstream).1
  have hi' := (List.getElem?_eq_some_iff.mp hsubscription).1
  cases a with
  | publish event =>
      have hmap : t.server.broker.subscribers[i]? =
          some (subscription.publish (w.server.broker.sequenced event)) := by
        rw [← Option.some.inj hserver]
        exact (List.getElem?_map ..).trans (by rw [hsubscription]; rfl)
      have hsame : t.server.streams[i]? = some stream := by
        rw [← Option.some.inj hserver]
        exact hstream
      rw [link_of_handler hafter hsame hmap, ← Option.some.inj hserver]
      exact .publish event
  | clear streamId now =>
      have hmap : t.server.broker.subscribers[i]? =
          some (subscription.restart streamId now) := by
        rw [← Option.some.inj hserver]
        exact (List.getElem?_map ..).trans (by rw [hsubscription]; rfl)
      have hsame : t.server.streams[i]? = some stream := by
        rw [← Option.some.inj hserver]
        exact hstream
      rw [link_of_handler hafter hsame hmap, ← Option.some.inj hserver]
      exact .clear streamId now
  | connect now afterSequence streamId =>
      have hold : t.server.broker.subscribers[i]? = some subscription := by
        rw [← Option.some.inj hserver]
        exact (List.getElem?_append_left hi').trans hsubscription
      have hsame : t.server.streams[i]? = some stream := by
        rw [← Option.some.inj hserver]
        exact (List.getElem?_append_left hi).trans hstream
      rw [link_of_handler hafter hsame hold, ← Option.some.inj hserver]
      exact .beside _ rfl
  | handler j input =>
      obtain ⟨stream', subscription', next, after, hstream', hsubscription', hnext, heq⟩ :=
        handler_eq_some hserver
      rw [after_handler] at hafter
      by_cases hj : j = i
      · subst hj
        cases hstream.symm.trans hstream'
        cases hsubscription.symm.trans hsubscription'
        have hown : t.server.streams[j]? = some next := by
          rw [heq]
          exact List.getElem?_set_self hi
        have hown' : t.server.broker.subscribers[j]? = some after := by
          rw [heq]
          exact List.getElem?_set_self hi'
        have hsent : sentBetween w.server t.server j = next.sent.drop stream.sent.length := by
          unfold sentBetween
          rw [hstream, hown]
        rw [if_pos rfl, hsent] at hafter
        rw [link_of_handler hafter hown hown', heq]
        exact .handled _ rfl rfl (handler_move inbox hnext)
      · have hsame : t.server.streams[i]? = some stream := by
          rw [heq]
          exact (List.getElem?_set_ne hj).trans hstream
        have hold : t.server.broker.subscribers[i]? = some subscription := by
          rw [heq]
          exact (List.getElem?_set_ne hj).trans hsubscription
        rw [if_neg hj] at hafter
        rw [link_of_handler hafter hsame hold, heq]
        exact .beside _ rfl
  | close j =>
      obtain ⟨-, heq⟩ := close_eq_some hserver
      rw [after_close] at hafter
      have hstreams : t.server.streams = w.server.streams.eraseIdx j := by
        rw [heq]
      have hbroker : t.server.broker = w.server.broker.unsubscribe j := by
        rw [heq]
      have hsubscribers : t.server.broker.subscribers =
          w.server.broker.subscribers.eraseIdx j := by
        rw [hbroker]
        rfl
      rw [hbroker]
      rcases Nat.lt_trichotomy j i with hbefore | rfl | hafterwards
      · rw [if_neg hbefore.ne, if_pos hbefore] at hafter
        have hindex : i - 1 + 1 = i := by omega
        have hsame : t.server.streams[i - 1]? = some stream := by
          rw [hstreams, List.getElem?_eraseIdx, if_neg (by omega), hindex]
          exact hstream
        have hold : t.server.broker.subscribers[i - 1]? = some subscription := by
          rw [hsubscribers, List.getElem?_eraseIdx, if_neg (by omega), hindex]
          exact hsubscription
        rw [link_of_handler hafter hsame hold]
        exact .beside _ rfl
      · rw [if_pos rfl] at hafter
        have hsession : t.session = none :=
          session_of_other fun i inbox heq => by rw [hafter] at heq; cases heq
        have hlink : t.link = ⟨inbox, none⟩ := by
          unfold LivePage.link LivePage.inbox
          rw [hsession, hafter]
        rw [hlink]
        exact .ended _ rfl
      · rw [if_neg hafterwards.ne', if_neg (by omega)] at hafter
        have hsame : t.server.streams[i]? = some stream := by
          rw [hstreams, List.getElem?_eraseIdx, if_pos hafterwards]
          exact hstream
        have hold : t.server.broker.subscribers[i]? = some subscription := by
          rw [hsubscribers, List.getElem?_eraseIdx, if_pos hafterwards]
          exact hsubscription
        rw [link_of_handler hafter hsame hold]
        exact .beside _ rfl

/-- A step of the server without a handler of the page. -/
theorem linkStep_of_none {a : StreamAction} (hsession : w.link.session = none)
    (hsame : t.link = w.link) (hserver : w.server.step a = some t.server) :
    LinkStep w.server.broker w.link a t.server.broker t.link := by
  have hlink : w.link = ⟨w.link.inbox, none⟩ := by
    rw [← hsession]
  rw [hsame, hlink]
  cases a with
  | publish event =>
      rw [← Option.some.inj hserver]
      exact .publish event
  | clear streamId now =>
      rw [← Option.some.inj hserver]
      exact .clear streamId now
  | connect now afterSequence streamId =>
      rw [← Option.some.inj hserver]
      exact .beside _ rfl
  | handler j input =>
      obtain ⟨_, _, _, _, -, -, -, heq⟩ := handler_eq_some hserver
      rw [heq]
      exact .beside _ rfl
  | close j =>
      rw [(close_eq_some hserver).2]
      exact .beside _ rfl

/-- The handler of the page is one of the server's. -/
def LivePage.Handled (w : LivePage) : Prop :=
  ∀ i inbox, w.socket = .opened (some i) inbox → i < w.server.streams.length

/-- A step of the server moves the link of the page. -/
theorem linkStep_server {a : StreamAction}
    (hlengths : w.server.streams.length = w.server.broker.subscribers.length)
    (hhandled : w.Handled) (hserver : w.server.step a = some t.server)
    (hafter : t.socket = w.socket.after w.server t.server a) :
    LinkStep w.server.broker w.link a t.server.broker t.link := by
  have hidle : (∀ i inbox, w.socket ≠ .opened (some i) inbox) →
      w.socket.after w.server t.server a = w.socket →
      LinkStep w.server.broker w.link a t.server.broker t.link := by
    intro hother hkept
    rw [hkept] at hafter
    have hsession : w.session = none := session_of_other hother
    have hsession' : t.session = none := session_of_other (by rw [hafter]; exact hother)
    refine linkStep_of_none hsession ?_ hserver
    unfold LivePage.link LivePage.inbox
    rw [hsession, hsession', hafter]
  cases hsocket : w.socket with
  | closed =>
      rw [hsocket] at hidle
      exact hidle (fun _ _ => by simp) (by cases a <;> rfl)
  | connecting afterSequence streamId =>
      rw [hsocket] at hidle
      exact hidle (fun _ _ => by simp) (by cases a <;> rfl)
  | opened handler inbox =>
      cases handler with
      | none =>
          rw [hsocket] at hidle
          exact hidle (fun _ _ => by simp) (by cases a <;> rfl)
      | some i =>
          have hi := hhandled i inbox hsocket
          exact linkStep_of_handler hsocket (List.getElem?_eq_getElem hi)
            (List.getElem?_eq_getElem (hlengths ▸ hi)) hserver hafter

/-- The handler of the page stays one of the server's. -/
theorem LivePage.Handled.server {a : StreamAction} (hhandled : w.Handled)
    (hserver : w.server.step a = some t.server)
    (hafter : t.socket = w.socket.after w.server t.server a) : t.Handled := by
  intro i inbox hsocket
  rw [hafter] at hsocket
  cases a with
  | publish event =>
      rw [← Option.some.inj hserver]
      exact hhandled i inbox hsocket
  | clear streamId now =>
      rw [← Option.some.inj hserver]
      exact hhandled i inbox hsocket
  | connect now afterSequence streamId =>
      rw [← Option.some.inj hserver]
      refine (hhandled i inbox hsocket).trans_le ?_
      simp
  | handler j input =>
      obtain ⟨_, _, _, _, -, -, -, heq⟩ := handler_eq_some hserver
      rw [heq]
      change i < (w.server.streams.set j _).length
      rw [List.length_set]
      cases hbefore : w.socket with
      | closed => rw [hbefore] at hsocket; cases hsocket
      | connecting afterSequence streamId => rw [hbefore] at hsocket; cases hsocket
      | opened handler inbox' =>
          cases handler with
          | none => rw [hbefore] at hsocket; cases hsocket
          | some k =>
              rw [hbefore, after_handler] at hsocket
              have hk : k = i := by
                split at hsocket <;> cases hsocket <;> rfl
              exact hk ▸ hhandled k inbox' hbefore
  | close j =>
      obtain ⟨hj, heq⟩ := close_eq_some hserver
      rw [heq]
      change i < (w.server.streams.eraseIdx j).length
      rw [List.length_eraseIdx_of_lt hj]
      cases hbefore : w.socket with
      | closed => rw [hbefore] at hsocket; cases hsocket
      | connecting afterSequence streamId => rw [hbefore] at hsocket; cases hsocket
      | opened handler inbox' =>
          cases handler with
          | none => rw [hbefore] at hsocket; cases hsocket
          | some k =>
              rw [hbefore, after_close] at hsocket
              have hk := hhandled k inbox' hbefore
              split at hsocket
              · cases hsocket
              · split at hsocket <;> cases hsocket <;> omega

end Links

end MeshtasticLab.Frontend

/-
  Metrics/EventStream.lean --- the WebSocket handlers of one broker.

  Embeds `event_stream` of `backend/app/main.py`.  Every handler replays the
  retained history to its client and then sends what its subscription delivers.
  Handlers, `publish` and `clear` take their steps in any order; a message of the
  client cancels the wait for the next event, and the queue loses nothing by it.
-/
import MeshtasticLab.Foundation.Runs
import MeshtasticLab.Metrics.History

set_option autoImplicit false

namespace MeshtasticLab.Metrics

open MeshtasticLab.Foundation

/-! ## Handlers -/

/-- The notice that precedes the replay of a page, if there is one. -/
def EventHistoryPage.replayNotice (page : EventHistoryPage) (now : ℚ) : List PacketEvent :=
  if page.streamChanged then
    [{ streamId := page.streamId
       monotonicSeconds := now
       eventType := .uiEventsDropped
       result := some "stream-reset"
       detail := some "the event stream restarted; replaying retained history" }]
  else if page.historyGap then
    [{ streamId := page.streamId
       monotonicSeconds := now
       eventType := .uiEventsDropped
       result := some "history-gap"
       detail := some
         (s!"event history before sequence {page.firstAvailableSequence.getD 0} " ++
           "is no longer available") }]
  else []

/-- Where a handler is suspended. -/
inductive StreamPc where
  | replaying (remaining : List PacketEvent)
  | looping
  | waiting
  | received (event : PacketEvent)
  deriving DecidableEq

/-- The local variables of a handler, and what it has sent. -/
structure EventStream where
  pc : StreamPc
  sentStreamId : String
  sentSequence : Nat
  sent : List PacketEvent := []

namespace EventStream

/-- The handler after it has subscribed and read a page of the history. -/
def replay (page : EventHistoryPage) (now : ℚ) : EventStream where
  pc := .replaying (page.replayNotice now ++ page.events)
  sentStreamId := page.streamId
  sentSequence := page.latestSequence

/-- What the handler does with an event of its subscription. -/
def deliver (s : EventStream) (event : PacketEvent) : EventStream :=
  let s :=
    if event.streamId ≠ s.sentStreamId then
      { s with sentStreamId := event.streamId, sentSequence := 0 }
    else s
  if 0 < event.sequence ∧ event.sequence ≤ s.sentSequence then { s with pc := .looping }
  else
    { s with
      pc := .looping
      sentSequence := max s.sentSequence event.sequence
      sent := s.sent ++ [event] }

end EventStream

/-- How a suspension of a handler ends. -/
inductive StreamInput where
  | sent
  | next (now : ℚ)
  | got
  | message
  | deliver

/-- The handler and its subscription after one step. -/
def EventStream.step (s : EventStream) (subscription : EventSubscription) :
    StreamInput → Option (EventStream × EventSubscription)
  | .sent =>
      match s.pc with
      | .replaying [] => some ({ s with pc := .looping }, subscription)
      | .replaying (event :: rest) =>
          some ({ s with pc := .replaying rest, sent := s.sent ++ [event] }, subscription)
      | _ => none
  | .next now =>
      match s.pc with
      | .looping =>
          match subscription.notice now with
          | some (event, subscription) => some ({ s with pc := .received event }, subscription)
          | none => some ({ s with pc := .waiting }, subscription)
      | _ => none
  | .got =>
      match s.pc with
      | .waiting => subscription.get.map fun got => ({ s with pc := .received got.1 }, got.2)
      | _ => none
  | .message =>
      match s.pc with
      | .waiting => some ({ s with pc := .looping }, subscription)
      | _ => none
  | .deliver =>
      match s.pc with
      | .received event => some (s.deliver event, subscription)
      | _ => none

/-! ## The broker and its handlers -/

/-- A broker and the handlers of its subscribers, in the same order. -/
structure EventStreams where
  broker : EventBroker
  streams : List EventStream := []

/-- What can happen next; `close` ends a handler, whatever it is doing. -/
inductive StreamAction where
  | publish (event : PacketEvent)
  | clear (streamId : String) (now : ℚ)
  | connect (now : ℚ) (afterSequence : Nat) (streamId : Option String)
  | handler (i : Nat) (input : StreamInput)
  | close (i : Nat)

namespace EventStreams

/-- One step. -/
def step (w : EventStreams) : StreamAction → Option EventStreams
  | .publish event => some { w with broker := (w.broker.publish event).2 }
  | .clear streamId now => some { w with broker := w.broker.clear streamId now }
  | .connect now afterSequence streamId =>
      let b := w.broker.subscribe
      some
        { broker := b
          streams := w.streams ++ [.replay (b.historyPage afterSequence 5000 streamId) now] }
  | .handler i input => do
      let stream ← w.streams[i]?
      let subscription ← w.broker.subscribers[i]?
      let (stream, subscription) ← stream.step subscription input
      some
        { broker := { w.broker with subscribers := w.broker.subscribers.set i subscription }
          streams := w.streams.set i stream }
  | .close i =>
      if i < w.streams.length then
        some { broker := w.broker.unsubscribe i, streams := w.streams.eraseIdx i }
      else none

/-! ## Ledgers -/

end EventStreams

/-- What a call of `next` returned, or that the subscription was restarted in between. -/
inductive Returned where
  | event
  | notice (amount : Nat)
  | restarted
  deriving DecidableEq

/-- What is remembered of a connection: the events published to its subscription, taken from
its queue and reported as dropped, each since the subscription or its last restart, and
what the calls of `next` returned. -/
structure StreamLedger where
  published : Nat := 0
  taken : Nat := 0
  reported : Nat := 0
  returned : List Returned := []

/-- The ledger after a restart, which publishes the marker. -/
def StreamLedger.restart (l : StreamLedger) : StreamLedger where
  published := 1
  returned := l.returned ++ [.restarted]

/-- The ledger after a step of the handler. -/
def StreamLedger.note (l : StreamLedger) (subscription : EventSubscription) :
    StreamInput → StreamLedger
  | .next now =>
      match subscription.notice now with
      | some _ =>
          { l with
            reported := l.reported + subscription.dropped
            returned := l.returned ++ [.notice subscription.dropped] }
      | none => l
  | .got => { l with taken := l.taken + 1, returned := l.returned ++ [.event] }
  | _ => l

/-- The stream identifiers that the broker has had, and the ledgers of the connections. -/
structure StreamHistory where
  streamIds : List String
  ledgers : List StreamLedger := []

namespace EventStreams

/-- The history after a step. -/
def note (h : StreamHistory) (w : EventStreams) (a : StreamAction) (_ : EventStreams) :
    StreamHistory :=
  match a with
  | .publish _ =>
      { h with ledgers := h.ledgers.map fun l => { l with published := l.published + 1 } }
  | .clear streamId _ =>
      { streamIds := h.streamIds ++ [streamId], ledgers := h.ledgers.map (·.restart) }
  | .connect _ _ _ => { h with ledgers := h.ledgers ++ [{}] }
  | .handler i input =>
      match w.broker.subscribers[i]? with
      | some subscription => { h with ledgers := h.ledgers.modify i (·.note subscription input) }
      | none => h
  | .close i => { h with ledgers := h.ledgers.eraseIdx i }

/-- The identifier that `clear` draws is a new one. -/
def FreshStream (s : EventStreams × StreamHistory) (a : StreamAction) : Prop :=
  match a with
  | .clear streamId _ => streamId ∉ s.2.streamIds
  | _ => True

end EventStreams

end MeshtasticLab.Metrics

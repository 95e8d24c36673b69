/-
  Frontend/LivePage.lean --- a page that follows the event stream.

  Embeds the two effects of `App` of `frontend/src/App.tsx` that bring packet events to
  the page, the socket with its reconnects and the history that is loaded once, and
  `clearEventEvidence` after a reset.  The other end is the broker of
  `Metrics/EventStream.lean` with the handlers of all clients.

  HOW IT IS CUT

  A callback of the page is one step.  A socket asks for its replay when it is created,
  with the cursor that the page has then, and the server accepts it later.  What its
  handler has sent is in the inbox of the page until a callback takes it or the socket is
  gone; a handler may end before its messages are taken.

  WHAT IS LEFT OPEN

  When a request is answered and when its answer arrives, when a connection breaks, and
  what other clients and the publishers of events do in between.
-/
import MeshtasticLab.Frontend.EventCache
import MeshtasticLab.Metrics.Delivery

set_option autoImplicit false

namespace MeshtasticLab.Frontend

open MeshtasticLab.Foundation MeshtasticLab.Metrics

/-! ## The page -/

/-- The notice that a stream has restarted. -/
def isReset (event : PacketEvent) : Bool :=
  event.eventType = .uiEventsDropped && event.result = some "stream-reset"

/-- The notice that events were dropped. -/
def isDropNotice (event : PacketEvent) : Bool :=
  event.eventType = .uiEventsDropped && event.result = some "dropped"

/-- The listener of the socket for messages. -/
def EventEvidence.receive (page : EventEvidence) (event : PacketEvent) : EventEvidence :=
  if isReset event then page.clearEventEvidence (some event.streamId)
  else page.acceptEvents [event] (some event.streamId)

/-- The socket of the page.  When it is opened it has a handler until that one ends, and an
inbox of what was sent and not taken yet. -/
inductive PageSocket where
  | closed
  | connecting (afterSequence : ℕ) (streamId : Option String)
  | opened (handler : Option ℕ) (inbox : List PacketEvent)

/-- Where `loadInitialState` is: it waits for its next try, it has sent its requests and
remembers the generation of the evidence, the history was answered, or it is through. -/
inductive InitialLoad where
  | waiting
  | requested (generation : ℕ)
  | answered (generation : ℕ) (history : EventHistoryPage)
  | loaded

/-- A broker with its handlers, and a page. -/
structure LivePage where
  server : EventStreams
  evidence : EventEvidence := {}
  socket : PageSocket := .closed
  load : InitialLoad := .waiting

/-! ## Steps -/

/-- What a handler has sent in a step of the server. -/
def sentBetween (before after : EventStreams) (i : ℕ) : List PacketEvent :=
  match before.streams[i]?, after.streams[i]? with
  | some earlier, some later => later.sent.drop earlier.sent.length
  | _, _ => []

/-- The socket after a step of the server. -/
def PageSocket.after (socket : PageSocket) (before after : EventStreams) :
    StreamAction → PageSocket
  | .handler i _ =>
      match socket with
      | .opened (some handler) inbox =>
          if i = handler then .opened (some handler) (inbox ++ sentBetween before after handler)
          else socket
      | _ => socket
  | .close i =>
      match socket with
      | .opened (some handler) inbox =>
          if i = handler then .opened none inbox
          else if i < handler then .opened (some (handler - 1)) inbox
          else socket
      | _ => socket
  | _ => socket

namespace LivePage

/-- What happens next; `server` is a step of the broker or of any handler. -/
inductive Action where
  | server (a : StreamAction)
  | connect
  | accepted (now : ℚ)
  | message
  | closed
  | requestHistory
  | historyAnswered
  | historyArrived
  | loadFailed
  | resetReturned

/-- One step. -/
def step (w : LivePage) : Action → Option LivePage
  | .server a => do
      let server ← w.server.step a
      some { w with server := server, socket := w.socket.after w.server server a }
  | .connect =>
      match w.socket with
      | .closed =>
          some
            { w with
              socket := .connecting w.evidence.latestEventSequence
                (w.evidence.eventStreamId.filter (· ≠ "")) }
      | _ => none
  | .accepted now =>
      match w.socket with
      | .connecting afterSequence streamId => do
          let server ← w.server.step (.connect now afterSequence streamId)
          some { w with server := server, socket := .opened (some w.server.streams.length) [] }
      | _ => none
  | .message =>
      match w.socket with
      | .opened handler (event :: rest) =>
          some { w with evidence := w.evidence.receive event, socket := .opened handler rest }
      | _ => none
  | .closed =>
      match w.socket with
      | .closed => none
      | _ => some { w with socket := .closed }
  | .requestHistory =>
      match w.load with
      | .waiting => some { w with load := .requested w.evidence.eventEvidenceGeneration }
      | _ => none
  | .historyAnswered =>
      match w.load with
      | .requested generation =>
          some { w with load := .answered generation w.server.broker.historyPage }
      | _ => none
  | .historyArrived =>
      match w.load with
      | .answered generation history =>
          some
            { w with
              load := .loaded
              evidence :=
                if w.evidence.eventEvidenceGeneration = generation then
                  w.evidence.acceptEvents history.events (some history.streamId)
                else w.evidence }
      | _ => none
  | .loadFailed =>
      match w.load with
      | .requested _ => some { w with load := .waiting }
      | .answered _ _ => some { w with load := .waiting }
      | _ => none
  | .resetReturned => some { w with evidence := w.evidence.clearEventEvidence }

/-- The handler and the subscription of the page, while its socket has them. -/
def session (w : LivePage) : Option (EventStream × EventSubscription) :=
  match w.socket with
  | .opened (some i) _ => do
      let stream ← w.server.streams[i]?
      let subscription ← w.server.broker.subscribers[i]?
      some (stream, subscription)
  | _ => none

/-- What was sent to the page and not taken yet. -/
def inbox (w : LivePage) : List PacketEvent :=
  match w.socket with
  | .opened _ inbox => inbox
  | _ => []

end LivePage

/-! ## What has happened -/

/-- What is remembered of a run: the history of the handlers, the events that the broker
published, in all its streams, the streams of the drop notices that the page took, and the
streams in which it was disturbed. -/
structure PageHistory where
  server : StreamHistory
  published : List PacketEvent := []
  told : List String := []
  disturbed : List String := []

/-- The published events of one stream. -/
def streamLog (published : List PacketEvent) (streamId : String) : List PacketEvent :=
  published.filter fun event => event.streamId = streamId

/-- How far the page has come in a stream. -/
def EventEvidence.reachedIn (page : EventEvidence) (streamId : String) : ℕ :=
  if page.eventStreamId = some streamId then page.latestEventSequence else 0

namespace LivePage

/-- The handler of the page waits for an event although its queue is full, so what it gets
next is behind a gap that it reports later. -/
def overrun (w : LivePage) : Bool :=
  match w.session with
  | some (stream, subscription) =>
      stream.pc = .waiting && subscription.full && !subscription.deliveredDropNoticeLast
  | none => false

/-- The stream in which a step disturbs the page: it overruns the handler of the page, or the
history of another stream or a reset of the page takes it back. -/
def disturbedBy (w : LivePage) (a : Action) (t : LivePage) : List String :=
  let current := w.server.broker.streamId
  match a with
  | .server (.publish _) => if w.overrun then [current] else []
  | .historyArrived | .resetReturned =>
      if t.evidence.reachedIn current < w.evidence.reachedIn current then [current] else []
  | _ => []

/-- What a step of the server publishes. -/
def publishedBy (server : EventStreams) : StreamAction → List PacketEvent
  | .publish event => [server.broker.sequenced event]
  | _ => []

/-- The history after a step. -/
def note (h : PageHistory) (w : LivePage) (a : Action) (t : LivePage) : PageHistory :=
  match a with
  | .server a =>
      { h with
        server := EventStreams.note h.server w.server a t.server
        published := h.published ++ publishedBy w.server a
        disturbed := h.disturbed ++ disturbedBy w (.server a) t }
  | .accepted now =>
      match w.socket with
      | .connecting afterSequence streamId =>
          { h with
            server := EventStreams.note h.server w.server (.connect now afterSequence streamId)
              t.server }
      | _ => h
  | .message =>
      { h with told := h.told ++ (w.inbox.head?.filter isDropNotice).toList.map (·.streamId) }
  | .historyArrived => { h with disturbed := h.disturbed ++ disturbedBy w .historyArrived t }
  | .resetReturned => { h with disturbed := h.disturbed ++ disturbedBy w .resetReturned t }
  | _ => h

/-- Only the broker itself makes notices, and a reset draws a new stream id, which is not
empty. -/
def Proper (s : LivePage × PageHistory) : Action → Prop
  | .server (.publish event) => event.eventType ≠ .uiEventsDropped
  | .server (.clear streamId _) => streamId ∉ s.2.server.streamIds ∧ streamId ≠ ""
  | _ => True

/-- A broker before its first client, and a page that has just been opened. -/
def fresh (historySize bufferSize : ℕ) (streamId : String) : LivePage × PageHistory :=
  ({ server := (EventStreams.fresh historySize bufferSize streamId).1 },
    { server := (EventStreams.fresh historySize bufferSize streamId).2 })

end LivePage

end MeshtasticLab.Frontend

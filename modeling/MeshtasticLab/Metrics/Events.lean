/-
  Metrics/Events.lean --- bounded event history and bounded UI subscriptions.

  Embeds `backend/app/metrics/events.py`: `PacketEvent`, `EventHistoryPage`,
  `EventSubscription` and `EventBroker`.  A fresh stream identifier, which the
  source draws with `uuid.uuid4()`, is an argument of `clear`.  The constant
  schema version and the wall-clock stamp of an event, which nothing reads, are
  left out.
-/
import MeshtasticLab.Foundation.BoundedDeque
import Mathlib.Data.Rat.Defs

set_option autoImplicit false

namespace MeshtasticLab.Metrics

open MeshtasticLab.Foundation

/-- `EventType`. -/
inductive EventType where
  | rfTransmit
  | linkDisabled
  | rxInjected
  | applicationReceive
  | acknowledgment
  | routingError
  | linkUpdated
  | collision
  | nodeState
  | lifecycle
  | traffic
  | metrics
  | uiEventsDropped
  deriving DecidableEq, Repr

/-- A value of the `metricUpdate` dictionary. -/
inductive MetricValue where
  | int (value : Int)
  | real (value : ℚ)
  | counts (values : List (String × Nat))
  | null
  deriving DecidableEq, Repr

/-- `PacketEvent`, with the defaults of the source. -/
structure PacketEvent where
  streamId : String := ""
  sequence : Nat := 0
  monotonicSeconds : ℚ
  eventType : EventType
  transmitter : Option String := none
  intendedDestination : Option String := none
  receiver : Option String := none
  receiverSet : List String := []
  meshPacketId : Option Nat := none
  trafficRunId : Option String := none
  trafficSequence : Option Nat := none
  hopLimit : Option Nat := none
  hopStart : Option Nat := none
  rssiDbm : Option Int := none
  snrDb : Option ℚ := none
  portNumber : Option Nat := none
  packetLength : Option Nat := none
  airtimeMs : Option Nat := none
  metricUpdate : List (String × MetricValue) := []
  result : Option String := none
  detail : Option String := none
  deriving DecidableEq, Repr

/-- `EventHistoryPage`. -/
structure EventHistoryPage where
  streamId : String
  streamChanged : Bool
  events : List PacketEvent
  firstAvailableSequence : Option Nat
  latestSequence : Nat
  historyGap : Bool
  hasMore : Bool
  deriving DecidableEq, Repr

/-! ## Subscriptions -/

/-- `EventSubscription`: a bounded `asyncio.Queue` and its drop accounting. -/
structure EventSubscription where
  queue : List PacketEvent
  bufferSize : Nat
  streamId : String
  dropped : Nat
  deliveredDropNoticeLast : Bool
  deriving DecidableEq, Repr

namespace EventSubscription

/-- `EventSubscription.__init__`. -/
def new (bufferSize : Nat) (streamId : String) : EventSubscription where
  queue := []
  bufferSize := bufferSize
  streamId := streamId
  dropped := 0
  deliveredDropNoticeLast := false

/-- `asyncio.Queue.full`; a queue without a positive size is never full. -/
def full (s : EventSubscription) : Bool := 0 < s.bufferSize && s.bufferSize ≤ s.queue.length

/-- `EventSubscription.publish`: a full queue loses its oldest event. -/
def publish (s : EventSubscription) (event : PacketEvent) : EventSubscription :=
  if s.full then { s with dropped := s.dropped + 1, queue := s.queue.tail ++ [event] }
  else { s with queue := s.queue ++ [event] }

/-- `EventSubscription.restart`: drop queued evidence and tell the client to
restart its cursor. -/
def restart (s : EventSubscription) (streamId : String) (now : ℚ) : EventSubscription :=
  { s with
    streamId := streamId
    dropped := 0
    deliveredDropNoticeLast := false
    queue :=
      [{ streamId := streamId
         monotonicSeconds := now
         eventType := .uiEventsDropped
         result := some "stream-reset"
         detail := some "packet evidence was cleared by simulation reset" }] }

/-- The notice of the events that were dropped. -/
def dropNotice (s : EventSubscription) (now : ℚ) : PacketEvent where
  streamId := s.streamId
  monotonicSeconds := now
  eventType := .uiEventsDropped
  result := some "dropped"
  detail := some s!"{s.dropped} UI events dropped because the client was slow"

/-- `next` before it waits for the queue: what it returns when events were dropped and a
notice was not what it returned last. -/
def notice (s : EventSubscription) (now : ℚ) : Option (PacketEvent × EventSubscription) :=
  if 0 < s.dropped ∧ s.deliveredDropNoticeLast = false then
    some (s.dropNotice now, { s with dropped := 0, deliveredDropNoticeLast := true })
  else none

/-- The rest of `next`; an empty queue makes it wait. -/
def get (s : EventSubscription) : Option (PacketEvent × EventSubscription) :=
  match s.queue with
  | [] => none
  | event :: rest => some (event, { s with queue := rest, deliveredDropNoticeLast := false })

/-- `EventSubscription.next`, when it does not wait. -/
def next (s : EventSubscription) (now : ℚ) : Option (PacketEvent × EventSubscription) :=
  (s.notice now).or s.get

end EventSubscription

/-! ## The broker -/

/-- `EventBroker`. -/
structure EventBroker where
  history : BoundedDeque PacketEvent
  subscribers : List EventSubscription
  streamId : String
  sequence : Nat
  historyEvictions : Nat
  subscriberBufferSize : Nat

namespace EventBroker

/-- `EventBroker.__init__`. -/
def new (historySize subscriberBufferSize : Nat) (streamId : String) : EventBroker where
  history := .empty historySize
  subscribers := []
  streamId := streamId
  sequence := 0
  historyEvictions := 0
  subscriberBufferSize := subscriberBufferSize

/-- The event as `publish` stores and returns it. -/
def sequenced (b : EventBroker) (event : PacketEvent) : PacketEvent :=
  { event with sequence := b.sequence + 1, streamId := b.streamId }

/-- `EventBroker.publish`: the sequenced event and the broker afterwards. -/
def publish (b : EventBroker) (event : PacketEvent) : PacketEvent × EventBroker :=
  (b.sequenced event,
    { b with
      sequence := b.sequence + 1
      historyEvictions :=
        if b.history.items.length = b.history.maxlen then b.historyEvictions + 1
        else b.historyEvictions
      history := b.history.append (b.sequenced event)
      subscribers := b.subscribers.map (·.publish (b.sequenced event)) })

/-- `EventBroker.clear`: clear retained evidence and restart every connected
client cursor. -/
def clear (b : EventBroker) (streamId : String) (now : ℚ) : EventBroker :=
  { b with
    history := b.history.clear
    sequence := 0
    historyEvictions := 0
    streamId := streamId
    subscribers := b.subscribers.map (·.restart streamId now) }

/-- `EventBroker.history_page`: the earliest retained events after a client
cursor. -/
def historyPage (b : EventBroker) (afterSequence : Nat := 0) (limit : Nat := 5000)
    (streamId : Option String := none) : EventHistoryPage :=
  let retained := b.history.items
  let firstAvailable := retained.head?.map (·.sequence)
  let streamChanged := streamId.isSome && streamId ≠ some b.streamId
  let effectiveAfterSequence := if streamChanged then 0 else afterSequence
  let historyGap :=
    !streamChanged && 0 < afterSequence &&
      firstAvailable.any fun first => afterSequence < first - 1
  let events := (retained.filter fun event => effectiveAfterSequence < event.sequence).take limit
  { streamId := b.streamId
    streamChanged := streamChanged
    events := events
    firstAvailableSequence := firstAvailable
    latestSequence := b.sequence
    historyGap := historyGap
    hasMore := events.getLast?.any fun last => last.sequence < b.sequence }

/-- `EventBroker.subscribe`, up to its `yield`. -/
def subscribe (b : EventBroker) : EventBroker :=
  { b with subscribers := b.subscribers ++ [.new b.subscriberBufferSize b.streamId] }

/-- The end of `EventBroker.subscribe` for one of the subscribers. -/
def unsubscribe (b : EventBroker) (i : Nat) : EventBroker :=
  { b with subscribers := b.subscribers.eraseIdx i }

end EventBroker

end MeshtasticLab.Metrics

/-
  Metrics/Delivery.lean --- what reaches the client of a WebSocket session.

  WHAT THIS FILE IS FOR

  What a handler has sent, what it still has in hand and what is queued for it form
  one list in the order of the streams of the broker and of their sequence numbers.
  Every step takes from the front of what is queued, appends at its end or drops
  something, so nothing is sent twice or out of order.  The counts of the ledger
  account for what is dropped.
-/
import MeshtasticLab.Metrics.EventStream
import Mathlib.Data.List.Chain

set_option autoImplicit false

namespace MeshtasticLab.Metrics

open MeshtasticLab.Foundation

/-! ## The order of events -/

/-- The event belongs to an earlier stream than another one, or to the same stream and has
the smaller sequence number if both have one. -/
def Precedes (streamIds : List String) (a b : PacketEvent) : Prop :=
  streamIds.idxOf a.streamId < streamIds.idxOf b.streamId ∨
    a.streamId = b.streamId ∧ (0 < a.sequence → 0 < b.sequence → a.sequence < b.sequence)

section Streams

variable {streamIds : List String} {current fresh : String}

/-- Every other stream comes before the current one. -/
theorem idxOf_lt_current (hnodup : streamIds.Nodup) (hlast : streamIds.getLast? = some current)
    {streamId : String} (hmember : streamId ∈ streamIds) (hne : streamId ≠ current) :
    streamIds.idxOf streamId < streamIds.idxOf current := by
  obtain ⟨earlier, rfl⟩ := List.getLast?_eq_some_iff.mp hlast
  have hearlier : streamId ∈ earlier := by simpa [hne] using hmember
  have hfirst : current ∉ earlier := by
    rw [List.nodup_append] at hnodup
    exact fun hcurrent => hnodup.2.2 current hcurrent current (by simp) rfl
  rw [List.idxOf_append_of_mem hearlier, List.idxOf_append_of_notMem hfirst]
  exact Nat.lt_of_lt_of_le (List.idxOf_lt_length_iff.mpr hearlier) (Nat.le_add_right _ _)

/-- A new stream does not change the order of the old ones. -/
theorem Precedes.concat {a b : PacketEvent} (h : Precedes streamIds a b)
    (ha : a.streamId ∈ streamIds) (hb : b.streamId ∈ streamIds) :
    Precedes (streamIds ++ [fresh]) a b := by
  unfold Precedes at h ⊢
  rw [List.idxOf_append_of_mem ha, List.idxOf_append_of_mem hb]
  exact h

end Streams

/-- The broker has its own stream last, and retains events of that stream only. -/
structure Streamed (b : EventBroker) (streamIds : List String) : Prop where
  distinct : streamIds.Nodup
  current : streamIds.getLast? = some b.streamId
  retained : ∃ log, Retains b log ∧ ∀ event ∈ log, event.streamId = b.streamId
  bufferSize : 1 ≤ b.subscriberBufferSize

/-- The events are in order, and the broker has published them. -/
structure InOrder (b : EventBroker) (streamIds : List String) (events : List PacketEvent) :
    Prop where
  ordered : events.Pairwise (Precedes streamIds)
  known : ∀ event ∈ events, event.streamId ∈ streamIds ∧
    (event.streamId = b.streamId → event.sequence ≤ b.sequence)

section InOrder

variable {b : EventBroker} {streamIds : List String} {events : List PacketEvent}

theorem InOrder.sublist (h : InOrder b streamIds events) {fewer : List PacketEvent}
    (hfewer : fewer.Sublist events) : InOrder b streamIds fewer where
  ordered := h.ordered.sublist hfewer
  known event hmember := h.known event (hfewer.mem hmember)

/-- An event of the current stream that has no sequence number, or a later one, comes after
everything known. -/
theorem precedes_current (hstreamed : Streamed b streamIds) {a event : PacketEvent}
    (hknown : a.streamId ∈ streamIds ∧ (a.streamId = b.streamId → a.sequence ≤ b.sequence))
    (hstream : event.streamId = b.streamId)
    (hsequence : 0 < event.sequence → b.sequence < event.sequence) :
    Precedes streamIds a event := by
  by_cases hsame : a.streamId = b.streamId
  · refine Or.inr ⟨hsame.trans hstream.symm, fun _ hpositive => ?_⟩
    exact Nat.lt_of_le_of_lt (hknown.2 hsame) (hsequence hpositive)
  · left
    rw [hstream]
    exact idxOf_lt_current hstreamed.distinct hstreamed.current hknown.1 hsame

theorem Streamed.mem (h : Streamed b streamIds) : b.streamId ∈ streamIds :=
  List.mem_of_getLast? h.current

/-- Publishing appends an event. -/
theorem InOrder.publish (h : InOrder b streamIds events) (hstreamed : Streamed b streamIds)
    (event : PacketEvent) :
    InOrder (b.publish event).2 streamIds (events ++ [b.sequenced event]) := by
  constructor
  · rw [List.pairwise_append]
    refine ⟨h.ordered, List.pairwise_singleton _ _, ?_⟩
    intro a ha last hlast
    rw [List.mem_singleton.mp hlast]
    exact precedes_current hstreamed (h.known a ha) rfl fun _ => Nat.lt_succ_self _
  · intro a ha
    rcases List.mem_append.mp ha with hold | hnew
    · obtain ⟨hmember, hbound⟩ := h.known a hold
      exact ⟨hmember, fun hsame => Nat.le_succ_of_le (hbound hsame)⟩
    · rw [List.mem_singleton.mp hnew]
      exact ⟨hstreamed.mem, fun _ => Nat.le_refl _⟩

/-- Clearing appends the marker of a new stream. -/
theorem InOrder.clear (h : InOrder b streamIds events) {fresh : String}
    (hfresh : fresh ∉ streamIds) (now : ℚ) {marker : PacketEvent}
    (hstream : marker.streamId = fresh) (hsequence : marker.sequence = 0) :
    InOrder (b.clear fresh now) (streamIds ++ [fresh]) (events ++ [marker]) := by
  constructor
  · rw [List.pairwise_append]
    refine ⟨?_, List.pairwise_singleton _ _, ?_⟩
    · refine h.ordered.imp_of_mem ?_
      intro a c ha hc hprecedes
      exact hprecedes.concat (h.known a ha).1 (h.known c hc).1
    · intro a ha last hlast
      rw [List.mem_singleton.mp hlast]
      left
      rw [hstream, List.idxOf_append_of_mem (h.known a ha).1,
        List.idxOf_append_of_notMem hfresh]
      exact Nat.lt_of_lt_of_le (List.idxOf_lt_length_iff.mpr (h.known a ha).1)
        (Nat.le_add_right _ _)
  · intro a ha
    rcases List.mem_append.mp ha with hold | hnew
    · have hmember := (h.known a hold).1
      refine ⟨List.mem_append_left _ hmember, fun hsame => ?_⟩
      exact absurd (show a.streamId = fresh from hsame) fun heq => hfresh (heq ▸ hmember)
    · rw [List.mem_singleton.mp hnew, hstream, hsequence]
      exact ⟨List.mem_append_right _ (List.mem_singleton_self _), fun _ => Nat.zero_le _⟩

/-- A notice of the current stream may stand before events of that stream. -/
theorem InOrder.notice {queue : List PacketEvent} (h : InOrder b streamIds (events ++ queue))
    (hstreamed : Streamed b streamIds) (hqueue : ∀ event ∈ queue, event.streamId = b.streamId)
    {notice : PacketEvent} (hstream : notice.streamId = b.streamId)
    (hsequence : notice.sequence = 0) :
    InOrder b streamIds (events ++ [notice] ++ queue) := by
  rw [List.append_assoc]
  constructor
  · obtain ⟨hevents, hqueued, hbetween⟩ := List.pairwise_append.mp h.ordered
    rw [List.pairwise_append]
    refine ⟨hevents, List.pairwise_cons.mpr ⟨?_, hqueued⟩, ?_⟩
    · intro event hmember
      refine Or.inr ⟨hstream.trans (hqueue event hmember).symm, fun hpositive => ?_⟩
      rw [hsequence] at hpositive
      exact absurd hpositive (Nat.lt_irrefl 0)
    · intro a ha c hc
      rcases List.mem_cons.mp hc with rfl | hc
      · refine precedes_current hstreamed (h.known a (List.mem_append_left _ ha)) hstream ?_
        intro hpositive
        rw [hsequence] at hpositive
        exact absurd hpositive (Nat.lt_irrefl 0)
      · exact hbetween a ha c hc
  · intro a ha
    rcases List.mem_append.mp ha with hevent | hrest
    · exact h.known a (List.mem_append_left _ hevent)
    · rcases List.mem_cons.mp hrest with rfl | hqueued
      · rw [hstream, hsequence]
        exact ⟨hstreamed.mem, fun _ => Nat.zero_le _⟩
      · exact h.known a (List.mem_append_right _ hqueued)

end InOrder

/-! ## Sessions -/

/-- What a handler still has in hand. -/
def EventStream.pending (s : EventStream) : List PacketEvent :=
  match s.pc with
  | .replaying remaining => remaining
  | .received event => [event]
  | _ => []

/-- A notice of dropped events. -/
def Returned.isNotice : Returned → Bool
  | .notice _ => true
  | _ => false

/-- At most one of two neighbours is a notice. -/
def Alternate (a b : Returned) : Prop := a.isNotice = true → b.isNotice = false

/-- What holds of a handler, its subscription and its ledger. -/
structure Session (b : EventBroker) (streamIds : List String) (subscription : EventSubscription)
    (stream : EventStream) (ledger : StreamLedger) : Prop where
  bufferSize : 1 ≤ subscription.bufferSize
  streamId : subscription.streamId = b.streamId
  queued : ∀ event ∈ subscription.queue, event.streamId = b.streamId
  inOrder : InOrder b streamIds (stream.sent ++ stream.pending ++ subscription.queue)
  counted : ledger.published =
    ledger.taken + subscription.queue.length + ledger.reported + subscription.dropped
  flagged : subscription.deliveredDropNoticeLast =
    (ledger.returned.getLast?.map Returned.isNotice).getD false
  alternating : ledger.returned.IsChain Alternate
  unblocked : 0 < subscription.dropped →
    subscription.deliveredDropNoticeLast = true ∨ stream.pc = .waiting → subscription.queue ≠ []

variable {b : EventBroker} {streamIds : List String} {subscription : EventSubscription}
  {stream : EventStream} {ledger : StreamLedger}

/-- A subscription is full only when something is queued. -/
theorem EventSubscription.queue_of_full (hsize : 1 ≤ subscription.bufferSize)
    (hfull : subscription.full = true) : ∃ first rest, subscription.queue = first :: rest := by
  unfold EventSubscription.full at hfull
  have hlength : subscription.bufferSize ≤ subscription.queue.length := by
    simpa using (Bool.and_eq_true_iff.mp hfull).2
  exact List.exists_cons_of_length_pos (Nat.lt_of_lt_of_le hsize hlength)

theorem alternating_concat {returned : List Returned} {entry : Returned}
    (h : returned.IsChain Alternate)
    (hlast : ∀ last ∈ returned.getLast?, Alternate last entry) :
    (returned ++ [entry]).IsChain Alternate := by
  refine h.append (List.isChain_singleton _) ?_
  intro last hmember first hfirst
  cases hfirst
  exact hlast last hmember

/-! ## The broker publishes and clears -/

/-- Publishing appends to the queue of a session, which may drop its oldest event. -/
theorem Session.publish (h : Session b streamIds subscription stream ledger)
    (hstreamed : Streamed b streamIds) (event : PacketEvent) :
    Session (b.publish event).2 streamIds (subscription.publish (b.sequenced event)) stream
      { ledger with published := ledger.published + 1 } := by
  have hafter := h.inOrder.publish hstreamed event
  have hcounted := h.counted
  unfold EventSubscription.publish
  split
  · next hfull =>
      obtain ⟨first, rest, hqueue⟩ := EventSubscription.queue_of_full h.bufferSize hfull
      refine ⟨h.bufferSize, h.streamId, ?_, ?_, ?_, h.flagged, h.alternating, ?_⟩
      · intro queued hmember
        rcases List.mem_append.mp hmember with hold | hnew
        · exact h.queued queued (List.mem_of_mem_tail hold)
        · rw [List.mem_singleton.mp hnew]
          rfl
      · rw [← List.append_assoc]
        refine hafter.sublist (List.Sublist.append_right ?_ _)
        exact List.Sublist.append_left (List.tail_sublist _) _
      · dsimp only
        rw [hqueue] at hcounted ⊢
        simp only [List.tail_cons, List.length_append, List.length_cons, List.length_nil]
          at hcounted ⊢
        omega
      · intro _ _
        simp
  · refine ⟨h.bufferSize, h.streamId, ?_, ?_, ?_, h.flagged, h.alternating, ?_⟩
    · intro queued hmember
      rcases List.mem_append.mp hmember with hold | hnew
      · exact h.queued queued hold
      · rw [List.mem_singleton.mp hnew]
        rfl
    · rw [← List.append_assoc]
      exact hafter
    · dsimp only
      rw [List.length_append, List.length_singleton]
      omega
    · intro _ _
      simp

/-- Clearing restarts a session. -/
theorem Session.clear (h : Session b streamIds subscription stream ledger) {fresh : String}
    (hfresh : fresh ∉ streamIds) (now : ℚ) :
    Session (b.clear fresh now) (streamIds ++ [fresh]) (subscription.restart fresh now) stream
      ledger.restart := by
  refine ⟨h.bufferSize, rfl, ?_, ?_, rfl, ?_, ?_, ?_⟩
  · intro queued hmember
    rw [List.mem_singleton.mp hmember]
    rfl
  · refine InOrder.clear (h.inOrder.sublist (List.sublist_append_left _ _)) hfresh now rfl rfl
  · unfold StreamLedger.restart
    rw [List.getLast?_concat]
    rfl
  · exact alternating_concat h.alternating fun _ _ _ => rfl
  · intro hdropped
    exact absurd hdropped (Nat.lt_irrefl 0)

/-! ## The handler moves on -/

/-- A handler that keeps its subscription and drops at most what it has in hand. -/
theorem Session.keep (h : Session b streamIds subscription stream ledger) {next : EventStream}
    (hfewer : (next.sent ++ next.pending).Sublist (stream.sent ++ stream.pending))
    (hwaiting : next.pc = .waiting → 0 < subscription.dropped →
      subscription.deliveredDropNoticeLast = true) :
    Session b streamIds subscription next ledger where
  bufferSize := h.bufferSize
  streamId := h.streamId
  queued := h.queued
  inOrder := h.inOrder.sublist (hfewer.append_right _)
  counted := h.counted
  flagged := h.flagged
  alternating := h.alternating
  unblocked := by
    intro hdropped hor
    refine h.unblocked hdropped (Or.inl ?_)
    rcases hor with hflag | hpc
    · exact hflag
    · exact hwaiting hpc hdropped

/-- `next` returns a notice. -/
theorem Session.notice (h : Session b streamIds subscription stream ledger)
    (hstreamed : Streamed b streamIds) {now : ℚ} {event : PacketEvent}
    {after : EventSubscription} (hpc : stream.pc = .looping)
    (hnotice : subscription.notice now = some (event, after)) :
    Session b streamIds after { stream with pc := .received event }
      { ledger with
        reported := ledger.reported + subscription.dropped
        returned := ledger.returned ++ [.notice subscription.dropped] } := by
  have hflagged := h.flagged
  have hcounted := h.counted
  have hinOrder := h.inOrder
  unfold EventStream.pending at hinOrder
  rw [hpc, List.append_nil] at hinOrder
  unfold EventSubscription.notice at hnotice
  split at hnotice
  · next hdue =>
      cases hnotice
      refine ⟨h.bufferSize, h.streamId, h.queued, ?_, ?_, ?_, ?_, ?_⟩
      · exact hinOrder.notice hstreamed h.queued h.streamId rfl
      · dsimp only
        omega
      · rw [List.getLast?_concat]
        rfl
      · refine alternating_concat h.alternating ?_
        intro last hlast hnotice
        rw [hdue.2, hlast, Option.map_some, hnotice] at hflagged
        cases hflagged
      · intro hdropped
        exact absurd hdropped (Nat.lt_irrefl 0)
  · cases hnotice

/-- `next` returns an event of the queue. -/
theorem Session.get (h : Session b streamIds subscription stream ledger)
    {event : PacketEvent} {after : EventSubscription} (hpc : stream.pc = .waiting)
    (hget : subscription.get = some (event, after)) :
    Session b streamIds after { stream with pc := .received event }
      { ledger with taken := ledger.taken + 1, returned := ledger.returned ++ [.event] } := by
  have hcounted := h.counted
  have hinOrder := h.inOrder
  have hqueued := h.queued
  unfold EventStream.pending at hinOrder
  rw [hpc, List.append_nil] at hinOrder
  unfold EventSubscription.get at hget
  split at hget
  · cases hget
  · next first rest hqueue =>
      cases hget
      rw [hqueue] at hcounted hinOrder hqueued
      refine ⟨h.bufferSize, h.streamId, ?_, ?_, ?_, ?_, ?_, ?_⟩
      · exact fun queued hmember => hqueued queued (List.mem_cons_of_mem _ hmember)
      · change InOrder b streamIds (stream.sent ++ [event] ++ rest)
        rw [List.append_assoc]
        exact hinOrder
      · rw [List.length_cons] at hcounted
        dsimp only
        omega
      · rw [List.getLast?_concat]
        rfl
      · exact alternating_concat h.alternating fun _ _ _ => rfl
      · rintro _ (hflag | hwaiting)
        · cases hflag
        · cases hwaiting

/-- What a handler does with an event sends it or drops it. -/
theorem deliver_sublist (stream : EventStream) (event : PacketEvent) :
    ((stream.deliver event).sent ++ (stream.deliver event).pending).Sublist
      (stream.sent ++ [event]) ∧ (stream.deliver event).pc = .looping := by
  unfold EventStream.deliver EventStream.pending
  dsimp only
  split <;> split <;> simp

/-- A step of a handler keeps its session. -/
theorem Session.step (h : Session b streamIds subscription stream ledger)
    (hstreamed : Streamed b streamIds) {input : StreamInput} {next : EventStream}
    {after : EventSubscription} (hstep : stream.step subscription input = some (next, after)) :
    Session b streamIds after next (ledger.note subscription input) := by
  unfold EventStream.step at hstep
  unfold StreamLedger.note
  cases input with
  | sent =>
      dsimp only at hstep
      split at hstep
      · next hpc =>
          cases hstep
          refine h.keep ?_ (fun hwaiting => by cases hwaiting)
          unfold EventStream.pending
          rw [hpc]
      · next event rest hpc =>
          cases hstep
          refine h.keep ?_ (fun hwaiting => by cases hwaiting)
          unfold EventStream.pending
          rw [hpc]
          simp
      · cases hstep
  | next now =>
      dsimp only at hstep ⊢
      split at hstep
      · next hpc =>
          split at hstep
          · next event after hnotice =>
              cases hstep
              rw [hnotice]
              exact h.notice hstreamed hpc hnotice
          · next hnotice =>
              cases hstep
              rw [hnotice]
              refine h.keep ?_ ?_
              · unfold EventStream.pending
                rw [hpc]
              · intro _ hdropped
                by_contra hflag
                unfold EventSubscription.notice at hnotice
                rw [if_pos ⟨hdropped, Bool.eq_false_iff.mpr hflag⟩] at hnotice
                cases hnotice
      · cases hstep
  | got =>
      dsimp only at hstep ⊢
      split at hstep
      · next hpc =>
          obtain ⟨⟨event, after⟩, hget, heq⟩ := Option.map_eq_some_iff.mp hstep
          cases heq
          exact h.get hpc hget
      · cases hstep
  | message =>
      dsimp only at hstep ⊢
      split at hstep
      · next hpc =>
          cases hstep
          refine h.keep ?_ (fun hwaiting => by cases hwaiting)
          unfold EventStream.pending
          rw [hpc]
      · cases hstep
  | deliver =>
      dsimp only at hstep ⊢
      split at hstep
      · next event hpc =>
          cases hstep
          obtain ⟨hfewer, hlooping⟩ := deliver_sublist stream event
          refine h.keep ?_ ?_
          · unfold EventStream.pending at hfewer ⊢
            rw [hpc]
            exact hfewer
          · intro hwaiting
            rw [hlooping] at hwaiting
            cases hwaiting
      · cases hstep

/-! ## A client connects -/

/-- A retained log is in order. -/
theorem Retains.inOrder {log : List PacketEvent} (hretains : Retains b log)
    (hstreamed : Streamed b streamIds) (hlog : ∀ event ∈ log, event.streamId = b.streamId) :
    InOrder b streamIds log := by
  constructor
  · have hnumbers : (log.map (·.sequence)).Pairwise (· < ·) := by
      rw [hretains.numbered]
      exact List.pairwise_lt_range'
    refine (List.pairwise_map.mp hnumbers).imp_of_mem ?_
    intro a c ha hc hlt
    exact Or.inr ⟨(hlog a ha).trans (hlog c hc).symm, fun _ _ => hlt⟩
  · intro event hmember
    rw [hlog event hmember]
    refine ⟨hstreamed.mem, fun _ => ?_⟩
    have hnumber : event.sequence ∈ List.range' 1 log.length := by
      rw [← hretains.numbered]
      exact List.mem_map_of_mem hmember
    rw [hretains.latest]
    have hbelow := (List.mem_range'_1.mp hnumber).2
    omega

/-- A page that is replayed is in order, with its notice. -/
theorem inOrder_replay (hstreamed : Streamed b streamIds) (afterSequence limit : Nat)
    (streamId : Option String) (now : ℚ) :
    InOrder b streamIds ((b.historyPage afterSequence limit streamId).replayNotice now ++
      (b.historyPage afterSequence limit streamId).events) := by
  obtain ⟨log, hretains, hlog⟩ := hstreamed.retained
  have hitems : b.history.items.Sublist log := by
    rw [hretains.held]
    exact List.drop_sublist _ _
  have hevents : (b.historyPage afterSequence limit streamId).events.Sublist log :=
    ((List.take_sublist _ _).trans List.filter_sublist).trans hitems
  have hpage := (hretains.inOrder hstreamed hlog).sublist hevents
  have hcurrent : ∀ event ∈ (b.historyPage afterSequence limit streamId).events,
      event.streamId = b.streamId := fun event hmember => hlog event (hevents.mem hmember)
  have hnotice : ∀ notice : PacketEvent, notice.streamId = b.streamId → notice.sequence = 0 →
      InOrder b streamIds
        ([notice] ++ (b.historyPage afterSequence limit streamId).events) := by
    intro notice hstream hsequence
    rw [← List.nil_append (b.historyPage afterSequence limit streamId).events] at hpage
    exact hpage.notice hstreamed hcurrent hstream hsequence
  unfold EventHistoryPage.replayNotice
  split
  · exact hnotice _ rfl rfl
  · split
    · exact hnotice _ rfl rfl
    · exact hpage

/-- A new session. -/
theorem session_connect (hstreamed : Streamed b streamIds) (now : ℚ) (afterSequence : Nat)
    (streamId : Option String) :
    Session b streamIds (.new b.subscriberBufferSize b.streamId)
      (.replay (b.historyPage afterSequence 5000 streamId) now) {} := by
  refine ⟨hstreamed.bufferSize, rfl, ?_, ?_, rfl, rfl, List.isChain_nil, ?_⟩
  · exact fun event hmember => absurd hmember List.not_mem_nil
  · change InOrder b streamIds ([] ++ _ ++ [])
    rw [List.append_nil, List.nil_append]
    exact inOrder_replay hstreamed afterSequence 5000 streamId now
  · intro hdropped
    exact absurd hdropped (Nat.lt_irrefl 0)

/-! ## All sessions -/

/-- A broker with the same stream. -/
theorem Session.congr (h : Session b streamIds subscription stream ledger) {c : EventBroker}
    (hstreamId : c.streamId = b.streamId) (hsequence : c.sequence = b.sequence) :
    Session c streamIds subscription stream ledger where
  bufferSize := h.bufferSize
  streamId := h.streamId.trans hstreamId.symm
  queued event hmember := (h.queued event hmember).trans hstreamId.symm
  inOrder := ⟨h.inOrder.ordered, fun event hmember => by
    rw [hstreamId, hsequence]
    exact h.inOrder.known event hmember⟩
  counted := h.counted
  flagged := h.flagged
  alternating := h.alternating
  unblocked := h.unblocked

/-- Other subscribers do not matter. -/
theorem Streamed.withSubscribers (h : Streamed b streamIds)
    (subscribers : List EventSubscription) :
    Streamed { b with subscribers := subscribers } streamIds := by
  obtain ⟨log, hretains, hlog⟩ := h.retained
  exact ⟨h.distinct, h.current, ⟨log, ⟨hretains.held, hretains.latest, hretains.numbered⟩, hlog⟩,
    h.bufferSize⟩

theorem Streamed.publish (h : Streamed b streamIds) (event : PacketEvent) :
    Streamed (b.publish event).2 streamIds := by
  obtain ⟨log, hretains, hlog⟩ := h.retained
  refine ⟨h.distinct, h.current, ⟨_, hretains.publish event, ?_⟩, h.bufferSize⟩
  intro published hmember
  rcases List.mem_append.mp hmember with hold | hnew
  · exact hlog published hold
  · rw [List.mem_singleton.mp hnew]
    rfl

theorem Streamed.clear (h : Streamed b streamIds) {fresh : String} (hfresh : fresh ∉ streamIds)
    (now : ℚ) : Streamed (b.clear fresh now) (streamIds ++ [fresh]) := by
  refine ⟨?_, List.getLast?_concat .., ⟨[], .clear fresh now, ?_⟩, h.bufferSize⟩
  · rw [List.nodup_append]
    refine ⟨h.distinct, List.pairwise_singleton _ _, ?_⟩
    intro a ha c hc heq
    rw [List.mem_singleton.mp hc] at heq
    exact hfresh (heq ▸ ha)
  · exact fun event hmember => absurd hmember List.not_mem_nil

namespace EventStreams

/-- Every subscriber has a handler and a ledger, and they belong together. -/
structure Sessions (w : EventStreams) (h : StreamHistory) : Prop where
  streamed : Streamed w.broker h.streamIds
  handlers : w.streams.length = w.broker.subscribers.length
  ledgers : h.ledgers.length = w.broker.subscribers.length
  each : ∀ (i : Nat) (subscription : EventSubscription) (stream : EventStream)
    (ledger : StreamLedger), w.broker.subscribers[i]? = some subscription →
    w.streams[i]? = some stream → h.ledgers[i]? = some ledger →
    Session w.broker h.streamIds subscription stream ledger

variable {w t : EventStreams} {h : StreamHistory}

/-- Publishing reaches every session. -/
theorem Sessions.publish (hsessions : Sessions w h) (event : PacketEvent) :
    Sessions { w with broker := (w.broker.publish event).2 }
      { h with ledgers := h.ledgers.map fun l => { l with published := l.published + 1 } } where
  streamed := hsessions.streamed.publish event
  handlers := hsessions.handlers.trans (List.length_map _).symm
  ledgers := (List.length_map _).trans (hsessions.ledgers.trans (List.length_map _).symm)
  each i subscription stream ledger hsubscription hstream hledger := by
    obtain ⟨before, hbefore, rfl⟩ := Option.map_eq_some_iff.mp (List.getElem?_map ▸ hsubscription)
    obtain ⟨earlier, hearlier, rfl⟩ := Option.map_eq_some_iff.mp (List.getElem?_map ▸ hledger)
    exact (hsessions.each i before stream earlier hbefore hstream hearlier).publish
      hsessions.streamed event

/-- Clearing restarts every session. -/
theorem Sessions.clear (hsessions : Sessions w h) {fresh : String}
    (hfresh : fresh ∉ h.streamIds) (now : ℚ) :
    Sessions { w with broker := w.broker.clear fresh now }
      { streamIds := h.streamIds ++ [fresh], ledgers := h.ledgers.map (·.restart) } where
  streamed := hsessions.streamed.clear hfresh now
  handlers := hsessions.handlers.trans (List.length_map _).symm
  ledgers := (List.length_map _).trans (hsessions.ledgers.trans (List.length_map _).symm)
  each i subscription stream ledger hsubscription hstream hledger := by
    obtain ⟨before, hbefore, rfl⟩ := Option.map_eq_some_iff.mp (List.getElem?_map ▸ hsubscription)
    obtain ⟨earlier, hearlier, rfl⟩ := Option.map_eq_some_iff.mp (List.getElem?_map ▸ hledger)
    exact (hsessions.each i before stream earlier hbefore hstream hearlier).clear hfresh now

/-- A new client has a new session. -/
theorem Sessions.connect (hsessions : Sessions w h) (now : ℚ) (afterSequence : Nat)
    (streamId : Option String) :
    Sessions
      { broker := w.broker.subscribe
        streams := w.streams ++
          [.replay (w.broker.subscribe.historyPage afterSequence 5000 streamId) now] }
      { h with ledgers := h.ledgers ++ [{}] } where
  streamed := hsessions.streamed.withSubscribers _
  handlers := by
    change (w.streams ++ [_]).length = (w.broker.subscribers ++ [_]).length
    rw [List.length_append, List.length_append, hsessions.handlers]
    rfl
  ledgers := by
    change (h.ledgers ++ [_]).length = (w.broker.subscribers ++ [_]).length
    rw [List.length_append, List.length_append, hsessions.ledgers]
    rfl
  each i subscription stream ledger hsubscription hstream hledger := by
    rcases Nat.lt_or_ge i w.broker.subscribers.length with hold | hnew
    · refine (hsessions.each i subscription stream ledger ?_ ?_ ?_).congr rfl rfl
      · exact (List.getElem?_append_left hold).symm.trans hsubscription
      · exact (List.getElem?_append_left (hsessions.handlers ▸ hold)).symm.trans hstream
      · exact (List.getElem?_append_left (hsessions.ledgers ▸ hold)).symm.trans hledger
    · have hlength := (List.getElem?_eq_some_iff.mp hsubscription).1
      have hi : i = w.broker.subscribers.length := by
        change i < (w.broker.subscribers ++ [_]).length at hlength
        rw [List.length_append, List.length_singleton] at hlength
        omega
      have hlastSubscription := hsubscription
      have hlastStream := hstream
      have hlastLedger := hledger
      rw [hi] at hlastSubscription
      rw [hi, ← hsessions.handlers, List.getElem?_concat_length] at hlastStream
      rw [hi, ← hsessions.ledgers, List.getElem?_concat_length] at hlastLedger
      cases hlastStream
      cases hlastLedger
      cases List.getElem?_concat_length.symm.trans hlastSubscription
      exact (session_connect hsessions.streamed now afterSequence streamId).congr rfl rfl

/-- A handler that closes takes its session with it. -/
theorem Sessions.close (hsessions : Sessions w h) (i : Nat) :
    Sessions { broker := w.broker.unsubscribe i, streams := w.streams.eraseIdx i }
      { h with ledgers := h.ledgers.eraseIdx i } where
  streamed := hsessions.streamed.withSubscribers _
  handlers := by
    change (w.streams.eraseIdx i).length = (w.broker.subscribers.eraseIdx i).length
    rw [List.length_eraseIdx, List.length_eraseIdx, hsessions.handlers]
  ledgers := by
    change (h.ledgers.eraseIdx i).length = (w.broker.subscribers.eraseIdx i).length
    rw [List.length_eraseIdx, List.length_eraseIdx, hsessions.ledgers]
  each j subscription stream ledger hsubscription hstream hledger := by
    replace hsubscription : (w.broker.subscribers.eraseIdx i)[j]? = some subscription :=
      hsubscription
    rw [List.getElem?_eraseIdx] at hsubscription hstream hledger
    split at hsubscription
    · next hbefore =>
        rw [if_pos hbefore] at hstream hledger
        exact (hsessions.each j _ _ _ hsubscription hstream hledger).congr rfl rfl
    · next hafter =>
        rw [if_neg hafter] at hstream hledger
        exact (hsessions.each (j + 1) _ _ _ hsubscription hstream hledger).congr rfl rfl

/-- A handler moves on in its session. -/
theorem Sessions.handler (hsessions : Sessions w h) {i : Nat} {input : StreamInput}
    {stream next : EventStream} {subscription after : EventSubscription}
    (hstream : w.streams[i]? = some stream)
    (hsubscription : w.broker.subscribers[i]? = some subscription)
    (hstep : stream.step subscription input = some (next, after)) :
    Sessions
      { broker := { w.broker with subscribers := w.broker.subscribers.set i after }
        streams := w.streams.set i next }
      { h with ledgers := h.ledgers.modify i (·.note subscription input) } where
  streamed := hsessions.streamed.withSubscribers _
  handlers := by
    change (w.streams.set i _).length = (w.broker.subscribers.set i _).length
    rw [List.length_set, List.length_set]
    exact hsessions.handlers
  ledgers := by
    change (h.ledgers.modify i _).length = (w.broker.subscribers.set i _).length
    rw [List.length_modify, List.length_set]
    exact hsessions.ledgers
  each j subscription' stream' ledger' hsubscription' hstream' hledger' := by
    replace hsubscription' : (w.broker.subscribers.set i after)[j]? = some subscription' :=
      hsubscription'
    by_cases hj : i = j
    · subst hj
      rw [List.getElem?_modify] at hledger'
      have hi := (List.getElem?_eq_some_iff.mp hstream).1
      have hi' := (List.getElem?_eq_some_iff.mp hsubscription).1
      rw [List.getElem?_set_self hi] at hstream'
      rw [List.getElem?_set_self hi'] at hsubscription'
      obtain ⟨ledger, hledger, heq⟩ := Option.map_eq_some_iff.mp hledger'
      rw [if_pos rfl] at heq
      cases hstream'
      cases hsubscription'
      cases heq
      exact ((hsessions.each i _ _ _ hsubscription hstream hledger).step hsessions.streamed
        hstep).congr rfl rfl
    · rw [List.getElem?_set_ne hj] at hstream' hsubscription'
      replace hledger' : (h.ledgers.modify i _)[j]? = some ledger' := hledger'
      rw [List.getElem?_modify_ne _ _ hj] at hledger'
      exact (hsessions.each j _ _ _ hsubscription' hstream' hledger').congr rfl rfl

/-- Every step keeps the sessions. -/
theorem Sessions.step (hsessions : Sessions w h) {a : StreamAction}
    (hfresh : FreshStream (w, h) a) (hstep : EventStreams.step w a = some t) :
    Sessions t (note h w a t) := by
  cases a with
  | publish event =>
      cases hstep
      exact hsessions.publish event
  | clear streamId now =>
      cases hstep
      exact hsessions.clear hfresh now
  | connect now afterSequence streamId =>
      cases hstep
      exact hsessions.connect now afterSequence streamId
  | handler i input =>
      obtain ⟨stream, hstream, hstep⟩ := Option.bind_eq_some_iff.mp hstep
      obtain ⟨subscription, hsubscription, hstep⟩ := Option.bind_eq_some_iff.mp hstep
      obtain ⟨⟨next, after⟩, hnext, hstep⟩ := Option.bind_eq_some_iff.mp hstep
      cases hstep
      unfold note
      dsimp only
      rw [hsubscription]
      exact hsessions.handler hstream hsubscription hnext
  | close i =>
      unfold EventStreams.step at hstep
      dsimp only at hstep
      split at hstep
      · cases hstep
        exact hsessions.close i
      · cases hstep

end EventStreams

/-! ## What the client can rely on -/

/-- The sequenced events of one stream have increasing sequence numbers. -/
def Increasing (sent : List PacketEvent) : Prop :=
  ∀ a b, [a, b].Sublist sent → a.streamId = b.streamId → 0 < a.sequence → 0 < b.sequence →
    a.sequence < b.sequence

/-- No stream appears again after another one. -/
def Contiguous (sent : List PacketEvent) : Prop :=
  ∀ a b c, [a, b, c].Sublist sent → a.streamId = c.streamId → b.streamId = a.streamId

theorem InOrder.increasing {events : List PacketEvent} (horder : InOrder b streamIds events) :
    Increasing events := by
  intro a c hboth hsame ha hc
  have hpair := List.pairwise_pair.mp (horder.ordered.sublist hboth)
  rcases hpair with hbefore | ⟨_, hlt⟩
  · rw [hsame] at hbefore
    exact absurd hbefore (Nat.lt_irrefl _)
  · exact hlt ha hc

theorem InOrder.contiguous {events : List PacketEvent} (horder : InOrder b streamIds events) :
    Contiguous events := by
  intro a middle c hall hsame
  have hle : ∀ {x y : PacketEvent}, Precedes streamIds x y →
      streamIds.idxOf x.streamId ≤ streamIds.idxOf y.streamId := by
    rintro x y (hbefore | ⟨heq, _⟩)
    · exact Nat.le_of_lt hbefore
    · rw [heq]
  have hordered := horder.ordered.sublist hall
  obtain ⟨hfirst, hrest⟩ := List.pairwise_cons.mp hordered
  have hmiddle := hle (hfirst middle (by simp))
  have hlast := hle (List.pairwise_pair.mp hrest)
  have hknown := (horder.known middle (hall.mem (by simp))).1
  rw [← hsame] at hlast
  exact (List.idxOf_inj hknown).mp (Nat.le_antisymm hlast hmiddle)

/-- A subscription with unreported drops does not wait. -/
theorem Session.next_isSome (h : Session b streamIds subscription stream ledger)
    (hdropped : 0 < subscription.dropped) (now : ℚ) :
    (subscription.next now).isSome = true ∧
      (stream.pc = .waiting → subscription.get.isSome = true) := by
  have hget : subscription.queue ≠ [] → subscription.get.isSome = true := by
    intro hne
    obtain ⟨first, rest, hqueue⟩ := List.exists_cons_of_ne_nil hne
    unfold EventSubscription.get
    rw [hqueue]
    rfl
  constructor
  · cases hflag : subscription.deliveredDropNoticeLast with
    | false =>
        unfold EventSubscription.next EventSubscription.notice
        rw [if_pos ⟨hdropped, hflag⟩]
        rfl
    | true =>
        unfold EventSubscription.next
        rw [Option.isSome_or, hget (h.unblocked hdropped (Or.inl hflag)), Bool.or_true]
  · exact fun hwaiting => hget (h.unblocked hdropped (Or.inr hwaiting))

namespace EventStreams

section Runs

variable {historySize bufferSize : Nat} {streamId : String} {s : EventStreams × StreamHistory}

/-- A broker before its first client. -/
def fresh (historySize bufferSize : Nat) (streamId : String) : EventStreams × StreamHistory :=
  ({ broker := .new historySize bufferSize streamId }, { streamIds := [streamId] })

theorem sessions_of_run (hbuffer : 1 ≤ bufferSize)
    (hrun : Run (recorded EventStreams.step note) FreshStream
      (fresh historySize bufferSize streamId) s) : Sessions s.1 s.2 := by
  refine hrun.invariant (I := fun u => Sessions u.1 u.2) ?_ ?_
  · rintro u a ⟨v, h⟩ hsessions hfresh hstep
    obtain ⟨hstep, hrecord⟩ := recorded_eq_some.mp hstep
    rw [show h = _ from hrecord]
    exact hsessions.step hfresh hstep
  · refine ⟨⟨List.pairwise_singleton _ _, rfl, ⟨[], retains_new _ _ _, ?_⟩, hbuffer⟩, rfl, rfl, ?_⟩
    · exact fun event hmember => absurd hmember List.not_mem_nil
    · intro i subscription stream ledger hsubscription
      cases hsubscription

/-- For every connection: what was sent is in order, every published event is accounted for,
two notices of drops are not returned in a row unless the subscription was restarted in
between, and `next` does not wait while drops are unreported. -/
theorem delivery_of_run (hbuffer : 1 ≤ bufferSize)
    (hrun : Run (recorded EventStreams.step note) FreshStream
      (fresh historySize bufferSize streamId) s) {i : Nat} {stream : EventStream}
    (hstream : s.1.streams[i]? = some stream) :
    ∃ subscription ledger, s.1.broker.subscribers[i]? = some subscription ∧
      s.2.ledgers[i]? = some ledger ∧
      Increasing stream.sent ∧ Contiguous stream.sent ∧
      ledger.published =
        ledger.taken + subscription.queue.length + ledger.reported + subscription.dropped ∧
      ledger.returned.IsChain Alternate ∧
      (0 < subscription.dropped → ∀ now, (subscription.next now).isSome = true ∧
        (stream.pc = .waiting → subscription.get.isSome = true)) := by
  have hsessions := sessions_of_run hbuffer hrun
  have hi := (List.getElem?_eq_some_iff.mp hstream).1
  have hi' : i < s.1.broker.subscribers.length := hsessions.handlers ▸ hi
  have hi'' : i < s.2.ledgers.length := hsessions.ledgers ▸ hi'
  have hsession := hsessions.each i _ _ _ (List.getElem?_eq_getElem hi') hstream
    (List.getElem?_eq_getElem hi'')
  have hsent := hsession.inOrder.sublist
    ((List.sublist_append_left _ _).trans (List.sublist_append_left _ _))
  exact ⟨_, _, List.getElem?_eq_getElem hi', List.getElem?_eq_getElem hi'', hsent.increasing,
    hsent.contiguous, hsession.counted, hsession.alternating,
    fun hdropped now => hsession.next_isSome hdropped now⟩

end Runs

/-! ## Notices on both sides of a restart -/

section Restart

def trafficEvent : PacketEvent := { monotonicSeconds := 0, eventType := .traffic }

/-- A slow client of a buffer of one event is told of a drop, the stream restarts, and the
client is told of the next drop. -/
def droppedTwice : List StreamAction :=
  [.connect 0 0 none,
    .handler 0 .sent,
    .publish trafficEvent,
    .publish trafficEvent,
    .handler 0 (.next 0),
    .handler 0 .deliver,
    .clear "b" 0,
    .publish trafficEvent,
    .handler 0 (.next 0),
    .handler 0 .deliver]

instance (s : EventStreams × StreamHistory) (a : StreamAction) : Decidable (FreshStream s a) :=
  match a with
  | .clear streamId _ => inferInstanceAs (Decidable (streamId ∉ s.2.streamIds))
  | .publish _ | .connect .. | .handler .. | .close _ => .isTrue trivial

/-- The client has been sent two notices of drops and no event. -/
theorem notices_in_a_row :
    ∃ s stream ledger,
      Run (recorded EventStreams.step note) FreshStream (fresh 4 1 "a") s ∧
      s.1.streams[0]? = some stream ∧ s.2.ledgers[0]? = some ledger ∧
      stream.sent.map (·.result) = [some "dropped", some "dropped"] ∧
      ¬(ledger.returned.filter (· ≠ .restarted)).IsChain Alternate := by
  have hstate : (exec (recorded EventStreams.step note) droppedTwice (fresh 4 1 "a")).map
      (fun s => (s.1.streams[0]?.map fun stream => stream.sent.map (·.result),
        s.2.ledgers[0]?.map (·.returned))) =
      some (some [some "dropped", some "dropped"],
        some [.notice 1, .restarted, .notice 1]) := by
    decide +kernel
  have hfresh : Conforms (recorded EventStreams.step note) FreshStream droppedTwice
      (fresh 4 1 "a") := by
    decide +kernel
  obtain ⟨s, hexec, hstate⟩ := Option.map_eq_some_iff.mp hstate
  obtain ⟨hsent, hreturned⟩ := Prod.mk.inj hstate
  obtain ⟨stream, hstream, hsent⟩ := Option.map_eq_some_iff.mp hsent
  obtain ⟨ledger, hledger, hreturned⟩ := Option.map_eq_some_iff.mp hreturned
  refine ⟨s, stream, ledger, .of_exec hexec hfresh, hstream, hledger, hsent, ?_⟩
  rw [hreturned]
  intro halternate
  exact absurd ((List.isChain_cons_cons.mp halternate).1 rfl) (by decide)

/-- In the same run every loss is accounted for: the marker is published, dropped and
reported, and the last event is queued. -/
theorem dropped_twice_accounted :
    ∃ s ledger, exec (recorded EventStreams.step note) droppedTwice (fresh 4 1 "a") = some s ∧
      s.2.ledgers[0]? = some ledger ∧ ledger.published = 2 ∧ ledger.reported = 1 ∧
      ledger.returned.IsChain Alternate := by
  have hstate : (exec (recorded EventStreams.step note) droppedTwice (fresh 4 1 "a")).map
      (fun s => (s.1.streams[0]?.isSome,
        s.2.ledgers[0]?.map fun ledger => (ledger.published, ledger.reported))) =
      some (true, some (2, 1)) := by
    decide +kernel
  have hfresh : Conforms (recorded EventStreams.step note) FreshStream droppedTwice
      (fresh 4 1 "a") := by
    decide +kernel
  obtain ⟨s, hexec, hstate⟩ := Option.map_eq_some_iff.mp hstate
  obtain ⟨hsome, hcounts⟩ := Prod.mk.inj hstate
  obtain ⟨stream, hstream⟩ := Option.isSome_iff_exists.mp hsome
  obtain ⟨ledger, hledger, hcounts⟩ := Option.map_eq_some_iff.mp hcounts
  obtain ⟨_, ledger', _, hledger', _, _, _, halternating, _⟩ :=
    delivery_of_run (by decide) (.of_exec hexec hfresh) hstream
  rw [hledger] at hledger'
  cases hledger'
  obtain ⟨hpublished, hreported⟩ := Prod.mk.inj hcounts
  exact ⟨s, ledger, hexec, hledger, hpublished, hreported, halternating⟩

end Restart

end EventStreams

end MeshtasticLab.Metrics

/-
  Metrics/History.lean --- what a reconnecting client learns from the history.

  The broker keeps the last `maxlen` events of the current stream.  With the
  events of the stream written out as a log (`streamEvents`), the retained ones
  are a suffix of it, and sequence numbers are positions in it, so a cursor is a
  position too and every page is a slice of the log.

  A cursor of zero is the exception the code makes on purpose: `history_page`
  never reports a gap for it.
-/
import MeshtasticLab.Metrics.Events

set_option autoImplicit false

namespace MeshtasticLab.Metrics

open MeshtasticLab.Foundation

/-! ## Runs of a broker -/

/-- One call that changes what the broker retains. -/
inductive BrokerCall where
  | publish (event : PacketEvent)
  | clear (streamId : String) (now : ℚ)
  deriving DecidableEq, Repr

/-- The broker after one call. -/
def EventBroker.call (b : EventBroker) : BrokerCall → EventBroker
  | .publish event => (b.publish event).2
  | .clear streamId now => b.clear streamId now

/-- The broker after a sequence of calls. -/
def EventBroker.calls (b : EventBroker) (cs : List BrokerCall) : EventBroker :=
  cs.foldl EventBroker.call b

/-- The events of the current stream: what `publish` returned since the last
`clear`, given what it had returned before. -/
def EventBroker.streamEvents (b : EventBroker) (log : List PacketEvent) :
    List BrokerCall → List PacketEvent
  | [] => log
  | .publish event :: rest =>
      (b.call (.publish event)).streamEvents (log ++ [b.sequenced event]) rest
  | .clear streamId now :: rest =>
      (b.call (.clear streamId now)).streamEvents [] rest

/-- The broker retains the end of `log`, and sequence numbers count along it. -/
structure Retains (b : EventBroker) (log : List PacketEvent) : Prop where
  held : b.history.Holds log
  latest : b.sequence = log.length
  numbered : log.map (·.sequence) = List.range' 1 log.length

theorem retains_new (historySize bufferSize : Nat) (streamId : String) :
    Retains (.new historySize bufferSize streamId) [] where
  held := BoundedDeque.holds_empty _
  latest := rfl
  numbered := rfl

/-- Publishing extends the log by one event. -/
theorem Retains.publish {b : EventBroker} {log : List PacketEvent} (h : Retains b log)
    (event : PacketEvent) : Retains (b.publish event).2 (log ++ [b.sequenced event]) where
  held := h.held.append _
  latest := by simp [EventBroker.publish, h.latest]
  numbered := by
    simp [h.numbered, EventBroker.sequenced, h.latest, List.range'_concat, Nat.add_comm]

/-- Clearing starts an empty log. -/
theorem Retains.clear {b : EventBroker} (streamId : String) (now : ℚ) :
    Retains (b.clear streamId now) [] where
  held := BoundedDeque.holds_clear _
  latest := rfl
  numbered := rfl

/-- After any calls the broker retains the end of the current stream. -/
theorem Retains.calls {b : EventBroker} {log : List PacketEvent} (h : Retains b log)
    (cs : List BrokerCall) : Retains (b.calls cs) (b.streamEvents log cs) := by
  induction cs generalizing b log with
  | nil => exact h
  | cons c rest ih =>
      cases c with
      | publish event => exact ih (h.publish event)
      | clear streamId now => exact ih (.clear streamId now)

theorem maxlen_call (b : EventBroker) (c : BrokerCall) :
    (b.call c).history.maxlen = b.history.maxlen := by
  cases c <;> rfl

theorem maxlen_calls (b : EventBroker) (cs : List BrokerCall) :
    (b.calls cs).history.maxlen = b.history.maxlen := by
  induction cs generalizing b with
  | nil => rfl
  | cons c rest ih =>
      change ((b.call c).calls rest).history.maxlen = _
      rw [ih, maxlen_call]

/-! ## Pages are slices of the log -/

/-- The number of events of the stream that are no longer retained. -/
def EventBroker.forgotten (b : EventBroker) (log : List PacketEvent) : Nat :=
  log.length - b.history.maxlen

/-- In a numbered list, the events behind a cursor are a suffix. -/
theorem filter_behind_cursor {log : List PacketEvent} (start : Nat) {cursor : Nat}
    (h : log.map (·.sequence) = List.range' (start + 1) log.length) :
    (log.filter fun event => cursor < event.sequence) = log.drop (cursor - start) := by
  induction log generalizing start with
  | nil => simp
  | cons event rest ih =>
      simp only [List.map_cons, List.length_cons, List.range'_succ, List.cons.injEq] at h
      obtain ⟨hfirst, hrest⟩ := h
      rw [List.filter_cons, ih _ hrest, hfirst]
      by_cases hcursor : cursor < start + 1
      · rw [if_pos (by simpa using hcursor), show cursor - start = 0 by omega,
          show cursor - (start + 1) = 0 by omega, List.drop_zero, List.drop_zero]
      · rw [if_neg (by simpa using hcursor),
          show cursor - start = (cursor - (start + 1)) + 1 by omega, List.drop_succ_cons]

theorem numbered_drop {log : List PacketEvent}
    (h : log.map (·.sequence) = List.range' 1 log.length) (k : Nat) :
    (log.drop k).map (·.sequence) = List.range' (k + 1) (log.drop k).length := by
  rw [List.map_drop, h, List.drop_range', List.length_drop, Nat.mul_one, Nat.add_comm]

variable {b : EventBroker} {log : List PacketEvent}

/-- The retained events behind a cursor. -/
theorem Retains.behind (h : Retains b log) (cursor : Nat) :
    (b.history.items.filter fun event => cursor < event.sequence) =
      log.drop (max (b.forgotten log) cursor) := by
  rw [h.held, List.rtake]
  change (List.filter _ (log.drop (b.forgotten log))) = _
  rw [filter_behind_cursor _ (numbered_drop h.numbered _), List.drop_drop]
  congr 1
  omega

theorem Retains.sequence_getElem (h : Retains b log) {i : Nat} (hi : i < log.length) :
    log[i].sequence = i + 1 := by
  have hget : (log.map (·.sequence))[i]? = (List.range' 1 log.length)[i]? := by
    rw [h.numbered]
  simp only [List.getElem?_map, List.getElem?_eq_getElem hi, Option.map_some,
    List.getElem?_range' (by simpa using hi), Option.some.injEq] at hget
  omega

/-- The page a client with cursor `n` on the current stream receives. -/
theorem Retains.page_events (h : Retains b log) (n limit : Nat) :
    (b.historyPage n limit (some b.streamId)).events =
      (log.drop (max (b.forgotten log) n)).take limit := by
  simp [EventBroker.historyPage, h.behind]

/-- The last sequence on a page, if the page has an event. -/
theorem Retains.page_last (h : Retains b log) {n limit : Nat} (hlimit : 0 < limit) :
    (b.historyPage n limit (some b.streamId)).events.getLast?.map (·.sequence) =
      if max (b.forgotten log) n < log.length then
        some (min (max (b.forgotten log) n + limit) log.length)
      else none := by
  rw [h.page_events]
  generalize max (b.forgotten log) n = from_
  split
  · next hfrom =>
      have hidx : min (from_ + limit) log.length - 1 < log.length := by omega
      have hlast : ((log.drop from_).take limit).getLast? =
          log[min (from_ + limit) log.length - 1]? := by
        rw [List.getLast?_eq_getElem?, List.getElem?_take, List.getElem?_drop]
        simp only [List.length_take, List.length_drop]
        rw [if_pos (by omega)]
        congr 1
        omega
      rw [hlast, List.getElem?_eq_getElem hidx, Option.map_some, h.sequence_getElem hidx]
      congr 1
      omega
  · next hfrom => simp [List.drop_eq_nil_of_le (Nat.le_of_not_lt hfrom)]

theorem Retains.page_hasMore (h : Retains b log) {n limit : Nat} (hlimit : 0 < limit) :
    (b.historyPage n limit (some b.streamId)).hasMore =
      decide (max (b.forgotten log) n + limit < log.length) := by
  have hmore : (b.historyPage n limit (some b.streamId)).hasMore =
      ((b.historyPage n limit (some b.streamId)).events.getLast?.map (·.sequence)).any
        fun last => last < b.sequence := by
    rw [Option.any_map]
    rfl
  rw [hmore, h.page_last hlimit, h.latest]
  split
  · next hfrom =>
      rw [Option.any_some]
      congr 1
      simp only [eq_iff_iff]
      omega
  · next hfrom =>
      symm
      rw [Option.any_none, decide_eq_false_iff_not]
      omega

/-! ## Gaps -/

/-- The oldest retained event, when the broker can retain any. -/
theorem Retains.first_available (h : Retains b log) (hsize : 1 ≤ b.history.maxlen) :
    b.history.items.head?.map (·.sequence) =
      if log = [] then none else some (b.forgotten log + 1) := by
  rw [h.held, List.rtake, List.head?_drop]
  change (log[b.forgotten log]?).map _ = _
  split
  · next hempty => simp [hempty]
  · next hnonempty =>
      have hlength := List.length_pos_of_ne_nil hnonempty
      have hidx : b.forgotten log < log.length := by
        unfold EventBroker.forgotten
        omega
      rw [List.getElem?_eq_getElem hidx, Option.map_some, h.sequence_getElem hidx]

/-- A gap is reported for a positive cursor that lies before the retained
events. -/
theorem Retains.page_gap (h : Retains b log) (hsize : 1 ≤ b.history.maxlen) (n limit : Nat) :
    (b.historyPage n limit (some b.streamId)).historyGap = true ↔
      0 < n ∧ n < b.forgotten log := by
  have hgap : (b.historyPage n limit (some b.streamId)).historyGap =
      (decide (0 < n) && (b.history.items.head?.map (·.sequence)).any
        fun first => n < first - 1) := by
    simp [EventBroker.historyPage]
  rw [hgap, h.first_available hsize]
  split
  · next hempty => simp [hempty, EventBroker.forgotten]
  · simp

/-- The broker has lost an event behind the cursor: one of the stream that is
no longer retained. -/
def EventBroker.Lost (b : EventBroker) (log : List PacketEvent) (n : Nat) : Prop :=
  ∃ event ∈ log, n < event.sequence ∧ event ∉ b.history.items

theorem Retains.lost_iff (h : Retains b log) (n : Nat) :
    b.Lost log n ↔ n < b.forgotten log := by
  have hitems : b.history.items = log.drop (b.forgotten log) := h.held
  constructor
  · rintro ⟨event, hmember, hbehind, hgone⟩
    obtain ⟨i, hi, rfl⟩ := List.getElem_of_mem hmember
    rw [h.sequence_getElem hi] at hbehind
    by_contra hle
    apply hgone
    rw [hitems]
    exact List.mem_drop_iff_getElem.mpr ⟨i - b.forgotten log, by omega, by
      simp only [show b.forgotten log + (i - b.forgotten log) = i by omega]⟩
  · intro hlt
    have hforgotten : b.forgotten log ≤ log.length := Nat.sub_le _ _
    have hn : n < log.length := by omega
    refine ⟨log[n], List.getElem_mem hn, by rw [h.sequence_getElem hn]; omega, ?_⟩
    rw [hitems]
    intro hretained
    obtain ⟨j, hj, heq⟩ := List.mem_drop_iff_getElem.mp hretained
    have hsequence := congrArg (·.sequence) heq
    simp only [h.sequence_getElem (i := b.forgotten log + j) (by omega),
      h.sequence_getElem hn] at hsequence
    omega

/-! ## Replay -/

/-- The cursor a client holds after a page: the last returned sequence. -/
def EventHistoryPage.cursorAfter (page : EventHistoryPage) (cursor : Nat) : Nat :=
  (page.events.getLast?.map (·.sequence)).getD cursor

/-- The requests of a client that follows `has_more` from a cursor on the
current stream: each with the cursor it carried and the page it got. -/
def EventBroker.replay (b : EventBroker) : List Nat → Nat → List (Nat × EventHistoryPage)
  | [], _ => []
  | limit :: rest, cursor =>
      let page := b.historyPage cursor limit (some b.streamId)
      (cursor, page) ::
        if page.hasMore then b.replay rest (page.cursorAfter cursor) else []

theorem Retains.cursorAfter (h : Retains b log) (hsize : 1 ≤ b.history.maxlen)
    {n limit : Nat} (hlimit : 0 < limit) (hn : n ≤ log.length) :
    (b.historyPage n limit (some b.streamId)).cursorAfter n =
      min (max (b.forgotten log) n + limit) log.length := by
  have hforgotten : b.forgotten log = log.length - b.history.maxlen := rfl
  rw [EventHistoryPage.cursorAfter, h.page_last hlimit]
  split
  · next hfrom => rfl
  · next hfrom =>
      have hend : n = log.length := by omega
      rw [Option.getD_none, Nat.min_eq_right (by omega)]
      exact hend

/-- A page has no successor exactly when it brings the client to the latest
event. -/
theorem Retains.hasMore_iff (h : Retains b log) (hsize : 1 ≤ b.history.maxlen)
    {n limit : Nat} (hlimit : 0 < limit) (hn : n ≤ log.length) :
    (b.historyPage n limit (some b.streamId)).hasMore = true ↔
      (b.historyPage n limit (some b.streamId)).cursorAfter n ≠ b.sequence := by
  rw [h.page_hasMore hlimit, h.cursorAfter hsize hlimit hn, h.latest, decide_eq_true_iff]
  omega

/-- What a completed replay is: every request but the last has a successor and
stops short of the latest event, and the last one reaches it. -/
structure EventBroker.Completes (b : EventBroker) (requests : List (Nat × EventHistoryPage))
    (events : List PacketEvent) : Prop where
  content : (requests.flatMap fun request => request.2.events) = events
  ends : ∃ earlier final, requests = earlier ++ [final] ∧
    (∀ request ∈ earlier,
      request.2.hasMore = true ∧ request.2.cursorAfter request.1 ≠ b.sequence) ∧
    final.2.hasMore = false ∧ final.2.cursorAfter final.1 = b.sequence

/-- A replay may end with a page that reaches the latest event. -/
theorem EventBroker.Completes.single {cursor : Nat} {page : EventHistoryPage}
    (hmore : page.hasMore = false) (hreach : page.cursorAfter cursor = b.sequence) :
    b.Completes [(cursor, page)] page.events where
  content := by simp
  ends := ⟨[], (cursor, page), rfl, by simp, hmore, hreach⟩

/-- A page with a successor goes before a completed replay. -/
theorem EventBroker.Completes.cons {requests : List (Nat × EventHistoryPage)}
    {events : List PacketEvent} (h : b.Completes requests events) {cursor : Nat}
    {page : EventHistoryPage} (hmore : page.hasMore = true)
    (hshort : page.cursorAfter cursor ≠ b.sequence) :
    b.Completes ((cursor, page) :: requests) (page.events ++ events) := by
  obtain ⟨earlier, final, hsplit, hearlier, hfinal⟩ := h.ends
  constructor
  · rw [List.flatMap_cons, h.content]
  · refine ⟨(cursor, page) :: earlier, final, by rw [hsplit]; rfl, ?_, hfinal⟩
    intro request hmember
    rcases List.mem_cons.mp hmember with rfl | hmember
    · exact ⟨hmore, hshort⟩
    · exact hearlier request hmember

/-- Enough requests bring every retained event behind the cursor, once and in
order. -/
theorem Retains.replay (h : Retains b log) (hsize : 1 ≤ b.history.maxlen)
    (limits : List Nat) {n : Nat} (hn : n ≤ log.length)
    (hlimits : ∀ limit ∈ limits, 1 ≤ limit) (henough : log.length - n < limits.length) :
    b.Completes (b.replay limits n) (log.drop (max (b.forgotten log) n)) := by
  induction limits generalizing n with
  | nil => simp at henough
  | cons limit rest ih =>
      have hlimit : 0 < limit := hlimits limit List.mem_cons_self
      have hiff := h.hasMore_iff hsize hlimit hn
      have hcursor := h.cursorAfter hsize hlimit hn
      have hmore := h.page_hasMore (n := n) hlimit
      have hevents := h.page_events n limit
      unfold EventBroker.replay
      generalize b.historyPage n limit (some b.streamId) = page at hiff hcursor hmore hevents ⊢
      cases hpage : page.hasMore with
      | true =>
          have hbound : max (b.forgotten log) n + limit < log.length := by
            rw [hpage] at hmore
            exact of_decide_eq_true hmore.symm
          have hnext : max (b.forgotten log) (page.cursorAfter n) =
              max (b.forgotten log) n + limit := by
            rw [hcursor]
            omega
          have hrest := ih (n := page.cursorAfter n) (by rw [hcursor]; omega)
            (fun limit hmember => hlimits limit (List.mem_cons_of_mem _ hmember))
            (by rw [hcursor]; simp only [List.length_cons] at henough; omega)
          have hsplit : log.drop (max (b.forgotten log) n) =
              page.events ++ log.drop (max (b.forgotten log) (page.cursorAfter n)) := by
            rw [hevents, hnext, ← List.drop_drop, List.take_append_drop]
          simp only [hpage, if_true]
          rw [hsplit]
          exact hrest.cons hpage (hiff.mp hpage)
      | false =>
          have hbound : log.length ≤ max (b.forgotten log) n + limit := by
            rw [hpage] at hmore
            exact Nat.le_of_not_lt (of_decide_eq_false hmore.symm)
          have hreach : page.cursorAfter n = b.sequence := by
            by_contra hshort
            rw [hiff.mpr hshort] at hpage
            cases hpage
          have hwhole : log.drop (max (b.forgotten log) n) = page.events := by
            rw [hevents, List.take_of_length_le (by rw [List.length_drop]; omega)]
          simp only [hpage, Bool.false_eq_true, if_false]
          rw [hwhole]
          exact .single hpage hreach

/-! ## What a reconnecting client can rely on -/

/-- A positive cursor is told of a gap exactly when the broker has lost an event
behind it; paging from any cursor brings the retained events behind it, which
are all of them when none is lost. -/
theorem reconnect_replay (historySize bufferSize n : Nat) (streamId : String)
    (cs : List BrokerCall) (hsize : 1 ≤ historySize)
    (hcursor : n ≤ ((EventBroker.new historySize bufferSize streamId).calls cs).sequence) :
    let b := (EventBroker.new historySize bufferSize streamId).calls cs
    let log := (EventBroker.new historySize bufferSize streamId).streamEvents [] cs
    (∀ limit, (b.historyPage n limit (some b.streamId)).historyGap = true ↔
      0 < n ∧ b.Lost log n) ∧
    ∀ limits : List Nat, (∀ limit ∈ limits, 1 ≤ limit) → b.sequence - n < limits.length →
      b.Completes (b.replay limits n)
        (b.history.items.filter fun event => n < event.sequence) ∧
      (¬b.Lost log n →
        b.Completes (b.replay limits n) (log.filter fun event => n < event.sequence) ∧
        (log.filter fun event => n < event.sequence).map (·.sequence) =
          List.range' (n + 1) (b.sequence - n)) := by
  intro b log
  have h : Retains b log := (retains_new historySize bufferSize streamId).calls cs
  have hmaxlen : 1 ≤ b.history.maxlen := by
    rw [show b.history.maxlen = historySize from maxlen_calls _ cs]
    exact hsize
  have hn : n ≤ log.length := by
    rw [← h.latest]
    exact hcursor
  constructor
  · intro limit
    rw [h.page_gap hmaxlen, h.lost_iff]
  · intro limits hlimits henough
    have hreplay := h.replay hmaxlen limits hn hlimits (by rwa [← h.latest])
    constructor
    · rw [h.behind]
      exact hreplay
    · intro hkept
      rw [h.lost_iff, Nat.not_lt] at hkept
      have hbehind : (log.filter fun event => n < event.sequence) = log.drop n := by
        rw [filter_behind_cursor 0 h.numbered, Nat.sub_zero]
      rw [hbehind, numbered_drop h.numbered, List.length_drop, h.latest]
      rw [Nat.max_eq_right hkept] at hreplay
      exact ⟨hreplay, rfl⟩

/-- A broker that keeps two of three events, asked from cursor one: nothing
behind the cursor is lost, and two pages of one event bring it all. -/
theorem reconnect_replay_two_pages :
    let b := (EventBroker.new 2 4 "a").calls
      (List.replicate 3 (.publish { monotonicSeconds := 0, eventType := .traffic }))
    (b.historyPage 1 1 (some b.streamId)).historyGap = false ∧
      b.Completes (b.replay [1, 1, 1] 1)
        (b.history.items.filter fun event => 1 < event.sequence) := by
  have hreplay := reconnect_replay 2 4 1 "a"
    (List.replicate 3 (.publish { monotonicSeconds := 0, eventType := .traffic }))
    (by decide) (by decide)
  exact ⟨by decide, (hreplay.2 [1, 1, 1] (by decide) (by decide)).1⟩

/-- A cursor of zero is told of no gap though the first event is gone. -/
theorem zero_cursor_silent :
    ¬∀ (historySize bufferSize n limit : Nat) (streamId : String) (cs : List BrokerCall),
      1 ≤ historySize →
      n ≤ ((EventBroker.new historySize bufferSize streamId).calls cs).sequence →
      ((((EventBroker.new historySize bufferSize streamId).calls cs).historyPage n limit
          (some ((EventBroker.new historySize bufferSize streamId).calls cs).streamId)).historyGap =
            true ↔
        ((EventBroker.new historySize bufferSize streamId).calls cs).Lost
          ((EventBroker.new historySize bufferSize streamId).streamEvents [] cs) n) := by
  intro hclaim
  have hzero := hclaim 1 4 0 10 "a"
    (List.replicate 2 (.publish { monotonicSeconds := 0, eventType := .traffic }))
    (by decide) (by decide)
  revert hzero
  unfold EventBroker.Lost
  decide

end MeshtasticLab.Metrics

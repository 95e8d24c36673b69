/-
  Frontend/PageProgress.lean --- the handler of a page misses nothing in silence.

  The duplicate check of the handler of a page never applies (`Attentive`), so all that is
  queued for the page is sent.  What is on its way brings the page to the end of the
  stream, and is gapless as long as the queue has dropped nothing; what it has dropped is
  told before the next event is taken (`Tracks`).
-/
import MeshtasticLab.Frontend.PagePositions

set_option autoImplicit false

namespace MeshtasticLab.Frontend

open MeshtasticLab.Foundation MeshtasticLab.Metrics

/-! ## Nothing is skipped -/

/-- The event that the handler has taken and not sent yet. -/
def received (stream : EventStream) : List PacketEvent :=
  match stream.pc with
  | .received event => [event]
  | _ => []

/-- What is taken or queued is not behind what the handler has sent of its stream. -/
structure Attentive (b : EventBroker) (streamIds : List String) (stream : EventStream)
    (subscription : EventSubscription) : Prop where
  known : stream.sentStreamId ∈ streamIds
  bounded : stream.sentStreamId = b.streamId → stream.sentSequence ≤ b.sequence
  unsent : ∀ event ∈ received stream ++ subscription.queue, ¬Skips stream event

section Attentive

variable {b : EventBroker} {streamIds : List String} {stream next : EventStream}
  {subscription after : EventSubscription} {ledger : StreamLedger}
  {inbox inbox' : List PacketEvent}

/-- A step of the handler. -/
theorem Attentive.handled (h : Attentive b streamIds stream subscription)
    (hsession : Session b streamIds subscription stream ledger)
    (hmove : HandlerMove stream subscription inbox next after inbox') :
    Attentive b streamIds next after := by
  have hqueue : ∀ event ∈ subscription.queue, ¬Skips stream event := fun event hmember =>
    h.unsent event (List.mem_append_right _ hmember)
  cases hmove with
  | replayed event rest hpc => exact ⟨h.known, h.bounded, hqueue⟩
  | looped hpc => exact ⟨h.known, h.bounded, hqueue⟩
  | noticed now hpc hdue =>
      refine ⟨h.known, h.bounded, ?_⟩
      intro event hmember
      rcases List.mem_cons.mp hmember with rfl | hqueued
      · exact fun hskips => absurd hskips.2.1 (Nat.lt_irrefl 0)
      · exact hqueue event hqueued
  | waited hpc hdue => exact ⟨h.known, h.bounded, hqueue⟩
  | got event rest hpc hqueued =>
      refine ⟨h.known, h.bounded, ?_⟩
      rw [hqueued] at hqueue
      exact hqueue
  | delivered event hpc hkept =>
      have hpending : stream.pending = [event] := by
        simp [EventStream.pending, hpc]
      have hinOrder := hsession.inOrder
      rw [hpending] at hinOrder
      obtain ⟨hknown, hbound⟩ := hinOrder.known event (by simp)
      refine ⟨hknown, ?_, ?_⟩
      · intro hcurrent
        change (if _ then _ else _) ≤ _
        split
        · next hsame => exact max_le (h.bounded (hsame.symm.trans hcurrent)) (hbound hcurrent)
        · exact hbound hcurrent
      · rintro later hmember ⟨hstream, hpositive, hbehind⟩
        -- The later event is behind the one that is sent now in the order of the stream.
        have hordered := (List.pairwise_append.mp hinOrder.ordered).2.2 event (by simp) later
          hmember
        have hlater : 0 < event.sequence → event.sequence < later.sequence := by
          intro hsent
          rcases hordered with hother | ⟨-, hnumbers⟩
          · rw [hstream] at hother
            exact absurd hother (lt_irrefl _)
          · exact hnumbers hsent hpositive
        change _ ≤ (if _ then _ else _) at hbehind
        split at hbehind
        · next hsame =>
            refine hqueue later hmember ⟨hstream.trans hsame, hpositive, ?_⟩
            exact (le_max_iff.mp hbehind).resolve_right fun hle => by omega
        · omega
  | skipped event hpc hskips =>
      refine absurd hskips (h.unsent event ?_)
      simp [received, hpc]

/-- A published event. -/
theorem Attentive.publish (h : Attentive b streamIds stream subscription)
    (event : PacketEvent) :
    Attentive (b.publish event).2 streamIds stream
      (subscription.publish (b.sequenced event)) where
  known := h.known
  bounded hcurrent := (h.bounded hcurrent).trans (Nat.le_succ _)
  unsent other hmember := by
    rcases List.mem_append.mp hmember with hreceived | hqueued
    · exact h.unsent other (List.mem_append_left _ hreceived)
    · rcases mem_publish hqueued with hold | rfl
      · exact h.unsent other (List.mem_append_right _ hold)
      · rintro ⟨hstream, -, hbehind⟩
        exact absurd (hbehind.trans (h.bounded hstream.symm)) (Nat.not_succ_le_self _)

/-- A new stream. -/
theorem Attentive.clear (h : Attentive b streamIds stream subscription) {fresh : String}
    (hfresh : fresh ∉ streamIds) (now : ℚ) :
    Attentive (b.clear fresh now) (streamIds ++ [fresh]) stream
      (subscription.restart fresh now) where
  known := List.mem_append_left _ h.known
  bounded hcurrent := absurd h.known (by rwa [show stream.sentStreamId = fresh from hcurrent])
  unsent event hmember := by
    rcases List.mem_append.mp hmember with hreceived | hmarker
    · exact h.unsent event (List.mem_append_left _ hreceived)
    · rw [List.mem_singleton.mp hmarker]
      exact fun hskips => absurd hskips.2.1 (Nat.lt_irrefl 0)

/-- A new handler. -/
theorem attentive_replay (hcurrent : b.streamId ∈ streamIds) (afterSequence limit : ℕ)
    (streamId : Option String) (now : ℚ) :
    Attentive b streamIds (.replay (b.historyPage afterSequence limit streamId) now)
      (.new b.subscriberBufferSize b.streamId) where
  known := hcurrent
  bounded _ := le_refl _
  unsent _ hmember := by cases hmember

/-- A step of the server. -/
theorem Attentive.linkStep {c : EventBroker} {l k : Link} {a : StreamAction}
    {more : List String} (hstep : LinkStep b l a c k)
    (hl : ∀ stream subscription, l.session = some (stream, subscription) →
      Attentive b streamIds stream subscription ∧
        ∃ ledger, Session b streamIds subscription stream ledger)
    (hfresh : ∀ streamId now, a = .clear streamId now →
      streamId ∉ streamIds ∧ more = [streamId]) :
    ∀ stream subscription, k.session = some (stream, subscription) →
      Attentive c (streamIds ++ more) stream subscription := by
  intro stream subscription hsession
  have hwider : ∀ {broker : EventBroker} {stream : EventStream}
      {subscription : EventSubscription}, Attentive broker streamIds stream subscription →
      Attentive broker (streamIds ++ more) stream subscription := fun h =>
    ⟨List.mem_append_left _ h.known, h.bounded, h.unsent⟩
  cases hstep with
  | publish event =>
      obtain ⟨⟨stream', subscription'⟩, hbefore, heq⟩ := Option.map_eq_some_iff.mp hsession
      cases heq
      exact hwider ((hl _ _ hbefore).1.publish event)
  | clear fresh now =>
      obtain ⟨⟨stream', subscription'⟩, hbefore, heq⟩ := Option.map_eq_some_iff.mp hsession
      cases heq
      obtain ⟨hnew, rfl⟩ := hfresh fresh now rfl
      exact (hl _ _ hbefore).1.clear hnew now
  | handled subscribers haside hbefore hmove =>
      cases hsession
      obtain ⟨hattentive, ledger, hledger⟩ := hl _ _ hbefore
      obtain ⟨hknown, hbounded, hunsent⟩ := hattentive.handled hledger hmove
      exact hwider ⟨hknown, hbounded, hunsent⟩
  | ended subscribers haside => cases hsession
  | beside subscribers haside =>
      obtain ⟨hknown, hbounded, hunsent⟩ := (hl _ _ hsession).1
      exact hwider ⟨hknown, hbounded, hunsent⟩

end Attentive

/-! ## What is on its way -/

/-- What is on its way from the handler of a page brings it to the end of the stream. -/
structure Tracks (current : String) (latest gone : ℕ) (told : Prop) (reached : ℕ)
    (inbox : List PacketEvent) (stream : EventStream) (subscription : EventSubscription) :
    Prop where
  sent : ¬told → Gapless current gone reached (inbox ++ stream.pending)
  queued : ¬told → subscription.dropped = 0 →
    Gapless current gone reached (inbox ++ stream.pending ++ subscription.queue)
  noticed : subscription.deliveredDropNoticeLast = true →
    told ∨ ∃ event ∈ inbox ++ stream.pending, Tells current event
  waiting : stream.pc = .waiting →
    subscription.dropped = 0 ∨ subscription.deliveredDropNoticeLast = true
  caughtUp : latest ≤
    positionAfter current reached (inbox ++ stream.pending ++ subscription.queue)

namespace Tracks

variable {current : String} {latest gone gone' reached reached' : ℕ} {told : Prop}
  {inbox inbox' : List PacketEvent} {stream next : EventStream}
  {subscription after : EventSubscription} {event : PacketEvent}

/-- The handler goes on with the same events. -/
theorem same (h : Tracks current latest gone told reached inbox stream subscription)
    (hsent : inbox' ++ next.pending = inbox ++ stream.pending)
    (hwaiting : next.pc = .waiting →
      subscription.dropped = 0 ∨ subscription.deliveredDropNoticeLast = true) :
    Tracks current latest gone told reached inbox' next subscription where
  sent := by simpa only [hsent] using h.sent
  queued := by simpa only [hsent] using h.queued
  noticed := by simpa only [hsent] using h.noticed
  waiting := hwaiting
  caughtUp := by simpa only [hsent] using h.caughtUp

/-- The page goes further on another way. -/
theorem ahead (h : Tracks current latest gone told reached inbox stream subscription)
    (hreached : reached ≤ reached') :
    Tracks current latest gone told reached' inbox stream subscription where
  sent htold := (h.sent htold).mono (le_refl _) hreached
  queued htold hdropped := (h.queued htold hdropped).mono (le_refl _) hreached
  noticed := h.noticed
  waiting := h.waiting
  caughtUp := h.caughtUp.trans (positionAfter_mono hreached)

/-- The page takes the first event of its inbox. -/
theorem message
    (h : Tracks current latest gone told reached (event :: inbox) stream subscription) :
    Tracks current latest gone (told ∨ Tells current event) (position current reached event)
      inbox stream subscription where
  sent htold := by
    obtain ⟨hnot, hsilent⟩ := not_or.mp htold
    exact ((h.sent hnot).resolve_left hsilent).2
  queued htold hdropped := by
    obtain ⟨hnot, hsilent⟩ := not_or.mp htold
    exact ((h.queued hnot hdropped).resolve_left hsilent).2
  noticed hflag := by
    rcases h.noticed hflag with htold | ⟨notice, hmember, htells⟩
    · exact Or.inl (Or.inl htold)
    · rcases List.mem_cons.mp hmember with rfl | hlater
      · exact Or.inl (Or.inr htells)
      · exact Or.inr ⟨notice, hlater, htells⟩
  waiting := h.waiting
  caughtUp := h.caughtUp

/-- The handler reports what was dropped. -/
theorem notice (h : Tracks current latest gone told reached inbox stream subscription)
    (hpending : stream.pending = []) {notice : PacketEvent} (hnext : next.pending = [notice])
    (hpc : next.pc ≠ .waiting) (htells : Tells current notice) (hsequence : notice.sequence = 0)
    (hqueue : after.queue = subscription.queue) :
    Tracks current latest gone told reached inbox next after := by
  have hmember : ∃ event ∈ inbox ++ [notice], Tells current event :=
    ⟨notice, List.mem_append_right _ (List.mem_singleton_self _), htells⟩
  have hsent := h.sent
  have hcaughtUp := h.caughtUp
  rw [hpending, List.append_nil] at hsent hcaughtUp
  have hgapless : ¬told → Gapless current gone reached (inbox ++ [notice]) := fun htold =>
    gapless_append.mpr ⟨hsent htold, Or.inr (gapless_notice hsequence)⟩
  have hkept : isReset notice = false := by
    have hdropped := htells.1
    unfold isDropNotice at hdropped
    unfold isReset
    simp only [Bool.and_eq_true, decide_eq_true_eq] at hdropped
    simp [hdropped.2]
  constructor
  case sent => rwa [hnext]
  case queued =>
    intro htold _
    rw [hnext]
    exact gapless_append.mpr ⟨hgapless htold, Or.inl hmember⟩
  case noticed =>
    rw [hnext]
    exact fun _ => Or.inr hmember
  case waiting => exact fun hwaiting => absurd hwaiting hpc
  case caughtUp =>
    rw [hnext, hqueue, positionAfter_append, positionAfter_append]
    rw [positionAfter_append] at hcaughtUp
    refine hcaughtUp.trans (positionAfter_mono ?_)
    exact (le_max_left _ _).trans (le_position _ htells.2 hkept)

/-- The handler takes an event of the queue. -/
theorem get (h : Tracks current latest gone told reached inbox stream subscription)
    (hpc : stream.pc = .waiting) (hpending : stream.pending = []) {rest : List PacketEvent}
    (hqueue : subscription.queue = event :: rest) :
    Tracks current latest gone told reached inbox { stream with pc := .received event }
      { subscription with queue := rest, deliveredDropNoticeLast := false } := by
  have hsame : ∀ gone, Gapless current gone reached
      (inbox ++ stream.pending ++ subscription.queue) →
      Gapless current gone reached (inbox ++ [event] ++ rest) := by
    intro gone hgapless
    rwa [hpending, hqueue, List.append_nil, List.append_cons] at hgapless
  constructor
  case sent =>
    intro htold
    rcases h.waiting hpc with hdropped | hflag
    · exact (gapless_append.mp (hsame gone (h.queued htold hdropped))).1
    · -- A notice was the last that was taken, so it is still on its way.
      have hnoticed := (h.noticed hflag).resolve_left htold
      have hsent := h.sent htold
      rw [hpending, List.append_nil] at hnoticed hsent
      exact gapless_append.mpr ⟨hsent, Or.inl hnoticed⟩
  case queued => exact fun htold hdropped => hsame gone (h.queued htold hdropped)
  case noticed => exact fun hflag => by cases hflag
  case waiting => exact fun hwaiting => by cases hwaiting
  case caughtUp =>
    have hcaughtUp := h.caughtUp
    rw [hpending, hqueue, List.append_nil, List.append_cons] at hcaughtUp
    exact hcaughtUp

/-- A step of the handler. -/
theorem handled (h : Tracks current latest gone told reached inbox stream subscription)
    (hmove : HandlerMove stream subscription inbox next after inbox')
    (hstream : subscription.streamId = current)
    (hunsent : ∀ event ∈ received stream, ¬Skips stream event) :
    Tracks current latest gone told reached inbox' next after := by
  cases hmove with
  | replayed event rest hpc =>
      refine h.same ?_ (by simp)
      simp [EventStream.pending, hpc]
  | looped hpc =>
      refine h.same ?_ (by simp)
      rcases hpc with hpc | hpc <;> simp [EventStream.pending, hpc]
  | noticed now hpc hdue =>
      exact h.notice (by simp [EventStream.pending, hpc]) rfl (by simp) ⟨rfl, hstream⟩ rfl rfl
  | waited hpc hdue =>
      refine h.same (by simp [EventStream.pending, hpc]) fun _ => ?_
      by_contra hnot
      simp only [not_or, Bool.not_eq_true] at hnot
      exact hdue ⟨Nat.pos_of_ne_zero hnot.1, hnot.2⟩
  | got event rest hpc hqueue =>
      exact h.get hpc (by simp [EventStream.pending, hpc]) hqueue
  | delivered event hpc hkept =>
      refine h.same ?_ (by simp)
      simp [EventStream.pending, hpc]
  | skipped event hpc hskips =>
      refine absurd hskips (hunsent event ?_)
      simp [received, hpc]

/-- An event is published that does not overrun the handler. -/
theorem publish (h : Tracks current latest gone told reached inbox stream subscription)
    (hgone : gone ≤ gone')
    (hstream : event.streamId = current) (hreset : isReset event = false)
    (hsequence : event.sequence = latest + 1)
    (hcalm : stream.pc = .waiting → subscription.full = true →
      subscription.deliveredDropNoticeLast = true) :
    Tracks current (latest + 1) gone' told reached inbox stream
      (subscription.publish event) := by
  have hsent : ¬told → Gapless current gone' reached (inbox ++ stream.pending) := fun htold =>
    (h.sent htold).mono hgone (le_refl _)
  have hlast : ∀ reached, latest + 1 ≤ positionAfter current reached [event] := by
    intro reached
    rw [← hsequence]
    exact (le_max_right _ _).trans (le_position _ hstream hreset)
  unfold EventSubscription.publish
  split
  · next hfull =>
      refine ⟨hsent, fun _ hdropped => ?_, h.noticed, fun hpc => Or.inr (hcalm hpc hfull), ?_⟩
      · exact absurd hdropped (Nat.succ_ne_zero _)
      · rw [← List.append_assoc, positionAfter_append]
        exact hlast _
  · refine ⟨hsent, fun htold hdropped => ?_, h.noticed, h.waiting, ?_⟩
    · have hgapless := (h.queued htold hdropped).mono hgone (le_refl _)
      rw [← List.append_assoc]
      refine gapless_append.mpr ⟨hgapless, Or.inr (Or.inr ⟨fun _ => ?_, trivial⟩)⟩
      have hcaughtUp := h.caughtUp
      omega
    · rw [← List.append_assoc, positionAfter_append]
      exact hlast _

/-- A new stream; what is still on its way is of earlier ones. -/
theorem clear {fresh : String} (hother : ∀ event ∈ inbox ++ stream.pending, event.streamId ≠ fresh)
    (now : ℚ) :
    Tracks fresh 0 gone told reached inbox stream (subscription.restart fresh now) where
  sent _ := gapless_of_other hother
  queued _ _ := gapless_append.mpr ⟨gapless_of_other hother, Or.inr (gapless_notice rfl)⟩
  noticed hflag := by cases hflag
  waiting _ := Or.inl rfl
  caughtUp := Nat.zero_le _

end Tracks

/-! ## Replays -/

section Replays

variable {b : EventBroker} {streamIds : List String} {published : List PacketEvent}
  {afterSequence limit reached : ℕ} {streamId : Option String}

/-- The cursor from which a history page starts. -/
def startOf (b : EventBroker) (afterSequence : ℕ) (streamId : Option String) : ℕ :=
  if streamId.isSome && streamId ≠ some b.streamId then 0 else afterSequence

/-- A page with room for the whole history has all that is retained behind the cursor. -/
theorem historyPage_events (afterSequence : ℕ) (streamId : Option String)
    {log : List PacketEvent} (hretains : Retains b log) (hlimit : b.history.maxlen ≤ limit) :
    (b.historyPage afterSequence limit streamId).events =
      log.drop (max (b.forgotten log) (startOf b afterSequence streamId)) := by
  have hfiltered : (b.historyPage afterSequence limit streamId).events =
      (b.history.items.filter
        fun event => startOf b afterSequence streamId < event.sequence).take limit := rfl
  rw [hfiltered, hretains.behind]
  refine List.take_of_length_le ?_
  rw [List.length_drop]
  unfold EventBroker.forgotten
  omega

/-- The notice of a history page is gapless, and tells a page of another stream to start. -/
theorem gapless_replayNotice (gone limit : ℕ) (now : ℚ)
    (hasked : streamId = none ∨ streamId = some b.streamId → afterSequence ≤ reached) :
    Gapless b.streamId gone reached
        ((b.historyPage afterSequence limit streamId).replayNotice now) ∧
      startOf b afterSequence streamId ≤ positionAfter b.streamId reached
        ((b.historyPage afterSequence limit streamId).replayNotice now) := by
  have hchanged : (b.historyPage afterSequence limit streamId).streamChanged =
      (streamId.isSome && streamId ≠ some b.streamId) := rfl
  unfold EventHistoryPage.replayNotice startOf
  rw [hchanged]
  split
  · exact ⟨gapless_notice rfl, Nat.zero_le _⟩
  · next hsame =>
      have hbehind : afterSequence ≤ reached := by
        refine hasked ?_
        by_contra hnot
        obtain ⟨hsome, hne⟩ := not_or.mp hnot
        exact hsame (by simpa [Option.isSome_iff_ne_none, hsome] using hne)
      split
      · have hposition : ∀ notice : PacketEvent, notice.streamId = b.streamId →
            isReset notice = false → reached ≤ positionAfter b.streamId reached [notice] :=
          fun _ hstream hreset => (le_max_left _ _).trans (le_position _ hstream hreset)
        exact ⟨gapless_notice rfl, hbehind.trans (hposition _ rfl (by simp [isReset]))⟩
      · exact ⟨trivial, hbehind⟩

/-- A new handler has all on its way that the page has not. -/
theorem tracks_replay (hrecorded : Recorded b streamIds published)
    (hsize : 1 ≤ b.history.maxlen) (hlimit : b.history.maxlen ≤ limit)
    (hasked : streamId = none ∨ streamId = some b.streamId → afterSequence ≤ reached)
    (told : Prop) (now : ℚ) :
    Tracks b.streamId b.sequence (b.forgotten (streamLog published b.streamId)) told reached []
      (.replay (b.historyPage afterSequence limit streamId) now)
      (.new b.subscriberBufferSize b.streamId) := by
  have hretains := hrecorded.retains
  have hnotice := gapless_replayNotice (b.forgotten (streamLog published b.streamId)) limit now
    hasked
  have hevents := historyPage_events afterSequence streamId hretains hlimit
  generalize hlog : streamLog published b.streamId = log at *
  generalize hstart : startOf b afterSequence streamId = start at *
  generalize hreplayed : b.historyPage afterSequence limit streamId = page at *
  obtain ⟨hgapless, hposition⟩ := hnotice
  have hplain : ∀ event ∈ page.events, event.streamId = b.streamId ∧ isReset event = false := by
    intro event hmember
    rw [hevents, ← hlog] at hmember
    obtain ⟨hpublished, hstream⟩ := mem_streamLog.mp (List.mem_of_mem_drop hmember)
    exact ⟨hstream, by simp [isReset, hrecorded.plain event hpublished]⟩
  have hnumbers := numbered_drop hretains.numbered (max (b.forgotten log) start)
  rw [← hevents] at hnumbers
  obtain ⟨hconsecutive, hlast⟩ := gapless_consecutive hplain hnumbers
    (max_le_max_left (b.forgotten log) hposition)
  have hall : Gapless b.streamId (b.forgotten log) reached
      (page.replayNotice now ++ page.events) :=
    gapless_append.mpr ⟨hgapless, Or.inr hconsecutive⟩
  have hend : b.sequence ≤
      positionAfter b.streamId reached (page.replayNotice now ++ page.events) := by
    rw [positionAfter_append, hretains.latest]
    by_cases hempty : page.events = []
    · rw [hempty]
      change _ ≤ positionAfter b.streamId reached (page.replayNotice now)
      rw [hevents, List.drop_eq_nil_iff] at hempty
      unfold EventBroker.forgotten at hempty
      omega
    · have hbound := hlast hempty
      rw [hevents, List.length_drop] at hbound
      rw [hevents] at hempty ⊢
      have hlt := List.length_pos_of_ne_nil hempty
      rw [List.length_drop] at hlt
      omega
  constructor
  case sent => exact fun _ => hall
  case queued =>
    intro _ _
    exact (List.append_nil _).symm ▸ hall
  case noticed => exact fun hflag => by cases hflag
  case waiting => exact fun hwaiting => by cases hwaiting
  case caughtUp => exact hend.trans_eq (congrArg _ (List.append_nil _).symm)

end Replays

/-! ## Links -/

/-- What is on its way over a link brings the page to the end of the stream. -/
def Link.Tracks (b : EventBroker) (log : List PacketEvent) (told : Prop) (reached : ℕ)
    (l : Link) : Prop :=
  match l.session with
  | some (stream, subscription) =>
      Frontend.Tracks b.streamId b.sequence (b.forgotten log) told reached l.inbox stream
        subscription
  | none => ¬told → Gapless b.streamId (b.forgotten log) reached l.inbox

section Links

variable {b c : EventBroker} {l k : Link} {a : StreamAction} {log : List PacketEvent}
  {told : Prop} {reached reached' : ℕ} {stream : EventStream}
  {subscription : EventSubscription} {inbox : List PacketEvent} {event : PacketEvent}

theorem Link.Tracks.ahead (h : l.Tracks b log told reached) (hreached : reached ≤ reached') :
    l.Tracks b log told reached' := by
  obtain ⟨inbox, session⟩ := l
  cases session with
  | none => exact fun htold => (h htold).mono (le_refl _) hreached
  | some session => exact Frontend.Tracks.ahead h hreached

/-- The events of the inbox are gapless. -/
theorem Link.Tracks.gapless (h : l.Tracks b log told reached) (htold : ¬told) :
    Gapless b.streamId (b.forgotten log) reached l.inbox := by
  obtain ⟨inbox, session⟩ := l
  cases session with
  | none => exact h htold
  | some session => exact (gapless_append.mp (Frontend.Tracks.sent h htold)).1

/-- The page takes the first event of its inbox. -/
theorem Link.Tracks.message (h : l.Tracks b log told reached) (hinbox : l.inbox = event :: inbox) :
    Link.Tracks b log (told ∨ Tells b.streamId event) (position b.streamId reached event)
      { l with inbox := inbox } := by
  obtain ⟨inbox', session⟩ := l
  subst hinbox
  cases session with
  | none =>
      intro htold
      obtain ⟨hnot, hsilent⟩ := not_or.mp htold
      exact ((h hnot).resolve_left hsilent).2
  | some session => exact Frontend.Tracks.message h

theorem forgotten_publish (b : EventBroker) (log : List PacketEvent) (event : PacketEvent) :
    b.forgotten log ≤ (b.publish event).2.forgotten (log ++ [b.sequenced event]) := by
  unfold EventBroker.forgotten
  rw [List.length_append]
  exact Nat.sub_le_sub_right (Nat.le_add_right _ _) _

/-- An event is published that does not overrun the handler of the page. -/
theorem Link.Tracks.publish (h : l.Tracks b log told reached)
    (hplain : event.eventType ≠ .uiEventsDropped)
    (hcalm : ∀ stream subscription, l.session = some (stream, subscription) →
      stream.pc = .waiting → subscription.full = true →
        subscription.deliveredDropNoticeLast = true) :
    Link.Tracks (b.publish event).2 (log ++ [b.sequenced event]) told reached
      { l with session := l.session.map fun s => (s.1, s.2.publish (b.sequenced event)) } := by
  obtain ⟨inbox, session⟩ := l
  have hgone := forgotten_publish b log event
  cases session with
  | none => exact fun htold => (h htold).mono hgone (le_refl _)
  | some session =>
      refine Frontend.Tracks.publish h hgone rfl ?_ rfl (hcalm _ _ rfl)
      simp [isReset, EventBroker.sequenced, hplain]

/-- A new stream; what is on its way is of earlier ones. -/
theorem Link.tracks_clear {fresh : String}
    (hother : ∀ event ∈ l.flow, event.streamId ≠ fresh) (now : ℚ) :
    Link.Tracks (b.clear fresh now) [] told reached
      { l with session := l.session.map fun s => (s.1, s.2.restart fresh now) } := by
  obtain ⟨inbox, session⟩ := l
  cases session with
  | none =>
      refine fun _ => gapless_of_other fun event hmember => hother event ?_
      exact List.mem_append_left _ hmember
  | some session =>
      refine Frontend.Tracks.clear (fun event hmember => hother event ?_) now
      rw [mem_flow_some]
      rcases List.mem_append.mp hmember with hinbox | hpending
      · exact Or.inl hinbox
      · exact Or.inr (Or.inl hpending)

theorem LinkStep.of_publish (hstep : LinkStep b l (.publish event) c k) :
    c = (b.publish event).2 ∧
      k = { l with session := l.session.map fun s => (s.1, s.2.publish (b.sequenced event)) } := by
  cases hstep with
  | publish => exact ⟨rfl, rfl⟩
  | handled _ haside => cases haside
  | ended _ haside => cases haside
  | beside _ haside => cases haside

theorem LinkStep.of_clear {fresh : String} {now : ℚ} (hstep : LinkStep b l (.clear fresh now) c k) :
    c = b.clear fresh now ∧
      k = { l with session := l.session.map fun s => (s.1, s.2.restart fresh now) } := by
  cases hstep with
  | clear => exact ⟨rfl, rfl⟩
  | handled _ haside => cases haside
  | ended _ haside => cases haside
  | beside _ haside => cases haside

/-- Only the subscribers change in a step that neither publishes nor clears. -/
theorem LinkStep.broker_of_aside (hstep : LinkStep b l a c k) (haside : isAside a = true) :
    ∃ subscribers, c = { b with subscribers := subscribers } := by
  cases hstep with
  | publish event => cases haside
  | clear streamId now => cases haside
  | handled subscribers => exact ⟨subscribers, rfl⟩
  | ended subscribers => exact ⟨subscribers, rfl⟩
  | beside subscribers => exact ⟨subscribers, rfl⟩

/-- A step of the server that neither publishes nor clears. -/
theorem Link.Tracks.aside (h : l.Tracks b log told reached) (hstep : LinkStep b l a c k)
    (haside : isAside a = true)
    (hsession : ∀ stream subscription, l.session = some (stream, subscription) →
      subscription.streamId = b.streamId ∧
        ∀ event ∈ received stream, ¬Skips stream event) : k.Tracks c log told reached := by
  cases hstep with
  | publish event => cases haside
  | clear streamId now => cases haside
  | handled subscribers haction hbefore hmove =>
      obtain ⟨inbox, session⟩ := l
      cases hbefore
      obtain ⟨hstream, hunsent⟩ := hsession _ _ rfl
      exact Frontend.Tracks.handled h hmove hstream hunsent
  | ended subscribers haction => exact fun htold => h.gapless htold
  | beside subscribers haction => exact h

end Links

end MeshtasticLab.Frontend

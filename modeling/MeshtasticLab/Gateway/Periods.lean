/-
  Gateway/Periods.lean --- what one session of a gateway leaves to the next.

  WHAT THIS FILE IS FOR

  Neither `stop` nor a failed `start` empties `_downstream_writes`, nothing empties
  `rf_frames`, and a `start` after a failure does not wait for the loops of the failed
  session.  Frames that are left there are sent on the next daemon connection, or
  delivered as packets of it.  In a run in which nothing is left whenever a period
  begins, every frame is sent and every packet is taken in the period in which it was
  queued.
-/
import MeshtasticLab.Gateway.GatewayMoves

set_option autoImplicit false

namespace MeshtasticLab.Gateway

open MeshtasticLab.Foundation

namespace NodeGateway

/-! ## What flows through the queues -/

/-- What one step puts into the queues and takes out of them. -/
structure Flows (g h : NodeGateway) : Prop where
  writes : ∀ write ∈ h.downstreamWrites,
    write ∈ g.downstreamWrites ∨ write.queuedIn = g.period
  rfFrames : ∀ frame ∈ h.rfFrames, frame ∈ g.rfFrames ∨ frame.queuedIn = g.period ∧
    ∃ reader ∈ g.readers, ∃ raw message rest,
      reader.pc = .handling frame.connection raw message rest
  sent : ∀ sent ∈ h.sent, sent ∈ g.sent ∨ sent.write ∈ g.downstreamWrites ∧
    g.downstreamWriter = some sent.connection ∧ sent.period = g.period
  taken : ∀ taken ∈ h.taken, taken ∈ g.taken ∨ taken.frame ∈ g.rfFrames ∧
    taken.period = g.period

/-- What was taken from the queues, and the packets that wait. -/
structure Deliveries where
  rfFrames : List RfFrame
  sent : List SentFrame
  taken : List TakenFrame

def deliveries (g : NodeGateway) : Deliveries where
  rfFrames := g.rfFrames
  sent := g.sent
  taken := g.taken

section Flows

variable {api : ClientApi} {g h : NodeGateway}

/-- At most the writes that wait change. -/
theorem Flows.of_deliveries (hdeliveries : h.deliveries = g.deliveries)
    (hwrites : ∀ write ∈ h.downstreamWrites,
      write ∈ g.downstreamWrites ∨ write.queuedIn = g.period) : Flows g h := by
  have hframes : h.rfFrames = g.rfFrames := congrArg Deliveries.rfFrames hdeliveries
  have hsent : h.sent = g.sent := congrArg Deliveries.sent hdeliveries
  have htaken : h.taken = g.taken := congrArg Deliveries.taken hdeliveries
  refine ⟨hwrites, fun frame hmember => .inl ?_, fun sent hmember => .inl ?_,
    fun taken hmember => .inl ?_⟩
  · rwa [hframes] at hmember
  · rwa [hsent] at hmember
  · rwa [htaken] at hmember

theorem Flows.of_same (hwrites : h.downstreamWrites = g.downstreamWrites)
    (hdeliveries : h.deliveries = g.deliveries) : Flows g h := by
  refine .of_deliveries hdeliveries fun write hmember => .inl ?_
  rwa [hwrites] at hmember

/-- A write is queued. -/
theorem Flows.queueWrite (raw : Bytes) (source : String)
    (hwrites : h.downstreamWrites =
      g.downstreamWrites ++ [{ raw, source, queuedIn := g.period }])
    (hdeliveries : h.deliveries = g.deliveries) : Flows g h := by
  refine .of_deliveries hdeliveries fun write hmember => ?_
  rw [hwrites] at hmember
  rcases List.mem_append.mp hmember with hold | hnew
  · exact .inl hold
  · rw [List.mem_singleton.mp hnew]
    exact .inr rfl

/-- A step of the life cycle takes nothing out of the queues. -/
theorem flows_lifecycle {a : LifecycleAction} (hmove : LifecycleMove api g a h) : Flows g h := by
  cases hmove with
  | start _ =>
      unfold startUnlocked
      cases g.state <;> exact .of_same rfl rfl
  | connected _ =>
      unfold connectDaemon
      cases encodeFrame (api.serializeWantConfig READINESS_NONCE) <;> exact .of_same rfl rfl
  | connectFailed _ => exact .of_same rfl rfl
  | retry _ => exact .of_same rfl rfl
  | requested raw _ => exact .queueWrite raw "gateway.readiness" rfl rfl
  | configured _ => exact .of_same rfl rfl
  | refused _ => exact .of_same rfl rfl
  | discarded _ => exact .of_deliveries rfl fun write hmember => by cases hmember
  | listen _ => exact .of_same rfl rfl
  | serve _ _ => exact .of_same rfl rfl
  | unreserved _ => exact .of_same rfl rfl
  | returned _ => exact .of_same rfl rfl
  | raised _ => exact .of_same rfl rfl
  | stop _ =>
      unfold stopUnlocked
      cases g.state <;> exact .of_same rfl rfl
  | transportsClosed reason _ => cases reason <;> exact .of_same rfl rfl
  | tasksCancelled reason _ => cases reason <;> exact .of_same rfl rfl

theorem flows_failReader (i : Nat) : Flows g (g.failReader i) := by
  unfold failReader fail
  cases g.state <;> exact .of_same rfl rfl

theorem flows_handleMessage {i : Nat} {reader : DaemonReader} (hat : g.readers[i]? = some reader)
    {connection : Nat} {frame : Frame} {message : DaemonMessage} {rest : List Frame}
    (hpc : reader.pc = .handling connection frame message rest) :
    Flows g
      ((g.handleMessage connection frame message).setReader i (.feeding connection rest)) := by
  obtain ⟨configWaiter, hresolved⟩ := g.resolveWaiter_eq message
  unfold handleMessage
  rw [hresolved]
  split
  next packet _ =>
    unfold queueRfFrame
    split
    · exact .of_same rfl rfl
    · refine ⟨fun write hmember => .inl hmember, fun queued hmember => ?_,
        fun sent hmember => .inl hmember, fun taken hmember => .inl hmember⟩
      rcases List.mem_append.mp hmember with hold | hnew
      · exact .inl hold
      · rw [List.mem_singleton.mp hnew]
        exact .inr ⟨rfl, reader, List.mem_of_getElem? hat, frame, message, rest, hpc⟩
  · unfold forwardFrame
    split
    · exact .of_same rfl rfl
    · split
      · exact .of_same rfl rfl
      · exact .of_same rfl rfl

theorem flows_readerStep {i : Nat} {reader : DaemonReader} (hat : g.readers[i]? = some reader)
    {a : ReaderAction} (hstep : g.readerStep api i reader a = some h) : Flows g h := by
  cases reader_move hstep with
  | ended => exact .of_same rfl rfl
  | reading connection _ _ => exact .of_same rfl rfl
  | failed _ => exact flows_failReader i
  | received connection frames parser _ => exact .of_same rfl rfl
  | unparsed connection frame rest _ _ => exact .of_same rfl rfl
  | parsed connection frame message rest _ _ => exact .of_same rfl rfl
  | handled connection frame message rest hpc => exact flows_handleMessage hat hpc
  | reported _ => exact .of_same rfl rfl

/-- A write is taken from the queue and recorded, or lost. -/
theorem flows_writerStep {i : Nat} {writer : DaemonWriterPc} {a : WriterAction}
    (hstep : g.writerStep i writer a = some h) : Flows g h := by
  cases writer_move hstep with
  | moved pc => exact .of_same rfl rfl
  | failed =>
      unfold failWriter fail
      cases g.state <;> exact .of_same rfl rfl
  | lost write rest hqueue =>
      have hrest : ∀ other ∈ rest, other ∈ g.downstreamWrites ∨ other.queuedIn = g.period := by
        intro other hmember
        rw [hqueue]
        exact .inl (List.mem_cons_of_mem _ hmember)
      unfold failWriter fail dropWrite
      cases g.state <;> exact .of_deliveries rfl hrest
  | wrote write rest connection hqueue hwriter =>
      refine ⟨fun other hmember => .inl ?_, fun frame hmember => .inl hmember,
        fun sent hmember => ?_, fun taken hmember => .inl hmember⟩
      · rw [hqueue]
        exact List.mem_cons_of_mem _ hmember
      · rcases List.mem_append.mp hmember with hold | hnew
        · exact .inl hold
        · rw [List.mem_singleton.mp hnew]
          refine .inr ⟨?_, hwriter, rfl⟩
          rw [hqueue]
          exact List.mem_cons_self
  | reported => exact .of_same rfl rfl

theorem flows_clientStep {i : Nat} {client : GatewayClient} {a : ClientAction}
    (hstep : g.clientStep i client a = some h) : Flows g h := by
  cases handler_move hstep with
  | attempted _ =>
      unfold handleClient
      split
      · exact .of_same rfl rfl
      · split
        · exact .of_same rfl rfl
        · exact .of_same rfl rfl
  | rejected _ => exact .of_same rfl rfl
  | served _ => exact .of_same rfl rfl
  | received frames parser _ => exact .of_same rfl rfl
  | queued frame rest _ => exact .queueWrite frame.raw "external" rfl rfl
  | readerEnded _ => exact .of_same rfl rfl
  | wrote raw rest _ _ => exact .of_same rfl rfl
  | writerEnded _ => exact .of_same rfl rfl
  | woken _ => exact .of_same rfl rfl
  | left _ => exact .of_same rfl rfl

theorem flows_sendToRadio (message : Bytes) (source : String) :
    Flows g (g.sendToRadio message source) := by
  unfold sendToRadio
  split
  · split
    · exact .of_same rfl rfl
    next raw _ =>
      split
      · exact .of_same rfl rfl
      · exact .queueWrite raw source rfl rfl
  · exact .of_same rfl rfl

theorem flows_takeRfFrame (hstep : g.takeRfFrame = some h) : Flows g h := by
  unfold takeRfFrame at hstep
  split at hstep
  · cases hstep
  next first rest hqueue =>
    cases hstep
    refine ⟨fun write hmember => .inl hmember, fun frame hmember => .inl ?_,
      fun sent hmember => .inl hmember, fun taken hmember => ?_⟩
    · rw [hqueue]
      exact List.mem_cons_of_mem _ hmember
    · rcases List.mem_append.mp hmember with hold | hnew
      · exact .inl hold
      · rw [List.mem_singleton.mp hnew]
        refine .inr ⟨?_, rfl⟩
        rw [hqueue]
        exact List.mem_cons_self

theorem flows_step {a : Action} (hstep : g.step api a = some h) : Flows g h := by
  cases a with
  | lifecycle a => exact flows_lifecycle (lifecycle_move hstep)
  | reader i a =>
      obtain ⟨reader, hat, hstep⟩ := Option.bind_eq_some_iff.mp hstep
      exact flows_readerStep hat hstep
  | writer i a =>
      obtain ⟨writer, _, hstep⟩ := Option.bind_eq_some_iff.mp hstep
      exact flows_writerStep hstep
  | accept isPublic =>
      obtain ⟨_, rfl⟩ := of_guarded hstep
      exact .of_same rfl rfl
  | client i a =>
      obtain ⟨client, _, hstep⟩ := Option.bind_eq_some_iff.mp hstep
      exact flows_clientStep hstep
  | reservePublicListener =>
      cases hstep
      exact .of_same rfl rfl
  | enablePublicClients =>
      cases hstep
      unfold enablePublicClients
      cases g.state <;> exact .of_same rfl rfl
  | sendToRadio message source =>
      cases hstep
      exact flows_sendToRadio message source
  | takeRfFrame => exact flows_takeRfFrame hstep

end Flows

/-! ## Periods -/

/-- Whether a step begins a period: a readiness attempt begins, or a failed attempt, a
failed `start` or a `stop` is over. -/
def newPeriod (g : NodeGateway) : Action → Bool
  | .lifecycle .start => g.state = .stopped || g.state = .failed
  | .lifecycle .retry => true
  | .lifecycle .discarded => true
  | .lifecycle .transportsClosed => g.lifecycle = .closing .alreadyStopped
  | .lifecycle .tasksCancelled => true
  | _ => false

/-- No daemon reader runs. -/
def ReadersEnded (g : NodeGateway) : Prop := ∀ reader ∈ g.readers, reader.pc = .ended

/-- A period begins with empty queues, which a discarded attempt sees to for the writes,
and without a reader of an earlier connection. -/
def Cleared (g : NodeGateway) (a : Action) : Prop :=
  g.newPeriod a = true →
    g.rfFrames = [] ∧ (a ≠ .lifecycle .discarded → g.downstreamWrites = []) ∧ g.ReadersEnded

/-- Where a daemon reader reads from. -/
def connectionOf : DaemonReaderPc → Option Nat
  | .reading connection => some connection
  | .feeding connection _ => some connection
  | .handling connection _ _ _ => some connection
  | _ => none

/-- A reader that runs reads from the connection of the period. -/
def Fresh (downstreamReader : Option Nat) (period : Nat) (pc : DaemonReaderPc) : Prop :=
  pc = .ended ∨ (∀ connection, downstreamReader = some connection → connection = period) ∧
    ∀ connection, connectionOf pc = some connection → connection = period

section Periods

variable {api : ClientApi} {g h : NodeGateway}

theorem fresh_rule : ReaderRule api g (Fresh g.downstreamReader g.period) where
  ended := .inl rfl
  failing := by
    rintro pc hruns (hended | ⟨hreader, _⟩)
    · exact absurd hended hruns
    · exact .inr ⟨hreader, fun connection hnone => by cases hnone⟩
  reading := by
    rintro pc connection hruns (hended | ⟨hreader, _⟩) hconnection
    · exact absurd hended hruns
    · refine .inr ⟨hreader, fun other hother => ?_⟩
      cases hother
      exact hreader connection hconnection
  received := by
    rintro connection frames (hended | ⟨hreader, hfresh⟩)
    · cases hended
    · exact .inr ⟨hreader, hfresh⟩
  unparsed := by
    rintro connection frame rest (hended | ⟨hreader, hfresh⟩)
    · cases hended
    · exact .inr ⟨hreader, hfresh⟩
  parsed := by
    rintro connection frame message rest _ (hended | ⟨hreader, hfresh⟩)
    · cases hended
    · exact .inr ⟨hreader, hfresh⟩
  handled := by
    rintro connection frame message rest (hended | ⟨hreader, hfresh⟩)
    · cases hended
    · exact .inr ⟨hreader, hfresh⟩

/-- What a step that begins a period does to queues and readers. -/
structure Turns (g h : NodeGateway) (a : Action) : Prop where
  rfFrames : h.rfFrames = g.rfFrames
  writes : h.downstreamWrites = [] ∨
    a ≠ .lifecycle .discarded ∧ h.downstreamWrites = g.downstreamWrites
  readers : h.readers = g.readers
  writer : h.downstreamWriter = none ∨ h.downstreamWriter = g.downstreamWriter
  period : h.period = g.period + 1

theorem turns_lifecycle {a : LifecycleAction} (hmove : LifecycleMove api g a h)
    (hnew : g.newPeriod (.lifecycle a) = true) : Turns g h (.lifecycle a) := by
  cases hmove with
  | start _ =>
      unfold startUnlocked
      unfold newPeriod at hnew
      cases hstate : g.state with
      | stopped => exact ⟨rfl, .inr ⟨by decide, rfl⟩, rfl, .inr rfl, rfl⟩
      | failed => exact ⟨rfl, .inr ⟨by decide, rfl⟩, rfl, .inr rfl, rfl⟩
      | connecting => rw [hstate] at hnew; cases hnew
      | running => rw [hstate] at hnew; cases hnew
      | stopping => rw [hstate] at hnew; cases hnew
  | retry _ => exact ⟨rfl, .inr ⟨by decide, rfl⟩, rfl, .inr rfl, rfl⟩
  | discarded _ => exact ⟨rfl, .inl rfl, rfl, .inl rfl, rfl⟩
  | transportsClosed reason hpc =>
      have halready := of_decide_eq_true hnew
      rw [hpc] at halready
      cases halready
      exact ⟨rfl, .inr ⟨by decide, rfl⟩, rfl, .inl rfl, rfl⟩
  | tasksCancelled reason _ =>
      cases reason <;> exact ⟨rfl, .inr ⟨by decide, rfl⟩, rfl, .inr rfl, rfl⟩
  | connected _ => cases hnew
  | connectFailed _ => cases hnew
  | requested _ _ => cases hnew
  | configured _ => cases hnew
  | refused _ => cases hnew
  | listen _ => cases hnew
  | serve _ _ => cases hnew
  | unreserved _ => cases hnew
  | returned _ => cases hnew
  | raised _ => cases hnew
  | stop _ => cases hnew

/-- What a step within a period leaves of the connection. -/
structure Continues (g h : NodeGateway) : Prop where
  period : h.period = g.period
  readers : g.Readers (Fresh g.downstreamReader g.period) →
    h.Readers (Fresh h.downstreamReader h.period)
  writer : h.downstreamWriter = none ∨ h.downstreamWriter = g.downstreamWriter ∨
    h.downstreamWriter = some g.period

theorem Continues.of_same (hreaders : h.readers = g.readers)
    (hreader : h.downstreamReader = g.downstreamReader)
    (hwriter : h.downstreamWriter = g.downstreamWriter) (hperiod : h.period = g.period) :
    Continues g h := by
  refine ⟨hperiod, fun hall => ?_, .inr (.inl hwriter)⟩
  rw [hreader, hperiod]
  exact hall.of_same hreaders

/-- The new connection is the one of the period. -/
theorem continues_connectDaemon : Continues g (g.connectDaemon api) := by
  have hreaders : (g.connectDaemon api).readers = g.readers ++ [({} : DaemonReader)] := by
    unfold connectDaemon
    cases encodeFrame (api.serializeWantConfig READINESS_NONCE) <;> rfl
  have hreader : (g.connectDaemon api).downstreamReader = some g.period := by
    unfold connectDaemon
    cases encodeFrame (api.serializeWantConfig READINESS_NONCE) <;> rfl
  have hwriter : (g.connectDaemon api).downstreamWriter = some g.period := by
    unfold connectDaemon
    cases encodeFrame (api.serializeWantConfig READINESS_NONCE) <;> rfl
  have hperiod : (g.connectDaemon api).period = g.period := by
    unfold connectDaemon
    cases encodeFrame (api.serializeWantConfig READINESS_NONCE) <;> rfl
  refine ⟨hperiod, fun hall => ?_, .inr (.inr hwriter)⟩
  rw [hreader, hperiod]
  have hown : ∀ connection, some g.period = some connection → connection = g.period :=
    fun connection hsame => (Option.some.inj hsame).symm
  have hbefore : g.Readers (Fresh (some g.period) g.period) := by
    intro reader hmember
    exact (hall reader hmember).imp_right fun hfresh => ⟨hown, hfresh.2⟩
  exact hbefore.append (.inr ⟨hown, fun connection hnone => by cases hnone⟩) hreaders

/-- Without a connection, and without a reader that runs. -/
theorem continues_cancelled (hended : h.ReadersEnded) (hwriter : h.downstreamWriter = none)
    (hperiod : h.period = g.period) : Continues g h :=
  ⟨hperiod, fun _ reader hmember => .inl (hended reader hmember), .inl hwriter⟩

theorem continues_lifecycle {a : LifecycleAction} (hmove : LifecycleMove api g a h)
    (hsame : g.newPeriod (.lifecycle a) = false) : Continues g h := by
  cases hmove with
  | start _ =>
      unfold startUnlocked
      unfold newPeriod at hsame
      cases hstate : g.state with
      | stopped => rw [hstate] at hsame; cases hsame
      | failed => rw [hstate] at hsame; cases hsame
      | connecting => exact .of_same rfl rfl rfl rfl
      | running => exact .of_same rfl rfl rfl rfl
      | stopping => exact .of_same rfl rfl rfl rfl
  | connected _ => exact continues_connectDaemon
  | connectFailed _ => exact .of_same rfl rfl rfl rfl
  | requested _ _ => exact .of_same rfl rfl rfl rfl
  | configured _ => exact .of_same rfl rfl rfl rfl
  | refused _ =>
      refine ⟨rfl, fun hall => ?_, .inr (.inl rfl)⟩
      exact hall.setReader (i := g.readers.length - 1) (.inl rfl) rfl
  | listen _ => exact .of_same rfl rfl rfl rfl
  | serve _ _ => exact .of_same rfl rfl rfl rfl
  | unreserved _ => exact .of_same rfl rfl rfl rfl
  | returned _ => exact .of_same rfl rfl rfl rfl
  | raised _ => exact .of_same rfl rfl rfl rfl
  | stop _ =>
      unfold stopUnlocked
      cases g.state <;> exact .of_same rfl rfl rfl rfl
  | transportsClosed reason hpc =>
      have hother := of_decide_eq_false hsame
      cases reason with
      | alreadyStopped => exact absurd hpc hother
      | failedStart =>
          have hended := Readers.cancelTasks (P := (· = .ended)) rfl g.clearTransports
          exact continues_cancelled hended rfl rfl
      | stop =>
          have hended := Readers.cancelTasks (P := (· = .ended)) rfl g.clearTransports
          exact continues_cancelled hended rfl rfl
  | retry _ => cases hsame
  | discarded _ => cases hsame
  | tasksCancelled _ _ => cases hsame

theorem newPeriod_beside {a : Action} (hbeside : ∀ action, a ≠ .lifecycle action) :
    g.newPeriod a = false := by
  cases a with
  | lifecycle action => exact absurd rfl (hbeside action)
  | reader _ _ => rfl
  | writer _ _ => rfl
  | accept _ => rfl
  | client _ _ => rfl
  | reservePublicListener => rfl
  | enablePublicClients => rfl
  | sendToRadio _ _ => rfl
  | takeRfFrame => rfl

theorem continues_beside {a : Action} (hbeside : ∀ action, a ≠ .lifecycle action)
    (hstep : g.step api a = some h) : Continues g h := by
  have haside := aside_step hbeside hstep
  refine ⟨haside.period, fun hall => ?_, .inr (.inl haside.downstreamWriter)⟩
  rw [haside.downstreamReader, haside.period]
  refine hall.beside fresh_rule hbeside hstep

/-- Every step begins a period or goes on in the one that is. -/
theorem turns_or_continues {a : Action} (hstep : g.step api a = some h) :
    g.newPeriod a = true ∧ Turns g h a ∨ g.newPeriod a = false ∧ Continues g h := by
  rcases lifecycle_or_beside a with ⟨action, rfl⟩ | hbeside
  · cases hnew : g.newPeriod (.lifecycle action) with
    | true => exact .inl ⟨rfl, turns_lifecycle (lifecycle_move hstep) hnew⟩
    | false => exact .inr ⟨rfl, continues_lifecycle (lifecycle_move hstep) hnew⟩
  · exact .inr ⟨newPeriod_beside hbeside, continues_beside hbeside hstep⟩

/-! ## What is sent and taken in runs -/

/-- What is in the queues and what is read belongs to the period; what was sent and taken
did when it was. -/
structure Current (g : NodeGateway) : Prop where
  writes : ∀ write ∈ g.downstreamWrites, write.queuedIn = g.period
  rfFrames : ∀ frame ∈ g.rfFrames, frame.connection = g.period ∧ frame.queuedIn = g.period
  readers : g.Readers (Fresh g.downstreamReader g.period)
  writer : ∀ connection, g.downstreamWriter = some connection → connection ≤ g.period

theorem current_new (queueSize : Nat) (publicClientsEnabled : Bool) :
    Current (new queueSize publicClientsEnabled) where
  writes := fun write hmember => by cases hmember
  rfFrames := fun frame hmember => by cases hmember
  readers := fun reader hmember => by cases hmember
  writer := fun connection hwriter => by cases hwriter

/-- A period that begins with empty queues. -/
theorem Current.turn (h : Current g) {t : NodeGateway} {a : Action} (hcleared : Cleared g a)
    (hnew : g.newPeriod a = true) (hturns : Turns g t a) : Current t := by
  obtain ⟨hframes, hwrites, hended⟩ := hcleared hnew
  have hempty : t.downstreamWrites = [] := by
    rcases hturns.writes with hnone | ⟨hother, hsame⟩
    · exact hnone
    · exact hsame.trans (hwrites hother)
  refine ⟨?_, ?_, ?_, ?_⟩
  · rw [hempty]
    exact fun write hmember => by cases hmember
  · rw [hturns.rfFrames, hframes]
    exact fun frame hmember => by cases hmember
  · intro reader hmember
    rw [hturns.readers] at hmember
    exact .inl (hended reader hmember)
  · intro connection hsome
    rw [hturns.period]
    rcases hturns.writer with hnone | hsame
    · rw [hnone] at hsome
      cases hsome
    · rw [hsame] at hsome
      exact (h.writer connection hsome).trans (Nat.le_succ _)

/-- What is queued within a period is queued in it. -/
theorem Current.go (h : Current g) {t : NodeGateway} (hflows : Flows g t)
    (hcontinues : Continues g t) : Current t := by
  refine ⟨?_, ?_, hcontinues.readers h.readers, ?_⟩
  · intro write hmember
    rw [hcontinues.period]
    exact (hflows.writes write hmember).elim (h.writes write) id
  · intro frame hmember
    rw [hcontinues.period]
    rcases hflows.rfFrames frame hmember with
      hold | ⟨hqueued, reader, hreader, raw, message, rest, hpc⟩
    · exact h.rfFrames frame hold
    · refine ⟨?_, hqueued⟩
      rcases h.readers reader hreader with hended | ⟨_, hfresh⟩
      · rw [hpc] at hended
        cases hended
      · exact hfresh frame.connection (by rw [hpc]; rfl)
  · intro connection hsome
    rw [hcontinues.period]
    rcases hcontinues.writer with hnone | hsame | hnew
    · rw [hnone] at hsome
      cases hsome
    · rw [hsame] at hsome
      exact h.writer connection hsome
    · rw [hnew] at hsome
      cases hsome
      exact Nat.le_refl _

/-- Every frame that was written had been queued after the attempt that opened its
connection had begun, and in the period of the write; every packet that was taken had
been received and queued on the connection of that period. -/
structure Unleaked (g : NodeGateway) : Prop where
  sent : ∀ sent ∈ g.sent, sent.connection ≤ sent.write.queuedIn ∧
    sent.write.queuedIn = sent.period
  taken : ∀ taken ∈ g.taken, taken.frame.connection = taken.period ∧
    taken.frame.queuedIn = taken.period

theorem Unleaked.flow (h : Unleaked g) (hcurrent : Current g) {t : NodeGateway}
    (hflows : Flows g t) : Unleaked t := by
  constructor
  · intro sent hmember
    rcases hflows.sent sent hmember with hold | ⟨hwrite, hwriter, hperiod⟩
    · exact h.sent sent hold
    · have hqueued := hcurrent.writes sent.write hwrite
      rw [hqueued, hperiod]
      exact ⟨hcurrent.writer sent.connection hwriter, rfl⟩
  · intro taken hmember
    rcases hflows.taken taken hmember with hold | ⟨hframe, hperiod⟩
    · exact h.taken taken hold
    · rw [hperiod]
      exact hcurrent.rfFrames taken.frame hframe

theorem unleaked_new (queueSize : Nat) (publicClientsEnabled : Bool) :
    Unleaked (new queueSize publicClientsEnabled) where
  sent := fun sent hmember => by cases hmember
  taken := fun taken hmember => by cases hmember

/-- Nothing of one session reaches the next, in every run in which nothing is left when a
period begins. -/
theorem sessions_do_not_leak {queueSize : Nat} {publicClientsEnabled : Bool}
    (hrun : Run (step api) Cleared (new queueSize publicClientsEnabled) g) : Unleaked g := by
  have hkept : Current g ∧ Unleaked g := by
    refine hrun.invariant (I := fun u => Current u ∧ Unleaked u) ?_
      ⟨current_new _ _, unleaked_new _ _⟩
    rintro u a v ⟨hcurrent, hunleaked⟩ hcleared hstep
    have hflows := flows_step hstep
    refine ⟨?_, hunleaked.flow hcurrent hflows⟩
    rcases turns_or_continues hstep with ⟨hnew, hturns⟩ | ⟨_, hcontinues⟩
    · exact hcurrent.turn hcleared hnew hturns
    · exact hcurrent.go hflows hcontinues
  exact hkept.2

end Periods

instance (g : NodeGateway) : Decidable g.ReadersEnded :=
  inferInstanceAs (Decidable (∀ reader ∈ g.readers, reader.pc = .ended))

instance (g : NodeGateway) (a : Action) : Decidable (Cleared g a) :=
  inferInstanceAs (Decidable (_ → _ ∧ (_ → _) ∧ _))

/-- The steps of a `stop`. -/
def stopSteps : List Action :=
  [.lifecycle .stop, .lifecycle .transportsClosed, .lifecycle .tasksCancelled,
    .lifecycle .returned]

/-- A frame is sent, and the gateway is stopped and started again. -/
def cleanSteps : List Action :=
  startSteps 0 ++ [.sendToRadio [0x55] "traffic", .writer 0 .written, .writer 0 .write] ++
    stopSteps ++ startSteps 1

def cleanRestart : NodeGateway :=
  (exec (step quietApi) cleanSteps (new 2 true)).getD (new 2 true)

theorem clean_restart_unleaked : Unleaked cleanRestart ∧
    cleanRestart.sent.map SentFrame.connection = [1, 1, 3] := by
  have hexec : exec (step quietApi) cleanSteps (new 2 true) = some cleanRestart := by
    decide +kernel
  have hcleared : Conforms (step quietApi) Cleared cleanSteps (new 2 true) := by decide +kernel
  exact ⟨sessions_do_not_leak (.of_exec hexec hcleared), by decide +kernel⟩

/-- The daemon does not take the request, and `stop` leaves a frame behind it. -/
def leakSteps : List Action :=
  startSteps 0 ++ [.sendToRadio [0x55] "traffic"] ++ stopSteps ++
    [.lifecycle .start, .lifecycle .connected, .lifecycle .requested, .writer 1 .run,
      .writer 1 .write]

def leakedRestart : NodeGateway :=
  (exec (step quietApi) leakSteps (new 2 true)).getD (new 2 true)

/-- The frame of the first session. -/
def leakedFrame : SentFrame where
  write := { raw := [0x94, 0xc3, 0, 1, 0x55], source := "traffic", queuedIn := 1 }
  connection := 3
  period := 3

/-- A frame that was queued before a `stop` is sent after the next `start`. -/
theorem stopped_session_leaks :
    ¬ ∀ (api : ClientApi) (queueSize : Nat) (publicClientsEnabled : Bool) (g : NodeGateway),
      Run (step api) Always (new queueSize publicClientsEnabled) g → Unleaked g := by
  intro hall
  have hexec : exec (step quietApi) leakSteps (new 2 true) = some leakedRestart := by
    decide +kernel
  have hrun : Run (step quietApi) Always (new 2 true) leakedRestart :=
    .of_exec hexec (conforms_always _ _)
  have hsent := (hall quietApi 2 true leakedRestart hrun).sent leakedFrame (by decide +kernel)
  exact absurd hsent.1 (by decide)

end NodeGateway

end MeshtasticLab.Gateway

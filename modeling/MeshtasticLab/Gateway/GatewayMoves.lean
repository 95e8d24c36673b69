/-
  Gateway/GatewayMoves.lean --- what one step of a gateway does.

  The step functions are inverted once: for every action the guards that held and the
  gateway that came out.  The invariants of a gateway are proved from these cases.
-/
import MeshtasticLab.Foundation.Counting
import MeshtasticLab.Gateway.NodeGateway

set_option autoImplicit false

namespace MeshtasticLab.Gateway

open MeshtasticLab.Foundation

namespace NodeGateway

/-! ## The life cycle -/

/-- The steps of the holder of the life cycle lock. -/
inductive LifecycleMove (api : ClientApi) (g : NodeGateway) :
    LifecycleAction → NodeGateway → Prop
  | start (hpc : g.lifecycle = .idle) : LifecycleMove api g .start g.startUnlocked
  | connected (hpc : g.lifecycle = .connecting) :
      LifecycleMove api g .connected (g.connectDaemon api)
  | connectFailed (hpc : g.lifecycle = .connecting) :
      LifecycleMove api g .connectFailed { g with lifecycle := .retrying }
  | retry (hpc : g.lifecycle = .retrying) :
      LifecycleMove api g .retry
        { g with configWaiter := none, lifecycle := .connecting, period := g.period + 1 }
  | requested (raw : Bytes) (hpc : g.lifecycle = .requesting raw) :
      LifecycleMove api g .requested (g.queueRequest raw)
  | configured (hpc : g.lifecycle = .awaiting) :
      LifecycleMove api g .configured { g with configWaiter := none, lifecycle := .ready }
  | refused (hpc : g.lifecycle = .awaiting) : LifecycleMove api g .refused g.refuseAttempt
  | discarded (hpc : g.lifecycle = .discarding) :
      LifecycleMove api g .discarded g.discardAttempt
  | listen (hpc : g.lifecycle = .ready) :
      LifecycleMove api g .listen g.openControlServer
  | serve (hpc : g.lifecycle = .listening) (hreserved : g.reservedPublicSocket = true) :
      LifecycleMove api g .serve
        { g with
          server := true
          reservedPublicSocket := false
          state := .running
          lifecycle := .announcing }
  | unreserved (hpc : g.lifecycle = .listening) : LifecycleMove api g .serve g.failStart
  | returned (hpc : g.lifecycle = .announcing ∨ g.lifecycle = .returning) :
      LifecycleMove api g .returned { g with lifecycle := .idle }
  | raised (hstarting : g.starting = true) : LifecycleMove api g .raised g.failStart
  | stop (hpc : g.lifecycle = .idle) : LifecycleMove api g .stop g.stopUnlocked
  | transportsClosed (reason : CloseReason) (hpc : g.lifecycle = .closing reason) :
      LifecycleMove api g .transportsClosed (g.closeTransports reason)
  | tasksCancelled (reason : CloseReason) (hpc : g.lifecycle = .cancelling reason) :
      LifecycleMove api g .tasksCancelled (g.finishCancelling reason)

/-- A guarded step was enabled. -/
theorem of_guarded {c : Prop} [Decidable c] {g h : NodeGateway}
    (hstep : (if c then some g else none) = some h) : c ∧ g = h := by
  obtain ⟨hguard, heq⟩ := Option.ite_none_right_eq_some.mp hstep
  exact ⟨hguard, Option.some.inj heq⟩

variable {api : ClientApi} {g h : NodeGateway}

theorem lifecycle_move {a : LifecycleAction} (hstep : g.lifecycleStep api a = some h) :
    LifecycleMove api g a h := by
  cases a with
  | start =>
      obtain ⟨hpc, rfl⟩ := of_guarded hstep
      exact .start hpc
  | connected =>
      obtain ⟨hpc, rfl⟩ := of_guarded hstep
      exact .connected hpc
  | connectFailed =>
      obtain ⟨hpc, rfl⟩ := of_guarded hstep
      exact .connectFailed hpc
  | retry =>
      obtain ⟨hpc, rfl⟩ := of_guarded hstep
      exact .retry hpc
  | requested =>
      simp only [lifecycleStep] at hstep
      split at hstep
      next raw hpc =>
        split at hstep
        · cases hstep
        · cases hstep
          exact .requested raw hpc
      · cases hstep
  | configured =>
      obtain ⟨hguard, rfl⟩ := of_guarded hstep
      exact .configured hguard.1
  | refused =>
      obtain ⟨hguard, rfl⟩ := of_guarded hstep
      exact .refused hguard.1
  | discarded =>
      obtain ⟨hpc, rfl⟩ := of_guarded hstep
      exact .discarded hpc
  | listen =>
      obtain ⟨hpc, rfl⟩ := of_guarded hstep
      exact .listen hpc
  | serve =>
      obtain ⟨hpc, hserved⟩ := Option.ite_none_right_eq_some.mp hstep
      split at hserved
      next hreserved =>
        cases hserved
        exact .serve hpc hreserved
      · cases hserved
        exact .unreserved hpc
  | returned =>
      obtain ⟨hpc, rfl⟩ := of_guarded hstep
      exact .returned hpc
  | raised =>
      obtain ⟨hpc, rfl⟩ := of_guarded hstep
      exact .raised hpc
  | stop =>
      obtain ⟨hpc, rfl⟩ := of_guarded hstep
      exact .stop hpc
  | transportsClosed =>
      simp only [lifecycleStep] at hstep
      split at hstep
      next reason hpc =>
        cases hstep
        exact .transportsClosed reason hpc
      · cases hstep
  | tasksCancelled =>
      simp only [lifecycleStep] at hstep
      split at hstep
      next reason hpc =>
        cases hstep
        exact .tasksCancelled reason hpc
      · cases hstep

/-! ## The daemon connection -/

/-- The steps of a daemon reader. -/
inductive ReaderMove (api : ClientApi) (g : NodeGateway) (i : Nat) (reader : DaemonReader) :
    NodeGateway → Prop
  | ended : ReaderMove api g i reader (g.setReader i .ended)
  | reading (connection : Nat) (hruns : reader.pc ≠ .ended)
      (hreader : g.downstreamReader = some connection) :
      ReaderMove api g i reader (g.setReader i (.reading connection))
  | failed (hruns : reader.pc ≠ .ended) : ReaderMove api g i reader (g.failReader i)
  | received (connection : Nat) (frames : List Frame) (parser : FrameParser)
      (hpc : reader.pc = .reading connection) :
      ReaderMove api g i reader
        { g with readers := g.readers.set i { pc := .feeding connection frames, parser } }
  | unparsed (connection : Nat) (frame : Frame) (rest : List Frame)
      (hpc : reader.pc = .feeding connection (frame :: rest))
      (hparse : api.parseFromRadio frame.payload = none) :
      ReaderMove api g i reader
        ((g.recordHandled frame false).setReader i (.feeding connection rest))
  | parsed (connection : Nat) (frame : Frame) (message : DaemonMessage) (rest : List Frame)
      (hpc : reader.pc = .feeding connection (frame :: rest))
      (hparse : api.parseFromRadio frame.payload = some message) :
      ReaderMove api g i reader (g.setReader i (.handling connection frame message rest))
  | handled (connection : Nat) (frame : Frame) (message : DaemonMessage) (rest : List Frame)
      (hpc : reader.pc = .handling connection frame message rest) :
      ReaderMove api g i reader
        ((g.handleMessage connection frame message).setReader i (.feeding connection rest))
  | reported (hpc : reader.pc = .failing) :
      ReaderMove api g i reader (g.reportFailure.setReader i .ended)

theorem reader_move {i : Nat} {reader : DaemonReader} {a : ReaderAction}
    (hstep : g.readerStep api i reader a = some h) : ReaderMove api g i reader h := by
  have hruns : ∀ {pc : DaemonReaderPc}, reader.pc = pc → pc ≠ .ended → reader.pc ≠ .ended :=
    fun hpc hne => by rw [hpc]; exact hne
  cases a with
  | run =>
      simp only [readerStep] at hstep
      split at hstep
      next hpc =>
        cases hreader : g.downstreamReader with
        | none =>
            rw [hreader] at hstep
            cases hstep
            exact .ended
        | some connection =>
            rw [hreader] at hstep
            cases hstep
            exact .reading connection (hruns hpc fun hended => by cases hended) hreader
      next hpc =>
        cases hreader : g.downstreamReader with
        | none =>
            rw [hreader] at hstep
            cases hstep
            exact .failed (hruns hpc fun hended => by cases hended)
        | some connection =>
            rw [hreader] at hstep
            cases hstep
            exact .reading connection (hruns hpc fun hended => by cases hended) hreader
      · cases hstep
  | receive data =>
      simp only [readerStep] at hstep
      split at hstep
      next connection hpc =>
        simp only [Option.ite_none_left_eq_some] at hstep
        cases hstep.2
        exact .received connection _ _ hpc
      · cases hstep
  | disconnect =>
      simp only [readerStep] at hstep
      split at hstep
      next hpc =>
        cases hstep
        exact .failed (hruns hpc fun hended => by cases hended)
      · cases hstep
  | next =>
      simp only [readerStep] at hstep
      split at hstep
      next connection frame rest hpc =>
        cases hparse : api.parseFromRadio frame.payload with
        | none =>
            rw [hparse] at hstep
            cases hstep
            exact .unparsed connection frame rest hpc hparse
        | some message =>
            rw [hparse] at hstep
            cases hstep
            exact .parsed connection frame message rest hpc hparse
      · cases hstep
  | handle =>
      simp only [readerStep] at hstep
      split at hstep
      next connection frame message rest hpc =>
        cases hstep
        exact .handled connection frame message rest hpc
      · cases hstep
  | raise =>
      simp only [readerStep] at hstep
      split at hstep
      next hpc =>
        cases hstep
        exact .failed (hruns hpc fun hended => by cases hended)
      next hpc =>
        cases hstep
        exact .failed (hruns hpc fun hended => by cases hended)
      next hpc =>
        cases hstep
        exact .failed (hruns hpc fun hended => by cases hended)
      · cases hstep
  | report =>
      simp only [readerStep] at hstep
      split at hstep
      next hpc =>
        cases hstep
        exact .reported hpc
      · cases hstep

/-- Resolving the waiter changes nothing else. -/
theorem resolveWaiter_eq (message : DaemonMessage) :
    ∃ configWaiter, g.resolveWaiter message = { g with configWaiter } := by
  cases message with
  | configComplete nonce =>
      by_cases hnonce : nonce = READINESS_NONCE
      · exact ⟨_, if_pos hnonce⟩
      · exact ⟨g.configWaiter, if_neg hnonce⟩
  | fromRadio _ => exact ⟨g.configWaiter, rfl⟩

/-- The steps of a daemon writer. -/
inductive WriterMove (g : NodeGateway) (i : Nat) : NodeGateway → Prop
  | moved (pc : DaemonWriterPc) : WriterMove g i (g.setWriter i pc)
  | failed : WriterMove g i (g.failWriter i)
  | lost (write : DownstreamWrite) (rest : List DownstreamWrite)
      (hqueue : g.downstreamWrites = write :: rest) :
      WriterMove g i ((g.dropWrite rest).failWriter i)
  | wrote (write : DownstreamWrite) (rest : List DownstreamWrite) (connection : Nat)
      (hqueue : g.downstreamWrites = write :: rest)
      (hwriter : g.downstreamWriter = some connection) :
      WriterMove g i (((g.dropWrite rest).recordSent write connection).setWriter i .writing)
  | reported : WriterMove g i (g.reportFailure.setWriter i .ended)

theorem writer_move {i : Nat} {writer : DaemonWriterPc} {a : WriterAction}
    (hstep : g.writerStep i writer a = some h) : WriterMove g i h := by
  cases a with
  | run =>
      simp only [writerStep] at hstep
      split at hstep
      · cases hwriter : g.downstreamWriter with
        | none =>
            rw [hwriter] at hstep
            cases hstep
            exact .moved .ended
        | some connection =>
            rw [hwriter] at hstep
            cases hstep
            exact .moved .waiting
      · cases hstep
  | write =>
      simp only [writerStep] at hstep
      split at hstep
      · cases hqueue : g.downstreamWrites with
        | nil =>
            rw [hqueue] at hstep
            cases hstep
        | cons write rest =>
            cases hwriter : g.downstreamWriter with
            | none =>
                rw [hqueue, hwriter] at hstep
                cases hstep
                exact .lost write rest hqueue
            | some connection =>
                rw [hqueue, hwriter] at hstep
                cases hstep
                exact .wrote write rest connection hqueue hwriter
      · cases hstep
  | written =>
      simp only [writerStep] at hstep
      split at hstep
      · cases hstep
        exact .moved .waiting
      · cases hstep
  | raise =>
      simp only [writerStep] at hstep
      split at hstep
      · cases hstep
        exact .failed
      · cases hstep
  | report =>
      simp only [writerStep] at hstep
      split at hstep
      · cases hstep
        exact .reported
      · cases hstep

/-! ## The clients -/

/-- The steps of the handler of a client and of its loops. -/
inductive HandlerMove (g : NodeGateway) (i : Nat) (client : GatewayClient) : NodeGateway → Prop
  | attempted (hpc : client.pc = .accepted) : HandlerMove g i client (g.handleClient i client)
  | rejected (hpc : client.pc = .rejecting) :
      HandlerMove g i client (g.setClient i { client with pc := .left, closed := true })
  | served (hpc : client.pc = .connected) :
      HandlerMove g i client
        (g.setClient i { client with pc := .serving, reading := true, writing := true })
  | received (frames : List Frame) (parser : FrameParser) (hreading : client.reading = true) :
      HandlerMove g i client (g.setClient i { client with frames, parser })
  | queued (frame : Frame) (rest : List Frame) (hreading : client.reading = true) :
      HandlerMove g i client
        ((g.setClient i { client with frames := rest }).queueWrite frame.raw "external")
  | readerEnded (hreading : client.reading = true) :
      HandlerMove g i client (g.setClient i { client with reading := false })
  | wrote (raw : Bytes) (rest : List Bytes) (hwriting : client.writing = true)
      (hqueue : g.externalWrites = raw :: rest) :
      HandlerMove g i client
        { g.setClient i { client with written := client.written ++ [raw] } with
          externalWrites := rest }
  | writerEnded (hwriting : client.writing = true) :
      HandlerMove g i client (g.setClient i { client with writing := false })
  | woken (hpc : client.pc = .serving) :
      HandlerMove g i client (g.setClient i { client.cancel with pc := .leaving })
  | left (hpc : client.pc = .leaving) : HandlerMove g i client (g.releaseClient i client)

theorem handler_move {i : Nat} {client : GatewayClient} {a : ClientAction}
    (hstep : g.clientStep i client a = some h) : HandlerMove g i client h := by
  cases a with
  | attempt =>
      obtain ⟨hpc, rfl⟩ := of_guarded hstep
      exact .attempted hpc
  | reject =>
      obtain ⟨hpc, rfl⟩ := of_guarded hstep
      exact .rejected hpc
  | serve =>
      obtain ⟨hpc, rfl⟩ := of_guarded hstep
      exact .served hpc
  | receive data =>
      obtain ⟨hguard, rfl⟩ := of_guarded hstep
      exact .received _ _ hguard.1
  | queue =>
      simp only [clientStep] at hstep
      split at hstep
      · cases hstep
      next frame rest hframes =>
        obtain ⟨hguard, rfl⟩ := of_guarded hstep
        exact .queued frame rest hguard.1
  | readerEnds =>
      obtain ⟨hguard, rfl⟩ := of_guarded hstep
      exact .readerEnded hguard.1
  | write =>
      simp only [clientStep] at hstep
      split at hstep
      · cases hstep
      next raw rest hqueue =>
        obtain ⟨hwriting, rfl⟩ := of_guarded hstep
        exact .wrote raw rest hwriting hqueue
  | writerEnds =>
      obtain ⟨hwriting, rfl⟩ := of_guarded hstep
      exact .writerEnded hwriting
  | wake =>
      obtain ⟨hguard, rfl⟩ := of_guarded hstep
      exact .woken hguard.1
  | leave =>
      obtain ⟨hpc, rfl⟩ := of_guarded hstep
      exact .left hpc

/-- An action is one of the life cycle, or beside it. -/
theorem lifecycle_or_beside (a : Action) :
    (∃ action, a = .lifecycle action) ∨ ∀ action, a ≠ .lifecycle action := by
  by_cases hlifecycle : ∃ action, a = .lifecycle action
  · exact .inl hlifecycle
  · exact .inr fun action hsame => hlifecycle ⟨action, hsame⟩

/-! ## What holds of every daemon reader -/

/-- A property of where a daemon reader is that is kept by its own steps. -/
structure ReaderRule (api : ClientApi) (g : NodeGateway) (P : DaemonReaderPc → Prop) : Prop where
  ended : P .ended
  failing : ∀ pc, pc ≠ .ended → P pc → P .failing
  reading : ∀ pc connection, pc ≠ .ended → P pc → g.downstreamReader = some connection →
    P (.reading connection)
  received : ∀ connection frames, P (.reading connection) → P (.feeding connection frames)
  unparsed : ∀ connection frame rest,
    P (.feeding connection (frame :: rest)) → P (.feeding connection rest)
  parsed : ∀ connection frame message rest, api.parseFromRadio frame.payload = some message →
    P (.feeding connection (frame :: rest)) → P (.handling connection frame message rest)
  handled : ∀ connection frame message rest,
    P (.handling connection frame message rest) → P (.feeding connection rest)

/-- Every daemon reader is at a place of which the property holds. -/
def Readers (P : DaemonReaderPc → Prop) (g : NodeGateway) : Prop :=
  ∀ reader ∈ g.readers, P reader.pc

section Readers

variable {P : DaemonReaderPc → Prop}

theorem Readers.of_same (hall : g.Readers P) (hsame : h.readers = g.readers) : h.Readers P := by
  unfold Readers
  rw [hsame]
  exact hall

theorem Readers.setReader (hall : g.Readers P) {i : Nat} {pc : DaemonReaderPc} (hpc : P pc)
    (hsame : h.readers = (g.setReader i pc).readers) : h.Readers P := by
  intro reader hmember
  rw [hsame] at hmember
  rcases mem_modify_cases hmember with hold | ⟨before, _, rfl⟩
  · exact hall reader hold
  · exact hpc

theorem Readers.failReader (hall : g.Readers P) (hended : P .ended) (hfailing : P .failing)
    (i : Nat) : (g.failReader i).Readers P := by
  unfold NodeGateway.failReader fail
  cases g.state with
  | stopped => exact hall.setReader hended rfl
  | connecting => exact hall.setReader hfailing rfl
  | running => exact hall.setReader hfailing rfl
  | failed => exact hall.setReader hended rfl
  | stopping => exact hall.setReader hended rfl

theorem readers_handleMessage (connection : Nat) (frame : Frame) (message : DaemonMessage) :
    (g.handleMessage connection frame message).readers = g.readers := by
  obtain ⟨configWaiter, hresolved⟩ := g.resolveWaiter_eq message
  unfold handleMessage
  rw [hresolved]
  split
  · unfold queueRfFrame
    split
    · rfl
    · rfl
  · unfold forwardFrame
    split
    · rfl
    · split
      · rfl
      · rfl

theorem Readers.readerStep (rule : ReaderRule api g P) (hall : g.Readers P) {i : Nat}
    {reader : DaemonReader} (hat : g.readers[i]? = some reader) {a : ReaderAction}
    (hstep : g.readerStep api i reader a = some h) : h.Readers P := by
  have hpc : P reader.pc := hall reader (List.mem_of_getElem? hat)
  cases reader_move hstep with
  | ended => exact hall.setReader rule.ended rfl
  | reading connection hruns hreader =>
      exact hall.setReader (rule.reading reader.pc connection hruns hpc hreader) rfl
  | failed hruns =>
      exact hall.failReader rule.ended (rule.failing reader.pc hruns hpc) i
  | received connection frames parser hreading =>
      rw [hreading] at hpc
      intro other hmember
      rcases List.mem_or_eq_of_mem_set hmember with hold | rfl
      · exact hall other hold
      · exact rule.received connection frames hpc
  | unparsed connection frame rest hfeeding _ =>
      rw [hfeeding] at hpc
      exact hall.setReader (rule.unparsed connection frame rest hpc) rfl
  | parsed connection frame message rest hfeeding hparse =>
      rw [hfeeding] at hpc
      exact hall.setReader (rule.parsed connection frame message rest hparse hpc) rfl
  | handled connection frame message rest hhandling =>
      rw [hhandling] at hpc
      have hsame := hall.of_same (readers_handleMessage connection frame message)
      exact hsame.setReader (rule.handled connection frame message rest hpc) rfl
  | reported _ =>
      have hsame : g.reportFailure.Readers P := hall.of_same rfl
      exact hsame.setReader rule.ended rfl

theorem Readers.cancelTasks (hended : P .ended) (g : NodeGateway) : g.cancelTasks.Readers P := by
  intro reader hmember
  obtain ⟨before, _, rfl⟩ := List.mem_map.mp hmember
  exact hended

theorem Readers.append (hspawned : P .spawned) (hall : g.Readers P)
    (hsame : h.readers = g.readers ++ [({} : DaemonReader)]) : h.Readers P := by
  intro reader hmember
  rw [hsame] at hmember
  rcases List.mem_append.mp hmember with hold | hnew
  · exact hall reader hold
  · rw [List.mem_singleton.mp hnew]
    exact hspawned

theorem Readers.lifecycleStep (hended : P .ended) (hspawned : P .spawned) (hall : g.Readers P)
    {a : LifecycleAction} (hstep : g.lifecycleStep api a = some h) : h.Readers P := by
  cases lifecycle_move hstep with
  | start _ =>
      refine hall.of_same ?_
      unfold startUnlocked
      cases g.state <;> rfl
  | connected _ =>
      refine Readers.append hspawned hall ?_
      unfold connectDaemon
      cases encodeFrame (api.serializeWantConfig READINESS_NONCE) <;> rfl
  | connectFailed _ => exact hall.of_same rfl
  | retry _ => exact hall.of_same rfl
  | requested raw _ => exact hall.of_same rfl
  | configured _ => exact hall.of_same rfl
  | refused _ => exact hall.setReader (i := g.readers.length - 1) hended rfl
  | discarded _ => exact hall.of_same rfl
  | listen _ => exact hall.of_same rfl
  | serve _ _ => exact hall.of_same rfl
  | unreserved _ => exact hall.of_same rfl
  | returned _ => exact hall.of_same rfl
  | raised _ => exact hall.of_same rfl
  | stop _ =>
      refine hall.of_same ?_
      unfold stopUnlocked
      cases g.state <;> rfl
  | transportsClosed reason _ =>
      cases reason with
      | alreadyStopped => exact hall.of_same rfl
      | failedStart => exact (Readers.cancelTasks hended g.clearTransports).of_same rfl
      | stop => exact (Readers.cancelTasks hended g.clearTransports).of_same rfl
  | tasksCancelled reason _ =>
      refine hall.of_same ?_
      cases reason <;> rfl

theorem readers_failWriter (i : Nat) : (g.failWriter i).readers = g.readers := by
  unfold failWriter fail
  cases g.state <;> rfl

theorem readers_writerStep {i : Nat} {writer : DaemonWriterPc} {a : WriterAction}
    (hstep : g.writerStep i writer a = some h) : h.readers = g.readers := by
  cases writer_move hstep with
  | moved pc => rfl
  | failed => exact readers_failWriter i
  | lost write rest _ => exact readers_failWriter i
  | wrote write rest connection _ _ => rfl
  | reported => rfl

theorem readers_clientStep {i : Nat} {client : GatewayClient} {a : ClientAction}
    (hstep : g.clientStep i client a = some h) : h.readers = g.readers := by
  cases handler_move hstep with
  | attempted _ =>
      unfold handleClient
      split
      · rfl
      · split
        · rfl
        · rfl
  | rejected _ => rfl
  | served _ => rfl
  | received frames parser _ => rfl
  | queued frame rest _ => rfl
  | readerEnded _ => rfl
  | wrote raw rest _ _ => rfl
  | writerEnded _ => rfl
  | woken _ => rfl
  | left _ => rfl

theorem readers_sendToRadio (message : Bytes) (source : String) :
    (g.sendToRadio message source).readers = g.readers := by
  unfold sendToRadio
  split
  · split
    · rfl
    · split
      · rfl
      · rfl
  · rfl

theorem readers_takeRfFrame (hstep : g.takeRfFrame = some h) : h.readers = g.readers := by
  unfold takeRfFrame at hstep
  split at hstep
  · cases hstep
  · cases hstep
    rfl

/-- Beside the life cycle every step keeps what the steps of the readers keep. -/
theorem Readers.beside (rule : ReaderRule api g P) (hall : g.Readers P) {a : Action}
    (hbeside : ∀ action, a ≠ .lifecycle action) (hstep : g.step api a = some h) :
    h.Readers P := by
  cases a with
  | lifecycle action => exact absurd rfl (hbeside action)
  | reader i a =>
      obtain ⟨reader, hat, hstep⟩ := Option.bind_eq_some_iff.mp hstep
      exact hall.readerStep rule hat hstep
  | writer i a =>
      obtain ⟨writer, _, hstep⟩ := Option.bind_eq_some_iff.mp hstep
      exact hall.of_same (readers_writerStep hstep)
  | accept isPublic =>
      obtain ⟨_, rfl⟩ := of_guarded hstep
      exact hall.of_same rfl
  | client i a =>
      obtain ⟨client, _, hstep⟩ := Option.bind_eq_some_iff.mp hstep
      exact hall.of_same (readers_clientStep hstep)
  | reservePublicListener =>
      cases hstep
      exact hall.of_same rfl
  | enablePublicClients =>
      cases hstep
      refine hall.of_same ?_
      unfold enablePublicClients
      cases g.state <;> rfl
  | sendToRadio message source =>
      cases hstep
      exact hall.of_same (readers_sendToRadio message source)
  | takeRfFrame => exact hall.of_same (readers_takeRfFrame hstep)

theorem Readers.step (rule : ReaderRule api g P) (hspawned : P .spawned) (hall : g.Readers P)
    {a : Action} (hstep : g.step api a = some h) : h.Readers P := by
  rcases lifecycle_or_beside a with ⟨action, rfl⟩ | hbeside
  · exact hall.lifecycleStep rule.ended hspawned hstep
  · exact hall.beside rule hbeside hstep

end Readers

/-! ## Steps beside the life cycle -/

/-- What every other step leaves to the holder of the life cycle lock; a loop may fail. -/
structure Aside (g h : NodeGateway) : Prop where
  lifecycle : h.lifecycle = g.lifecycle
  period : h.period = g.period
  downstreamReader : h.downstreamReader = g.downstreamReader
  downstreamWriter : h.downstreamWriter = g.downstreamWriter
  state : h.state = g.state ∨ h.state = .failed ∧ g.state ≠ .stopped

theorem aside_failReader (i : Nat) : Aside g (g.failReader i) := by
  unfold failReader fail
  cases hstate : g.state with
  | connecting => exact ⟨rfl, rfl, rfl, rfl, .inr ⟨rfl, fun h => by rw [hstate] at h; cases h⟩⟩
  | running => exact ⟨rfl, rfl, rfl, rfl, .inr ⟨rfl, fun h => by rw [hstate] at h; cases h⟩⟩
  | stopped => exact ⟨rfl, rfl, rfl, rfl, .inl rfl⟩
  | failed => exact ⟨rfl, rfl, rfl, rfl, .inl rfl⟩
  | stopping => exact ⟨rfl, rfl, rfl, rfl, .inl rfl⟩

theorem aside_failWriter (i : Nat) : Aside g (g.failWriter i) := by
  unfold failWriter fail
  cases hstate : g.state with
  | connecting => exact ⟨rfl, rfl, rfl, rfl, .inr ⟨rfl, fun h => by rw [hstate] at h; cases h⟩⟩
  | running => exact ⟨rfl, rfl, rfl, rfl, .inr ⟨rfl, fun h => by rw [hstate] at h; cases h⟩⟩
  | stopped => exact ⟨rfl, rfl, rfl, rfl, .inl rfl⟩
  | failed => exact ⟨rfl, rfl, rfl, rfl, .inl rfl⟩
  | stopping => exact ⟨rfl, rfl, rfl, rfl, .inl rfl⟩

theorem aside_handleMessage (connection : Nat) (frame : Frame) (message : DaemonMessage) :
    Aside g (g.handleMessage connection frame message) := by
  obtain ⟨configWaiter, hresolved⟩ := g.resolveWaiter_eq message
  unfold handleMessage
  rw [hresolved]
  split
  · unfold queueRfFrame
    split
    · exact ⟨rfl, rfl, rfl, rfl, .inl rfl⟩
    · exact ⟨rfl, rfl, rfl, rfl, .inl rfl⟩
  · unfold forwardFrame
    split
    · exact ⟨rfl, rfl, rfl, rfl, .inl rfl⟩
    · split
      · exact ⟨rfl, rfl, rfl, rfl, .inl rfl⟩
      · exact ⟨rfl, rfl, rfl, rfl, .inl rfl⟩

theorem aside_readerStep {i : Nat} {reader : DaemonReader} {a : ReaderAction}
    (hstep : g.readerStep api i reader a = some h) : Aside g h := by
  cases reader_move hstep with
  | ended => exact ⟨rfl, rfl, rfl, rfl, .inl rfl⟩
  | reading connection _ _ => exact ⟨rfl, rfl, rfl, rfl, .inl rfl⟩
  | failed _ => exact aside_failReader i
  | received connection frames parser _ => exact ⟨rfl, rfl, rfl, rfl, .inl rfl⟩
  | unparsed connection frame rest _ _ => exact ⟨rfl, rfl, rfl, rfl, .inl rfl⟩
  | parsed connection frame message rest _ _ => exact ⟨rfl, rfl, rfl, rfl, .inl rfl⟩
  | handled connection frame message rest _ =>
      have hhandled := aside_handleMessage (g := g) connection frame message
      exact ⟨hhandled.1, hhandled.2, hhandled.3, hhandled.4, hhandled.5⟩
  | reported _ => exact ⟨rfl, rfl, rfl, rfl, .inl rfl⟩

theorem aside_writerStep {i : Nat} {writer : DaemonWriterPc} {a : WriterAction}
    (hstep : g.writerStep i writer a = some h) : Aside g h := by
  cases writer_move hstep with
  | moved pc => exact ⟨rfl, rfl, rfl, rfl, .inl rfl⟩
  | failed => exact aside_failWriter i
  | lost write rest _ =>
      have hfailed := aside_failWriter (g := g.dropWrite rest) i
      exact ⟨hfailed.1, hfailed.2, hfailed.3, hfailed.4, hfailed.5⟩
  | wrote write rest connection _ _ => exact ⟨rfl, rfl, rfl, rfl, .inl rfl⟩
  | reported => exact ⟨rfl, rfl, rfl, rfl, .inl rfl⟩

theorem aside_clientStep {i : Nat} {client : GatewayClient} {a : ClientAction}
    (hstep : g.clientStep i client a = some h) : Aside g h := by
  cases handler_move hstep with
  | attempted _ =>
      unfold handleClient
      split
      · exact ⟨rfl, rfl, rfl, rfl, .inl rfl⟩
      · split
        · exact ⟨rfl, rfl, rfl, rfl, .inl rfl⟩
        · exact ⟨rfl, rfl, rfl, rfl, .inl rfl⟩
  | rejected _ => exact ⟨rfl, rfl, rfl, rfl, .inl rfl⟩
  | served _ => exact ⟨rfl, rfl, rfl, rfl, .inl rfl⟩
  | received frames parser _ => exact ⟨rfl, rfl, rfl, rfl, .inl rfl⟩
  | queued frame rest _ => exact ⟨rfl, rfl, rfl, rfl, .inl rfl⟩
  | readerEnded _ => exact ⟨rfl, rfl, rfl, rfl, .inl rfl⟩
  | wrote raw rest _ _ => exact ⟨rfl, rfl, rfl, rfl, .inl rfl⟩
  | writerEnded _ => exact ⟨rfl, rfl, rfl, rfl, .inl rfl⟩
  | woken _ => exact ⟨rfl, rfl, rfl, rfl, .inl rfl⟩
  | left _ => exact ⟨rfl, rfl, rfl, rfl, .inl rfl⟩

theorem aside_step {a : Action} (hbeside : ∀ action, a ≠ .lifecycle action)
    (hstep : g.step api a = some h) : Aside g h := by
  cases a with
  | lifecycle action => exact absurd rfl (hbeside action)
  | reader i action =>
      obtain ⟨reader, _, hstep⟩ := Option.bind_eq_some_iff.mp hstep
      exact aside_readerStep hstep
  | writer i action =>
      obtain ⟨writer, _, hstep⟩ := Option.bind_eq_some_iff.mp hstep
      exact aside_writerStep hstep
  | accept isPublic =>
      obtain ⟨_, rfl⟩ := of_guarded hstep
      exact ⟨rfl, rfl, rfl, rfl, .inl rfl⟩
  | client i action =>
      obtain ⟨client, _, hstep⟩ := Option.bind_eq_some_iff.mp hstep
      exact aside_clientStep hstep
  | reservePublicListener =>
      cases hstep
      exact ⟨rfl, rfl, rfl, rfl, .inl rfl⟩
  | enablePublicClients =>
      cases hstep
      unfold enablePublicClients
      split
      · exact ⟨rfl, rfl, rfl, rfl, .inl rfl⟩
      · exact ⟨rfl, rfl, rfl, rfl, .inl rfl⟩
      · exact ⟨rfl, rfl, rfl, rfl, .inl rfl⟩
  | sendToRadio message source =>
      cases hstep
      unfold sendToRadio
      split
      · split
        · exact ⟨rfl, rfl, rfl, rfl, .inl rfl⟩
        · split
          · exact ⟨rfl, rfl, rfl, rfl, .inl rfl⟩
          · exact ⟨rfl, rfl, rfl, rfl, .inl rfl⟩
      · exact ⟨rfl, rfl, rfl, rfl, .inl rfl⟩
  | takeRfFrame =>
      simp only [step, takeRfFrame] at hstep
      split at hstep
      · cases hstep
      · cases hstep
        exact ⟨rfl, rfl, rfl, rfl, .inl rfl⟩

end NodeGateway

end MeshtasticLab.Gateway

/-
  Gateway/OneClient.lean --- one client at a time, with a stream of its own.

  WHAT THIS FILE IS FOR

  Two listeners, the two loops of every client, the daemon reader and the cleanup of
  a client share one slot, one queue and three flags.  A handler that has taken the
  slot is the only one until it has been through its `finally`, which leaves slot,
  queue and flags as they were for a gateway without a client; so as long as no handler
  is left over when the listeners open, what is queued is for the client in the slot.

  `stop` takes the slot from a handler and does not wait for it.  When such a handler
  wakes in a later session, its `finally` spares the slot of the new client, which it
  looks at first, but not the flags and the queue.
-/
import MeshtasticLab.Gateway.GatewayMoves

set_option autoImplicit false

namespace MeshtasticLab.Gateway

open MeshtasticLab.Foundation

/-! ## The side of the clients -/

/-- What a client keeps of itself for its loops. -/
structure GatewayClient.Sound (client : GatewayClient) : Prop where
  loops : client.reading = true ∨ client.writing = true → client.pc = .serving
  fresh : client.pc = .accepted → client.written = []

section Sound

variable {c d : GatewayClient}

/-- A client whose loops do not run. -/
theorem GatewayClient.sound_of_still (hreading : c.reading = false) (hwriting : c.writing = false)
    (hfresh : c.pc = .accepted → c.written = []) : c.Sound := by
  refine ⟨fun hloops => ?_, hfresh⟩
  rw [hreading, hwriting] at hloops
  rcases hloops with hloop | hloop
  · cases hloop
  · cases hloop

theorem GatewayClient.Sound.still (h : c.Sound) (hpc : c.pc ≠ .serving) :
    c.reading = false ∧ c.writing = false := by
  constructor
  · rw [← Bool.not_eq_true]
    exact fun hreading => hpc (h.loops (.inl hreading))
  · rw [← Bool.not_eq_true]
    exact fun hwriting => hpc (h.loops (.inr hwriting))

/-- A handler that goes on from where it has no loops. -/
theorem GatewayClient.Sound.moved (h : c.Sound) (hpc : c.pc ≠ .serving)
    (hreading : d.reading = c.reading) (hwriting : d.writing = c.writing)
    (hlater : d.pc ≠ .accepted) : d.Sound :=
  sound_of_still (hreading.trans (h.still hpc).1) (hwriting.trans (h.still hpc).2)
    fun hfresh => absurd hfresh hlater

/-- A loop has ended, or only the client has changed. -/
theorem GatewayClient.Sound.fewer (h : c.Sound) (hreading : d.reading = true → c.reading = true)
    (hwriting : d.writing = true → c.writing = true) (hpc : d.pc = c.pc)
    (hwritten : d.written = c.written) : d.Sound := by
  refine ⟨fun hloops => ?_, fun hfresh => ?_⟩
  · rw [hpc]
    exact h.loops (hloops.imp hreading hwriting)
  · rw [hwritten]
    exact h.fresh (hpc.symm.trans hfresh)

end Sound

/-- What a step of something else leaves of a client. -/
structure GatewayClient.Keeps (c d : GatewayClient) : Prop where
  isPublic : d.isPublic = c.isPublic
  attached : d.attached = c.attached
  written : d.written = c.written
  since : d.since = c.since
  droppedBefore : d.droppedBefore = c.droppedBefore
  sound : c.Sound → d.Sound

theorem GatewayClient.Keeps.refl (c : GatewayClient) : c.Keeps c :=
  ⟨rfl, rfl, rfl, rfl, rfl, id⟩

theorem GatewayClient.keeps_close (c : GatewayClient) : c.Keeps c.close :=
  ⟨rfl, rfl, rfl, rfl, rfl, fun h => ⟨h.loops, h.fresh⟩⟩

theorem GatewayClient.keeps_cancel (c : GatewayClient) : c.Keeps c.cancel :=
  ⟨rfl, rfl, rfl, rfl, rfl, fun h => sound_of_still rfl rfl h.fresh⟩

theorem GatewayClient.attached_of_serving {c : GatewayClient} (hpc : c.pc = .serving) :
    c.attached = true := by
  unfold GatewayClient.attached
  rw [hpc]

/-- Clients that a step keeps, or that do not have the slot before and after it. -/
structure Alike (before after : List GatewayClient) : Prop where
  back : ∀ (i : Nat) (d : GatewayClient), after[i]? = some d →
    (∃ c, before[i]? = some c ∧ c.Keeps d) ∨ d.attached = false
  forth : ∀ (i : Nat) (c : GatewayClient), before[i]? = some c → c.attached = true →
    ∃ d, after[i]? = some d ∧ c.Keeps d
  sound : (∀ c ∈ before, c.Sound) → ∀ d ∈ after, d.Sound

section Alike

variable {before after : List GatewayClient}

theorem Alike.refl (clients : List GatewayClient) : Alike clients clients :=
  ⟨fun _ d hd => .inl ⟨d, hd, .refl d⟩, fun _ c hc _ => ⟨c, hc, .refl c⟩, id⟩

/-- No client is attached. -/
def Vacant (clients : List GatewayClient) : Prop := ∀ client ∈ clients, client.attached = false

theorem Alike.vacant (halike : Alike before after) (hvacant : Vacant after) : Vacant before := by
  intro client hmember
  obtain ⟨i, hat⟩ := List.mem_iff_getElem?.mp hmember
  by_contra hattached
  rw [Bool.not_eq_false] at hattached
  obtain ⟨later, hlater, hkept⟩ := halike.forth i client hat hattached
  have hidle := hvacant later (List.mem_of_getElem? hlater)
  rw [hkept.attached, hattached] at hidle
  cases hidle

theorem alike_map {f : GatewayClient → GatewayClient}
    (hf : ∀ c : GatewayClient, c.Keeps (f c)) :
    Alike before (before.map f) := by
  refine ⟨fun i d hd => ?_, fun i c hc _ => ?_, fun hsound d hd => ?_⟩
  · rw [List.getElem?_map] at hd
    obtain ⟨c, hc, rfl⟩ := Option.map_eq_some_iff.mp hd
    exact .inl ⟨c, hc, hf c⟩
  · exact ⟨f c, by rw [List.getElem?_map, hc]; rfl, hf c⟩
  · obtain ⟨c, hc, rfl⟩ := List.mem_map.mp hd
    exact (hf c).sound (hsound c hc)

theorem alike_set {i : Nat} {c d : GatewayClient} (hc : before[i]? = some c)
    (hkept : c.Keeps d ∨ c.attached = false ∧ d.attached = false ∧ (c.Sound → d.Sound)) :
    Alike before (before.set i d) := by
  have hlt := (List.getElem?_eq_some_iff.mp hc).1
  refine ⟨fun j e he => ?_, fun j e he hattached => ?_, fun hsound e he => ?_⟩
  · rcases getElem?_set_cases he with ⟨rfl, rfl⟩ | ⟨_, hold⟩
    · rcases hkept with hkept | ⟨_, hidle, _⟩
      · exact .inl ⟨c, hc, hkept⟩
      · exact .inr hidle
    · exact .inl ⟨e, hold, .refl e⟩
  · by_cases hsame : i = j
    · subst hsame
      rw [hc] at he
      cases he
      rcases hkept with hkept | ⟨hidle, _, _⟩
      · exact ⟨d, List.getElem?_set_self hlt, hkept⟩
      · rw [hattached] at hidle
        cases hidle
    · exact ⟨e, by rw [List.getElem?_set_ne hsame, he], .refl e⟩
  · rcases List.mem_or_eq_of_mem_set he with he | rfl
    · exact hsound e he
    · rcases hkept with hkept | ⟨_, _, hkept⟩
      · exact hkept.sound (hsound c (List.mem_of_getElem? hc))
      · exact hkept (hsound c (List.mem_of_getElem? hc))

theorem alike_closed (g : NodeGateway) : Alike g.clients g.closeClientWriter := by
  unfold NodeGateway.closeClientWriter
  cases g.clientWriter with
  | none => exact .refl _
  | some i =>
      change Alike g.clients (g.clients.modify i GatewayClient.close)
      rw [List.modify_eq_set_getElem?]
      cases hc : g.clients[i]? with
      | none => exact .refl _
      | some c => exact alike_set hc (.inl c.keeps_close)

theorem alike_accepted (isPublic : Bool) :
    Alike before (before ++ [({ isPublic } : GatewayClient)]) := by
  refine ⟨fun i d hd => ?_, fun i c hc _ => ?_, fun hsound d hd => ?_⟩
  · rw [List.getElem?_append] at hd
    split at hd
    · exact .inl ⟨d, hd, .refl d⟩
    · have hnew := List.mem_singleton.mp (List.mem_of_getElem? hd)
      subst hnew
      exact .inr rfl
  · refine ⟨c, ?_, .refl c⟩
    rw [List.getElem?_append_left (List.getElem?_eq_some_iff.mp hc).1, hc]
  · rcases List.mem_append.mp hd with hd | hd
    · exact hsound d hd
    · rw [List.mem_singleton.mp hd]
      exact GatewayClient.sound_of_still rfl rfl fun _ => rfl

end Alike

/-- What the clients share with the gateway. -/
structure ClientSide where
  clients : List GatewayClient
  clientWriter : Option Nat
  externalConnected : Bool
  clientDisconnected : Bool
  externalWrites : List Bytes
  droppedExternalFrames : Nat
  handled : List HandledFrame

/-- The end of `_handle_downstream_frame` is recorded. -/
def ClientSide.record (side : ClientSide) (frame : Frame) (dropped : Bool) : ClientSide :=
  { side with handled := side.handled ++ [{ frame, dropped }] }

/-- A frame is queued for the client, if there is one; `full` says that its queue is. -/
def ClientSide.forward (side : ClientSide) (full : Bool) (frame : Frame) : ClientSide :=
  match side.clientWriter with
  | none => side.record frame false
  | some _ =>
      if full then
        { side.record frame true with
          droppedExternalFrames := side.droppedExternalFrames + 1 }
      else { side.record frame false with externalWrites := side.externalWrites ++ [frame.raw] }

/-- The sides differ in the clients at most. -/
structure ClientSide.SameRest (before after : ClientSide) : Prop where
  clientWriter : after.clientWriter = before.clientWriter
  externalConnected : after.externalConnected = before.externalConnected
  clientDisconnected : after.clientDisconnected = before.clientDisconnected
  externalWrites : after.externalWrites = before.externalWrites
  droppedExternalFrames : after.droppedExternalFrames = before.droppedExternalFrames
  handled : after.handled = before.handled

theorem ClientSide.SameRest.refl (side : ClientSide) : side.SameRest side :=
  ⟨rfl, rfl, rfl, rfl, rfl, rfl⟩

theorem ClientSide.clients_forward (side : ClientSide) (full : Bool) (frame : Frame) :
    (side.forward full frame).clients = side.clients := by
  unfold ClientSide.forward
  split
  · rfl
  · split
    · rfl
    · rfl

theorem ClientSide.clientWriter_forward (side : ClientSide) (full : Bool) (frame : Frame) :
    (side.forward full frame).clientWriter = side.clientWriter := by
  unfold ClientSide.forward
  split
  · rfl
  · split
    · rfl
    · rfl

namespace NodeGateway

def clientSide (g : NodeGateway) : ClientSide where
  clients := g.clients
  clientWriter := g.clientWriter
  externalConnected := g.externalConnected
  clientDisconnected := g.clientDisconnected
  externalWrites := g.externalWrites
  droppedExternalFrames := g.droppedExternalFrames
  handled := g.handled

/-- Whether a frame belongs into the stream of a client: the daemon's message can be
parsed, and it is not a simulated RF frame. -/
def forwards (api : ClientApi) (frame : Frame) : Bool :=
  match api.parseFromRadio frame.payload with
  | none => false
  | some message => message.simulatedRf.isNone

/-- Whether transports or tasks are being taken down. -/
def cleaning (g : NodeGateway) : Bool :=
  match g.lifecycle with
  | .closing _ => true
  | .cancelling _ => true
  | _ => false

/-- What a step does to the side of the clients. -/
inductive ClientMove (api : ClientApi) (g h : NodeGateway) : Prop
  | kept (halike : Alike g.clients h.clients)
      (hrest : g.clientSide.SameRest h.clientSide)
  | attached (i : Nat) (client : GatewayClient) (hat : g.clients[i]? = some client)
      (hpc : client.pc = .accepted) (hslot : g.clientWriter = none)
      (hside : h.clientSide = (g.attachClient i client).clientSide)
  | released (i : Nat) (client : GatewayClient) (hat : g.clients[i]? = some client)
      (hpc : client.pc = .leaving)
      (hside : h.clientSide = (g.releaseClient i client).clientSide)
  | wrote (i : Nat) (client : GatewayClient) (raw : Bytes) (rest : List Bytes)
      (hat : g.clients[i]? = some client) (hwriting : client.writing = true)
      (hqueue : g.externalWrites = raw :: rest)
      (hside : h.clientSide =
        { g.clientSide with
          clients := g.clients.set i { client with written := client.written ++ [raw] }
          externalWrites := rest })
  | recorded (frame : Frame) (hforwards : forwards api frame = false)
      (hside : h.clientSide = g.clientSide.record frame false)
  | forwarded (frame : Frame) (full : Bool) (hforwards : forwards api frame = true)
      (hside : h.clientSide = g.clientSide.forward full frame)
  | cleaned (hcleaning : g.cleaning = true) (halike : Alike g.clients h.clients)
      (hslot : h.clientWriter = none ∨ h.clientWriter = g.clientWriter)
      (hconnected : h.externalConnected = false ∨ h.externalConnected = g.externalConnected)
      (hdisconnected : h.clientDisconnected = g.clientDisconnected)
      (hqueue : h.externalWrites = g.externalWrites)

/-- A message that is being handled is what its frame was parsed to. -/
def Parsed (api : ClientApi) (pc : DaemonReaderPc) : Prop :=
  ∀ (connection : Nat) (frame : Frame) (message : DaemonMessage) (rest : List Frame),
    pc = .handling connection frame message rest →
      api.parseFromRadio frame.payload = some message

section Moves

variable {api : ClientApi} {g h : NodeGateway}

theorem ClientMove.of_same (hside : h.clientSide = g.clientSide) : ClientMove api g h := by
  have hclients : h.clients = g.clients := congrArg ClientSide.clients hside
  exact .kept (hclients ▸ .refl g.clients) (hside ▸ .refl g.clientSide)

/-- Only the clients change, and they are alike. -/
theorem ClientMove.of_alike (halike : Alike g.clients h.clients)
    (hside : h.clientSide = { g.clientSide with clients := h.clients }) : ClientMove api g h := by
  refine .kept halike ?_
  rw [hside]
  exact ⟨rfl, rfl, rfl, rfl, rfl, rfl⟩

theorem clientSide_failReader (i : Nat) : (g.failReader i).clientSide = g.clientSide := by
  unfold failReader fail
  cases g.state <;> rfl

theorem clientSide_failWriter (i : Nat) : (g.failWriter i).clientSide = g.clientSide := by
  unfold failWriter fail
  cases g.state <;> rfl

theorem move_startUnlocked : ClientMove api g g.startUnlocked := by
  refine .of_same ?_
  unfold startUnlocked
  cases g.state <;> rfl

theorem move_failStart : ClientMove api g g.failStart :=
  .of_alike (alike_closed g) rfl

theorem move_connectDaemon : ClientMove api g (g.connectDaemon api) := by
  unfold connectDaemon
  cases encodeFrame (api.serializeWantConfig READINESS_NONCE) with
  | none => exact .of_alike (alike_closed g) rfl
  | some raw => exact .of_same rfl

theorem move_stopUnlocked : ClientMove api g g.stopUnlocked := by
  unfold stopUnlocked
  cases g.state <;> exact .of_alike (alike_closed g) rfl

theorem move_closeTransports {reason : CloseReason} (hpc : g.lifecycle = .closing reason) :
    ClientMove api g (g.closeTransports reason) := by
  have hcleaning : g.cleaning = true := by
    unfold cleaning
    rw [hpc]
  cases reason with
  | alreadyStopped => exact .cleaned hcleaning (.refl _) (.inl rfl) (.inr rfl) rfl rfl
  | failedStart =>
      exact .cleaned hcleaning (alike_map GatewayClient.keeps_cancel) (.inl rfl) (.inr rfl) rfl rfl
  | stop =>
      exact .cleaned hcleaning (alike_map GatewayClient.keeps_cancel) (.inl rfl) (.inr rfl) rfl rfl

theorem move_finishCancelling {reason : CloseReason} (hpc : g.lifecycle = .cancelling reason) :
    ClientMove api g (g.finishCancelling reason) := by
  have hcleaning : g.cleaning = true := by
    unfold cleaning
    rw [hpc]
  cases reason with
  | stop => exact .cleaned hcleaning (.refl _) (.inr rfl) (.inl rfl) rfl rfl
  | failedStart => exact .of_same rfl
  | alreadyStopped => exact .of_same rfl

theorem move_lifecycleStep {a : LifecycleAction} (hstep : g.lifecycleStep api a = some h) :
    ClientMove api g h := by
  cases lifecycle_move hstep with
  | start _ => exact move_startUnlocked
  | connected _ => exact move_connectDaemon
  | connectFailed _ => exact .of_same rfl
  | retry _ => exact .of_same rfl
  | requested raw _ => exact .of_same rfl
  | configured _ => exact .of_same rfl
  | refused _ => exact .of_same rfl
  | discarded _ => exact .of_same rfl
  | listen _ => exact .of_same rfl
  | serve _ _ => exact .of_same rfl
  | unreserved _ => exact move_failStart
  | returned _ => exact .of_same rfl
  | raised _ => exact move_failStart
  | stop _ => exact move_stopUnlocked
  | transportsClosed reason hpc => exact move_closeTransports hpc
  | tasksCancelled reason hpc => exact move_finishCancelling hpc

theorem clientSide_queueRfFrame (connection : Nat) (packet : MeshPacket) :
    (g.queueRfFrame connection packet).clientSide = g.clientSide := by
  unfold queueRfFrame
  split
  · rfl
  · rfl

theorem clientSide_forwardFrame (frame : Frame) :
    (g.forwardFrame frame).clientSide =
      g.clientSide.forward (isFull g.queueSize g.externalWrites) frame := by
  cases hslot : g.clientWriter with
  | none =>
      have hside : g.clientSide.clientWriter = none := hslot
      simp only [forwardFrame, ClientSide.forward, hslot, hside]
      rfl
  | some i =>
      have hside : g.clientSide.clientWriter = some i := hslot
      simp only [forwardFrame, ClientSide.forward, hslot, hside]
      split
      · rfl
      · rfl

/-- The frame of a message belongs into the stream of the client unless the message is a
simulated RF frame. -/
theorem forwards_eq {frame : Frame} {message : DaemonMessage}
    (hparse : api.parseFromRadio frame.payload = some message) :
    forwards api frame = message.simulatedRf.isNone := by
  unfold forwards
  rw [hparse]

theorem move_handleMessage {connection : Nat} {frame : Frame} {message : DaemonMessage}
    (hparse : api.parseFromRadio frame.payload = some message)
    (hside : h.clientSide = (g.handleMessage connection frame message).clientSide) :
    ClientMove api g h := by
  have hforwards := forwards_eq hparse
  obtain ⟨configWaiter, hresolved⟩ := g.resolveWaiter_eq message
  cases hrf : message.simulatedRf with
  | some packet =>
      rw [hrf] at hforwards
      refine .recorded frame hforwards (hside.trans ?_)
      simp only [handleMessage, hrf]
      rw [hresolved]
      have hqueued := clientSide_queueRfFrame (g := { g with configWaiter }) connection packet
      exact congrArg (fun side : ClientSide => side.record frame false) hqueued
  | none =>
      rw [hrf] at hforwards
      refine .forwarded frame (isFull g.queueSize g.externalWrites) hforwards (hside.trans ?_)
      simp only [handleMessage, hrf]
      rw [hresolved]
      exact clientSide_forwardFrame frame

theorem move_readerStep (hparsed : g.Readers (Parsed api)) {i : Nat} {reader : DaemonReader}
    (hat : g.readers[i]? = some reader) {a : ReaderAction}
    (hstep : g.readerStep api i reader a = some h) : ClientMove api g h := by
  cases reader_move hstep with
  | ended => exact .of_same rfl
  | reading connection _ _ => exact .of_same rfl
  | failed _ => exact .of_same (clientSide_failReader i)
  | received connection frames parser _ => exact .of_same rfl
  | unparsed connection frame rest _ hparse =>
      refine .recorded frame ?_ rfl
      unfold forwards
      rw [hparse]
  | parsed connection frame message rest _ _ => exact .of_same rfl
  | handled connection frame message rest hpc =>
      have hreader := hparsed reader (List.mem_of_getElem? hat)
      exact move_handleMessage (hreader connection frame message rest hpc) rfl
  | reported _ => exact .of_alike (alike_closed g) rfl

theorem move_writerStep {i : Nat} {writer : DaemonWriterPc} {a : WriterAction}
    (hstep : g.writerStep i writer a = some h) : ClientMove api g h := by
  cases writer_move hstep with
  | moved pc => exact .of_same rfl
  | failed => exact .of_same (clientSide_failWriter i)
  | lost write rest _ => exact .of_same (clientSide_failWriter i)
  | wrote write rest connection _ _ => exact .of_same rfl
  | reported => exact .of_alike (alike_closed g) rfl

/-- Where a handler is, as far as the slot is concerned. -/
theorem attached_of_pc {client : GatewayClient} {pc : ClientPc} (hpc : client.pc = pc) :
    client.attached = { client with pc }.attached := by
  rw [← hpc]

theorem move_handleClient {i : Nat} {client : GatewayClient} (hat : g.clients[i]? = some client)
    (hpc : client.pc = .accepted) : ClientMove api g (g.handleClient i client) := by
  have hserving : client.pc ≠ .serving := fun hserving => by rw [hpc] at hserving; cases hserving
  have hrejected : ClientMove api g (g.rejectClient i client) := by
    refine .of_alike (alike_set hat (.inr ⟨attached_of_pc hpc, rfl, fun hsound => ?_⟩)) rfl
    exact hsound.moved hserving rfl rfl fun hfresh => by cases hfresh
  unfold handleClient
  split
  · exact hrejected
  · cases hslot : g.clientWriter with
    | some _ => exact hrejected
    | none => exact .attached i client hat hpc hslot rfl

theorem move_clientStep {i : Nat} {client : GatewayClient} (hat : g.clients[i]? = some client)
    {a : ClientAction} (hstep : g.clientStep i client a = some h) : ClientMove api g h := by
  cases handler_move hstep with
  | attempted hpc => exact move_handleClient hat hpc
  | rejected hpc =>
      have hserving : client.pc ≠ .serving := fun hserving => by
        rw [hpc] at hserving
        cases hserving
      refine .of_alike (alike_set hat (.inr ⟨attached_of_pc hpc, rfl, fun hsound => ?_⟩)) rfl
      exact hsound.moved hserving rfl rfl fun hfresh => by cases hfresh
  | served hpc =>
      refine .of_alike
        (alike_set hat (.inl ⟨rfl, (attached_of_pc hpc).symm, rfl, rfl, rfl, ?_⟩)) rfl
      exact fun _ => ⟨fun _ => rfl, fun hfresh => by cases hfresh⟩
  | received frames parser _ =>
      refine .of_alike (alike_set hat (.inl ⟨rfl, rfl, rfl, rfl, rfl, fun hsound => ?_⟩)) rfl
      exact hsound.fewer id id rfl rfl
  | queued frame rest _ =>
      refine .of_alike (alike_set hat (.inl ⟨rfl, rfl, rfl, rfl, rfl, fun hsound => ?_⟩)) rfl
      exact hsound.fewer id id rfl rfl
  | readerEnded _ =>
      refine .of_alike (alike_set hat (.inl ⟨rfl, rfl, rfl, rfl, rfl, fun hsound => ?_⟩)) rfl
      exact hsound.fewer (fun hreading => by cases hreading) id rfl rfl
  | wrote raw rest hwriting hqueue => exact .wrote i client raw rest hat hwriting hqueue rfl
  | writerEnded _ =>
      refine .of_alike (alike_set hat (.inl ⟨rfl, rfl, rfl, rfl, rfl, fun hsound => ?_⟩)) rfl
      exact hsound.fewer id (fun hwriting => by cases hwriting) rfl rfl
  | woken hpc =>
      refine .of_alike
        (alike_set hat (.inl ⟨rfl, (attached_of_pc hpc).symm, rfl, rfl, rfl, ?_⟩)) rfl
      exact fun _ => GatewayClient.sound_of_still rfl rfl fun hfresh => by cases hfresh
  | left hpc => exact .released i client hat hpc rfl

/-- Every step is one of the moves. -/
theorem move_step (hparsed : g.Readers (Parsed api)) {a : Action} (hstep : g.step api a = some h) :
    ClientMove api g h := by
  cases a with
  | lifecycle a => exact move_lifecycleStep hstep
  | reader i a =>
      obtain ⟨reader, hat, hstep⟩ := Option.bind_eq_some_iff.mp hstep
      exact move_readerStep hparsed hat hstep
  | writer i a =>
      obtain ⟨writer, _, hstep⟩ := Option.bind_eq_some_iff.mp hstep
      exact move_writerStep hstep
  | accept isPublic =>
      obtain ⟨_, rfl⟩ := of_guarded hstep
      exact .of_alike (alike_accepted isPublic) rfl
  | client i a =>
      obtain ⟨client, hat, hstep⟩ := Option.bind_eq_some_iff.mp hstep
      exact move_clientStep hat hstep
  | reservePublicListener =>
      cases hstep
      exact .of_same rfl
  | enablePublicClients =>
      cases hstep
      refine .of_same ?_
      unfold enablePublicClients
      cases g.state <;> rfl
  | sendToRadio message source =>
      cases hstep
      refine .of_same ?_
      unfold sendToRadio
      split
      · split
        · rfl
        · split
          · rfl
          · rfl
      · rfl
  | takeRfFrame =>
      simp only [step, takeRfFrame] at hstep
      split at hstep
      · cases hstep
      · cases hstep
        exact .of_same rfl

/-! ## In every run -/

theorem parsed_rule : ReaderRule api g (Parsed api) where
  ended := fun _ _ _ _ hpc => by cases hpc
  failing := fun _ _ _ _ _ _ _ hpc => by cases hpc
  reading := fun _ _ _ _ _ _ _ _ _ hpc => by cases hpc
  received := fun _ _ _ _ _ _ _ hpc => by cases hpc
  unparsed := fun _ _ _ _ _ _ _ _ hpc => by cases hpc
  parsed := fun _ _ _ _ hparse _ _ _ _ _ hpc => by
    cases hpc
    exact hparse
  handled := fun _ _ _ _ _ _ _ _ _ hpc => by cases hpc

/-- While the gateway is taken down it is not running. -/
def Down (g : NodeGateway) : Prop := g.cleaning = true → g.state ≠ .running

theorem Down.of_pc {g : NodeGateway} (hpc : g.cleaning = false) : Down g := by
  intro hcleaning
  rw [hpc] at hcleaning
  cases hcleaning

theorem Down.of_state {g : NodeGateway} (hstate : g.state ≠ .running) : Down g :=
  fun _ => hstate

theorem down_failStart : Down g.failStart := .of_state fun hrunning => by cases hrunning

theorem Down.lifecycle (hdown : Down g) {a : LifecycleAction} (hmove : LifecycleMove api g a h) :
    Down h := by
  cases hmove with
  | start hpc =>
      refine .of_pc ?_
      unfold startUnlocked cleaning
      cases g.state with
      | stopped => rfl
      | connecting => rw [hpc]
      | running => rw [hpc]
      | failed => rfl
      | stopping => rw [hpc]
  | connected _ =>
      unfold connectDaemon
      cases encodeFrame (api.serializeWantConfig READINESS_NONCE) with
      | none => exact down_failStart
      | some raw => exact .of_pc rfl
  | connectFailed _ => exact .of_pc rfl
  | retry _ => exact .of_pc rfl
  | requested raw _ => exact .of_pc rfl
  | configured _ => exact .of_pc rfl
  | refused _ => exact .of_pc rfl
  | discarded _ => exact .of_pc rfl
  | listen _ => exact .of_pc rfl
  | serve _ _ => exact .of_pc rfl
  | unreserved _ => exact down_failStart
  | returned _ => exact .of_pc rfl
  | raised _ => exact down_failStart
  | stop _ =>
      refine .of_state ?_
      unfold stopUnlocked
      cases g.state <;> exact fun hrunning => by cases hrunning
  | transportsClosed reason hpc =>
      have hstate : g.state ≠ .running := hdown (by unfold cleaning; rw [hpc])
      cases reason with
      | alreadyStopped => exact .of_pc rfl
      | failedStart => exact .of_state hstate
      | stop => exact .of_state hstate
  | tasksCancelled reason _ => cases reason <;> exact .of_pc rfl

theorem Down.step (hdown : Down g) {a : Action} (hstep : g.step api a = some h) : Down h := by
  rcases lifecycle_or_beside a with ⟨action, rfl⟩ | hbeside
  · exact hdown.lifecycle (lifecycle_move hstep)
  · have haside := aside_step hbeside hstep
    intro hcleaning
    have hbefore : g.cleaning = true := by
      unfold cleaning at hcleaning ⊢
      rw [← haside.lifecycle]
      exact hcleaning
    rcases haside.state with hstate | ⟨hstate, _⟩
    · rw [hstate]
      exact hdown hbefore
    · rw [hstate]
      exact fun hrunning => by cases hrunning

/-- The slot is of an attached client, and without one the gateway is as it was before
its first. -/
structure Tidy (side : ClientSide) : Prop where
  slot : ∀ i, side.clientWriter = some i → ∃ client, side.clients[i]? = some client ∧
    client.attached = true
  externalConnected : Vacant side.clients → side.externalConnected = false
  clientDisconnected : Vacant side.clients → side.clientDisconnected = true
  externalWrites : Vacant side.clients → side.externalWrites = []
  sound : ∀ client ∈ side.clients, client.Sound

section Tidy

variable {before after : ClientSide}

theorem tidy_new (queueSize : Nat) (publicClientsEnabled : Bool) :
    Tidy (new queueSize publicClientsEnabled).clientSide where
  slot := fun i hslot => by cases hslot
  externalConnected := fun _ => rfl
  clientDisconnected := fun _ => rfl
  externalWrites := fun _ => rfl
  sound := fun client hmember => by cases hmember

/-- Slot, flags and queue may become empty when the clients are alike. -/
theorem Tidy.alike (htidy : Tidy before) (halike : Alike before.clients after.clients)
    (hslot : after.clientWriter = none ∨ after.clientWriter = before.clientWriter)
    (hconnected : after.externalConnected = false ∨
      after.externalConnected = before.externalConnected)
    (hdisconnected : after.clientDisconnected = before.clientDisconnected)
    (hqueue : after.externalWrites = before.externalWrites) : Tidy after where
  slot := by
    intro i hsome
    rcases hslot with hnone | hsame
    · rw [hnone] at hsome
      cases hsome
    · rw [hsame] at hsome
      obtain ⟨client, hat, hattached⟩ := htidy.slot i hsome
      obtain ⟨later, hlater, hkept⟩ := halike.forth i client hat hattached
      exact ⟨later, hlater, hkept.attached.trans hattached⟩
  externalConnected := by
    intro hvacant
    rcases hconnected with hfalse | hsame
    · exact hfalse
    · exact hsame.trans (htidy.externalConnected (halike.vacant hvacant))
  clientDisconnected := fun hvacant =>
    hdisconnected.trans (htidy.clientDisconnected (halike.vacant hvacant))
  externalWrites := fun hvacant => hqueue.trans (htidy.externalWrites (halike.vacant hvacant))
  sound := halike.sound htidy.sound

/-- With an attached client it is enough that the slot is of one. -/
theorem tidy_occupied {client : GatewayClient} (hmember : client ∈ after.clients)
    (hattached : client.attached = true)
    (hslot : ∀ i, after.clientWriter = some i → ∃ holder, after.clients[i]? = some holder ∧
      holder.attached = true)
    (hsound : ∀ other ∈ after.clients, other.Sound) : Tidy after := by
  have hoccupied : ¬ Vacant after.clients := by
    intro hvacant
    have hidle := hvacant client hmember
    rw [hattached] at hidle
    cases hidle
  exact ⟨hslot, fun hvacant => absurd hvacant hoccupied, fun hvacant => absurd hvacant hoccupied,
    fun hvacant => absurd hvacant hoccupied, hsound⟩

theorem Tidy.attach (htidy : Tidy g.clientSide) {i : Nat} {client : GatewayClient}
    (hat : g.clients[i]? = some client) (hpc : client.pc = .accepted) :
    Tidy (g.attachClient i client).clientSide := by
  have hlt := (List.getElem?_eq_some_iff.mp hat).1
  have hclient := htidy.sound client (List.mem_of_getElem? hat)
  have hset := List.getElem?_set_self (a := { client with
    pc := .connected
    since := g.handled.length
    droppedBefore := g.droppedExternalFrames }) hlt
  refine tidy_occupied (List.mem_of_getElem? hset) rfl ?_ ?_
  · intro j hslot
    cases hslot
    exact ⟨_, hset, rfl⟩
  · intro other hmember
    rcases List.mem_or_eq_of_mem_set hmember with hold | rfl
    · exact htidy.sound other hold
    · refine hclient.moved (fun hserving => ?_) rfl rfl fun hfresh => by cases hfresh
      rw [hpc] at hserving
      cases hserving

theorem Tidy.release (htidy : Tidy g.clientSide) {i : Nat} {client : GatewayClient}
    (hat : g.clients[i]? = some client) (hpc : client.pc = .leaving) :
    Tidy (g.releaseClient i client).clientSide := by
  have hclient := htidy.sound client (List.mem_of_getElem? hat)
  refine ⟨?_, fun _ => rfl, fun _ => rfl, fun _ => rfl, ?_⟩
  · intro j hslot
    change (if g.clientWriter = some i then none else g.clientWriter) = some j at hslot
    split at hslot
    · cases hslot
    next hother =>
      obtain ⟨holder, hholder, hattached⟩ := htidy.slot j hslot
      have hne : i ≠ j := by
        rintro rfl
        exact hother hslot
      exact ⟨holder, (List.getElem?_set_ne hne).trans hholder, hattached⟩
  · intro other hmember
    rcases List.mem_or_eq_of_mem_set hmember with hold | rfl
    · exact htidy.sound other hold
    · refine hclient.moved (fun hserving => ?_) rfl rfl fun hfresh => by cases hfresh
      rw [hpc] at hserving
      cases hserving

/-- A client that has written stays attached where it was. -/
theorem Tidy.write (htidy : Tidy before) {i : Nat} {client : GatewayClient} {raw : Bytes}
    (hat : before.clients[i]? = some client) (hwriting : client.writing = true)
    (hclients : after.clients =
      before.clients.set i { client with written := client.written ++ [raw] })
    (hslot : after.clientWriter = before.clientWriter) : Tidy after := by
  have hlt := (List.getElem?_eq_some_iff.mp hat).1
  have hclient := htidy.sound client (List.mem_of_getElem? hat)
  have hattached := GatewayClient.attached_of_serving (hclient.loops (.inr hwriting))
  have hset := List.getElem?_set_self (a := { client with written := client.written ++ [raw] }) hlt
  rw [← hclients] at hset
  refine tidy_occupied (List.mem_of_getElem? hset) hattached ?_ ?_
  · intro j hsome
    rw [hslot] at hsome
    obtain ⟨holder, hholder, hattached'⟩ := htidy.slot j hsome
    by_cases hsame : i = j
    · subst hsame
      exact ⟨_, hset, hattached⟩
    · refine ⟨holder, ?_, hattached'⟩
      rw [hclients, List.getElem?_set_ne hsame, hholder]
  · intro other hmember
    rw [hclients] at hmember
    rcases List.mem_or_eq_of_mem_set hmember with hold | rfl
    · exact htidy.sound other hold
    · refine ⟨hclient.loops, fun hfresh => ?_⟩
      have hserving := hclient.loops (.inr hwriting)
      rw [show client.pc = .accepted from hfresh] at hserving
      cases hserving

theorem Tidy.forward (htidy : Tidy before) (full : Bool) (frame : Frame) :
    Tidy (before.forward full frame) := by
  cases hslot : before.clientWriter with
  | none =>
      have hrecorded : before.forward full frame = before.record frame false := by
        unfold ClientSide.forward
        rw [hslot]
      rw [hrecorded]
      exact htidy.alike (.refl _) (.inr rfl) (.inr rfl) rfl rfl
  | some i =>
      obtain ⟨holder, hat, hattached⟩ := htidy.slot i hslot
      have hclients := before.clients_forward full frame
      have hwriter := before.clientWriter_forward full frame
      refine tidy_occupied (hclients ▸ List.mem_of_getElem? hat) hattached ?_ ?_
      · rw [hwriter, hclients]
        exact htidy.slot
      · rw [hclients]
        exact htidy.sound

theorem Tidy.move (htidy : Tidy g.clientSide) (hmove : ClientMove api g h) :
    Tidy h.clientSide := by
  cases hmove with
  | kept halike hrest =>
      exact htidy.alike halike (.inr hrest.clientWriter) (.inr hrest.externalConnected)
        hrest.clientDisconnected hrest.externalWrites
  | attached i client hat hpc _ hside =>
      rw [hside]
      exact htidy.attach hat hpc
  | released i client hat hpc hside =>
      rw [hside]
      exact htidy.release hat hpc
  | wrote i client raw rest hat hwriting _ hside =>
      rw [hside]
      exact htidy.write hat hwriting rfl rfl
  | recorded frame _ hside =>
      rw [hside]
      exact htidy.alike (.refl _) (.inr rfl) (.inr rfl) rfl rfl
  | forwarded frame full _ hside =>
      rw [hside]
      exact htidy.forward full frame
  | cleaned _ halike hslot hconnected hdisconnected hqueue =>
      exact htidy.alike halike hslot hconnected hdisconnected hqueue

end Tidy

/-! ## In one session -/

/-- The frames of the stream of a client that have been handled since it was attached. -/
def streamFor (api : ClientApi) (side : ClientSide) (client : GatewayClient) :
    List HandledFrame :=
  (side.handled.drop client.since).filter fun handled => forwards api handled.frame

/-- The bytes of the frames that were not dropped. -/
def keptBytes (frames : List HandledFrame) : List Bytes :=
  (frames.filter fun handled => !handled.dropped).map fun handled => handled.frame.raw

/-- Slot, flags and queue are those of this client, and what it has been sent and what
is queued are what was handled for it, but for the frames that were counted. -/
structure Serves (api : ClientApi) (side : ClientSide) (i : Nat) (client : GatewayClient) :
    Prop where
  slot : side.clientWriter = some i
  externalConnected : side.externalConnected = client.isPublic
  clientDisconnected : side.clientDisconnected = false
  since : client.since ≤ side.handled.length
  stream : client.written ++ side.externalWrites = keptBytes (streamFor api side client)
  dropped : side.droppedExternalFrames =
    client.droppedBefore + (streamFor api side client).countP HandledFrame.dropped

/-- Every attached client is served. -/
def AllServed (api : ClientApi) (side : ClientSide) : Prop :=
  ∀ (i : Nat) (client : GatewayClient), side.clients[i]? = some client →
    client.attached = true → Serves api side i client

section Served

variable {before after : ClientSide} {i : Nat} {client : GatewayClient}

theorem allServed_of_vacant (hvacant : Vacant before.clients) : AllServed api before := by
  intro i client hat hattached
  rw [hvacant client (List.mem_of_getElem? hat)] at hattached
  cases hattached

/-- Only one client is attached at a time. -/
theorem AllServed.unique (hall : AllServed api before) {j : Nat} {other : GatewayClient}
    (hat : before.clients[i]? = some client) (hattached : client.attached = true)
    (hat' : before.clients[j]? = some other) (hattached' : other.attached = true) : i = j := by
  have hslot := (hall i client hat hattached).slot
  rw [(hall j other hat' hattached').slot] at hslot
  exact (Option.some.inj hslot).symm

theorem AllServed.vacant (hall : AllServed api before) (hslot : before.clientWriter = none) :
    Vacant before.clients := by
  intro client hmember
  obtain ⟨i, hat⟩ := List.mem_iff_getElem?.mp hmember
  by_contra hattached
  rw [Bool.not_eq_false] at hattached
  have hserved := (hall i client hat hattached).slot
  rw [hslot] at hserved
  cases hserved

theorem Serves.keeps (h : Serves api before i client) {later : GatewayClient}
    (hkept : client.Keeps later)
    (hrest : before.SameRest after) : Serves api after i later := by
  have hstream : streamFor api after later = streamFor api before client := by
    unfold streamFor
    rw [hrest.handled, hkept.since]
  refine ⟨hrest.clientWriter.trans h.slot, ?_, ?_, ?_, ?_, ?_⟩
  · rw [hkept.isPublic, hrest.externalConnected, h.externalConnected]
  · rw [hrest.clientDisconnected, h.clientDisconnected]
  · rw [hkept.since, hrest.handled]
    exact h.since
  · rw [hkept.written, hrest.externalWrites, hstream, h.stream]
  · rw [hkept.droppedBefore, hrest.droppedExternalFrames, hstream, h.dropped]

/-- What is handled while a client is attached comes last. -/
theorem streamFor_record (hsince : client.since ≤ before.handled.length) {handled : HandledFrame}
    (hhandled : after.handled = before.handled ++ [handled]) :
    streamFor api after client =
      streamFor api before client ++ if forwards api handled.frame then [handled] else [] := by
  unfold streamFor
  rw [hhandled, List.drop_append_of_le_length hsince, List.filter_append]
  simp only [List.filter_cons, List.filter_nil]

theorem Serves.record (h : Serves api before i client) {frame : Frame}
    (hforwards : forwards api frame = false) :
    Serves api (before.record frame false) i client := by
  have hstream :
      streamFor api (before.record frame false) client = streamFor api before client := by
    rw [streamFor_record h.since rfl, if_neg (by rw [hforwards]; exact Bool.false_ne_true),
      List.append_nil]
  refine ⟨h.slot, h.externalConnected, h.clientDisconnected, ?_, ?_, ?_⟩
  · exact h.since.trans (by simp [ClientSide.record])
  · rw [hstream]
    exact h.stream
  · rw [hstream]
    exact h.dropped

/-- A frame for the client is queued, or dropped and counted. -/
theorem Serves.forward (h : Serves api before i client) {frame : Frame}
    (hforwards : forwards api frame = true) (full : Bool) :
    Serves api (before.forward full frame) i client := by
  cases full with
  | false =>
      have hside : before.forward false frame =
          { before.record frame false with
            externalWrites := before.externalWrites ++ [frame.raw] } := by
        unfold ClientSide.forward
        rw [h.slot]
        rfl
      have hstream : streamFor api (before.forward false frame) client =
          streamFor api before client ++ [{ frame, dropped := false }] := by
        rw [streamFor_record h.since (by rw [hside]; rfl), if_pos hforwards]
      rw [hside] at hstream ⊢
      refine ⟨h.slot, h.externalConnected, h.clientDisconnected, ?_, ?_, ?_⟩
      · exact h.since.trans (by simp [ClientSide.record])
      · rw [hstream]
        change client.written ++ (before.externalWrites ++ [frame.raw]) = _
        rw [← List.append_assoc, h.stream]
        simp [keptBytes]
      · rw [hstream, List.countP_append]
        exact h.dropped
  | true =>
      have hside : before.forward true frame =
          { before.record frame true with
            droppedExternalFrames := before.droppedExternalFrames + 1 } := by
        unfold ClientSide.forward
        rw [h.slot]
        rfl
      have hstream : streamFor api (before.forward true frame) client =
          streamFor api before client ++ [{ frame, dropped := true }] := by
        rw [streamFor_record h.since (by rw [hside]; rfl), if_pos hforwards]
      rw [hside] at hstream ⊢
      refine ⟨h.slot, h.externalConnected, h.clientDisconnected, ?_, ?_, ?_⟩
      · exact h.since.trans (by simp [ClientSide.record])
      · rw [hstream]
        change client.written ++ before.externalWrites = _
        rw [h.stream]
        simp [keptBytes]
      · rw [hstream, List.countP_append]
        change before.droppedExternalFrames + 1 = _
        rw [h.dropped]
        rfl

/-- The client that takes the slot starts with an empty stream. -/
theorem AllServed.attach (hall : AllServed api g.clientSide) (htidy : Tidy g.clientSide)
    (hat : g.clients[i]? = some client) (hpc : client.pc = .accepted)
    (hslot : g.clientWriter = none) : AllServed api (g.attachClient i client).clientSide := by
  have hvacant := hall.vacant hslot
  intro j other hother hattached
  rcases getElem?_set_cases (l := g.clients) hother with ⟨rfl, rfl⟩ | ⟨_, hbefore⟩
  · have hempty : streamFor api (g.attachClient j client).clientSide
        { client with
          pc := .connected
          since := g.handled.length
          droppedBefore := g.droppedExternalFrames } = [] := by
      unfold streamFor
      exact congrArg (List.filter _) List.drop_length
    refine ⟨rfl, rfl, rfl, Nat.le_refl _, ?_, ?_⟩
    · rw [hempty]
      change client.written ++ g.clientSide.externalWrites = []
      rw [(htidy.sound client (List.mem_of_getElem? hat)).fresh hpc, htidy.externalWrites hvacant]
      rfl
    · rw [hempty]
      rfl
  · rw [hvacant other (List.mem_of_getElem? hbefore)] at hattached
    cases hattached

/-- The client that leaves was the only one. -/
theorem AllServed.release (hall : AllServed api g.clientSide)
    (hat : g.clients[i]? = some client) (hpc : client.pc = .leaving) :
    AllServed api (g.releaseClient i client).clientSide := by
  have hholder : client.attached = true := by
    unfold GatewayClient.attached
    rw [hpc]
  intro j other hother hattached
  rcases getElem?_set_cases (l := g.clients) hother with ⟨_, rfl⟩ | ⟨hne, hbefore⟩
  · cases hattached
  · exact absurd (hall.unique hat hholder hbefore hattached) hne.symm

/-- What the client writes was first in its queue. -/
theorem AllServed.write (hall : AllServed api before) (htidy : Tidy before) {raw : Bytes}
    {rest : List Bytes} (hat : before.clients[i]? = some client)
    (hwriting : client.writing = true) (hqueue : before.externalWrites = raw :: rest) :
    AllServed api
      { before with
        clients := before.clients.set i { client with written := client.written ++ [raw] }
        externalWrites := rest } := by
  have hclient := htidy.sound client (List.mem_of_getElem? hat)
  have hholder := GatewayClient.attached_of_serving (hclient.loops (.inr hwriting))
  have hserved := hall i client hat hholder
  intro j other hother hattached
  rcases getElem?_set_cases (l := before.clients) hother with ⟨rfl, rfl⟩ | ⟨hne, hbefore⟩
  · refine ⟨hserved.slot, hserved.externalConnected, hserved.clientDisconnected, hserved.since,
      ?_, hserved.dropped⟩
    change client.written ++ [raw] ++ rest = keptBytes (streamFor api before client)
    rw [← hserved.stream, hqueue, List.append_assoc]
    rfl
  · exact absurd (hall.unique hat hholder hbefore hattached) hne.symm

theorem AllServed.move (hall : AllServed api g.clientSide) (htidy : Tidy g.clientSide)
    (hrunning : g.cleaning = false) (hmove : ClientMove api g h) : AllServed api h.clientSide := by
  cases hmove with
  | kept halike hrest =>
      intro i later hlater hattached
      rcases halike.back i later hlater with ⟨client, hat, hkept⟩ | hidle
      · have hholder := hkept.attached.symm.trans hattached
        exact (hall i client hat hholder).keeps hkept hrest
      · rw [hattached] at hidle
        cases hidle
  | attached i client hat hpc hslot hside =>
      rw [hside]
      exact hall.attach htidy hat hpc hslot
  | released i client hat hpc hside =>
      rw [hside]
      exact hall.release hat hpc
  | wrote i client raw rest hat hwriting hqueue hside =>
      rw [hside]
      exact hall.write htidy hat hwriting hqueue
  | recorded frame hforwards hside =>
      rw [hside]
      exact fun i client hat hattached => (hall i client hat hattached).record hforwards
  | forwarded frame full hforwards hside =>
      rw [hside]
      intro i client hat hattached
      rw [ClientSide.clients_forward] at hat
      exact (hall i client hat hattached).forward hforwards full
  | cleaned hcleaning _ _ _ _ _ =>
      rw [hrunning] at hcleaning
      cases hcleaning

end Served

/-- What every run keeps. -/
structure Ordered (api : ClientApi) (g : NodeGateway) : Prop where
  parsed : g.Readers (Parsed api)
  down : Down g
  tidy : Tidy g.clientSide

theorem ordered_new (queueSize : Nat) (publicClientsEnabled : Bool) :
    Ordered api (new queueSize publicClientsEnabled) where
  parsed := fun reader hmember => by cases hmember
  down := .of_pc rfl
  tidy := tidy_new queueSize publicClientsEnabled

theorem Ordered.step (h : Ordered api g) {a : Action} {t : NodeGateway}
    (hstep : g.step api a = some t) : Ordered api t where
  parsed := h.parsed.step parsed_rule (fun _ _ _ _ hpc => by cases hpc) hstep
  down := h.down.step hstep
  tidy := h.tidy.move (move_step h.parsed hstep)

/-- When `start` opens its listeners, no handler of an earlier client is left that has not
been through its `finally`. -/
def HandlersGone (g : NodeGateway) (a : Action) : Prop :=
  a = .lifecycle .listen → Vacant g.clients

instance (clients : List GatewayClient) : Decidable (Vacant clients) :=
  inferInstanceAs (Decidable (∀ client ∈ clients, client.attached = false))

instance (g : NodeGateway) (a : Action) : Decidable (HandlersGone g a) :=
  inferInstanceAs (Decidable (_ → _))

/-- The gateway is RUNNING, or about to be. -/
def InSession (g : NodeGateway) : Prop := g.lifecycle = .listening ∨ g.state = .running

/-- A gateway comes into a session with its listeners only. -/
theorem inSession_of_step {a : Action} (hstep : g.step api a = some h) (hsession : InSession h) :
    InSession g ∨ a = .lifecycle .listen := by
  rcases lifecycle_or_beside a with ⟨action, rfl⟩ | hbeside
  · have hmove := lifecycle_move hstep
    cases hmove with
    | start hpc =>
        unfold startUnlocked InSession at *
        cases hstate : g.state <;> simp_all
    | connected hpc =>
        refine .inl (.inr ?_)
        unfold connectDaemon at hsession
        cases hencode : encodeFrame (api.serializeWantConfig READINESS_NONCE) with
        | none =>
            rw [hencode] at hsession
            rcases hsession with hlater | hlater <;> cases hlater
        | some raw =>
            rw [hencode] at hsession
            exact hsession.resolve_left fun hlater => by cases hlater
    | listen hpc => exact .inr rfl
    | serve hpc hreserved => exact .inl (.inl hpc)
    | unreserved hpc => exact .inl (.inl hpc)
    | returned hpc =>
        exact .inl (.inr (hsession.resolve_left fun hlater => by cases hlater))
    | stop hpc =>
        unfold stopUnlocked at hsession
        cases hstate : g.state <;> rw [hstate] at hsession <;>
          rcases hsession with hlater | hlater <;> cases hlater
    | raised hstarting => rcases hsession with hlater | hlater <;> cases hlater
    | transportsClosed reason hpc =>
        cases reason <;> exact .inl (.inr (hsession.resolve_left fun hlater => by cases hlater))
    | tasksCancelled reason hpc =>
        cases reason with
        | stop => rcases hsession with hlater | hlater <;> cases hlater
        | failedStart => exact .inl (.inr (hsession.resolve_left fun hlater => by cases hlater))
        | alreadyStopped =>
            exact .inl (.inr (hsession.resolve_left fun hlater => by cases hlater))
    | refused hpc => rcases hsession with hlater | hlater <;> cases hlater
    | _ => exact .inl (.inr (hsession.resolve_left fun hlater => by cases hlater))
  · have haside := aside_step hbeside hstep
    refine .inl (hsession.imp (haside.lifecycle.symm.trans ·) fun hrunning => ?_)
    rcases haside.state with hstate | ⟨hstate, _⟩
    · exact hstate.symm.trans hrunning
    · rw [hstate] at hrunning
      cases hrunning

/-- In a session the clients are served. -/
theorem served_step (hordered : Ordered api g) (hserved : InSession g → AllServed api g.clientSide)
    {a : Action} (hgone : HandlersGone g a) (hstep : g.step api a = some h)
    (hsession : InSession h) : AllServed api h.clientSide := by
  have hmove := move_step hordered.parsed hstep
  rcases inSession_of_step hstep hsession with hbefore | rfl
  · have hup : g.cleaning = false := by
      rw [← Bool.not_eq_true]
      intro hcleaning
      rcases hbefore with hpc | hrunning
      · simp [cleaning, hpc] at hcleaning
      · exact hordered.down hcleaning hrunning
    exact (hserved hbefore).move hordered.tidy hup hmove
  · have hvacant : Vacant g.clientSide.clients := hgone rfl
    have hup : g.cleaning = false := by
      obtain ⟨hpc, _⟩ := of_guarded hstep
      simp [cleaning, hpc]
    exact (allServed_of_vacant hvacant).move hordered.tidy hup hmove

theorem served_of_run {queueSize : Nat} {publicClientsEnabled : Bool}
    (hrun : Run (step api) HandlersGone (new queueSize publicClientsEnabled) g) :
    Ordered api g ∧ (InSession g → AllServed api g.clientSide) := by
  refine hrun.invariant
    (I := fun t => Ordered api t ∧ (InSession t → AllServed api t.clientSide)) ?_
    ⟨ordered_new _ _, fun hsession => by rcases hsession with hpc | hstate <;> contradiction⟩
  rintro t a u ⟨hordered, hserved⟩ hgone hstep
  exact ⟨hordered.step hstep, served_step hordered hserved hgone hstep⟩

end Moves

/-! ## One client with a clean stream -/

section Session

variable {api : ClientApi} {g : NodeGateway}

/-- At most one client is attached. -/
def OneAttached (g : NodeGateway) : Prop :=
  ∀ (i j : Nat) (client other : GatewayClient), g.clients[i]? = some client →
    client.attached = true → g.clients[j]? = some other → other.attached = true → i = j

/-- A client that comes while another is attached, or before its admission is enabled, is
counted as rejected; what its handler then does is to close its writer. -/
def RejectsOnly (api : ClientApi) (g : NodeGateway) : Prop :=
  ∀ (i : Nat) (client : GatewayClient), g.clients[i]? = some client →
    (client.pc = .accepted →
      ¬ Vacant g.clients ∨ client.isPublic = true ∧ g.publicClientsEnabled = false →
        g.step api (.client i .attempt) = some
          { g with
            clients := g.clients.set i { client with pc := .rejecting }
            rejectedClients := g.rejectedClients + 1 }) ∧
    (client.pc = .rejecting → ∀ (a : ClientAction) (h : NodeGateway),
      g.step api (.client i a) = some h →
        h = { g with clients := g.clients.set i { client with pc := .left, closed := true } })

/-- What an attached client was sent is a prefix of what was handled for it since it was
attached, without the frames that `dropped_external_frames` counts. -/
def CleanStreams (api : ClientApi) (g : NodeGateway) : Prop :=
  ∀ client ∈ g.clients, client.attached = true →
    client.written.flatten <+: (keptBytes (streamFor api g.clientSide client)).flatten ∧
      g.droppedExternalFrames = client.droppedBefore +
        (streamFor api g.clientSide client).countP HandledFrame.dropped

theorem handleClient_rejected {i : Nat} {client : GatewayClient}
    (hrejected : g.clientWriter ≠ none ∨ client.isPublic = true ∧ g.publicClientsEnabled = false) :
    g.handleClient i client = g.rejectClient i client := by
  unfold handleClient
  split
  · rfl
  next hadmitted =>
    rcases hrejected with hslot | hpublic
    · obtain ⟨holder, hholder⟩ := Option.ne_none_iff_exists'.mp hslot
      rw [hholder]
    · exact absurd hpublic hadmitted

theorem rejectsOnly (htidy : Tidy g.clientSide) (hall : AllServed api g.clientSide) :
    RejectsOnly api g := by
  intro i client hat
  refine ⟨fun hpc hrejected => ?_, fun hpc a h hstep => ?_⟩
  · have hslot : g.clientWriter ≠ none ∨
        client.isPublic = true ∧ g.publicClientsEnabled = false :=
      hrejected.imp_left fun hoccupied hnone => hoccupied (hall.vacant hnone)
    change g.clients[i]?.bind (fun client => g.clientStep i client .attempt) = _
    rw [hat]
    change (if client.pc = .accepted then some (g.handleClient i client) else none) = _
    rw [if_pos hpc, handleClient_rejected hslot]
    rfl
  · have hclient := htidy.sound client (List.mem_of_getElem? hat)
    have hserving : client.pc ≠ .serving := fun hserving => by rw [hpc] at hserving; cases hserving
    obtain ⟨hreading, hwriting⟩ := hclient.still hserving
    obtain ⟨client', hat', hstep⟩ := Option.bind_eq_some_iff.mp hstep
    rw [hat] at hat'
    cases hat'
    cases handler_move hstep with
    | rejected _ => rfl
    | attempted hother => rw [hpc] at hother; cases hother
    | served hother => rw [hpc] at hother; cases hother
    | woken hother => rw [hpc] at hother; cases hother
    | left hother => rw [hpc] at hother; cases hother
    | received _ _ hreads => rw [hreading] at hreads; cases hreads
    | queued _ _ hreads => rw [hreading] at hreads; cases hreads
    | readerEnded hreads => rw [hreading] at hreads; cases hreads
    | wrote _ _ hwrites _ => rw [hwriting] at hwrites; cases hwrites
    | writerEnded hwrites => rw [hwriting] at hwrites; cases hwrites

/-- What is said of the clients of a gateway that is RUNNING: there is one at a time, with
flags, slot and stream of its own. -/
structure ServesOne (api : ClientApi) (g : NodeGateway) : Prop where
  oneAttached : OneAttached g
  rejectsOnly : RejectsOnly api g
  clientDisconnected : g.clientDisconnected = true ↔ Vacant g.clients
  externalConnected : g.externalConnected = true ↔
    ∃ client ∈ g.clients, client.attached = true ∧ client.isPublic = true
  cleanStreams : CleanStreams api g

/-- In a run in which no handler is left over whenever the listeners open, a gateway that is
RUNNING serves one client. -/
theorem one_client_clean_stream {queueSize : Nat} {publicClientsEnabled : Bool}
    (hrun : Run (step api) HandlersGone (new queueSize publicClientsEnabled) g)
    (hrunning : g.state = .running) : ServesOne api g := by
  obtain ⟨hordered, hserved⟩ := served_of_run hrun
  have hall := hserved (.inr hrunning)
  refine ⟨?_, rejectsOnly hordered.tidy hall, ⟨?_, hordered.tidy.clientDisconnected⟩, ⟨?_, ?_⟩, ?_⟩
  · intro i j client other hat hattached hat' hattached'
    exact hall.unique hat hattached hat' hattached'
  · intro hdisconnected client hmember
    obtain ⟨i, hat⟩ := List.mem_iff_getElem?.mp hmember
    by_contra hattached
    rw [Bool.not_eq_false] at hattached
    have hserved := (hall i client hat hattached).clientDisconnected
    rw [show g.clientSide.clientDisconnected = true from hdisconnected] at hserved
    cases hserved
  · intro hconnected
    by_contra hnone
    have hvacant : Vacant g.clients := by
      intro client hmember
      obtain ⟨i, hat⟩ := List.mem_iff_getElem?.mp hmember
      by_contra hattached
      rw [Bool.not_eq_false] at hattached
      have hpublic := (hall i client hat hattached).externalConnected
      exact hnone ⟨client, hmember, hattached, hpublic.symm.trans hconnected⟩
    have hidle := hordered.tidy.externalConnected hvacant
    rw [show g.clientSide.externalConnected = true from hconnected] at hidle
    cases hidle
  · rintro ⟨client, hmember, hattached, hpublic⟩
    obtain ⟨i, hat⟩ := List.mem_iff_getElem?.mp hmember
    exact (hall i client hat hattached).externalConnected.trans hpublic
  · intro client hmember hattached
    obtain ⟨i, hat⟩ := List.mem_iff_getElem?.mp hmember
    have hserved := hall i client hat hattached
    refine ⟨?_, hserved.dropped⟩
    rw [← hserved.stream, List.flatten_append]
    exact List.prefix_append _ _

end Session

/-- A client comes, gets a frame of the daemon, and another client is turned away. -/
def sessionSteps : List Action :=
  [.accept true, .client 0 .attempt, .client 0 .serve, .reader 0 .run,
    .reader 0 (.receive [0x94, 0xc3, 0, 1, 7]), .reader 0 .next, .reader 0 .handle,
    .client 0 .write, .accept false, .client 1 .attempt]

def inSession : NodeGateway := (exec (step quietApi) sessionSteps started).getD started

theorem first_client_served : ServesOne quietApi inSession ∧
    inSession.clients.map GatewayClient.written = [[[0x94, 0xc3, 0, 1, 7]], []] := by
  have hexec : exec (step quietApi) (startSteps 0 ++ sessionSteps) (new 2 true) =
      some inSession := by
    decide +kernel
  have hconforms : Conforms (step quietApi) HandlersGone (startSteps 0 ++ sessionSteps)
      (new 2 true) := by
    decide +kernel
  exact ⟨one_client_clean_stream (.of_exec hexec hconforms) (by decide +kernel),
    by decide +kernel⟩

/-- The handler of a public client is in its first event while the gateway is stopped and
started.  The next public client is attached and a frame is queued for it when the handler
goes on, and a second frame comes after that. -/
def leftoverSteps : List Action :=
  startSteps 0 ++
  [.accept true, .client 0 .attempt, .lifecycle .stop, .lifecycle .transportsClosed,
    .lifecycle .tasksCancelled, .lifecycle .returned] ++
  startSteps 1 ++
  [.accept true, .client 1 .attempt, .client 1 .serve, .reader 1 .run,
    .reader 1 (.receive [0x94, 0xc3, 0, 1, 7]), .reader 1 .next, .reader 1 .handle,
    .client 0 .serve, .client 0 .readerEnds, .client 0 .wake, .client 0 .leave, .reader 1 .run,
    .reader 1 (.receive [0x94, 0xc3, 0, 1, 8]), .reader 1 .next, .reader 1 .handle,
    .client 1 .write]

def disturbed : NodeGateway := (exec (step quietApi) leftoverSteps (new 2 true)).getD (new 2 true)

/-- The second client is attached and nothing was dropped; but the flags say that no client
is there, and it was sent the second frame without the first. -/
theorem leftover_handler_disturbs_client :
    Run (step quietApi) Always (new 2 true) disturbed ∧ disturbed.state = .running ∧
      disturbed.clients.map (fun client => (client.isPublic, client.attached)) =
        [(true, false), (true, true)] ∧
      disturbed.clientWriter = some 1 ∧ disturbed.clientDisconnected = true ∧
      disturbed.externalConnected = false ∧ disturbed.droppedExternalFrames = 0 ∧
      disturbed.clients.map GatewayClient.written = [[], [[0x94, 0xc3, 0, 1, 8]]] ∧
      ¬ ServesOne quietApi disturbed := by
  have hexec : exec (step quietApi) leftoverSteps (new 2 true) = some disturbed := by
    decide +kernel
  have hclients : disturbed.clients.map (fun client => (client.isPublic, client.attached)) =
      [(true, false), (true, true)] := by
    decide +kernel
  have hdisconnected : disturbed.clientDisconnected = true := by decide +kernel
  refine ⟨.of_exec hexec (conforms_always _ _), by decide +kernel, hclients, by decide +kernel,
    hdisconnected, by decide +kernel, by decide +kernel, by decide +kernel, fun hserves => ?_⟩
  have hvacant := hserves.clientDisconnected.mp hdisconnected
  have hsecond : (true, true) ∈
      disturbed.clients.map (fun client => (client.isPublic, client.attached)) := by
    simp [hclients]
  obtain ⟨client, hmember, hpair⟩ := List.mem_map.mp hsecond
  have hattached : client.attached = true := congrArg Prod.snd hpair
  rw [hvacant client hmember] at hattached
  cases hattached

end NodeGateway

end MeshtasticLab.Gateway

/-
  Gateway/NodeGateway.lean --- the gateway in front of one node.

  Embeds `NodeGateway` of `backend/app/gateway/node_gateway.py`: the life cycle with
  its readiness attempts, the two loops of the daemon connection, the handlers of the
  clients with their two loops, and the three queues between them.

  HOW THE COROUTINES ARE CUT

  A step runs a coroutine from one suspension to the next; an awaited event handler
  is a suspension.  `start` and `stop` hold the life cycle lock, so that at most one
  of them is under way.  A cancelled loop has no further effect: the handlers that a
  gateway is given do not suppress a cancellation.  A call of `stop` is not cancelled
  itself; one that were would leave the gateway STOPPING with its lock free.

  WHAT IS LEFT OPEN

  Daemon and clients send and close as they like, a write may fail, a timer may fire
  and a handler may raise.  `request_config`, which the application does not call, and
  the port numbers are left out.

  What has no counterpart in the source are the periods.  A period begins with a
  readiness attempt, and when a failed attempt, a failed `start` or a `stop` is over.
  A daemon connection is named by the period of the attempt that opened it.

  A `start` after a failure does not close what the failed session has left open.  Its
  control listener stays open under no name; its daemon connection is closed with the
  last reference to its writer.
-/
import MeshtasticLab.Foundation.Runs
import MeshtasticLab.Gateway.Framing
import MeshtasticLab.Gateway.Packets

set_option autoImplicit false

namespace MeshtasticLab.Gateway

open MeshtasticLab.Foundation

/-- `GatewayState`. -/
inductive GatewayState where
  | stopped
  | connecting
  | running
  | failed
  | stopping
  deriving DecidableEq, Repr

/-- The nonce of the readiness handshake. -/
def READINESS_NONCE : Nat := 0x4D4C0001

/-- What a gateway reads of a `mesh_pb2.FromRadio`. -/
inductive DaemonMessage where
  | configComplete (nonce : Nat)
  | fromRadio (message : FromRadio)
  deriving DecidableEq, Repr

/-- The packet of a message that is a simulated RF frame. -/
def DaemonMessage.simulatedRf : DaemonMessage → Option MeshPacket
  | .fromRadio (.packet packet) =>
      match packet.payload with
      | .decoded data => if data.portnum = SIMULATOR_APP then some packet else none
      | _ => none
  | _ => none

/-- The generated code: `FromRadio.ParseFromString`, without a result when it raised,
and the serialized `ToRadio` that asks for a configuration. -/
structure ClientApi where
  parseFromRadio : Bytes → Option DaemonMessage
  serializeWantConfig : Nat → Bytes

/-! ## The queues and the tasks -/

/-- `_DownstreamWrite`, and the period in which it was queued. -/
structure DownstreamWrite where
  raw : Bytes
  source : String
  queuedIn : Nat
  deriving DecidableEq, Repr

/-- A packet of `rf_frames`, the connection that brought it and the period in which it
was queued. -/
structure RfFrame where
  packet : MeshPacket
  connection : Nat
  queuedIn : Nat
  deriving DecidableEq, Repr

/-- A frame that was written on a daemon connection, and the period of the write. -/
structure SentFrame where
  write : DownstreamWrite
  connection : Nat
  period : Nat
  deriving DecidableEq, Repr

/-- A packet that was taken from `rf_frames`, and the period in which it was. -/
structure TakenFrame where
  frame : RfFrame
  period : Nat
  deriving DecidableEq, Repr

/-- A frame of the daemon that was handled; `dropped` says that it was counted in
`dropped_external_frames`. -/
structure HandledFrame where
  frame : Frame
  dropped : Bool := false
  deriving DecidableEq, Repr

/-- Whether `put_nowait` raises and `put` waits; a queue of size zero has no bound. -/
def isFull {α : Type} (queueSize : Nat) (queue : List α) : Bool :=
  0 < queueSize && queueSize ≤ queue.length

/-- The future of the readiness handshake. -/
inductive ConfigWaiter where
  | pending
  | completed
  | refused
  deriving DecidableEq, Repr

/-- Where `_downstream_reader_loop` is; `connection` is what it read from last. -/
inductive DaemonReaderPc where
  | spawned
  | reading (connection : Nat)
  | feeding (connection : Nat) (frames : List Frame)
  | handling (connection : Nat) (frame : Frame) (message : DaemonMessage) (rest : List Frame)
  | failing
  | ended
  deriving DecidableEq, Repr

structure DaemonReader where
  pc : DaemonReaderPc := .spawned
  parser : FrameParser := .new maxProtobufSize
  deriving DecidableEq, Repr

/-- Where `_downstream_writer_loop` is; `writing` are its `drain` and its event. -/
inductive DaemonWriterPc where
  | spawned
  | waiting
  | writing
  | failing
  | ended
  deriving DecidableEq, Repr

/-- Where `_handle_client` is.  In `serving` it waits for its two loops, in `leaving` it
gathers them, and after `left` it touches the gateway no more. -/
inductive ClientPc where
  | accepted
  | rejecting
  | connected
  | serving
  | leaving
  | left
  deriving DecidableEq, Repr

/-- A client connection with its handler and its loops: `reading` and `writing` say that
`_external_reader_loop` and `_external_writer_loop` run, `frames` are those that the
first has still to queue, and `written` is what the second has written.  `since` and
`droppedBefore` are how many frames had been handled, and counted as dropped, when
the client was attached. -/
structure GatewayClient where
  isPublic : Bool
  pc : ClientPc := .accepted
  closed : Bool := false
  parser : FrameParser := .new maxProtobufSize
  frames : List Frame := []
  reading : Bool := false
  writing : Bool := false
  written : List Bytes := []
  since : Nat := 0
  droppedBefore : Nat := 0
  deriving DecidableEq, Repr

/-- Whether the handler has taken the slot of the client and not been through its
`finally` yet. -/
def GatewayClient.attached (client : GatewayClient) : Bool :=
  match client.pc with
  | .connected => true
  | .serving => true
  | .leaving => true
  | _ => false

/-- `writer.close()`. -/
def GatewayClient.close (client : GatewayClient) : GatewayClient := { client with closed := true }

/-- The client when its two loops have been cancelled. -/
def GatewayClient.cancel (client : GatewayClient) : GatewayClient :=
  { client with reading := false, writing := false }

/-- What asked `_close_transports` to close. -/
inductive CloseReason where
  | failedStart
  | stop
  | alreadyStopped
  deriving DecidableEq, Repr

/-- Where the holder of the life cycle lock is: in `start` up to `announcing`, in the
cleanup of a failed `start` or in `stop` after that. -/
inductive LifecyclePc where
  | idle
  | connecting
  | requesting (raw : Bytes)
  | awaiting
  | discarding
  | retrying
  | ready
  | listening
  | announcing
  | closing (reason : CloseReason)
  | cancelling (reason : CloseReason)
  | returning
  deriving DecidableEq, Repr

/-! ## The gateway -/

/-- The gateway object with its tasks; `server` and `controlServer` say that the attribute
is not `None`.  `abandonedControlServers` counts the open control listeners that no
attribute names any more.  `period` and the last three fields record the run: the frames
that were handled, the frames that were written to the daemon, and the packets that were
taken. -/
structure NodeGateway where
  queueSize : Nat
  publicClientsEnabled : Bool
  state : GatewayState := .stopped
  externalConnected : Bool := false
  failed : Bool := false
  clientDisconnected : Bool := true
  rejectedClients : Nat := 0
  droppedExternalFrames : Nat := 0
  rfFrames : List RfFrame := []
  downstreamWrites : List DownstreamWrite := []
  externalWrites : List Bytes := []
  downstreamReader : Option Nat := none
  downstreamWriter : Option Nat := none
  clientWriter : Option Nat := none
  server : Bool := false
  controlServer : Bool := false
  abandonedControlServers : Nat := 0
  reservedPublicSocket : Bool := false
  configWaiter : Option ConfigWaiter := none
  lifecycle : LifecyclePc := .idle
  readers : List DaemonReader := []
  writers : List DaemonWriterPc := []
  clients : List GatewayClient := []
  period : Nat := 0
  handled : List HandledFrame := []
  sent : List SentFrame := []
  taken : List TakenFrame := []
  deriving DecidableEq, Repr

namespace NodeGateway

/-- `NodeGateway.__init__`. -/
def new (queueSize : Nat) (publicClientsEnabled : Bool) : NodeGateway :=
  { queueSize, publicClientsEnabled }

def setReader (g : NodeGateway) (i : Nat) (pc : DaemonReaderPc) : NodeGateway :=
  { g with readers := g.readers.modify i fun reader => { reader with pc } }

def setWriter (g : NodeGateway) (i : Nat) (pc : DaemonWriterPc) : NodeGateway :=
  { g with writers := g.writers.modify i fun _ => pc }

/-- The clients once the writer in the slot is closed. -/
def closeClientWriter (g : NodeGateway) : List GatewayClient :=
  match g.clientWriter with
  | none => g.clients
  | some i => g.clients.modify i GatewayClient.close

/-- `_fail` up to its event; without a result it returns at once. -/
def fail (g : NodeGateway) : Option NodeGateway :=
  match g.state with
  | .stopping => none
  | .stopped => none
  | .failed => none
  | _ => some { g with state := .failed, failed := true }

/-- `_fail` after its event: the waiter gets the exception and the client is closed. -/
def reportFailure (g : NodeGateway) : NodeGateway :=
  { g with
    configWaiter := g.configWaiter.map fun waiter =>
      if waiter = .pending then .refused else waiter
    clients := g.closeClientWriter }

/-- A daemon reader calls `_fail`, and ends when it returns. -/
def failReader (g : NodeGateway) (i : Nat) : NodeGateway :=
  match g.fail with
  | none => g.setReader i .ended
  | some g => g.setReader i .failing

/-- A daemon writer calls `_fail`, and ends when it returns. -/
def failWriter (g : NodeGateway) (i : Nat) : NodeGateway :=
  match g.fail with
  | none => g.setWriter i .ended
  | some g => g.setWriter i .failing

/-- A write is put into `_downstream_writes`, which has room for it. -/
def queueWrite (g : NodeGateway) (raw : Bytes) (source : String) : NodeGateway :=
  { g with downstreamWrites := g.downstreamWrites ++ [{ raw, source, queuedIn := g.period }] }

/-- `_cancel_tasks`. -/
def cancelTasks (g : NodeGateway) : NodeGateway :=
  { g with
    readers := g.readers.map fun reader => { reader with pc := .ended }
    writers := g.writers.map fun _ => .ended
    clients := g.clients.map GatewayClient.cancel }

/-! ## The life cycle -/

/-- How `start` and `stop` go on. -/
inductive LifecycleAction where
  | start
  | connected
  | connectFailed
  | retry
  | requested
  | configured
  | refused
  | discarded
  | listen
  | serve
  | returned
  | raised
  | stop
  | transportsClosed
  | tasksCancelled
  deriving DecidableEq, Repr

/-- `start` when it has the lock, up to `open_connection`. -/
def startUnlocked (g : NodeGateway) : NodeGateway :=
  match g.state with
  | .running => g
  | .connecting => g
  | .stopping => g
  | _ =>
      { g with
        state := .connecting
        failed := false
        reservedPublicSocket := g.reservedPublicSocket || !g.server
        lifecycle := .connecting
        period := g.period + 1 }

/-- `start` raised: `_close_transports` begins. -/
def failStart (g : NodeGateway) : NodeGateway :=
  { g with
    state := .failed
    configWaiter := none
    clients := g.closeClientWriter
    lifecycle := .closing .failedStart }

/-- The loops of a new daemon connection are spawned, and the waiter is there. -/
def connectDaemon (api : ClientApi) (g : NodeGateway) : NodeGateway :=
  let opened : NodeGateway :=
    { g with
      downstreamReader := some g.period
      downstreamWriter := some g.period
      readers := g.readers ++ [{}]
      writers := g.writers ++ [.spawned]
      configWaiter := some .pending }
  match encodeFrame (api.serializeWantConfig READINESS_NONCE) with
  | none => opened.failStart
  | some raw => { opened with lifecycle := .requesting raw }

/-- The request for the configuration is queued. -/
def queueRequest (g : NodeGateway) (raw : Bytes) : NodeGateway :=
  { g.queueWrite raw "gateway.readiness" with lifecycle := .awaiting }

/-- A control listener is opened, and takes the name of one that is still open. -/
def openControlServer (g : NodeGateway) : NodeGateway :=
  { g with
    controlServer := true
    abandonedControlServers := g.abandonedControlServers + g.controlServer.toNat
    lifecycle := .listening }

/-- The waiter raised: the two loops of the attempt are cancelled. -/
def refuseAttempt (g : NodeGateway) : NodeGateway :=
  { g with
    state := .connecting
    failed := false
    readers := g.readers.modify (g.readers.length - 1) fun reader => { reader with pc := .ended }
    writers := g.writers.modify (g.writers.length - 1) fun _ => .ended
    lifecycle := .discarding }

/-- The rest of `_discard_downstream_attempt`. -/
def discardAttempt (g : NodeGateway) : NodeGateway :=
  { g with
    downstreamReader := none
    downstreamWriter := none
    downstreamWrites := []
    lifecycle := .retrying
    period := g.period + 1 }

/-- Whether `start` is under way and can still raise. -/
def starting (g : NodeGateway) : Bool :=
  match g.lifecycle with
  | .idle => false
  | .closing _ => false
  | .cancelling _ => false
  | .returning => false
  | _ => true

/-- `stop` when it has the lock: `_close_transports` begins. -/
def stopUnlocked (g : NodeGateway) : NodeGateway :=
  match g.state with
  | .stopped =>
      { g with clients := g.closeClientWriter, lifecycle := .closing .alreadyStopped }
  | _ =>
      { g with
        state := .stopping
        clients := g.closeClientWriter
        lifecycle := .closing .stop }

/-- The end of `_close_transports`. -/
def clearTransports (g : NodeGateway) : NodeGateway :=
  { g with
    server := false
    controlServer := false
    reservedPublicSocket := false
    clientWriter := none
    downstreamWriter := none
    downstreamReader := none
    configWaiter := none }

/-- The transports are closed: but for a gateway that was stopped already, the tasks are
cancelled. -/
def closeTransports (g : NodeGateway) : CloseReason → NodeGateway
  | .alreadyStopped => { g.clearTransports with lifecycle := .idle, period := g.period + 1 }
  | reason => { g.clearTransports.cancelTasks with lifecycle := .cancelling reason }

/-- The tasks have ended, and so does the failed `start` or `stop`. -/
def finishCancelling (g : NodeGateway) : CloseReason → NodeGateway
  | .stop =>
      { g with
        externalConnected := false
        state := .stopped
        lifecycle := .returning
        period := g.period + 1 }
  | _ => { g with lifecycle := .idle, period := g.period + 1 }

/-- One step of the holder of the life cycle lock. -/
def lifecycleStep (api : ClientApi) (g : NodeGateway) : LifecycleAction → Option NodeGateway
  | .start => if g.lifecycle = .idle then some g.startUnlocked else none
  | .connected => if g.lifecycle = .connecting then some (g.connectDaemon api) else none
  | .connectFailed =>
      if g.lifecycle = .connecting then some { g with lifecycle := .retrying } else none
  | .retry =>
      if g.lifecycle = .retrying then
        some { g with configWaiter := none, lifecycle := .connecting, period := g.period + 1 }
      else none
  | .requested =>
      match g.lifecycle with
      | .requesting raw =>
          if isFull g.queueSize g.downstreamWrites then none else some (g.queueRequest raw)
      | _ => none
  | .configured =>
      if g.lifecycle = .awaiting ∧ g.configWaiter = some .completed then
        some { g with configWaiter := none, lifecycle := .ready }
      else none
  | .refused =>
      if g.lifecycle = .awaiting ∧ g.configWaiter = some .refused then some g.refuseAttempt
      else none
  | .discarded => if g.lifecycle = .discarding then some g.discardAttempt else none
  | .listen =>
      if g.lifecycle = .ready then some g.openControlServer else none
  | .serve =>
      if g.lifecycle = .listening then
        if g.reservedPublicSocket then
          some
            { g with
              server := true
              reservedPublicSocket := false
              state := .running
              lifecycle := .announcing }
        else some g.failStart
      else none
  | .returned =>
      if g.lifecycle = .announcing ∨ g.lifecycle = .returning then
        some { g with lifecycle := .idle }
      else none
  | .raised => if g.starting then some g.failStart else none
  | .stop => if g.lifecycle = .idle then some g.stopUnlocked else none
  | .transportsClosed =>
      match g.lifecycle with
      | .closing reason => some (g.closeTransports reason)
      | _ => none
  | .tasksCancelled =>
      match g.lifecycle with
      | .cancelling reason => some (g.finishCancelling reason)
      | _ => none

/-! ## The loops of the daemon connection -/

/-- How a daemon reader goes on; in `raise` something it awaited raised. -/
inductive ReaderAction where
  | run
  | receive (data : Bytes)
  | disconnect
  | next
  | handle
  | raise
  | report
  deriving DecidableEq, Repr

/-- The end of `_handle_downstream_frame` is recorded. -/
def recordHandled (g : NodeGateway) (frame : Frame) (dropped : Bool) : NodeGateway :=
  { g with handled := g.handled ++ [{ frame, dropped }] }

/-- The waiter of the nonce that a message completes gets its result. -/
def resolveWaiter (g : NodeGateway) : DaemonMessage → NodeGateway
  | .configComplete nonce =>
      if nonce = READINESS_NONCE then
        { g with
          configWaiter := g.configWaiter.map fun waiter =>
            if waiter = .pending then .completed else waiter }
      else g
  | .fromRadio _ => g

/-- A simulated RF frame goes to the RF controller, if its queue has room. -/
def queueRfFrame (g : NodeGateway) (connection : Nat) (packet : MeshPacket) : NodeGateway :=
  if isFull g.queueSize g.rfFrames then g
  else { g with rfFrames := g.rfFrames ++ [{ packet, connection, queuedIn := g.period }] }

/-- Any other frame goes to the client, if there is one and its queue has room. -/
def forwardFrame (g : NodeGateway) (frame : Frame) : NodeGateway :=
  match g.clientWriter with
  | none => g.recordHandled frame false
  | some _ =>
      if isFull g.queueSize g.externalWrites then
        { g.recordHandled frame true with
          droppedExternalFrames := g.droppedExternalFrames + 1 }
      else { g.recordHandled frame false with externalWrites := g.externalWrites ++ [frame.raw] }

/-- `_handle_downstream_frame` after `from_radio_handler`. -/
def handleMessage (g : NodeGateway) (connection : Nat) (frame : Frame)
    (message : DaemonMessage) : NodeGateway :=
  match message.simulatedRf with
  | some packet =>
    ((g.resolveWaiter message).queueRfFrame connection packet).recordHandled frame false
  | none => (g.resolveWaiter message).forwardFrame frame

/-- One step of a daemon reader.  At the end of the stream it calls `_fail` unless the
gateway is stopping or stopped, and then `_fail` would return at once. -/
def readerStep (api : ClientApi) (g : NodeGateway) (i : Nat) (reader : DaemonReader) :
    ReaderAction → Option NodeGateway
  | .run =>
      match reader.pc with
      | .spawned =>
          match g.downstreamReader with
          | none => some (g.setReader i .ended)
          | some connection => some (g.setReader i (.reading connection))
      | .feeding _ [] =>
          match g.downstreamReader with
          | none => some (g.failReader i)
          | some connection => some (g.setReader i (.reading connection))
      | _ => none
  | .receive data =>
      match reader.pc with
      | .reading connection =>
          let fed := reader.parser.feed data
          if data = [] then none
          else
            some
              { g with
                readers := g.readers.set i { pc := .feeding connection fed.1, parser := fed.2 } }
      | _ => none
  | .disconnect =>
      match reader.pc with
      | .reading _ => some (g.failReader i)
      | _ => none
  | .next =>
      match reader.pc with
      | .feeding connection (frame :: rest) =>
          match api.parseFromRadio frame.payload with
          | none => some ((g.recordHandled frame false).setReader i (.feeding connection rest))
          | some message => some (g.setReader i (.handling connection frame message rest))
      | _ => none
  | .handle =>
      match reader.pc with
      | .handling connection frame message rest =>
          some ((g.handleMessage connection frame message).setReader i (.feeding connection rest))
      | _ => none
  | .raise =>
      match reader.pc with
      | .reading _ => some (g.failReader i)
      | .feeding _ _ => some (g.failReader i)
      | .handling _ _ _ _ => some (g.failReader i)
      | _ => none
  | .report =>
      match reader.pc with
      | .failing => some (g.reportFailure.setReader i .ended)
      | _ => none

/-- How a daemon writer goes on. -/
inductive WriterAction where
  | run
  | write
  | written
  | raise
  | report
  deriving DecidableEq, Repr

/-- `get` has taken the first of the queued writes. -/
def dropWrite (g : NodeGateway) (rest : List DownstreamWrite) : NodeGateway :=
  { g with downstreamWrites := rest }

/-- A write on a daemon connection is recorded. -/
def recordSent (g : NodeGateway) (write : DownstreamWrite) (connection : Nat) : NodeGateway :=
  { g with sent := g.sent ++ [{ write, connection, period := g.period }] }

/-- One step of a daemon writer; a loop writes on the connection of the moment. -/
def writerStep (g : NodeGateway) (i : Nat) (writer : DaemonWriterPc) :
    WriterAction → Option NodeGateway
  | .run =>
      match writer with
      | .spawned =>
          match g.downstreamWriter with
          | none => some (g.setWriter i .ended)
          | some _ => some (g.setWriter i .waiting)
      | _ => none
  | .write =>
      match writer with
      | .waiting =>
          match g.downstreamWrites with
          | [] => none
          | write :: rest =>
              match g.downstreamWriter with
              | none => some ((g.dropWrite rest).failWriter i)
              | some connection =>
                  some (((g.dropWrite rest).recordSent write connection).setWriter i .writing)
      | _ => none
  | .written =>
      match writer with
      | .writing => some (g.setWriter i .waiting)
      | _ => none
  | .raise =>
      match writer with
      | .writing => some (g.failWriter i)
      | _ => none
  | .report =>
      match writer with
      | .failing => some (g.reportFailure.setWriter i .ended)
      | _ => none

/-! ## The clients -/

/-- How the handler of a client and its two loops go on. -/
inductive ClientAction where
  | attempt
  | reject
  | serve
  | receive (data : Bytes)
  | queue
  | readerEnds
  | write
  | writerEnds
  | wake
  | leave
  deriving DecidableEq, Repr

def setClient (g : NodeGateway) (i : Nat) (client : GatewayClient) : NodeGateway :=
  { g with clients := g.clients.set i client }

/-- `_handle_client` turns the client away. -/
def rejectClient (g : NodeGateway) (i : Nat) (client : GatewayClient) : NodeGateway :=
  { g.setClient i { client with pc := .rejecting } with rejectedClients := g.rejectedClients + 1 }

/-- `_handle_client` takes the slot for the client. -/
def attachClient (g : NodeGateway) (i : Nat) (client : GatewayClient) : NodeGateway :=
  let attached :=
    { client with
      pc := .connected
      since := g.handled.length
      droppedBefore := g.droppedExternalFrames }
  { g.setClient i attached with
    externalConnected := client.isPublic
    clientDisconnected := false
    clientWriter := some i }

/-- `_handle_client` up to its first event. -/
def handleClient (g : NodeGateway) (i : Nat) (client : GatewayClient) : NodeGateway :=
  if client.isPublic ∧ g.publicClientsEnabled = false then g.rejectClient i client
  else
    match g.clientWriter with
    | some _ => g.rejectClient i client
    | none => g.attachClient i client

/-- The `finally` of `_handle_client`, up to `writer.close()`. -/
def releaseClient (g : NodeGateway) (i : Nat) (client : GatewayClient) : NodeGateway :=
  { g.setClient i { client with pc := .left, closed := true } with
    clientWriter := if g.clientWriter = some i then none else g.clientWriter
    externalConnected := false
    clientDisconnected := true
    externalWrites := [] }

/-- One step of the handler of a client, or of one of its loops. -/
def clientStep (g : NodeGateway) (i : Nat) (client : GatewayClient) :
    ClientAction → Option NodeGateway
  | .attempt => if client.pc = .accepted then some (g.handleClient i client) else none
  | .reject =>
      if client.pc = .rejecting then
        some (g.setClient i { client with pc := .left, closed := true })
      else none
  | .serve =>
      if client.pc = .connected then
        some (g.setClient i { client with pc := .serving, reading := true, writing := true })
      else none
  | .receive data =>
      if client.reading ∧ client.frames = [] ∧ data ≠ [] then
        let fed := client.parser.feed data
        some (g.setClient i { client with frames := fed.1, parser := fed.2 })
      else none
  | .queue =>
      match client.frames with
      | [] => none
      | frame :: rest =>
          if client.reading ∧ isFull g.queueSize g.downstreamWrites = false then
            some ((g.setClient i { client with frames := rest }).queueWrite frame.raw "external")
          else none
  | .readerEnds =>
      if client.reading ∧ client.frames = [] then
        some (g.setClient i { client with reading := false })
      else none
  | .write =>
      match g.externalWrites with
      | [] => none
      | raw :: rest =>
          if client.writing then
            some
              { g.setClient i { client with written := client.written ++ [raw] } with
                externalWrites := rest }
          else none
  | .writerEnds =>
      if client.writing then some (g.setClient i { client with writing := false }) else none
  | .wake =>
      if client.pc = .serving ∧ (client.reading = false ∨ client.writing = false) then
        some (g.setClient i { client.cancel with pc := .leaving })
      else none
  | .leave => if client.pc = .leaving then some (g.releaseClient i client) else none

/-! ## All steps -/

/-- What can happen next. -/
inductive Action where
  | lifecycle (action : LifecycleAction)
  | reader (i : Nat) (action : ReaderAction)
  | writer (i : Nat) (action : WriterAction)
  | accept (isPublic : Bool)
  | client (i : Nat) (action : ClientAction)
  | reservePublicListener
  | enablePublicClients
  | sendToRadio (message : Bytes) (source : String)
  | takeRfFrame
  deriving DecidableEq, Repr

/-- Whether a listener is open, for public or for internal clients. -/
def listens (g : NodeGateway) (isPublic : Bool) : Bool :=
  if isPublic then g.server else g.controlServer || decide (0 < g.abandonedControlServers)

/-- A listener accepts a connection, if there is one. -/
def accept (g : NodeGateway) (isPublic : Bool) : Option NodeGateway :=
  if g.listens isPublic then some { g with clients := g.clients ++ [{ isPublic }] } else none

/-- `reserve_public_listener`, when it does not raise. -/
def reservePublicListener (g : NodeGateway) : NodeGateway :=
  { g with reservedPublicSocket := g.reservedPublicSocket || !g.server }

/-- `enable_public_clients`, with the gateway as it was when it raised. -/
def enablePublicClients (g : NodeGateway) : NodeGateway :=
  match g.state with
  | .stopped => g
  | .stopping => g
  | _ => { g with publicClientsEnabled := true }

/-- `send_to_radio`, with the gateway as it was when it raised. -/
def sendToRadio (g : NodeGateway) (message : Bytes) (source : String) : NodeGateway :=
  if g.state = .running then
    match encodeFrame message with
    | none => g
    | some raw =>
        if isFull g.queueSize g.downstreamWrites then g else g.queueWrite raw source
  else g

/-- `rf_frames.get()` of the RF controller. -/
def takeRfFrame (g : NodeGateway) : Option NodeGateway :=
  match g.rfFrames with
  | [] => none
  | frame :: rest =>
      some { g with rfFrames := rest, taken := g.taken ++ [{ frame, period := g.period }] }

/-- One step. -/
def step (api : ClientApi) (g : NodeGateway) : Action → Option NodeGateway
  | .lifecycle action => g.lifecycleStep api action
  | .reader i action => g.readers[i]?.bind fun reader => g.readerStep api i reader action
  | .writer i action => g.writers[i]?.bind fun writer => g.writerStep i writer action
  | .accept isPublic => g.accept isPublic
  | .client i action => g.clients[i]?.bind fun client => g.clientStep i client action
  | .reservePublicListener => some g.reservePublicListener
  | .enablePublicClients => some g.enablePublicClients
  | .sendToRadio message source => some (g.sendToRadio message source)
  | .takeRfFrame => g.takeRfFrame

/-! ## A start -/

/-- A daemon that completes its configuration with an empty message, and sends messages
without a meaning otherwise. -/
def quietApi : ClientApi where
  parseFromRadio := fun payload =>
    if payload = [] then some (.configComplete READINESS_NONCE) else some (.fromRadio .other)
  serializeWantConfig := fun _ => [0x18]

/-- The steps of a `start` whose connection is the one at a place among all. -/
def startSteps (i : Nat) : List Action :=
  [.lifecycle .start, .lifecycle .connected, .lifecycle .requested, .reader i .run,
    .writer i .run, .writer i .write, .reader i (.receive [0x94, 0xc3, 0, 0]), .reader i .next,
    .reader i .handle, .lifecycle .configured, .lifecycle .listen, .lifecycle .serve,
    .lifecycle .returned]

/-- A gateway that has been started. -/
def started : NodeGateway :=
  (exec (step quietApi) (startSteps 0) (new 2 true)).getD (new 2 true)

end NodeGateway

end MeshtasticLab.Gateway

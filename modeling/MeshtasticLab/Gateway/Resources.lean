/-
  Gateway/Resources.lean --- the state of a gateway and what it holds.

  Whenever the life cycle lock is free, a gateway that is STOPPED has no listener, no
  daemon connection and no loop, and one that is RUNNING has both listeners and a daemon
  connection, whose two loops run unless `failed` is set.  A failure during the last part
  of a start is not seen by it: the gateway is then RUNNING with `failed` set.

  A start of a failed gateway that was not stopped opens a second control listener under
  the name of the first, and fails for want of a public socket.  Only the second is closed;
  the first accepts internal clients ever after.
-/
import MeshtasticLab.Gateway.GatewayMoves

set_option autoImplicit false

namespace MeshtasticLab.Gateway

open MeshtasticLab.Foundation

/-- The loop has not ended, and has not called `_fail`. -/
def DaemonReaderPc.runs : DaemonReaderPc → Bool
  | .failing => false
  | .ended => false
  | _ => true

/-- The loop has not ended, and has not called `_fail`. -/
def DaemonWriterPc.runs : DaemonWriterPc → Bool
  | .failing => false
  | .ended => false
  | _ => true

namespace NodeGateway

variable {api : ClientApi} {g h : NodeGateway}

/-! ## Loops -/

/-- The newest of some loops is at a place with a property. -/
def Newest {α : Type} (P : α → Prop) (loops : List α) : Prop :=
  ∃ loop, loops[loops.length - 1]? = some loop ∧ P loop

/-- The loops of the newest daemon connection run. -/
structure LoopsRun (g : NodeGateway) : Prop where
  reader : Newest (fun reader => reader.pc.runs = true) g.readers
  writer : Newest (fun writer => writer.runs = true) g.writers

/-- No loop runs. -/
structure LoopsEnded (g : NodeGateway) : Prop where
  readers : ∀ reader ∈ g.readers, reader.pc = .ended
  writers : ∀ writer ∈ g.writers, writer = .ended

/-- A daemon connection, with loops that run as long as no failure is set. -/
structure Connected (g : NodeGateway) : Prop where
  reader : g.downstreamReader.isSome = true
  writer : g.downstreamWriter = g.downstreamReader
  loops : g.failed = false → LoopsRun g

/-- Both listeners are open. -/
structure Open (g : NodeGateway) : Prop where
  server : g.server = true
  controlServer : g.controlServer = true

/-- No listener, no daemon connection and no loop. -/
structure Closed (g : NodeGateway) : Prop where
  server : g.server = false
  controlServer : g.controlServer = false
  downstreamReader : g.downstreamReader = none
  downstreamWriter : g.downstreamWriter = none
  loops : LoopsEnded g

/-- A failure would be noticed, or was. -/
def Alert (g : NodeGateway) : Prop :=
  g.state = .connecting ∨ g.state = .running ∨ g.state = .failed ∧ g.failed = true

/-- What holds while the lock is free. -/
def Settled (g : NodeGateway) : Prop :=
  g.state = .stopped ∧ Closed g ∨
  g.state = .running ∧ Open g ∧ Connected g ∨
  g.state = .failed ∧ (Closed g ∨ g.failed = true ∧ Open g ∧ Connected g)

/-- What holds in every phase of `start` and `stop`. -/
def Staged (g : NodeGateway) : Prop :=
  match g.lifecycle with
  | .idle => Settled g
  | .connecting => Alert g
  | .retrying => Alert g
  | .discarding => Alert g
  | .requesting _ => Alert g ∧ Connected g
  | .awaiting => Alert g ∧ Connected g
  | .ready => Alert g ∧ Connected g
  | .listening => Alert g ∧ Connected g ∧ g.controlServer = true
  | .announcing => Alert g ∧ Connected g ∧ Open g ∧ g.state ≠ .connecting
  | .closing .failedStart => g.state = .failed
  | .closing .stop => g.state = .stopping
  | .closing .alreadyStopped => g.state = .stopped ∧ Closed g
  | .cancelling .failedStart => g.state = .failed ∧ Closed g
  | .cancelling .stop => g.state = .stopping ∧ Closed g
  | .cancelling .alreadyStopped => False
  | .returning => g.state = .stopped ∧ Closed g

/-! ## Steps beside the life cycle -/

/-- The listeners, the state, whether a failure is set, and the abandoned listeners. -/
def wiring (g : NodeGateway) : Bool × Bool × GatewayState × Bool × Nat :=
  (g.server, g.controlServer, g.state, g.failed, g.abandonedControlServers)

/-- The listeners stay, and the state and `failed` too, unless a loop fails. -/
def Drifts (g h : NodeGateway) : Prop :=
  h.wiring = g.wiring ∨
    h.wiring = (g.server, g.controlServer, .failed, true, g.abandonedControlServers) ∧
      (g.state = .connecting ∨ g.state = .running)

theorem drifts_failReader (i : Nat) : Drifts g (g.failReader i) := by
  unfold failReader fail
  cases hstate : g.state with
  | connecting => exact .inr ⟨rfl, .inl hstate⟩
  | running => exact .inr ⟨rfl, .inr hstate⟩
  | stopped => exact .inl rfl
  | failed => exact .inl rfl
  | stopping => exact .inl rfl

theorem drifts_failWriter (i : Nat) : Drifts g (g.failWriter i) := by
  unfold failWriter fail
  cases hstate : g.state with
  | connecting => exact .inr ⟨rfl, .inl hstate⟩
  | running => exact .inr ⟨rfl, .inr hstate⟩
  | stopped => exact .inl rfl
  | failed => exact .inl rfl
  | stopping => exact .inl rfl

theorem wiring_handleMessage (connection : Nat) (frame : Frame) (message : DaemonMessage) :
    (g.handleMessage connection frame message).wiring = g.wiring := by
  obtain ⟨configWaiter, hresolved⟩ := g.resolveWaiter_eq message
  unfold handleMessage
  rw [hresolved]
  split
  · unfold queueRfFrame
    split
    · rfl
    · rfl
  · unfold forwardFrame
    split
    · rfl
    · split
      · rfl
      · rfl

theorem drifts_readerStep {i : Nat} {reader : DaemonReader} {a : ReaderAction}
    (hstep : g.readerStep api i reader a = some h) : Drifts g h := by
  cases reader_move hstep with
  | failed _ => exact drifts_failReader i
  | handled connection frame message rest _ =>
      exact .inl (wiring_handleMessage connection frame message)
  | _ => exact .inl rfl

theorem drifts_writerStep {i : Nat} {writer : DaemonWriterPc} {a : WriterAction}
    (hstep : g.writerStep i writer a = some h) : Drifts g h := by
  cases writer_move hstep with
  | failed => exact drifts_failWriter i
  | lost write rest _ => exact drifts_failWriter (g := g.dropWrite rest) i
  | _ => exact .inl rfl

theorem wiring_clientStep {i : Nat} {client : GatewayClient} {a : ClientAction}
    (hstep : g.clientStep i client a = some h) : h.wiring = g.wiring := by
  cases handler_move hstep with
  | attempted _ =>
      unfold handleClient
      split
      · rfl
      · split
        · rfl
        · rfl
  | _ => rfl

theorem drifts_step {a : Action} (hbeside : ∀ action, a ≠ .lifecycle action)
    (hstep : g.step api a = some h) : Drifts g h := by
  cases a with
  | lifecycle action => exact absurd rfl (hbeside action)
  | reader i action =>
      obtain ⟨reader, _, hstep⟩ := Option.bind_eq_some_iff.mp hstep
      exact drifts_readerStep hstep
  | writer i action =>
      obtain ⟨writer, _, hstep⟩ := Option.bind_eq_some_iff.mp hstep
      exact drifts_writerStep hstep
  | accept isPublic =>
      obtain ⟨_, rfl⟩ := of_guarded hstep
      exact .inl rfl
  | client i action =>
      obtain ⟨client, _, hstep⟩ := Option.bind_eq_some_iff.mp hstep
      exact .inl (wiring_clientStep hstep)
  | reservePublicListener =>
      cases hstep
      exact .inl rfl
  | enablePublicClients =>
      cases hstep
      unfold enablePublicClients
      split
      · exact .inl rfl
      · exact .inl rfl
      · exact .inl rfl
  | sendToRadio message source =>
      cases hstep
      unfold sendToRadio
      split
      · split
        · exact .inl rfl
        · split
          · exact .inl rfl
          · exact .inl rfl
      · exact .inl rfl
  | takeRfFrame =>
      simp only [step, takeRfFrame] at hstep
      split at hstep
      · cases hstep
      · cases hstep
        exact .inl rfl

/-! ## The loops of the newest connection -/

theorem Newest.modify {α : Type} {P : α → Prop} {loops : List α} (hnewest : Newest P loops)
    {i : Nat} {f : α → α} (hf : ∀ loop, loops[i]? = some loop → P loop → P (f loop)) :
    Newest P (loops.modify i f) := by
  obtain ⟨loop, hloop, hP⟩ := hnewest
  unfold Newest
  rw [List.length_modify, List.getElem?_modify, hloop]
  by_cases hsame : i = loops.length - 1
  · refine ⟨f loop, by simp [hsame], hf loop ?_ hP⟩
    rw [hsame]
    exact hloop
  · exact ⟨loop, by simp [hsame], hP⟩

theorem newest_concat {α : Type} {P : α → Prop} {loops : List α} {loop : α} (hP : P loop) :
    Newest P (loops ++ [loop]) := by
  refine ⟨loop, ?_, hP⟩
  rw [List.length_append, List.length_singleton, Nat.add_sub_cancel]
  exact List.getElem?_concat_length

theorem failed_failReader (halert : Alert g) (i : Nat) : (g.failReader i).failed = true := by
  unfold failReader fail
  rcases halert with hstate | hstate | ⟨hstate, hfailed⟩
  · rw [hstate]
    rfl
  · rw [hstate]
    rfl
  · rw [hstate]
    exact hfailed

theorem failed_failWriter (halert : Alert g) (i : Nat) : (g.failWriter i).failed = true := by
  unfold failWriter fail
  rcases halert with hstate | hstate | ⟨hstate, hfailed⟩
  · rw [hstate]
    rfl
  · rw [hstate]
    rfl
  · rw [hstate]
    exact hfailed

/-- A step of a daemon reader that sets no failure leaves the newest running. -/
theorem newest_readerStep (halert : Alert g) (hopen : g.downstreamReader.isSome = true)
    {i : Nat} {reader : DaemonReader} (hat : g.readers[i]? = some reader) {a : ReaderAction}
    (hstep : g.readerStep api i reader a = some h) (hcalm : h.failed = false)
    (hnewest : Newest (fun reader => reader.pc.runs = true) g.readers) :
    Newest (fun reader => reader.pc.runs = true) h.readers := by
  obtain ⟨opened, hreader⟩ := Option.isSome_iff_exists.mp hopen
  have hset : ∀ pc : DaemonReaderPc, pc.runs = true →
      Newest (fun reader => reader.pc.runs = true) (g.setReader i pc).readers :=
    fun pc hpc => hnewest.modify fun _ _ _ => hpc
  have hnofail : h ≠ g.failReader i := by
    rintro rfl
    rw [failed_failReader halert i] at hcalm
    cases hcalm
  cases a with
  | run =>
      simp only [readerStep, hreader] at hstep
      split at hstep
      · cases hstep
        exact hset _ rfl
      · cases hstep
        exact hset _ rfl
      · cases hstep
  | receive data =>
      simp only [readerStep] at hstep
      split at hstep
      · simp only [Option.ite_none_left_eq_some] at hstep
        cases hstep.2
        rw [List.set_eq_modify]
        exact hnewest.modify fun _ _ _ => rfl
      · cases hstep
  | disconnect =>
      simp only [readerStep] at hstep
      split at hstep
      · cases hstep
        exact absurd rfl hnofail
      · cases hstep
  | next =>
      simp only [readerStep] at hstep
      split at hstep
      · split at hstep
        · cases hstep
          exact hset _ rfl
        · cases hstep
          exact hset _ rfl
      · cases hstep
  | handle =>
      simp only [readerStep] at hstep
      split at hstep
      · next connection frame message rest hpc =>
          cases hstep
          simp only [setReader, readers_handleMessage]
          exact hnewest.modify fun _ _ _ => rfl
      · cases hstep
  | raise =>
      simp only [readerStep] at hstep
      split at hstep
      · cases hstep
        exact absurd rfl hnofail
      · cases hstep
        exact absurd rfl hnofail
      · cases hstep
        exact absurd rfl hnofail
      · cases hstep
  | report =>
      simp only [readerStep] at hstep
      split at hstep
      · next hpc =>
          cases hstep
          -- a loop that reports has called `_fail` before
          refine hnewest.modify fun found hfound hruns => ?_
          rw [show found = reader from Option.some.inj (hfound.symm.trans hat), hpc] at hruns
          cases hruns
      · cases hstep

/-- A step of a daemon writer that sets no failure leaves the newest running. -/
theorem newest_writerStep (halert : Alert g) (hopen : g.downstreamWriter.isSome = true)
    {i : Nat} {writer : DaemonWriterPc} (hat : g.writers[i]? = some writer) {a : WriterAction}
    (hstep : g.writerStep i writer a = some h) (hcalm : h.failed = false)
    (hnewest : Newest (fun writer => writer.runs = true) g.writers) :
    Newest (fun writer => writer.runs = true) h.writers := by
  obtain ⟨opened, hwriter⟩ := Option.isSome_iff_exists.mp hopen
  have hset : ∀ pc : DaemonWriterPc, pc.runs = true →
      Newest (fun writer => writer.runs = true) (g.setWriter i pc).writers :=
    fun pc hpc => hnewest.modify fun _ _ _ => hpc
  cases a with
  | run =>
      simp only [writerStep, hwriter] at hstep
      split at hstep
      · cases hstep
        exact hset _ rfl
      · cases hstep
  | write =>
      simp only [writerStep, hwriter] at hstep
      split at hstep
      · split at hstep
        · cases hstep
        · cases hstep
          exact hset _ rfl
      · cases hstep
  | written =>
      simp only [writerStep] at hstep
      split at hstep
      · cases hstep
        exact hset _ rfl
      · cases hstep
  | raise =>
      simp only [writerStep] at hstep
      split at hstep
      · cases hstep
        rw [failed_failWriter halert i] at hcalm
        cases hcalm
      · cases hstep
  | report =>
      simp only [writerStep] at hstep
      split at hstep
      · cases hstep
        -- a loop that reports has called `_fail` before
        refine hnewest.modify fun found hfound hruns => ?_
        rw [show found = .failing from Option.some.inj (hfound.symm.trans hat)] at hruns
        cases hruns
      · cases hstep

theorem writers_readerStep {i : Nat} {reader : DaemonReader} {a : ReaderAction}
    (hstep : g.readerStep api i reader a = some h) : h.writers = g.writers := by
  cases reader_move hstep with
  | failed _ =>
      unfold failReader fail
      cases g.state <;> rfl
  | handled connection frame message rest _ =>
      obtain ⟨configWaiter, hresolved⟩ := g.resolveWaiter_eq message
      simp only [setReader, handleMessage, hresolved]
      split
      · unfold queueRfFrame
        split
        · rfl
        · rfl
      · unfold forwardFrame
        split
        · rfl
        · split
          · rfl
          · rfl
  | _ => rfl

theorem writers_clientStep {i : Nat} {client : GatewayClient} {a : ClientAction}
    (hstep : g.clientStep i client a = some h) : h.writers = g.writers := by
  cases handler_move hstep with
  | attempted _ =>
      unfold handleClient
      split
      · rfl
      · split
        · rfl
        · rfl
  | _ => rfl

/-- The loops change only by their own steps. -/
theorem loops_step {a : Action} (hbeside : ∀ action, a ≠ .lifecycle action)
    (hstep : g.step api a = some h) :
    (∃ i reader action, g.readers[i]? = some reader ∧
      g.readerStep api i reader action = some h ∧ h.writers = g.writers) ∨
    (∃ i writer action, g.writers[i]? = some writer ∧
      g.writerStep i writer action = some h ∧ h.readers = g.readers) ∨
    h.readers = g.readers ∧ h.writers = g.writers := by
  cases a with
  | lifecycle action => exact absurd rfl (hbeside action)
  | reader i action =>
      obtain ⟨reader, hat, hstep⟩ := Option.bind_eq_some_iff.mp hstep
      exact .inl ⟨i, reader, action, hat, hstep, writers_readerStep hstep⟩
  | writer i action =>
      obtain ⟨writer, hat, hstep⟩ := Option.bind_eq_some_iff.mp hstep
      exact .inr (.inl ⟨i, writer, action, hat, hstep, readers_writerStep hstep⟩)
  | accept isPublic =>
      obtain ⟨_, rfl⟩ := of_guarded hstep
      exact .inr (.inr ⟨rfl, rfl⟩)
  | client i action =>
      obtain ⟨client, _, hstep⟩ := Option.bind_eq_some_iff.mp hstep
      exact .inr (.inr ⟨readers_clientStep hstep, writers_clientStep hstep⟩)
  | reservePublicListener =>
      cases hstep
      exact .inr (.inr ⟨rfl, rfl⟩)
  | enablePublicClients =>
      cases hstep
      unfold enablePublicClients
      split
      · exact .inr (.inr ⟨rfl, rfl⟩)
      · exact .inr (.inr ⟨rfl, rfl⟩)
      · exact .inr (.inr ⟨rfl, rfl⟩)
  | sendToRadio message source =>
      cases hstep
      refine .inr (.inr ⟨readers_sendToRadio message source, ?_⟩)
      unfold sendToRadio
      split
      · split
        · rfl
        · split
          · rfl
          · rfl
      · rfl
  | takeRfFrame =>
      simp only [step, takeRfFrame] at hstep
      split at hstep
      · cases hstep
      · cases hstep
        exact .inr (.inr ⟨rfl, rfl⟩)

/-- A failure that is set stays set beside the life cycle. -/
theorem Drifts.calm (hdrifts : Drifts g h) (hcalm : h.failed = false) : g.failed = false := by
  rcases hdrifts with hsame | ⟨hfailed, _⟩
  · exact (congrArg (fun w => w.2.2.2.1) hsame).symm.trans hcalm
  · rw [show h.failed = true from congrArg (fun w => w.2.2.2.1) hfailed] at hcalm
    cases hcalm

theorem Connected.beside (hconnected : Connected g) (halert : Alert g) {a : Action}
    (hbeside : ∀ action, a ≠ .lifecycle action) (hstep : g.step api a = some h) :
    Connected h := by
  have haside := aside_step hbeside hstep
  refine ⟨?_, ?_, fun hcalm => ?_⟩
  · rw [haside.downstreamReader]
    exact hconnected.reader
  · rw [haside.downstreamReader, haside.downstreamWriter]
    exact hconnected.writer
  · obtain ⟨hreaders, hwriters⟩ := hconnected.loops ((drifts_step hbeside hstep).calm hcalm)
    rcases loops_step hbeside hstep with
      ⟨i, reader, action, hat, hmove, hsame⟩ | ⟨i, writer, action, hat, hmove, hsame⟩ |
      ⟨hsame, hwriter⟩
    · refine ⟨newest_readerStep halert hconnected.reader hat hmove hcalm hreaders, ?_⟩
      rw [hsame]
      exact hwriters
    · refine ⟨by rw [hsame]; exact hreaders, ?_⟩
      refine newest_writerStep halert ?_ hat hmove hcalm hwriters
      rw [hconnected.writer]
      exact hconnected.reader
    · exact ⟨by rw [hsame]; exact hreaders, by rw [hwriter]; exact hwriters⟩

/-- A loop that has ended makes no step. -/
theorem readerStep_ended {i : Nat} {reader : DaemonReader} (hpc : reader.pc = .ended)
    (a : ReaderAction) : g.readerStep api i reader a = none := by
  cases a <;> simp [readerStep, hpc]

theorem writerStep_ended (i : Nat) (a : WriterAction) : g.writerStep i .ended a = none := by
  cases a <;> rfl

theorem Closed.beside (hclosed : Closed g) {a : Action}
    (hbeside : ∀ action, a ≠ .lifecycle action) (hstep : g.step api a = some h) : Closed h := by
  have haside := aside_step hbeside hstep
  have hlisteners : h.server = g.server ∧ h.controlServer = g.controlServer := by
    rcases drifts_step hbeside hstep with hsame | ⟨hfailed, _⟩
    · exact ⟨congrArg (fun w => w.1) hsame, congrArg (fun w => w.2.1) hsame⟩
    · exact ⟨congrArg (fun w => w.1) hfailed, congrArg (fun w => w.2.1) hfailed⟩
  refine ⟨hlisteners.1.trans hclosed.server, hlisteners.2.trans hclosed.controlServer,
    haside.downstreamReader.trans hclosed.downstreamReader,
    haside.downstreamWriter.trans hclosed.downstreamWriter, ?_⟩
  obtain ⟨hreaders, hwriters⟩ := hclosed.loops
  rcases loops_step hbeside hstep with
    ⟨i, reader, action, hat, hmove, _⟩ | ⟨i, writer, action, hat, hmove, _⟩ | ⟨hsame, hwriter⟩
  · rw [readerStep_ended (hreaders reader (List.mem_of_getElem? hat))] at hmove
    cases hmove
  · rw [hwriters writer (List.mem_of_getElem? hat), writerStep_ended] at hmove
    cases hmove
  · exact ⟨by rw [hsame]; exact hreaders, by rw [hwriter]; exact hwriters⟩

/-! ## Phases -/

theorem Drifts.alert (hdrifts : Drifts g h) (halert : Alert g) : Alert h := by
  rcases hdrifts with hsame | ⟨hfailed, _⟩
  · unfold Alert
    rw [show h.state = g.state from congrArg (fun w => w.2.2.1) hsame,
      show h.failed = g.failed from congrArg (fun w => w.2.2.2.1) hsame]
    exact halert
  · exact .inr (.inr ⟨congrArg (fun w => w.2.2.1) hfailed, congrArg (fun w => w.2.2.2.1) hfailed⟩)

theorem Drifts.listeners (hdrifts : Drifts g h) :
    h.server = g.server ∧ h.controlServer = g.controlServer := by
  rcases hdrifts with hsame | ⟨hfailed, _⟩
  · exact ⟨congrArg (fun w => w.1) hsame, congrArg (fun w => w.2.1) hsame⟩
  · exact ⟨congrArg (fun w => w.1) hfailed, congrArg (fun w => w.2.1) hfailed⟩

theorem Drifts.opened (hdrifts : Drifts g h) (hopen : Open g) : Open h :=
  ⟨hdrifts.listeners.1.trans hopen.server, hdrifts.listeners.2.trans hopen.controlServer⟩

/-- Only a gateway that connects or runs can fail. -/
theorem Drifts.state (hdrifts : Drifts g h) {state : GatewayState} (hstate : g.state = state)
    (hconnecting : state ≠ .connecting) (hrunning : state ≠ .running) :
    h.state = state ∧ h.failed = g.failed := by
  rcases hdrifts with hsame | ⟨_, hconnects | hruns⟩
  · exact ⟨(congrArg (fun w => w.2.2.1) hsame).trans hstate, congrArg (fun w => w.2.2.2.1) hsame⟩
  · exact absurd (hstate.symm.trans hconnects) hconnecting
  · exact absurd (hstate.symm.trans hruns) hrunning

theorem Settled.beside (hsettled : Settled g) {a : Action}
    (hbeside : ∀ action, a ≠ .lifecycle action) (hstep : g.step api a = some h) :
    Settled h := by
  have hdrifts := drifts_step hbeside hstep
  rcases hsettled with ⟨hstate, hclosed⟩ | ⟨hstate, hopen, hconnected⟩ | ⟨hstate, hrest⟩
  · exact .inl ⟨(hdrifts.state hstate (by decide) (by decide)).1, hclosed.beside hbeside hstep⟩
  · have hlater := hconnected.beside (.inr (.inl hstate)) hbeside hstep
    rcases hdrifts with hsame | ⟨hfailed, _⟩
    · exact .inr (.inl ⟨(congrArg (fun w => w.2.2.1) hsame).trans hstate,
        Drifts.opened (.inl hsame) hopen, hlater⟩)
    · exact .inr (.inr ⟨congrArg (fun w => w.2.2.1) hfailed,
        .inr ⟨congrArg (fun w => w.2.2.2.1) hfailed,
          (drifts_step hbeside hstep).opened hopen, hlater⟩⟩)
  · obtain ⟨hkept, hflag⟩ := hdrifts.state hstate (by decide) (by decide)
    refine .inr (.inr ⟨hkept, ?_⟩)
    rcases hrest with hclosed | ⟨hfailed, hopen, hconnected⟩
    · exact .inl (hclosed.beside hbeside hstep)
    · exact .inr ⟨hflag.trans hfailed, hdrifts.opened hopen,
        hconnected.beside (.inr (.inr ⟨hstate, hfailed⟩)) hbeside hstep⟩

theorem Staged.beside (hstaged : Staged g) {a : Action}
    (hbeside : ∀ action, a ≠ .lifecycle action) (hstep : g.step api a = some h) : Staged h := by
  have hdrifts := drifts_step hbeside hstep
  unfold Staged at hstaged ⊢
  rw [(aside_step hbeside hstep).lifecycle]
  cases hpc : g.lifecycle with
  | idle =>
      rw [hpc] at hstaged
      exact Settled.beside hstaged hbeside hstep
  | connecting =>
      rw [hpc] at hstaged
      exact hdrifts.alert hstaged
  | retrying =>
      rw [hpc] at hstaged
      exact hdrifts.alert hstaged
  | discarding =>
      rw [hpc] at hstaged
      exact hdrifts.alert hstaged
  | requesting raw =>
      rw [hpc] at hstaged
      exact ⟨hdrifts.alert hstaged.1, hstaged.2.beside hstaged.1 hbeside hstep⟩
  | awaiting =>
      rw [hpc] at hstaged
      exact ⟨hdrifts.alert hstaged.1, hstaged.2.beside hstaged.1 hbeside hstep⟩
  | ready =>
      rw [hpc] at hstaged
      exact ⟨hdrifts.alert hstaged.1, hstaged.2.beside hstaged.1 hbeside hstep⟩
  | listening =>
      rw [hpc] at hstaged
      obtain ⟨halert, hconnected, hcontrol⟩ := hstaged
      exact ⟨hdrifts.alert halert, hconnected.beside halert hbeside hstep,
        hdrifts.listeners.2.trans hcontrol⟩
  | announcing =>
      rw [hpc] at hstaged
      obtain ⟨halert, hconnected, hopen, hstate⟩ := hstaged
      refine ⟨hdrifts.alert halert, hconnected.beside halert hbeside hstep, hdrifts.opened hopen,
        fun hconnecting => ?_⟩
      rcases hdrifts with hsame | ⟨hfailed, _⟩
      · exact hstate ((congrArg (fun w => w.2.2.1) hsame).symm.trans hconnecting)
      · rw [show h.state = .failed from congrArg (fun w => w.2.2.1) hfailed] at hconnecting
        cases hconnecting
  | closing reason =>
      rw [hpc] at hstaged
      cases reason with
      | failedStart => exact (hdrifts.state hstaged (by decide) (by decide)).1
      | stop => exact (hdrifts.state hstaged (by decide) (by decide)).1
      | alreadyStopped =>
          exact ⟨(hdrifts.state hstaged.1 (by decide) (by decide)).1,
            hstaged.2.beside hbeside hstep⟩
  | cancelling reason =>
      rw [hpc] at hstaged
      cases reason with
      | failedStart =>
          exact ⟨(hdrifts.state hstaged.1 (by decide) (by decide)).1,
            hstaged.2.beside hbeside hstep⟩
      | stop =>
          exact ⟨(hdrifts.state hstaged.1 (by decide) (by decide)).1,
            hstaged.2.beside hbeside hstep⟩
      | alreadyStopped => exact hstaged.elim
  | returning =>
      rw [hpc] at hstaged
      exact ⟨(hdrifts.state hstaged.1 (by decide) (by decide)).1,
        hstaged.2.beside hbeside hstep⟩

theorem closed_cancelTasks : Closed g.clearTransports.cancelTasks := by
  refine ⟨rfl, rfl, rfl, rfl, ⟨?_, ?_⟩⟩
  · intro reader hmember
    obtain ⟨_, _, rfl⟩ := List.mem_map.mp hmember
    rfl
  · intro writer hmember
    obtain ⟨_, _, rfl⟩ := List.mem_map.mp hmember
    rfl

/-- Only the listeners, the connection and the loops count. -/
theorem Closed.congr (hclosed : Closed g) (hwiring : h.server = g.server)
    (hcontrol : h.controlServer = g.controlServer)
    (hreader : h.downstreamReader = g.downstreamReader)
    (hwriter : h.downstreamWriter = g.downstreamWriter) (hreaders : h.readers = g.readers)
    (hwriters : h.writers = g.writers) : Closed h := by
  refine ⟨hwiring.trans hclosed.server, hcontrol.trans hclosed.controlServer,
    hreader.trans hclosed.downstreamReader, hwriter.trans hclosed.downstreamWriter, ?_, ?_⟩
  · rw [hreaders]
    exact hclosed.loops.readers
  · rw [hwriters]
    exact hclosed.loops.writers

theorem Connected.congr (hconnected : Connected g)
    (hreader : h.downstreamReader = g.downstreamReader)
    (hwriter : h.downstreamWriter = g.downstreamWriter) (hreaders : h.readers = g.readers)
    (hwriters : h.writers = g.writers) (hfailed : h.failed = g.failed) : Connected h := by
  refine ⟨?_, ?_, fun hcalm => ?_⟩
  · rw [hreader]
    exact hconnected.reader
  · rw [hreader, hwriter]
    exact hconnected.writer
  · obtain ⟨hreads, hwrites⟩ := hconnected.loops (hfailed.symm.trans hcalm)
    exact ⟨by rw [hreaders]; exact hreads, by rw [hwriters]; exact hwrites⟩

theorem Alert.congr (halert : Alert g) (hstate : h.state = g.state)
    (hfailed : h.failed = g.failed) : Alert h := by
  unfold Alert
  rw [hstate, hfailed]
  exact halert

theorem staged_startUnlocked (hpc : g.lifecycle = .idle) (hsettled : Settled g) :
    Staged g.startUnlocked := by
  rcases hsettled with ⟨hstate, _⟩ | ⟨hstate, hrunning⟩ | ⟨hstate, _⟩
  · simp only [startUnlocked, hstate]
    exact .inl rfl
  · simp only [startUnlocked, hstate, Staged, hpc]
    exact .inr (.inl ⟨hstate, hrunning⟩)
  · simp only [startUnlocked, hstate]
    exact .inl rfl

theorem staged_connectDaemon (halert : Alert g) : Staged (g.connectDaemon api) := by
  unfold connectDaemon
  cases encodeFrame (api.serializeWantConfig READINESS_NONCE) with
  | none => exact rfl
  | some raw =>
      refine ⟨halert.congr rfl rfl, rfl, rfl, fun _ => ⟨?_, ?_⟩⟩
      · exact newest_concat rfl
      · exact newest_concat rfl

theorem staged_stopUnlocked (hsettled : Settled g) : Staged g.stopUnlocked := by
  rcases hsettled with ⟨hstate, hclosed⟩ | ⟨hstate, _⟩ | ⟨hstate, _⟩
  · simp only [stopUnlocked, hstate]
    exact ⟨rfl, hclosed.congr rfl rfl rfl rfl rfl rfl⟩
  · simp only [stopUnlocked, hstate]
    exact rfl
  · simp only [stopUnlocked, hstate]
    exact rfl

theorem Staged.lifecycle (hstaged : Staged g) {a : LifecycleAction}
    (hmove : LifecycleMove api g a h) : Staged h := by
  cases hmove with
  | start hpc =>
      simp only [Staged, hpc] at hstaged
      exact staged_startUnlocked hpc hstaged
  | connected hpc =>
      simp only [Staged, hpc] at hstaged
      exact staged_connectDaemon hstaged
  | connectFailed hpc =>
      simp only [Staged, hpc] at hstaged
      exact hstaged.congr rfl rfl
  | retry hpc =>
      simp only [Staged, hpc] at hstaged
      exact hstaged.congr rfl rfl
  | requested raw hpc =>
      simp only [Staged, hpc] at hstaged
      exact ⟨hstaged.1.congr rfl rfl, hstaged.2.congr rfl rfl rfl rfl rfl⟩
  | configured hpc =>
      simp only [Staged, hpc] at hstaged
      exact ⟨hstaged.1.congr rfl rfl, hstaged.2.congr rfl rfl rfl rfl rfl⟩
  | refused hpc => exact .inl rfl
  | discarded hpc =>
      simp only [Staged, hpc] at hstaged
      exact hstaged.congr rfl rfl
  | listen hpc =>
      simp only [Staged, hpc] at hstaged
      exact ⟨hstaged.1.congr rfl rfl, hstaged.2.congr rfl rfl rfl rfl rfl, rfl⟩
  | serve hpc hreserved =>
      simp only [Staged, hpc] at hstaged
      obtain ⟨_, hconnected, hcontrol⟩ := hstaged
      refine ⟨.inr (.inl rfl), hconnected.congr rfl rfl rfl rfl rfl, ⟨rfl, hcontrol⟩, ?_⟩
      intro hconnecting
      cases hconnecting
  | unreserved hpc => exact rfl
  | returned hpc =>
      rcases hpc with hpc | hpc
      · simp only [Staged, hpc] at hstaged
        obtain ⟨halert, hconnected, hopen, hstate⟩ := hstaged
        have hlater :
            Open { g with lifecycle := .idle } ∧ Connected { g with lifecycle := .idle } :=
          ⟨⟨hopen.server, hopen.controlServer⟩, hconnected.congr rfl rfl rfl rfl rfl⟩
        rcases halert with hconnecting | hrunning | ⟨hfailed, hflag⟩
        · exact absurd hconnecting hstate
        · exact .inr (.inl ⟨hrunning, hlater⟩)
        · exact .inr (.inr ⟨hfailed, .inr ⟨hflag, hlater⟩⟩)
      · simp only [Staged, hpc] at hstaged
        exact .inl ⟨hstaged.1, hstaged.2.congr rfl rfl rfl rfl rfl rfl⟩
  | raised hstarting => exact rfl
  | stop hpc =>
      simp only [Staged, hpc] at hstaged
      exact staged_stopUnlocked hstaged
  | transportsClosed reason hpc =>
      cases reason with
      | failedStart =>
          simp only [Staged, hpc] at hstaged
          exact ⟨hstaged, closed_cancelTasks.congr rfl rfl rfl rfl rfl rfl⟩
      | stop =>
          simp only [Staged, hpc] at hstaged
          exact ⟨hstaged, closed_cancelTasks.congr rfl rfl rfl rfl rfl rfl⟩
      | alreadyStopped =>
          simp only [Staged, hpc] at hstaged
          obtain ⟨hstate, hclosed⟩ := hstaged
          exact .inl ⟨hstate, rfl, rfl, rfl, rfl, hclosed.loops.readers, hclosed.loops.writers⟩
  | tasksCancelled reason hpc =>
      cases reason with
      | failedStart =>
          simp only [Staged, hpc] at hstaged
          obtain ⟨hstate, hclosed⟩ := hstaged
          exact .inr (.inr ⟨hstate, .inl (hclosed.congr rfl rfl rfl rfl rfl rfl)⟩)
      | stop =>
          simp only [Staged, hpc] at hstaged
          exact ⟨rfl, hstaged.2.congr rfl rfl rfl rfl rfl rfl⟩
      | alreadyStopped => simp only [Staged, hpc] at hstaged

theorem Staged.step (hstaged : Staged g) {a : Action} (hstep : g.step api a = some h) :
    Staged h := by
  rcases lifecycle_or_beside a with ⟨action, rfl⟩ | hbeside
  · exact hstaged.lifecycle (lifecycle_move hstep)
  · exact hstaged.beside hbeside hstep

theorem staged_new (queueSize : Nat) (publicClientsEnabled : Bool) :
    Staged (new queueSize publicClientsEnabled) := by
  refine .inl ⟨rfl, rfl, rfl, rfl, rfl, ⟨?_, ?_⟩⟩
  · intro reader hmember
    cases hmember
  · intro writer hmember
    cases hmember

/-! ## Control listeners -/

/-- Whether `start` has still to open its control listener. -/
def approaches (g : NodeGateway) : Bool :=
  match g.lifecycle with
  | .connecting => true
  | .requesting _ => true
  | .awaiting => true
  | .discarding => true
  | .retrying => true
  | .ready => true
  | _ => false

/-- Every open control listener has its name, and `start` will not take it away. -/
structure Sealed (g : NodeGateway) : Prop where
  abandoned : g.abandonedControlServers = 0
  unopened : g.approaches = true → g.controlServer = false

/-- A gateway that has failed is stopped before it is started again, unless the failure has
left no control listener. -/
def StoppedFirst (g : NodeGateway) (a : Action) : Prop :=
  a = .lifecycle .start → g.state = .failed → g.controlServer = false

instance (g : NodeGateway) (a : Action) : Decidable (StoppedFirst g a) :=
  inferInstanceAs (Decidable (_ → _ → _))

theorem Sealed.of_settled (habandoned : g.abandonedControlServers = 0)
    (hpc : g.approaches = false) : Sealed g := by
  refine ⟨habandoned, fun happroaches => ?_⟩
  rw [hpc] at happroaches
  cases happroaches

theorem Sealed.congr (hsealed : Sealed g)
    (habandoned : h.abandonedControlServers = g.abandonedControlServers)
    (hcontrol : h.controlServer = g.controlServer)
    (hpc : h.approaches = true → g.approaches = true) : Sealed h :=
  ⟨habandoned.trans hsealed.abandoned, fun happroaches =>
    hcontrol.trans (hsealed.unopened (hpc happroaches))⟩

theorem Sealed.startUnlocked (hsealed : Sealed g) (hstaged : Staged g)
    (hpc : g.lifecycle = .idle) (hfirst : g.state = .failed → g.controlServer = false) :
    Sealed g.startUnlocked := by
  simp only [Staged, hpc] at hstaged
  unfold NodeGateway.startUnlocked
  rcases hstaged with ⟨hstate, hclosed⟩ | ⟨hstate, _⟩ | ⟨hstate, _⟩
  · rw [hstate]
    exact ⟨hsealed.abandoned, fun _ => hclosed.controlServer⟩
  · rw [hstate]
    exact hsealed
  · have hcontrol := hfirst hstate
    rw [hstate]
    exact ⟨hsealed.abandoned, fun _ => hcontrol⟩

theorem Sealed.lifecycle (hsealed : Sealed g) (hstaged : Staged g) {a : LifecycleAction}
    (hfirst : StoppedFirst g (.lifecycle a)) (hmove : LifecycleMove api g a h) : Sealed h := by
  cases hmove with
  | start hpc => exact hsealed.startUnlocked hstaged hpc (hfirst rfl)
  | connected hpc =>
      have hcontrol := hsealed.unopened (by simp [approaches, hpc])
      unfold connectDaemon
      cases encodeFrame (api.serializeWantConfig READINESS_NONCE) with
      | none => exact .of_settled hsealed.abandoned rfl
      | some raw => exact ⟨hsealed.abandoned, fun _ => hcontrol⟩
  | connectFailed hpc => exact hsealed.congr rfl rfl fun _ => by simp [approaches, hpc]
  | retry hpc => exact hsealed.congr rfl rfl fun _ => by simp [approaches, hpc]
  | requested raw hpc => exact hsealed.congr rfl rfl fun _ => by simp [approaches, hpc]
  | configured hpc => exact hsealed.congr rfl rfl fun _ => by simp [approaches, hpc]
  | refused hpc => exact hsealed.congr rfl rfl fun _ => by simp [approaches, hpc]
  | discarded hpc => exact hsealed.congr rfl rfl fun _ => by simp [approaches, hpc]
  | listen hpc =>
      have hcontrol := hsealed.unopened (by simp [approaches, hpc])
      refine .of_settled ?_ rfl
      simp [openControlServer, hsealed.abandoned, hcontrol]
  | stop hpc =>
      unfold stopUnlocked
      cases g.state <;> exact .of_settled hsealed.abandoned rfl
  | transportsClosed reason hpc => cases reason <;> exact .of_settled hsealed.abandoned rfl
  | tasksCancelled reason hpc => cases reason <;> exact .of_settled hsealed.abandoned rfl
  | _ => exact .of_settled hsealed.abandoned rfl

theorem abandoned_beside {a : Action} (hbeside : ∀ action, a ≠ .lifecycle action)
    (hstep : g.step api a = some h) :
    h.abandonedControlServers = g.abandonedControlServers := by
  rcases drifts_step hbeside hstep with hsame | ⟨hfailed, _⟩
  · exact congrArg (fun w => w.2.2.2.2) hsame
  · exact congrArg (fun w => w.2.2.2.2) hfailed

theorem Sealed.step (hsealed : Sealed g) (hstaged : Staged g) {a : Action}
    (hfirst : StoppedFirst g a) (hstep : g.step api a = some h) : Sealed h := by
  rcases lifecycle_or_beside a with ⟨action, rfl⟩ | hbeside
  · exact hsealed.lifecycle hstaged hfirst (lifecycle_move hstep)
  · refine hsealed.congr (abandoned_beside hbeside hstep)
      (drifts_step hbeside hstep).listeners.2 fun happroaches => ?_
    unfold approaches at happroaches ⊢
    rwa [(aside_step hbeside hstep).lifecycle] at happroaches

theorem sealed_new (queueSize : Nat) (publicClientsEnabled : Bool) :
    Sealed (new queueSize publicClientsEnabled) := .of_settled rfl rfl

theorem sealed_of_run {queueSize : Nat} {publicClientsEnabled : Bool}
    (hrun : Run (step api) StoppedFirst (new queueSize publicClientsEnabled) g) :
    Staged g ∧ Sealed g := by
  refine hrun.invariant (I := fun t => Staged t ∧ Sealed t) ?_
    ⟨staged_new queueSize publicClientsEnabled, sealed_new queueSize publicClientsEnabled⟩
  rintro t a u ⟨hstaged, hsealed⟩ hfirst hstep
  exact ⟨hstaged.step hstep, hsealed.step hstaged hfirst hstep⟩

/-- When every failed gateway is stopped before it is started again, no control listener
loses its name; and whenever the life cycle lock is free, a gateway is STOPPED with nothing
open, or RUNNING with both listeners and a daemon connection whose two loops run unless a
failure is set, or FAILED with nothing open after a start, else with its failure set. -/
theorem gateway_resources_agree (api : ClientApi) (queueSize : Nat)
    (publicClientsEnabled : Bool) {g : NodeGateway}
    (hrun : Run (step api) StoppedFirst (new queueSize publicClientsEnabled) g)
    (hidle : g.lifecycle = .idle) :
    g.abandonedControlServers = 0 ∧
      (g.state = .stopped ∧ Closed g ∨
        g.state = .running ∧ Open g ∧ Connected g ∨
        g.state = .failed ∧ (Closed g ∨ g.failed = true ∧ Open g ∧ Connected g)) := by
  obtain ⟨hstaged, hsealed⟩ := sealed_of_run hrun
  simp only [Staged, hidle] at hstaged
  exact ⟨hsealed.abandoned, hstaged⟩

/-- The daemon disconnects when the handshake is over, before the public server serves. -/
def lateFailureSteps : List Action :=
  [.lifecycle .start, .lifecycle .connected, .lifecycle .requested, .reader 0 .run,
    .writer 0 .run, .writer 0 .write, .reader 0 (.receive [0x94, 0xc3, 0, 0]), .reader 0 .next,
    .reader 0 .handle, .reader 0 .run, .lifecycle .configured, .lifecycle .listen,
    .reader 0 .disconnect, .lifecycle .serve, .lifecycle .returned]

def lateFailure : NodeGateway :=
  (exec (step quietApi) lateFailureSteps (new 2 true)).getD (new 2 true)

/-- This start ends RUNNING all the same, with the failure set. -/
theorem lateFailure_running : Open lateFailure ∧ Connected lateFailure ∧
    lateFailure.state = .running ∧ lateFailure.failed = true ∧
    lateFailure.readers.map (·.pc) = [.failing] := by
  have hexec : exec (step quietApi) lateFailureSteps (new 2 true) = some lateFailure := by
    decide +kernel
  have hconforms : Conforms (step quietApi) StoppedFirst lateFailureSteps (new 2 true) := by
    decide +kernel
  have hrun : Run (step quietApi) StoppedFirst (new 2 true) lateFailure :=
    .of_exec hexec hconforms
  have hrunning : lateFailure.state = .running := by decide +kernel
  have hrest : lateFailure.failed = true ∧ lateFailure.readers.map (·.pc) = [.failing] := by
    decide +kernel
  rcases (gateway_resources_agree quietApi 2 true hrun (by decide +kernel)).2 with
    ⟨hstate, _⟩ | ⟨_, hopen, hconnected⟩ | ⟨hstate, _⟩
  · rw [hrunning] at hstate
    cases hstate
  · exact ⟨hopen, hconnected, hrunning, hrest.1, hrest.2⟩
  · rw [hrunning] at hstate
    cases hstate

/-- No step closes a listener that has lost its name. -/
theorem abandoned_le_step {a : Action} (hstep : g.step api a = some h) :
    g.abandonedControlServers ≤ h.abandonedControlServers := by
  rcases lifecycle_or_beside a with ⟨action, rfl⟩ | hbeside
  · have hmove := lifecycle_move hstep
    cases hmove with
    | start hpc => unfold startUnlocked; cases g.state <;> exact Nat.le_refl _
    | connected hpc =>
        unfold connectDaemon
        cases encodeFrame (api.serializeWantConfig READINESS_NONCE) <;> exact Nat.le_refl _
    | listen hpc => exact Nat.le_add_right _ _
    | stop hpc => unfold stopUnlocked; cases g.state <;> exact Nat.le_refl _
    | transportsClosed reason hpc => cases reason <;> exact Nat.le_refl _
    | tasksCancelled reason hpc => cases reason <;> exact Nat.le_refl _
    | _ => exact Nat.le_refl _
  · exact Nat.le_of_eq (abandoned_beside hbeside hstep).symm

/-- A control listener that has lost its name accepts internal clients ever after, also when
the gateway is stopped. -/
theorem abandoned_listener_accepts {meets : NodeGateway → Action → Prop}
    (hrun : Run (step api) meets g h) (habandoned : 0 < g.abandonedControlServers) :
    (h.step api (.accept false)).isSome = true := by
  have hlater : 0 < h.abandonedControlServers :=
    hrun.invariant (I := fun t => 0 < t.abandonedControlServers)
      (fun _ _ _ hbefore _ hstep => hbefore.trans_le (abandoned_le_step hstep)) habandoned
  simp [step, accept, listens, hlater]

-- A start after a failure without a stop fails, and the stop after it leaves the listener of
-- the first start open.
example : ∃ g ∈ exec (step quietApi)
    (startSteps 0 ++ [.reader 0 .run, .reader 0 .disconnect, .reader 0 .report] ++
      (startSteps 1).take 12 ++ [.lifecycle .transportsClosed, .lifecycle .tasksCancelled,
        .lifecycle .stop, .lifecycle .transportsClosed, .lifecycle .tasksCancelled,
        .lifecycle .returned]) (new 2 true),
    g.state = .stopped ∧ g.controlServer = false ∧ (g.accept false).isSome = true := by
  decide +kernel

end NodeGateway

end MeshtasticLab.Gateway

/-
  Simulator/PacketEvidence.lean --- packet evidence agrees with the aggregate metrics.

  WHAT THIS FILE IS FOR

  The medium labels its events with what one call of the controller answers, and the
  controller counts each drop by a call of its own.  All calls for one frame find the
  same message, so a frame posts nothing to the balances of the run.  Neither does any
  other step, and in every state of every simulation the events of a run come to what
  its metrics show.
-/
import MeshtasticLab.Simulator.Decisions
import MeshtasticLab.Traffic.Loop
import MeshtasticLab.Traffic.Postings
import MeshtasticLab.Traffic.Publications

set_option autoImplicit false

namespace MeshtasticLab.Simulator

open MeshtasticLab.Foundation MeshtasticLab.Gateway MeshtasticLab.Metrics MeshtasticLab.Models
open MeshtasticLab.Traffic TrafficController
open TrafficTasks (pairProtobuf)

variable {pb : Protobuf} {runId : String}

/-! ## Frames -/

namespace DirectedMedium

variable {c : TrafficController} {frame : Transmission}

/-- An event that carries the label of a frame is labelled with its run or with none. -/
theorem label_ne {found : Option (String × Nat)} (hown : ∀ entry ∈ found, entry.1 = runId)
    {other : String} (hne : other ≠ runId) : found.map Prod.fst ≠ some other := by
  cases found with
  | none => exact nofun
  | some entry =>
      intro hsame
      exact hne ((Option.some.inj hsame).symm.trans (hown entry rfl))

/-- The `RF_TRANSMIT` event of a frame stands for its transmission. -/
theorem credit_event {found : Option (String × Nat)} (hown : ∀ entry ∈ found, entry.1 = runId)
    (hlabel : frame.trafficRunId = found.map Prod.fst) (hardwareIds : Dict String Nat)
    (receiverSet : List String) (μ : Measure) :
    μ.credit runId (frame.event hardwareIds receiverSet) =
      counted found (.transmission frame.transmitter frame.packetAirtimeMs) μ := by
  unfold Measure.credit counted Transmission.event
  dsimp only
  rw [hlabel]
  cases found with
  | none => simp
  | some entry =>
      rw [Option.map_some, hown entry rfl]
      cases μ <;> simp [Measure.eventType, Measure.worth, Measure.gain]

/-- The `LINK_DISABLED` event of a frame stands for a drop. -/
theorem credit_disabledEvent {found : Option (String × Nat)}
    (hown : ∀ entry ∈ found, entry.1 = runId) (hlabel : frame.trafficRunId = found.map Prod.fst)
    (link : DirectedLink) (μ : Measure) :
    μ.credit runId (frame.disabledEvent link) = counted found (.drop "link-disabled") μ := by
  unfold Measure.credit counted Transmission.disabledEvent
  dsimp only
  rw [hlabel]
  cases found with
  | none => simp
  | some entry =>
      rw [Option.map_some, hown entry rfl]
      cases μ <;> simp [Measure.eventType, Measure.worth, Measure.gain]

/-- The event of a disabled link and the drop that is counted for it balance; afterwards
the packet of the frame is correlated as before. -/
theorem even_dropped (pb : Protobuf)
    (hown : ∀ entry ∈ c.correlated pb frame.transmitter frame.packet, entry.1 = runId)
    (hlabel : frame.trafficRunId =
      (c.correlated pb frame.transmitter frame.packet).map Prod.fst) (link : DirectedLink) :
    let d := (c.publish (frame.disabledEvent link)).recordDrop pb frame.m frame.transmitter
      frame.packet "link-disabled"
    Watch.Even runId c.watch d.watch ∧ SameLookup c d ∧
      d.correlated pb frame.transmitter frame.packet =
        c.correlated pb frame.transmitter frame.packet := by
  let published := c.publish (frame.disabledEvent link)
  have hpublished : SameLookup c published := .publish c _
  have hsame : published.correlated pb frame.transmitter frame.packet =
      c.correlated pb frame.transmitter frame.packet :=
    hpublished.correlated (messageForPacketIdentity_congr pb frame.packet _ rfl rfl)
  refine ⟨?_, hpublished.trans (sameLookup_recordDrop pb published frame.m _ _ _),
    (correlated_recordDrop pb published frame.m _ _ _).trans hsame⟩
  have hevent : Watch.Posts runId _ c.watch published.watch := .publish c.watch fun other hne => by
    change frame.trafficRunId ≠ some other
    rw [hlabel]
    exact label_ne hown hne
  have hdropped := posts_recordDrop runId pb published frame.m frame.transmitter frame.packet
    "link-disabled"
  refine (hevent.trans hdropped).congr fun μ => ?_
  rw [hsame, credit_disabledEvent hown hlabel]
  exact add_neg_cancel _

theorem even_decide (pb : Protobuf) (frame : Transmission) (links : List DirectedLink)
    (hown : ∀ entry ∈ c.correlated pb frame.transmitter frame.packet, entry.1 = runId)
    (hlabel : frame.trafficRunId =
      (c.correlated pb frame.transmitter frame.packet).map Prod.fst)
    (injections : List Injection) :
    Watch.Even runId c.watch (links.foldl (frame.decide pb) (c, injections)).1.watch ∧
      SameLookup c (links.foldl (frame.decide pb) (c, injections)).1 := by
  induction links generalizing c injections with
  | nil => exact ⟨.refl runId c.watch, .refl c⟩
  | cons link rest ih =>
      rw [List.foldl_cons]
      unfold Transmission.decide
      split
      · obtain ⟨heven, hlookup, hsame⟩ := even_dropped pb hown hlabel link
        obtain ⟨hrest, hlookup'⟩ := ih (by rw [hsame]; exact hown) (by rw [hsame]; exact hlabel)
          injections
        exact ⟨heven.trans hrest, hlookup.trans hlookup'⟩
      · exact ih hown hlabel _

/-- A frame posts nothing: what is counted of it and its events come to the same. -/
theorem even_transmit (pb : Protobuf) (medium : DirectedMedium) (m : Moment) {a : String}
    (hown : ∀ run, c.current = some run → run.runId = runId)
    (hknown : c.hardwareIds.contains a = true) (packet : MeshPacket) :
    Watch.Even runId c.watch (medium.transmit pb c m a packet).1.watch ∧
      SameLookup c (medium.transmit pb c m a packet).1 := by
  have hcorrelated : ∀ entry ∈ c.correlated pb a packet, entry.1 = runId := by
    intro entry hentry
    obtain ⟨run, hrun, hid⟩ := runId_of_correlated hentry
    exact hid.trans (hown run hrun)
  unfold transmit
  split
  · exact ⟨.refl runId c.watch, .refl c⟩
  · next payloadLength _ =>
      dsimp only
      have hanswer := answer_recordRfTransmission pb m hknown packet
        (airtimeMs payloadLength medium.scenario.rf.modemPreset)
      have hposts := posts_recordRfTransmission runId pb m hknown packet
        (airtimeMs payloadLength medium.scenario.rf.modemPreset)
      have hlookup := sameLookup_recordRfTransmission pb c m a packet
        (airtimeMs payloadLength medium.scenario.rf.modemPreset)
      have hsame := correlated_recordRfTransmission pb c m a packet
        (airtimeMs payloadLength medium.scenario.rf.modemPreset)
      split
      · next d error hraised =>
          rw [hraised] at hanswer
          cases hanswer
      · next d correlation hanswered =>
          rw [hanswered] at hanswer hposts hlookup hsame
          have hfound : correlation = c.correlated pb a packet := Except.ok.inj hanswer
          let frame : Transmission :=
            { transmitter := a
              packet := packet
              m := m
              portNumber := meshPacketPortNumber pb packet
              payloadLength := payloadLength
              packetAirtimeMs := airtimeMs payloadLength medium.scenario.rf.modemPreset
              trafficRunId := correlation.map Prod.fst
              trafficSequence := correlation.map Prod.snd }
          let event := frame.event medium.hardwareIds
            (((linksFrom medium.links a).filter (·.enabled)).map (·.toNode))
          let published := d.publish event
          have hpublished : SameLookup d published := .publish d event
          have hkept : published.correlated pb a packet = c.correlated pb a packet :=
            (hpublished.correlated (messageForPacketIdentity_congr pb packet _ rfl rfl)).trans hsame
          have hlabel : frame.trafficRunId = (c.correlated pb a packet).map Prod.fst :=
            congrArg (Option.map Prod.fst) hfound
          have hevent : Watch.Posts runId _ d.watch published.watch :=
            .publish d.watch fun other hne => by
              change frame.trafficRunId ≠ some other
              rw [hlabel]
              exact label_ne hcorrelated hne
          obtain ⟨hdecided, hlookup'⟩ := even_decide (c := published) pb frame
            (linksFrom medium.links a) (by rw [show published.correlated pb frame.transmitter
              frame.packet = _ from hkept]; exact hcorrelated)
            (by rw [show published.correlated pb frame.transmitter frame.packet = _ from hkept]
                exact hlabel) []
          refine ⟨Watch.Even.trans ((hposts.trans hevent).congr fun μ => ?_) hdecided,
            (hlookup.trans hpublished).trans hlookup'⟩
          rw [credit_event hcorrelated hlabel]
          exact neg_add_cancel _

end DirectedMedium

/-! ## Steps -/

namespace Simulation

variable {s t : Simulation}

/-- Ordinary events are published. -/
theorem even_publishAll (s : Simulation) {events : List PacketEvent}
    (hordinary : ∀ event ∈ events, Ordinary event) :
    Watch.Even runId s.controller.watch (s.publishAll events).controller.watch ∧
      currentId (s.publishAll events).controller = currentId s.controller ∧
      (s.publishAll events).controller.hardwareIds = s.controller.hardwareIds := by
  induction events generalizing s with
  | nil => exact ⟨.refl runId _, rfl, rfl⟩
  | cons event rest ih =>
      have hfirst : Watch.Does (Watch.Fair runId) s.controller.watch
          (s.withController (s.controller.publish event)).controller.watch :=
        .single (.publish event) (hordinary event List.mem_cons_self)
      obtain ⟨hrest, hid⟩ := ih (s.withController (s.controller.publish event))
        fun other hmember => hordinary other (List.mem_cons_of_mem _ hmember)
      exact ⟨hfirst.even.trans hrest, hid⟩

/-- What a handler of the tasks does posts nothing, unless the medium calls it. -/
theorem even_handled (hnames : ∀ code, pb.routingErrorName code ≠ some "link-disabled")
    {tasks after : TrafficTasks} (h : TrafficTasks.Structured tasks)
    {a : TrafficTasks.Action} (hmedium : isMediumCall a = false)
    (hown : ∀ run, tasks.controller.current = some run → run.runId = runId)
    (hstep : tasks.step pb a = some after) :
    Watch.Even runId tasks.controller.watch (tasks.handled pb a).watch := by
  have hsampled : ∀ d : TrafficController, Does MaySample tasks.controller d →
      Watch.Even runId tasks.controller.watch d.watch := by
    intro d hdoes
    refine Watch.Does.even (Watch.Does.mono hdoes fun v deed hmay => ?_)
    cases deed <;> trivial
  cases a with
  | fromRadio m nodeId message =>
      refine Watch.Does.even
        (Watch.Does.mono (does_handleFromRadio pb tasks.controller m nodeId message) ?_)
      intro v deed hmay
      cases deed with
      | deliver event =>
          obtain ⟨htype, run, hrun, hlabel⟩ := hmay
          exact ⟨htype, by rw [hlabel, hown run hrun]⟩
      | drop reason =>
          obtain ⟨code, _, hname⟩ := hmay
          rintro rfl
          exact hnames code hname
      | duplicate => trivial
      | _ => exact hmay.elim
  | rfTransmission m transmitter packet packetAirtimeMs => cases hmedium
  | drop m transmitter packet reason => cases hmedium
  | failedReceptions m nodeId total =>
      exact hsampled _ (samples_recordFailedReceptions tasks.controller m nodeId total)
  | duplicateReceptions m nodeId total =>
      exact hsampled _ (samples_recordDuplicateReceptions tasks.controller m nodeId total)
  | run m input =>
      cases input with
      | submit flow source pick draws =>
          change Watch.Even runId _ (tasks.submitHandled pb m flow source pick draws).watch
          cases hcall : tasks.submission flow source pick with
          | none =>
              rw [TrafficTasks.submitHandled_of_none pb m hcall]
              exact .refl runId _
          | some call =>
              cases TrafficTasks.submitted_submitHandled pb (h.open_of_submit hstep) m hcall
                draws with
              | nothing hnone hwatch =>
                  rw [hwatch]
                  exact .refl runId _
              | reserved packetId ids hallocation hwatch =>
                  rw [hwatch]
                  exact Watch.Does.even (.single (.reserve ids) trivial)
              | generated packetId hardwareId ids hallocation hhardware hdoes =>
                  have hreserved : Watch.Even runId tasks.controller.watch
                      (tasks.controller.watch.after (.reserve ids)) :=
                    Watch.Does.even (.single (.reserve ids) trivial)
                  have hgenerated : Watch.Even runId
                      (tasks.controller.watch.after (.reserve ids)) _ :=
                    Watch.Does.even (.single (.generate call.1 packetId hardwareId) trivial)
                  exact (hreserved.trans hgenerated).trans (Watch.Does.even_of_none hdoes)
      | sampled answer => exact hsampled _ (samples_applyFinalSample tasks.controller m answer)
      | _ => exact .refl runId _
  | resume i m input =>
      cases input with
      | sampled answer => exact hsampled _ (samples_applyFinalSample tasks.controller m answer)
      | _ => exact .refl runId _
  | _ => exact .refl runId _

/-- The action starts a run. -/
def Action.starts : Action → Bool
  | .traffic a => a.starts
  | _ => false

theorem ordinary_linkUpdateEvent (link : DirectedLink) (now : ℚ) :
    Ordinary (DirectedMedium.linkUpdateEvent link now) :=
  ⟨nofun, nofun, nofun⟩

/-- A step that starts no run posts nothing, and the run stays the current one. -/
theorem even_step (hnames : ∀ code, pb.routingErrorName code ≠ some "link-disabled")
    (h : TrafficTasks.Sound s.tasks)
    (hknown : ∀ nodeId ∈ s.medium.gateways, s.controller.hardwareIds.contains nodeId = true)
    (hown : ∀ run, s.controller.current = some run → run.runId = runId) {a : Action}
    (hstarts : a.starts = false) (hstep : step pb s a = some t) :
    Watch.Even runId s.controller.watch t.controller.watch ∧
      currentId t.controller = currentId s.controller ∧
      t.controller.hardwareIds = s.controller.hardwareIds := by
  have hsound := (progress_step hstep).sound h
  unfold Simulation.step at hstep
  cases a with
  | rfFrame nodeId packet =>
      dsimp only at hstep
      split at hstep
      · cases hstep
      · split at hstep <;> cases hstep <;> exact ⟨.refl runId _, rfl, rfl⟩
  | transmit m nodeId =>
      dsimp only at hstep
      split at hstep
      · cases hstep
      · next hmember =>
          rw [not_not] at hmember
          unfold transmitNext at hstep
          split at hstep
          · next packet rest _ _ =>
              cases hstep
              obtain ⟨heven, hlookup⟩ := DirectedMedium.even_transmit pb s.medium m hown
                (hknown nodeId hmember) packet
              exact ⟨heven, hlookup.runId, hlookup.hardwareIds⟩
          · cases hstep
  | inject nodeId i =>
      dsimp only at hstep
      split at hstep
      · cases hstep
      · next injection _ =>
          split at hstep
          · cases hstep
          · cases hstep
            refine even_publishAll s fun event hmember => ?_
            rw [List.mem_singleton.mp hmember]
            exact ⟨nofun, nofun, nofun⟩
  | injectionRaised nodeId i =>
      dsimp only at hstep
      split at hstep <;> cases hstep
      exact ⟨.refl runId _, rfl, rfl⟩
  | gathered nodeId =>
      dsimp only at hstep
      split at hstep <;> cases hstep
      exact ⟨.refl runId _, rfl, rfl⟩
  | updateLink now link =>
      dsimp only at hstep
      split at hstep
      · cases hstep
        exact ⟨.refl runId _, rfl, rfl⟩
      · next medium _ =>
          cases hstep
          refine even_publishAll (s.withMedium medium) fun event hmember => ?_
          rw [List.mem_singleton.mp hmember]
          exact ordinary_linkUpdateEvent link now
  | applyLinks now links =>
      dsimp only at hstep
      split at hstep
      · cases hstep
        exact ⟨.refl runId _, rfl, rfl⟩
      · next medium changed _ =>
          cases hstep
          refine even_publishAll (s.withMedium medium) fun event hmember => ?_
          obtain ⟨link, _, rfl⟩ := List.mem_map.mp hmember
          exact ordinary_linkUpdateEvent link now
  | traffic a =>
      dsimp only at hstep
      split at hstep
      · cases hstep
      · next hmedium =>
          obtain ⟨tasks, htasks, rfl⟩ := Option.map_eq_some_iff.mp hstep
          have hhandled := even_handled hnames h.structured (by simpa using hmedium) hown htasks
          refine ⟨hhandled.trans (Watch.Does.even_of_none
            (TrafficTasks.does_step pb hstarts htasks)), ?_,
            (TrafficTasks.appends_step pb h.structured htasks).hardwareIds⟩
          have hidentity := (TrafficTasks.step_identity pb h.structured hstarts htasks).1
          change currentId tasks.controller = currentId s.tasks.controller
          rw [Controlled.currentId hsound.structured.controlled,
            Controlled.currentId h.structured.controlled]
          exact congrArg (Option.map Prod.fst) hidentity

/-- A call of `start` raises, and all but the reserved identifiers stays, or a run with
its id has begun. -/
theorem start_step {m : Moment} {request : TrafficRunRequest}
    {scenarioSnapshot : Option Scenario} {baseline : Option FailedReceptionSample}
    (hstep : step pb s (.traffic (.start m runId request scenarioSnapshot baseline)) = some t) :
    (∃ ids, t = s.withController { s.controller with packetIds := ids }) ∨
    (currentId t.controller = some runId ∧ t.controller.frozenResults = [] ∧
      t.medium = s.medium ∧ ∃ ids,
        t.controller.watch = s.controller.watch.begun ids (baseline.getD { totals := ∅ })) := by
  unfold Simulation.step at hstep
  obtain ⟨tasks, htasks, rfl⟩ := Option.map_eq_some_iff.mp hstep
  unfold TrafficTasks.step at htasks
  dsimp only at htasks
  split at htasks
  · cases htasks
    unfold TrafficTasks.started
    split
    · next c error hstart =>
        rcases start_watch hstart with
          ⟨_, _, rfl⟩ | ⟨_, ids, _, _, rfl⟩ | ⟨_, _, houtcome, _⟩
        · exact Or.inl ⟨_, rfl⟩
        · exact Or.inl ⟨ids, rfl⟩
        · cases houtcome
    · next c started hstart =>
        rcases start_watch hstart with ⟨_, houtcome, _⟩ | ⟨_, _, _, houtcome, _⟩ | hbegun
        · cases houtcome
        · cases houtcome
        · obtain ⟨ids, _, _, _, hwatch⟩ := hbegun
          rcases evidence_start hstart with ⟨_, houtcome, _⟩ | ⟨_, _, hevidence⟩
          · cases houtcome
          · have hfrozen : c.frozenResults = [] :=
              List.map_eq_nil_iff.mp (congrArg Evidence.frozen hevidence)
            have hcurrent := current_evidence c
            rw [hevidence] at hcurrent
            obtain ⟨run, hrun, hid⟩ := Option.map_eq_some_iff.mp hcurrent.symm
            refine Or.inr ⟨currentId_eq_some.mpr ⟨run, hrun, ?_⟩, hfrozen, rfl, ids, hwatch⟩
            exact congrArg RunEvidence.runId hid
  · cases htasks

/-! ## Metrics -/

end Simulation

/-- The events of a run come to what its metrics show. -/
structure Evidenced (events : List PacketEvent) (runId : String) (metrics : MetricsSummary) :
    Prop where
  transmissions : (evidenceOf events runId .rfTransmit).length = metrics.rfTransmissions
  airtime : ((evidenceOf events runId .rfTransmit).map fun event => event.airtimeMs.getD 0).sum =
    metrics.observedAirtimeMs
  transmitters : ∀ nodeId, (evidenceOf events runId .rfTransmit).countP
      (fun event => event.transmitter = some nodeId) =
    (metrics.perNodeTransmitCounts.get? nodeId).getD 0
  disabled : (evidenceOf events runId .linkDisabled).length =
    (metrics.dropsByReason.get? "link-disabled").getD 0
  deliveries : (evidenceOf events runId .applicationReceive).length = metrics.receiverDeliveries

/-- What metrics show of a measure. -/
def shown (metrics : MetricsSummary) : Measure → Nat
  | .transmissions => metrics.rfTransmissions
  | .airtime => metrics.observedAirtimeMs
  | .transmissionsOf nodeId => (metrics.perNodeTransmitCounts.get? nodeId).getD 0
  | .linkDisabled => (metrics.dropsByReason.get? "link-disabled").getD 0
  | .deliveries => metrics.receiverDeliveries

/-- Each measure by itself. -/
theorem Evidenced.of_totals {events : List PacketEvent} {metrics : MetricsSummary}
    (h : ∀ μ : Measure, μ.total runId events = shown metrics μ) :
    Evidenced events runId metrics := by
  have hones : ∀ l : List PacketEvent, (l.map fun _ => 1).sum = l.length := by
    intro l
    simp
  have hcount : ∀ (l : List PacketEvent) (nodeId : String),
      (l.map fun event => if event.transmitter = some nodeId then 1 else 0).sum =
        l.countP fun event => event.transmitter = some nodeId := by
    intro l nodeId
    induction l with
    | nil => rfl
    | cons first rest ih =>
        rw [List.map_cons, List.sum_cons, List.countP_cons, ih, Nat.add_comm]
        simp
  constructor
  · exact (hones _).symm.trans (h .transmissions)
  · exact h .airtime
  · exact fun nodeId => (hcount _ nodeId).symm.trans (h (.transmissionsOf nodeId))
  · exact (hones _).symm.trans (h .linkDisabled)
  · exact (hones _).symm.trans (h .deliveries)

/-- Metrics that show what the run has counted show its measures. -/
theorem shown_of_metered {c : TrafficController} {metrics : MetricsSnapshot}
    (h : Metered c.accumulators metrics) (μ : Measure) :
    shown metrics.toMetricsSummary μ = μ.counter c.watch := by
  cases μ with
  | transmissions => exact h.rfTransmissions
  | airtime => exact h.observedAirtimeMs
  | transmissionsOf nodeId =>
      exact congrArg (fun d : Dict String Nat => (d.get? nodeId).getD 0) h.perNodeTransmitCounts
  | linkDisabled =>
      exact congrArg (fun d : Dict String Nat => (d.get? "link-disabled").getD 0) h.dropsByReason
  | deliveries => exact h.receiverDeliveries

namespace Simulation

variable {s t : Simulation}

/-! ## Runs -/

/-- The ids that `start` drew, and the results that were frozen when another run began. -/
structure RunHistory where
  started : List String := []
  finished : List TrafficRunResult := []

/-- The history after a step. -/
def noteRuns (h : RunHistory) (s : Simulation) (a : Action) (t : Simulation) : RunHistory :=
  match a with
  | .traffic (.start _ runId _ _ _) =>
      { started := runId :: h.started
        finished :=
          if currentId t.controller = currentId s.controller then h.finished
          else s.controller.frozenResults ++ h.finished }
  | _ => h

/-- A call of `start` draws an id that none has drawn before. -/
def DrawsFresh (h : RunHistory) : Action → Prop
  | .traffic (.start _ runId _ _ _) => runId ∉ h.started
  | _ => True

instance (h : RunHistory) (a : Action) : Decidable (DrawsFresh h a) := by
  unfold DrawsFresh
  split <;> infer_instance

/-- What every state of every simulation keeps of its evidence. -/
structure Evident (nodeIds : List String) (hardwareIds : Dict String Nat) (s : Simulation)
    (h : RunHistory) : Prop where
  accounts : TrafficTasks.Sound s.tasks
  gateways : s.medium.gateways = nodeIds
  known : s.controller.hardwareIds = hardwareIds
  drawn : ∀ runId, currentId s.controller = some runId → runId ∈ h.started
  balanced : ∀ runId, currentId s.controller = some runId →
    ∀ μ, s.controller.watch.balance runId μ = 0
  unused : ∀ runId, runId ∉ h.started → ∀ μ : Measure, μ.total runId s.controller.outbox = 0
  finished : ∀ result ∈ h.finished, result.runId ∈ h.started ∧
    currentId s.controller ≠ some result.runId ∧
    ∀ μ : Measure, μ.total result.runId s.controller.outbox =
      shown result.metrics.toMetricsSummary μ

variable {nodeIds : List String} {hardwareIds : Dict String Nat} {h : RunHistory}

/-- The totals of the current run are its counters. -/
theorem Evident.total_eq (hevident : Evident nodeIds hardwareIds s h)
    (hid : currentId s.controller = some runId) (μ : Measure) :
    μ.total runId s.controller.outbox = μ.counter s.controller.watch := by
  have hbalanced := hevident.balanced runId hid μ
  unfold Watch.balance at hbalanced
  have houtbox : s.controller.watch.outbox = s.controller.outbox := rfl
  rw [houtbox] at hbalanced
  omega

/-- So do its frozen results show them. -/
theorem Evident.frozen (hevident : Evident nodeIds hardwareIds s h) {result : TrafficRunResult}
    (hmember : result ∈ s.controller.frozenResults) :
    currentId s.controller = some result.runId ∧
      ∀ μ : Measure, μ.total result.runId s.controller.outbox =
        shown result.metrics.toMetricsSummary μ := by
  have hcontrolled := hevident.accounts.structured.controlled
  have hmirrors := hcontrolled.mirrored result hmember
  have hid : currentId s.controller = some result.runId :=
    (Controlled.currentId hcontrolled).trans
      (congrArg (Option.map Prod.fst) hmirrors.identity)
  refine ⟨hid, fun μ => ?_⟩
  rw [hevident.total_eq hid, shown_of_metered (c := s.controller) hmirrors.metrics]

/-- A step that posts nothing to the current run, which it leaves, keeps the evidence. -/
theorem Evident.keep (hevident : Evident nodeIds hardwareIds s h)
    (hsound : TrafficTasks.Sound t.tasks) (hgateways : t.medium.gateways = s.medium.gateways)
    (hids : t.controller.hardwareIds = s.controller.hardwareIds)
    (hcurrent : currentId t.controller = currentId s.controller)
    (heven : ∀ runId, (∀ other, currentId s.controller = some other → other = runId) →
      Watch.Even runId s.controller.watch t.controller.watch) :
    Evident nodeIds hardwareIds t h := by
  -- An id that is not the current one is other than the one the step may post to.
  have hothers : ∀ runId, currentId s.controller ≠ some runId → ∀ μ : Measure,
      μ.total runId t.controller.outbox = μ.total runId s.controller.outbox := by
    intro runId hne μ
    cases hcase : currentId s.controller with
    | none =>
        refine (heven (runId ++ "'") fun other hother => ?_).others runId ?_ μ
        · rw [hcase] at hother
          cases hother
        · intro hsame
          have hlength := congrArg String.length hsame
          simp at hlength
    | some current =>
        refine (heven current fun other hother => ?_).others runId ?_ μ
        · rw [hcase] at hother
          exact (Option.some.inj hother).symm
        · rintro rfl
          exact hne hcase
  refine
    { accounts := hsound
      gateways := hgateways.trans hevident.gateways
      known := hids.trans hevident.known
      drawn := fun runId hid => hevident.drawn runId (hcurrent ▸ hid)
      balanced := ?_
      unused := ?_
      finished := ?_ }
  · intro runId hid μ
    rw [hcurrent] at hid
    have hown := (heven runId fun other hother =>
      Option.some.inj (hother.symm.trans hid)).own μ
    rw [hown, hevident.balanced runId hid, add_zero]
  · intro runId hunused μ
    rw [hothers runId (fun hid => hunused (hevident.drawn runId hid)),
      hevident.unused runId hunused]
  · intro result hmember
    obtain ⟨hdrawn, hne, htotal⟩ := hevident.finished result hmember
    refine ⟨hdrawn, hcurrent ▸ hne, fun μ => ?_⟩
    rw [hothers result.runId hne, htotal]

/-- A call of `start` that raises draws an id. -/
theorem Evident.raised (hevident : Evident nodeIds hardwareIds s h) (runId : String)
    (ids : PacketIds) (hsound : TrafficTasks.Sound
      (s.withController { s.controller with packetIds := ids }).tasks) :
    Evident nodeIds hardwareIds (s.withController { s.controller with packetIds := ids })
      { h with started := runId :: h.started } where
  accounts := hsound
  gateways := hevident.gateways
  known := hevident.known
  drawn := fun other hid => List.mem_cons_of_mem _ (hevident.drawn other hid)
  balanced := hevident.balanced
  unused := fun other hunused =>
    hevident.unused other fun hmember => hunused (List.mem_cons_of_mem _ hmember)
  finished := fun result hmember =>
    have hkept := hevident.finished result hmember
    ⟨List.mem_cons_of_mem _ hkept.1, hkept.2⟩

/-- A run begins, with an id of its own. -/
theorem Evident.begun (hevident : Evident nodeIds hardwareIds s h) (hfresh : runId ∉ h.started)
    (hsound : TrafficTasks.Sound t.tasks) (hid : currentId t.controller = some runId)
    (hmedium : t.medium = s.medium) {ids : PacketIds} {baseline : FailedReceptionSample}
    (hwatch : t.controller.watch = s.controller.watch.begun ids baseline) :
    Evident nodeIds hardwareIds t
      { started := runId :: h.started, finished := s.controller.frozenResults ++ h.finished } := by
  have houtbox : t.controller.outbox = s.controller.outbox := congrArg Watch.outbox hwatch
  refine
    { accounts := hsound
      gateways := (congrArg DirectedMedium.gateways hmedium).trans hevident.gateways
      known := (congrArg Watch.hardwareIds hwatch).trans hevident.known
      drawn := ?_
      balanced := ?_
      unused := ?_
      finished := ?_ }
  · intro other hother
    rw [hid] at hother
    cases hother
    exact List.mem_cons_self
  · intro other hother μ
    rw [hid] at hother
    cases hother
    have hzero : μ.counter t.controller.watch = 0 := by
      rw [hwatch]
      cases μ <;> rfl
    unfold Watch.balance
    rw [hzero, show t.controller.watch.outbox = s.controller.outbox from houtbox,
      hevident.unused runId hfresh]
    rfl
  · intro other hunused μ
    rw [houtbox, hevident.unused other fun hmember => hunused (List.mem_cons_of_mem _ hmember)]
  · intro result hmember
    have hkept : result.runId ∈ h.started ∧ ∀ μ : Measure,
        μ.total result.runId s.controller.outbox = shown result.metrics.toMetricsSummary μ := by
      rcases List.mem_append.mp hmember with hfrozen | hold
      · obtain ⟨hcurrent, htotal⟩ := hevident.frozen hfrozen
        exact ⟨hevident.drawn _ hcurrent, htotal⟩
      · obtain ⟨hdrawn, _, htotal⟩ := hevident.finished result hold
        exact ⟨hdrawn, htotal⟩
    refine ⟨List.mem_cons_of_mem _ hkept.1, ?_, by rw [houtbox]; exact hkept.2⟩
    rw [hid]
    intro hsame
    exact hfresh (Option.some.inj hsame ▸ hkept.1)

/-- No step changes the gateways. -/
theorem gateways_step {a : Action} (hstep : step pb s a = some t) :
    t.medium.gateways = s.medium.gateways := by
  unfold Simulation.step at hstep
  cases a with
  | rfFrame nodeId packet =>
      dsimp only at hstep
      split at hstep
      · cases hstep
      · split at hstep <;> cases hstep <;> rfl
  | transmit m nodeId =>
      dsimp only at hstep
      split at hstep
      · cases hstep
      · unfold transmitNext at hstep
        split at hstep <;> cases hstep
        rfl
  | inject nodeId i =>
      dsimp only at hstep
      split at hstep
      · cases hstep
      · split at hstep <;> cases hstep
        rfl
  | injectionRaised nodeId i =>
      dsimp only at hstep
      split at hstep <;> cases hstep
      rfl
  | gathered nodeId =>
      dsimp only at hstep
      split at hstep <;> cases hstep
      rfl
  | updateLink now link =>
      dsimp only at hstep
      unfold DirectedMedium.updateLink at hstep
      split at hstep
      · cases hstep
        rfl
      · next medium hupdate =>
          cases hstep
          split at hupdate <;> cases hupdate
          rfl
  | applyLinks now links =>
      dsimp only at hstep
      unfold DirectedMedium.applyLinks at hstep
      split at hstep
      · cases hstep
        rfl
      · next medium changed happly =>
          cases hstep
          dsimp only at happly
          split at happly <;> cases happly
          rfl
  | traffic a =>
      dsimp only at hstep
      split at hstep
      · cases hstep
      · obtain ⟨tasks, _, rfl⟩ := Option.map_eq_some_iff.mp hstep
        rfl

/-- Every step whose runs draw fresh ids keeps the evidence. -/
theorem Evident.step (hevident : Evident nodeIds hardwareIds s h)
    (hnames : ∀ code, pb.routingErrorName code ≠ some "link-disabled")
    (hknown : ∀ nodeId ∈ nodeIds, hardwareIds.contains nodeId = true) {a : Action}
    (hfresh : DrawsFresh h a) (hstep : step pb s a = some t) :
    Evident nodeIds hardwareIds t (noteRuns h s a t) := by
  have hsound := (progress_step hstep).sound hevident.accounts
  cases hstarts : a.starts with
  | false =>
      have hnote : noteRuns h s a t = h := by
        unfold noteRuns
        split
        · cases hstarts
        · rfl
      have hcontained : ∀ nodeId ∈ s.medium.gateways,
          s.controller.hardwareIds.contains nodeId = true := by
        rw [hevident.gateways, hevident.known]
        exact hknown
      have heven := fun (runId : String)
          (hown : ∀ run, s.controller.current = some run → run.runId = runId) =>
        even_step hnames hevident.accounts hcontained hown hstarts hstep
      rw [hnote]
      have hstays : currentId t.controller = currentId s.controller ∧
          t.controller.hardwareIds = s.controller.hardwareIds := by
        cases hcurrent : s.controller.current with
        | none => exact (heven "" fun run hrun => by rw [hcurrent] at hrun; cases hrun).2
        | some run =>
            refine (heven run.runId fun other hother => ?_).2
            rw [hcurrent] at hother
            cases hother
            rfl
      exact hevident.keep hsound (gateways_step hstep) hstays.2 hstays.1 fun runId hown =>
        (heven runId fun run hrun =>
          hown run.runId (currentId_eq_some.mpr ⟨run, hrun, rfl⟩)).1
  | true =>
      cases a with
      | traffic action =>
          cases action with
          | start m runId request scenarioSnapshot baseline =>
              unfold noteRuns
              dsimp only
              rcases start_step hstep with ⟨ids, rfl⟩ | ⟨hid, _, hmedium, ids, hwatch⟩
              · have hsame : currentId (s.withController { s.controller with
                    packetIds := ids }).controller = currentId s.controller := rfl
                rw [if_pos hsame]
                exact hevident.raised runId ids hsound
              · have hne : currentId t.controller ≠ currentId s.controller := by
                  rw [hid]
                  intro hsame
                  exact hfresh (hevident.drawn runId hsame.symm)
                rw [if_neg hne]
                exact hevident.begun hfresh hsound hid hmedium hwatch
          | _ => cases hstarts
      | _ => cases hstarts

/-- The summary of the current run shows its counters, live or frozen. -/
theorem summary_shows {tasks : TrafficTasks} (h : TrafficTasks.Sound tasks)
    {run : TrafficRunResult} (hrun : tasks.controller.current = some run) (now : ℚ) :
    ∃ summary, tasks.controller.summary now = .ok (some summary) ∧ summary.runId = run.runId ∧
      ∀ μ, shown summary.metrics μ = Measure.counter tasks.controller.watch μ := by
  unfold summary
  rw [hrun]
  cases hfrozen : tasks.controller.frozenResults with
  | nil =>
      obtain ⟨metrics, hmetrics⟩ := liveMetricsSnapshot_ok tasks.controller
      unfold frozenResult
      rw [hfrozen, hmetrics]
      exact ⟨_, rfl, rfl, shown_of_metered (metered_liveMetrics hmetrics)⟩
  | cons newest older =>
      unfold current at hrun
      rw [hfrozen] at hrun
      cases hrun
      have hmirrors := h.structured.controlled.mirrored run
        (by rw [hfrozen]; exact List.mem_cons_self)
      unfold frozenResult
      rw [hfrozen]
      exact ⟨_, rfl, rfl, shown_of_metered (c := tasks.controller) hmirrors.metrics⟩

section Runs

variable {scenario : Scenario} {buildMetadata : BuildMetadata}
  {rfFrames : String → List MeshPacket}

theorem evident_new : Evident scenario.nodeIds hardwareIds
    (.new scenario hardwareIds buildMetadata rfFrames) {} where
  accounts := (TrafficTasks.exact_new scenario hardwareIds buildMetadata none true).toSound
  gateways := rfl
  known := rfl
  drawn := fun _ hid => nomatch hid
  balanced := fun _ hid => nomatch hid
  unused := fun _ _ _ => rfl
  finished := fun _ hmember => absurd hmember List.not_mem_nil

/-- In every state of every simulation the events of the current run come to what its
summary shows, and those of every frozen result to what it shows, also after other runs
have begun. -/
theorem evidence_agrees (pb : Protobuf)
    (hnames : ∀ code, pb.routingErrorName code ≠ some "link-disabled")
    (hknown : ∀ nodeId ∈ scenario.nodeIds, hardwareIds.contains nodeId = true)
    (hrun : Run (recorded (step pb) noteRuns) (fun s a => DrawsFresh s.2 a)
      (.new scenario hardwareIds buildMetadata rfFrames, {}) (s, h)) :
    (∀ run, s.controller.current = some run → ∀ now, ∃ summary,
      s.controller.summary now = .ok (some summary) ∧ summary.runId = run.runId ∧
        Evidenced s.controller.outbox run.runId summary.metrics) ∧
      ∀ result ∈ s.controller.frozenResults ++ h.finished,
        Evidenced s.controller.outbox result.runId result.metrics.toMetricsSummary := by
  have hevident : Evident scenario.nodeIds hardwareIds s h := by
    refine hrun.invariant (I := fun u => Evident scenario.nodeIds hardwareIds u.1 u.2) ?_
      evident_new
    intro u a v hevident hfresh hstep
    obtain ⟨hstep, hnote⟩ := recorded_eq_some.mp hstep
    rw [hnote]
    exact hevident.step hnames hknown hfresh hstep
  constructor
  · intro run hcurrent now
    obtain ⟨summary, hsummary, hid, hshown⟩ := summary_shows hevident.accounts hcurrent now
    refine ⟨summary, hsummary, hid, .of_totals fun μ => ?_⟩
    rw [hevident.total_eq (currentId_eq_some.mpr ⟨run, hcurrent, rfl⟩), hshown]
    rfl
  · intro result hmember
    rcases List.mem_append.mp hmember with hfrozen | hold
    · exact .of_totals (hevident.frozen hfrozen).2
    · exact .of_totals (hevident.finished result hold).2.2

end Runs

/-! ## Evidence of one message -/

/-- The first node of three sends a message to the second; its frame is dropped on the way
to the third. -/
def trioEvidence : List Action :=
  [.traffic (.start trioMoment "run"
      { kind := .directText, sourceNodes := ["a"], fixedDestination := some "b" } none none),
    .traffic (.run trioMoment .begun),
    .traffic (.run trioMoment (.submit 0 0 0 [7])),
    .traffic (.fromRadio trioMoment "a" (.queueStatus { meshPacketId := 7, res := 0 })),
    .rfFrame "a" { from_ := 1, to_ := 2, id := 7 }, .transmit trioMoment "a", .inject "a" 0,
    .traffic (.fromRadio trioMoment "b" (.packet
      { from_ := 1
        to_ := 2
        id := 7
        payload := .decoded
          { portnum := TEXT_MESSAGE_APP
            payload := (trafficMarker "run" 1).toUTF8.data.toList } }))]

/-- One transmission, one disabled link and one delivery are counted and published. -/
theorem trio_evidence_agrees :
    ∃ s h, exec (recorded (step pairProtobuf) noteRuns) trioEvidence
        (.new trioScenario trioIds .unavailable fun _ => [], {}) = some (s, h) ∧
      (s.controller.accumulators.rfTransmissionCount = 1 ∧
        s.controller.accumulators.dropCounts.get? "link-disabled" = some 1 ∧
        s.controller.accumulators.receiverDeliveries = 1) ∧
      (∀ run, s.controller.current = some run → ∀ now, ∃ summary,
        s.controller.summary now = .ok (some summary) ∧ summary.runId = run.runId ∧
          Evidenced s.controller.outbox run.runId summary.metrics) ∧
      ∀ result ∈ s.controller.frozenResults ++ h.finished,
        Evidenced s.controller.outbox result.runId result.metrics.toMetricsSummary := by
  have hstate : (exec (recorded (step pairProtobuf) noteRuns) trioEvidence
      (.new trioScenario trioIds .unavailable fun _ => [], {})).map (fun state =>
        (state.1.controller.accumulators.rfTransmissionCount,
          state.1.controller.accumulators.dropCounts.get? "link-disabled",
          state.1.controller.accumulators.receiverDeliveries)) = some (1, some 1, 1) := by
    decide +kernel
  have hfresh : Conforms (recorded (step pairProtobuf) noteRuns) (fun s a => DrawsFresh s.2 a)
      trioEvidence (.new trioScenario trioIds .unavailable fun _ => [], {}) := by
    decide +kernel
  have hnames : ∀ code, pairProtobuf.routingErrorName code ≠ some "link-disabled" := by
    intro code
    unfold pairProtobuf
    dsimp only
    split <;> decide
  obtain ⟨⟨s, h⟩, hexec, hstate⟩ := Option.map_eq_some_iff.mp hstate
  obtain ⟨htransmissions, hrest⟩ := Prod.mk.inj hstate
  exact ⟨s, h, hexec, ⟨htransmissions, Prod.mk.inj hrest⟩,
    evidence_agrees pairProtobuf hnames (by decide +kernel) (.of_exec hexec hfresh)⟩

end Simulation

end MeshtasticLab.Simulator

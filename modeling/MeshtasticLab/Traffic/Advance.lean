/-
  Traffic/Advance.lean --- what holds of a controller between suspensions.

  WHAT THIS FILE IS FOR

  `Controlled` is what every suspension point finds: nothing is pending once the
  run is closed, results are frozen only then, and a frozen result shows what the
  run has counted.  An `Advance` makes entries and keeps this; once the run is
  closed it changes no message and no counter.  Every method that the tasks call
  is an advance.
-/
import MeshtasticLab.Traffic.Books
import MeshtasticLab.Traffic.Lifecycle
import Mathlib.Data.List.Basic

set_option autoImplicit false

namespace MeshtasticLab.Traffic.TrafficController

open MeshtasticLab.Foundation MeshtasticLab.Gateway MeshtasticLab.Metrics MeshtasticLab.Models

/-- Metrics that show what the run has counted. -/
structure Metered (acc : Accumulators) (metrics : MetricsSnapshot) : Prop where
  rfTransmissions : metrics.rfTransmissions = acc.rfTransmissionCount
  observedAirtimeMs : metrics.observedAirtimeMs = acc.observedAirtimeMs
  perNodeTransmitCounts : metrics.perNodeTransmitCounts = acc.perNodeTransmitCounts
  dropsByReason : metrics.dropsByReason = acc.dropCounts
  receiverDeliveries : metrics.receiverDeliveries = acc.receiverDeliveries

/-- A finished result that shows what the run has counted. -/
structure Mirrors (v : View) (result : TrafficRunResult) : Prop where
  messages : result.generatedMessages = v.messages
  identity : v.frame.request = some (result.runId, result.request)
  requested : result.requested = v.accumulators.generatedCount
  submitted : result.submitted = v.accumulators.submittedCount
  submissionFailed : result.submissionFailed = v.accumulators.submissionFailedCount
  transmitted : result.transmitted = v.accumulators.transmittedCount
  delivered : result.delivered = v.accumulators.uniqueDeliveries
  metrics : Metered v.accumulators result.metrics
  finished : result.finishedAt ≠ none

/-- What a result shows depends on the messages, the counters and the request. -/
theorem Mirrors.congr {v w : View} {result : TrafficRunResult} (h : Mirrors v result)
    (hmessages : w.messages = v.messages) (haccumulators : w.accumulators = v.accumulators)
    (hrequest : w.frame.request = v.frame.request) : Mirrors w result := by
  constructor
  · rw [hmessages, h.messages]
  · rw [hrequest, h.identity]
  · rw [haccumulators, h.requested]
  · rw [haccumulators, h.submitted]
  · rw [haccumulators, h.submissionFailed]
  · rw [haccumulators, h.transmitted]
  · rw [haccumulators, h.delivered]
  · rw [haccumulators]
    exact h.metrics
  · exact h.finished

/-- What holds of the controller at every suspension point. -/
structure Controlled (c : TrafficController) : Prop where
  agreement : Agreement c.accumulators
  settled : c.Closed → c.accumulators.pendingSubmissions = ∅
  frozen : c.frozenResults ≠ [] → c.Closed
  active : c.finalizationDone = false → c.Closed
  mirrored : ∀ result ∈ c.frozenResults, Mirrors c.view result
  planned : ∀ runId request, c.frame.request = some (runId, request) →
    ∀ flow ∈ request.schedulingFlows, ∀ source ∈ flow.sourceNodes,
      source ∈ c.runScenario.nodeIds

variable {strict : Prop} {c d e : TrafficController}

/-- A change of the controller between two suspension points. -/
structure Advance (strict : Prop) (c d : TrafficController) : Prop where
  entries : Entries strict c.view d.view
  closed : c.Closed → d.Closed
  still : c.Closed → d.messages = c.messages ∧ d.accumulators = c.accumulators
  controlled : Controlled d

theorem Advance.refl (h : Controlled c) : Advance strict c c :=
  ⟨Relation.ReflTransGen.refl, id, fun _ => ⟨rfl, rfl⟩, h⟩

theorem Advance.trans (hfirst : Advance strict c d) (hsecond : Advance strict d e) :
    Advance strict c e where
  entries := hfirst.entries.trans hsecond.entries
  closed := fun hclosed => hsecond.closed (hfirst.closed hclosed)
  still := fun hclosed =>
    have hstill := hfirst.still hclosed
    have hstill' := hsecond.still (hfirst.closed hclosed)
    ⟨hstill'.1.trans hstill.1, hstill'.2.trans hstill.2⟩
  controlled := hsecond.controlled

/-- A run that is open has no frozen result, and no finalization is under way. -/
theorem Controlled.open (h : Controlled c) (hopen : ¬c.Closed) : c.frozenResults = [] :=
  by_contra fun hne => hopen (h.frozen hne)

theorem Controlled.done (h : Controlled c) (hopen : ¬c.Closed) : c.finalizationDone = true :=
  by_contra fun hne => hopen (h.active (by simpa using hne))

/-- A result that shows a closed run keeps showing it. -/
theorem Mirrors.advance {result : TrafficRunResult} (h : Mirrors c.view result)
    (hclosed : c.Closed) (hadvance : Advance strict c d) : Mirrors d.view result :=
  h.congr (hadvance.still hclosed).1 (hadvance.still hclosed).2 hadvance.entries.identity.1

/-- Entries keep the plan of the run and the agreement of its records. -/
theorem Controlled.of_entries (h : Controlled c) (hentries : Entries strict c.view d.view)
    (hsettled : d.Closed → d.accumulators.pendingSubmissions = ∅)
    (hfrozen : d.frozenResults ≠ [] → d.Closed)
    (hactive : d.finalizationDone = false → d.Closed)
    (hmirrored : ∀ result ∈ d.frozenResults, Mirrors d.view result) : Controlled d where
  agreement := Agreement.entries (v := c.view) (w := d.view) h.agreement hentries
  settled := hsettled
  frozen := hfrozen
  active := hactive
  mirrored := hmirrored
  planned := by
    intro runId request hrequest
    have hsame : d.frame.request = c.frame.request := hentries.identity.1
    have hscenario : d.runScenario = c.runScenario := hentries.identity.2
    rw [hscenario]
    exact h.planned runId request (hsame ▸ hrequest)

/-- Handlers advance the run, and leave a closed run as it is. -/
theorem Advance.of_books (h : Controlled c) (hbooks : Books strict c d)
    (hstill : c.Closed → d.messages = c.messages ∧ d.accumulators = c.accumulators ∧
      d.frozenResults = c.frozenResults) : Advance strict c d := by
  have hclosed : d.Closed ↔ c.Closed := by
    unfold Closed
    rw [show d.phase = c.phase from congrArg Frame.phase hbooks.frame]
  have hdone : d.finalizationDone = c.finalizationDone :=
    congrArg Frame.finalizationDone hbooks.frame
  refine ⟨hbooks.entries, hclosed.mpr, fun hc => ⟨(hstill hc).1, (hstill hc).2.1⟩, ?_⟩
  refine h.of_entries hbooks.entries ?_ ?_ ?_ ?_
  · intro hd
    have hc := hclosed.mp hd
    rw [(hstill hc).2.1]
    exact h.settled hc
  · intro hne
    by_contra hd
    exact hne (opened_of_frame hbooks.frame (h.open fun hc => hd (hclosed.mpr hc)))
  · intro hactive
    rw [hdone] at hactive
    exact hclosed.mpr (h.active hactive)
  · intro result hmember
    by_cases hc : c.Closed
    · obtain ⟨hmessages, haccumulators, hfrozen⟩ := hstill hc
      rw [hfrozen] at hmember
      exact (h.mirrored result hmember).congr hmessages haccumulators
        (congrArg Frame.request hbooks.frame)
    · rw [opened_of_frame hbooks.frame (h.open hc)] at hmember
      cases hmember

/-- Handlers that a closed run does not admit. -/
theorem Advance.of_gated (h : Controlled c) (hbooks : Books strict c d)
    (hstill : c.Closed → d = c) : Advance strict c d :=
  .of_books h hbooks fun hc => by rw [hstill hc]; exact ⟨rfl, rfl, rfl⟩

/-! ## Events -/

/-- A closed run accepts no events. -/
theorem not_accepts_of_closed (hclosed : c.Closed) (allowFailed : Bool) :
    c.acceptsRunEvents allowFailed = false := by
  unfold acceptsRunEvents
  rcases hclosed with hphase | hphase
  · simp [hphase]
  · simp [hphase]

theorem handleFromRadio_of_closed (pb : Protobuf) (hclosed : c.Closed) (m : Moment)
    (nodeId : String) (message : FromRadio) : (c.handleFromRadio pb m nodeId message).1 = c := by
  unfold handleFromRadio
  split
  · rfl
  · simp [not_accepts_of_closed hclosed]

theorem recordRfTransmission_of_closed (pb : Protobuf) (hclosed : c.Closed) (m : Moment)
    (transmitter : String) (packet : MeshPacket) (packetAirtimeMs : Nat) :
    (c.recordRfTransmission pb m transmitter packet packetAirtimeMs).1 = c := by
  unfold recordRfTransmission
  split
  · rfl
  · simp [not_accepts_of_closed hclosed]

theorem recordDrop_of_closed (pb : Protobuf) (hclosed : c.Closed) (m : Moment)
    (transmitter : String) (packet : MeshPacket) (reason : String) :
    c.recordDrop pb m transmitter packet reason = c := by
  unfold recordDrop
  rw [if_pos (Or.inr (by simp [not_accepts_of_closed hclosed]))]

theorem recordFailedReceptions_of_closed (hclosed : c.Closed) (m : Moment) (nodeId : String)
    (total : Nat) : c.recordFailedReceptions m nodeId total = c := by
  unfold recordFailedReceptions
  rw [if_pos (Or.inr (by simp [not_accepts_of_closed hclosed]))]

theorem recordDuplicateReceptions_of_closed (hclosed : c.Closed) (m : Moment)
    (nodeId : String) (total : Nat) : c.recordDuplicateReceptions m nodeId total = c := by
  unfold recordDuplicateReceptions
  rw [if_pos (Or.inr (by simp [not_accepts_of_closed hclosed]))]

theorem setEventLoopLag_of_closed (hclosed : c.Closed) (m : Moment) (lagMs : ℚ) :
    c.setEventLoopLag m lagMs = c := by
  unfold setEventLoopLag
  rw [if_pos (Or.inr (by simp [not_accepts_of_closed hclosed]))]

theorem recordTopologyChange_of_closed (hclosed : c.Closed) (event : PacketEvent)
    (link : DirectedLink) : (c.recordTopologyChange event link).1 = c := by
  unfold recordTopologyChange
  rw [if_pos (Or.inr (by simp [not_accepts_of_closed hclosed]))]

/-- A closed run takes from the final sample only which nodes are missing. -/
theorem applyFinalSample_of_closed (hclosed : c.Closed) (m : Moment)
    (answer : Option FailedReceptionSample) {run : TrafficRunResult}
    (hcurrent : c.current = some run) :
    c.applyFinalSample m answer = c.modifyCurrent fun other =>
      { other with
        missingLocalStatsNodes := c.missingAfterSample run (answer.getD c.unavailableSample)
        failedReceptionMetricsComplete :=
          (c.missingAfterSample run (answer.getD c.unavailableSample)).isEmpty } := by
  have hfailed : ∀ entries : List (String × Nat), entries.foldl
      (fun c entry =>
        if c.accumulators.latestFailedReceptions.contains entry.1 then
          c.recordFailedReceptions m entry.1 entry.2
        else c) c = c :=
    List.foldl_fixed' fun entry => by
      rw [recordFailedReceptions_of_closed hclosed, ite_self]
  have hduplicate : ∀ entries : List (String × Nat), entries.foldl
      (fun c entry =>
        if c.accumulators.latestDuplicateReceptions.contains entry.1 then
          c.recordDuplicateReceptions m entry.1 entry.2
        else c) c = c :=
    List.foldl_fixed' fun entry => by
      rw [recordDuplicateReceptions_of_closed hclosed, ite_self]
  unfold applyFinalSample
  rw [hcurrent]
  dsimp only
  rw [hfailed, hduplicate]

/-! ## Control -/

/-- A change of what controls the run, which neither opens nor closes it. -/
theorem Advance.of_control (h : Controlled c) (hrun : d.run = c.run)
    (haccumulators : d.accumulators = c.accumulators) (hids : d.packetIds = c.packetIds)
    (hscenario : d.runScenario = c.runScenario) (hfrozen : d.frozenResults = c.frozenResults)
    (hclosed : d.Closed ↔ c.Closed) (hactive : d.finalizationDone = false → d.Closed) :
    Advance strict c d := by
  have hmessages : d.messages = c.messages := by
    unfold messages
    rw [hrun]
  have hrequest : d.frame.request = c.frame.request := by
    simp only [frame, hrun]
  have hentry : Entry strict c.view d.view := by
    have hview : d.view = { c.view with frame := d.frame } := by
      simp only [view, hmessages, haccumulators, hids]
    rw [hview]
    exact .control d.frame hrequest hscenario
  have hentries : Entries strict c.view d.view := Relation.ReflTransGen.single hentry
  refine ⟨hentries, hclosed.mpr, fun _ => ⟨hmessages, haccumulators⟩, ?_⟩
  refine h.of_entries hentries ?_ ?_ hactive ?_
  · intro hd
    rw [haccumulators]
    exact h.settled (hclosed.mp hd)
  · intro hne
    rw [hfrozen] at hne
    exact hclosed.mpr (h.frozen hne)
  · intro result hmember
    rw [hfrozen] at hmember
    exact (h.mirrored result hmember).congr hmessages haccumulators hrequest

/-- A change that the view does not show. -/
theorem Advance.of_view (h : Controlled c) (hview : d.view = c.view)
    (hfrozen : d.frozenResults = c.frozenResults) : Advance strict c d :=
  .of_books h (.of_view hview) fun _ =>
    ⟨congrArg View.messages hview, congrArg View.accumulators hview, hfrozen⟩

/-- A write through `self.current` that a result shows nothing of. -/
structure KeepsMirror (f : TrafficRunResult → TrafficRunResult) : Prop where
  messages : ∀ result, (f result).generatedMessages = result.generatedMessages
  identity : ∀ result, ((f result).runId, (f result).request) = (result.runId, result.request)
  requested : ∀ result, (f result).requested = result.requested
  submitted : ∀ result, (f result).submitted = result.submitted
  submissionFailed : ∀ result, (f result).submissionFailed = result.submissionFailed
  transmitted : ∀ result, (f result).transmitted = result.transmitted
  delivered : ∀ result, (f result).delivered = result.delivered
  metrics : ∀ result, (f result).metrics = result.metrics
  finishedAt : ∀ result, (f result).finishedAt = result.finishedAt

theorem Mirrors.keeps {v : View} {result : TrafficRunResult} (h : Mirrors v result)
    {f : TrafficRunResult → TrafficRunResult} (hkeeps : KeepsMirror f) :
    Mirrors v (f result) where
  messages := (hkeeps.messages result).trans h.messages
  identity := by
    rw [hkeeps.identity]
    exact h.identity
  requested := (hkeeps.requested result).trans h.requested
  submitted := (hkeeps.submitted result).trans h.submitted
  submissionFailed := (hkeeps.submissionFailed result).trans h.submissionFailed
  transmitted := (hkeeps.transmitted result).trans h.transmitted
  delivered := (hkeeps.delivered result).trans h.delivered
  metrics := by
    rw [hkeeps.metrics]
    exact h.metrics
  finished := by
    rw [hkeeps.finishedAt]
    exact h.finished

theorem frame_modifyCurrent (c : TrafficController) {f : TrafficRunResult → TrafficRunResult}
    (hkeeps : KeepsMirror f) : (c.modifyCurrent f).frame = c.frame :=
  congrArg View.frame (view_modifyCurrent c hkeeps.messages hkeeps.identity)

theorem Advance.modifyCurrent (h : Controlled c) {f : TrafficRunResult → TrafficRunResult}
    (hkeeps : KeepsMirror f) : Advance strict c (c.modifyCurrent f) := by
  have hview : (c.modifyCurrent f).view = c.view :=
    view_modifyCurrent c hkeeps.messages hkeeps.identity
  have hframe := frame_modifyCurrent c hkeeps
  have hclosed : (c.modifyCurrent f).Closed ↔ c.Closed := by
    unfold Closed
    rw [show (c.modifyCurrent f).phase = c.phase from congrArg Frame.phase hframe]
  have haccumulators : (c.modifyCurrent f).accumulators = c.accumulators :=
    congrArg View.accumulators hview
  have hentries : Entries strict c.view (c.modifyCurrent f).view := by
    rw [hview]
    exact Relation.ReflTransGen.refl
  refine ⟨hentries, hclosed.mpr, fun _ => ⟨congrArg View.messages hview, haccumulators⟩, ?_⟩
  refine h.of_entries hentries ?_ ?_ ?_ ?_
  · intro hd
    rw [haccumulators]
    exact h.settled (hclosed.mp hd)
  · intro hne
    by_contra hd
    exact hne (opened_of_frame hframe (h.open fun hc => hd (hclosed.mpr hc)))
  · intro hactive
    rw [show (c.modifyCurrent f).finalizationDone = c.finalizationDone from
      congrArg Frame.finalizationDone hframe] at hactive
    exact hclosed.mpr (h.active hactive)
  · intro result hmember
    rw [hview]
    unfold TrafficController.modifyCurrent at hmember
    split at hmember
    · next hfrozen =>
        rw [show c.frozenResults = [] from hfrozen] at hmember
        cases hmember
    · next newest older hfrozen =>
        rcases List.mem_cons.mp hmember with rfl | hold
        · exact (h.mirrored newest (by rw [hfrozen]; exact List.mem_cons_self)).keeps hkeeps
        · exact h.mirrored result (by rw [hfrozen]; exact List.mem_cons_of_mem _ hold)

theorem keeps_failure (failure : Option String) :
    KeepsMirror fun run => { run with failure := failure } := by
  constructor <;> intro <;> rfl

theorem keeps_missing (missing : List String) (complete : Bool) :
    KeepsMirror fun run =>
      { run with
        missingLocalStatsNodes := missing
        failedReceptionMetricsComplete := complete } := by
  constructor <;> intro <;> rfl

theorem books_foldl {α : Type} {f : TrafficController → α → TrafficController}
    (hstep : ∀ c x, Books strict c (f c x)) (l : List α) (c : TrafficController) :
    Books strict c (l.foldl f c) := by
  induction l generalizing c with
  | nil => exact .refl c
  | cons first rest ih => exact (hstep c first).trans (ih (f c first))

/-- The final sample adds to the native counters and names what is missing. -/
theorem advance_applyFinalSample (h : Controlled c) (m : Moment)
    (answer : Option FailedReceptionSample) :
    Advance strict c (c.applyFinalSample m answer) ∧
      (c.applyFinalSample m answer).frame = c.frame := by
  unfold applyFinalSample
  split
  · exact ⟨.refl h, rfl⟩
  · dsimp only
    generalize (answer.getD c.unavailableSample) = sample
    have hfailed : Books strict c (sample.totals.items.foldl (fun c entry =>
        if c.accumulators.latestFailedReceptions.contains entry.1 then
          c.recordFailedReceptions m entry.1 entry.2
        else c) c) := by
      apply books_foldl
      intro c entry
      split
      · exact books_recordFailedReceptions c m entry.1 entry.2
      · exact .refl c
    have hduplicates := hfailed.trans (books_foldl (l := sample.duplicateTotals.items)
      (f := fun c entry =>
        if c.accumulators.latestDuplicateReceptions.contains entry.1 then
          c.recordDuplicateReceptions m entry.1 entry.2
        else c) (by
      intro c entry
      split
      · exact books_recordDuplicateReceptions c m entry.1 entry.2
      · exact .refl c) _)
    have hsampled := Advance.of_gated h hduplicates (by
      intro hclosed
      rw [show sample.totals.items.foldl (fun c entry =>
          if c.accumulators.latestFailedReceptions.contains entry.1 then
            c.recordFailedReceptions m entry.1 entry.2
          else c) c = c from List.foldl_fixed' (fun entry => by
        rw [recordFailedReceptions_of_closed hclosed, ite_self]) _]
      apply List.foldl_fixed'
      intro entry
      rw [recordDuplicateReceptions_of_closed hclosed, ite_self])
    refine ⟨hsampled.trans (.modifyCurrent hsampled.controlled (keeps_missing _ _)), ?_⟩
    exact (frame_modifyCurrent _ (keeps_missing _ _)).trans hduplicates.frame

/-- Finalizing what is pending. -/
theorem advance_finalizePendingSubmissions (h : Controlled c) (m : Moment) :
    Advance strict c (c.finalizePendingSubmissions m) ∧
      (c.finalizePendingSubmissions m).frame = c.frame := by
  by_cases hclosed : c.Closed
  · rw [finalizePendingSubmissions_of_empty m (h.settled hclosed)]
    exact ⟨.refl h, rfl⟩
  · have hbooks : Books strict c _ := books_finalizePendingSubmissions (h.open hclosed) m
    exact ⟨.of_gated h hbooks fun hc => absurd hc hclosed, hbooks.frame⟩

/-! ## Finishing -/

/-- The frame while a finalization is under way. -/
def Frame.finalizing (frame : Frame) : Frame :=
  { frame with finalizationDone := false, phase := .finalizing }

/-- `_finish` closes the run, and nothing is pending from then on. -/
theorem advance_beginFinalization (h : Controlled c) (m : Moment) :
    Advance strict c (c.beginFinalization m) ∧
      (c.beginFinalization m).frame = Frame.finalizing c.frame := by
  by_cases hclosed : c.Closed
  · have hsame : c.beginFinalization m =
        { c with finalizationDone := false, phase := .finalizing } :=
      finalizePendingSubmissions_of_empty m (h.settled hclosed)
    rw [hsame]
    refine ⟨?_, rfl⟩
    exact .of_control h rfl rfl rfl rfl rfl ⟨fun _ => hclosed, fun _ => Or.inl rfl⟩
      fun _ => Or.inl rfl
  · have hopen := h.open hclosed
    have hentry : Entry strict c.view
        { c with finalizationDone := false, phase := .finalizing }.view :=
      .control _ rfl rfl
    have hbooks : Books strict { c with finalizationDone := false, phase := .finalizing }
        (c.beginFinalization m) :=
      books_finalizePendingSubmissions
        (c := { c with finalizationDone := false, phase := .finalizing })
        hopen m
    have hentries : Entries strict c.view (c.beginFinalization m).view :=
      (Relation.ReflTransGen.single hentry).trans hbooks.entries
    have hphase : (c.beginFinalization m).Closed := Or.inl (congrArg Frame.phase hbooks.frame)
    have hfrozen := opened_of_frame hbooks.frame hopen
    refine ⟨⟨hentries, fun _ => hphase, fun hc => absurd hc hclosed, ?_⟩, hbooks.frame⟩
    refine h.of_entries hentries (fun _ => rfl) (fun _ => hphase) (fun _ => hphase) ?_
    intro result hmember
    rw [hfrozen] at hmember
    cases hmember

/-- Freezing a result that shows the closed run. -/
theorem advance_freeze (h : Controlled c) (hclosed : c.Closed) {frozen : TrafficRunResult}
    (hmirrors : Mirrors c.view frozen) : Advance strict c (c.freeze frozen) := by
  have hentries : Entries strict c.view (c.freeze frozen).view :=
    Relation.ReflTransGen.single (.control _ rfl rfl)
  refine ⟨hentries, fun _ => Or.inr rfl, fun _ => ⟨rfl, rfl⟩, ?_⟩
  refine h.of_entries hentries (fun _ => h.settled hclosed) (fun _ => Or.inr rfl)
    (fun _ => Or.inr rfl) ?_
  intro result hmember
  rcases List.mem_cons.mp hmember with rfl | hold
  · exact hmirrors.congr rfl rfl rfl
  · exact (h.mirrored result hold).congr rfl rfl rfl

/-- The final metrics show the run. -/
theorem metered_finalMetrics (h : Agreement c.accumulators) {metrics : MetricsSnapshot}
    (hmetrics : c.finalMetrics = .ok metrics) : Metered c.accumulators metrics := by
  obtain ⟨perNodeAirtimeMs, median, p95, p99, rfl⟩ := snapshot_of_calculateMetrics hmetrics
  constructor
  · exact h.transmissions.symm
  · exact h.airtime.symm
  · exact h.transmitCounts.symm
  · exact h.drops.symm
  · rfl

/-- So do the live metrics. -/
theorem metered_liveMetrics {metrics : MetricsSnapshot}
    (hmetrics : c.liveMetricsSnapshot = .ok metrics) : Metered c.accumulators metrics := by
  obtain ⟨perNodeAirtimeMs, median, p95, p99, rfl⟩ := snapshot_of_calculateMetrics hmetrics
  constructor <;> rfl

/-- The terminal result shows the run when the captured one has its messages. -/
theorem mirrors_terminalResult {captured : TrafficRunResult}
    (hmessages : captured.generatedMessages = c.messages)
    (hidentity : c.frame.request = some (captured.runId, captured.request))
    {metrics : MetricsSnapshot} (hmetered : Metered c.accumulators metrics)
    (target : TrafficRunState) (wallClock : ℚ) :
    Mirrors c.view (c.terminalResult captured target metrics wallClock) := by
  constructor
  · exact hmessages
  · exact hidentity
  · rfl
  · rfl
  · rfl
  · rfl
  · rfl
  · exact hmetered
  · exact Option.some_ne_none _

theorem mirrors_persistenceFailed {v : View} {terminal : TrafficRunResult}
    (h : Mirrors v terminal) (exception : String) :
    Mirrors v (persistenceFailed terminal exception) := by
  constructor
  · exact h.messages
  · exact h.identity
  · exact h.requested
  · exact h.submitted
  · exact h.submissionFailed
  · exact h.transmitted
  · exact h.delivered
  · exact h.metrics
  · exact h.finished

theorem calculateMetrics_exists {input : MetricsInput} {perNodeAirtimeMs : Dict String Nat}
    (hairtime : input.resolvedAirtime = .ok perNodeAirtimeMs) :
    ∃ metrics, calculateMetrics input = .ok metrics := by
  obtain ⟨median, p95, p99, _, _, _, hmetrics⟩ := calculateMetrics_ok hairtime
  exact ⟨_, hmetrics⟩

/-- The metrics of the full records can always be computed. -/
theorem finalMetrics_ok (h : Agreement c.accumulators) :
    ∃ metrics, c.finalMetrics = .ok metrics :=
  calculateMetrics_exists (airtimeByTransmitter_ok h.paired)

/-- So can the live metrics. -/
theorem liveMetricsSnapshot_ok (c : TrafficController) :
    ∃ metrics, c.liveMetricsSnapshot = .ok metrics :=
  calculateMetrics_exists rfl

theorem liveMetricsSnapshot_ne_error (c : TrafficController) (message : String) :
    c.liveMetricsSnapshot ≠ .error message := by
  intro hraised
  obtain ⟨metrics, hmetrics⟩ := c.liveMetricsSnapshot_ok
  rw [hraised] at hmetrics
  cases hmetrics

/-! ## Starting -/

/-- A controller on which a run has just started. -/
structure Begun (d : TrafficController) : Prop where
  phase : d.phase = .generating
  frozen : d.frozenResults = []
  messages : d.messages = []
  ledger : Accumulators.SameLedger {} d.accumulators
  records : Accumulators.SameRecords {} d.accumulators
  pending : d.accumulators.pendingSubmissions = ∅
  planned : ∀ runId request, d.frame.request = some (runId, request) →
    ∀ flow ∈ request.schedulingFlows, ∀ source ∈ flow.sourceNodes,
      source ∈ d.runScenario.nodeIds

/-- What a call of `start` comes to: it raises and leaves the books as they are, or
a run has begun. -/
theorem start_cases (strict : Prop) {m : Moment} {runId : String} {taskActive : Bool}
    {request : TrafficRunRequest} {scenarioSnapshot : Option Scenario}
    {baseline : Option FailedReceptionSample} {outcome : Except TrafficError String}
    (hstart : c.start m runId taskActive request scenarioSnapshot baseline = (d, outcome)) :
    (∃ error, outcome = .error error ∧ Books strict c d ∧ d.messages = c.messages ∧
      d.accumulators = c.accumulators ∧ d.frozenResults = c.frozenResults) ∨
    (outcome = .ok runId ∧ taskActive = false ∧ Begun d ∧
      d.finalizationDone = c.finalizationDone) := by
  unfold start at hstart
  dsimp only at hstart
  split at hstart
  · cases hstart
    exact Or.inl ⟨_, rfl, .refl _, rfl, rfl, rfl⟩
  · next hactive =>
    split at hstart
    · cases hstart
      exact Or.inl ⟨_, rfl, .refl _, rfl, rfl, rfl⟩
    · next hvalid =>
        split at hstart
        · cases hstart
          exact Or.inl ⟨_, rfl, .refl _, rfl, rfl, rfl⟩
        · split at hstart
          · cases hstart
            exact Or.inl ⟨_, rfl, .refl _, rfl, rfl, rfl⟩
          · split at hstart
            · next error hreset =>
                cases hstart
                unfold resetAccumulators at hreset
                split at hreset
                · next ids _ hretire =>
                    cases hreset
                    refine Or.inl ⟨_, rfl, ?_, rfl, rfl, rfl⟩
                    refine .of_entry (.reserve ids ?_) rfl rfl
                    intro source packetId hused
                    rw [PacketIds.retire_used_of_error hretire]
                    exact hused
                · cases hreset
            · next reset hreset =>
                unfold resetAccumulators at hreset
                split at hreset
                · cases hreset
                · cases hreset
                  split at hstart
                  · next hraised => exact absurd hraised (liveMetricsSnapshot_ne_error _ _)
                  · cases hstart
                    refine Or.inr ⟨rfl, by simpa using hactive, ?_, rfl⟩
                    constructor
                    · rfl
                    · rfl
                    · rfl
                    · constructor <;> rfl
                    · constructor <;> rfl
                    · rfl
                    · intro runId' request' hrequest flow hflow source hsource
                      cases hrequest
                      exact TrafficRunRequest.source_known hvalid hflow hsource

end MeshtasticLab.Traffic.TrafficController

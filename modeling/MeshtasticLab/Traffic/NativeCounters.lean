/-
  Traffic/NativeCounters.lean --- failed and duplicate receptions telescope.

  WHAT THIS FILE IS FOR

  The firmware of a node counts failed and duplicate receptions; the controller
  sees the totals in unsolicited telemetry and in the final sample.  The reports
  that a run records are kept in a history, and what the run counts is, over all
  nodes, the last recorded total less the one it started from.
-/
import MeshtasticLab.Foundation.Telescope
import MeshtasticLab.Traffic.Handled

set_option autoImplicit false

namespace MeshtasticLab.Traffic

open MeshtasticLab.Foundation MeshtasticLab.Gateway MeshtasticLab.Metrics MeshtasticLab.Models
open TrafficController

/-! ## Counters -/

/-- The deed changes no native counter of a run with a sampler. -/
def Deed.uncounted : Deed → Bool
  | .failedTotal .. => false
  | .duplicateTotal .. => false
  | .duplicate => false
  | _ => true

namespace Watch

/-- The totals of failed receptions. -/
def failed (v : Watch) : Totals String := ⟨v.latestFailedReceptions, v.failedReceptions⟩

/-- The totals of duplicate receptions. -/
def duplicated (v : Watch) : Totals String := ⟨v.latestDuplicateReceptions, v.duplicates⟩

/-- The same totals are known and counted. -/
structure SameTotals (v w : Watch) : Prop where
  failed : w.failed = v.failed
  duplicated : w.duplicated = v.duplicated
  failedReceptionSampler : w.failedReceptionSampler = v.failedReceptionSampler

variable {u v w : Watch} {may : Watch → Deed → Prop}

theorem SameTotals.refl (v : Watch) : SameTotals v v := ⟨rfl, rfl, rfl⟩

theorem SameTotals.trans (hfirst : SameTotals u v) (hsecond : SameTotals v w) :
    SameTotals u w where
  failed := hsecond.failed.trans hfirst.failed
  duplicated := hsecond.duplicated.trans hfirst.duplicated
  failedReceptionSampler :=
    hsecond.failedReceptionSampler.trans hfirst.failedReceptionSampler

/-- Deeds that change no native counter leave the totals. -/
theorem Does.sameTotals (h : Does may v w)
    (huncounted : ∀ u deed, may u deed → deed.uncounted = true) : SameTotals v w := by
  refine h.invariant ?_ (.refl v)
  intro u deed hsame hmay
  cases deed with
  | publish event => exact ⟨hsame.failed, hsame.duplicated, hsame.failedReceptionSampler⟩
  | failedTotal nodeId total => cases huncounted u _ hmay
  | duplicateTotal nodeId total => cases huncounted u _ hmay
  | duplicate => cases huncounted u _ hmay
  | _ => exact ⟨hsame.failed, hsame.duplicated, hsame.failedReceptionSampler⟩

theorem Does.sameTotals_of_none (h : Does NoDeed v w) : SameTotals v w :=
  h.sameTotals fun _ _ hnone => hnone.elim

end Watch

namespace TrafficController

variable {c d e : TrafficController}

/-- The controller records native totals. -/
def recordsTotals (c : TrafficController) : Bool :=
  c.current.isSome && c.acceptsRunEvents true

/-- The failed totals that a final sample records: those of nodes that a total is
known of. -/
def sampledFailed (c : TrafficController) (answer : Option FailedReceptionSample) :
    List (String × Nat) :=
  if c.recordsTotals then
    (answer.getD c.unavailableSample).totals.items.filter fun entry =>
      c.accumulators.latestFailedReceptions.contains entry.1
  else []

/-- The duplicate totals that a final sample records. -/
def sampledDuplicates (c : TrafficController) (answer : Option FailedReceptionSample) :
    List (String × Nat) :=
  if c.recordsTotals then
    (answer.getD c.unavailableSample).duplicateTotals.items.filter fun entry =>
      c.accumulators.latestDuplicateReceptions.contains entry.1
  else []

/-- A report of one total, when it is recorded. -/
def reported (c : TrafficController) (nodeId : String) (total : Nat) : List (String × Nat) :=
  if c.recordsTotals then [(nodeId, total)] else []

theorem recordsTotals_iff : c.recordsTotals = true ↔
    c.current ≠ none ∧ c.acceptsRunEvents true = true := by
  unfold recordsTotals
  rw [Bool.and_eq_true, Option.isSome_iff_ne_none]

/-- Only counters and events change when totals are recorded. -/
theorem recordFailedReceptions_eq (c : TrafficController) (m : Moment) (nodeId : String)
    (total : Nat) : ∃ accumulators outbox, c.recordFailedReceptions m nodeId total =
      { c with accumulators := accumulators, outbox := outbox } := by
  unfold recordFailedReceptions publishMetricUpdate
  split
  · exact ⟨_, _, rfl⟩
  · dsimp only
    split
    · exact ⟨_, _, rfl⟩
    · split
      · exact ⟨_, _, rfl⟩
      · split
        · exact ⟨_, _, rfl⟩
        · split <;> exact ⟨_, _, rfl⟩

theorem recordDuplicateReceptions_eq (c : TrafficController) (m : Moment) (nodeId : String)
    (total : Nat) : ∃ accumulators outbox, c.recordDuplicateReceptions m nodeId total =
      { c with accumulators := accumulators, outbox := outbox } := by
  unfold recordDuplicateReceptions publishMetricUpdate
  split
  · exact ⟨_, _, rfl⟩
  · dsimp only
    split
    · exact ⟨_, _, rfl⟩
    · split
      · exact ⟨_, _, rfl⟩
      · split
        · exact ⟨_, _, rfl⟩
        · split <;> exact ⟨_, _, rfl⟩

/-- From one controller to the other these failed and duplicate totals are recorded. -/
structure Records (c : TrafficController) (failed duplicates : List (String × Nat))
    (d : TrafficController) : Prop where
  failed : d.watch.failed = c.watch.failed.reportAll failed
  duplicated : d.watch.duplicated = c.watch.duplicated.reportAll duplicates
  failedReceptionSampler : d.failedReceptionSampler = c.failedReceptionSampler
  recordsTotals : d.recordsTotals = c.recordsTotals

theorem Records.refl (c : TrafficController) : Records c [] [] c := ⟨rfl, rfl, rfl, rfl⟩

theorem Records.trans {failed failed' duplicates duplicates' : List (String × Nat)}
    (hfirst : Records c failed duplicates d) (hsecond : Records d failed' duplicates' e) :
    Records c (failed ++ failed') (duplicates ++ duplicates') e where
  failed := by
    rw [hsecond.failed, hfirst.failed]
    exact List.foldl_append.symm
  duplicated := by
    rw [hsecond.duplicated, hfirst.duplicated]
    exact List.foldl_append.symm
  failedReceptionSampler := hsecond.failedReceptionSampler.trans hfirst.failedReceptionSampler
  recordsTotals := hsecond.recordsTotals.trans hfirst.recordsTotals

theorem records_recordFailedReceptions (c : TrafficController) (m : Moment) (nodeId : String)
    (total : Nat) :
    Records c (c.reported nodeId total) [] (c.recordFailedReceptions m nodeId total) := by
  obtain ⟨accumulators, outbox, heq⟩ := recordFailedReceptions_eq c m nodeId total
  have hrest : (c.recordFailedReceptions m nodeId total).recordsTotals = c.recordsTotals := by
    rw [heq]
    rfl
  unfold reported
  split
  · next hrecords =>
      have hsame := (does_recordFailedReceptions c m nodeId total
        (recordsTotals_iff.mp hrecords)).sameTotals_of_none
      exact ⟨hsame.failed, hsame.duplicated, hsame.failedReceptionSampler, hrest⟩
  · next hrefuses =>
      rw [recordsTotals_iff, not_and_or, not_not] at hrefuses
      unfold recordFailedReceptions
      rw [if_pos hrefuses]
      exact .refl c

theorem records_recordDuplicateReceptions (c : TrafficController) (m : Moment)
    (nodeId : String) (total : Nat) :
    Records c [] (c.reported nodeId total) (c.recordDuplicateReceptions m nodeId total) := by
  obtain ⟨accumulators, outbox, heq⟩ := recordDuplicateReceptions_eq c m nodeId total
  have hrest : (c.recordDuplicateReceptions m nodeId total).recordsTotals = c.recordsTotals := by
    rw [heq]
    rfl
  unfold reported
  split
  · next hrecords =>
      have hsame := (does_recordDuplicateReceptions c m nodeId total
        (recordsTotals_iff.mp hrecords)).sameTotals_of_none
      exact ⟨hsame.failed, hsame.duplicated, hsame.failedReceptionSampler, hrest⟩
  · next hrefuses =>
      rw [recordsTotals_iff, not_and_or, not_not] at hrefuses
      unfold recordDuplicateReceptions
      rw [if_pos hrefuses]
      exact .refl c

/-- The totals of known nodes are recorded, and afterwards the same nodes are known. -/
theorem contains_report {totals : Totals String} {entry : String × Nat}
    (hknown : totals.latest.contains entry.1 = true) (key : String) :
    (totals.report entry).latest.contains key = totals.latest.contains key := by
  unfold Totals.report Dict.contains
  dsimp only
  rw [Dict.get?_set]
  split
  · next heq =>
      rw [heq]
      exact hknown.symm
  · rfl

theorem records_sampleFailed (m : Moment) (items : List (String × Nat)) {known : String → Bool}
    (hknown : ∀ key, c.accumulators.latestFailedReceptions.contains key = known key) :
    Records c (if c.recordsTotals then items.filter fun entry => known entry.1 else []) []
      (items.foldl (fun c entry =>
        if c.accumulators.latestFailedReceptions.contains entry.1 then
          c.recordFailedReceptions m entry.1 entry.2
        else c) c) := by
  induction items generalizing c with
  | nil => simpa using Records.refl c
  | cons entry rest ih =>
      rw [List.foldl_cons, hknown]
      cases hentry : known entry.1 with
      | false => simpa [hentry] using ih hknown
      | true =>
          have hfirst := records_recordFailedReceptions c m entry.1 entry.2
          have hstill : ∀ key, (c.recordFailedReceptions m entry.1
              entry.2).accumulators.latestFailedReceptions.contains key = known key := by
            intro key
            rw [← hknown key]
            change (c.recordFailedReceptions m entry.1
              entry.2).watch.failed.latest.contains key = c.watch.failed.latest.contains key
            rw [hfirst.failed]
            unfold reported
            split
            · refine contains_report ?_ key
              exact (hknown entry.1).trans hentry
            · rfl
          have hboth := hfirst.trans (ih hstill)
          rw [hfirst.recordsTotals] at hboth
          unfold reported at hboth
          cases hrecords : c.recordsTotals with
          | false => simpa [hrecords, hentry] using hboth
          | true => simpa [hrecords, hentry] using hboth

theorem records_sampleDuplicates (m : Moment) (items : List (String × Nat))
    {known : String → Bool}
    (hknown : ∀ key, c.accumulators.latestDuplicateReceptions.contains key = known key) :
    Records c [] (if c.recordsTotals then items.filter fun entry => known entry.1 else [])
      (items.foldl (fun c entry =>
        if c.accumulators.latestDuplicateReceptions.contains entry.1 then
          c.recordDuplicateReceptions m entry.1 entry.2
        else c) c) := by
  induction items generalizing c with
  | nil => simpa using Records.refl c
  | cons entry rest ih =>
      rw [List.foldl_cons, hknown]
      cases hentry : known entry.1 with
      | false => simpa [hentry] using ih hknown
      | true =>
          have hfirst := records_recordDuplicateReceptions c m entry.1 entry.2
          have hstill : ∀ key, (c.recordDuplicateReceptions m entry.1
              entry.2).accumulators.latestDuplicateReceptions.contains key = known key := by
            intro key
            rw [← hknown key]
            change (c.recordDuplicateReceptions m entry.1
              entry.2).watch.duplicated.latest.contains key =
                c.watch.duplicated.latest.contains key
            rw [hfirst.duplicated]
            unfold reported
            split
            · refine contains_report ?_ key
              exact (hknown entry.1).trans hentry
            · rfl
          have hboth := hfirst.trans (ih hstill)
          rw [hfirst.recordsTotals] at hboth
          unfold reported at hboth
          cases hrecords : c.recordsTotals with
          | false => simpa [hrecords, hentry] using hboth
          | true => simpa [hrecords, hentry] using hboth

/-- The final sample records the totals of the nodes that a total is known of. -/
theorem records_applyFinalSample (c : TrafficController) (m : Moment)
    (answer : Option FailedReceptionSample) :
    (c.applyFinalSample m answer).watch.failed =
        c.watch.failed.reportAll (c.sampledFailed answer) ∧
      (c.applyFinalSample m answer).watch.duplicated =
        c.watch.duplicated.reportAll (c.sampledDuplicates answer) ∧
      (c.applyFinalSample m answer).watch.failedReceptionSampler =
        c.watch.failedReceptionSampler := by
  unfold applyFinalSample
  split
  · next hnone =>
      have hrefuses : c.recordsTotals = false := by simp [recordsTotals, hnone]
      unfold sampledFailed sampledDuplicates
      rw [hrefuses]
      exact ⟨rfl, rfl, rfl⟩
  · dsimp only
    have hfailed := records_sampleFailed (c := c) m
      (answer.getD c.unavailableSample).totals.items (fun _ => rfl)
    generalize List.foldl (fun (c : TrafficController) (entry : String × Nat) =>
        if c.accumulators.latestFailedReceptions.contains entry.1 then
          c.recordFailedReceptions m entry.1 entry.2
        else c) c (answer.getD c.unavailableSample).totals.items = d at hfailed ⊢
    have hknown : ∀ key, d.accumulators.latestDuplicateReceptions.contains key =
        c.accumulators.latestDuplicateReceptions.contains key := by
      intro key
      exact congrArg (fun totals => totals.latest.contains key) hfailed.duplicated
    have hduplicates := records_sampleDuplicates m
      (answer.getD c.unavailableSample).duplicateTotals.items hknown
    have hboth := hfailed.trans hduplicates
    rw [hfailed.recordsTotals, List.append_nil, List.nil_append] at hboth
    generalize List.foldl (fun (c : TrafficController) (entry : String × Nat) =>
        if c.accumulators.latestDuplicateReceptions.contains entry.1 then
          c.recordDuplicateReceptions m entry.1 entry.2
        else c) d (answer.getD c.unavailableSample).duplicateTotals.items = e at hboth ⊢
    rw [watch_modifyCurrent]
    · exact ⟨hboth.failed, hboth.duplicated, hboth.failedReceptionSampler⟩
    · exact fun _ => rfl

/-- Looking a packet up and counting it as a transmission or a drop changes no total. -/
theorem sameTotals_counts (pb : Protobuf) {packet : MeshPacket} {transmitter : String}
    (hcounts : d = c ∨
      (c.acceptsRunEvents = true ∧ Does MayCount (c.identified pb packet transmitter) d)) :
    Watch.SameTotals c.watch d.watch := by
  rcases hcounts with rfl | ⟨_, hdoes⟩
  · exact .refl _
  · refine Watch.SameTotals.trans
      (Watch.Does.sameTotals (does_messageForPacketIdentity pb c packet (some transmitter)) ?_)
      (Watch.Does.sameTotals hdoes ?_)
    · intro u deed hmay
      cases deed <;> first | rfl | exact hmay.elim
    · intro u deed hmay
      cases deed <;> first | rfl | exact hmay.elim

/-- So does a submission. -/
theorem sameTotals_submitted {m : Moment} {source : String} {draws : List Nat}
    (hsubmitted : Submitted c m source draws d) : Watch.SameTotals c.watch d.watch := by
  cases hsubmitted with
  | nothing hnone hwatch =>
      rw [hwatch]
      exact .refl _
  | reserved packetId ids hallocation hwatch =>
      rw [hwatch]
      exact ⟨rfl, rfl, rfl⟩
  | generated packetId hardwareId ids hallocation hhardware hdoes =>
      have hgenerated : Watch.SameTotals c.watch
          ((c.watch.after (.reserve ids)).after (.generate source packetId hardwareId)) :=
        ⟨rfl, rfl, rfl⟩
      exact hgenerated.trans hdoes.sameTotals_of_none

/-! ## Metrics -/

/-- The final metrics report what is counted. -/
theorem finalMetrics_counts {metrics : MetricsSnapshot} (h : c.finalMetrics = .ok metrics) :
    metrics.failedReceptions = c.accumulators.failedReceptions ∧
      metrics.duplicateReceptions = c.accumulators.duplicates := by
  obtain ⟨_, _, _, _, rfl⟩ := snapshot_of_calculateMetrics h
  exact ⟨rfl, rfl⟩

/-- So do the live metrics. -/
theorem liveMetricsSnapshot_counts {metrics : MetricsSnapshot}
    (h : c.liveMetricsSnapshot = .ok metrics) :
    metrics.failedReceptions = c.accumulators.failedReceptions ∧
      metrics.duplicateReceptions = c.accumulators.duplicates := by
  obtain ⟨_, _, _, _, rfl⟩ := snapshot_of_calculateMetrics h
  exact ⟨rfl, rfl⟩

end TrafficController

/-! ## Runs -/

/-- What is remembered of the native totals of a run: the totals of its baseline and
those that it recorded, in order. -/
structure TotalsHistory where
  failedBaseline : Dict String Nat := ∅
  duplicateBaseline : Dict String Nat := ∅
  failedReports : List (String × Nat) := []
  duplicateReports : List (String × Nat) := []

namespace TrafficTasks

variable {s t : TrafficTasks} {h : TotalsHistory}

/-- The failed totals that a step records. -/
def failedReports (s : TrafficTasks) : Action → List (String × Nat)
  | .failedReceptions _ nodeId total => s.controller.reported nodeId total
  | .run _ (.sampled answer) => s.controller.sampledFailed answer
  | .resume _ _ (.sampled answer) => s.controller.sampledFailed answer
  | _ => []

/-- The duplicate totals that a step records. -/
def duplicateReports (s : TrafficTasks) : Action → List (String × Nat)
  | .duplicateReceptions _ nodeId total => s.controller.reported nodeId total
  | .run _ (.sampled answer) => s.controller.sampledDuplicates answer
  | .resume _ _ (.sampled answer) => s.controller.sampledDuplicates answer
  | _ => []

/-- The history after a step. -/
def noteTotals (h : TotalsHistory) (s : TrafficTasks) (a : Action) (t : TrafficTasks) :
    TotalsHistory :=
  match a with
  | .start _ _ _ _ baseline =>
      if s.runTask = .done ∧ t.runTask = .scheduled then
        { failedBaseline := (baseline.getD { totals := ∅ }).totals
          duplicateBaseline := (baseline.getD { totals := ∅ }).duplicateTotals }
      else h
  | a =>
      { h with
        failedReports := h.failedReports ++ s.failedReports a
        duplicateReports := h.duplicateReports ++ s.duplicateReports a }

/-- The totals of the controller are those of its history. -/
structure Counted (s : TrafficTasks) (h : TotalsHistory) : Prop where
  failedReceptionSampler : s.controller.watch.failedReceptionSampler = true
  failed : s.controller.watch.failed =
    (⟨h.failedBaseline, 0⟩ : Totals String).reportAll h.failedReports
  duplicated : s.controller.watch.duplicated =
    (⟨h.duplicateBaseline, 0⟩ : Totals String).reportAll h.duplicateReports

/-- A handler records the totals that the step reports, and counts nothing else. -/
theorem totals_handled (pb : Protobuf) (hstructured : Structured s)
    (hsampler : s.controller.failedReceptionSampler = true) {a : Action}
    (hstarts : a.starts = false) (hstep : step pb s a = some t) :
    (s.handled pb a).watch.failed = s.controller.watch.failed.reportAll (s.failedReports a) ∧
      (s.handled pb a).watch.duplicated =
        s.controller.watch.duplicated.reportAll (s.duplicateReports a) ∧
      (s.handled pb a).watch.failedReceptionSampler =
        s.controller.watch.failedReceptionSampler := by
  have hsame : ∀ {d : TrafficController}, Watch.SameTotals s.controller.watch d.watch →
      d.watch.failed = s.controller.watch.failed.reportAll [] ∧
        d.watch.duplicated = s.controller.watch.duplicated.reportAll [] ∧
        d.watch.failedReceptionSampler = s.controller.watch.failedReceptionSampler :=
    fun hsame => ⟨hsame.failed, hsame.duplicated, hsame.failedReceptionSampler⟩
  cases a with
  | start m runId request scenarioSnapshot baseline => cases hstarts
  | fromRadio m nodeId message =>
      refine hsame ((does_handleFromRadio pb s.controller m nodeId message).sameTotals ?_)
      intro u deed hmay
      cases deed with
      | duplicate => exact absurd (hsampler.symm.trans hmay) Bool.noConfusion
      | deliver event => rfl
      | drop reason => rfl
      | _ => exact hmay.elim
  | rfTransmission m transmitter packet packetAirtimeMs =>
      exact hsame (sameTotals_counts pb
        (counts_recordRfTransmission pb s.controller m transmitter packet packetAirtimeMs))
  | drop m transmitter packet reason =>
      exact hsame (sameTotals_counts pb
        (counts_recordDrop pb s.controller m transmitter packet reason))
  | failedReceptions m nodeId total =>
      have hrecords := records_recordFailedReceptions s.controller m nodeId total
      exact ⟨hrecords.failed, hrecords.duplicated, hrecords.failedReceptionSampler⟩
  | duplicateReceptions m nodeId total =>
      have hrecords := records_recordDuplicateReceptions s.controller m nodeId total
      exact ⟨hrecords.failed, hrecords.duplicated, hrecords.failedReceptionSampler⟩
  | run m input =>
      cases input with
      | submit flow source pick draws =>
          cases hcall : s.submission flow source pick with
          | none =>
              exact hsame (congrArg watch (submitHandled_of_none pb m hcall draws) ▸ .refl _)
          | some call =>
              exact hsame (sameTotals_submitted (submitted_submitHandled pb
                (hstructured.open_of_submit hstep) m hcall draws))
      | sampled answer => exact records_applyFinalSample s.controller m answer
      | _ => exact ⟨rfl, rfl, rfl⟩
  | resume i m input =>
      cases input with
      | sampled answer => exact records_applyFinalSample s.controller m answer
      | _ => exact ⟨rfl, rfl, rfl⟩
  | _ => exact ⟨rfl, rfl, rfl⟩

/-- Every step keeps the totals those of the history. -/
theorem Counted.step (pb : Protobuf) (hsound : Sound s) (hcounted : Counted s h) {a : Action}
    (hstep : step pb s a = some t) : Counted t (noteTotals h s a t) := by
  cases hstarts : a.starts with
  | false =>
      obtain ⟨hfailed, hduplicated, hsampler⟩ :=
        totals_handled pb hsound.structured hcounted.failedReceptionSampler hstarts hstep
      have hsame : Watch.SameTotals (s.handled pb a).watch t.controller.watch :=
        Watch.Does.sameTotals_of_none (does_step pb hstarts hstep)
      have hhistory : noteTotals h s a t =
          { h with
            failedReports := h.failedReports ++ s.failedReports a
            duplicateReports := h.duplicateReports ++ s.duplicateReports a } := by
        cases a with
        | start m runId request scenarioSnapshot baseline => cases hstarts
        | _ => rfl
      rw [hhistory]
      refine ⟨?_, ?_, ?_⟩
      · rw [hsame.failedReceptionSampler, hsampler]
        exact hcounted.failedReceptionSampler
      · rw [hsame.failed, hfailed, hcounted.failed]
        exact List.foldl_append.symm
      · rw [hsame.duplicated, hduplicated, hcounted.duplicated]
        exact List.foldl_append.symm
  | true =>
      cases a with
      | start m runId request scenarioSnapshot baseline =>
          unfold noteTotals
          dsimp only
          rcases watch_start hstep with
            rfl | ⟨error, ids, _, rfl⟩ | ⟨ids, _, hover, hscheduled, hwatch⟩
          · rw [if_neg]
            · exact hcounted
            · rintro ⟨hdone, hscheduled⟩
              rw [hdone] at hscheduled
              cases hscheduled
          · rw [if_neg]
            · exact ⟨hcounted.failedReceptionSampler, hcounted.failed, hcounted.duplicated⟩
            · rintro ⟨hdone, hscheduled⟩
              exact absurd (hdone.symm.trans hscheduled) (by simp)
          · rw [if_pos ⟨hover, hscheduled⟩]
            have hfailed : t.controller.watch.failed = ⟨_, 0⟩ :=
              congrArg Watch.failed hwatch
            have hduplicated : t.controller.watch.duplicated = ⟨_, 0⟩ :=
              congrArg Watch.duplicated hwatch
            refine ⟨?_, ?_, ?_⟩
            · rw [hwatch]
              exact hcounted.failedReceptionSampler
            · rw [hfailed]
              exact congrArg (fun latest => (⟨latest, 0⟩ : Totals String)) (Dict.update_items _)
            · rw [hduplicated]
              exact congrArg (fun latest => (⟨latest, 0⟩ : Totals String)) (Dict.update_items _)
      | _ => cases hstarts

section Runs

variable {scenario : Scenario} {hardwareIds : Dict String Nat} {buildMetadata : BuildMetadata}
  {settleSeconds : Option ℚ}

/-- In every state of a run with a sampler the failed and the duplicate receptions are,
over all nodes, the last recorded total less the one the node counts from, and the
metrics report them. -/
theorem native_counters_telescope (pb : Protobuf)
    (hrun : Run (recorded (step pb) noteTotals) Always
      (.new scenario hardwareIds buildMetadata settleSeconds true, {}) (s, h))
    (hfailed : Totals.NeverDecrease h.failedBaseline h.failedReports)
    (hduplicate : Totals.NeverDecrease h.duplicateBaseline h.duplicateReports) :
    s.controller.accumulators.failedReceptions =
        Totals.telescoped h.failedBaseline h.failedReports ∧
      s.controller.accumulators.duplicates =
        Totals.telescoped h.duplicateBaseline h.duplicateReports ∧
      ∀ metrics, s.controller.finalMetrics = .ok metrics ∨
          s.controller.liveMetricsSnapshot = .ok metrics →
        metrics.failedReceptions = Totals.telescoped h.failedBaseline h.failedReports ∧
          metrics.duplicateReceptions =
            Totals.telescoped h.duplicateBaseline h.duplicateReports := by
  have hinvariant : Sound s ∧ Counted s h := by
    refine hrun.invariant (I := fun u => Sound u.1 ∧ Counted u.1 u.2) ?_ ?_
    · rintro ⟨u, g⟩ a v ⟨hsound, hcounted⟩ _ hstep
      obtain ⟨hstep, hrecord⟩ := recorded_eq_some.mp hstep
      rw [hrecord]
      exact ⟨hsound.step pb hstep, hcounted.step pb hsound hstep⟩
    · exact ⟨(exact_new _ _ _ _ _).toSound, ⟨rfl, rfl, rfl⟩⟩
  have hcounted := hinvariant.2
  have hfailures : s.controller.accumulators.failedReceptions =
      Totals.telescoped h.failedBaseline h.failedReports := by
    rw [← Totals.counted_eq_telescoped hfailed, ← hcounted.failed]
    rfl
  have hduplicates : s.controller.accumulators.duplicates =
      Totals.telescoped h.duplicateBaseline h.duplicateReports := by
    rw [← Totals.counted_eq_telescoped hduplicate, ← hcounted.duplicated]
    rfl
  refine ⟨hfailures, hduplicates, ?_⟩
  intro metrics hmetrics
  rw [← hfailures, ← hduplicates]
  rcases hmetrics with hfinal | hlive
  · exact finalMetrics_counts hfinal
  · exact liveMetricsSnapshot_counts hlive

end Runs

/-! ## A partial baseline -/

section Pair

/-- A controller of the two nodes that samples local statistics. -/
def sampledPair : TrafficTasks :=
  .new pairScenario ((∅ : Dict String Nat).update [("node-1", 1), ("node-2", 2)]) .unavailable
    none true

/-- A run with a baseline of the first node only.  Both nodes report failed receptions,
and the final sample repeats what the first node reported last. -/
def sampledRun : List Action :=
  [.start pairMoment "run"
      { kind := .directText, sourceNodes := ["node-1"], fixedDestination := some "node-2" }
      none (some { totals := (∅ : Dict String Nat).set "node-1" 5
                   duplicateTotals := (∅ : Dict String Nat).set "node-1" 2 }),
    .run pairMoment .begun,
    .failedReceptions pairMoment "node-1" 7,
    .failedReceptions pairMoment "node-2" 3,
    .duplicateReceptions pairMoment "node-1" 6,
    .failedReceptions pairMoment "node-2" 4,
    .call pairMoment .stop,
    .cancelled,
    .resume 0 pairMoment .runTaskDone,
    .resume 0 pairMoment (.sampled (some
      { totals := (∅ : Dict String Nat).update [("node-1", 7), ("node-2", 9)]
        duplicateTotals := (∅ : Dict String Nat).update [("node-1", 6), ("node-2", 9)] }))]

/-- The first node counts from its baseline and the second from its first report. -/
theorem sampled_run_telescopes :
    ∃ s h, exec (recorded (step pairProtobuf) noteTotals) sampledRun (sampledPair, {}) =
        some (s, h) ∧
      s.controller.accumulators.failedReceptions = (7 - 5) + (9 - 3) ∧
      s.controller.accumulators.duplicates = 6 - 2 := by
  have hstate : (exec (recorded (step pairProtobuf) noteTotals) sampledRun
      (sampledPair, {})).map (fun s => (s.2.failedBaseline, s.2.duplicateBaseline,
        s.2.failedReports, s.2.duplicateReports)) =
      some ((∅ : Dict String Nat).set "node-1" 5, (∅ : Dict String Nat).set "node-1" 2,
        [("node-1", 7), ("node-2", 3), ("node-2", 4), ("node-1", 7), ("node-2", 9)],
        [("node-1", 6), ("node-1", 6)]) := by
    decide +kernel
  obtain ⟨⟨s, h⟩, hexec, hstate⟩ := Option.map_eq_some_iff.mp hstate
  simp only [Prod.mk.injEq] at hstate
  obtain ⟨hfailedBaseline, hduplicateBaseline, hfailed, hduplicate⟩ := hstate
  have hrun := Run.of_exec hexec (conforms_always _ _)
  have hfailures : Totals.NeverDecrease h.failedBaseline h.failedReports := by
    rw [hfailedBaseline, hfailed]
    decide +kernel
  have hduplicates : Totals.NeverDecrease h.duplicateBaseline h.duplicateReports := by
    rw [hduplicateBaseline, hduplicate]
    decide +kernel
  obtain ⟨hfailedTotal, hduplicateTotal, _⟩ :=
    native_counters_telescope pairProtobuf hrun hfailures hduplicates
  refine ⟨s, h, hexec, ?_, ?_⟩
  · rw [hfailedTotal, hfailedBaseline, hfailed]
    decide +kernel
  · rw [hduplicateTotal, hduplicateBaseline, hduplicate]
    decide +kernel

end Pair

end TrafficTasks

end MeshtasticLab.Traffic

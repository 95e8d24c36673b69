/-
  Traffic/Quarantine.lean --- packet identifiers across the runs of a controller.

  WHAT THIS FILE IS FOR

  `_retire_packet_ids` counts the five minutes of an identifier from its
  allocation, not from the end of its run.  The history of a controller records
  the allocations with their runs and times and when each run became terminal; an
  allocation of an identifier that an earlier run had is then late enough unless
  that run outlived the five minutes of its identifier.
-/
import MeshtasticLab.Traffic.Handled

set_option autoImplicit false

namespace MeshtasticLab.Traffic

open MeshtasticLab.Foundation MeshtasticLab.Gateway MeshtasticLab.Metrics MeshtasticLab.Models
open TrafficController

/-! ## Histories -/

/-- An identifier that was allocated: for which source, in which run and when. -/
structure Allocation where
  source : String
  packetId : Nat
  run : Nat
  time : ℚ
  deriving DecidableEq

/-- What is remembered of the runs of a controller: the last reading of the clock,
how many runs were started, when those that ended became terminal, and what was
allocated, in order. -/
structure IdHistory where
  clock : ℚ
  runs : Nat := 0
  ended : List (Nat × ℚ) := []
  allocations : List Allocation := []

namespace IdHistory

/-- The run has been terminal for the quarantine time. -/
def Expired (h : IdHistory) (run : Nat) (now : ℚ) : Prop :=
  ∃ entry ∈ h.ended, entry.1 = run ∧ entry.2 + PACKET_ID_QUARANTINE_SECONDS ≤ now

instance (h : IdHistory) (run : Nat) (now : ℚ) : Decidable (h.Expired run now) :=
  inferInstanceAs (Decidable (∃ entry ∈ h.ended, entry.1 = run ∧
    entry.2 + PACKET_ID_QUARANTINE_SECONDS ≤ now))

/-- An identifier is allocated again for its source only in a later run, and only
when the earlier run has been terminal for the quarantine time. -/
def Quarantined (h : IdHistory) : Prop :=
  h.allocations.Pairwise fun earlier later =>
    earlier.source = later.source → earlier.packetId = later.packetId →
      earlier.run ≠ later.run ∧ h.Expired earlier.run later.time

end IdHistory

namespace TrafficTasks

variable {s t : TrafficTasks} {h : IdHistory}

/-- The source and the identifier that a step allocates. -/
def allocation (s : TrafficTasks) : Action → Option (String × Nat)
  | .run m (.submit flow source pick draws) =>
      (s.submission flow source pick).bind fun call =>
        (s.controller.submitAllocation m call.1 draws).map fun allocated =>
          (call.1, allocated.1)
  | _ => none

/-- The history after a step.  A run is terminal from the first result that is frozen
for it. -/
def remember (h : IdHistory) (s : TrafficTasks) (a : Action) (t : TrafficTasks) :
    IdHistory :=
  let now := (a.moment.map (·.now)).getD h.clock
  { clock := now
    runs :=
      if a.starts ∧ s.runTask = .done ∧ t.runTask = .scheduled then h.runs + 1 else h.runs
    ended :=
      if s.controller.frozenResults = [] ∧ t.controller.frozenResults ≠ [] then
        h.ended ++ [(h.runs, now)]
      else h.ended
    allocations :=
      h.allocations ++ ((s.allocation a).map fun allocated =>
        { source := allocated.1, packetId := allocated.2, run := h.runs, time := now }).toList }

/-- The clock does not go back. -/
def Forward (h : IdHistory) (a : Action) : Prop := ∀ m ∈ a.moment, h.clock ≤ m.now

/-- What a step draws identifiers from: the moment, the source and the draws. -/
def drawing (s : TrafficTasks) : Action → Option (Moment × String × List Nat)
  | .run m (.submit flow source pick draws) =>
      (s.submission flow source pick).map fun call => (m, call.1, draws)
  | _ => none

/-- No identifier is drawn for a source that an earlier run allocated for it at least
five minutes before, unless that run has been terminal for five minutes. -/
def Spares (h : IdHistory) (s : TrafficTasks) (a : Action) : Prop :=
  ∀ drawing ∈ s.drawing a, ∀ packetId ∈ drawing.2.2, ∀ old ∈ h.allocations,
    old.source = drawing.2.1 → old.packetId = packetId → old.run ≠ h.runs →
      old.time + PACKET_ID_QUARANTINE_SECONDS ≤ drawing.1.now → h.Expired old.run drawing.1.now

/-- When an action starts a run. -/
def Action.startMoment : Action → Option Moment
  | .start m .. => some m
  | _ => none

/-- When a run starts the quarantine has room for the identifiers of the last one. -/
def FindsRoom (s : TrafficTasks) (a : Action) : Prop :=
  ∀ m ∈ a.startMoment, s.controller.packetIds.HasRoom m.now

/-- The condition on a step under which the quarantine is kept. -/
def KeepsQuarantine (s : TrafficTasks × IdHistory) (a : Action) : Prop :=
  Forward s.2 a ∧ Spares s.2 s.1 a ∧ FindsRoom s.1 a

instance (h : IdHistory) (a : Action) : Decidable (Forward h a) :=
  inferInstanceAs (Decidable (∀ m ∈ a.moment, h.clock ≤ m.now))

instance (h : IdHistory) (s : TrafficTasks) (a : Action) : Decidable (Spares h s a) :=
  inferInstanceAs (Decidable (∀ drawing ∈ s.drawing a, ∀ packetId ∈ drawing.2.2,
    ∀ old ∈ h.allocations, old.source = drawing.2.1 → old.packetId = packetId →
      old.run ≠ h.runs → old.time + PACKET_ID_QUARANTINE_SECONDS ≤ drawing.1.now →
        h.Expired old.run drawing.1.now))

instance (s : TrafficTasks) (a : Action) : Decidable (FindsRoom s a) :=
  inferInstanceAs (Decidable (∀ m ∈ a.startMoment, s.controller.packetIds.HasRoom m.now))

instance (s : TrafficTasks × IdHistory) (a : Action) : Decidable (KeepsQuarantine s a) :=
  inferInstanceAs (Decidable (Forward s.2 a ∧ Spares s.2 s.1 a ∧ FindsRoom s.1 a))

/-! ## What is allocated -/

theorem packetIds_identified (pb : Protobuf) (c : TrafficController) (packet : MeshPacket)
    (transmitter : String) : (c.identified pb packet transmitter).packetIds = c.packetIds := by
  unfold identified messageForPacketIdentity
  dsimp only
  split <;> rfl

/-- The identifiers after a call of `_submit`. -/
theorem packetIds_submitted {c d : TrafficController} {m : Moment} {source : String}
    {draws : List Nat} (hsubmitted : Submitted c m source draws d) :
    (c.submitAllocation m source draws = none ∧ d.packetIds = c.packetIds) ∨
    ∃ packetId, c.submitAllocation m source draws = some (packetId, d.packetIds) := by
  cases hsubmitted with
  | nothing hnone hwatch => exact Or.inl ⟨hnone, congrArg Watch.packetIds hwatch⟩
  | reserved packetId ids hallocation hwatch =>
      have hids : d.packetIds = ids := congrArg Watch.packetIds hwatch
      exact Or.inr ⟨packetId, hids ▸ hallocation⟩
  | generated packetId hardwareId ids hallocation hhardware hdoes =>
      have hids : d.packetIds = ids := hdoes.sameKeys_of_none.packetIds
      exact Or.inr ⟨packetId, hids ▸ hallocation⟩

/-- What a handler does to the identifiers: nothing, or the allocation of the step. -/
theorem packetIds_handled (pb : Protobuf) (hstructured : Structured s) {a : Action}
    (hstep : step pb s a = some t) :
    (s.allocation a = none ∧ (s.handled pb a).packetIds = s.controller.packetIds) ∨
    ∃ m flow source pick draws call packetId,
      a = .run m (.submit flow source pick draws) ∧ s.submission flow source pick = some call ∧
        s.allocation a = some (call.1, packetId) ∧
        s.controller.packetIds.allocate call.1 m.now draws =
          some (packetId, (s.handled pb a).packetIds) := by
  cases a with
  | fromRadio m nodeId message =>
      exact Or.inl ⟨rfl, ((does_handleFromRadio pb s.controller m nodeId message).sameKeys
        keyless_mayReport).packetIds⟩
  | rfTransmission m transmitter packet packetAirtimeMs =>
      refine Or.inl ⟨rfl, ?_⟩
      rcases counts_recordRfTransmission pb s.controller m transmitter packet packetAirtimeMs with
        hsame | ⟨_, hcounts⟩
      · exact congrArg TrafficController.packetIds hsame
      · exact (hcounts.sameKeys keyless_mayCount).packetIds.trans
          (packetIds_identified pb _ packet transmitter)
  | drop m transmitter packet reason =>
      refine Or.inl ⟨rfl, ?_⟩
      rcases counts_recordDrop pb s.controller m transmitter packet reason with
        hsame | ⟨_, hcounts⟩
      · exact congrArg TrafficController.packetIds hsame
      · exact (hcounts.sameKeys keyless_mayCount).packetIds.trans
          (packetIds_identified pb _ packet transmitter)
  | failedReceptions m nodeId total =>
      exact Or.inl ⟨rfl, ((samples_recordFailedReceptions s.controller m nodeId total).sameKeys
        keyless_maySample).packetIds⟩
  | duplicateReceptions m nodeId total =>
      exact Or.inl ⟨rfl, ((samples_recordDuplicateReceptions s.controller m nodeId
        total).sameKeys keyless_maySample).packetIds⟩
  | run m input =>
      cases input with
      | submit flow source pick draws =>
          cases hcall : s.submission flow source pick with
          | none =>
              refine Or.inl ⟨by simp [allocation, hcall], ?_⟩
              exact congrArg TrafficController.packetIds (submitHandled_of_none pb m hcall draws)
          | some call =>
              have hsubmitted := submitted_submitHandled pb (hstructured.open_of_submit hstep) m
                hcall draws
              rcases packetIds_submitted hsubmitted with ⟨hnone, hsame⟩ | ⟨packetId, hallocation⟩
              · exact Or.inl ⟨by simp [allocation, hcall, hnone], hsame⟩
              · refine Or.inr ⟨m, flow, source, pick, draws, call, packetId, rfl, hcall,
                  by simp [allocation, hcall, hallocation], ?_⟩
                exact allocate_of_submitAllocation hallocation
      | sampled answer =>
          exact Or.inl ⟨rfl, ((samples_applyFinalSample s.controller m answer).sameKeys
            keyless_maySample).packetIds⟩
      | _ => exact Or.inl ⟨rfl, rfl⟩
  | resume i m input =>
      cases input with
      | sampled answer =>
          exact Or.inl ⟨rfl, ((samples_applyFinalSample s.controller m answer).sameKeys
            keyless_maySample).packetIds⟩
      | _ => exact Or.inl ⟨rfl, rfl⟩
  | _ => exact Or.inl ⟨rfl, rfl⟩

/-! ## What the quarantine remembers -/

/-- What the identifiers of the controller remember of its history. -/
structure Remembers (ids : PacketIds) (h : IdHistory) : Prop where
  shelved : ids.Shelved
  apart : ids.Apart
  past : ∀ old ∈ h.allocations, old.run ≤ h.runs
  current : ∀ old ∈ h.allocations, old.run = h.runs →
    (ids.used old.source).get? old.packetId = some old.time
  shelf : ∀ old ∈ h.allocations, old.run ≠ h.runs →
    h.clock < old.time + PACKET_ID_QUARANTINE_SECONDS →
      (old.time + PACKET_ID_QUARANTINE_SECONDS, old.packetId) ∈ ids.quarantine old.source
  quarantined : h.Quarantined

theorem Expired.mono {later : IdHistory} (hended : ∀ entry ∈ h.ended, entry ∈ later.ended)
    {run : Nat} {now : ℚ} (hexpired : h.Expired run now) : later.Expired run now := by
  obtain ⟨entry, hmember, hrun, htime⟩ := hexpired
  exact ⟨entry, hended entry hmember, hrun, htime⟩

theorem ended_remember (h : IdHistory) (s : TrafficTasks) (a : Action) (t : TrafficTasks) :
    ∀ entry ∈ h.ended, entry ∈ (remember h s a t).ended := by
  intro entry hmember
  unfold remember
  dsimp only
  split
  · exact List.mem_append_left _ hmember
  · exact hmember

/-- The clock goes forward. -/
theorem clock_remember {a : Action} (hforward : Forward h a) (s t : TrafficTasks) :
    h.clock ≤ (remember h s a t).clock := by
  unfold remember
  dsimp only
  cases hmoment : a.moment with
  | none => exact Rat.le_refl
  | some m => exact hforward m hmoment

/-- What is remembered stays so while the identifiers and the run are the same. -/
theorem Remembers.idle {ids : PacketIds} (hremembers : Remembers ids h) {later : IdHistory}
    (hclock : h.clock ≤ later.clock) (hruns : later.runs = h.runs)
    (hended : ∀ entry ∈ h.ended, entry ∈ later.ended)
    (hallocations : later.allocations = h.allocations) : Remembers ids later where
  shelved := hremembers.shelved
  apart := hremembers.apart
  past := by
    rw [hallocations, hruns]
    exact hremembers.past
  current := by
    rw [hallocations, hruns]
    exact hremembers.current
  shelf := by
    rw [hallocations, hruns]
    intro old hmember hrun hlive
    exact hremembers.shelf old hmember hrun (lt_of_le_of_lt hclock hlive)
  quarantined := by
    unfold IdHistory.Quarantined
    rw [hallocations]
    refine hremembers.quarantined.imp ?_
    intro earlier later hreused hsource hpacketId
    obtain ⟨hrun, hexpired⟩ := hreused hsource hpacketId
    exact ⟨hrun, Expired.mono hended hexpired⟩

/-- An allocation under the condition is late enough, and is remembered. -/
theorem Remembers.allocate {ids ids' : PacketIds} (hremembers : Remembers ids h)
    {source : String} {now : ℚ} {draws : List Nat} {packetId : Nat}
    (hclock : h.clock ≤ now)
    (hallocate : ids.allocate source now draws = some (packetId, ids'))
    (hspares : ∀ drawn ∈ draws, ∀ old ∈ h.allocations, old.source = source →
      old.packetId = drawn → old.run ≠ h.runs →
        old.time + PACKET_ID_QUARANTINE_SECONDS ≤ now → h.Expired old.run now)
    {later : IdHistory} (hnow : later.clock = now) (hruns : later.runs = h.runs)
    (hended : ∀ entry ∈ h.ended, entry ∈ later.ended)
    (hallocations : later.allocations =
      h.allocations ++ [{ source := source, packetId := packetId, run := h.runs, time := now }]) :
    Remembers ids' later := by
  obtain ⟨hunused, hused⟩ := PacketIds.allocate_spec hallocate
  obtain ⟨hdrawn, hshelved, hapart, hnew, hstays⟩ :=
    PacketIds.allocate_quarantine hallocate hremembers.shelved hremembers.apart
  refine ⟨hshelved, hapart, ?_, ?_, ?_, ?_⟩
  · intro old hmember
    rw [hallocations, List.mem_append, List.mem_singleton] at hmember
    rw [hruns]
    rcases hmember with hold | rfl
    · exact hremembers.past old hold
    · exact Nat.le_refl _
  · intro old hmember hrun
    rw [hruns] at hrun
    rw [hallocations, List.mem_append, List.mem_singleton] at hmember
    rw [hused]
    rcases hmember with hold | rfl
    · have hget := hremembers.current old hold hrun
      split
      · next heq =>
          rw [heq] at hget
          rw [Dict.get?_set_of_ne]
          · exact hget
          · intro hsame
            rw [hsame, hunused] at hget
            cases hget
      · exact hget
    · rw [if_pos rfl, Dict.get?_set_self]
  · intro old hmember hrun hlive
    rw [hruns] at hrun
    rw [hnow] at hlive
    rw [hallocations, List.mem_append, List.mem_singleton] at hmember
    rcases hmember with hold | rfl
    · exact hstays old.source _
        (hremembers.shelf old hold hrun (lt_of_le_of_lt hclock hlive)) hlive
    · exact absurd rfl hrun
  · unfold IdHistory.Quarantined
    rw [hallocations, List.pairwise_append]
    refine ⟨?_, List.pairwise_singleton _ _, ?_⟩
    · refine hremembers.quarantined.imp ?_
      intro earlier later hreused hsource hpacketId
      obtain ⟨hrun, hexpired⟩ := hreused hsource hpacketId
      exact ⟨hrun, Expired.mono hended hexpired⟩
    · intro old hold fresh hfresh hsource hpacketId
      rw [List.mem_singleton] at hfresh
      subst hfresh
      have hother : old.run ≠ h.runs := by
        intro hrun
        have hget := hremembers.current old hold hrun
        rw [hsource, hpacketId, hunused] at hget
        cases hget
      refine ⟨hother, Expired.mono hended (hspares packetId hdrawn old hold hsource hpacketId
        hother ?_)⟩
      by_contra hlive
      rw [not_le] at hlive
      have hshelf := hremembers.shelf old hold hother (lt_of_le_of_lt hclock hlive)
      rw [hsource, hpacketId] at hshelf
      exact hnew _ hlive hshelf

/-- When a run starts, what the last one reserved goes into quarantine. -/
theorem Remembers.start {ids ids' : PacketIds} (hremembers : Remembers ids h) {now : ℚ}
    (hclock : h.clock ≤ now) (hretire : ids.retire now = (ids', .ok ()))
    {later : IdHistory} (hnow : later.clock = now) (hruns : later.runs = h.runs + 1)
    (hended : ∀ entry ∈ h.ended, entry ∈ later.ended)
    (hallocations : later.allocations = h.allocations) : Remembers ids' later := by
  obtain ⟨hshelved, hapart, hstays, hjoins⟩ :=
    PacketIds.retire_quarantine hretire hremembers.shelved hremembers.apart
  refine ⟨hshelved, hapart, ?_, ?_, ?_, ?_⟩
  · intro old hmember
    rw [hallocations] at hmember
    rw [hruns]
    exact Nat.le_succ_of_le (hremembers.past old hmember)
  · intro old hmember hrun
    rw [hallocations] at hmember
    rw [hruns] at hrun
    have hpast := hremembers.past old hmember
    omega
  · intro old hmember _ hlive
    rw [hallocations] at hmember
    rw [hnow] at hlive
    by_cases hrun : old.run = h.runs
    · exact hjoins old.source old.packetId old.time (hremembers.current old hmember hrun) hlive
    · exact hstays old.source _
        (hremembers.shelf old hmember hrun (lt_of_le_of_lt hclock hlive)) hlive
  · unfold IdHistory.Quarantined
    rw [hallocations]
    refine hremembers.quarantined.imp ?_
    intro earlier later hreused hsource hpacketId
    obtain ⟨hrun, hexpired⟩ := hreused hsource hpacketId
    exact ⟨hrun, Expired.mono hended hexpired⟩

/-- A step under the condition keeps what is remembered. -/
theorem Remembers.step (pb : Protobuf) (hsound : Sound s)
    (hremembers : Remembers s.controller.packetIds h) {a : Action}
    (hkeeps : KeepsQuarantine (s, h) a) (hstep : step pb s a = some t) :
    Remembers t.controller.packetIds (remember h s a t) := by
  obtain ⟨hforward, hspares, hroom⟩ := hkeeps
  have hclock := clock_remember hforward s t
  have hended := ended_remember h s a t
  cases hstarts : a.starts with
  | false =>
      have hruns : (remember h s a t).runs = h.runs := by
        unfold remember
        simp [hstarts]
      have hids : t.controller.packetIds = (s.handled pb a).packetIds :=
        (Watch.Does.sameKeys_of_none (does_step pb hstarts hstep)).packetIds
      rw [hids]
      rcases packetIds_handled pb hsound.structured hstep with
        ⟨hnone, hsame⟩ | ⟨m, flow, source, pick, draws, call, packetId, rfl, hcall, hallocation,
          hallocate⟩
      · rw [hsame]
        refine hremembers.idle hclock hruns hended ?_
        unfold remember
        simp [hnone]
      · have hdrawing : s.drawing (.run m (.submit flow source pick draws)) =
            some (m, call.1, draws) := by
          simp [drawing, hcall]
        refine hremembers.allocate (hforward m rfl) hallocate (hspares _ hdrawing) rfl hruns
          hended ?_
        unfold remember
        simp [hallocation, Action.moment]
  | true =>
      cases a with
      | start m runId request scenarioSnapshot baseline =>
          have hallocations : (remember h s (.start m runId request scenarioSnapshot baseline)
              t).allocations = h.allocations := by
            simp [remember, allocation]
          rcases watch_start hstep with
            rfl | ⟨error, ids, hretire, _⟩ | ⟨ids, hretire, hover, hscheduled, hwatch⟩
          · refine hremembers.idle hclock ?_ hended hallocations
            unfold remember
            dsimp only
            rw [if_neg]
            rintro ⟨_, hdone, hscheduled⟩
            rw [hdone] at hscheduled
            cases hscheduled
          · have hok := PacketIds.retire_of_room (hroom m rfl)
            rw [hretire] at hok
            cases hok
          · rw [show t.controller.packetIds = ids from congrArg Watch.packetIds hwatch]
            refine hremembers.start (hforward m rfl) hretire rfl ?_ hended hallocations
            simp [remember, hover, hscheduled, Action.starts]
      | _ => cases hstarts

/-! ## Runs -/

section Runs

variable {scenario : Scenario} {hardwareIds : Dict String Nat} {buildMetadata : BuildMetadata}
  {settleSeconds : Option ℚ} {failedReceptionSampler : Bool}

/-- In a run whose steps keep the quarantine, an identifier is allocated again only in a
later run, and only when the earlier run has been terminal for five minutes. -/
theorem quarantined_of_run (pb : Protobuf) (clock : ℚ)
    (hrun : Run (recorded (step pb) remember) KeepsQuarantine
      (.new scenario hardwareIds buildMetadata settleSeconds failedReceptionSampler,
        { clock := clock }) (s, h)) :
    h.Quarantined := by
  have hinvariant : Sound s ∧ Remembers s.controller.packetIds h := by
    refine hrun.invariant (I := fun u => Sound u.1 ∧ Remembers u.1.controller.packetIds u.2) ?_ ?_
    · rintro ⟨u, g⟩ a v ⟨hsound, hremembers⟩ hkeeps hstep
      obtain ⟨hstep, hrecord⟩ := recorded_eq_some.mp hstep
      rw [hrecord]
      exact ⟨hsound.step pb hstep, hremembers.step pb hsound hkeeps hstep⟩
    · refine ⟨(exact_new _ _ _ _ _).toSound, ?_⟩
      constructor
      · constructor
        · intro source
          exact List.nodup_nil
        · intro source packetId
          exact Iff.rfl
      · intro source packetId hused
        exact absurd rfl hused
      · simp
      · simp
      · simp
      · exact List.Pairwise.nil
  exact hinvariant.2.quarantined

end Runs

/-! ## A run that outlives its identifiers -/

section Pair

/-- Outside readings at a time of the clock. -/
def pairMomentAt (now : ℚ) : Moment := { pairMoment with now := now }

/-- A run that submits one message and is stopped. -/
def stoppedRun (runId : String) (started stopped : ℚ) (draws : List Nat) : List Action :=
  [.start (pairMomentAt started) runId
      { kind := .directText
        sourceNodes := ["node-1"]
        fixedDestination := some "node-2"
        messagesPerMinute := 1 / 10
        durationSeconds := 3600 } none none,
    .run (pairMomentAt started) .begun,
    .run (pairMomentAt started) (.submit 0 0 0 draws),
    .run (pairMomentAt started) (.sent none false),
    .call (pairMomentAt stopped) .stop,
    .cancelled,
    .resume 0 (pairMomentAt stopped) .runTaskDone,
    .resume 0 (pairMomentAt stopped) (.finish .computed),
    .resume 0 (pairMomentAt stopped) (.finish .persisted)]

/-- A run that ends at this time, and a second later another one. -/
def twoRuns (stopped : ℚ) (draws : List Nat) : List Action :=
  stoppedRun "first" 0 stopped [7] ++ stoppedRun "second" (stopped + 1) (stopped + 2) draws

/-- One second after a run of four hundred seconds its identifier is allocated again. -/
theorem long_run_identifier_reused :
    ∃ s h, Run (recorded (step pairProtobuf) remember) (fun s a => Forward s.2 a)
      (pairTasks, { clock := 0 }) (s, h) ∧ ¬h.Quarantined := by
  have hstate : (exec (recorded (step pairProtobuf) remember) (twoRuns 400 [7])
      (pairTasks, { clock := 0 })).map (fun s => (s.2.allocations, s.2.ended)) =
      some ([⟨"node-1", 7, 1, 0⟩, ⟨"node-1", 7, 2, 401⟩], [(1, 400), (2, 402)]) := by
    decide +kernel
  have hforward : Conforms (recorded (step pairProtobuf) remember)
      (fun s a => Forward s.2 a) (twoRuns 400 [7]) (pairTasks, { clock := 0 }) := by
    decide +kernel
  obtain ⟨⟨s, h⟩, hexec, hstate⟩ := Option.map_eq_some_iff.mp hstate
  obtain ⟨hallocations, hended⟩ := Prod.mk.inj hstate
  refine ⟨s, h, .of_exec hexec hforward, fun hquarantined => ?_⟩
  unfold IdHistory.Quarantined IdHistory.Expired at hquarantined
  rw [hallocations, hended] at hquarantined
  revert hquarantined
  decide +kernel

/-- After a run of ten seconds its identifier is drawn again, and another one is
allocated. -/
theorem short_run_identifier_quarantined :
    ∃ s h, exec (recorded (step pairProtobuf) remember) (twoRuns 10 [7, 9])
      (pairTasks, { clock := 0 }) = some (s, h) ∧ h.Quarantined := by
  have hsome : (exec (recorded (step pairProtobuf) remember) (twoRuns 10 [7, 9])
      (pairTasks, { clock := 0 })).isSome = true := by
    decide +kernel
  have hkeeps : Conforms (recorded (step pairProtobuf) remember) KeepsQuarantine
      (twoRuns 10 [7, 9]) (pairTasks, { clock := 0 }) := by
    decide +kernel
  obtain ⟨⟨s, h⟩, hexec⟩ := Option.isSome_iff_exists.mp hsome
  exact ⟨s, h, hexec, quarantined_of_run pairProtobuf 0 (.of_exec hexec hkeeps)⟩

end Pair

end TrafficTasks

end MeshtasticLab.Traffic

/-
  Simulator/LabRuns.lean --- what holds of a lab in every run.

  While a lab starts or runs without a failure that it acted on, no child was reported,
  and every verified gateway is ready or failed before the warm-up.  So a lab that is
  RUNNING has a child and a gateway for every node; and one that is not has nothing left,
  once its cleanup is over.
-/
import MeshtasticLab.Simulator.LabPhases

set_option autoImplicit false

namespace MeshtasticLab.Simulator

open MeshtasticLab.Foundation MeshtasticLab.Gateway MeshtasticLab.Models MeshtasticLab.Runtime

namespace Lab

open NodeGateway (Staged Closed Open Connected LoopsRun)
open NativeProcessSupervisor (Tended Unfailed Ending Watching)

variable {config : LabConfig} {lab after : Lab}

/-! ## The invariant -/

/-- What holds of the parts of a lab, and of the phase that it is in. -/
structure Sound (lab : Lab) : Prop where
  tended : Tended lab.supervisor
  staged : ∀ nodeId g, lab.gateways.get? nodeId = some g → Staged g
  dropped : ∀ g ∈ lab.dropped, Closed g
  phase : Phase lab lab.lifecycleLock

/-- No child was reported, and the verified gateways are ready or their failure was missed. -/
structure Noticed (lab : Lab) : Prop where
  unfailed : Unfailed lab.supervisor
  ready : ∀ nodeId ∈ lab.verified,
    nodeId ∈ lab.missed ∨ ∃ g, lab.gateways.get? nodeId = some g ∧ Ready g

/-- The invariant of a lab. -/
def Invariant (lab : Lab) : Prop := Sound lab ∧ (isLive lab.state = true → Noticed lab)

theorem Sound.invariant (h : Sound lab) (hstate : isLive lab.state = false) : Invariant lab := by
  refine ⟨h, fun hlive => ?_⟩
  rw [hstate] at hlive
  cases hlive

theorem Invariant.phase (h : Invariant lab) {pc : LabPc} (hpc : lab.lifecycleLock = pc) :
    Phase lab pc := hpc ▸ h.1.phase

/-! ## Failures and cleanups -/

theorem invariant_scheduleRuntimeFailure (h : Sound lab) :
    Invariant lab.scheduleRuntimeFailure := by
  have hphase := h.phase.scheduleRuntimeFailure
  refine Sound.invariant ?_ (scheduleRuntimeFailure_state lab)
  rw [scheduleRuntimeFailure_eq] at hphase ⊢
  split at hphase
  · next hlive =>
      rw [if_pos hlive]
      exact ⟨h.tended, h.staged, h.dropped, hphase⟩
  · next hlive =>
      rw [if_neg hlive]
      exact h

theorem invariant_beginCleanup (h : Sound lab) {kind : CleanupKind}
    (hkind : Tidying lab.startupTask lab.state kind)
    (hidle : lab.supervisor.lifecycleLock = .idle) : Invariant (lab.beginCleanup kind) :=
  Sound.invariant ⟨h.tended, h.staged, h.dropped, hkind, hidle⟩ hkind.not_live

theorem invariant_failStart (h : Sound lab) (htask : lab.startupTask = true)
    (hidle : lab.supervisor.lifecycleLock = .idle) : Invariant lab.failStart :=
  Sound.invariant ⟨h.tended, h.staged, h.dropped, ⟨htask, rfl⟩, hidle⟩ rfl

theorem invariant_unlessFailed {next : Lab} (h : Sound lab) (htask : lab.startupTask = true)
    (hidle : lab.supervisor.lifecycleLock = .idle)
    (hnext : lab.state ≠ .failed → Invariant next) : Invariant (lab.unlessFailed next) := by
  unfold unlessFailed
  split
  · exact invariant_failStart h htask hidle
  · next hstate => exact hnext hstate

/-! ## The start of the processes -/

theorem failures_start {s t : NativeProcessSupervisor} {scenario : Scenario} {raises : Bool}
    (hstep : s.step config.supervisor (.start scenario raises) = some t) :
    t.failures = s.failures := by
  cases NativeProcessSupervisor.step_move hstep with
  | allocated => rfl
  | startRaised => rfl
  | start => exact NativeProcessSupervisor.failures_launchNext _ _ _

theorem spawning_start {s t : NativeProcessSupervisor} {scenario : Scenario} {raises : Bool}
    (hrecords : s.records.items = [])
    (hstep : s.step config.supervisor (.start scenario raises) = some t) :
    Spawning scenario.nodeIds t := by
  cases NativeProcessSupervisor.step_move hstep with
  | allocated _ _ _ hsome => exact absurd hrecords hsome
  | startRaised _ hpc => exact .inr ⟨hrecords, hpc⟩
  | start => exact .inl (NativeProcessSupervisor.requested_launchNext _ _ _)

theorem invariant_beginStart (h : Sound lab) (hclean : Clean lab) {raises : Bool}
    (hbegin : lab.beginStart config raises = some after) : Invariant after := by
  obtain ⟨supervisor, hstep, rfl⟩ := Option.map_eq_some_iff.mp hbegin
  have htended := h.tended.step (a := .start lab.scenario raises) rfl hstep
  refine ⟨⟨htended, h.staged, h.dropped, ⟨rfl, .inl rfl⟩, hclean.bare, ?_⟩, fun _ => ⟨?_, ?_⟩⟩
  · exact spawning_start hclean.records hstep
  · exact (NativeProcessSupervisor.unfailed_of_empty hclean.records).step h.tended.reported
      htended.reported hstep (failures_start hstep)
  · intro nodeId hmember
    rw [show lab.verified = [] from hclean.bare.verified] at hmember
    cases hmember

/-! ## Gateways -/

theorem staged_reservePublicListener {g : NodeGateway} (h : Staged g) :
    Staged g.reservePublicListener := by
  have hstep : g.step NodeGateway.quietApi .reservePublicListener =
      some g.reservePublicListener := rfl
  exact h.step hstep

theorem staged_enablePublicClients {g : NodeGateway} (h : Staged g) :
    Staged g.enablePublicClients := by
  have hstep : g.step NodeGateway.quietApi .enablePublicClients =
      some g.enablePublicClients := rfl
  exact h.step hstep

theorem Ready.enablePublicClients {g : NodeGateway} (h : Ready g) :
    Ready g.enablePublicClients := by
  unfold NodeGateway.enablePublicClients
  split
  · exact h
  · exact h
  · exact ⟨h.idle, h.state, h.failed⟩

/-- What a change of every gateway keeps. -/
theorem forall_mapValues {gateways : Dict String NodeGateway}
    {f : String → NodeGateway → NodeGateway} {P : NodeGateway → Prop}
    (hall : ∀ nodeId g, gateways.get? nodeId = some g → P g)
    (hf : ∀ nodeId g, P g → P (f nodeId g)) :
    ∀ nodeId g, (gateways.mapValues f).get? nodeId = some g → P g := by
  intro nodeId g hg
  rw [Dict.get?_mapValues] at hg
  obtain ⟨before, hbefore, rfl⟩ := Option.map_eq_some_iff.mp hg
  exact hf nodeId before (hall nodeId before hbefore)

theorem Manned.mapValues {nodeIds : List String} {s : NativeProcessSupervisor}
    {gateways : Dict String NodeGateway} (h : Manned nodeIds s gateways)
    (f : String → NodeGateway → NodeGateway) : Manned nodeIds s (gateways.mapValues f) := by
  refine ⟨h.lock, h.records, h.requested, fun nodeId => ?_⟩
  rw [← h.gateways nodeId, Dict.contains, Dict.get?_mapValues, Option.isSome_map, Dict.contains]

theorem of_gatewaysAll {nodeIds : List String} {condition : NodeGateway → Bool}
    (hall : lab.gatewaysAll nodeIds condition = true) {nodeId : String} {g : NodeGateway}
    (hmember : nodeId ∈ nodeIds) (hg : lab.gateways.get? nodeId = some g) :
    condition g = true := by
  have hcondition := List.all_eq_true.mp hall nodeId hmember
  rwa [hg] at hcondition

theorem mem_keys_of_get? {gateways : Dict String NodeGateway} {nodeId : String}
    {g : NodeGateway} (hg : gateways.get? nodeId = some g) : nodeId ∈ gateways.keys := by
  rw [Dict.mem_keys, Dict.contains, hg]
  rfl

theorem invariant_createGateways (h : Invariant lab) (hpc : lab.lifecycleLock = .processes)
    (hidle : lab.supervisor.lifecycleLock = .idle) (hrecords : lab.supervisor.records.items ≠ [])
    : Invariant lab.createGateways := by
  obtain ⟨hstarting, hbare, hspawning⟩ := h.phase hpc
  refine ⟨⟨h.1.tended, ?_, h.1.dropped, hstarting, ?_, hbare.verified⟩, fun hlive => ?_⟩
  · intro nodeId g hg
    rcases Dict.get?_update hg with hnone | hmember
    · cases hnone
    · obtain ⟨_, _, heq⟩ := List.mem_map.mp hmember
      cases heq
      exact staged_reservePublicListener (NodeGateway.staged_new _ _)
  · refine ⟨hidle, hrecords, hspawning.resolve_right fun hfailed => hrecords hfailed.1, ?_⟩
    intro nodeId
    rw [createGateways, Dict.contains_update, List.map_map]
    simp [Dict.contains]
  · refine ⟨(h.2 hlive).unfailed, fun nodeId hmember => ?_⟩
    rw [show lab.createGateways.verified = [] from hbare.verified] at hmember
    cases hmember

theorem invariant_restart (h : Invariant lab) {attempt : Nat} {pending : List String}
    (hpc : lab.lifecycleLock = .stopping attempt pending []) :
    Invariant (lab.restart attempt pending) := by
  have hphase : Attempting lab pending [] := h.phase hpc
  have hmanned := hphase.manned.mapValues fun nodeId g =>
    if nodeId ∈ pending then g.reservePublicListener else g
  refine ⟨⟨h.1.tended, ?_, h.1.dropped, hphase.starting, hmanned, hphase.covered,
    List.Subset.refl pending⟩, fun hlive => ⟨(h.2 hlive).unfailed, ?_⟩⟩
  · apply forall_mapValues h.1.staged
    intro nodeId g hstaged
    split
    · exact staged_reservePublicListener hstaged
    · exact hstaged
  · intro nodeId hmember
    refine ((h.2 hlive).ready nodeId hmember).imp_right ?_
    rintro ⟨g, hg, hready⟩
    refine ⟨g, ?_, hready⟩
    -- the verified gateways are not pending
    have hapart : nodeId ∉ pending :=
      fun hpending => hphase.covered.apart nodeId hpending hmember
    simp [restart, Dict.get?_mapValues, hg, hapart]

/-! ## The attempts -/

theorem mem_filter_ne {nodeIds : List String} {nodeId other : String} :
    other ∈ nodeIds.filter (· ≠ nodeId) ↔ other ∈ nodeIds ∧ other ≠ nodeId := by
  simp

/-- The watch of a node is over. -/
theorem invariant_observe (h : Invariant lab) {attempt : Nat} {remaining unstable : List String}
    {nodeId : String} {g : NodeGateway}
    (hpc : lab.lifecycleLock = .verifying attempt remaining unstable)
    (hmember : nodeId ∈ remaining) (hg : lab.gateways.get? nodeId = some g) :
    Invariant (lab.observe attempt remaining unstable nodeId g) := by
  have hphase : Verifying lab remaining unstable := h.phase hpc
  obtain ⟨hstarting, hmanned, hcovered, honce, hserved⟩ := hphase
  have hstill : Served lab.gateways (remaining.filter (· ≠ nodeId)) :=
    fun other found hfound hother => hserved other found hfound (mem_filter_ne.mp hother).1
  unfold observe
  dsimp only
  split
  · refine ⟨⟨h.1.tended, h.1.staged, h.1.dropped, hstarting, hmanned, ⟨?_, ?_⟩, ?_, hstill⟩,
      fun hlive => ⟨(h.2 hlive).unfailed, (h.2 hlive).ready⟩⟩
    · intro other hother
      refine (hcovered.covers other hother).imp_right fun hpending => ?_
      by_cases hsame : other = nodeId
      · simp [hsame]
      · rcases List.mem_append.mp hpending with hwatched | hfailed
        · exact List.mem_append_left _ (mem_filter_ne.mpr ⟨hwatched, hsame⟩)
        · simp [hfailed]
    · intro other hother
      apply hcovered.apart
      rcases List.mem_append.mp hother with hwatched | hfailed
      · exact List.mem_append_left _ (mem_filter_ne.mp hwatched).1
      · rcases List.mem_append.mp hfailed with hfailed | hsame
        · exact List.mem_append_right _ hfailed
        · rw [List.mem_singleton.mp hsame]
          exact List.mem_append_left _ hmember
    · intro other hother hfailed
      obtain ⟨hwatched, hne⟩ := mem_filter_ne.mp hother
      rcases List.mem_append.mp hfailed with hfailed | hsame
      · exact honce other hwatched hfailed
      · exact hne (List.mem_singleton.mp hsame)
  · next hcalm =>
      rw [Bool.not_eq_true] at hcalm
      refine ⟨⟨h.1.tended, h.1.staged, h.1.dropped, hstarting, hmanned, ⟨?_, ?_⟩, ?_, hstill⟩,
        fun hlive => ⟨(h.2 hlive).unfailed, ?_⟩⟩
      · intro other hother
        by_cases hsame : other = nodeId
        · simp [hsame]
        · rcases hcovered.covers other hother with hverified | hpending
          · exact .inl (List.mem_append_left _ hverified)
          · right
            rcases List.mem_append.mp hpending with hwatched | hfailed
            · exact List.mem_append_left _ (mem_filter_ne.mpr ⟨hwatched, hsame⟩)
            · exact List.mem_append_right _ hfailed
      · intro other hother hverified
        have hpending : other ∈ remaining ++ unstable ∧ other ≠ nodeId := by
          rcases List.mem_append.mp hother with hwatched | hfailed
          · obtain ⟨hwatched, hne⟩ := mem_filter_ne.mp hwatched
            exact ⟨List.mem_append_left _ hwatched, hne⟩
          · refine ⟨List.mem_append_right _ hfailed, ?_⟩
            rintro rfl
            exact honce other hmember hfailed
        rcases List.mem_append.mp hverified with hverified | hsame
        · exact hcovered.apart other hpending.1 hverified
        · exact hpending.2 (List.mem_singleton.mp hsame)
      · intro other hother
        exact honce other (mem_filter_ne.mp hother).1
      · intro other hother
        rcases List.mem_append.mp hother with hother | hsame
        · exact (h.2 hlive).ready other hother
        · rw [List.mem_singleton.mp hsame]
          have hserving := hserved nodeId g hg hmember
          exact .inr ⟨g, hg, hserving.ready (h.1.staged nodeId g hg) hcalm⟩

theorem invariant_endAttempt (h : Invariant lab) {attempt : Nat} {unstable : List String}
    (hpc : lab.lifecycleLock = .verifying attempt [] unstable) :
    Invariant (lab.endAttempt attempt unstable) := by
  have hphase : Verifying lab [] unstable := h.phase hpc
  obtain ⟨hstarting, hmanned, hcovered, _, _⟩ := hphase
  unfold endAttempt
  split
  · next hnone =>
      subst hnone
      apply invariant_unlessFailed h.1 hstarting.task hmanned.lock
      intro _
      exact ⟨⟨h.1.tended, h.1.staged, h.1.dropped, hstarting, hmanned, hcovered, rfl⟩,
        fun hlive => ⟨(h.2 hlive).unfailed, (h.2 hlive).ready⟩⟩
  · split
    · exact ⟨⟨h.1.tended, h.1.staged, h.1.dropped, hstarting, hmanned, hcovered,
        List.Subset.refl unstable⟩, fun hlive => ⟨(h.2 hlive).unfailed, (h.2 hlive).ready⟩⟩
    · exact invariant_failStart h.1 hstarting.task hmanned.lock

/-- A start that has not failed is live. -/
theorem Starting.noticed {expected : LifecycleState} (h : Invariant lab)
    (hstarting : Starting lab.startupTask lab.state expected) (hexpected : isLive expected = true)
    (hstate : lab.state ≠ .failed) : Noticed lab := by
  apply h.2
  rw [hstarting.state.resolve_right hstate]
  exact hexpected

theorem invariant_enableClients (h : Invariant lab) (hpc : lab.lifecycleLock = .warmingUp) :
    Invariant lab.enableClients := by
  obtain ⟨hstarting, hfull⟩ := h.phase hpc
  apply invariant_unlessFailed h.1 hstarting.task hfull.manned.lock
  intro hstate
  have hnoticed := hstarting.noticed h rfl hstate
  have hmanned := hfull.manned.mapValues fun _ g => g.enablePublicClients
  refine ⟨⟨h.1.tended, ?_, h.1.dropped, hstarting, hmanned, hfull.covered, hfull.simulation⟩,
    fun _ => ⟨hnoticed.unfailed, ?_⟩⟩
  · exact forall_mapValues h.1.staged fun _ _ hstaged => staged_enablePublicClients hstaged
  · intro nodeId hmember
    refine (hnoticed.ready nodeId hmember).imp_right ?_
    rintro ⟨g, hg, hready⟩
    exact ⟨g.enablePublicClients, by simp [Dict.get?_mapValues, hg], hready.enablePublicClients⟩

theorem invariant_finishStart (h : Invariant lab) (hpc : lab.lifecycleLock = .enabling) :
    Invariant lab.finishStart := by
  obtain ⟨hstarting, hfull⟩ := h.phase hpc
  apply invariant_unlessFailed h.1 hstarting.task hfull.manned.lock
  intro hstate
  have hnoticed := hstarting.noticed h rfl hstate
  refine ⟨⟨h.1.tended, h.1.staged, h.1.dropped, rfl, hfull.manned.lock, .inr (.inr ⟨rfl, ?_⟩)⟩,
    fun _ => ⟨hnoticed.unfailed, hnoticed.ready⟩⟩
  exact ⟨hfull.manned, hfull.covered, hfull.simulation⟩

/-! ## The end of a cleanup -/

theorem invariant_finishCleanup (h : Invariant lab) {kind : CleanupKind}
    (hpc : lab.lifecycleLock = .cleaning kind .processes)
    (hidle : lab.supervisor.lifecycleLock = .idle) {available raises : Bool}
    (hfinish : lab.finishCleanup config kind available raises = some after) :
    Invariant after := by
  obtain ⟨htidying, hending, hhalted, hquiet⟩ := h.phase hpc
  have hrecords : lab.supervisor.records.items = [] := by
    simpa only [Ending, hidle] using hending
  have hclean : Clean lab.dropResources := ⟨hrecords, rfl, rfl, rfl⟩
  have hnone : ∀ {P : String → NodeGateway → Prop},
      ∀ nodeId g, lab.dropResources.gateways.get? nodeId = some g → P nodeId g := by
    intro P nodeId g hg
    cases hg
  have hdropped : ∀ g ∈ lab.dropResources.dropped, Closed g := by
    intro g hmember
    rcases List.mem_append.mp hmember with hmember | hmember
    · exact h.1.dropped g hmember
    · obtain ⟨⟨nodeId, _⟩, hitem, rfl⟩ := List.mem_map.mp hmember
      have hg := Dict.get?_eq_some.mpr hitem
      exact (hhalted nodeId _ hg List.not_mem_nil).closed (h.1.staged nodeId _ hg)
        (hquiet nodeId _ hg)
  cases kind with
  | stop =>
      cases hfinish
      exact Sound.invariant ⟨h.1.tended, hnone, hdropped, htidying.1, hidle,
        .inl ⟨rfl, hclean.records, hclean.bare⟩⟩ rfl
  | failure =>
      cases hfinish
      refine Sound.invariant ⟨h.1.tended, hnone, hdropped, htidying.1, hidle, ?_⟩ htidying.not_live
      rcases htidying.2 with hstate | hstate
      · exact .inr (.inl ⟨hstate, .inr ⟨hclean.records, hclean.bare⟩⟩)
      · exact .inl ⟨hstate, hclean.records, hclean.bare⟩
  | startup =>
      cases hfinish
      exact Sound.invariant ⟨h.1.tended, hnone, hdropped, rfl, hidle,
        .inr (.inl ⟨htidying.2, .inr ⟨hclean.records, hclean.bare⟩⟩)⟩ htidying.not_live
  | recovery =>
      simp only [finishCleanup] at hfinish
      split at hfinish
      · have hdrop : Sound lab.dropResources := by
          refine ⟨h.1.tended, hnone, hdropped, ?_⟩
          rw [show lab.dropResources.lifecycleLock = .cleaning .recovery .processes from hpc]
          exact ⟨htidying, hending, hnone, hnone⟩
        exact invariant_beginStart hdrop hclean hfinish
      · cases hfinish
        exact Sound.invariant ⟨h.1.tended, hnone, hdropped, htidying.1, hidle,
          .inr (.inl ⟨htidying.2, .inr ⟨hclean.records, hclean.bare⟩⟩)⟩ htidying.not_live

/-! ## Commands -/

theorem Resting.clean (h : Resting lab) (hstate : lab.state = .stopped) : Clean lab := by
  rcases h with ⟨_, hclean⟩ | ⟨hfailed, _⟩ | ⟨hrunning, _⟩
  · exact hclean
  · rw [hstate] at hfailed
    cases hfailed
  · rw [hstate] at hrunning
    cases hrunning

theorem Resting.full (h : Resting lab) (hstate : lab.state = .running) : Full lab := by
  rcases h with ⟨hstopped, _⟩ | ⟨hfailed, _⟩ | ⟨_, hfull⟩
  · rw [hstate] at hstopped
    cases hstopped
  · rw [hstate] at hfailed
    cases hfailed
  · exact hfull

theorem invariant_startCommand (h : Invariant lab) (hpc : lab.lifecycleLock = .free)
    {available raises : Bool} (hstart : lab.startCommand config available raises = some after) :
    Invariant after := by
  obtain ⟨htask, hidle, hresting⟩ := h.phase hpc
  unfold startCommand at hstart
  split at hstart
  · next hstate =>
      split at hstart
      · exact invariant_beginStart h.1 (hresting.clean hstate) hstart
      · cases hstart
        exact h
  · next hstate =>
      cases hstart
      exact invariant_beginCleanup h.1 ⟨htask, hstate⟩ hidle
  · cases hstart
    exact h

theorem invariant_stopCommand (h : Invariant lab) (hpc : lab.lifecycleLock = .free) :
    Invariant lab.stopCommand := by
  obtain ⟨htask, hidle, _⟩ := h.phase hpc
  unfold stopCommand
  split
  · exact h
  · exact Sound.invariant ⟨h.1.tended, h.1.staged, h.1.dropped, ⟨htask, rfl⟩, hidle⟩ rfl

theorem invariant_resetCommand (config : LabConfig) (h : Invariant lab)
    (hpc : lab.lifecycleLock = .free) : Invariant lab.resetCommand := by
  obtain ⟨htask, hidle, hresting⟩ := h.phase hpc
  unfold resetCommand
  split
  · next hstate =>
      have hclean := hresting.clean hstate
      have hclear : lab.supervisor.step config.supervisor .clearArchivedLogs =
          some lab.supervisor.clearArchivedLogs := rfl
      have htended := h.1.tended.step (a := .clearArchivedLogs) rfl hclear
      refine Sound.invariant ⟨htended, h.1.staged, h.1.dropped, ?_⟩ (by simp [hstate, isLive])
      dsimp only
      rw [hpc]
      exact ⟨htask, hidle, .inl ⟨hstate, hclean.records, hclean.bare⟩⟩
  · exact h

theorem Starting.state_ne {startupTask : Bool} {state expected other : LifecycleState}
    (h : Starting startupTask state expected) (hexpected : expected ≠ other)
    (hfailed : other ≠ .failed) : state ≠ other := by
  rintro rfl
  rcases h.state with hstate | hstate
  · exact hexpected hstate.symm
  · exact hfailed hstate

/-- While a lab is STOPPED, nothing depends on its scenario. -/
theorem Phase.replaceScenario {pc : LabPc} (h : Phase lab pc) (hstate : lab.state = .stopped)
    (scenario : Scenario) : Phase { lab with scenario } pc := by
  cases pc with
  | free =>
      have hclean := h.2.2.clean hstate
      exact ⟨h.1, h.2.1, .inl ⟨hstate, hclean.records, hclean.bare⟩⟩
  | processes => exact absurd hstate (h.1.state_ne (by decide) (by decide))
  | medium => exact absurd hstate (h.1.state_ne (by decide) (by decide))
  | warmingUp => exact absurd hstate (h.1.state_ne (by decide) (by decide))
  | enabling => exact absurd hstate (h.1.state_ne (by decide) (by decide))
  | cleaning kind cleanup => cases cleanup <;> exact h
  | _ => exact absurd hstate (h.starting.state_ne (by decide) (by decide))

/-- While a lab is RUNNING, only the nodes of its scenario count. -/
theorem Phase.applyLinks {pc : LabPc} (h : Phase lab pc) (hstate : lab.state = .running)
    {scenario : Scenario} (hnodes : scenario.nodes = lab.scenario.nodes) :
    Phase { lab with scenario } pc := by
  have hids : lab.scenario.nodeIds = scenario.nodeIds := by
    unfold Scenario.nodeIds
    rw [hnodes]
  cases pc with
  | free =>
      obtain ⟨hmanned, hcovered, hsimulation⟩ := h.2.2.full hstate
      rw [hids] at hmanned hcovered
      exact ⟨h.1, h.2.1, .inr (.inr ⟨hstate, hmanned, hcovered, hsimulation⟩)⟩
  | processes => exact absurd hstate (h.1.state_ne (by decide) (by decide))
  | medium => exact absurd hstate (h.1.state_ne (by decide) (by decide))
  | warmingUp => exact absurd hstate (h.1.state_ne (by decide) (by decide))
  | enabling => exact absurd hstate (h.1.state_ne (by decide) (by decide))
  | cleaning kind cleanup => cases cleanup <;> exact h
  | _ => exact absurd hstate (h.starting.state_ne (by decide) (by decide))

/-! ## Steps of the parts -/

theorem invariant_processStep (h : Invariant lab) {a : NativeProcessSupervisor.Action}
    (hown : a.isOwn = true) (hstep : lab.processStep config a = some after) :
    Invariant after := by
  obtain ⟨supervisor, hmove, rfl⟩ := Option.map_eq_some_iff.mp hstep
  have htended :=
    h.1.tended.step (NativeProcessSupervisor.uncancelled_of_isOwn hown) hmove
  have hsound : Sound { lab with supervisor } :=
    ⟨htended, h.1.staged, h.1.dropped, h.1.phase.own hown hmove⟩
  split
  · exact invariant_scheduleRuntimeFailure hsound
  · next hsame =>
      refine ⟨hsound, fun hlive => ⟨?_, (h.2 hlive).ready⟩⟩
      exact (h.2 hlive).unfailed.step h.1.tended.reported htended.reported hmove
        ((NativeProcessSupervisor.failures_step hmove).resolve_right hsame)

/-- A verified gateway is not called while its lab is live. -/
theorem Phase.not_called {pc : LabPc} (h : Phase lab pc) (hlive : isLive lab.state = true)
    {nodeId : String} (hmember : nodeId ∈ lab.verified) {a : NodeGateway.Action}
    (hpermits : permits pc nodeId a = true) : isCall a = false := by
  rw [Bool.eq_false_iff]
  intro hcall
  have hcases : nodeId ∈ pc.starts ∨ nodeId ∈ pc.stops := by
    unfold isCall at hcall
    split at hcall
    · exact .inl (by simpa [permits] using hpermits)
    · exact .inr (by simpa [permits] using hpermits)
    · cases hcall
  cases pc with
  | gateways uncalled =>
      rw [h.verified] at hmember
      cases hmember
  | stopping attempt pending uncalled =>
      rcases hcases with hstart | hstop
      · cases hstart
      · exact h.covered.apart nodeId (Attempting.called h hstop) hmember
  | restarting attempt pending uncalled =>
      rcases hcases with hstart | hstop
      · exact h.covered.apart nodeId (Attempting.called h hstart) hmember
      · cases hstop
  | cleaning kind cleanup =>
      have htidying : Tidying lab.startupTask lab.state kind := by
        cases cleanup <;> exact h.1
      rw [htidying.not_live] at hlive
      cases hlive
  | _ => rcases hcases with hstart | hstop <;> contradiction

/-- The failure of a gateway is acted on, or it is recorded that it was missed. -/
theorem invariant_onGatewayFailed (h : Sound lab) {nodeId : String}
    (hunfailed : isLive lab.state = true → Unfailed lab.supervisor)
    (hready : isLive lab.state = true → ∀ other ∈ lab.verified,
      (other ∈ lab.missed ∨ ∃ g, lab.gateways.get? other = some g ∧ Ready g) ∨ other = nodeId) :
    Invariant (lab.onGatewayFailed nodeId) := by
  unfold onGatewayFailed
  split
  · exact invariant_scheduleRuntimeFailure h
  · exact invariant_scheduleRuntimeFailure h
  · split
    · refine ⟨⟨h.tended, h.staged, h.dropped, h.phase.missed _⟩,
        fun hlive => ⟨hunfailed hlive, fun other hmember => ?_⟩⟩
      rcases hready hlive other hmember with (hmissed | hother) | rfl
      · exact .inl (List.mem_cons_of_mem _ hmissed)
      · exact .inr hother
      · exact .inl List.mem_cons_self
    · next hpending =>
        refine ⟨h, fun hlive => ⟨hunfailed hlive, fun other hmember => ?_⟩⟩
        refine (hready hlive other hmember).resolve_right ?_
        rintro rfl
        exact hpending hmember
  · next hwarming hrunning hstarting =>
      refine h.invariant ?_
      unfold isLive
      split
      · exact absurd (by assumption) hstarting
      · exact absurd (by assumption) hwarming
      · exact absurd (by assumption) hrunning
      · rfl

theorem invariant_gatewayStep (h : Invariant lab) {nodeId : String} {a : NodeGateway.Action}
    (hpermits : permits lab.lifecycleLock nodeId a = true)
    (hstep : lab.gatewayStep config nodeId a = some after) : Invariant after := by
  simp only [gatewayStep, bind, Option.bind_eq_some_iff] at hstep
  obtain ⟨g, hg, next, hmove, hafter⟩ := hstep
  have hstaged := h.1.staged nodeId g hg
  have hsound : Sound
      { lab with
        gateways := lab.gateways.set nodeId next
        lifecycleLock :=
          if isCall a then lab.lifecycleLock.call nodeId else lab.lifecycleLock } := by
    refine ⟨h.1.tended, forall_set (P := fun _ g => Staged g) h.1.staged (hstaged.step hmove),
      h.1.dropped, ?_⟩
    dsimp only
    cases hcall : isCall a with
    | false => exact h.1.phase.beside hg hstaged hcall hmove
    | true => exact h.1.phase.called hg hpermits hcall hmove
  -- a verified gateway stays ready, or reports its failure in this step
  have hready : isLive lab.state = true → ∀ other ∈ lab.verified,
      (other ∈ lab.missed ∨
        ∃ g, (lab.gateways.set nodeId next).get? other = some g ∧ Ready g) ∨
      other = nodeId ∧ emitsFailure a g next = true := by
    intro hlive other hmember
    rcases (h.2 hlive).ready other hmember with hmissed | ⟨found, hfound, hready⟩
    · exact .inl (.inl hmissed)
    · by_cases hsame : other = nodeId
      · subst hsame
        rw [hg] at hfound
        cases hfound
        rcases hready.step (h.1.phase.not_called hlive hmember hpermits) hmove with
          hready | hemits
        · exact .inl (.inr ⟨next, Dict.get?_set_self _ _ _, hready⟩)
        · exact .inr ⟨rfl, hemits⟩
      · refine .inl (.inr ⟨found, ?_, hready⟩)
        rw [Dict.get?_set_of_ne _ hsame]
        exact hfound
  split at hafter
  · cases hafter
    refine invariant_onGatewayFailed hsound (fun hlive => (h.2 hlive).unfailed) ?_
    exact fun hlive other hmember => (hready hlive other hmember).imp_right And.left
  · next hemits =>
      cases hafter
      refine ⟨hsound, fun hlive => ⟨(h.2 hlive).unfailed, fun other hmember => ?_⟩⟩
      exact (hready hlive other hmember).resolve_right fun hfailed => hemits hfailed.2

/-! ## All steps -/

/-- What can raise during a start. -/
theorem Phase.of_canRaise {pc : LabPc} (h : Phase lab pc) (hpc : lab.lifecycleLock = pc)
    (hraise : lab.canRaise = true) :
    lab.startupTask = true ∧ lab.supervisor.lifecycleLock = .idle := by
  unfold canRaise at hraise
  rw [hpc] at hraise
  cases pc with
  | configuring => exact ⟨h.starting.task, h.manned.lock⟩
  | rebooting => exact ⟨h.starting.task, h.manned.lock⟩
  | stopping attempt pending uncalled => exact ⟨h.starting.task, h.manned.lock⟩
  | restarting attempt pending uncalled => exact ⟨h.starting.task, h.manned.lock⟩
  | verifying attempt remaining unstable => exact ⟨h.starting.task, h.manned.lock⟩
  | medium => exact ⟨h.1.task, h.2.manned.lock⟩
  | warmingUp => exact ⟨h.1.task, h.2.manned.lock⟩
  | enabling => exact ⟨h.1.task, h.2.manned.lock⟩
  | _ => cases hraise

/-- The holder of the lock moves on and nothing else changes. -/
theorem Invariant.relock (h : Invariant lab) {pc : LabPc}
    (hphase : Phase { lab with lifecycleLock := pc } pc) :
    Invariant { lab with lifecycleLock := pc } :=
  ⟨⟨h.1.tended, h.1.staged, h.1.dropped, hphase⟩,
    fun hlive => ⟨(h.2 hlive).unfailed, (h.2 hlive).ready⟩⟩

theorem invariant_gatewaysStarted (h : Invariant lab)
    (hstep : lab.step config .gatewaysStarted = some after) : Invariant after := by
  simp only [step] at hstep
  split at hstep
  · next hpc =>
      obtain ⟨_, heq⟩ := Option.ite_none_right_eq_some.mp hstep
      cases heq
      have hphase : Configuring lab := h.phase hpc
      apply invariant_unlessFailed h.1 hphase.starting.task hphase.manned.lock
      exact fun _ => h.relock ⟨hphase.starting, hphase.manned, hphase.verified⟩
  · next attempt pending hpc =>
      obtain ⟨hall, heq⟩ := Option.ite_none_right_eq_some.mp hstep
      cases heq
      have hphase : Attempting lab pending [] := h.phase hpc
      refine h.relock ⟨hphase.starting, hphase.manned, ?_, fun _ _ => List.not_mem_nil, ?_⟩
      · rw [List.append_nil]
        exact hphase.covered
      · intro nodeId g hg hmember
        exact serving_of_hasStarted (of_gatewaysAll hall hmember hg)
  · cases hstep

theorem invariant_gatewaysStopped (h : Invariant lab)
    (hstep : lab.step config .gatewaysStopped = some after) : Invariant after := by
  simp only [step] at hstep
  split at hstep
  · next attempt pending hpc =>
      obtain ⟨_, heq⟩ := Option.ite_none_right_eq_some.mp hstep
      cases heq
      exact invariant_restart h hpc
  · next kind hpc =>
      obtain ⟨hall, hstop⟩ := Option.ite_none_right_eq_some.mp hstep
      obtain ⟨supervisor, hmove, rfl⟩ := Option.map_eq_some_iff.mp hstop
      obtain ⟨htidying, _, hhalted⟩ := h.phase hpc
      have hending : Ending supervisor := by
        cases NativeProcessSupervisor.step_move hmove with
        | stop => exact NativeProcessSupervisor.ending_stopUnlocked _
      refine Sound.invariant ⟨h.1.tended.step (a := .stop) rfl hmove, h.1.staged, h.1.dropped,
        htidying, hending, hhalted, ?_⟩ htidying.not_live
      intro nodeId g hg
      simpa [isIdle] using of_gatewaysAll hall (mem_keys_of_get? hg) hg
  · cases hstep

/-- The action is the cleanup after a failure. -/
def Action.isCleanUp : Action → Bool
  | .cleanUpFailure => true
  | _ => false

/-- The cleanup after a failure does not find a lab that runs again: no command that was
called before the failure gets the lock first and starts the lab. -/
def Fresh (lab : Lab) (a : Action) : Prop := a.isCleanUp = true → lab.state ≠ .running

instance (lab : Lab) (a : Action) : Decidable (Fresh lab a) :=
  inferInstanceAs (Decidable (_ → _))

theorem Invariant.step (h : Invariant lab) {a : Action} (hfresh : Fresh lab a)
    (hstep : lab.step config a = some after) : Invariant after := by
  cases a with
  | start available raises =>
      obtain ⟨hpc, hstart⟩ := Option.ite_none_right_eq_some.mp hstep
      exact invariant_startCommand h hpc hstart
  | stop =>
      obtain ⟨hpc, heq⟩ := Option.ite_none_right_eq_some.mp hstep
      cases heq
      exact invariant_stopCommand h hpc
  | reset =>
      obtain ⟨hpc, heq⟩ := Option.ite_none_right_eq_some.mp hstep
      cases heq
      exact invariant_resetCommand config h hpc
  | replaceScenario scenario =>
      obtain ⟨⟨hstate, _⟩, heq⟩ := Option.ite_none_right_eq_some.mp hstep
      cases heq
      refine Sound.invariant ⟨h.1.tended, h.1.staged, h.1.dropped, ?_⟩ (by simp [hstate, isLive])
      exact h.1.phase.replaceScenario hstate scenario
  | applyLinks scenario =>
      obtain ⟨⟨hstate, hnodes, _⟩, heq⟩ := Option.ite_none_right_eq_some.mp hstep
      cases heq
      exact ⟨⟨h.1.tended, h.1.staged, h.1.dropped, h.1.phase.applyLinks hstate hnodes⟩,
        fun hlive => ⟨(h.2 hlive).unfailed, (h.2 hlive).ready⟩⟩
  | cleanUpFailure =>
      obtain ⟨⟨hpc, _⟩, heq⟩ := Option.ite_none_right_eq_some.mp hstep
      cases heq
      obtain ⟨htask, hidle, hresting⟩ := h.phase hpc
      refine invariant_beginCleanup h.1 ⟨htask, ?_⟩ hidle
      rcases hresting with ⟨hstate, _⟩ | ⟨hstate, _⟩ | ⟨hstate, _⟩
      · exact .inr hstate
      · exact .inl hstate
      · exact absurd hstate (hfresh rfl)
  | processesStarted =>
      obtain ⟨⟨hpc, hidle⟩, hstarted⟩ := Option.ite_none_right_eq_some.mp hstep
      obtain ⟨hstarting, _⟩ := h.phase hpc
      split at hstarted
      · cases hstarted
        exact invariant_failStart h.1 hstarting.task hidle
      · next hrecords =>
          cases hstarted
          apply invariant_unlessFailed h.1 hstarting.task hidle
          exact fun _ => invariant_createGateways h hpc hidle hrecords
  | gatewayRaised =>
      simp only [Lab.step] at hstep
      split at hstep
      · next hpc =>
          cases hstep
          have hphase : Configuring lab := h.phase hpc
          exact h.relock ⟨hphase.starting, hphase.manned, hphase.verified⟩
      · cases hstep
  | abandoned =>
      obtain ⟨⟨hpc, _⟩, heq⟩ := Option.ite_none_right_eq_some.mp hstep
      cases heq
      have hphase : Configuring lab := h.phase hpc
      exact invariant_failStart h.1 hphase.starting.task hphase.manned.lock
  | gatewaysStarted => exact invariant_gatewaysStarted h hstep
  | configured =>
      obtain ⟨hpc, heq⟩ := Option.ite_none_right_eq_some.mp hstep
      cases heq
      have hphase : Configuring lab := h.phase hpc
      exact h.relock ⟨hphase.starting, hphase.manned, hphase.verified⟩
  | rebooted =>
      obtain ⟨⟨hpc, _⟩, heq⟩ := Option.ite_none_right_eq_some.mp hstep
      cases heq
      have hphase : Configuring lab := h.phase hpc
      refine h.relock ⟨hphase.starting, hphase.manned, ⟨fun _ hmember => .inr hmember, ?_⟩,
        List.Subset.refl _⟩
      intro nodeId _ hverified
      rw [show lab.verified = [] from hphase.verified] at hverified
      cases hverified
  | gatewaysStopped => exact invariant_gatewaysStopped h hstep
  | observed nodeId =>
      simp only [Lab.step] at hstep
      split at hstep
      · next attempt remaining unstable hpc =>
          obtain ⟨hmember, hobserved⟩ := Option.ite_none_right_eq_some.mp hstep
          obtain ⟨g, hg, rfl⟩ := Option.map_eq_some_iff.mp hobserved
          exact invariant_observe h hpc hmember hg
      · cases hstep
  | attempted =>
      simp only [Lab.step] at hstep
      split at hstep
      · next attempt unstable hpc =>
          cases hstep
          exact invariant_endAttempt h hpc
      · cases hstep
  | mediumStarted =>
      obtain ⟨hpc, heq⟩ := Option.ite_none_right_eq_some.mp hstep
      cases heq
      obtain ⟨hstarting, hfull⟩ := h.phase hpc
      apply invariant_unlessFailed h.1 hstarting.task hfull.manned.lock
      intro hstate
      have hnoticed := hstarting.noticed h rfl hstate
      exact ⟨⟨h.1.tended, h.1.staged, h.1.dropped, ⟨hstarting.task, .inl rfl⟩, hfull.manned,
        hfull.covered, hfull.simulation⟩, fun _ => ⟨hnoticed.unfailed, hnoticed.ready⟩⟩
  | warmedUp =>
      obtain ⟨hpc, heq⟩ := Option.ite_none_right_eq_some.mp hstep
      cases heq
      exact invariant_enableClients h hpc
  | enabled =>
      obtain ⟨hpc, heq⟩ := Option.ite_none_right_eq_some.mp hstep
      cases heq
      exact invariant_finishStart h hpc
  | raised =>
      obtain ⟨hraise, heq⟩ := Option.ite_none_right_eq_some.mp hstep
      cases heq
      obtain ⟨htask, hidle⟩ := h.1.phase.of_canRaise rfl hraise
      exact invariant_failStart h.1 htask hidle
  | simulationStopped =>
      simp only [Lab.step] at hstep
      split at hstep
      · next kind hpc =>
          cases hstep
          obtain ⟨htidying, hidle⟩ := h.phase hpc
          refine h.relock ⟨htidying, hidle, ?_⟩
          exact fun nodeId g hg huncalled => absurd (mem_keys_of_get? hg) huncalled
      · cases hstep
  | processesStopped available raises =>
      simp only [Lab.step] at hstep
      split at hstep
      · next kind hpc =>
          obtain ⟨hidle, hfinish⟩ := Option.ite_none_right_eq_some.mp hstep
          exact invariant_finishCleanup h hpc hidle hfinish
      · cases hstep
  | mediumFailed =>
      obtain ⟨_, heq⟩ := Option.ite_none_right_eq_some.mp hstep
      cases heq
      exact invariant_scheduleRuntimeFailure h.1
  | queueFull =>
      cases hstep
      unfold onQueueFull
      split
      · exact invariant_scheduleRuntimeFailure h.1
      · exact invariant_scheduleRuntimeFailure h.1
      · exact h
  | process a =>
      obtain ⟨hown, hmove⟩ := Option.ite_none_right_eq_some.mp hstep
      exact invariant_processStep h hown hmove
  | gateway nodeId a =>
      obtain ⟨hpermits, hmove⟩ := Option.ite_none_right_eq_some.mp hstep
      exact invariant_gatewayStep h hpermits hmove

theorem invariant_new : Invariant new := by
  refine Sound.invariant
    ⟨NativeProcessSupervisor.tended_new, ?_, ?_, rfl, rfl, .inl ⟨rfl, rfl, rfl, rfl, rfl⟩⟩
    rfl
  · intro nodeId g hg
    cases hg
  · intro g hmember
    cases hmember

theorem invariant_of_run (hrun : Run (step config) Fresh new lab) : Invariant lab :=
  hrun.invariant (fun _ _ _ h hfresh hstep => h.step hfresh hstep) invariant_new

end Lab

end MeshtasticLab.Simulator

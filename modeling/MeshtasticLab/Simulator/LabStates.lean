/-
  Simulator/LabStates.lean --- what the state of a lab says about what it has.

  A lab that warms up or is RUNNING has for every node a child that was not reported and
  a gateway that serves the daemon, unless that gateway failed between its verification
  and the warm-up, which nothing acts on.  When nobody holds the lifecycle lock, a lab that
  is STOPPED has nothing left of a run, and neither has one that is FAILED, once its cleanup
  is over.
-/
import MeshtasticLab.Simulator.LabRuns

set_option autoImplicit false

namespace MeshtasticLab.Simulator

open MeshtasticLab.Foundation MeshtasticLab.Gateway MeshtasticLab.Models MeshtasticLab.Runtime

namespace Lab

open NodeGateway (Staged Sealed Closed Open Connected LoopsRun)
open NativeProcessSupervisor (Watching)

variable {config : LabConfig} {lab after : Lab}

/-! ## The running gate -/

theorem Phase.full {pc : LabPc} (h : Phase lab pc)
    (hstate : lab.state = .warmingUp ∨ lab.state = .running) : Full lab := by
  have hnot : ¬ Starting lab.startupTask lab.state .starting := by
    intro hstarting
    rcases hstate with hstate | hstate
    · exact hstarting.state_ne (by decide) (by decide) hstate
    · exact hstarting.state_ne (by decide) (by decide) hstate
  cases pc with
  | free =>
      rcases h.2.2 with ⟨hstopped, _⟩ | ⟨hfailed, _⟩ | ⟨_, hfull⟩
      · rw [hstopped] at hstate
        simp at hstate
      · rw [hfailed] at hstate
        simp at hstate
      · exact hfull
  | processes => exact absurd h.1 hnot
  | medium => exact absurd h.1 hnot
  | warmingUp => exact h.2
  | enabling => exact h.2
  | cleaning kind cleanup =>
      have htidying : Tidying lab.startupTask lab.state kind := by
        cases cleanup <;> exact h.1
      have hlive := htidying.not_live
      rcases hstate with hstate | hstate <;> simp [hstate, isLive] at hlive
  | _ => exact absurd h.starting hnot

/-- A gateway that serves a daemon: both listeners, and a connection whose loops run. -/
structure Serves (g : NodeGateway) : Prop where
  state : g.state = .running
  opened : Open g
  connected : Connected g
  loops : LoopsRun g

theorem Ready.serves {g : NodeGateway} (hready : Ready g) (hstaged : Staged g) : Serves g := by
  simp only [Staged, hready.idle] at hstaged
  rcases hstaged with ⟨hstate, _⟩ | ⟨hstate, hopen, hconnected⟩ | ⟨hstate, _⟩
  · rw [hready.state] at hstate
    cases hstate
  · exact ⟨hstate, hopen, hconnected, hconnected.loops hready.failed⟩
  · rw [hready.state] at hstate
    cases hstate

/-- A lab that warms up or is RUNNING has traffic and medium, and for every node a child
that is watched and was not reported, and a gateway that serves its daemon or failed after
it was verified, while the lab was STARTING. -/
theorem running_lab_serves (config : LabConfig) {lab : Lab}
    (hrun : Run (step config) Fresh new lab)
    (hstate : lab.state = .warmingUp ∨ lab.state = .running) :
    lab.simulation = true ∧ ∀ nodeId ∈ lab.scenario.nodeIds,
      Watching lab.supervisor nodeId ∧
      (nodeId ∈ lab.missed ∨ ∃ g, lab.gateways.get? nodeId = some g ∧ Serves g) := by
  obtain ⟨hsound, hnoticed⟩ := invariant_of_run hrun
  obtain ⟨hmanned, hcovered, hsimulation⟩ := hsound.phase.full hstate
  have hlive : isLive lab.state = true := by
    rcases hstate with hstate | hstate <;> rw [hstate] <;> rfl
  refine ⟨hsimulation, fun nodeId hmember => ⟨?_, ?_⟩⟩
  · rw [← hmanned.requested] at hmember
    exact hsound.tended.watching hmanned.lock hmanned.records (hnoticed hlive).unfailed nodeId
      hmember
  · have hverified : nodeId ∈ lab.verified :=
      (hcovered.covers nodeId hmember).resolve_right List.not_mem_nil
    refine ((hnoticed hlive).ready nodeId hverified).imp_right ?_
    rintro ⟨g, hg, hready⟩
    exact ⟨g, hg, hready.serves (hsound.staged nodeId g hg)⟩

/-! ## A run -/

/-- Steps that both gateways make, one after the other. -/
def onBoth (steps : List NodeGateway.Action) : List Action :=
  steps.map (.gateway "node-1") ++ steps.map (.gateway "node-2")

/-- The daemon closes the connection at a place among all. -/
def disconnectSteps (i : Nat) : List NodeGateway.Action := [.reader i .run, .reader i .disconnect]

def stopSteps : List NodeGateway.Action :=
  [.lifecycle .stop, .lifecycle .transportsClosed, .lifecycle .tasksCancelled,
    .lifecycle .returned]

/-- A start of two nodes.  Both reboot when they are configured, and the daemon of the first
closes its connection once more when both have been verified. -/
def startLab : List Action :=
  [.replaceScenario NativeProcessSupervisor.twoNodes, .start true false,
    .process (.spawned true), .process (.spawned true), .processesStarted] ++
  onBoth (NodeGateway.startSteps 0) ++ [.gatewaysStarted, .configured] ++
  onBoth (disconnectSteps 0) ++ [.rebooted] ++ onBoth stopSteps ++ [.gatewaysStopped] ++
  onBoth (NodeGateway.startSteps 1) ++
  [.gatewaysStarted, .observed "node-1", .observed "node-2"] ++
  (disconnectSteps 1).map (.gateway "node-1") ++
  [.attempted, .mediumStarted, .warmedUp, .enabled]

/-- A lab with two nodes. -/
def pairLab : LabConfig where
  supervisor := NativeProcessSupervisor.saltedSupervisor
  api := NodeGateway.quietApi

def runningLab : Lab := (exec (step pairLab) startLab new).getD new

/-- This lab is RUNNING although the failure of one gateway was missed. -/
theorem runningLab_serves : runningLab.state = .running ∧ runningLab.missed = ["node-1"] ∧
    Watching runningLab.supervisor "node-1" ∧
    ∃ g, runningLab.gateways.get? "node-2" = some g ∧ Serves g := by
  have hsome : (exec (step pairLab) startLab new).isSome = true := by decide +kernel
  have hexec : exec (step pairLab) startLab new = some runningLab := by
    obtain ⟨lab, hlab⟩ := Option.isSome_iff_exists.mp hsome
    rw [runningLab, hlab, Option.getD_some]
  have hconforms : Conforms (step pairLab) Fresh startLab new := by decide +kernel
  have hrun : Run (step pairLab) Fresh new runningLab := .of_exec hexec hconforms
  have hstate : runningLab.state = .running := by decide +kernel
  have hmissed : runningLab.missed = ["node-1"] := by decide +kernel
  have hserves := (running_lab_serves pairLab hrun (.inr hstate)).2
  refine ⟨hstate, hmissed, (hserves "node-1" (by decide +kernel)).1, ?_⟩
  refine (hserves "node-2" (by decide +kernel)).2.resolve_left ?_
  rw [hmissed]
  decide

/-! ## Control listeners -/

/-- No gateway has lost a control listener, and those that are still to be started are
stopped. -/
structure Guarded (lab : Lab) : Prop where
  sealed : ∀ nodeId g, lab.gateways.get? nodeId = some g → Sealed g
  halting : ∀ nodeId g, lab.gateways.get? nodeId = some g → nodeId ∈ lab.lifecycleLock.starts →
    Halting g
  dropped : ∀ g ∈ lab.dropped, g.abandonedControlServers = 0

/-- The gateways stay, and no more of them are to be started. -/
structure Spares (lab after : Lab) : Prop where
  gateways : after.gateways = lab.gateways
  dropped : after.dropped = lab.dropped
  starts : after.lifecycleLock.starts ⊆ lab.lifecycleLock.starts

theorem Guarded.spared (h : Guarded lab) (hspares : Spares lab after) : Guarded after := by
  refine ⟨?_, ?_, ?_⟩
  · rw [hspares.gateways]
    exact h.sealed
  · rw [hspares.gateways]
    exact fun nodeId g hg hstarts => h.halting nodeId g hg (hspares.starts hstarts)
  · rw [hspares.dropped]
    exact h.dropped

/-- Nothing is to be started. -/
theorem Spares.of_no_starts (hgateways : after.gateways = lab.gateways)
    (hdropped : after.dropped = lab.dropped) (hstarts : after.lifecycleLock.starts = []) :
    Spares lab after :=
  ⟨hgateways, hdropped, by rw [hstarts]; exact List.nil_subset _⟩

theorem Spares.refl (lab : Lab) : Spares lab lab := ⟨rfl, rfl, List.Subset.refl _⟩

theorem spares_scheduleRuntimeFailure (lab : Lab) : Spares lab lab.scheduleRuntimeFailure := by
  unfold scheduleRuntimeFailure
  split <;> exact ⟨rfl, rfl, List.Subset.refl _⟩

theorem spares_onGatewayFailed (lab : Lab) (nodeId : String) :
    Spares lab (lab.onGatewayFailed nodeId) := by
  unfold onGatewayFailed
  split
  · exact spares_scheduleRuntimeFailure lab
  · exact spares_scheduleRuntimeFailure lab
  · split <;> exact ⟨rfl, rfl, List.Subset.refl _⟩
  · exact .refl lab

theorem spares_unlessFailed {next : Lab} (hnext : Spares lab next) :
    Spares lab (lab.unlessFailed next) := by
  unfold unlessFailed
  split
  · exact .of_no_starts rfl rfl rfl
  · exact hnext

theorem spares_beginStart {raises : Bool} (hbegin : lab.beginStart config raises = some after) :
    Spares lab after := by
  obtain ⟨supervisor, _, rfl⟩ := Option.map_eq_some_iff.mp hbegin
  exact .of_no_starts rfl rfl rfl

theorem spares_endAttempt (attempt : Nat) (unstable : List String) :
    Spares lab (lab.endAttempt attempt unstable) := by
  unfold endAttempt
  split
  · exact spares_unlessFailed (.of_no_starts rfl rfl rfl)
  · split <;> exact .of_no_starts rfl rfl rfl

/-- A gateway that was just made has lost nothing. -/
theorem sealed_reservePublicListener {g : NodeGateway} (h : Sealed g) :
    Sealed g.reservePublicListener := ⟨h.abandoned, h.unopened⟩

theorem sealed_enablePublicClients {g : NodeGateway} (h : Sealed g) :
    Sealed g.enablePublicClients := by
  unfold NodeGateway.enablePublicClients
  split <;> exact ⟨h.abandoned, h.unopened⟩

theorem Guarded.createGateways (h : Guarded lab) : Guarded lab.createGateways := by
  have hnew : ∀ nodeId g, lab.createGateways.gateways.get? nodeId = some g →
      g = (NodeGateway.new QUEUE_SIZE false).reservePublicListener := by
    intro nodeId g hg
    rcases Dict.get?_update hg with hnone | hmember
    · cases hnone
    · obtain ⟨_, _, heq⟩ := List.mem_map.mp hmember
      exact (congrArg Prod.snd heq).symm
  refine ⟨fun nodeId g hg => ?_, fun nodeId g hg _ => ?_, h.dropped⟩
  · rw [hnew nodeId g hg]
    exact sealed_reservePublicListener (NodeGateway.sealed_new _ _)
  · rw [hnew nodeId g hg]
    exact .inl rfl

theorem Guarded.restart (h : Guarded lab) {attempt : Nat} {pending : List String}
    (hall : lab.gatewaysAll pending hasStopped = true) :
    Guarded (lab.restart attempt pending) := by
  refine ⟨?_, fun nodeId g hg hstarts => ?_, h.dropped⟩
  · apply forall_mapValues h.sealed
    intro nodeId g hsealed
    split
    · exact sealed_reservePublicListener hsealed
    · exact hsealed
  · have hmember : nodeId ∈ pending := hstarts
    rw [Lab.restart, Dict.get?_mapValues] at hg
    obtain ⟨before, hbefore, rfl⟩ := Option.map_eq_some_iff.mp hg
    have hstopped := of_gatewaysAll hall hmember hbefore
    rw [if_pos hmember]
    simp only [hasStopped, Bool.and_eq_true, decide_eq_true_eq] at hstopped
    exact .inl hstopped.2

theorem Guarded.enableClients (h : Guarded lab) : Guarded lab.enableClients := by
  unfold Lab.enableClients Lab.unlessFailed
  split
  · exact h.spared (.of_no_starts rfl rfl rfl)
  · refine ⟨?_, fun nodeId g hg hstarts => ?_, h.dropped⟩
    · exact forall_mapValues h.sealed fun _ _ hsealed => sealed_enablePublicClients hsealed
    · cases hstarts

/-- The end of a cleanup drops every gateway. -/
theorem Guarded.dropResources (h : Guarded lab) : Guarded lab.dropResources := by
  refine ⟨fun nodeId g hg => ?_, fun nodeId g hg => ?_, fun g hmember => ?_⟩
  · cases hg
  · cases hg
  rcases List.mem_append.mp hmember with hmember | hmember
  · exact h.dropped g hmember
  · obtain ⟨⟨nodeId, _⟩, hitem, rfl⟩ := List.mem_map.mp hmember
    exact (h.sealed nodeId _ (Dict.get?_eq_some.mpr hitem)).abandoned

theorem Guarded.finishCleanup (h : Guarded lab) {kind : CleanupKind} {available raises : Bool}
    (hfinish : lab.finishCleanup config kind available raises = some after) : Guarded after := by
  have hdropped := h.dropResources
  cases kind with
  | recovery =>
      simp only [Lab.finishCleanup] at hfinish
      split at hfinish
      · exact hdropped.spared (spares_beginStart hfinish)
      · cases hfinish
        exact hdropped.spared (.of_no_starts rfl rfl rfl)
  | _ =>
      cases hfinish
      exact hdropped.spared (.of_no_starts rfl rfl rfl)

theorem starts_call_subset (pc : LabPc) (nodeId : String) :
    (pc.call nodeId).starts ⊆ pc.starts := by
  cases pc with
  | gateways uncalled => exact filter_subset (List.Subset.refl uncalled) nodeId
  | restarting attempt pending uncalled =>
      exact filter_subset (List.Subset.refl uncalled) nodeId
  | cleaning kind cleanup => cases cleanup <;> exact List.Subset.refl _
  | _ => exact List.Subset.refl _

theorem not_mem_starts_call (pc : LabPc) (nodeId : String) : nodeId ∉ (pc.call nodeId).starts := by
  cases pc with
  | gateways uncalled => simp [LabPc.call, LabPc.starts]
  | restarting attempt pending uncalled => simp [LabPc.call, LabPc.starts]
  | cleaning kind cleanup => cases cleanup <;> exact List.not_mem_nil
  | _ => exact List.not_mem_nil

/-- The call of `start` on a gateway finds it stopped. -/
theorem Guarded.gatewayStep (h : Guarded lab)
    (hstaged : ∀ nodeId g, lab.gateways.get? nodeId = some g → Staged g) {nodeId : String}
    {a : NodeGateway.Action} (hpermits : permits lab.lifecycleLock nodeId a = true)
    (hstep : lab.gatewayStep config nodeId a = some after) : Guarded after := by
  simp only [Lab.gatewayStep, bind, Option.bind_eq_some_iff] at hstep
  obtain ⟨g, hg, next, hmove, hafter⟩ := hstep
  have hfirst : NodeGateway.StoppedFirst g a := by
    rintro rfl hfailed
    have hhalting := h.halting nodeId g hg (by simpa [permits] using hpermits)
    exact absurd hfailed (hhalting.state_ne (by decide) (by decide))
  have hnext := (h.sealed nodeId g hg).step (hstaged nodeId g hg) hfirst hmove
  have hcalled : Guarded
      { lab with
        gateways := lab.gateways.set nodeId next
        lifecycleLock :=
          if isCall a then lab.lifecycleLock.call nodeId else lab.lifecycleLock } := by
    refine ⟨forall_set (P := fun _ g => Sealed g) h.sealed hnext, ?_, h.dropped⟩
    apply forall_set (P := fun other g => other ∈
      (if isCall a then lab.lifecycleLock.call nodeId else lab.lifecycleLock).starts → Halting g)
    · intro other found hfound hstarts
      refine h.halting other found hfound ?_
      split at hstarts
      · exact starts_call_subset lab.lifecycleLock nodeId hstarts
      · exact hstarts
    · intro hstarts
      split at hstarts
      · exact absurd hstarts (not_mem_starts_call lab.lifecycleLock nodeId)
      · next hcall =>
          have hstart : a ≠ .lifecycle .start := by
            rintro rfl
            exact hcall rfl
          exact (h.halting nodeId g hg hstarts).step (hstaged nodeId g hg) hstart hmove
  split at hafter
  · cases hafter
    exact hcalled.spared (spares_onGatewayFailed _ nodeId)
  · cases hafter
    exact hcalled

theorem Guarded.step (h : Guarded lab)
    (hstaged : ∀ nodeId g, lab.gateways.get? nodeId = some g → Staged g) {a : Action}
    (hstep : lab.step config a = some after) : Guarded after := by
  cases a with
  | start available raises =>
      obtain ⟨_, hstart⟩ := Option.ite_none_right_eq_some.mp hstep
      refine h.spared ?_
      unfold startCommand at hstart
      split at hstart
      · split at hstart
        · exact spares_beginStart hstart
        · cases hstart
          exact .refl lab
      · cases hstart
        exact .of_no_starts rfl rfl rfl
      · cases hstart
        exact .refl lab
  | stop =>
      obtain ⟨_, heq⟩ := Option.ite_none_right_eq_some.mp hstep
      cases heq
      refine h.spared ?_
      unfold stopCommand
      split
      · exact .refl lab
      · exact .of_no_starts rfl rfl rfl
  | reset =>
      obtain ⟨_, heq⟩ := Option.ite_none_right_eq_some.mp hstep
      cases heq
      refine h.spared ?_
      unfold resetCommand
      split <;> exact ⟨rfl, rfl, List.Subset.refl _⟩
  | cleanUpFailure =>
      obtain ⟨_, heq⟩ := Option.ite_none_right_eq_some.mp hstep
      cases heq
      exact h.spared (.of_no_starts rfl rfl rfl)
  | processesStarted =>
      obtain ⟨_, hstarted⟩ := Option.ite_none_right_eq_some.mp hstep
      split at hstarted
      · cases hstarted
        exact h.spared (.of_no_starts rfl rfl rfl)
      · cases hstarted
        unfold unlessFailed
        split
        · exact h.spared (.of_no_starts rfl rfl rfl)
        · exact h.createGateways
  | gatewaysStopped =>
      simp only [Lab.step] at hstep
      split at hstep
      · obtain ⟨hall, heq⟩ := Option.ite_none_right_eq_some.mp hstep
        cases heq
        exact h.restart hall
      · obtain ⟨_, hstop⟩ := Option.ite_none_right_eq_some.mp hstep
        obtain ⟨supervisor, _, rfl⟩ := Option.map_eq_some_iff.mp hstop
        exact h.spared (.of_no_starts rfl rfl rfl)
      · cases hstep
  | gatewaysStarted =>
      simp only [Lab.step] at hstep
      split at hstep
      · obtain ⟨_, heq⟩ := Option.ite_none_right_eq_some.mp hstep
        cases heq
        exact h.spared (spares_unlessFailed (.of_no_starts rfl rfl rfl))
      · obtain ⟨_, heq⟩ := Option.ite_none_right_eq_some.mp hstep
        cases heq
        exact h.spared (.of_no_starts rfl rfl rfl)
      · cases hstep
  | observed nodeId =>
      simp only [Lab.step] at hstep
      split at hstep
      · obtain ⟨_, hobserved⟩ := Option.ite_none_right_eq_some.mp hstep
        obtain ⟨g, _, rfl⟩ := Option.map_eq_some_iff.mp hobserved
        refine h.spared ?_
        unfold observe
        dsimp only
        split <;> exact .of_no_starts rfl rfl rfl
      · cases hstep
  | attempted =>
      simp only [Lab.step] at hstep
      split at hstep
      · cases hstep
        exact h.spared (spares_endAttempt _ _)
      · cases hstep
  | mediumStarted =>
      obtain ⟨_, heq⟩ := Option.ite_none_right_eq_some.mp hstep
      cases heq
      exact h.spared (spares_unlessFailed (.of_no_starts rfl rfl rfl))
  | warmedUp =>
      obtain ⟨_, heq⟩ := Option.ite_none_right_eq_some.mp hstep
      cases heq
      exact h.enableClients
  | enabled =>
      obtain ⟨_, heq⟩ := Option.ite_none_right_eq_some.mp hstep
      cases heq
      exact h.spared (spares_unlessFailed (.of_no_starts rfl rfl rfl))
  | gatewayRaised =>
      simp only [Lab.step] at hstep
      split at hstep
      · cases hstep
        exact h.spared (.of_no_starts rfl rfl rfl)
      · cases hstep
  | simulationStopped =>
      simp only [Lab.step] at hstep
      split at hstep
      · cases hstep
        exact h.spared (.of_no_starts rfl rfl rfl)
      · cases hstep
  | processesStopped available raises =>
      simp only [Lab.step] at hstep
      split at hstep
      · obtain ⟨_, hfinish⟩ := Option.ite_none_right_eq_some.mp hstep
        exact h.finishCleanup hfinish
      · cases hstep
  | mediumFailed =>
      obtain ⟨_, heq⟩ := Option.ite_none_right_eq_some.mp hstep
      cases heq
      exact h.spared (spares_scheduleRuntimeFailure lab)
  | queueFull =>
      cases hstep
      refine h.spared ?_
      unfold onQueueFull
      split
      · exact spares_scheduleRuntimeFailure lab
      · exact spares_scheduleRuntimeFailure lab
      · exact .refl lab
  | process a =>
      obtain ⟨_, hmove⟩ := Option.ite_none_right_eq_some.mp hstep
      obtain ⟨supervisor, _, rfl⟩ := Option.map_eq_some_iff.mp hmove
      have hmoved : Guarded { lab with supervisor } :=
        h.spared ⟨rfl, rfl, List.Subset.refl _⟩
      split
      · exact hmoved.spared (spares_scheduleRuntimeFailure _)
      · exact hmoved
  | gateway nodeId a =>
      obtain ⟨hpermits, hmove⟩ := Option.ite_none_right_eq_some.mp hstep
      exact h.gatewayStep hstaged hpermits hmove
  | _ =>
      obtain ⟨_, heq⟩ := Option.ite_none_right_eq_some.mp hstep
      cases heq
      first
        | exact h.spared ⟨rfl, rfl, List.Subset.refl _⟩
        | exact h.spared (.of_no_starts rfl rfl rfl)

theorem guarded_of_run (hrun : Run (Lab.step config) Fresh new lab) :
    Invariant lab ∧ Guarded lab := by
  refine hrun.invariant (I := fun lab => Invariant lab ∧ Guarded lab) ?_ ⟨invariant_new, ?_⟩
  · rintro lab a after ⟨hinvariant, hguarded⟩ hfresh hstep
    exact ⟨hinvariant.step hfresh hstep, hguarded.step hinvariant.1.staged hstep⟩
  · refine ⟨fun nodeId g hg => ?_, fun nodeId g hg => ?_, fun g hmember => ?_⟩
    · cases hg
    · cases hg
    · cases hmember

/-! ## The lab at rest -/

/-- With a free lock and records, there is a record for every node of the last start. -/
theorem keys_eq_requested {s : NativeProcessSupervisor} (h : s.Tended)
    (hidle : s.lifecycleLock = .idle) (hrecords : s.records.items ≠ []) :
    s.records.keys = s.requested := by
  have hwhole := h.whole
  simp only [NativeProcessSupervisor.Whole, hidle] at hwhole
  exact (hwhole.whole.resolve_left hrecords).1

/-- Nothing is left of a run: no gateway, no verification, no traffic, and no child that
runs. -/
structure Emptied (lab : Lab) : Prop where
  gateways : lab.gateways.items = []
  verified : lab.verified = []
  simulation : lab.simulation = false
  records : lab.supervisor.records.items = []
  children : ∀ child ∈ lab.supervisor.children, child.returncode ≠ none

/-- Everything a run needs is there: records and gateways for the nodes and no others. -/
structure Equipped (lab : Lab) : Prop where
  records : lab.supervisor.records.keys = lab.scenario.nodeIds
  gateways : ∀ nodeId, lab.gateways.contains nodeId = true ↔ nodeId ∈ lab.scenario.nodeIds
  verified : ∀ nodeId ∈ lab.scenario.nodeIds, nodeId ∈ lab.verified
  simulation : lab.simulation = true

/-- When nobody holds the lifecycle lock, the lab is STOPPED or FAILED with nothing left of
a run, or FAILED with its cleanup outstanding, or RUNNING with everything a run needs; and
every gateway that was dropped is closed, and has lost no listener. -/
theorem resting_lab_resources (config : LabConfig) {lab : Lab}
    (hrun : Run (step config) Fresh new lab) (hfree : lab.lifecycleLock = .free) :
    (∀ g ∈ lab.dropped, Closed g ∧ g.abandonedControlServers = 0) ∧
      ((lab.state = .stopped ∨ lab.state = .failed) ∧ Emptied lab ∨
        lab.state = .failed ∧ lab.failureCleanup = true ∨
        lab.state = .running ∧ Equipped lab) := by
  obtain ⟨h, hguarded⟩ := guarded_of_run hrun
  obtain ⟨_, hidle, hresting⟩ := h.phase hfree
  have hemptied : Clean lab → Emptied lab := by
    intro hclean
    exact ⟨hclean.bare.gateways, hclean.bare.verified, hclean.bare.simulation, hclean.records,
      h.1.tended.exited hclean.records⟩
  refine ⟨fun g hmember => ⟨h.1.dropped g hmember, hguarded.dropped g hmember⟩, ?_⟩
  rcases hresting with ⟨hstate, hclean⟩ | ⟨hstate, hcleanup | hclean⟩ | ⟨hstate, hfull⟩
  · exact .inl ⟨.inl hstate, hemptied hclean⟩
  · exact .inr (.inl ⟨hstate, hcleanup⟩)
  · exact .inl ⟨.inr hstate, hemptied hclean⟩
  · obtain ⟨hmanned, hcovered, hsimulation⟩ := hfull
    refine .inr (.inr ⟨hstate, ?_, hmanned.gateways, ?_, hsimulation⟩)
    · rw [← hmanned.requested]
      exact keys_eq_requested h.1.tended hidle hmanned.records
    · intro nodeId hmember
      exact (hcovered.covers nodeId hmember).resolve_right List.not_mem_nil

/-- The steps of a cleanup, with the children that still run. -/
def cleanUpSteps (children : List Nat) : List Action :=
  [.simulationStopped] ++ onBoth stopSteps ++ [.gatewaysStopped] ++
  children.map (fun pid => .process (.exited pid 0)) ++
  [.process .childrenExited, .process .drained, .process .drained, .processesStopped false false]

/-- The first child exits, and the cleanup stops the second. -/
def failLab : List Action :=
  [.process (.exited 0 1), .process (.monitor "node-1"), .cleanUpFailure] ++ cleanUpSteps [1]

def failedLab : Lab := (exec (step pairLab) (startLab ++ failLab) new).getD new

/-- The cleanup after a failure leaves nothing. -/
theorem failedLab_emptied : failedLab.state = .failed ∧ failedLab.dropped.length = 2 ∧
    (∀ g ∈ failedLab.dropped, Closed g ∧ g.abandonedControlServers = 0) ∧ Emptied failedLab := by
  have hsome : (exec (step pairLab) (startLab ++ failLab) new).isSome = true := by
    decide +kernel
  have hexec : exec (step pairLab) (startLab ++ failLab) new = some failedLab := by
    obtain ⟨lab, hlab⟩ := Option.isSome_iff_exists.mp hsome
    rw [failedLab, hlab, Option.getD_some]
  have hconforms : Conforms (step pairLab) Fresh (startLab ++ failLab) new := by decide +kernel
  have hrun : Run (step pairLab) Fresh new failedLab := .of_exec hexec hconforms
  have hstate : failedLab.state = .failed := by decide +kernel
  have hdone : failedLab.failureCleanup = false := by decide +kernel
  obtain ⟨hclosed, hrest⟩ := resting_lab_resources pairLab hrun (by decide +kernel)
  refine ⟨hstate, by decide +kernel, hclosed, ?_⟩
  rcases hrest with ⟨_, hemptied⟩ | ⟨_, hcleanup⟩ | ⟨hrunning, _⟩
  · exact hemptied
  · rw [hdone] at hcleanup
    cases hcleanup
  · rw [hstate] at hrunning
    cases hrunning

-- A stop and a start that were called before a failure get the lock before its cleanup, which
-- then takes everything from a lab that is RUNNING.
example : ∃ lab ∈ exec (step pairLab)
    (startLab ++ [.process (.exited 0 1), .process (.monitor "node-1"), .stop] ++
      cleanUpSteps [1] ++ startLab ++ [.cleanUpFailure] ++ cleanUpSteps [2, 3]) new,
    lab.state = .running ∧ lab.gateways.items = [] ∧ lab.supervisor.records.items = [] := by
  decide +kernel

end Lab

end MeshtasticLab.Simulator

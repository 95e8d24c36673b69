/-
  Runtime/OwnSteps.lean --- what a supervisor does while nobody calls it.

  Its own steps are those of its children and of the call that is under way.  They keep
  the nodes that were asked for; with a free lock they change records and children in
  place; a stop that is under way ends without records; and a record without a failure
  stays so unless a failure is reported.
-/
import MeshtasticLab.Runtime.Failures
import MeshtasticLab.Runtime.Isolation

set_option autoImplicit false

namespace MeshtasticLab.Runtime

open MeshtasticLab.Foundation MeshtasticLab.Gateway MeshtasticLab.Models

namespace NativeProcessSupervisor

variable {config : SupervisorConfig} {s t u : NativeProcessSupervisor}

/-- The step is not a call, and nothing is cancelled. -/
def Action.isOwn : Action → Bool
  | .start _ _ => false
  | .stop => false
  | .cancelled => false
  | .clearArchivedLogs => false
  | _ => true

/-! ## Processes -/

/-- The records that are there have the processes they had, a new one or none. -/
def Kept (s t : NativeProcessSupervisor) : Prop :=
  ∀ nodeId record, t.records.get? nodeId = some record →
    record.process = none ∨ record.process = some s.children.length ∨
      ∃ before, s.records.get? nodeId = some before ∧ before.process = record.process

theorem Kept.refl (s : NativeProcessSupervisor) : Kept s s :=
  fun _ record hrecord => .inr (.inr ⟨record, hrecord, rfl⟩)

theorem Kept.alike (h : Kept s t) (halike : Alike t u) : Kept s u := by
  intro nodeId record hrecord
  obtain ⟨before, hbefore, hfixed⟩ := halike.record hrecord
  rw [(fixed_eq.mp hfixed).2.2.2.2]
  exact h nodeId before hbefore

theorem Alike.kept (halike : Alike s t) : Kept s t := (Kept.refl s).alike halike

theorem kept_of_empty (hrecords : t.records.items = []) : Kept s t := by
  intro nodeId record hrecord
  simp [Dict.get?, hrecords] at hrecord

theorem Kept.launchNext (h : Kept s t) (erase : Bool) (hardwareIds : Dict String Nat)
    (nodes : List (String × Nat)) : Kept s (launchNext config t erase hardwareIds nodes) := by
  cases nodes with
  | nil => exact h
  | cons node rest =>
      obtain ⟨nodeId, index⟩ := node
      simp only [NativeProcessSupervisor.launchNext]
      split
      · exact h.alike (alike_stopUnlocked t)
      · intro other record hrecord
        rw [Dict.get?_set] at hrecord
        split at hrecord
        · cases hrecord
          exact .inl rfl
        · exact h other record hrecord

theorem kept_spawned {captured erase : Bool} {hardwareIds : Dict String Nat} {nodeId : String}
    {record : ProcessRecord} {rest : List (String × Nat)} :
    Kept s (spawned config s captured erase hardwareIds nodeId record rest) := by
  -- the record of the node gets the new process
  have hspawn : ∀ f : ProcessRecord → ProcessRecord, (∀ found, (f found).process =
      some s.children.length) → ∀ t : NativeProcessSupervisor,
      t.records = (s.adjustRecord nodeId f).records → Kept s t := by
    intro f hf t hrecords other found hfound
    rw [hrecords] at hfound
    simp only [adjustRecord, mapRecords, Dict.get?_mapValues] at hfound
    obtain ⟨before, hbefore, rfl⟩ := Option.map_eq_some_iff.mp hfound
    split
    · exact .inr (.inl (hf before))
    · exact .inr (.inr ⟨before, hbefore, rfl⟩)
  unfold spawned
  dsimp only
  split
  · apply Kept.launchNext
    apply hspawn fun found => { ProcessRecord.track
      { found with process := some s.children.length } with state := .running }
    · exact fun _ => rfl
    · simp only [adjustRecord, mapRecords, Dict.mapValues, List.map_map]
      congr 1
      apply List.map_congr_left
      rintro ⟨other, found⟩ _
      by_cases hsame : other = nodeId <;> simp [hsame]
  · refine Kept.alike (hspawn (fun found => { found with process := some s.children.length })
      (fun _ => rfl) _ ?_) (alike_stopUnlocked _)
    rfl

theorem kept_drainRecords (h : Kept s t) (remaining : List String) :
    Kept s (t.drainRecords remaining) := by
  unfold drainRecords
  split
  · exact kept_of_empty rfl
  · exact h

theorem kept_step {a : Action} (hstep : step config s a = some t) : Kept s t := by
  have hmove := step_move hstep
  rcases hmove.reshapes_or_alike with hreshapes | ⟨halike, _⟩
  · cases hreshapes with
    | start scenario hardwareIds hvalid hrecords hids =>
        exact Kept.launchNext (kept_of_empty (t := { s.clearArchivedLogs with
          stopping := false, requested := scenario.nodeIds }) hrecords) _ _ _
    | spawned => exact kept_spawned
    | childrenExited => exact kept_drainRecords (Kept.refl s) _
    | drained nodeId rest record =>
        exact kept_drainRecords (alike_drainRecord s nodeId record).kept _
  · exact halike.kept

/-! ## Failures -/

theorem failures_stopUnlocked (s : NativeProcessSupervisor) :
    s.stopUnlocked.failures = s.failures := by
  unfold stopUnlocked
  split
  · rfl
  · rfl

theorem failures_launchNext (erase : Bool) (hardwareIds : Dict String Nat)
    (nodes : List (String × Nat)) :
    (launchNext config s erase hardwareIds nodes).failures = s.failures := by
  cases nodes with
  | nil => rfl
  | cons node rest =>
      simp only [launchNext]
      split
      · exact failures_stopUnlocked s
      · rfl

theorem failures_drainRecords (remaining : List String) :
    (s.drainRecords remaining).failures = s.failures := by
  unfold drainRecords
  split
  · rfl
  · rfl

/-- A step reports one failure at most. -/
theorem failures_step {a : Action} (hstep : step config s a = some t) :
    t.failures = s.failures ∨ s.failures.length < t.failures.length := by
  cases step_move hstep with
  | start => exact .inl (failures_launchNext _ _ _)
  | spawned =>
      left
      unfold spawned
      dsimp only
      split
      · exact failures_launchNext _ _ _
      · exact failures_stopUnlocked _
  | spawnRaised => exact .inl (failures_stopUnlocked s)
  | stop => exact .inl (failures_stopUnlocked s)
  | childrenExited => exact .inl (failures_drainRecords _)
  | drained => exact .inl (failures_drainRecords _)
  | monitor =>
      unfold monitorExit
      split
      · exact .inl rfl
      · right
        simp
  | _ => exact .inl rfl

/-- No record has failed. -/
def Unfailed (s : NativeProcessSupervisor) : Prop :=
  ∀ nodeId record, s.records.get? nodeId = some record → record.state ≠ .failed

/-- Without a report no record fails: its process would have been reported before. -/
theorem Unfailed.step (h : Unfailed s) (hreported : Reported s) (hlater : Reported t)
    {a : Action} (hstep : step config s a = some t) (hsame : t.failures = s.failures) :
    Unfailed t := by
  intro nodeId record hrecord hfailed
  obtain ⟨pid, hmember, hprocess⟩ := (hlater.failed nodeId record hrecord).mp hfailed
  rw [reported, hsame] at hmember
  rcases kept_step hstep nodeId record hrecord with hnone | hnew | ⟨before, hbefore, hkept⟩
  · rw [hprocess] at hnone
    cases hnone
  · rw [hprocess] at hnew
    have hlt := hreported.lt hmember
    have heq := Option.some.inj hnew
    omega
  · refine h nodeId before hbefore ((hreported.failed nodeId before hbefore).mpr ?_)
    exact ⟨pid, hmember, hkept.trans hprocess⟩

theorem unfailed_of_empty (hrecords : s.records.items = []) : Unfailed s := by
  intro nodeId record hrecord
  simp [Dict.get?, hrecords] at hrecord

/-! ## Own steps -/

theorem requested_launchNext (erase : Bool) (hardwareIds : Dict String Nat)
    (nodes : List (String × Nat)) :
    (launchNext config s erase hardwareIds nodes).requested = s.requested := by
  cases nodes with
  | nil => rfl
  | cons node rest =>
      simp only [launchNext]
      split
      · exact (alike_stopUnlocked s).requested
      · rfl

theorem requested_drainRecords (remaining : List String) :
    (s.drainRecords remaining).requested = s.requested := by
  unfold drainRecords
  split
  · rfl
  · rfl

theorem requested_own {a : Action} (hown : a.isOwn = true)
    (hstep : step config s a = some t) : t.requested = s.requested := by
  cases step_move hstep with
  | start => cases hown
  | spawned =>
      unfold spawned
      dsimp only
      split
      · exact requested_launchNext _ _ _
      · exact (alike_stopUnlocked _).requested
  | spawnRaised => exact (alike_stopUnlocked s).requested
  | stop => cases hown
  | childrenExited => exact requested_drainRecords _
  | drained => exact requested_drainRecords _
  | monitor nodeId record pid child returncode =>
      exact (alike_monitorExit s nodeId record pid returncode).requested
  | _ => rfl

theorem lifecycleLock_monitorExit (nodeId : String) (record : ProcessRecord) (pid : Nat)
    (returncode : Int) :
    (s.monitorExit nodeId record pid returncode).lifecycleLock = s.lifecycleLock := by
  unfold monitorExit
  split
  · rfl
  · rfl

/-- With a free lock a supervisor changes records and children in place. -/
theorem own_of_idle (hidle : s.lifecycleLock = .idle) {a : Action} (hown : a.isOwn = true)
    (hstep : step config s a = some t) : Alike s t ∧ t.lifecycleLock = .idle := by
  have hfree : ∀ {pc : SupervisorPc}, s.lifecycleLock = pc → pc = .idle :=
    fun hpc => hpc.symm.trans hidle
  cases step_move hstep with
  | allocated => cases hown
  | startRaised => cases hown
  | start => cases hown
  | spawned captured erase hardwareIds nodeId rest record hpc => cases hfree hpc
  | spawnRaised erase hardwareIds nodeId rest hpc => cases hfree hpc
  | stop => cases hown
  | childrenExited hpc =>
      rcases hpc with hpc | hpc
      · cases hfree hpc
      · cases hfree hpc
  | timedOut hpc => cases hfree hpc
  | drained nodeId rest record hpc => cases hfree hpc
  | cancelled => cases hown
  | exited pid returncode =>
      refine ⟨alike_adjustChild (fun _ => rfl) ?_, hidle⟩
      intro child hrunning
      cases hrunning
  | monitor nodeId record pid child returncode =>
      exact ⟨alike_monitorExit s nodeId record pid returncode,
        (lifecycleLock_monitorExit nodeId record pid returncode).trans hidle⟩
  | handled => exact ⟨alike_adjustRecord fun _ => rfl, hidle⟩
  | line nodeId stream text record pid => exact ⟨alike_line s nodeId pid stream text, hidle⟩
  | outputEnded nodeId stream =>
      refine ⟨alike_adjustRecord ?_, hidle⟩
      intro record
      cases stream <;> rfl
  | clearArchivedLogs => cases hown

theorem Alike.empty_iff (h : Alike s t) : t.records.items = [] ↔ s.records.items = [] := by
  rw [← Dict.get?_none_iff, ← Dict.get?_none_iff]
  refine forall_congr' fun nodeId => ?_
  have hfixed := h.records nodeId
  constructor
  · intro hnone
    rw [hnone, Option.map_none] at hfixed
    exact Option.map_eq_none_iff.mp hfixed.symm
  · intro hnone
    rw [hnone, Option.map_none] at hfixed
    exact Option.map_eq_none_iff.mp hfixed

/-! ## A stop -/

/-- A stop is under way, or it is over and there are no records. -/
def Ending (s : NativeProcessSupervisor) : Prop :=
  match s.lifecycleLock with
  | .idle => s.records.items = []
  | .spawning _ _ _ _ => False
  | _ => True

theorem ending_stopUnlocked (s : NativeProcessSupervisor) : Ending s.stopUnlocked := by
  unfold stopUnlocked
  split
  · assumption
  · trivial

theorem ending_drainRecords (remaining : List String) : Ending (s.drainRecords remaining) := by
  unfold drainRecords
  split
  · exact rfl
  · trivial

theorem Ending.congr (h : Ending s) (hempty : s.records.items = [] → t.records.items = [])
    (hlock : t.lifecycleLock = s.lifecycleLock) : Ending t := by
  unfold Ending at h ⊢
  rw [hlock]
  split at h
  · exact hempty h
  · exact h
  · trivial

theorem Ending.own (h : Ending s) {a : Action} (hown : a.isOwn = true)
    (hstep : step config s a = some t) : Ending t := by
  have hspawns : ∀ {erase hardwareIds nodeId rest},
      s.lifecycleLock ≠ .spawning erase hardwareIds nodeId rest := by
    intro erase hardwareIds nodeId rest hpc
    simp only [Ending, hpc] at h
  cases step_move hstep with
  | allocated => cases hown
  | startRaised => cases hown
  | start => cases hown
  | spawned captured erase hardwareIds nodeId rest record hpc => exact absurd hpc hspawns
  | spawnRaised erase hardwareIds nodeId rest hpc => exact absurd hpc hspawns
  | stop => cases hown
  | childrenExited => exact ending_drainRecords _
  | timedOut => trivial
  | drained nodeId rest => exact ending_drainRecords rest
  | cancelled => cases hown
  | exited => exact h.congr id rfl
  | monitor nodeId record pid child returncode =>
      exact h.congr (alike_monitorExit s nodeId record pid returncode).empty_iff.mpr
        (lifecycleLock_monitorExit nodeId record pid returncode)
  | handled nodeId =>
      have halike : Alike s (s.adjustRecord nodeId (·.endMonitor)) :=
        alike_adjustRecord fun _ => rfl
      exact h.congr halike.empty_iff.mpr rfl
  | line nodeId stream text record pid =>
      exact h.congr (alike_line s nodeId pid stream text).empty_iff.mpr rfl
  | outputEnded nodeId stream =>
      refine h.congr (Alike.empty_iff (alike_adjustRecord ?_)).mpr rfl
      intro record
      cases stream <;> rfl
  | clearArchivedLogs => cases hown

/-! ## All invariants -/

/-- What holds of a supervisor in every run without a cancellation. -/
structure Tended (s : NativeProcessSupervisor) : Prop where
  whole : Whole s
  supervised : Supervised s
  reported : Reported s
  watched : Watched s
  signalled : Signalled s
  phased : Phased s

theorem Tended.step (h : Tended s) {a : Action} (huncancelled : Uncancelled s a)
    (hstep : step config s a = some t) : Tended t := by
  obtain ⟨hreported, hwatched⟩ := reported_step h.reported h.watched h.phased h.supervised hstep
  obtain ⟨hsignalled, hphased⟩ := signalled_step h.signalled h.phased h.supervised hstep
  exact ⟨h.whole.step h.supervised huncancelled hstep, h.supervised.step hstep, hreported,
    hwatched, hsignalled, hphased⟩

theorem tended_new : Tended new where
  whole := ⟨rfl, .inl rfl⟩
  supervised := supervised_new
  reported := reported_new.1
  watched := reported_new.2
  signalled := signalled_new.1
  phased := signalled_new.2

theorem uncancelled_of_isOwn {a : Action} (hown : a.isOwn = true) : Uncancelled s a := by
  cases a <;> first | rfl | cases hown

/-- Without records no child runs. -/
theorem Tended.exited (h : Tended s) (hrecords : s.records.items = []) :
    ∀ child ∈ s.children, child.returncode ≠ none := by
  intro child hmember hrunning
  obtain ⟨pid, hchild⟩ := List.mem_iff_getElem?.mp hmember
  obtain ⟨record, hrecord, _⟩ := h.supervised.owner pid child hchild hrunning
  simp [Dict.get?, hrecords] at hrecord

/-- Every node has its child, which runs or has exited without the monitor knowing yet. -/
structure Watching (s : NativeProcessSupervisor) (nodeId : String) : Prop where
  record : ∃ record, s.records.get? nodeId = some record ∧ record.state = .running ∧
    record.exitTask = .waiting ∧ ∃ pid, ∃ child ∈ s.children[pid]?,
      record.process = some pid ∧ child.nodeId = nodeId

/-- With a free lock and without a failure, every node of the last start is watched. -/
theorem Tended.watching (h : Tended s) (hidle : s.lifecycleLock = .idle)
    (hrecords : s.records.items ≠ []) (hunfailed : Unfailed s) :
    ∀ nodeId ∈ s.requested, Watching s nodeId := by
  intro nodeId hmember
  have hwhole := h.whole
  simp only [Whole, hidle] at hwhole
  obtain ⟨hkeys, hup⟩ := hwhole.whole.resolve_left hrecords
  rw [← hkeys, Dict.mem_keys, Dict.contains, Option.isSome_iff_exists] at hmember
  obtain ⟨record, hrecord⟩ := hmember
  obtain ⟨hprocess, hstate⟩ := hup nodeId record hrecord
  have hcalm := hunfailed nodeId record hrecord
  have hwaiting := (h.watched hwhole.calm nodeId record hrecord hprocess).resolve_right hcalm
  obtain ⟨pid, hpid⟩ := Option.isSome_iff_exists.mp hprocess
  obtain ⟨child, hchild, hnode⟩ := h.supervised.child nodeId record pid hrecord hpid
  exact ⟨record, hrecord, hstate.resolve_right hcalm, hwaiting, pid, child, hchild, hpid, hnode⟩

end NativeProcessSupervisor

end MeshtasticLab.Runtime

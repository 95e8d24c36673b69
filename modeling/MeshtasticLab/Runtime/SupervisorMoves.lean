/-
  Runtime/SupervisorMoves.lean --- what one step of a supervisor does.

  The steps are inverted once, with the guards that held.  Most of them change records
  and children in place; what such a step keeps is stated once (`Alike`).
-/
import MeshtasticLab.Runtime.Supervisor

set_option autoImplicit false

namespace MeshtasticLab.Runtime

open MeshtasticLab.Foundation MeshtasticLab.Gateway MeshtasticLab.Models

/-- What a record keeps while it is there. -/
def ProcessRecord.fixed (record : ProcessRecord) : String × Nat × Nat × String × Option Nat :=
  (record.nodeId, record.hardwareId, record.internalPort, record.dataDirectory, record.process)

/-- What a child keeps. -/
def ChildProcess.fixed (child : ChildProcess) : String × List String :=
  (child.nodeId, child.command)

/-- The lock is free, or its holder waits for children. -/
def SupervisorPc.isQuiet : SupervisorPc → Bool
  | .idle => true
  | .terminating => true
  | .killing => true
  | _ => false

namespace NativeProcessSupervisor

variable {config : SupervisorConfig} {s t : NativeProcessSupervisor}

/-! ## What one step does -/

/-- The steps of a supervisor, with the guards that held. -/
inductive Move (config : SupervisorConfig) (s : NativeProcessSupervisor) :
    Action → NativeProcessSupervisor → Prop
  | allocated (scenario : Scenario) (raises : Bool) (hpc : s.lifecycleLock = .idle)
      (hrecords : s.records.items ≠ []) : Move config s (.start scenario raises) s
  | startRaised (scenario : Scenario) (hpc : s.lifecycleLock = .idle)
      (hrecords : s.records.items = []) :
      Move config s (.start scenario true) s.clearArchivedLogs
  | start (scenario : Scenario) (hardwareIds : Dict String Nat)
      (hpc : s.lifecycleLock = .idle) (hvalid : scenario.validateGraph = .ok ())
      (hrecords : s.records.items = [])
      (hids : hardwareIdsFor config.sha256 config.fuel scenario.nodeIds = some hardwareIds) :
      Move config s (.start scenario false)
        (launchNext config
          { s.clearArchivedLogs with stopping := false, requested := scenario.nodeIds }
          scenario.freshState hardwareIds scenario.nodeIds.zipIdx)
  | spawned (captured erase : Bool) (hardwareIds : Dict String Nat) (nodeId : String)
      (rest : List (String × Nat)) (record : ProcessRecord)
      (hpc : s.lifecycleLock = .spawning erase hardwareIds nodeId rest)
      (hrecord : s.records.get? nodeId = some record) :
      Move config s (.spawned captured)
        (spawned config s captured erase hardwareIds nodeId record rest)
  | spawnRaised (erase : Bool) (hardwareIds : Dict String Nat) (nodeId : String)
      (rest : List (String × Nat))
      (hpc : s.lifecycleLock = .spawning erase hardwareIds nodeId rest) :
      Move config s .spawnRaised s.stopUnlocked
  | stop (hpc : s.lifecycleLock = .idle) : Move config s .stop s.stopUnlocked
  | childrenExited (hpc : s.lifecycleLock = .terminating ∨ s.lifecycleLock = .killing)
      (hexited : s.allExited = true) :
      Move config s .childrenExited (s.drainRecords s.records.keys)
  | timedOut (hpc : s.lifecycleLock = .terminating) : Move config s .timedOut s.forceKill
  | drained (nodeId : String) (rest : List String) (record : ProcessRecord)
      (hpc : s.lifecycleLock = .draining (nodeId :: rest))
      (hrecord : s.records.get? nodeId = some record) :
      Move config s .drained ((s.drainRecord nodeId record).drainRecords rest)
  | cancelled (hpc : s.lifecycleLock ≠ .idle) :
      Move config s .cancelled { s with lifecycleLock := .idle }
  | exited (pid : Nat) (returncode : Int) (child : ChildProcess)
      (hchild : s.children[pid]? = some child) (halive : child.returncode = none) :
      Move config s (.exited pid returncode)
        (s.adjustChild pid fun child => { child with returncode := some returncode })
  | monitor (nodeId : String) (record : ProcessRecord) (pid : Nat) (child : ChildProcess)
      (returncode : Int) (hrecord : s.records.get? nodeId = some record)
      (htask : record.exitTask = .waiting) (hprocess : record.process = some pid)
      (hchild : s.children[pid]? = some child) (hexited : child.returncode = some returncode) :
      Move config s (.monitor nodeId) (s.monitorExit nodeId record pid returncode)
  | handled (nodeId : String) (record : ProcessRecord)
      (hrecord : s.records.get? nodeId = some record) (htask : record.exitTask = .reporting) :
      Move config s (.handled nodeId)
        (s.adjustRecord nodeId (·.endMonitor))
  | line (nodeId : String) (stream : OutputStream) (text : String) (record : ProcessRecord)
      (pid : Nat) (hrecord : s.records.get? nodeId = some record)
      (htask : record.drains stream = true) (hprocess : record.process = some pid) :
      Move config s (.line nodeId stream text)
        ((s.adjustRecord nodeId (·.recordLine stream text)).adjustChild pid
          (·.read stream text))
  | outputEnded (nodeId : String) (stream : OutputStream) (record : ProcessRecord)
      (hrecord : s.records.get? nodeId = some record) (htask : record.drains stream = true) :
      Move config s (.outputEnded nodeId stream) (s.adjustRecord nodeId (·.endDrain stream))
  | clearArchivedLogs : Move config s .clearArchivedLogs s.clearArchivedLogs

private theorem of_guarded {c : Prop} [Decidable c] {u v : NativeProcessSupervisor}
    (hstep : (if c then some u else none) = some v) : c ∧ u = v := by
  obtain ⟨hguard, heq⟩ := Option.ite_none_right_eq_some.mp hstep
  exact ⟨hguard, Option.some.inj heq⟩

theorem step_move {a : Action} (hstep : step config s a = some t) : Move config s a t := by
  cases a with
  | start scenario raises =>
      obtain ⟨⟨hpc, hvalid⟩, hstart⟩ := Option.ite_none_right_eq_some.mp hstep
      unfold startUnlocked at hstart
      split at hstart
      · next hrecords =>
          cases hstart
          exact .allocated scenario raises hpc hrecords
      · next hrecords =>
          rw [not_not] at hrecords
          split at hstart
          · next hraises =>
              cases hstart
              rw [hraises]
              exact .startRaised scenario hpc hrecords
          · next hraises =>
              obtain ⟨hardwareIds, hids, rfl⟩ := Option.map_eq_some_iff.mp hstart
              rw [Bool.not_eq_true] at hraises
              rw [hraises]
              exact .start scenario hardwareIds hpc hvalid hrecords hids
  | spawned captured =>
      simp only [step] at hstep
      split at hstep
      · next erase hardwareIds nodeId rest hpc =>
          obtain ⟨record, hrecord, rfl⟩ := Option.map_eq_some_iff.mp hstep
          exact .spawned captured erase hardwareIds nodeId rest record hpc hrecord
      · cases hstep
  | spawnRaised =>
      simp only [step] at hstep
      split at hstep
      · next erase hardwareIds nodeId rest hpc =>
          cases hstep
          exact .spawnRaised erase hardwareIds nodeId rest hpc
      · cases hstep
  | stop =>
      obtain ⟨hpc, rfl⟩ := of_guarded hstep
      exact .stop hpc
  | childrenExited =>
      obtain ⟨⟨hpc, hexited⟩, rfl⟩ := of_guarded hstep
      exact .childrenExited hpc hexited
  | timedOut =>
      obtain ⟨hpc, rfl⟩ := of_guarded hstep
      exact .timedOut hpc
  | drained =>
      simp only [step] at hstep
      split at hstep
      · next nodeId rest hpc =>
          obtain ⟨record, hrecord, rfl⟩ := Option.map_eq_some_iff.mp hstep
          exact .drained nodeId rest record hpc hrecord
      · cases hstep
  | cancelled =>
      obtain ⟨hpc, rfl⟩ := of_guarded hstep
      exact .cancelled hpc
  | exited pid returncode =>
      simp only [step, bind, Option.bind_eq_some_iff, Option.guard_eq_some'] at hstep
      obtain ⟨child, hchild, _, halive, heq⟩ := hstep
      cases heq
      exact .exited pid returncode child hchild halive
  | monitor nodeId =>
      simp only [step, bind, Option.bind_eq_some_iff, Option.guard_eq_some'] at hstep
      obtain ⟨record, hrecord, _, htask, pid, hprocess, child, hchild, returncode, hexited,
        heq⟩ := hstep
      cases heq
      exact .monitor nodeId record pid child returncode hrecord htask hprocess hchild hexited
  | handled nodeId =>
      simp only [step, bind, Option.bind_eq_some_iff, Option.guard_eq_some'] at hstep
      obtain ⟨record, hrecord, _, htask, heq⟩ := hstep
      cases heq
      exact .handled nodeId record hrecord htask
  | line nodeId stream text =>
      simp only [step, bind, Option.bind_eq_some_iff, Option.guard_eq_some'] at hstep
      obtain ⟨record, hrecord, _, htask, pid, hprocess, heq⟩ := hstep
      cases heq
      exact .line nodeId stream text record pid hrecord htask hprocess
  | outputEnded nodeId stream =>
      simp only [step, bind, Option.bind_eq_some_iff, Option.guard_eq_some'] at hstep
      obtain ⟨record, hrecord, _, htask, heq⟩ := hstep
      cases heq
      exact .outputEnded nodeId stream record hrecord htask
  | clearArchivedLogs =>
      cases hstep
      exact .clearArchivedLogs

/-! ## What stays of a record and of a child -/

/-- The same records and children, up to what changes while they are there; no child that
has exited runs again. -/
structure Alike (s t : NativeProcessSupervisor) : Prop where
  records : ∀ nodeId, (t.records.get? nodeId).map ProcessRecord.fixed =
    (s.records.get? nodeId).map ProcessRecord.fixed
  children : ∀ pid : Nat, t.children[pid]?.map ChildProcess.fixed =
    s.children[pid]?.map ChildProcess.fixed
  alive : ∀ (pid : Nat) child, t.children[pid]? = some child → child.returncode = none →
    ∃ before, s.children[pid]? = some before ∧ before.returncode = none
  requested : t.requested = s.requested

theorem Alike.refl (s : NativeProcessSupervisor) : Alike s s where
  records _ := rfl
  children _ := rfl
  alive _ child hchild halive := ⟨child, hchild, halive⟩
  requested := rfl

theorem Alike.trans {u : NativeProcessSupervisor} (hfirst : Alike s t) (hsecond : Alike t u) :
    Alike s u where
  records nodeId := (hsecond.records nodeId).trans (hfirst.records nodeId)
  children pid := (hsecond.children pid).trans (hfirst.children pid)
  alive pid child hchild halive := by
    obtain ⟨between, hbetween, hrunning⟩ := hsecond.alive pid child hchild halive
    exact hfirst.alive pid between hbetween hrunning
  requested := hsecond.requested.trans hfirst.requested

/-- Only the records, the children and the nodes of the last start count. -/
theorem Alike.congr {u : NativeProcessSupervisor} (h : Alike s t)
    (hrecords : u.records = t.records) (hchildren : u.children = t.children)
    (hrequested : u.requested = t.requested) : Alike s u where
  records nodeId := by rw [hrecords, h.records]
  children pid := by rw [hchildren, h.children]
  alive pid child := by
    rw [hchildren]
    exact h.alive pid child
  requested := hrequested.trans h.requested

theorem alike_mapRecords {f : String → ProcessRecord → ProcessRecord}
    (hf : ∀ id record, (f id record).fixed = record.fixed) : Alike s (s.mapRecords f) where
  records nodeId := by
    unfold mapRecords
    rw [Dict.get?_mapValues, Option.map_map]
    congr 1
    funext record
    exact hf nodeId record
  children _ := rfl
  alive _ child hchild halive := ⟨child, hchild, halive⟩
  requested := rfl

theorem alike_mapChildren {f : Nat → ChildProcess → ChildProcess}
    (hf : ∀ pid child, (f pid child).fixed = child.fixed)
    (halive : ∀ pid child, (f pid child).returncode = none → child.returncode = none) :
    Alike s (s.mapChildren f) where
  records _ := rfl
  children pid := by
    unfold mapChildren
    rw [List.getElem?_mapIdx, Option.map_map]
    congr 1
    funext child
    exact hf pid child
  alive pid child hchild hrunning := by
    unfold mapChildren at hchild
    rw [List.getElem?_mapIdx] at hchild
    obtain ⟨before, hbefore, rfl⟩ := Option.map_eq_some_iff.mp hchild
    exact ⟨before, hbefore, halive pid before hrunning⟩
  requested := rfl

theorem alike_adjustRecord {nodeId : String} {f : ProcessRecord → ProcessRecord}
    (hf : ∀ record, (f record).fixed = record.fixed) : Alike s (s.adjustRecord nodeId f) := by
  apply alike_mapRecords
  intro id record
  split
  · exact hf record
  · rfl

theorem alike_adjustChild {pid : Nat} {f : ChildProcess → ChildProcess}
    (hf : ∀ child, (f child).fixed = child.fixed)
    (halive : ∀ child, (f child).returncode = none → child.returncode = none) :
    Alike s (s.adjustChild pid f) := by
  apply alike_mapChildren
  · intro i child
    split
    · exact hf child
    · rfl
  · intro i child
    split
    · exact halive child
    · exact id

theorem alike_signalAlive (s : NativeProcessSupervisor) (signal : Signal) :
    Alike s (s.signalAlive signal) := by
  apply alike_mapChildren
  · intro pid child
    split
    · rfl
    · rfl
  · intro pid child
    split
    · exact id
    · exact id

theorem alike_markStopping (s : NativeProcessSupervisor) : Alike s s.markStopping := by
  apply alike_mapRecords
  intro id record
  split
  · rfl
  · rfl

theorem alike_stopUnlocked (s : NativeProcessSupervisor) : Alike s s.stopUnlocked := by
  unfold stopUnlocked
  split
  · exact (Alike.refl s).congr rfl rfl rfl
  · exact ((alike_markStopping s).trans (alike_signalAlive _ .terminate)).congr rfl rfl rfl

theorem alike_drainRecord (s : NativeProcessSupervisor) (nodeId : String)
    (record : ProcessRecord) : Alike s (s.drainRecord nodeId record) :=
  Alike.congr (t := s.adjustRecord nodeId (·.release)) (alike_adjustRecord fun _ => rfl) rfl rfl
    rfl

theorem alike_monitorExit (s : NativeProcessSupervisor) (nodeId : String)
    (record : ProcessRecord) (pid : Nat) (returncode : Int) :
    Alike s (s.monitorExit nodeId record pid returncode) := by
  unfold monitorExit
  split
  · exact alike_adjustRecord fun _ => rfl
  · exact Alike.congr (t := s.adjustRecord nodeId (·.fail)) (alike_adjustRecord fun _ => rfl)
      rfl rfl rfl

theorem alike_line (s : NativeProcessSupervisor) (nodeId : String) (pid : Nat)
    (stream : OutputStream) (text : String) :
    Alike s ((s.adjustRecord nodeId (·.recordLine stream text)).adjustChild pid
      (·.read stream text)) := by
  refine Alike.trans (alike_adjustRecord ?_) (alike_adjustChild ?_ ?_)
  · intro record
    cases stream <;> rfl
  · intro child
    cases stream <;> rfl
  · intro child
    cases stream <;> exact id

/-- The steps that are not just changes in place: a start, a spawn, the end of the wait for
the children and the end of the drain of a record. -/
inductive Reshapes (config : SupervisorConfig) (s : NativeProcessSupervisor) :
    NativeProcessSupervisor → Prop
  | start (scenario : Scenario) (hardwareIds : Dict String Nat)
      (hvalid : scenario.validateGraph = .ok ()) (hrecords : s.records.items = [])
      (hids : hardwareIdsFor config.sha256 config.fuel scenario.nodeIds = some hardwareIds) :
      Reshapes config s
        (launchNext config
          { s.clearArchivedLogs with stopping := false, requested := scenario.nodeIds }
          scenario.freshState hardwareIds scenario.nodeIds.zipIdx)
  | spawned (captured erase : Bool) (hardwareIds : Dict String Nat) (nodeId : String)
      (rest : List (String × Nat)) (record : ProcessRecord)
      (hpc : s.lifecycleLock = .spawning erase hardwareIds nodeId rest)
      (hrecord : s.records.get? nodeId = some record) :
      Reshapes config s (spawned config s captured erase hardwareIds nodeId record rest)
  | childrenExited (hexited : s.allExited = true) :
      Reshapes config s (s.drainRecords s.records.keys)
  | drained (nodeId : String) (rest : List String) (record : ProcessRecord)
      (hpc : s.lifecycleLock = .draining (nodeId :: rest))
      (hrecord : s.records.get? nodeId = some record) :
      Reshapes config s ((s.drainRecord nodeId record).drainRecords rest)

theorem quiet_stopUnlocked (s : NativeProcessSupervisor) :
    s.stopUnlocked.lifecycleLock.isQuiet = true := by
  unfold stopUnlocked
  split
  · rfl
  · rfl

/-- All other steps leave the records and children alike, and make the holder of the lock
wait at most. -/
theorem Move.reshapes_or_alike {a : Action} (hmove : Move config s a t) :
    Reshapes config s t ∨
      (Alike s t ∧ (t.lifecycleLock = s.lifecycleLock ∨ t.lifecycleLock.isQuiet = true)) := by
  cases hmove with
  | allocated => exact .inr ⟨.refl s, .inl rfl⟩
  | startRaised => exact .inr ⟨(Alike.refl s).congr rfl rfl rfl, .inl rfl⟩
  | start scenario hardwareIds _ hvalid hrecords hids =>
      exact .inl (.start scenario hardwareIds hvalid hrecords hids)
  | spawned captured erase hardwareIds nodeId rest record hpc hrecord =>
      exact .inl (.spawned captured erase hardwareIds nodeId rest record hpc hrecord)
  | spawnRaised => exact .inr ⟨alike_stopUnlocked s, .inr (quiet_stopUnlocked s)⟩
  | stop => exact .inr ⟨alike_stopUnlocked s, .inr (quiet_stopUnlocked s)⟩
  | childrenExited _ hexited => exact .inl (.childrenExited hexited)
  | timedOut => exact .inr ⟨(alike_signalAlive s .kill).congr rfl rfl rfl, .inr rfl⟩
  | drained nodeId rest record hpc hrecord =>
      exact .inl (.drained nodeId rest record hpc hrecord)
  | cancelled => exact .inr ⟨(Alike.refl s).congr rfl rfl rfl, .inr rfl⟩
  | exited pid returncode =>
      refine .inr ⟨alike_adjustChild (fun _ => rfl) ?_, .inl rfl⟩
      intro child hrunning
      cases hrunning
  | monitor nodeId record pid child returncode =>
      refine .inr ⟨alike_monitorExit s nodeId record pid returncode, .inl ?_⟩
      unfold monitorExit
      split
      · rfl
      · rfl
  | handled => exact .inr ⟨alike_adjustRecord fun _ => rfl, .inl rfl⟩
  | line nodeId stream text record pid =>
      exact .inr ⟨alike_line s nodeId pid stream text, .inl rfl⟩
  | outputEnded nodeId stream =>
      refine .inr ⟨alike_adjustRecord ?_, .inl rfl⟩
      intro record
      cases stream <;> rfl
  | clearArchivedLogs => exact .inr ⟨(Alike.refl s).congr rfl rfl rfl, .inl rfl⟩

theorem Alike.record (h : Alike s t) {nodeId : String} {record : ProcessRecord}
    (hrecord : t.records.get? nodeId = some record) :
    ∃ before, s.records.get? nodeId = some before ∧ record.fixed = before.fixed := by
  have hfixed := h.records nodeId
  rw [hrecord, Option.map_some] at hfixed
  obtain ⟨before, hbefore, hsame⟩ := Option.map_eq_some_iff.mp hfixed.symm
  exact ⟨before, hbefore, hsame.symm⟩

theorem Alike.record_after (h : Alike s t) {nodeId : String} {record : ProcessRecord}
    (hrecord : s.records.get? nodeId = some record) :
    ∃ after, t.records.get? nodeId = some after ∧ after.fixed = record.fixed := by
  have hfixed := h.records nodeId
  rw [hrecord, Option.map_some] at hfixed
  exact Option.map_eq_some_iff.mp hfixed

theorem Alike.child_after (h : Alike s t) {pid : Nat} {child : ChildProcess}
    (hchild : s.children[pid]? = some child) :
    ∃ after, t.children[pid]? = some after ∧ after.fixed = child.fixed := by
  have hfixed := h.children pid
  rw [hchild, Option.map_some] at hfixed
  exact Option.map_eq_some_iff.mp hfixed

/-- The fixed part of a record, field by field. -/
theorem fixed_eq {record other : ProcessRecord} :
    record.fixed = other.fixed ↔
      record.nodeId = other.nodeId ∧ record.hardwareId = other.hardwareId ∧
        record.internalPort = other.internalPort ∧
        record.dataDirectory = other.dataDirectory ∧ record.process = other.process := by
  simp [ProcessRecord.fixed]

end NativeProcessSupervisor

end MeshtasticLab.Runtime

/-
  Runtime/Failures.lean --- the reports of a supervisor about children that exited.

  The monitor of a child reports its exit unless a stop has begun.  So no exit is
  reported twice or with another code, the records that are FAILED are those whose child
  was reported, and an exit that was not reported yet still will be, until a stop begins.
-/
import MeshtasticLab.Runtime.Children

set_option autoImplicit false

namespace MeshtasticLab.Runtime

open MeshtasticLab.Foundation MeshtasticLab.Gateway MeshtasticLab.Models

namespace NativeProcessSupervisor

variable {config : SupervisorConfig} {s t : NativeProcessSupervisor}

/-- The children that were reported. -/
def reported (s : NativeProcessSupervisor) : List Nat := s.failures.map Prod.fst

/-- The reports are about exits, and no child is reported twice; a record is FAILED when its
child was reported, and a monitor waits only for others. -/
structure Reported (s : NativeProcessSupervisor) : Prop where
  told : ∀ report ∈ s.failures, ∃ child ∈ s.children[report.1]?,
    child.nodeId = report.2.1 ∧ child.returncode = some report.2.2
  once : s.reported.Nodup
  failed : ∀ nodeId record, s.records.get? nodeId = some record →
    (record.state = .failed ↔ ∃ pid ∈ s.reported, record.process = some pid)
  waiting : ∀ nodeId record, s.records.get? nodeId = some record →
    record.exitTask = .waiting → record.state ≠ .failed

/-- Without a stop every child of a record is monitored or was reported. -/
def Watched (s : NativeProcessSupervisor) : Prop :=
  s.stopping = false → ∀ nodeId record, s.records.get? nodeId = some record →
    record.process.isSome = true → record.exitTask = .waiting ∨ record.state = .failed

theorem watched_of_stopping (hstop : s.stopping = true) : Watched s := by
  intro hcalm
  rw [hstop] at hcalm
  cases hcalm

theorem Reported.congr (h : Reported s) (hrecords : t.records = s.records)
    (hchildren : t.children = s.children) (hfailures : t.failures = s.failures) :
    Reported t := by
  constructor
  · rw [hfailures, hchildren]
    exact h.told
  · rw [reported, hfailures]
    exact h.once
  · rw [hrecords, reported, hfailures]
    exact h.failed
  · rw [hrecords]
    exact h.waiting

theorem Watched.congr (h : Watched s) (hrecords : t.records = s.records)
    (hstopping : t.stopping = s.stopping) : Watched t := by
  unfold Watched
  rw [hrecords, hstopping]
  exact h

/-- A child that was reported has exited. -/
theorem Reported.exited (h : Reported s) {pid : Nat} (hreported : pid ∈ s.reported) :
    ∃ child ∈ s.children[pid]?, child.returncode ≠ none := by
  obtain ⟨report, hmember, rfl⟩ := List.mem_map.mp hreported
  obtain ⟨child, hchild, _, hcode⟩ := h.told report hmember
  exact ⟨child, hchild, by rw [hcode]; exact Option.some_ne_none _⟩

/-! ## Changes in place -/

/-- Records and children change in place: processes stay, no record fails or recovers, no
monitor starts, and how a child has exited stays. -/
structure Steady (s t : NativeProcessSupervisor) : Prop where
  records : ∀ nodeId record, t.records.get? nodeId = some record →
    ∃ before, s.records.get? nodeId = some before ∧ record.process = before.process ∧
      (record.state = .failed ↔ before.state = .failed) ∧
      (record.exitTask = .waiting → before.exitTask = .waiting)
  children : ∀ (pid : Nat) child, s.children[pid]? = some child → child.returncode ≠ none →
    ∃ after, t.children[pid]? = some after ∧ after.nodeId = child.nodeId ∧
      after.returncode = child.returncode
  failures : t.failures = s.failures

theorem Reported.steady (h : Reported s) (hsteady : Steady s t) : Reported t := by
  have hreported : t.reported = s.reported := congrArg (List.map Prod.fst) hsteady.failures
  refine ⟨?_, ?_, ?_, ?_⟩
  · intro report hmember
    rw [hsteady.failures] at hmember
    obtain ⟨child, hchild, hnode, hcode⟩ := h.told report hmember
    obtain ⟨after, hafter, hsame, hkept⟩ :=
      hsteady.children report.1 child hchild (by rw [hcode]; exact Option.some_ne_none _)
    exact ⟨after, hafter, hsame.trans hnode, hkept.trans hcode⟩
  · rw [hreported]
    exact h.once
  · intro nodeId record hrecord
    obtain ⟨before, hbefore, hprocess, hstate, _⟩ := hsteady.records nodeId record hrecord
    rw [hreported, hprocess, hstate]
    exact h.failed nodeId before hbefore
  · intro nodeId record hrecord hwaiting
    obtain ⟨before, hbefore, _, hstate, htask⟩ := hsteady.records nodeId record hrecord
    rw [Ne, hstate]
    exact h.waiting nodeId before hbefore (htask hwaiting)

theorem steady_records (s : NativeProcessSupervisor) :
    ∀ nodeId record, s.records.get? nodeId = some record →
      ∃ before, s.records.get? nodeId = some before ∧ record.process = before.process ∧
        (record.state = .failed ↔ before.state = .failed) ∧
        (record.exitTask = .waiting → before.exitTask = .waiting) :=
  fun _ record hrecord => ⟨record, hrecord, rfl, Iff.rfl, id⟩

theorem steady_children (s : NativeProcessSupervisor) :
    ∀ (pid : Nat) child, s.children[pid]? = some child → child.returncode ≠ none →
      ∃ after, s.children[pid]? = some after ∧ after.nodeId = child.nodeId ∧
        after.returncode = child.returncode :=
  fun _ child hchild _ => ⟨child, hchild, rfl, rfl⟩

theorem steady_adjustRecord {nodeId : String} {f : ProcessRecord → ProcessRecord}
    (hf : ∀ record, (f record).process = record.process ∧
      ((f record).state = .failed ↔ record.state = .failed) ∧
      ((f record).exitTask = .waiting → record.exitTask = .waiting)) :
    Steady s (s.adjustRecord nodeId f) where
  records other record hrecord := by
    simp only [adjustRecord, mapRecords, Dict.get?_mapValues] at hrecord
    obtain ⟨before, hbefore, rfl⟩ := Option.map_eq_some_iff.mp hrecord
    refine ⟨before, hbefore, ?_⟩
    split
    · exact hf before
    · exact ⟨rfl, Iff.rfl, id⟩
  children := steady_children s
  failures := rfl

theorem steady_mapChildren {f : Nat → ChildProcess → ChildProcess}
    (hf : ∀ pid child, child.returncode ≠ none → (f pid child).nodeId = child.nodeId ∧
      (f pid child).returncode = child.returncode) : Steady s (s.mapChildren f) where
  records := steady_records s
  children pid child hchild hexited := by
    refine ⟨f pid child, ?_, hf pid child hexited⟩
    simp [mapChildren, List.getElem?_mapIdx, hchild]
  failures := rfl

theorem Steady.trans {u : NativeProcessSupervisor} (hfirst : Steady s t)
    (hsecond : Steady t u) : Steady s u where
  records nodeId record hrecord := by
    obtain ⟨between, hbetween, hprocess, hstate, htask⟩ := hsecond.records nodeId record hrecord
    obtain ⟨before, hbefore, hprocess₂, hstate₂, htask₂⟩ := hfirst.records nodeId between hbetween
    exact ⟨before, hbefore, hprocess.trans hprocess₂, hstate.trans hstate₂, htask₂ ∘ htask⟩
  children pid child hchild hexited := by
    obtain ⟨between, hbetween, hnode, hcode⟩ := hfirst.children pid child hchild hexited
    obtain ⟨after, hafter, hnode₂, hcode₂⟩ :=
      hsecond.children pid between hbetween (by rw [hcode]; exact hexited)
    exact ⟨after, hafter, hnode₂.trans hnode, hcode₂.trans hcode⟩
  failures := hsecond.failures.trans hfirst.failures

theorem steady_signalAlive (s : NativeProcessSupervisor) (signal : Signal) :
    Steady s (s.signalAlive signal) := by
  apply steady_mapChildren
  intro pid child _
  split
  · exact ⟨rfl, rfl⟩
  · exact ⟨rfl, rfl⟩

theorem steady_line (s : NativeProcessSupervisor) (nodeId : String) (pid : Nat)
    (stream : OutputStream) (text : String) :
    Steady s ((s.adjustRecord nodeId (·.recordLine stream text)).adjustChild pid
      (·.read stream text)) := by
  refine (steady_adjustRecord (f := (·.recordLine stream text)) ?_).trans
    (steady_mapChildren ?_)
  · intro record
    cases stream <;> exact ⟨rfl, Iff.rfl, id⟩
  · intro i child _
    split
    · cases stream <;> exact ⟨rfl, rfl⟩
    · exact ⟨rfl, rfl⟩

/-! ## Stop -/

/-- A record whose child is alive is not FAILED. -/
theorem Reported.not_failed_of_isAlive (h : Reported s) {nodeId : String}
    {record : ProcessRecord} (hrecord : s.records.get? nodeId = some record)
    (halive : s.isAlive record = true) : record.state ≠ .failed := by
  intro hfailed
  obtain ⟨pid, hreported, hprocess⟩ := (h.failed nodeId record hrecord).mp hfailed
  obtain ⟨child, hchild, hexited⟩ := h.exited hreported
  rw [Option.mem_def] at hchild
  simp only [isAlive, hprocess, Option.bind_some, hchild, Option.isNone_iff_eq_none] at halive
  exact hexited halive

theorem Reported.steady_markStopping (h : Reported s) : Steady s s.markStopping where
  records nodeId record hrecord := by
    simp only [markStopping, mapRecords, Dict.get?_mapValues] at hrecord
    obtain ⟨before, hbefore, rfl⟩ := Option.map_eq_some_iff.mp hrecord
    refine ⟨before, hbefore, ?_⟩
    split
    · next halive =>
        have hnot := h.not_failed_of_isAlive hbefore halive
        exact ⟨rfl, by simpa using hnot, id⟩
    · exact ⟨rfl, Iff.rfl, id⟩
  children := steady_children s
  failures := rfl

theorem reported_stopUnlocked (h : Reported s) : Reported s.stopUnlocked := by
  unfold stopUnlocked
  split
  · exact h.congr rfl rfl rfl
  · have hmarked := h.steady h.steady_markStopping
    exact (hmarked.steady (steady_signalAlive _ .terminate)).congr rfl rfl rfl

theorem watched_stopUnlocked (s : NativeProcessSupervisor) : Watched s.stopUnlocked := by
  unfold stopUnlocked
  split
  · next hempty =>
      intro _ nodeId record hrecord
      simp [Dict.get?, hempty] at hrecord
  · exact watched_of_stopping rfl

theorem reported_drainRecords (h : Reported s) (hstop : s.stopping = true)
    (remaining : List String) :
    Reported (s.drainRecords remaining) ∧ Watched (s.drainRecords remaining) := by
  unfold drainRecords
  split
  · refine ⟨⟨h.told, h.once, ?_, ?_⟩, ?_⟩
    · intro nodeId record hrecord
      cases hrecord
    · intro nodeId record hrecord
      cases hrecord
    · intro _ nodeId record hrecord
      cases hrecord
  · exact ⟨h.congr rfl rfl rfl, watched_of_stopping hstop⟩

/-! ## Start -/

theorem reported_launchNext (h : Reported s) (hwatched : Watched s) {erase : Bool}
    {hardwareIds : Dict String Nat} (nodes : List (String × Nat)) :
    Reported (launchNext config s erase hardwareIds nodes) ∧
      Watched (launchNext config s erase hardwareIds nodes) := by
  cases nodes with
  | nil => exact ⟨h.congr rfl rfl rfl, hwatched.congr rfl rfl⟩
  | cons node rest =>
      obtain ⟨nodeId, index⟩ := node
      simp only [launchNext]
      split
      · exact ⟨reported_stopUnlocked h, watched_stopUnlocked s⟩
      · refine ⟨⟨h.told, h.once, ?_, ?_⟩, ?_⟩
        · intro other record hrecord
          rw [Dict.get?_set] at hrecord
          split at hrecord
          · cases hrecord
            constructor
            · intro hfailed
              cases hfailed
            · rintro ⟨pid, _, hprocess⟩
              cases hprocess
          · exact h.failed other record hrecord
        · intro other record hrecord hwaiting
          rw [Dict.get?_set] at hrecord
          split at hrecord
          · cases hrecord
            cases hwaiting
          · exact h.waiting other record hrecord hwaiting
        · intro hcalm other record hrecord hprocess
          rw [Dict.get?_set] at hrecord
          split at hrecord
          · cases hrecord
            cases hprocess
          · exact hwatched hcalm other record hrecord hprocess

/-- A child that was reported was spawned before. -/
theorem Reported.lt (h : Reported s) {pid : Nat} (hreported : pid ∈ s.reported) :
    pid < s.children.length := by
  obtain ⟨child, hchild, _⟩ := h.exited hreported
  exact (List.getElem?_eq_some_iff.mp hchild).1

/-- The new child has not been reported. -/
theorem Reported.spawn (h : Reported s) {nodeId : String} {child : ChildProcess}
    {f : ProcessRecord → ProcessRecord}
    (hnone : ∃ record, s.records.get? nodeId = some record ∧ record.process = none)
    (hprocess : ∀ record, (f record).process = some s.children.length)
    (hstate : ∀ record, record.state ≠ .failed → (f record).state ≠ .failed)
    (hrecords : t.records = (s.adjustRecord nodeId f).records)
    (hchildren : t.children = s.children ++ [child]) (hfailures : t.failures = s.failures) :
    Reported t := by
  have hreported : t.reported = s.reported := congrArg (List.map Prod.fst) hfailures
  have hget : ∀ other, t.records.get? other = (s.records.get? other).map fun record =>
      if other = nodeId then f record else record := by
    intro other
    rw [hrecords]
    exact Dict.get?_mapValues _ _ _
  -- the record without a process has not failed
  have hfresh : ∀ record, s.records.get? nodeId = some record → record.state ≠ .failed := by
    intro record hrecord hfailed
    obtain ⟨empty, hempty, habsent⟩ := hnone
    rw [hrecord] at hempty
    cases hempty
    obtain ⟨pid, _, hpid⟩ := (h.failed nodeId record hrecord).mp hfailed
    rw [habsent] at hpid
    cases hpid
  refine ⟨?_, ?_, ?_, ?_⟩
  · intro report hmember
    rw [hfailures] at hmember
    obtain ⟨old, hold, hkept⟩ := h.told report hmember
    rw [Option.mem_def] at hold
    refine ⟨old, ?_, hkept⟩
    rw [hchildren, Option.mem_def,
      List.getElem?_append_left (List.getElem?_eq_some_iff.mp hold).1]
    exact hold
  · rw [hreported]
    exact h.once
  · intro other record hrecord
    rw [hget] at hrecord
    obtain ⟨before, hbefore, rfl⟩ := Option.map_eq_some_iff.mp hrecord
    rw [hreported]
    split
    · next hsame =>
        rw [hsame] at hbefore
        constructor
        · intro hfailed
          exact absurd hfailed (hstate before (hfresh before hbefore))
        · rintro ⟨pid, hmember, hpid⟩
          rw [hprocess] at hpid
          cases hpid
          exact absurd (h.lt hmember) (lt_irrefl _)
    · exact h.failed other before hbefore
  · intro other record hrecord hwaiting
    rw [hget] at hrecord
    obtain ⟨before, hbefore, rfl⟩ := Option.map_eq_some_iff.mp hrecord
    split at hwaiting
    · next hsame =>
        rw [if_pos hsame]
        exact hstate before (hfresh before (hsame ▸ hbefore))
    · next hother =>
        rw [if_neg hother]
        exact h.waiting other before hbefore hwaiting

theorem reported_spawned (h : Reported s) (hwatched : Watched s) (hsupervised : Supervised s)
    {captured erase : Bool} {hardwareIds : Dict String Nat} {nodeId : String}
    {rest : List (String × Nat)} {record : ProcessRecord}
    (hpc : s.lifecycleLock = .spawning erase hardwareIds nodeId rest) :
    Reported (spawned config s captured erase hardwareIds nodeId record rest) ∧
      Watched (spawned config s captured erase hardwareIds nodeId record rest) := by
  have hrelies := hsupervised.relies
  rw [hpc] at hrelies
  obtain ⟨hnone, _⟩ := hrelies
  unfold spawned
  dsimp only
  split
  · apply reported_launchNext
    · refine h.spawn (f := fun record => { ProcessRecord.track
        { record with process := some s.children.length } with state := .running })
        hnone (fun _ => rfl) ?_ ?_ rfl rfl
      · intro record _ hfailed
        cases hfailed
      · -- both changes of the record are one
        simp only [adjustRecord, mapRecords, Dict.mapValues, List.map_map]
        congr 1
        apply List.map_congr_left
        intro item _
        by_cases hsame : item.1 = nodeId <;> simp [hsame]
    · intro hcalm other found hfound hprocess
      simp only [adjustRecord, mapRecords, Dict.get?_mapValues, Option.map_map] at hfound
      obtain ⟨before, hbefore, rfl⟩ := Option.map_eq_some_iff.mp hfound
      by_cases hsame : other = nodeId
      · left
        simp [hsame, ProcessRecord.track]
      · simp only [Function.comp_apply, if_neg hsame] at hprocess ⊢
        exact hwatched hcalm other before hbefore hprocess
  · refine ⟨reported_stopUnlocked ?_, watched_stopUnlocked _⟩
    exact h.spawn (f := fun record => { record with process := some s.children.length })
      hnone (fun _ => rfl) (fun _ hstate => hstate) rfl rfl rfl

/-! ## The monitors -/

/-- The monitor of a child that has exited reports it. -/
theorem reported_fail (h : Reported s) (howned : Owned s) {nodeId : String}
    {record : ProcessRecord} {pid : Nat} {child : ChildProcess} {returncode : Int}
    (hrecord : s.records.get? nodeId = some record) (htask : record.exitTask = .waiting)
    (hprocess : record.process = some pid) (hchild : s.children[pid]? = some child)
    (hexited : child.returncode = some returncode)
    (hrecords : t.records = (s.adjustRecord nodeId (·.fail)).records)
    (hchildren : t.children = s.children)
    (hfailures : t.failures = s.failures ++ [(pid, record.nodeId, returncode)]) :
    Reported t := by
  have hreported : t.reported = s.reported ++ [pid] := by
    simp only [reported, hfailures, List.map_append, List.map_cons, List.map_nil]
  have hkeyed := howned.keyed nodeId record hrecord
  have hfresh : pid ∉ s.reported := by
    intro hmember
    exact h.waiting nodeId record hrecord htask
      ((h.failed nodeId record hrecord).mpr ⟨pid, hmember, hprocess⟩)
  have hnode : child.nodeId = nodeId := by
    obtain ⟨found, hfound, hsame⟩ := howned.child nodeId record pid hrecord hprocess
    rw [hchild] at hfound
    cases hfound
    exact hsame
  have hget : ∀ other, t.records.get? other = (s.records.get? other).map fun record =>
      if other = nodeId then record.fail else record := by
    intro other
    rw [hrecords]
    exact Dict.get?_mapValues _ _ _
  refine ⟨?_, ?_, ?_, ?_⟩
  · intro report hmember
    rw [hfailures] at hmember
    rw [hchildren]
    rcases List.mem_append.mp hmember with hold | hnew
    · exact h.told report hold
    · rw [List.mem_singleton.mp hnew]
      exact ⟨child, hchild, hnode.trans hkeyed.symm, hexited⟩
  · rw [hreported, List.nodup_append]
    refine ⟨h.once, List.nodup_singleton _, ?_⟩
    rintro old hold new hnew rfl
    rw [List.mem_singleton] at hnew
    exact hfresh (hnew ▸ hold)
  · intro other found hfound
    rw [hget] at hfound
    obtain ⟨before, hbefore, rfl⟩ := Option.map_eq_some_iff.mp hfound
    rw [hreported]
    split
    · next hsame =>
        rw [hsame, hrecord] at hbefore
        cases hbefore
        exact iff_of_true rfl ⟨pid, by simp, hprocess⟩
    · next hother =>
        rw [h.failed other before hbefore]
        constructor
        · rintro ⟨old, hold, hpid⟩
          exact ⟨old, List.mem_append_left _ hold, hpid⟩
        · rintro ⟨old, hold, hpid⟩
          rcases List.mem_append.mp hold with hold | hnew
          · exact ⟨old, hold, hpid⟩
          · -- the process of another node is another
            rw [List.mem_singleton.mp hnew] at hpid
            obtain ⟨found, hfound, hsame⟩ := howned.child other before pid hbefore hpid
            rw [hchild] at hfound
            cases hfound
            exact absurd (hsame.symm.trans hnode) hother
  · intro other found hfound hwaiting
    rw [hget] at hfound
    obtain ⟨before, hbefore, rfl⟩ := Option.map_eq_some_iff.mp hfound
    split at hwaiting
    · cases hwaiting
    · next hother =>
        rw [if_neg hother]
        exact h.waiting other before hbefore hwaiting

/-- A task of a child changes its record; a monitor that ends has reported. -/
theorem Watched.adjustRecord (h : Watched s) {nodeId : String}
    {f : ProcessRecord → ProcessRecord}
    (hf : ∀ record, s.records.get? nodeId = some record →
      record.exitTask = .waiting ∨ record.state = .failed →
        (f record).exitTask = .waiting ∨ (f record).state = .failed)
    (hprocess : ∀ record, (f record).process = record.process)
    (hrecords : t.records = (s.adjustRecord nodeId f).records)
    (hstopping : t.stopping = s.stopping) : Watched t := by
  intro hcalm other record hrecord hstarted
  rw [hrecords] at hrecord
  simp only [NativeProcessSupervisor.adjustRecord, mapRecords, Dict.get?_mapValues] at hrecord
  obtain ⟨before, hbefore, rfl⟩ := Option.map_eq_some_iff.mp hrecord
  rw [hstopping] at hcalm
  split at hstarted
  · next hsame =>
      rw [if_pos hsame]
      rw [hprocess] at hstarted
      exact hf before (hsame ▸ hbefore) (h hcalm other before hbefore hstarted)
  · next hother =>
      rw [if_neg hother]
      exact h hcalm other before hbefore hstarted

theorem reported_step (h : Reported s) (hwatched : Watched s) (hphased : Phased s)
    (hsupervised : Supervised s) {a : Action} (hstep : step config s a = some t) :
    Reported t ∧ Watched t := by
  cases step_move hstep with
  | allocated => exact ⟨h, hwatched⟩
  | startRaised => exact ⟨h.congr rfl rfl rfl, hwatched.congr rfl rfl⟩
  | start scenario hardwareIds hpc hvalid hrecords =>
      apply reported_launchNext
      · exact h.congr rfl rfl rfl
      · intro _ nodeId record hrecord
        simp [Dict.get?, clearArchivedLogs, hrecords] at hrecord
  | spawned captured erase hardwareIds nodeId rest record hpc =>
      exact reported_spawned h hwatched hsupervised hpc
  | spawnRaised => exact ⟨reported_stopUnlocked h, watched_stopUnlocked s⟩
  | stop => exact ⟨reported_stopUnlocked h, watched_stopUnlocked s⟩
  | childrenExited hpc =>
      apply reported_drainRecords h
      rcases hpc with hpc | hpc
      · simpa only [Phased, hpc] using hphased
      · simpa only [Phased, hpc] using hphased
  | timedOut hpc =>
      have hstop : s.stopping = true := by simpa only [Phased, hpc] using hphased
      refine ⟨?_, watched_of_stopping hstop⟩
      exact (h.steady (steady_signalAlive s .kill)).congr rfl rfl rfl
  | drained nodeId rest record hpc =>
      have hstop : s.stopping = true := by simpa only [Phased, hpc] using hphased
      have hreleased : Reported (s.drainRecord nodeId record) := by
        refine (h.steady (steady_adjustRecord (f := (·.release)) ?_)).congr rfl rfl rfl
        intro record
        refine ⟨rfl, ?_, fun hwaiting => ?_⟩
        · by_cases hfailed : record.state = .failed <;> simp [ProcessRecord.release, hfailed]
        · cases hwaiting
      exact reported_drainRecords hreleased hstop rest
  | cancelled => exact ⟨h.congr rfl rfl rfl, hwatched.congr rfl rfl⟩
  | exited pid returncode child hchild halive =>
      refine ⟨h.steady ⟨steady_records s, ?_, rfl⟩, hwatched.congr rfl rfl⟩
      intro i other hother hexited
      refine ⟨other, ?_, rfl, rfl⟩
      have hne : i ≠ pid := by
        rintro rfl
        rw [hchild] at hother
        cases hother
        exact hexited halive
      simp [adjustChild, mapChildren, List.getElem?_mapIdx, hother, hne]
  | monitor nodeId record pid child returncode hrecord htask hprocess hchild hexited =>
      unfold monitorExit
      split
      · next hstop =>
          refine ⟨h.steady (steady_adjustRecord ?_), watched_of_stopping hstop⟩
          exact fun record => ⟨rfl, Iff.rfl, fun hwaiting => by cases hwaiting⟩
      · refine ⟨?_, ?_⟩
        · exact reported_fail h hsupervised.toOwned hrecord htask hprocess hchild hexited rfl rfl
            rfl
        · exact hwatched.adjustRecord (f := (·.fail)) (fun _ _ _ => .inr rfl) (fun _ => rfl) rfl
            rfl
  | handled nodeId record hrecord htask =>
      refine ⟨h.steady (steady_adjustRecord ?_), ?_⟩
      · exact fun record => ⟨rfl, Iff.rfl, fun hwaiting => by cases hwaiting⟩
      · refine hwatched.adjustRecord (f := (·.endMonitor)) ?_ (fun _ => rfl) rfl rfl
        intro found hfound hwatch
        rw [hrecord] at hfound
        cases hfound
        refine .inr (hwatch.resolve_left ?_)
        rw [htask]
        decide
  | line nodeId stream text record pid =>
      refine ⟨h.steady (steady_line s nodeId pid stream text), ?_⟩
      refine hwatched.adjustRecord (f := (·.recordLine stream text)) ?_ ?_ rfl rfl
      · intro record _ hwatch
        cases stream <;> exact hwatch
      · intro record
        cases stream <;> rfl
  | outputEnded nodeId stream =>
      refine ⟨h.steady (steady_adjustRecord ?_), ?_⟩
      · intro record
        cases stream <;> exact ⟨rfl, Iff.rfl, id⟩
      · refine hwatched.adjustRecord (f := (·.endDrain stream)) ?_ ?_ rfl rfl
        · intro record _ hwatch
          cases stream <;> exact hwatch
        · intro record
          cases stream <;> rfl
  | clearArchivedLogs => exact ⟨h.congr rfl rfl rfl, hwatched.congr rfl rfl⟩

theorem reported_new : Reported new ∧ Watched new := by
  refine ⟨⟨?_, List.nodup_nil, ?_, ?_⟩, ?_⟩
  · intro report hmember
    cases hmember
  · intro nodeId record hrecord
    cases hrecord
  · intro nodeId record hrecord
    cases hrecord
  · intro _ nodeId record hrecord
    cases hrecord

theorem reported_of_run {meets : NativeProcessSupervisor → Action → Prop}
    (hrun : Run (step config) meets new s) :
    (Reported s ∧ Watched s) ∧ (Signalled s ∧ Phased s) ∧ Supervised s := by
  refine hrun.invariant
    (I := fun s => (Reported s ∧ Watched s) ∧ (Signalled s ∧ Phased s) ∧ Supervised s) ?_
    ⟨reported_new, signalled_new, supervised_new⟩
  rintro u a v ⟨⟨hreported, hwatched⟩, ⟨hsignalled, hphased⟩, hsupervised⟩ _ hstep
  exact ⟨reported_step hreported hwatched hphased hsupervised hstep,
    signalled_step hsignalled hphased hsupervised hstep, hsupervised.step hstep⟩

/-- Everything that holds of the reports in every state. -/
structure FailuresReported (config : SupervisorConfig) (s : NativeProcessSupervisor) : Prop where
  told : ∀ pid nodeId code, (pid, nodeId, code) ∈ s.failures →
    ∃ child ∈ s.children[pid]?, child.nodeId = nodeId ∧ child.returncode = some code
  once : (s.failures.map Prod.fst).Nodup
  failed : ∀ nodeId record pid, s.records.get? nodeId = some record →
    record.process = some pid →
      (record.state = .failed ↔ ∃ code, (pid, nodeId, code) ∈ s.failures)
  pending : ∀ nodeId record pid child code, s.stopping = false →
    s.records.get? nodeId = some record → record.process = some pid →
    s.children[pid]? = some child → child.returncode = some code →
      (pid, nodeId, code) ∈ s.failures ∨
        ∃ after, step config s (.monitor nodeId) = some after ∧
          (pid, nodeId, code) ∈ after.failures

theorem Reported.failed_iff (h : Reported s) (howned : Owned s) {nodeId : String}
    {record : ProcessRecord} {pid : Nat} (hrecord : s.records.get? nodeId = some record)
    (hprocess : record.process = some pid) :
    record.state = .failed ↔ ∃ code, (pid, nodeId, code) ∈ s.failures := by
  rw [h.failed nodeId record hrecord]
  constructor
  · rintro ⟨found, hmember, hfound⟩
    rw [hprocess] at hfound
    cases hfound
    obtain ⟨⟨_, node, code⟩, hreport, rfl⟩ := List.mem_map.mp hmember
    obtain ⟨child, hchild, hnode, _⟩ := h.told _ hreport
    obtain ⟨owned, howned, hsame⟩ := howned.child nodeId record _ hrecord hprocess
    rw [Option.mem_def, howned] at hchild
    cases hchild
    obtain rfl : node = nodeId := hnode.symm.trans hsame
    exact ⟨code, hreport⟩
  · rintro ⟨code, hreport⟩
    exact ⟨pid, List.mem_map.mpr ⟨_, hreport, rfl⟩, hprocess⟩

/-- The failure handler is called for exits only, once for a child and with its node and
code; a record is FAILED if and only if its child was reported; and before a stop begins
every exit is reported, or the next step of its monitor reports it. -/
theorem failures_reported (config : SupervisorConfig) {s : NativeProcessSupervisor}
    (hrun : Run (step config) Always new s) : FailuresReported config s := by
  obtain ⟨⟨hreported, hwatched⟩, _, hsupervised⟩ := reported_of_run hrun
  have howned := hsupervised.toOwned
  refine ⟨?_, hreported.once, ?_, ?_⟩
  · intro pid nodeId code hmember
    exact hreported.told _ hmember
  · intro nodeId record pid hrecord hprocess
    exact hreported.failed_iff howned hrecord hprocess
  · intro nodeId record pid child code hcalm hrecord hprocess hchild hcode
    rcases hwatched hcalm nodeId record hrecord (by rw [hprocess]; rfl) with hwaiting | hfailed
    · refine .inr ⟨s.monitorExit nodeId record pid code, ?_, ?_⟩
      · simp [step, hrecord, hwaiting, hprocess, hchild, hcode]
      · simp [monitorExit, hcalm, howned.keyed nodeId record hrecord]
    · obtain ⟨found, hreport⟩ := (hreported.failed_iff howned hrecord hprocess).mp hfailed
      obtain ⟨other, hother, _, hfound⟩ := hreported.told _ hreport
      rw [Option.mem_def, hchild] at hother
      cases hother
      rw [hcode] at hfound
      cases hfound
      exact .inl hreport

/-- The second of two children exits and is reported; then the first exits during a stop. -/
def oneFailure : List Action :=
  [.start twoNodes false, .spawned true, .spawned true, .exited 1 3, .monitor "node-2", .stop,
    .exited 0 0, .monitor "node-1"]

def afterOneFailure : NativeProcessSupervisor :=
  (exec (step saltedSupervisor) oneFailure new).getD new

/-- Only the exit before the stop is reported. -/
theorem oneFailure_reported : FailuresReported saltedSupervisor afterOneFailure ∧
    afterOneFailure.failures = [(1, "node-2", 3)] := by
  have hsome : (exec (step saltedSupervisor) oneFailure new).isSome = true := by decide +kernel
  have hrun : Run (step saltedSupervisor) Always new afterOneFailure :=
    .of_exec (Option.some_get hsome ▸ rfl) (conforms_always oneFailure _)
  exact ⟨failures_reported saltedSupervisor hrun, by decide +kernel⟩

end NativeProcessSupervisor

end MeshtasticLab.Runtime

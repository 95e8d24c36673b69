/-
  Runtime/RecentLogs.lean --- the log lines that a supervisor gives out.

  While a node has a record its lines are in the record; a stop moves them to the archive.
  What `recent_logs` reads is the same on both sides of the stop: an end of everything that
  was read from the child that the node got in the last start.
-/
import MeshtasticLab.Runtime.Children

set_option autoImplicit false

namespace MeshtasticLab.Runtime

open MeshtasticLab.Foundation MeshtasticLab.Gateway MeshtasticLab.Models

namespace NativeProcessSupervisor

variable {config : SupervisorConfig} {s t : NativeProcessSupervisor}

/-! ## What there is to read -/

/-- What was read from a process, if there is one. -/
def outputOf (children : List ChildProcess) (process : Option Nat) (stream : OutputStream) :
    List String :=
  match process.bind (children[·]?) with
  | none => []
  | some child => child.output stream

/-- The recent lines of a node, from everything that was read from its child. -/
def logOf (s : NativeProcessSupervisor) (nodeId : String) (stream : OutputStream)
    (limit : Nat) : Option (List String) :=
  (s.launched.get? nodeId).map fun process =>
    lastLines ((outputOf s.children process stream).rtake RECENT_LINES) limit

/-- The archive is cleared. -/
def Action.clears : Action → Bool
  | .clearArchivedLogs => true
  | _ => false

/-- The archive is cleared only while the lock is free, as `reset` does. -/
def ClearsWhenFree (s : NativeProcessSupervisor) (a : Action) : Prop :=
  a.clears = false ∨ s.lifecycleLock = .idle

instance (s : NativeProcessSupervisor) (a : Action) : Decidable (ClearsWhenFree s a) :=
  inferInstanceAs (Decidable (_ ∨ _))

/-! ## The invariant -/

/-- Records and archives hold the last lines of the children that their nodes got; an
archive is final. -/
structure Logged (s : NativeProcessSupervisor) : Prop where
  launched : ∀ nodeId pid, s.launched.get? nodeId = some (some pid) →
    ∃ child, s.children[pid]? = some child ∧ child.nodeId = nodeId
  kept : ∀ nodeId record, s.records.get? nodeId = some record →
    s.launched.get? nodeId = some record.process ∧
      ∀ stream, (record.lines stream).maxlen = RECENT_LINES ∧
        (record.lines stream).Holds (outputOf s.children record.process stream)
  archived : ∀ nodeId archive, s.archivedLogs.get? nodeId = some archive →
    ∃ process, s.launched.get? nodeId = some process ∧ ∀ stream,
      archive.lines stream = (outputOf s.children process stream).rtake RECENT_LINES ∧
        ∀ record, s.records.get? nodeId = some record → record.drains stream = false
  known : ∀ nodeId, s.launched.contains nodeId = true → s.hasLogs nodeId = true

/-- A start has no archive, and a drain has the archive of every record it has done. -/
def Archives (s : NativeProcessSupervisor) : SupervisorPc → Prop
  | .spawning .. => s.archivedLogs = ∅
  | .draining remaining => ∀ nodeId, s.records.contains nodeId = true →
      nodeId ∈ remaining ∨ s.archivedLogs.contains nodeId = true
  | _ => True

theorem archives_quiet {pc : SupervisorPc} (hquiet : pc.isQuiet = true) : Archives s pc := by
  cases pc with
  | spawning => cases hquiet
  | draining => cases hquiet
  | _ => trivial

/-- What of a child the logs are about. -/
def logPart (child : ChildProcess) : String × List String × List String :=
  (child.nodeId, child.stdout, child.stderr)

/-- The lines of a record, and whether they still grow. -/
structure SameLines (record before : ProcessRecord) : Prop where
  process : record.process = before.process
  lines : ∀ stream, record.lines stream = before.lines stream
  drains : ∀ stream, record.drains stream = true → before.drains stream = true

/-- No line is read, and no record or archive comes or goes. -/
structure Silent (s t : NativeProcessSupervisor) : Prop where
  records : ∀ nodeId record, t.records.get? nodeId = some record →
    ∃ before, s.records.get? nodeId = some before ∧ SameLines record before
  keys : ∀ nodeId, t.records.contains nodeId = s.records.contains nodeId
  children : ∀ pid : Nat, t.children[pid]?.map logPart = s.children[pid]?.map logPart
  launched : t.launched = s.launched
  archivedLogs : t.archivedLogs = s.archivedLogs

theorem outputOf_congr {children others : List ChildProcess} {process : Option Nat}
    (h : ∀ pid ∈ process, children[pid]?.map logPart = others[pid]?.map logPart)
    (stream : OutputStream) :
    outputOf children process stream = outputOf others process stream := by
  cases process with
  | none => rfl
  | some pid =>
      have hsame := h pid rfl
      unfold outputOf
      simp only [Option.bind_some]
      cases hchild : children[pid]? with
      | none =>
          rw [hchild, Option.map_none] at hsame
          rw [Option.map_eq_none_iff.mp hsame.symm]
      | some child =>
          rw [hchild, Option.map_some] at hsame
          obtain ⟨other, hother, hpart⟩ := Option.map_eq_some_iff.mp hsame.symm
          rw [hother]
          simp only [logPart, Prod.mk.injEq] at hpart
          cases stream with
          | stdout => exact hpart.2.1.symm
          | stderr => exact hpart.2.2.symm

theorem hasLogs_iff {nodeId : String} : s.hasLogs nodeId = true ↔
    s.records.contains nodeId = true ∨ s.archivedLogs.contains nodeId = true := by
  simp [hasLogs]

theorem Logged.silent (h : Logged s) (hsilent : Silent s t) : Logged t where
  launched nodeId pid hlaunched := by
    rw [hsilent.launched] at hlaunched
    obtain ⟨child, hchild, hnode⟩ := h.launched nodeId pid hlaunched
    have hsame := hsilent.children pid
    rw [hchild, Option.map_some] at hsame
    obtain ⟨after, hafter, hpart⟩ := Option.map_eq_some_iff.mp hsame
    exact ⟨after, hafter, (congrArg Prod.fst hpart).trans hnode⟩
  kept nodeId record hrecord := by
    obtain ⟨before, hbefore, hsame⟩ := hsilent.records nodeId record hrecord
    obtain ⟨hlaunched, hlines⟩ := h.kept nodeId before hbefore
    rw [hsilent.launched, hsame.process]
    refine ⟨hlaunched, fun stream => ?_⟩
    rw [hsame.lines, outputOf_congr (fun pid _ => hsilent.children pid)]
    exact hlines stream
  archived nodeId archive harchive := by
    rw [hsilent.archivedLogs] at harchive
    obtain ⟨process, hlaunched, hlines⟩ := h.archived nodeId archive harchive
    rw [hsilent.launched]
    refine ⟨process, hlaunched, fun stream => ?_⟩
    rw [outputOf_congr (fun pid _ => hsilent.children pid)]
    refine ⟨(hlines stream).1, fun record hrecord => ?_⟩
    obtain ⟨before, hbefore, hsame⟩ := hsilent.records nodeId record hrecord
    have hended := (hlines stream).2 before hbefore
    cases hdrains : record.drains stream with
    | false => rfl
    | true => rw [hsame.drains stream hdrains] at hended; cases hended
  known nodeId hknown := by
    rw [hsilent.launched] at hknown
    have hlogs := h.known nodeId hknown
    rw [hasLogs_iff] at hlogs ⊢
    rw [hsilent.keys, hsilent.archivedLogs]
    exact hlogs

theorem Archives.silent {pc : SupervisorPc} (h : Archives s pc) (hsilent : Silent s t) :
    Archives t pc := by
  cases pc with
  | spawning => exact hsilent.archivedLogs.trans h
  | draining remaining =>
      intro nodeId hcontains
      rw [hsilent.keys] at hcontains
      rw [hsilent.archivedLogs]
      exact h nodeId hcontains
  | _ => trivial

/-! ## Steps that read no line -/

theorem sameLines_refl (record : ProcessRecord) : SameLines record record :=
  ⟨rfl, fun _ => rfl, fun _ => id⟩

theorem silent_refl (s : NativeProcessSupervisor) : Silent s s where
  records _ record hrecord := ⟨record, hrecord, sameLines_refl record⟩
  keys _ := rfl
  children _ := rfl
  launched := rfl
  archivedLogs := rfl

theorem SameLines.trans {record between before : ProcessRecord}
    (hsecond : SameLines record between) (hfirst : SameLines between before) :
    SameLines record before where
  process := hsecond.process.trans hfirst.process
  lines stream := (hsecond.lines stream).trans (hfirst.lines stream)
  drains stream hdrains := hfirst.drains stream (hsecond.drains stream hdrains)

theorem Silent.trans {u : NativeProcessSupervisor} (hfirst : Silent s t)
    (hsecond : Silent t u) : Silent s u where
  records nodeId record hrecord := by
    obtain ⟨between, hbetween, hsame⟩ := hsecond.records nodeId record hrecord
    obtain ⟨before, hbefore, hsame₂⟩ := hfirst.records nodeId between hbetween
    exact ⟨before, hbefore, hsame.trans hsame₂⟩
  keys nodeId := (hsecond.keys nodeId).trans (hfirst.keys nodeId)
  children pid := (hsecond.children pid).trans (hfirst.children pid)
  launched := hsecond.launched.trans hfirst.launched
  archivedLogs := hsecond.archivedLogs.trans hfirst.archivedLogs

/-- Only the records, the children and the logs count. -/
theorem Silent.congr {u : NativeProcessSupervisor} (h : Silent s t)
    (hrecords : u.records = t.records) (hchildren : u.children = t.children)
    (hlaunched : u.launched = t.launched) (harchived : u.archivedLogs = t.archivedLogs) :
    Silent s u where
  records := by
    rw [hrecords]
    exact h.records
  keys := by
    rw [hrecords]
    exact h.keys
  children := by
    rw [hchildren]
    exact h.children
  launched := hlaunched.trans h.launched
  archivedLogs := harchived.trans h.archivedLogs

theorem silent_mapRecords {f : String → ProcessRecord → ProcessRecord}
    (hf : ∀ nodeId record, SameLines (f nodeId record) record) : Silent s (s.mapRecords f) where
  records nodeId record hrecord := by
    simp only [mapRecords, Dict.get?_mapValues] at hrecord
    obtain ⟨before, hbefore, rfl⟩ := Option.map_eq_some_iff.mp hrecord
    exact ⟨before, hbefore, hf nodeId before⟩
  keys nodeId := by
    simp [mapRecords, Dict.contains, Dict.get?_mapValues]
  children _ := rfl
  launched := rfl
  archivedLogs := rfl

theorem silent_adjustRecord {nodeId : String} {f : ProcessRecord → ProcessRecord}
    (hf : ∀ record, SameLines (f record) record) : Silent s (s.adjustRecord nodeId f) := by
  apply silent_mapRecords
  intro id record
  split
  · exact hf record
  · exact sameLines_refl record

theorem silent_mapChildren {f : Nat → ChildProcess → ChildProcess}
    (hf : ∀ pid child, logPart (f pid child) = logPart child) : Silent s (s.mapChildren f) where
  records _ record hrecord := ⟨record, hrecord, sameLines_refl record⟩
  keys _ := rfl
  children pid := by
    simp only [mapChildren, List.getElem?_mapIdx, Option.map_map]
    congr 1
    funext child
    exact hf pid child
  launched := rfl
  archivedLogs := rfl

theorem silent_signalAlive (s : NativeProcessSupervisor) (signal : Signal) :
    Silent s (s.signalAlive signal) := by
  apply silent_mapChildren
  intro pid child
  split
  · rfl
  · rfl

theorem silent_stopUnlocked (s : NativeProcessSupervisor) : Silent s s.stopUnlocked := by
  unfold stopUnlocked
  split
  · exact (silent_refl s).congr rfl rfl rfl rfl
  · have hmarked : Silent s s.markStopping := by
      apply silent_mapRecords
      intro nodeId record
      split
      · exact ⟨rfl, fun stream => by cases stream <;> rfl,
          fun stream => by cases stream <;> exact id⟩
      · exact sameLines_refl record
    exact (hmarked.trans (silent_signalAlive _ .terminate)).congr rfl rfl rfl rfl

theorem sameLines_fail (record : ProcessRecord) : SameLines record.fail record :=
  ⟨rfl, fun stream => by cases stream <;> rfl, fun stream => by cases stream <;> exact id⟩

theorem sameLines_endMonitor (record : ProcessRecord) : SameLines record.endMonitor record :=
  ⟨rfl, fun stream => by cases stream <;> rfl, fun stream => by cases stream <;> exact id⟩

theorem sameLines_endDrain (record : ProcessRecord) (stream : OutputStream) :
    SameLines (record.endDrain stream) record := by
  refine ⟨?_, ?_, ?_⟩
  · cases stream <;> rfl
  · intro other
    cases stream <;> cases other <;> rfl
  · intro other
    cases stream <;> cases other <;> simp [ProcessRecord.endDrain, ProcessRecord.drains]

theorem sameLines_release (record : ProcessRecord) : SameLines record.release record := by
  refine ⟨rfl, ?_, ?_⟩
  · intro stream
    cases stream <;> rfl
  · intro stream hdrains
    cases stream <;> cases hdrains

theorem drains_release (record : ProcessRecord) (stream : OutputStream) :
    record.release.drains stream = false := by
  cases stream <;> rfl

/-! ## Start -/

/-- A state in which a start may go on: what is logged so far, and no archive. -/
theorem logged_launchNext (h : Logged s) (hnone : s.archivedLogs = ∅) {erase : Bool}
    {hardwareIds : Dict String Nat} {nodes : List (String × Nat)} :
    Logged (launchNext config s erase hardwareIds nodes) ∧
      Archives (launchNext config s erase hardwareIds nodes)
        (launchNext config s erase hardwareIds nodes).lifecycleLock := by
  cases nodes with
  | nil => exact ⟨h.silent ((silent_refl s).congr rfl rfl rfl rfl), trivial⟩
  | cons node rest =>
      obtain ⟨nodeId, index⟩ := node
      simp only [launchNext]
      split
      · exact ⟨h.silent (silent_stopUnlocked s), archives_quiet (quiet_stopUnlocked s)⟩
      · refine ⟨⟨?_, ?_, ?_, ?_⟩, hnone⟩
        · intro other pid hlaunched
          rw [Dict.get?_set] at hlaunched
          split at hlaunched
          · cases hlaunched
          · exact h.launched other pid hlaunched
        · intro other record hrecord
          rw [Dict.get?_set] at hrecord ⊢
          split at hrecord
          · next hsame =>
              cases hrecord
              rw [if_pos hsame]
              refine ⟨rfl, fun stream => ?_⟩
              cases stream <;> exact ⟨rfl, BoundedDeque.holds_empty _⟩
          · next hother =>
              rw [if_neg hother]
              exact h.kept other record hrecord
        · intro other archive harchive
          rw [hnone] at harchive
          cases harchive
        · intro other hknown
          rw [Dict.contains_set] at hknown
          rw [hasLogs_iff, Dict.contains_set]
          rcases hknown with hsame | hold
          · exact .inl (.inl hsame)
          · rcases hasLogs_iff.mp (h.known other hold) with hrecord | harchive
            · exact .inl (.inr hrecord)
            · exact .inr harchive

/-- A new child leaves what was read from the others. -/
theorem outputOf_append {children : List ChildProcess} {process : Option Nat}
    (hold : ∀ pid ∈ process, pid < children.length) (child : ChildProcess)
    (stream : OutputStream) :
    outputOf (children ++ [child]) process stream = outputOf children process stream := by
  apply outputOf_congr
  intro pid hpid
  rw [List.getElem?_append_left (hold pid hpid)]

/-- A record without a process gets the new child, from which nothing was read. -/
theorem Logged.spawn (h : Logged s) (hnone : s.archivedLogs = ∅) {nodeId : String}
    {record : ProcessRecord} {child : ChildProcess} {f : ProcessRecord → ProcessRecord}
    (hrecord : s.records.get? nodeId = some record) (hempty : record.process = none)
    (hnode : child.nodeId = nodeId) (hunread : ∀ stream, child.output stream = [])
    (hprocess : ∀ record, (f record).process = some s.children.length)
    (hlines : ∀ record stream, (f record).lines stream = record.lines stream)
    (hrecords : t.records = (s.adjustRecord nodeId f).records)
    (hchildren : t.children = s.children ++ [child])
    (hlaunched : t.launched = s.launched.set nodeId (some s.children.length))
    (harchived : t.archivedLogs = s.archivedLogs) : Logged t where
  launched other pid hfound := by
    rw [hlaunched, Dict.get?_set] at hfound
    rw [hchildren]
    split at hfound
    · next hsame =>
        cases hfound
        exact ⟨child, List.getElem?_concat_length, hnode.trans hsame.symm⟩
    · obtain ⟨old, hold, hkept⟩ := h.launched other pid hfound
      refine ⟨old, ?_, hkept⟩
      rw [List.getElem?_append_left (List.getElem?_eq_some_iff.mp hold).1]
      exact hold
  kept other found hfound := by
    rw [hrecords] at hfound
    simp only [adjustRecord, mapRecords, Dict.get?_mapValues] at hfound
    obtain ⟨before, hbefore, rfl⟩ := Option.map_eq_some_iff.mp hfound
    rw [hlaunched, hchildren, Dict.get?_set]
    split
    · next hsame =>
        rw [hsame, hrecord] at hbefore
        cases hbefore
        rw [hprocess]
        refine ⟨rfl, fun stream => ?_⟩
        -- nothing was recorded before there was a process
        have hbefore := (h.kept nodeId record hrecord).2 stream
        rw [hempty] at hbefore
        rw [hlines]
        have hnew : outputOf (s.children ++ [child]) (some s.children.length) stream = [] := by
          simp [outputOf, hunread]
        rw [hnew]
        exact hbefore
    · obtain ⟨hkept, hbefore⟩ := h.kept other before hbefore
      refine ⟨hkept, fun stream => ?_⟩
      rw [outputOf_append]
      · exact hbefore stream
      · intro pid hpid
        rw [hpid] at hkept
        obtain ⟨old, hold, _⟩ := h.launched other pid hkept
        exact (List.getElem?_eq_some_iff.mp hold).1
  archived other archive harchive := by
    rw [harchived, hnone] at harchive
    cases harchive
  known other hknown := by
    rw [hlaunched, Dict.contains_set] at hknown
    have hcontains : t.records.contains other = s.records.contains other := by
      rw [hrecords]
      simp [adjustRecord, mapRecords, Dict.contains, Dict.get?_mapValues]
    rw [hasLogs_iff, hcontains, harchived]
    rcases hknown with hsame | hold
    · left
      rw [hsame, Dict.contains, hrecord]
      rfl
    · exact hasLogs_iff.mp (h.known other hold)

theorem logged_spawned (h : Logged s) (harchives : Archives s s.lifecycleLock)
    (hsupervised : Supervised s) {captured erase : Bool} {hardwareIds : Dict String Nat}
    {nodeId : String} {rest : List (String × Nat)} {record : ProcessRecord}
    (hpc : s.lifecycleLock = .spawning erase hardwareIds nodeId rest)
    (hrecord : s.records.get? nodeId = some record) :
    Logged (spawned config s captured erase hardwareIds nodeId record rest) ∧
      Archives (spawned config s captured erase hardwareIds nodeId record rest)
        (spawned config s captured erase hardwareIds nodeId record rest).lifecycleLock := by
  have hrelies := hsupervised.relies
  rw [hpc] at hrelies harchives
  obtain ⟨⟨found, hfound, hempty⟩, _⟩ := hrelies
  rw [hrecord] at hfound
  cases hfound
  have hunread : ∀ stream, ({ nodeId, command := record.command config.binaryPath erase } :
      ChildProcess).output stream = [] := by
    intro stream
    cases stream <;> rfl
  unfold spawned
  dsimp only
  split
  · apply logged_launchNext
    · refine h.spawn (f := fun record => { ProcessRecord.track
        { record with process := some s.children.length } with state := .running })
        harchives hrecord hempty rfl hunread (fun _ => rfl) ?_ ?_ rfl rfl rfl
      · intro record stream
        cases stream <;> rfl
      · -- both changes of the record are one
        simp only [adjustRecord, mapRecords, Dict.mapValues, List.map_map]
        congr 1
        apply List.map_congr_left
        intro item _
        by_cases hsame : item.1 = nodeId <;> simp [hsame]
    · exact harchives
  · refine ⟨Logged.silent ?_ (silent_stopUnlocked _), archives_quiet (quiet_stopUnlocked _)⟩
    refine h.spawn (f := fun record => { record with process := some s.children.length })
      harchives hrecord hempty rfl hunread (fun _ => rfl) ?_ rfl rfl rfl rfl
    intro record stream
    cases stream <;> rfl

/-! ## Lines -/

/-- A line is read by one record and from its child; the archives are final and the other
records have other children. -/
theorem logged_line (h : Logged s) (howned : Owned s) {nodeId : String}
    {stream : OutputStream} {text : String} {record : ProcessRecord} {pid : Nat}
    (hrecord : s.records.get? nodeId = some record) (htask : record.drains stream = true)
    (hprocess : record.process = some pid)
    (hrecords : t.records = (s.adjustRecord nodeId (·.recordLine stream text)).records)
    (hchildren : t.children = (s.adjustChild pid (·.read stream text)).children)
    (hlaunched : t.launched = s.launched) (harchived : t.archivedLogs = s.archivedLogs) :
    Logged t := by
  obtain ⟨child, hchild, hnode⟩ := howned.child nodeId record pid hrecord hprocess
  have hget : ∀ i : Nat, t.children[i]? = s.children[i]?.map fun child =>
      if i = pid then child.read stream text else child := by
    intro i
    rw [hchildren]
    simp [adjustChild, mapChildren, List.getElem?_mapIdx]
  -- the output of every other process stays
  have hother : ∀ process ≠ some pid, ∀ stream,
      outputOf t.children process stream = outputOf s.children process stream := by
    intro process hne
    apply outputOf_congr
    intro i hi
    rw [Option.mem_def.mp hi] at hne
    have hdifferent : i ≠ pid := fun hsame => hne (congrArg some hsame)
    simp [hget, hdifferent]
  have houtput : ∀ other, outputOf t.children (some pid) other =
      if other = stream then outputOf s.children (some pid) other ++ [text]
      else outputOf s.children (some pid) other := by
    intro other
    simp only [outputOf, Option.bind_some, hget, hchild, Option.map_some, if_true]
    cases stream <;> cases other <;> rfl
  have hkeys : ∀ other, t.records.contains other = s.records.contains other := by
    intro other
    rw [hrecords]
    simp [adjustRecord, mapRecords, Dict.contains, Dict.get?_mapValues]
  have hrecordOf : ∀ other found, t.records.get? other = some found →
      ∃ before, s.records.get? other = some before ∧
        found = if other = nodeId then before.recordLine stream text else before := by
    intro other found hfound
    rw [hrecords] at hfound
    simp only [adjustRecord, mapRecords, Dict.get?_mapValues] at hfound
    obtain ⟨before, hbefore, rfl⟩ := Option.map_eq_some_iff.mp hfound
    exact ⟨before, hbefore, rfl⟩
  refine ⟨?_, ?_, ?_, ?_⟩
  · intro other i hfound
    rw [hlaunched] at hfound
    obtain ⟨old, hold, hkept⟩ := h.launched other i hfound
    rw [hget, hold, Option.map_some]
    refine ⟨_, rfl, ?_⟩
    split
    · cases stream <;> exact hkept
    · exact hkept
  · intro other found hfound
    obtain ⟨before, hbefore, rfl⟩ := hrecordOf other found hfound
    obtain ⟨hkept, hlines⟩ := h.kept other before hbefore
    rw [hlaunched]
    split
    · next hsame =>
        rw [hsame, hrecord] at hbefore
        cases hbefore
        have hsameProcess : (record.recordLine stream text).process = some pid := by
          cases stream <;> exact hprocess
        rw [hsameProcess, ← hprocess]
        refine ⟨hkept, fun asked => ?_⟩
        have hasked := hlines asked
        rw [hprocess] at hasked ⊢
        rw [houtput]
        split
        · next heq =>
            rw [heq] at hasked ⊢
            cases stream <;> exact ⟨hasked.1, hasked.2.append text⟩
        · next hne =>
            cases stream <;> cases asked <;> first | exact absurd rfl hne | exact hasked
    · next hne =>
        refine ⟨hkept, fun asked => ?_⟩
        rw [hother]
        · exact hlines asked
        · intro hpid
          obtain ⟨found, hfound, hnode₂⟩ := howned.child other before pid hbefore hpid
          rw [hchild] at hfound
          cases hfound
          exact hne (hnode₂.symm.trans hnode)
  · intro other archive harchive
    rw [harchived] at harchive
    obtain ⟨process, hfound, hlines⟩ := h.archived other archive harchive
    rw [hlaunched]
    refine ⟨process, hfound, fun asked => ?_⟩
    have hne : process ≠ some pid := by
      rintro rfl
      obtain ⟨old, hold, hkept⟩ := h.launched other pid hfound
      rw [hchild] at hold
      cases hold
      obtain rfl : nodeId = other := hnode.symm.trans hkept
      rw [(hlines stream).2 record hrecord] at htask
      cases htask
    rw [hother process hne]
    refine ⟨(hlines asked).1, fun found hfound => ?_⟩
    obtain ⟨before, hbefore, rfl⟩ := hrecordOf other found hfound
    have hended := (hlines asked).2 before hbefore
    split
    · cases stream <;> cases asked <;> exact hended
    · exact hended
  · intro other hknown
    rw [hlaunched] at hknown
    rw [hasLogs_iff, hkeys, harchived]
    exact hasLogs_iff.mp (h.known other hknown)

/-! ## Stop -/

/-- A drained record reads no more, and its lines are in the archive. -/
theorem logged_drainRecord (h : Logged s) (howned : Owned s) {nodeId : String}
    {record : ProcessRecord} (hrecord : s.records.get? nodeId = some record) :
    Logged (s.drainRecord nodeId record) := by
  have hsilent : Silent s (s.adjustRecord nodeId (·.release)) :=
    silent_adjustRecord sameLines_release
  have hreleased := h.silent hsilent
  obtain ⟨hlaunched, hlines⟩ := h.kept nodeId record hrecord
  have hkeyed := howned.keyed nodeId record hrecord
  refine ⟨hreleased.launched, hreleased.kept, ?_, ?_⟩
  · intro other archive harchive
    simp only [drainRecord, Dict.get?_set] at harchive
    split at harchive
    · next hsame =>
        cases harchive
        rw [hsame, hkeyed]
        refine ⟨record.process, hlaunched, fun stream => ⟨?_, fun found hfound => ?_⟩⟩
        · obtain ⟨hmaxlen, hholds⟩ := hlines stream
          rw [BoundedDeque.Holds, hmaxlen] at hholds
          cases stream <;> exact hholds
        · simp only [drainRecord, adjustRecord, mapRecords, Dict.get?_mapValues, hrecord,
            Option.map_some, if_true] at hfound
          cases hfound
          exact drains_release record stream
    · exact hreleased.archived other archive harchive
  · intro other hknown
    rw [hasLogs_iff]
    rcases hasLogs_iff.mp (hreleased.known other hknown) with hold | harchive
    · exact .inl hold
    · right
      simp only [drainRecord]
      rw [Dict.contains_set]
      exact .inr harchive

theorem logged_drainRecords (h : Logged s) (remaining : List String)
    (harchives : Archives s (.draining remaining)) :
    Logged (s.drainRecords remaining) ∧
      Archives (s.drainRecords remaining) (s.drainRecords remaining).lifecycleLock := by
  unfold drainRecords
  split
  · next hnil =>
      refine ⟨⟨h.launched, ?_, ?_, ?_⟩, trivial⟩
      · intro nodeId record hrecord
        cases hrecord
      · intro nodeId archive harchive
        obtain ⟨process, hlaunched, hlines⟩ := h.archived nodeId archive harchive
        refine ⟨process, hlaunched, fun stream => ⟨(hlines stream).1, fun record hrecord => ?_⟩⟩
        cases hrecord
      · intro nodeId hknown
        rw [hasLogs_iff]
        right
        rcases hasLogs_iff.mp (h.known nodeId hknown) with hrecord | harchive
        · -- the record was drained before
          refine (harchives nodeId hrecord).resolve_left ?_
          rw [hnil]
          exact List.not_mem_nil
        · exact harchive
  · exact ⟨h.silent ((silent_refl s).congr rfl rfl rfl rfl), harchives⟩

theorem contains_drainRecord {nodeId other : String} {record : ProcessRecord} :
    (s.drainRecord nodeId record).records.contains other = s.records.contains other := by
  simp [drainRecord, adjustRecord, mapRecords, Dict.contains, Dict.get?_mapValues]

theorem logged_clear (h : Logged s) : Logged s.clearArchivedLogs where
  launched nodeId pid hlaunched := by
    simp only [clearArchivedLogs, Dict.get?_filterKeys] at hlaunched
    split at hlaunched
    · exact h.launched nodeId pid hlaunched
    · cases hlaunched
  kept nodeId record hrecord := by
    obtain ⟨hlaunched, hlines⟩ := h.kept nodeId record hrecord
    have hcontains : s.records.contains nodeId = true := by
      rw [Dict.contains, show s.records.get? nodeId = some record from hrecord]
      rfl
    refine ⟨?_, hlines⟩
    simp only [clearArchivedLogs, Dict.get?_filterKeys]
    rw [if_pos hcontains]
    exact hlaunched
  archived nodeId archive harchive := by cases harchive
  known nodeId hknown := by
    rw [hasLogs_iff]
    left
    obtain ⟨process, hlaunched⟩ := Option.isSome_iff_exists.mp hknown
    simp only [clearArchivedLogs, Dict.get?_filterKeys] at hlaunched
    split at hlaunched
    · next hcontains => exact hcontains
    · cases hlaunched

/-! ## Runs -/

theorem logged_step (h : Logged s) (harchives : Archives s s.lifecycleLock)
    (hsupervised : Supervised s) {a : Action} (hclears : ClearsWhenFree s a)
    (hstep : step config s a = some t) : Logged t ∧ Archives t t.lifecycleLock := by
  have howned := hsupervised.toOwned
  have hquietly : ∀ {u}, Silent s u → u.lifecycleLock = s.lifecycleLock →
      Logged u ∧ Archives u u.lifecycleLock := by
    intro u hsilent hlock
    refine ⟨h.silent hsilent, ?_⟩
    rw [hlock]
    exact harchives.silent hsilent
  cases step_move hstep with
  | allocated => exact ⟨h, harchives⟩
  | startRaised scenario hpc =>
      refine ⟨logged_clear h, ?_⟩
      simp only [clearArchivedLogs, hpc]
      trivial
  | start scenario hardwareIds hpc hvalid hrecords hids =>
      apply logged_launchNext
      · exact (logged_clear h).silent ((silent_refl _).congr rfl rfl rfl rfl)
      · rfl
  | spawned captured erase hardwareIds nodeId rest record hpc hrecord =>
      exact logged_spawned h harchives hsupervised hpc hrecord
  | spawnRaised =>
      exact ⟨h.silent (silent_stopUnlocked s), archives_quiet (quiet_stopUnlocked s)⟩
  | stop => exact ⟨h.silent (silent_stopUnlocked s), archives_quiet (quiet_stopUnlocked s)⟩
  | childrenExited =>
      apply logged_drainRecords h
      exact fun nodeId hcontains => .inl (Dict.mem_keys.mpr hcontains)
  | timedOut =>
      exact ⟨h.silent ((silent_signalAlive s .kill).congr rfl rfl rfl rfl), trivial⟩
  | drained nodeId rest record hpc hrecord =>
      rw [hpc] at harchives
      apply logged_drainRecords (logged_drainRecord h howned hrecord)
      intro other hcontains
      rw [contains_drainRecord] at hcontains
      simp only [drainRecord]
      rw [Dict.contains_set, howned.keyed nodeId record hrecord]
      rcases harchives other hcontains with hremaining | harchive
      · rcases List.mem_cons.mp hremaining with hsame | hrest
        · exact .inr (.inl hsame)
        · exact .inl hrest
      · exact .inr (.inr harchive)
  | cancelled => exact ⟨h.silent ((silent_refl s).congr rfl rfl rfl rfl), trivial⟩
  | exited pid returncode =>
      refine hquietly (silent_mapChildren ?_) rfl
      intro i child
      split
      · rfl
      · rfl
  | monitor nodeId record pid child returncode =>
      unfold monitorExit
      split
      · exact hquietly (silent_adjustRecord sameLines_endMonitor) rfl
      · exact hquietly ((silent_adjustRecord sameLines_fail).congr rfl rfl rfl rfl) rfl
  | handled => exact hquietly (silent_adjustRecord sameLines_endMonitor) rfl
  | line nodeId stream text record pid hrecord htask hprocess =>
      refine ⟨logged_line h howned hrecord htask hprocess rfl rfl rfl rfl, ?_⟩
      cases hpc : s.lifecycleLock with
      | spawning =>
          rw [hpc] at harchives
          simp only [adjustChild, mapChildren, adjustRecord, mapRecords, hpc]
          exact harchives
      | draining remaining =>
          rw [hpc] at harchives
          simp only [adjustChild, mapChildren, adjustRecord, mapRecords, hpc]
          intro other hcontains
          simp only [Dict.contains, Dict.get?_mapValues, Option.isSome_map] at hcontains
          exact harchives other hcontains
      | _ =>
          simp only [adjustChild, mapChildren, adjustRecord, mapRecords, hpc]
          trivial
  | outputEnded nodeId stream =>
      exact hquietly (silent_adjustRecord fun record => sameLines_endDrain record stream) rfl
  | clearArchivedLogs =>
      refine ⟨logged_clear h, ?_⟩
      have hpc : s.clearArchivedLogs.lifecycleLock = .idle :=
        hclears.resolve_left Bool.noConfusion
      rw [hpc]
      trivial

theorem logged_new : Logged new ∧ Archives new new.lifecycleLock := by
  refine ⟨⟨?_, ?_, ?_, ?_⟩, trivial⟩
  · intro nodeId pid hlaunched
    cases hlaunched
  · intro nodeId record hrecord
    cases hrecord
  · intro nodeId archive harchive
    cases harchive
  · intro nodeId hknown
    cases hknown

/-- A node has logs if and only if it got a record in the last start, unless the archive was
cleared since; and what `recent_logs` gives are the last of the last 250 lines that were
read from the child it then got, whether it still runs, has exited or was stopped. -/
theorem recentLogs_eq_log (config : SupervisorConfig) {s : NativeProcessSupervisor}
    (hrun : Run (step config) ClearsWhenFree new s) (nodeId : String) (stream : OutputStream)
    (limit : Nat) :
    s.hasLogs nodeId = s.launched.contains nodeId ∧
      s.recentLogs nodeId stream limit = s.logOf nodeId stream limit := by
  obtain ⟨⟨hlogged, _⟩, _⟩ := hrun.invariant
    (I := fun s => (Logged s ∧ Archives s s.lifecycleLock) ∧ Supervised s)
    (fun u a v h hclears hstep =>
      ⟨logged_step h.1.1 h.1.2 h.2 hclears hstep, h.2.step hstep⟩)
    ⟨logged_new, supervised_new⟩
  cases hrecord : s.records.get? nodeId with
  | some record =>
      obtain ⟨hlaunched, hlines⟩ := hlogged.kept nodeId record hrecord
      obtain ⟨hmaxlen, hholds⟩ := hlines stream
      rw [BoundedDeque.Holds, hmaxlen] at hholds
      refine ⟨?_, ?_⟩
      · simp [hasLogs, Dict.contains, hrecord, hlaunched]
      · simp only [recentLogs, logOf, hrecord, hlaunched, hholds, Option.map_some]
  | none =>
      cases harchive : s.archivedLogs.get? nodeId with
      | some archive =>
          obtain ⟨process, hlaunched, hlines⟩ := hlogged.archived nodeId archive harchive
          refine ⟨?_, ?_⟩
          · simp [hasLogs, Dict.contains, hrecord, harchive, hlaunched]
          · simp only [recentLogs, logOf, hrecord, harchive, hlaunched, (hlines stream).1,
              Option.map_some]
      | none =>
          have hnone : s.launched.contains nodeId = false := by
            rw [← Bool.not_eq_true]
            intro hknown
            have hlogs := hlogged.known nodeId hknown
            simp [hasLogs, Dict.contains, hrecord, harchive] at hlogs
          refine ⟨?_, ?_⟩
          · rw [hnone]
            simp [hasLogs, Dict.contains, hrecord, harchive]
          · have hget : s.launched.get? nodeId = none := by
              simpa [Dict.contains] using hnone
            simp [recentLogs, logOf, hrecord, harchive, hget]

/-- Two children write, the first while it is asked to stop, the second after it exited. -/
def writtenLogs : List Action :=
  [.start twoNodes false, .spawned true, .spawned true, .line "node-1" .stdout "started",
    .line "node-2" .stderr "warning", .stop, .line "node-1" .stdout "stopped", .exited 0 0,
    .exited 1 0, .childrenExited, .drained, .line "node-2" .stderr "late", .drained]

def afterWrittenLogs : NativeProcessSupervisor :=
  (exec (step saltedSupervisor) writtenLogs new).getD new

/-- The archive of both nodes after the stop. -/
theorem writtenLogs_kept :
    (afterWrittenLogs.hasLogs "node-2" = afterWrittenLogs.launched.contains "node-2" ∧
      afterWrittenLogs.recentLogs "node-2" .stderr 1 =
        afterWrittenLogs.logOf "node-2" .stderr 1) ∧
    afterWrittenLogs.recentLogs "node-2" .stderr 1 = some ["late"] ∧
    afterWrittenLogs.recentLogs "node-1" .stdout 2 = some ["started", "stopped"] := by
  have hsome : (exec (step saltedSupervisor) writtenLogs new).isSome = true := by
    decide +kernel
  have hclears : Conforms (step saltedSupervisor) ClearsWhenFree writtenLogs new := by
    decide +kernel
  have hrun : Run (step saltedSupervisor) ClearsWhenFree new afterWrittenLogs :=
    .of_exec (Option.some_get hsome ▸ rfl) hclears
  exact ⟨recentLogs_eq_log saltedSupervisor hrun "node-2" .stderr 1, by decide +kernel,
    by decide +kernel⟩

end NativeProcessSupervisor

end MeshtasticLab.Runtime

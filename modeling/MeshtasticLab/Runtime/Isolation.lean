/-
  Runtime/Isolation.lean --- what separates the children, and what a start promises.

  The records of a supervisor differ in hardware id, port and data directory, and every
  child was started with those of its record.  As long as no task is cancelled, a start
  ends with a child for every node or with none at all.
-/
import MeshtasticLab.Runtime.Children

set_option autoImplicit false

namespace MeshtasticLab.Runtime

open MeshtasticLab.Foundation MeshtasticLab.Gateway MeshtasticLab.Models

namespace NativeProcessSupervisor

variable {config : SupervisorConfig} {s t : NativeProcessSupervisor}

/-! ## Places -/

/-- Ids that nodes may have, no two nodes the same. -/
structure Separate (hardwareIds : Dict String Nat) : Prop where
  valid : ∀ nodeId hardwareId, hardwareIds.get? nodeId = some hardwareId →
    hardwareId ≠ 0 ∧ hardwareId ≠ 0xFFFFFFFF
  distinct : ∀ nodeId other hardwareId, hardwareIds.get? nodeId = some hardwareId →
    hardwareIds.get? other = some hardwareId → nodeId = other

theorem separate_hardwareIdsFor {nodeIds : List String} {hardwareIds : Dict String Nat}
    (hids : hardwareIdsFor config.sha256 config.fuel nodeIds = some hardwareIds) :
    Separate hardwareIds := by
  obtain ⟨used, hassigned⟩ := assigned_assignIds Assigned.empty hids
  exact ⟨hassigned.valid, hassigned.distinct⟩

/-- The place of a node: its hardware id, the port of its position and its directory. -/
structure Placed (config : SupervisorConfig) (requested : List String)
    (hardwareIds : Dict String Nat) (nodeId : String) (record : ProcessRecord) : Prop where
  hardware : hardwareIds.get? nodeId = some record.hardwareId
  port : ∃ index, requested[index]? = some nodeId ∧
    record.internalPort = config.internalPortBase + index
  directory : record.dataDirectory = s!"{config.dataRoot}/{nodeId}/state"

/-- Every record has the place of its node and its child the command of its record; the
nodes that a start still has to do come with their positions. -/
structure Isolated (config : SupervisorConfig) (s : NativeProcessSupervisor)
    (hardwareIds : Dict String Nat) : Prop where
  separate : Separate hardwareIds
  placed : ∀ nodeId record, s.records.get? nodeId = some record →
    Placed config s.requested hardwareIds nodeId record
  command : ∀ nodeId record pid child, s.records.get? nodeId = some record →
    record.process = some pid → s.children[pid]? = some child →
      ∃ erase, child.command = record.command config.binaryPath erase

/-- A start goes on with these hardware ids, and with the nodes at their positions. -/
def Continues (s : NativeProcessSupervisor) (hardwareIds : Dict String Nat) :
    SupervisorPc → Prop
  | .spawning _ ids _ rest =>
      ids = hardwareIds ∧ ∀ node ∈ rest, s.requested[node.2]? = some node.1
  | _ => True

theorem continues_quiet {hardwareIds : Dict String Nat} {pc : SupervisorPc}
    (hquiet : pc.isQuiet = true) : Continues s hardwareIds pc := by
  cases pc with
  | spawning => cases hquiet
  | _ => trivial

theorem Placed.alike {requested : List String} {hardwareIds : Dict String Nat}
    {nodeId : String} {record before : ProcessRecord}
    (h : Placed config requested hardwareIds nodeId before)
    (hfixed : record.fixed = before.fixed) :
    Placed config requested hardwareIds nodeId record := by
  obtain ⟨_, hhardware, hport, hdirectory, _⟩ := fixed_eq.mp hfixed
  refine ⟨?_, ?_, ?_⟩
  · rw [hhardware]
    exact h.hardware
  · rw [hport]
    exact h.port
  · rw [hdirectory]
    exact h.directory

theorem command_alike {record before : ProcessRecord} (hfixed : record.fixed = before.fixed)
    (binaryPath : String) (erase : Bool) :
    record.command binaryPath erase = before.command binaryPath erase := by
  obtain ⟨_, hhardware, hport, hdirectory, _⟩ := fixed_eq.mp hfixed
  unfold ProcessRecord.command
  rw [hhardware, hport, hdirectory]

theorem Isolated.alike {hardwareIds : Dict String Nat} (h : Isolated config s hardwareIds)
    (halike : Alike s t) : Isolated config t hardwareIds where
  separate := h.separate
  placed nodeId record hrecord := by
    obtain ⟨before, hbefore, hfixed⟩ := halike.record hrecord
    rw [halike.requested]
    exact (h.placed nodeId before hbefore).alike hfixed
  command nodeId record pid child hrecord hprocess hchild := by
    obtain ⟨before, hbefore, hfixed⟩ := halike.record hrecord
    have hkept := halike.children pid
    rw [hchild, Option.map_some] at hkept
    obtain ⟨old, hold, hsame⟩ := Option.map_eq_some_iff.mp hkept.symm
    obtain ⟨_, _, _, _, hpid⟩ := fixed_eq.mp hfixed
    obtain ⟨erase, hcommand⟩ := h.command nodeId before pid old hbefore (hpid ▸ hprocess) hold
    refine ⟨erase, ?_⟩
    rw [command_alike hfixed, ← hcommand]
    exact (congrArg Prod.snd hsame).symm

/-- The isolation of a state, with what a start relies on. -/
def Apart (config : SupervisorConfig) (s : NativeProcessSupervisor) : Prop :=
  ∃ hardwareIds, Isolated config s hardwareIds ∧ Continues s hardwareIds s.lifecycleLock

theorem apart_stopUnlocked {hardwareIds : Dict String Nat}
    (h : Isolated config s hardwareIds) : Apart config s.stopUnlocked :=
  ⟨hardwareIds, h.alike (alike_stopUnlocked s), continues_quiet (quiet_stopUnlocked s)⟩

theorem apart_launchNext {hardwareIds : Dict String Nat} (h : Isolated config s hardwareIds)
    {erase : Bool} {nodes : List (String × Nat)}
    (hnodes : ∀ node ∈ nodes, s.requested[node.2]? = some node.1) :
    Apart config (launchNext config s erase hardwareIds nodes) := by
  cases nodes with
  | nil => exact ⟨hardwareIds, h.alike ((Alike.refl s).congr rfl rfl rfl), trivial⟩
  | cons node rest =>
      obtain ⟨nodeId, index⟩ := node
      simp only [launchNext]
      split
      · exact apart_stopUnlocked h
      · next hardwareId hget =>
          refine ⟨hardwareIds, ⟨h.separate, ?_, ?_⟩, rfl, ?_⟩
          · intro other record hrecord
            rw [Dict.get?_set] at hrecord
            split at hrecord
            · next hsame =>
                cases hrecord
                rw [hsame]
                exact ⟨hget, ⟨index, hnodes _ List.mem_cons_self, rfl⟩, rfl⟩
            · exact h.placed other record hrecord
          · intro other record pid child hrecord hprocess hchild
            rw [Dict.get?_set] at hrecord
            split at hrecord
            · cases hrecord
              cases hprocess
            · exact h.command other record pid child hrecord hprocess hchild
          · exact fun other hother => hnodes other (List.mem_cons_of_mem _ hother)

/-- The new child has the command of its record. -/
theorem Isolated.spawn {hardwareIds : Dict String Nat} (h : Isolated config s hardwareIds)
    (howned : Owned s) {nodeId : String} {record : ProcessRecord} {child : ChildProcess}
    {erase : Bool} (hrecord : s.records.get? nodeId = some record)
    (hcommand : child.command = record.command config.binaryPath erase)
    (hrecords : t.records = (s.adjustRecord nodeId fun record =>
      { record with process := some s.children.length }).records)
    (hchildren : t.children = s.children ++ [child]) (hrequested : t.requested = s.requested) :
    Isolated config t hardwareIds := by
  have hget : ∀ other, t.records.get? other = (s.records.get? other).map fun record =>
      if other = nodeId then { record with process := some s.children.length } else record := by
    intro other
    rw [hrecords]
    exact Dict.get?_mapValues _ _ _
  refine ⟨h.separate, ?_, ?_⟩
  · intro other found hfound
    rw [hget] at hfound
    obtain ⟨before, hbefore, rfl⟩ := Option.map_eq_some_iff.mp hfound
    rw [hrequested]
    have hplaced := h.placed other before hbefore
    split
    · exact ⟨hplaced.hardware, hplaced.port, hplaced.directory⟩
    · exact hplaced
  · intro other found pid now hfound hprocess hnow
    rw [hget] at hfound
    obtain ⟨before, hbefore, rfl⟩ := Option.map_eq_some_iff.mp hfound
    rw [hchildren] at hnow
    split at hprocess
    · next hsame =>
        cases hprocess
        rw [List.getElem?_concat_length] at hnow
        cases hnow
        rw [hsame, hrecord] at hbefore
        cases hbefore
        rw [if_pos hsame]
        exact ⟨erase, hcommand⟩
    · next hother =>
        -- an older process is not the new child
        obtain ⟨old, hold, _⟩ := howned.child other before pid hbefore hprocess
        have hlt := (List.getElem?_eq_some_iff.mp hold).1
        rw [List.getElem?_append_left hlt] at hnow
        rw [if_neg hother]
        exact h.command other before pid now hbefore hprocess hnow

theorem apart_spawned (h : Apart config s) (hsupervised : Supervised s)
    {captured erase : Bool} {hardwareIds : Dict String Nat} {nodeId : String}
    {rest : List (String × Nat)} {record : ProcessRecord}
    (hpc : s.lifecycleLock = .spawning erase hardwareIds nodeId rest)
    (hrecord : s.records.get? nodeId = some record) :
    Apart config (spawned config s captured erase hardwareIds nodeId record rest) := by
  obtain ⟨found, hisolated, hcontinues⟩ := h
  rw [hpc] at hcontinues
  obtain ⟨rfl, hnodes⟩ := hcontinues
  unfold spawned
  dsimp only
  split
  · apply apart_launchNext
    · refine Isolated.alike ?_ (alike_adjustRecord fun _ => rfl)
      exact hisolated.spawn hsupervised.toOwned hrecord rfl rfl rfl rfl
    · exact hnodes
  · apply apart_stopUnlocked
    exact hisolated.spawn hsupervised.toOwned hrecord rfl rfl rfl rfl

theorem apart_drainRecords {hardwareIds : Dict String Nat}
    (h : Isolated config s hardwareIds) (remaining : List String) :
    Apart config (s.drainRecords remaining) := by
  refine ⟨hardwareIds, ?_⟩
  unfold drainRecords
  split
  · refine ⟨⟨h.separate, ?_, ?_⟩, trivial⟩
    · intro nodeId record hrecord
      cases hrecord
    · intro nodeId record pid child hrecord
      cases hrecord
  · exact ⟨h.alike ((Alike.refl s).congr rfl rfl rfl), trivial⟩

theorem Apart.step (h : Apart config s) (hsupervised : Supervised s) {a : Action}
    (hstep : step config s a = some t) : Apart config t := by
  rcases (step_move hstep).reshapes_or_alike with hreshapes | ⟨halike, hlock⟩
  · cases hreshapes with
    | start scenario hardwareIds hvalid hrecords hids =>
        apply apart_launchNext
        · refine ⟨separate_hardwareIdsFor hids, ?_, ?_⟩
          · intro nodeId record hrecord
            simp [Dict.get?, clearArchivedLogs, hrecords] at hrecord
          · intro nodeId record pid child hrecord
            simp [Dict.get?, clearArchivedLogs, hrecords] at hrecord
        · intro node hnode
          exact List.mem_zipIdx_iff_getElem?.mp hnode
    | spawned captured erase hardwareIds nodeId rest record hpc hrecord =>
        exact apart_spawned h hsupervised hpc hrecord
    | childrenExited =>
        obtain ⟨hardwareIds, hisolated, _⟩ := h
        exact apart_drainRecords hisolated _
    | drained nodeId rest record =>
        obtain ⟨hardwareIds, hisolated, _⟩ := h
        exact apart_drainRecords (hisolated.alike (alike_drainRecord s nodeId record)) rest
  · obtain ⟨hardwareIds, hisolated, hcontinues⟩ := h
    refine ⟨hardwareIds, hisolated.alike halike, ?_⟩
    rcases hlock with hsame | hquiet
    · rw [hsame]
      cases hpc : s.lifecycleLock with
      | spawning erase ids nodeId rest =>
          rw [hpc] at hcontinues
          refine ⟨hcontinues.1, ?_⟩
          rw [halike.requested]
          exact hcontinues.2
      | _ => trivial
    · exact continues_quiet hquiet

theorem apart_new : Apart config new := by
  refine ⟨∅, ⟨⟨?_, ?_⟩, ?_, ?_⟩, trivial⟩
  · intro nodeId hardwareId hget
    cases hget
  · intro nodeId other hardwareId hget
    cases hget
  · intro nodeId record hrecord
    cases hrecord
  · intro nodeId record pid child hrecord
    cases hrecord

theorem apart_of_run {meets : NativeProcessSupervisor → Action → Prop}
    (hrun : Run (step config) meets new s) : Apart config s ∧ Supervised s := by
  refine hrun.invariant (I := fun s => Apart config s ∧ Supervised s) ?_
    ⟨apart_new, supervised_new⟩
  rintro u a v ⟨hapart, hsupervised⟩ _ hstep
  exact ⟨hapart.step hsupervised hstep, hsupervised.step hstep⟩

/-- Two nodes have two data directories. -/
theorem dataDirectory_injective {dataRoot nodeId other : String}
    (hsame : s!"{dataRoot}/{nodeId}/state" = s!"{dataRoot}/{other}/state") : nodeId = other := by
  have hcancelled : toString nodeId = toString other := by
    simpa [String.append_assoc] using hsame
  exact hcancelled

/-- Two children that run were started with the hardware ids, the ports and the data
directories of their records, all of them different, and with ids that nodes may have. -/
theorem running_children_isolated (config : SupervisorConfig) {s : NativeProcessSupervisor}
    (hrun : Run (step config) Always new s) {pid other : Nat} {child neighbour : ChildProcess}
    (hne : pid ≠ other) (hchild : s.children[pid]? = some child)
    (hneighbour : s.children[other]? = some neighbour) (halive : child.returncode = none)
    (hrunning : neighbour.returncode = none) :
    ∃ (record second : ProcessRecord) (erase eraseSecond : Bool),
      s.records.get? child.nodeId = some record ∧
      s.records.get? neighbour.nodeId = some second ∧
      child.command = record.command config.binaryPath erase ∧
      neighbour.command = second.command config.binaryPath eraseSecond ∧
      record.hardwareId ≠ second.hardwareId ∧ record.internalPort ≠ second.internalPort ∧
      record.dataDirectory ≠ second.dataDirectory ∧
      record.hardwareId ≠ 0 ∧ record.hardwareId ≠ 0xFFFFFFFF := by
  obtain ⟨⟨hardwareIds, hisolated, _⟩, hsupervised⟩ := apart_of_run hrun
  obtain ⟨record, hrecord, hprocess⟩ := hsupervised.owner pid child hchild halive
  obtain ⟨second, hsecond, hprocess₂⟩ := hsupervised.owner other neighbour hneighbour hrunning
  obtain ⟨erase, hcommand⟩ := hisolated.command _ record pid child hrecord hprocess hchild
  obtain ⟨eraseSecond, hcommand₂⟩ :=
    hisolated.command _ second other neighbour hsecond hprocess₂ hneighbour
  have hplaced := hisolated.placed _ record hrecord
  have hplaced₂ := hisolated.placed _ second hsecond
  have hnodes : child.nodeId ≠ neighbour.nodeId := by
    intro hsame
    rw [hsame, hsecond] at hrecord
    cases hrecord
    rw [hprocess₂] at hprocess
    exact hne (Option.some.inj hprocess).symm
  refine ⟨record, second, erase, eraseSecond, hrecord, hsecond, hcommand, hcommand₂, ?_, ?_, ?_,
    ?_⟩
  · intro hsame
    have hget := hplaced₂.hardware
    rw [← hsame] at hget
    exact hnodes (hisolated.separate.distinct _ _ _ hplaced.hardware hget)
  · intro hsame
    obtain ⟨index, hindex, hport⟩ := hplaced.port
    obtain ⟨index₂, hindex₂, hport₂⟩ := hplaced₂.port
    obtain rfl : index = index₂ := by omega
    rw [hindex] at hindex₂
    exact hnodes (Option.some.inj hindex₂)
  · intro hsame
    rw [hplaced.directory, hplaced₂.directory] at hsame
    exact hnodes (dataDirectory_injective hsame)
  · exact hisolated.separate.valid _ _ hplaced.hardware

/-- Both nodes get their child. -/
def fullStart : List Action := [.start twoNodes false, .spawned true, .spawned true]

def bothRunning : NativeProcessSupervisor :=
  (exec (step saltedSupervisor) fullStart new).getD new

/-- Two nodes whose hashes collide at first. -/
theorem bothRunning_isolated : ∃ child ∈ bothRunning.children[0]?,
    ∃ neighbour ∈ bothRunning.children[1]?,
      ∃ (record second : ProcessRecord) (erase eraseSecond : Bool),
        bothRunning.records.get? child.nodeId = some record ∧
        bothRunning.records.get? neighbour.nodeId = some second ∧
        child.command = record.command saltedSupervisor.binaryPath erase ∧
        neighbour.command = second.command saltedSupervisor.binaryPath eraseSecond ∧
        record.hardwareId ≠ second.hardwareId ∧ record.internalPort ≠ second.internalPort ∧
        record.dataDirectory ≠ second.dataDirectory ∧
        record.hardwareId ≠ 0 ∧ record.hardwareId ≠ 0xFFFFFFFF := by
  have hsome : (exec (step saltedSupervisor) fullStart new).isSome = true := by decide +kernel
  have hrun : Run (step saltedSupervisor) Always new bothRunning :=
    .of_exec (Option.some_get hsome ▸ rfl) (conforms_always fullStart _)
  have hfirst : ∃ child ∈ bothRunning.children[0]?, child.returncode = none := by decide +kernel
  have hsecond : ∃ child ∈ bothRunning.children[1]?, child.returncode = none := by
    decide +kernel
  obtain ⟨child, hchild, halive⟩ := hfirst
  obtain ⟨neighbour, hneighbour, hrunning⟩ := hsecond
  exact ⟨child, hchild, neighbour, hneighbour,
    running_children_isolated saltedSupervisor hrun (by decide) hchild hneighbour halive
      hrunning⟩

/-! ## All or nothing -/

/-- The task that holds the lock is cancelled. -/
def Action.isCancelled : Action → Bool
  | .cancelled => true
  | _ => false

/-- The task that holds the lock is not cancelled. -/
def Uncancelled (_ : NativeProcessSupervisor) (a : Action) : Prop := a.isCancelled = false

instance (s : NativeProcessSupervisor) (a : Action) : Decidable (Uncancelled s a) :=
  inferInstanceAs (Decidable (a.isCancelled = false))

/-- The child of a record was started, and has not been stopped. -/
def Up (record : ProcessRecord) : Prop :=
  record.process.isSome = true ∧ (record.state = .running ∨ record.state = .failed)

/-- Nothing is stopping, and either there is no record or every node that was asked for has
its child. -/
structure Settled (s : NativeProcessSupervisor) : Prop where
  calm : s.stopping = false
  whole : s.records.items = [] ∨
    s.records.keys = s.requested ∧
      ∀ nodeId record, s.records.get? nodeId = some record → Up record

/-- A free lock means a settled supervisor; a start has done a first part of the nodes. -/
def Whole (s : NativeProcessSupervisor) : Prop :=
  match s.lifecycleLock with
  | .idle => Settled s
  | .spawning _ _ nodeId rest =>
      s.stopping = false ∧ s.records.keys ++ rest.map Prod.fst = s.requested ∧
        ∀ other record, s.records.get? other = some record → other ≠ nodeId →
          Up record
  | _ => True

theorem Settled.adjustRecord (h : Settled s) {nodeId : String}
    {f : ProcessRecord → ProcessRecord}
    (hup : ∀ record, Up record → Up (f record))
    (hrecords : t.records = (s.adjustRecord nodeId f).records)
    (hstopping : t.stopping = s.stopping) (hrequested : t.requested = s.requested) :
    Settled t where
  calm := hstopping.trans h.calm
  whole := by
    rw [hrecords, hrequested]
    rcases h.whole with hempty | ⟨hkeys, hrunning⟩
    · left
      simp [NativeProcessSupervisor.adjustRecord, mapRecords, Dict.mapValues, hempty]
    · refine Or.inr ⟨by simpa [NativeProcessSupervisor.adjustRecord, mapRecords], ?_⟩
      intro other record hrecord
      simp only [NativeProcessSupervisor.adjustRecord, mapRecords, Dict.get?_mapValues] at hrecord
      obtain ⟨before, hbefore, rfl⟩ := Option.map_eq_some_iff.mp hrecord
      have hbefore := hrunning other before hbefore
      split
      · exact hup before hbefore
      · exact hbefore

/-- A task of a child changes its record, and at most reports its failure. -/
theorem Whole.adjustRecord (h : Whole s) {nodeId : String} {f : ProcessRecord → ProcessRecord}
    (hup : ∀ record, Up record → Up (f record))
    (hrecords : t.records = (s.adjustRecord nodeId f).records)
    (hlock : t.lifecycleLock = s.lifecycleLock)
    (hstopping : t.stopping = s.stopping) (hrequested : t.requested = s.requested) :
    Whole t := by
  unfold Whole at h ⊢
  rw [hlock]
  cases hpc : s.lifecycleLock with
  | idle =>
      rw [hpc] at h
      exact Settled.adjustRecord h hup hrecords hstopping hrequested
  | spawning erase hardwareIds node rest =>
      rw [hpc] at h
      obtain ⟨hcalm, hkeys, hrunning⟩ := h
      refine ⟨hstopping.trans hcalm, ?_, ?_⟩
      · rw [hrecords, hrequested]
        simpa [NativeProcessSupervisor.adjustRecord, mapRecords] using hkeys
      · intro other record hrecord hne
        rw [hrecords] at hrecord
        simp only [NativeProcessSupervisor.adjustRecord, mapRecords, Dict.get?_mapValues]
          at hrecord
        obtain ⟨before, hbefore, rfl⟩ := Option.map_eq_some_iff.mp hrecord
        have hbefore := hrunning other before hbefore hne
        split
        · exact hup before hbefore
        · exact hbefore
  | terminating => trivial
  | killing => trivial
  | draining => trivial

/-- Only the records, the lock, the flag and the nodes that were asked for count. -/
theorem Whole.congr (h : Whole s) (hrecords : t.records = s.records)
    (hlock : t.lifecycleLock = s.lifecycleLock) (hstopping : t.stopping = s.stopping)
    (hrequested : t.requested = s.requested) : Whole t := by
  unfold Whole at h ⊢
  rw [hlock, hrecords, hstopping, hrequested]
  split at h
  · exact ⟨hstopping.trans h.calm, by rw [hrecords, hrequested]; exact h.whole⟩
  · exact h
  · trivial

theorem whole_stopUnlocked (hcalm : s.stopping = false) : Whole s.stopUnlocked := by
  unfold stopUnlocked
  split
  · next hempty => exact ⟨hcalm, .inl hempty⟩
  · trivial

/-- The loop over the nodes goes on with the rest of the nodes that were asked for. -/
theorem whole_launchNext (hcalm : s.stopping = false) {erase : Bool}
    {hardwareIds : Dict String Nat} {nodes : List (String × Nat)}
    (hkeys : s.records.keys ++ nodes.map Prod.fst = s.requested)
    (hnew : ∀ nodeId ∈ nodes.map Prod.fst, s.records.get? nodeId = none)
    (hup : ∀ nodeId record, s.records.get? nodeId = some record → Up record) :
    Whole (launchNext config s erase hardwareIds nodes) := by
  cases nodes with
  | nil =>
      rw [List.map_nil, List.append_nil] at hkeys
      exact ⟨hcalm, .inr ⟨hkeys, hup⟩⟩
  | cons node rest =>
      obtain ⟨nodeId, index⟩ := node
      simp only [launchNext]
      split
      · exact whole_stopUnlocked hcalm
      · have habsent : nodeId ∉ s.records.items.map Prod.fst :=
          Dict.not_mem_of_get?_eq_none (hnew nodeId List.mem_cons_self)
        refine ⟨hcalm, ?_, ?_⟩
        · simp only [Dict.keys, Dict.items_set_of_new habsent]
          simpa [Dict.keys] using hkeys
        · intro other record hrecord hne
          rw [Dict.get?_set_of_ne _ hne] at hrecord
          exact hup other record hrecord

theorem whole_spawned (h : Whole s) (hsupervised : Supervised s) {captured erase : Bool}
    {hardwareIds : Dict String Nat} {nodeId : String} {rest : List (String × Nat)}
    {record : ProcessRecord} (hpc : s.lifecycleLock = .spawning erase hardwareIds nodeId rest) :
    Whole (spawned config s captured erase hardwareIds nodeId record rest) := by
  have hrelies := hsupervised.relies
  unfold Whole at h
  rw [hpc] at h hrelies
  obtain ⟨hcalm, hkeys, hup⟩ := h
  obtain ⟨_, _, hnew⟩ := hrelies
  unfold spawned
  dsimp only
  split
  · apply whole_launchNext
    · exact hcalm
    · simpa [NativeProcessSupervisor.adjustRecord, mapRecords] using hkeys
    · intro other hother
      simp only [NativeProcessSupervisor.adjustRecord, mapRecords, Dict.get?_mapValues,
        hnew other hother, Option.map_none]
    · intro other found hfound
      simp only [NativeProcessSupervisor.adjustRecord, mapRecords, Dict.get?_mapValues,
        Option.map_map] at hfound
      obtain ⟨before, hbefore, rfl⟩ := Option.map_eq_some_iff.mp hfound
      by_cases hsame : other = nodeId
      · simp [hsame, Up, ProcessRecord.track]
      · simpa [hsame] using hup other before hbefore hsame
  · exact whole_stopUnlocked hcalm

theorem whole_drainRecords (remaining : List String) : Whole (s.drainRecords remaining) := by
  unfold drainRecords
  split
  · exact ⟨rfl, .inl rfl⟩
  · trivial

theorem Whole.step (h : Whole s) (hsupervised : Supervised s) {a : Action}
    (huncancelled : Uncancelled s a) (hstep : step config s a = some t) : Whole t := by
  have hcalm : s.lifecycleLock = .idle → Settled s := by
    intro hpc
    simpa only [Whole, hpc] using h
  cases step_move hstep with
  | allocated => exact h
  | startRaised scenario hpc hrecords =>
      simp only [Whole, clearArchivedLogs, hpc]
      exact ⟨(hcalm hpc).calm, .inl hrecords⟩
  | start scenario hardwareIds hpc hvalid hrecords hids =>
      have hnone : ∀ nodeId, s.records.get? nodeId = none := by
        intro nodeId
        simp [Dict.get?, hrecords]
      apply whole_launchNext
      · rfl
      · simp [Dict.keys, clearArchivedLogs, hrecords]
      · exact fun nodeId _ => hnone nodeId
      · intro nodeId record hrecord
        simp only [clearArchivedLogs, hnone] at hrecord
        cases hrecord
  | spawned captured erase hardwareIds nodeId rest record hpc =>
      exact whole_spawned h hsupervised hpc
  | spawnRaised erase hardwareIds nodeId rest hpc =>
      simp only [Whole, hpc] at h
      exact whole_stopUnlocked h.1
  | stop hpc => exact whole_stopUnlocked (hcalm hpc).calm
  | childrenExited => exact whole_drainRecords _
  | timedOut => trivial
  | drained nodeId rest => exact whole_drainRecords rest
  | cancelled => cases huncancelled
  | exited => exact h.congr rfl rfl rfl rfl
  | monitor nodeId record pid child returncode =>
      unfold monitorExit
      split
      · exact h.adjustRecord (f := (·.endMonitor)) (fun _ hup => hup) rfl rfl rfl rfl
      · exact h.adjustRecord (f := (·.fail)) (fun _ hup => ⟨hup.1, .inr rfl⟩) rfl rfl rfl rfl
  | handled =>
      exact h.adjustRecord (f := (·.endMonitor)) (fun _ hup => hup) rfl rfl rfl rfl
  | line nodeId stream text =>
      refine h.adjustRecord (f := (·.recordLine stream text)) ?_ rfl rfl rfl rfl
      intro record hup
      cases stream <;> exact hup
  | outputEnded nodeId stream =>
      refine h.adjustRecord (f := (·.endDrain stream)) ?_ rfl rfl rfl rfl
      intro record hup
      cases stream <;> exact hup
  | clearArchivedLogs => exact h.congr rfl rfl rfl rfl

/-- As long as no task is cancelled, a free lock means that there is no record and no child
that runs, or that every node of the last start has its child, whose exit is the only
thing that can have happened to it. -/
theorem start_all_or_nothing (config : SupervisorConfig) {s : NativeProcessSupervisor}
    (hrun : Run (step config) Uncancelled new s) (hidle : s.lifecycleLock = .idle) :
    s.stopping = false ∧
      ((s.records.items = [] ∧ ∀ child ∈ s.children, child.returncode ≠ none) ∨
        (s.records.keys = s.requested ∧
          ∀ nodeId record, s.records.get? nodeId = some record →
            (∃ pid, ∃ child ∈ s.children[pid]?, record.process = some pid ∧
              child.nodeId = nodeId) ∧
            (record.state = .running ∨ record.state = .failed))) := by
  obtain ⟨hwhole, hsupervised⟩ := hrun.invariant (I := fun s => Whole s ∧ Supervised s)
    (fun u a v h hmeets hstep => ⟨h.1.step h.2 hmeets hstep, h.2.step hstep⟩)
    ⟨⟨rfl, .inl rfl⟩, supervised_new⟩
  unfold Whole at hwhole
  rw [hidle] at hwhole
  refine ⟨hwhole.calm, hwhole.whole.imp ?_ ?_⟩
  · intro hempty
    refine ⟨hempty, fun child hmember hrunning => ?_⟩
    obtain ⟨pid, hchild⟩ := List.mem_iff_getElem?.mp hmember
    obtain ⟨record, hrecord, _⟩ := hsupervised.owner pid child hchild hrunning
    simp [Dict.get?, hempty] at hrecord
  · rintro ⟨hkeys, hup⟩
    refine ⟨hkeys, fun nodeId record hrecord => ?_⟩
    obtain ⟨hprocess, hstate⟩ := hup nodeId record hrecord
    obtain ⟨pid, hpid⟩ := Option.isSome_iff_exists.mp hprocess
    obtain ⟨child, hchild, hnode⟩ := hsupervised.child nodeId record pid hrecord hpid
    exact ⟨⟨pid, child, hchild, hpid, hnode⟩, hstate⟩

/-- A start that has done both nodes has a child for both. -/
theorem bothRunning_whole : bothRunning.records.keys = ["node-1", "node-2"] ∧
    ∀ nodeId record, bothRunning.records.get? nodeId = some record →
      (∃ pid, ∃ child ∈ bothRunning.children[pid]?, record.process = some pid ∧
        child.nodeId = nodeId) ∧
      (record.state = .running ∨ record.state = .failed) := by
  have hsome : (exec (step saltedSupervisor) fullStart new).isSome = true := by decide +kernel
  have hconforms : Conforms (step saltedSupervisor) Uncancelled fullStart new := by
    decide +kernel
  have hrun : Run (step saltedSupervisor) Uncancelled new bothRunning :=
    .of_exec (Option.some_get hsome ▸ rfl) hconforms
  have hkeys : bothRunning.records.keys = ["node-1", "node-2"] := by decide +kernel
  have hfree : bothRunning.lifecycleLock = .idle := by decide +kernel
  rcases (start_all_or_nothing saltedSupervisor hrun hfree).2 with ⟨hempty, _⟩ | ⟨_, hup⟩
  · rw [Dict.keys, hempty] at hkeys
    cases hkeys
  · exact ⟨hkeys, hup⟩

end NativeProcessSupervisor

end MeshtasticLab.Runtime

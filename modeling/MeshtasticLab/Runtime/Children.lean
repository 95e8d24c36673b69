/-
  Runtime/Children.lean --- the children of a supervisor and its records.

  A child that runs is the process of the record of its node: no child is lost, whatever
  fails or is cancelled, so that a stop that has returned leaves none behind.  During a
  stop every child that runs has been asked to terminate.
-/
import MeshtasticLab.Runtime.SupervisorMoves

set_option autoImplicit false

namespace MeshtasticLab.Runtime

open MeshtasticLab.Foundation MeshtasticLab.Gateway MeshtasticLab.Models

namespace NativeProcessSupervisor

variable {config : SupervisorConfig} {s t : NativeProcessSupervisor}

/-! ## Who owns a child -/

/-- Every record is about its node and a child of it, and every child that runs is the
process of the record of its node. -/
structure Owned (s : NativeProcessSupervisor) : Prop where
  keyed : ∀ nodeId record, s.records.get? nodeId = some record → record.nodeId = nodeId
  child : ∀ nodeId record pid, s.records.get? nodeId = some record →
    record.process = some pid → ∃ child, s.children[pid]? = some child ∧ child.nodeId = nodeId
  owner : ∀ (pid : Nat) child, s.children[pid]? = some child → child.returncode = none →
    ∃ record, s.records.get? child.nodeId = some record ∧ record.process = some pid

/-- What the holder of the lock relies on: nodes that have no child yet, and then that all
children have exited. -/
def Relies (s : NativeProcessSupervisor) : SupervisorPc → Prop
  | .spawning _ _ nodeId rest =>
      (∃ record, s.records.get? nodeId = some record ∧ record.process = none) ∧
        (nodeId :: rest.map Prod.fst).Nodup ∧
        ∀ other ∈ rest.map Prod.fst, s.records.get? other = none
  | .draining _ => ∀ (pid : Nat) child, s.children[pid]? = some child → child.returncode ≠ none
  | _ => True

/-- Only the records and the children count. -/
theorem Owned.congr (h : Owned s) (hrecords : t.records = s.records)
    (hchildren : t.children = s.children) : Owned t where
  keyed := by
    rw [hrecords]
    exact h.keyed
  child := by
    rw [hrecords, hchildren]
    exact h.child
  owner := by
    rw [hrecords, hchildren]
    exact h.owner

theorem Owned.alike (h : Owned s) (halike : Alike s t) : Owned t where
  keyed nodeId record hrecord := by
    obtain ⟨before, hbefore, hfixed⟩ := halike.record hrecord
    rw [(fixed_eq.mp hfixed).1]
    exact h.keyed nodeId before hbefore
  child nodeId record pid hrecord hprocess := by
    obtain ⟨before, hbefore, hfixed⟩ := halike.record hrecord
    obtain ⟨_, _, _, _, hsame⟩ := fixed_eq.mp hfixed
    obtain ⟨child, hchild, hnode⟩ := h.child nodeId before pid hbefore (hsame ▸ hprocess)
    obtain ⟨after, hafter, hkept⟩ := halike.child_after hchild
    refine ⟨after, hafter, ?_⟩
    rw [← hnode]
    exact congrArg Prod.fst hkept
  owner pid child hchild hrunning := by
    obtain ⟨before, hbefore, hran⟩ := halike.alive pid child hchild hrunning
    obtain ⟨after, hafter, hkept⟩ := halike.child_after hbefore
    rw [hchild] at hafter
    cases hafter
    obtain ⟨record, hrecord, hprocess⟩ := h.owner pid before hbefore hran
    obtain ⟨now, hnow, hfixed⟩ := halike.record_after hrecord
    refine ⟨now, ?_, (fixed_eq.mp hfixed).2.2.2.2.trans hprocess⟩
    rw [show child.nodeId = before.nodeId from congrArg Prod.fst hkept]
    exact hnow

theorem Relies.alike {pc : SupervisorPc} (h : Relies s pc) (halike : Alike s t) :
    Relies t pc := by
  cases pc with
  | spawning erase hardwareIds nodeId rest =>
      obtain ⟨⟨record, hrecord, hprocess⟩, hnodup, hnew⟩ := h
      obtain ⟨after, hafter, hfixed⟩ := halike.record_after hrecord
      refine ⟨⟨after, hafter, (fixed_eq.mp hfixed).2.2.2.2.trans hprocess⟩, hnodup, ?_⟩
      intro other hother
      have hnone := halike.records other
      rw [hnew other hother, Option.map_none] at hnone
      exact Option.map_eq_none_iff.mp hnone
  | draining remaining =>
      intro pid child hchild hrunning
      obtain ⟨before, hbefore, hran⟩ := halike.alive pid child hchild hrunning
      exact h pid before hbefore hran
  | idle => trivial
  | terminating => trivial
  | killing => trivial

/-- A quiet holder of the lock relies on nothing. -/
theorem relies_quiet {pc : SupervisorPc} (hquiet : pc.isQuiet = true) : Relies s pc := by
  cases pc with
  | spawning => cases hquiet
  | draining => cases hquiet
  | idle => trivial
  | terminating => trivial
  | killing => trivial

/-- The invariant of the records and the children. -/
structure Supervised (s : NativeProcessSupervisor) : Prop extends Owned s where
  relies : Relies s s.lifecycleLock

theorem Owned.quiet (h : Owned s) (hquiet : s.lifecycleLock.isQuiet = true) : Supervised s :=
  ⟨h, relies_quiet hquiet⟩

theorem supervised_stopUnlocked (h : Owned s) : Supervised s.stopUnlocked :=
  (h.alike (alike_stopUnlocked s)).quiet (quiet_stopUnlocked s)

/-- A record of a new node, without a process. -/
theorem Owned.allocate (h : Owned s) {nodeId : String} {record : ProcessRecord}
    (hnew : s.records.get? nodeId = none) (hkeyed : record.nodeId = nodeId)
    (hprocess : record.process = none) (hrecords : t.records = s.records.set nodeId record)
    (hchildren : t.children = s.children) : Owned t where
  keyed other found hfound := by
    rw [hrecords, Dict.get?_set] at hfound
    split at hfound
    · next hsame =>
        cases hfound
        rw [hkeyed, hsame]
    · exact h.keyed other found hfound
  child other found pid hfound hpid := by
    rw [hrecords, Dict.get?_set] at hfound
    rw [hchildren]
    split at hfound
    · cases hfound
      rw [hprocess] at hpid
      cases hpid
    · exact h.child other found pid hfound hpid
  owner pid child hchild hrunning := by
    rw [hchildren] at hchild
    obtain ⟨found, hfound, hpid⟩ := h.owner pid child hchild hrunning
    refine ⟨found, ?_, hpid⟩
    rw [hrecords, Dict.get?_set_of_ne _ ?_]
    · exact hfound
    · intro hsame
      rw [hsame, hnew] at hfound
      cases hfound

/-- The loop over the nodes goes on with nodes that have no record. -/
theorem supervised_launchNext (h : Owned s) {erase : Bool} {hardwareIds : Dict String Nat}
    {nodes : List (String × Nat)} (hnodup : (nodes.map Prod.fst).Nodup)
    (hnew : ∀ nodeId ∈ nodes.map Prod.fst, s.records.get? nodeId = none) :
    Supervised (launchNext config s erase hardwareIds nodes) := by
  cases nodes with
  | nil => exact Owned.quiet (h.congr rfl rfl) rfl
  | cons node rest =>
      obtain ⟨nodeId, index⟩ := node
      simp only [launchNext]
      split
      · exact supervised_stopUnlocked h
      · next hardwareId hget =>
          refine ⟨h.allocate (hnew nodeId List.mem_cons_self) rfl rfl rfl rfl,
            ⟨_, Dict.get?_set_self _ _ _, rfl⟩, hnodup, ?_⟩
          intro other hother
          have hother' : other ≠ nodeId := by
            rintro rfl
            exact (List.nodup_cons.mp hnodup).1 hother
          dsimp only
          rw [Dict.get?_set_of_ne _ hother']
          exact hnew other (List.mem_cons_of_mem _ hother)

/-- A record without a process gets the new child. -/
theorem Owned.spawn (h : Owned s) {nodeId : String} {child : ChildProcess}
    (hnone : ∃ record, s.records.get? nodeId = some record ∧ record.process = none)
    (hnode : child.nodeId = nodeId)
    (hrecords : t.records = (s.adjustRecord nodeId fun record =>
      { record with process := some s.children.length }).records)
    (hchildren : t.children = s.children ++ [child]) : Owned t := by
  have hget : ∀ other, t.records.get? other = (s.records.get? other).map fun record =>
      if other = nodeId then { record with process := some s.children.length } else record := by
    intro other
    rw [hrecords]
    exact Dict.get?_mapValues _ _ _
  have hchild : ∀ (pid : Nat) found, s.children[pid]? = some found →
      t.children[pid]? = some found := by
    intro pid found hfound
    rw [hchildren, List.getElem?_append_left (List.getElem?_eq_some_iff.mp hfound).1]
    exact hfound
  refine ⟨?_, ?_, ?_⟩
  · intro other found hfound
    rw [hget] at hfound
    obtain ⟨before, hbefore, rfl⟩ := Option.map_eq_some_iff.mp hfound
    have hkeyed := h.keyed other before hbefore
    split
    · exact hkeyed
    · exact hkeyed
  · intro other found pid hfound hpid
    rw [hget] at hfound
    obtain ⟨before, hbefore, rfl⟩ := Option.map_eq_some_iff.mp hfound
    split at hpid
    · next hsame =>
        cases hpid
        refine ⟨child, ?_, hnode.trans hsame.symm⟩
        rw [hchildren, List.getElem?_concat_length]
    · obtain ⟨old, hold, hkept⟩ := h.child other before pid hbefore hpid
      exact ⟨old, hchild pid old hold, hkept⟩
  · intro pid found hfound hrunning
    rw [hchildren] at hfound
    rcases Nat.lt_or_ge pid s.children.length with hlt | hge
    · rw [List.getElem?_append_left hlt] at hfound
      obtain ⟨record, hrecord, hpid⟩ := h.owner pid found hfound hrunning
      refine ⟨record, ?_, hpid⟩
      rw [hget, hrecord, Option.map_some, if_neg]
      -- the node of the new child has no process before
      intro hsame
      obtain ⟨empty, hempty, hprocess⟩ := hnone
      rw [hsame, hempty] at hrecord
      cases hrecord
      rw [hprocess] at hpid
      cases hpid
    · obtain ⟨rfl, rfl⟩ : pid = s.children.length ∧ found = child := by
        rw [List.getElem?_append_right hge] at hfound
        obtain ⟨hlt, heq⟩ := List.getElem?_eq_some_iff.mp hfound
        simp only [List.length_singleton] at hlt
        refine ⟨by omega, ?_⟩
        simpa [show pid - s.children.length = 0 by omega] using heq.symm
      obtain ⟨record, hrecord, _⟩ := hnone
      refine ⟨{ record with process := some s.children.length }, ?_, rfl⟩
      rw [hget, hnode, hrecord, Option.map_some, if_pos rfl]

theorem supervised_spawned (h : Supervised s) {captured erase : Bool}
    {hardwareIds : Dict String Nat} {nodeId : String} {rest : List (String × Nat)}
    {record : ProcessRecord} (hpc : s.lifecycleLock = .spawning erase hardwareIds nodeId rest) :
    Supervised (spawned config s captured erase hardwareIds nodeId record rest) := by
  have hrelies := h.relies
  rw [hpc] at hrelies
  obtain ⟨hnone, hnodup, hnew⟩ := hrelies
  unfold spawned
  dsimp only
  split
  · apply supervised_launchNext
    · refine Owned.alike ?_ (alike_adjustRecord fun _ => rfl)
      exact h.toOwned.spawn hnone rfl rfl rfl
    · exact (List.nodup_cons.mp hnodup).2
    · intro other hother
      simp only [adjustRecord, mapRecords]
      rw [Dict.get?_mapValues, Dict.get?_mapValues, hnew other hother]
      rfl
  · apply supervised_stopUnlocked
    exact h.toOwned.spawn hnone rfl rfl rfl

/-- The process of a record has exited. -/
theorem exited_of_not_isAlive {record : ProcessRecord} {pid : Nat} {child : ChildProcess}
    (hdead : s.isAlive record = false) (hprocess : record.process = some pid)
    (hchild : s.children[pid]? = some child) : child.returncode ≠ none := by
  simp only [isAlive, hprocess, Option.bind_some, hchild] at hdead
  exact Option.isSome_iff_ne_none.mp (by simpa using hdead)

/-- When the processes of all records have exited, all children have. -/
theorem Owned.reaped (h : Owned s) (hexited : s.allExited = true) (pid : Nat)
    (child : ChildProcess) (hchild : s.children[pid]? = some child) :
    child.returncode ≠ none := by
  intro hrunning
  obtain ⟨record, hrecord, hprocess⟩ := h.owner pid child hchild hrunning
  have hdead := List.all_eq_true.mp hexited _ (Dict.get?_eq_some.mp hrecord)
  rw [Bool.not_eq_true'] at hdead
  exact exited_of_not_isAlive hdead hprocess hchild hrunning

theorem supervised_drainRecords (h : Owned s)
    (hreaped : ∀ (pid : Nat) child, s.children[pid]? = some child → child.returncode ≠ none)
    (remaining : List String) : Supervised (s.drainRecords remaining) := by
  unfold drainRecords
  split
  · refine Owned.quiet ⟨?_, ?_, ?_⟩ rfl
    · intro nodeId record hrecord
      cases hrecord
    · intro nodeId record pid hrecord
      cases hrecord
    · intro pid child hchild hrunning
      exact absurd hrunning (hreaped pid child hchild)
  · exact ⟨h.congr rfl rfl, hreaped⟩

theorem map_fst_zipIdx (nodeIds : List String) : nodeIds.zipIdx.map Prod.fst = nodeIds := by
  simp

theorem Supervised.step (h : Supervised s) {a : Action} (hstep : step config s a = some t) :
    Supervised t := by
  rcases (step_move hstep).reshapes_or_alike with hreshapes | ⟨halike, hlock⟩
  · cases hreshapes with
    | start scenario hardwareIds hvalid hrecords hids =>
        apply supervised_launchNext
        · exact h.toOwned.congr rfl rfl
        · rw [map_fst_zipIdx]
          exact Scenario.nodeIds_nodup hvalid
        · intro nodeId _
          simp [Dict.get?, clearArchivedLogs, hrecords]
    | spawned captured erase hardwareIds nodeId rest record hpc =>
        exact supervised_spawned h hpc
    | childrenExited hexited =>
        exact supervised_drainRecords h.toOwned (h.toOwned.reaped hexited) _
    | drained nodeId rest record hpc hrecord =>
        have hrelies := h.relies
        rw [hpc] at hrelies
        exact supervised_drainRecords (h.toOwned.alike (alike_drainRecord s nodeId record))
          hrelies rest
  · refine ⟨h.toOwned.alike halike, ?_⟩
    rcases hlock with hsame | hquiet
    · rw [hsame]
      exact h.relies.alike halike
    · exact relies_quiet hquiet

theorem supervised_new : Supervised new := by
  refine Owned.quiet ⟨?_, ?_, ?_⟩ rfl
  · intro nodeId record hrecord
    cases hrecord
  · intro nodeId record pid hrecord
    cases hrecord
  · intro pid child hchild
    cases hchild

/-! ## Signals -/

/-- What `_stopping` says in every phase of the holder of the lock. -/
def Phased (s : NativeProcessSupervisor) : Prop :=
  match s.lifecycleLock with
  | .idle => True
  | .spawning .. => s.stopping = false
  | _ => s.stopping = true

/-- A child that runs during a stop was asked to terminate, and so was a child that was
killed. -/
structure Signalled (s : NativeProcessSupervisor) : Prop where
  asked : s.stopping = true → ∀ (pid : Nat) child, s.children[pid]? = some child →
    child.returncode = none → Signal.terminate ∈ child.signals
  ordered : ∀ (pid : Nat) child, s.children[pid]? = some child →
    Signal.kill ∈ child.signals → Signal.terminate ∈ child.signals

theorem Signalled.congr (h : Signalled s) (hchildren : t.children = s.children)
    (hstopping : t.stopping = true → s.stopping = true) : Signalled t where
  asked hstop := by
    rw [hchildren]
    exact h.asked (hstopping hstop)
  ordered := by
    rw [hchildren]
    exact h.ordered

/-- A child changes, but neither its signals nor that it has exited. -/
theorem Signalled.adjustChild (h : Signalled s) {pid : Nat} {f : ChildProcess → ChildProcess}
    (hsignals : ∀ child, (f child).signals = child.signals)
    (halive : ∀ child, (f child).returncode = none → child.returncode = none) :
    Signalled (s.adjustChild pid f) where
  asked hstop i child hchild hrunning := by
    simp only [NativeProcessSupervisor.adjustChild, mapChildren, List.getElem?_mapIdx] at hchild
    obtain ⟨before, hbefore, rfl⟩ := Option.map_eq_some_iff.mp hchild
    split at hrunning
    · next hsame =>
        rw [if_pos hsame, hsignals]
        exact h.asked hstop i before hbefore (halive before hrunning)
    · next hother =>
        rw [if_neg hother]
        exact h.asked hstop i before hbefore hrunning
  ordered i child hchild hkill := by
    simp only [NativeProcessSupervisor.adjustChild, mapChildren, List.getElem?_mapIdx] at hchild
    obtain ⟨before, hbefore, rfl⟩ := Option.map_eq_some_iff.mp hchild
    split at hkill
    · next hsame =>
        rw [if_pos hsame, hsignals]
        rw [hsignals] at hkill
        exact h.ordered i before hbefore hkill
    · next hother =>
        rw [if_neg hother]
        exact h.ordered i before hbefore hkill

theorem mem_processes {pid : Nat} : pid ∈ s.processes ↔
    ∃ nodeId record, s.records.get? nodeId = some record ∧ record.process = some pid := by
  unfold processes
  rw [List.mem_filterMap]
  constructor
  · rintro ⟨⟨nodeId, record⟩, hmember, hprocess⟩
    exact ⟨nodeId, record, Dict.get?_eq_some.mpr hmember, hprocess⟩
  · rintro ⟨nodeId, record, hrecord, hprocess⟩
    exact ⟨(nodeId, record), Dict.get?_eq_some.mp hrecord, hprocess⟩

/-- A signal reaches every child that runs. -/
theorem Owned.signalAlive (h : Owned s) {signal : Signal} {pid : Nat} {child : ChildProcess}
    (hchild : (s.signalAlive signal).children[pid]? = some child) :
    ∃ before, s.children[pid]? = some before ∧ child.returncode = before.returncode ∧
      child.signals =
        if before.returncode = none then before.signals ++ [signal] else before.signals := by
  simp only [NativeProcessSupervisor.signalAlive, mapChildren, List.getElem?_mapIdx] at hchild
  obtain ⟨before, hbefore, rfl⟩ := Option.map_eq_some_iff.mp hchild
  refine ⟨before, hbefore, ?_⟩
  by_cases hrunning : before.returncode = none
  · obtain ⟨record, hrecord, hprocess⟩ := h.owner pid before hbefore hrunning
    rw [if_pos ⟨mem_processes.mpr ⟨_, record, hrecord, hprocess⟩, hrunning⟩, if_pos hrunning]
    exact ⟨rfl, rfl⟩
  · rw [if_neg (fun hboth => hrunning hboth.2), if_neg hrunning]
    exact ⟨rfl, rfl⟩

/-- Whoever runs is asked to terminate. -/
theorem Signalled.terminate (h : Signalled s) (howned : Owned s)
    (hchildren : t.children = (s.signalAlive .terminate).children) : Signalled t where
  asked hstop pid child hchild hrunning := by
    rw [hchildren] at hchild
    obtain ⟨before, _, hcode, hsignals⟩ := howned.signalAlive hchild
    rw [hsignals, if_pos (hcode ▸ hrunning)]
    simp
  ordered pid child hchild hkill := by
    rw [hchildren] at hchild
    obtain ⟨before, hbefore, _, hsignals⟩ := howned.signalAlive hchild
    rw [hsignals] at hkill ⊢
    split
    · simp
    · next hexited =>
        rw [if_neg hexited] at hkill
        exact h.ordered pid before hbefore hkill

/-- Whoever still runs during a stop is killed. -/
theorem Signalled.kill (h : Signalled s) (howned : Owned s) (hstop : s.stopping = true)
    (hchildren : t.children = (s.signalAlive .kill).children) : Signalled t where
  asked _ pid child hchild hrunning := by
    rw [hchildren] at hchild
    obtain ⟨before, hbefore, hcode, hsignals⟩ := howned.signalAlive hchild
    rw [hcode] at hrunning
    rw [hsignals, if_pos hrunning]
    exact List.mem_append_left _ (h.asked hstop pid before hbefore hrunning)
  ordered pid child hchild hkill := by
    rw [hchildren] at hchild
    obtain ⟨before, hbefore, _, hsignals⟩ := howned.signalAlive hchild
    rw [hsignals] at hkill ⊢
    split
    · next hrunning =>
        exact List.mem_append_left _ (h.asked hstop pid before hbefore hrunning)
    · next hexited =>
        rw [if_neg hexited] at hkill
        exact h.ordered pid before hbefore hkill

theorem signalled_stopUnlocked (h : Signalled s) (howned : Owned s) :
    Signalled s.stopUnlocked ∧ Phased s.stopUnlocked := by
  unfold stopUnlocked
  split
  · exact ⟨h.congr rfl id, trivial⟩
  · refine ⟨Signalled.terminate (s := s.markStopping) (h.congr rfl id) ?_ rfl, rfl⟩
    exact howned.alike (alike_markStopping s)

theorem signalled_launchNext (h : Signalled s) (howned : Owned s) (hstopping : s.stopping = false)
    (erase : Bool) (hardwareIds : Dict String Nat) (nodes : List (String × Nat)) :
    Signalled (launchNext config s erase hardwareIds nodes) ∧
      Phased (launchNext config s erase hardwareIds nodes) := by
  cases nodes with
  | nil => exact ⟨h.congr rfl id, trivial⟩
  | cons node rest =>
      obtain ⟨nodeId, index⟩ := node
      simp only [launchNext]
      split
      · exact signalled_stopUnlocked h howned
      · exact ⟨h.congr rfl id, hstopping⟩

theorem signalled_spawned (h : Signalled s) (hsupervised : Supervised s)
    (hstopping : s.stopping = false) {captured erase : Bool} {hardwareIds : Dict String Nat}
    {nodeId : String} {rest : List (String × Nat)} {record : ProcessRecord}
    (hpc : s.lifecycleLock = .spawning erase hardwareIds nodeId rest) :
    Signalled (spawned config s captured erase hardwareIds nodeId record rest) ∧
      Phased (spawned config s captured erase hardwareIds nodeId record rest) := by
  have hrelies := hsupervised.relies
  rw [hpc] at hrelies
  -- the new child has had no signal, and nothing has been asked to stop
  have hspawn : ∀ {u : NativeProcessSupervisor} {child : ChildProcess},
      u.children = s.children ++ [child] → child.signals = [] → u.stopping = false →
        Signalled u := by
    intro u child hchildren hnone hfalse
    refine ⟨fun hstop => ?_, fun pid found hfound hkill => ?_⟩
    · rw [hfalse] at hstop
      cases hstop
    · rw [hchildren] at hfound
      rcases List.mem_append.mp (List.mem_of_getElem? hfound) with hold | hnew
      · obtain ⟨i, hi⟩ := List.mem_iff_getElem?.mp hold
        exact h.ordered i found hi hkill
      · rw [List.mem_singleton.mp hnew, hnone] at hkill
        cases hkill
  unfold spawned
  dsimp only
  split
  · apply signalled_launchNext
    · exact hspawn rfl rfl hstopping
    · refine Owned.alike ?_ (alike_adjustRecord fun _ => rfl)
      exact hsupervised.toOwned.spawn hrelies.1 rfl rfl rfl
    · exact hstopping
  · apply signalled_stopUnlocked
    · exact hspawn rfl rfl hstopping
    · exact hsupervised.toOwned.spawn hrelies.1 rfl rfl rfl

theorem signalled_drainRecords (h : Signalled s) (hstop : s.stopping = true)
    (remaining : List String) :
    Signalled (s.drainRecords remaining) ∧ Phased (s.drainRecords remaining) := by
  unfold drainRecords
  split
  · refine ⟨h.congr rfl ?_, trivial⟩
    intro hfalse
    cases hfalse
  · exact ⟨h.congr rfl id, hstop⟩

/-- Only the lock and the flag count. -/
theorem Phased.congr (h : Phased s) (hlock : t.lifecycleLock = s.lifecycleLock)
    (hstopping : t.stopping = s.stopping) : Phased t := by
  unfold Phased at h ⊢
  rw [hlock, hstopping]
  exact h

theorem signalled_step (h : Signalled s) (hphased : Phased s) (hsupervised : Supervised s)
    {a : Action} (hstep : step config s a = some t) : Signalled t ∧ Phased t := by
  have howned := hsupervised.toOwned
  cases step_move hstep with
  | allocated => exact ⟨h, hphased⟩
  | startRaised => exact ⟨h.congr rfl id, hphased.congr rfl rfl⟩
  | start scenario hardwareIds hpc hvalid hrecords hids =>
      refine signalled_launchNext ?_ ?_ rfl _ _ _
      · exact h.congr rfl fun hfalse => by cases hfalse
      · exact howned.congr rfl rfl
  | spawned captured erase hardwareIds nodeId rest record hpc =>
      have hstopping : s.stopping = false := by
        simpa only [Phased, hpc] using hphased
      exact signalled_spawned h hsupervised hstopping hpc
  | spawnRaised => exact signalled_stopUnlocked h howned
  | stop => exact signalled_stopUnlocked h howned
  | childrenExited hpc =>
      apply signalled_drainRecords h
      rcases hpc with hpc | hpc
      · simpa only [Phased, hpc] using hphased
      · simpa only [Phased, hpc] using hphased
  | timedOut hpc =>
      have hstop : s.stopping = true := by simpa only [Phased, hpc] using hphased
      exact ⟨h.kill howned hstop rfl, hstop⟩
  | drained nodeId rest record hpc =>
      have hstop : s.stopping = true := by simpa only [Phased, hpc] using hphased
      have hsame : Signalled (s.drainRecord nodeId record) := h.congr rfl id
      exact signalled_drainRecords hsame hstop rest
  | cancelled => exact ⟨h.congr rfl id, trivial⟩
  | exited pid returncode =>
      refine ⟨h.adjustChild (fun _ => rfl) ?_, hphased.congr rfl rfl⟩
      intro child hrunning
      cases hrunning
  | monitor nodeId record pid child returncode =>
      unfold monitorExit
      split
      · exact ⟨h.congr rfl id, hphased.congr rfl rfl⟩
      · exact ⟨h.congr rfl id, hphased.congr rfl rfl⟩
  | handled => exact ⟨h.congr rfl id, hphased.congr rfl rfl⟩
  | line nodeId stream text record pid =>
      have hsame : Signalled (s.adjustRecord nodeId (·.recordLine stream text)) := h.congr rfl id
      refine ⟨hsame.adjustChild ?_ ?_, hphased.congr rfl rfl⟩
      · intro child
        cases stream <;> rfl
      · intro child
        cases stream <;> exact id
  | outputEnded => exact ⟨h.congr rfl id, hphased.congr rfl rfl⟩
  | clearArchivedLogs => exact ⟨h.congr rfl id, hphased.congr rfl rfl⟩

theorem signalled_new : Signalled new ∧ Phased new := by
  refine ⟨⟨?_, ?_⟩, trivial⟩
  · intro hstop
    cases hstop
  · intro pid child hchild
    cases hchild

theorem signalled_of_run {meets : NativeProcessSupervisor → Action → Prop}
    (hrun : Run (step config) meets new s) : (Signalled s ∧ Phased s) ∧ Supervised s := by
  refine hrun.invariant (I := fun s => (Signalled s ∧ Phased s) ∧ Supervised s) ?_
    ⟨signalled_new, supervised_new⟩
  rintro u a v ⟨⟨hsignalled, hphased⟩, hsupervised⟩ _ hstep
  exact ⟨signalled_step hsignalled hphased hsupervised hstep, hsupervised.step hstep⟩

/-- A child that runs is the process of the record of its node, and during a stop it was
asked to terminate; without records no child runs; who was killed was asked before. -/
theorem running_child_recorded (config : SupervisorConfig) {s : NativeProcessSupervisor}
    (hrun : Run (step config) Always new s) :
    (∀ (pid : Nat) child, s.children[pid]? = some child → child.returncode = none →
      (∃ record, s.records.get? child.nodeId = some record ∧ record.process = some pid) ∧
        (s.stopping = true → Signal.terminate ∈ child.signals)) ∧
    (s.records.items = [] → ∀ child ∈ s.children, child.returncode ≠ none) ∧
    ∀ child ∈ s.children, Signal.kill ∈ child.signals → Signal.terminate ∈ child.signals := by
  obtain ⟨⟨hsignals, _⟩, hsupervised⟩ := signalled_of_run hrun
  refine ⟨?_, ?_, ?_⟩
  · intro pid child hchild hrunning
    exact ⟨hsupervised.owner pid child hchild hrunning,
      fun hstop => hsignals.asked hstop pid child hchild hrunning⟩
  · intro hempty child hmember hrunning
    obtain ⟨pid, hchild⟩ := List.mem_iff_getElem?.mp hmember
    obtain ⟨record, hrecord, _⟩ := hsupervised.owner pid child hchild hrunning
    simp [Dict.get?, hempty] at hrecord
  · intro child hmember hkill
    obtain ⟨pid, hchild⟩ := List.mem_iff_getElem?.mp hmember
    exact hsignals.ordered pid child hchild hkill

/-- A scenario of two nodes. -/
def twoNodes : Scenario where
  name := "pair"
  nodeCount := 2
  nodes := [⟨"node-1", 45001⟩, ⟨"node-2", 45002⟩]
  links := [{ fromNode := "node-1", toNode := "node-2" },
    { fromNode := "node-2", toNode := "node-1" }]

/-- A supervisor whose hash tells the salts apart. -/
def saltedSupervisor : SupervisorConfig := { sha256 := saltOnly, fuel := 3 }

/-- The second spawn raises, and the first child has to be killed. -/
def failedStart : List Action :=
  [.start twoNodes false, .spawned true, .line "node-1" .stderr "booting", .spawnRaised,
    .timedOut, .exited 0 (-9), .childrenExited, .drained, .drained]

/-- A start that fails leaves no child behind. -/
theorem failedStart_recorded : ∃ s, exec (step saltedSupervisor) failedStart new = some s ∧
    s.children.length = 1 ∧ ∀ child ∈ s.children, child.returncode ≠ none := by
  have hends : ∃ s ∈ exec (step saltedSupervisor) failedStart new,
      s.records.items = [] ∧ s.children.length = 1 := by
    decide +kernel
  obtain ⟨s, hexec, hempty, hone⟩ := hends
  have hrun : Run (step saltedSupervisor) Always new s := .of_exec hexec (conforms_always _ _)
  exact ⟨s, hexec, hone, (running_child_recorded saltedSupervisor hrun).2.1 hempty⟩

end NativeProcessSupervisor

end MeshtasticLab.Runtime

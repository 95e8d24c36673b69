/-
  Traffic/Persistence.lean --- the files of a run.

  Embeds `TrafficController._freeze_and_persist`, over the files of `results_root` by
  name.  How a result is written as text is left open: `dump` stands for `json.dumps`
  of `model_dump`, of a result and of a summary.

  WHAT THIS FILE IS FOR

  Four names belong to a run.  They have four lengths, so whatever the run id is they
  are four files, and nothing else is written, renamed or removed.  A call that raises
  ends in the handler, which removes the four whichever of them had been written.
-/
import MeshtasticLab.Foundation.Raising
import MeshtasticLab.Traffic.Tasks

set_option autoImplicit false

namespace MeshtasticLab.Traffic

open MeshtasticLab.Foundation

/-! ## File names -/

/-- `PurePath.stem`: a name up to its last dot, unless that dot is its first or last
character. -/
def stem (name : String) : String :=
  let suffixLength := (name.toList.reverse.takeWhile (· ≠ '.')).length
  if 0 < suffixLength ∧ suffixLength + 1 < name.length then
    String.ofList (name.toList.take (name.length - suffixLength - 1))
  else name

/-- `PurePath.with_suffix`. -/
def withSuffix (name suffix : String) : String := stem name ++ suffix

/-- `destination` in `_freeze_and_persist`. -/
def destination (runId : String) : String := s!"{runId}.json"

/-- `summary_destination` in `_freeze_and_persist`. -/
def summaryDestination (runId : String) : String := s!"{runId}.summary.json"

/-- `temporary` in `_freeze_and_persist`. -/
def temporary (runId : String) : String := withSuffix (destination runId) ".tmp"

/-- `summary_temporary` in `_freeze_and_persist`. -/
def summaryTemporary (runId : String) : String := withSuffix (summaryDestination runId) ".tmp"

/-- The files of a run, in the order in which they are removed. -/
def runFiles (runId : String) : List String :=
  [temporary runId, summaryTemporary runId, destination runId, summaryDestination runId]

theorem stem_json {name : String} (hname : name ≠ "") : stem s!"{name}.json" = name := by
  have hlist : (s!"{name}.json").toList = name.toList ++ ".json".toList := by
    simp [toString]
  have hlength : (s!"{name}.json").length = name.length + 5 := by
    rw [← String.length_toList, hlist, List.length_append, String.length_toList]
    rfl
  have hsuffix : ((s!"{name}.json").toList.reverse.takeWhile (· ≠ '.')).length = 4 := by
    rw [hlist, List.reverse_append]
    rfl
  have hpos : 0 < name.length := by
    rw [← String.length_toList]
    exact List.length_pos_iff.mpr fun hnil => hname (String.toList_inj.mp hnil)
  unfold stem
  dsimp only
  rw [hsuffix, if_pos (by omega), hlength, hlist]
  have htake : name.length + 5 - 4 - 1 = name.toList.length := by
    rw [String.length_toList]
    omega
  rw [htake, List.take_left, String.ofList_toList]

theorem runFiles_eq {runId : String} (hempty : runId ≠ "") :
    runFiles runId =
      [runId ++ ".tmp", runId ++ ".summary.tmp", runId ++ ".json", runId ++ ".summary.json"] := by
  have hsummary : runId ++ ".summary" ≠ "" := fun h => by
    simpa using congrArg String.length h
  have hsummaryStem : stem (summaryDestination runId) = runId ++ ".summary" := by
    have := stem_json hsummary
    simpa [summaryDestination, toString, String.append_assoc] using this
  have hstem : stem (destination runId) = runId := stem_json hempty
  unfold runFiles temporary summaryTemporary withSuffix
  rw [hsummaryStem, hstem, String.append_assoc]
  rfl

/-- The names of a run are the names of four files. -/
theorem runFiles_nodup (runId : String) : (runFiles runId).Nodup := by
  by_cases hempty : runId = ""
  · subst hempty
    decide +kernel
  · refine List.Nodup.of_map String.length ?_
    have hlengths : (runFiles runId).map String.length =
        [runId.length + 4, runId.length + 12, runId.length + 5, runId.length + 13] := by
      rw [runFiles_eq hempty]
      simp only [List.map_cons, List.map_nil, String.length_append]
      rfl
    rw [hlengths]
    simp

/-- The name of a file up to its first dot. -/
def fileOwner (name : String) : List Char := name.toList.takeWhile (· ≠ '.')

/-- The files of a run whose id has no dot are known by their owner. -/
theorem fileOwner_runFiles {runId name : String} (hdotless : '.' ∉ runId.toList)
    (hempty : runId ≠ "") (hname : name ∈ runFiles runId) : fileOwner name = runId.toList := by
  have howner : ∀ rest : List Char,
      (runId.toList ++ '.' :: rest).takeWhile (· ≠ '.') = runId.toList := by
    intro rest
    have hall : ∀ c ∈ runId.toList, decide (c ≠ '.') = true := fun c hc =>
      decide_eq_true fun heq => hdotless (heq ▸ hc)
    rw [List.takeWhile_append_of_pos hall]
    simp
  rw [runFiles_eq hempty] at hname
  unfold fileOwner
  simp only [List.mem_cons, List.not_mem_nil, or_false] at hname
  rcases hname with rfl | rfl | rfl | rfl <;>
    (rw [String.toList_append]; exact howner _)

/-- Runs whose ids have no dot have no file in common. -/
theorem not_mem_runFiles {runId other name : String} (hdotless : '.' ∉ runId.toList)
    (hother : '.' ∉ other.toList) (hempty : runId ≠ "") (hotherEmpty : other ≠ "")
    (hne : other ≠ runId) (hname : name ∈ runFiles other) : name ∉ runFiles runId := by
  intro hmember
  have hsame := (fileOwner_runFiles hother hotherEmpty hname).symm.trans
    (fileOwner_runFiles hdotless hempty hmember)
  exact hne (String.toList_inj.mp hsame)

/-! ## The directory -/

/-- `results_root`: whether it is there, and its files by name. -/
structure ResultsRoot where
  present : Bool := false
  files : Dict String String := ∅
  deriving DecidableEq

/-- The directory with a file of some content, or without the file. -/
def ResultsRoot.put (root : ResultsRoot) (name : String) : Option String → ResultsRoot
  | none => { root with files := root.files.erase name }
  | some text => { root with files := root.files.set name text }

@[simp] theorem ResultsRoot.present_put (root : ResultsRoot) (name : String)
    (content : Option String) : (root.put name content).present = root.present := by
  cases content <;> rfl

theorem ResultsRoot.get?_put (root : ResultsRoot) (name other : String)
    (content : Option String) : (root.put name content).files.get? other =
      if other = name then content else root.files.get? other := by
  cases content with
  | none => exact Dict.get?_erase root.files name other
  | some text => exact Dict.get?_set root.files name other text

/-- The calls of `_freeze_and_persist` that can raise. -/
inductive PersistStep where
  | mkdir
  | writeExport
  | writeSummary
  | replaceExport
  | replaceSummary
  deriving DecidableEq, Repr

/-- An exception of a call: its text, and what a write that fails leaves of its file. -/
structure Fault where
  message : String
  left : Option String := none
  deriving DecidableEq, Repr

/-- What `_freeze_and_persist` runs in. -/
abbrev Persisting : Type → Type := EStateM String ResultsRoot

/-- `Path.mkdir` of the directory. -/
def mkdir (fault : Option Fault) : Persisting PUnit :=
  match fault with
  | some fault => throw fault.message
  | none => modify fun root => { root with present := true }

/-- `Path.write_text`.  A serialization that raises leaves the file as it was. -/
def writeText (name text : String) (fault : Option Fault) : Persisting PUnit := do
  let root ← get
  match fault with
  | some fault =>
      set (root.put name fault.left)
      throw fault.message
  | none =>
      if root.present then set (root.put name (some text))
      else throw s!"[Errno 2] No such file or directory: {name}"

/-- `Path.replace`. -/
def replace (source target : String) (fault : Option Fault) : Persisting PUnit := do
  let root ← get
  match fault, root.files.get? source with
  | some fault, _ => throw fault.message
  | none, none => throw s!"[Errno 2] No such file or directory: {source} -> {target}"
  | none, some text => set ((root.put source none).put target (some text))

/-- `Path.unlink`, when an `OSError` is suppressed. -/
def unlink (blocked : String → Bool) (name : String) : Persisting PUnit :=
  if blocked name then pure ⟨⟩ else modify fun root => root.put name none

/-! ## What the calls do -/

theorem run_get (root : ResultsRoot) :
    (get : Persisting ResultsRoot).run root = .ok root root := rfl

theorem run_writeText {root : ResultsRoot} {name text : String} (h : root.present = true) :
    (writeText name text none).run root = .ok ⟨⟩ (root.put name (some text)) := by
  unfold writeText
  rw [run_bind_ok (run_get root)]
  dsimp only
  rw [if_pos h]
  rfl

theorem run_writeText_absent {root : ResultsRoot} {name text : String}
    (h : root.present = false) : (writeText name text none).run root =
      .error s!"[Errno 2] No such file or directory: {name}" root := by
  unfold writeText
  rw [run_bind_ok (run_get root)]
  dsimp only
  rw [if_neg (Bool.eq_false_iff.mp h)]
  rfl

theorem run_replace_fault (root : ResultsRoot) (source target : String) (fault : Fault) :
    (replace source target (some fault)).run root = .error fault.message root := rfl

theorem run_replace {root : ResultsRoot} {source target text : String}
    (h : root.files.get? source = some text) : (replace source target none).run root =
      .ok ⟨⟩ ((root.put source none).put target (some text)) := by
  unfold replace
  rw [run_bind_ok (run_get root), h]
  rfl

theorem run_replace_absent {root : ResultsRoot} {source target : String}
    (h : root.files.get? source = none) : (replace source target none).run root =
      .error s!"[Errno 2] No such file or directory: {source} -> {target}" root := by
  unfold replace
  rw [run_bind_ok (run_get root), h]
  rfl

/-! ## Persisting -/

section

variable (dump : TrafficRunResult → String) (dumpSummary : TrafficRunSummary → String)
  (faults : PersistStep → Option Fault) (blocked : String → Bool)

/-- The calls of `_freeze_and_persist` inside its `try`. -/
def publish (frozen : TrafficRunResult) : Persisting PUnit := do
  mkdir (faults .mkdir)
  writeText (temporary frozen.runId) (dump frozen) (faults .writeExport)
  writeText (summaryTemporary frozen.runId) (dumpSummary (summarizeResult frozen))
    (faults .writeSummary)
  replace (temporary frozen.runId) (destination frozen.runId) (faults .replaceExport)
  replace (summaryTemporary frozen.runId) (summaryDestination frozen.runId)
    (faults .replaceSummary)

/-- The handler of `_freeze_and_persist`. -/
def discard (runId : String) (exception : String) : Persisting PUnit := do
  (runFiles runId).forM (unlink blocked)
  throw exception

/-- `_freeze_and_persist`. -/
def freezeAndPersist (current : TrafficRunResult) : Persisting TrafficRunResult := do
  let frozen := current
  tryCatch (publish dump dumpSummary faults frozen) (discard blocked frozen.runId)
  pure frozen

end

/-- What the `await` of `_freeze_and_persist` brings to `_finish`. -/
def finishInput : EStateM.Result String ResultsRoot TrafficRunResult → FinishInput
  | .ok _ _ => .persisted
  | .error exception _ => .persistenceRaised exception

/-! ## Files of other runs -/

/-- Only files of some names have changed. -/
def Elsewhere (names : List String) (root root' : ResultsRoot) : Prop :=
  ∀ name, name ∉ names → root'.files.get? name = root.files.get? name

instance (names : List String) : IsPreorder ResultsRoot (Elsewhere names) where
  refl _ _ _ := rfl
  trans _ _ _ hfirst hsecond name hname := (hsecond name hname).trans (hfirst name hname)

theorem elsewhere_put {names : List String} {name : String} (hname : name ∈ names)
    (root : ResultsRoot) (content : Option String) :
    Elsewhere names root (root.put name content) := by
  intro other hother
  have hne : other ≠ name := fun heq => hother (heq ▸ hname)
  rw [ResultsRoot.get?_put, if_neg hne]

theorem keeps_mkdir (names : List String) (fault : Option Fault) :
    Keeps (Elsewhere names) (mkdir fault) := by
  intro root
  cases fault <;> exact fun _ _ => rfl

theorem keeps_writeText {names : List String} {name : String} (hname : name ∈ names)
    (text : String) (fault : Option Fault) :
    Keeps (Elsewhere names) (writeText name text fault) := by
  intro root
  cases fault with
  | some fault => exact elsewhere_put hname root fault.left
  | none =>
      cases hpresent : root.present with
      | false =>
          rw [run_writeText_absent hpresent]
          exact refl_of (Elsewhere names) root
      | true =>
          rw [run_writeText hpresent]
          exact elsewhere_put hname root (some text)

theorem keeps_replace {names : List String} {source target : String} (hsource : source ∈ names)
    (htarget : target ∈ names) (fault : Option Fault) :
    Keeps (Elsewhere names) (replace source target fault) := by
  intro root
  cases fault with
  | some fault =>
      rw [run_replace_fault]
      exact refl_of (Elsewhere names) root
  | none =>
      cases hget : root.files.get? source with
      | none =>
          rw [run_replace_absent hget]
          exact refl_of (Elsewhere names) root
      | some text =>
          rw [run_replace hget]
          exact trans_of (Elsewhere names) (elsewhere_put hsource root none)
            (elsewhere_put htarget _ (some text))

theorem keeps_unlink {names : List String} (blocked : String → Bool) {name : String}
    (hname : name ∈ names) : Keeps (Elsewhere names) (unlink blocked name) := by
  unfold unlink
  split
  · exact keeps_pure _
  · exact fun root => elsewhere_put hname root none

section

variable (dump : TrafficRunResult → String) (dumpSummary : TrafficRunSummary → String)
  (faults : PersistStep → Option Fault) (blocked : String → Bool)

/-- Only the files of the run change, whatever raises. -/
theorem keeps_freezeAndPersist (current : TrafficRunResult) :
    Keeps (Elsewhere (runFiles current.runId))
      (freezeAndPersist dump dumpSummary faults blocked current) := by
  have htemporary : temporary current.runId ∈ runFiles current.runId := by simp [runFiles]
  have hsummaryTemporary : summaryTemporary current.runId ∈ runFiles current.runId := by
    simp [runFiles]
  have hdestination : destination current.runId ∈ runFiles current.runId := by simp [runFiles]
  have hsummaryDestination : summaryDestination current.runId ∈ runFiles current.runId := by
    simp [runFiles]
  refine Keeps.bind (Keeps.tryCatch ?_ fun exception => ?_) fun _ => keeps_pure current
  · exact (keeps_mkdir _ _).bind fun _ => (keeps_writeText htemporary _ _).bind fun _ =>
      (keeps_writeText hsummaryTemporary _ _).bind fun _ =>
        (keeps_replace htemporary hdestination _).bind fun _ =>
          keeps_replace hsummaryTemporary hsummaryDestination _
  · exact (Keeps.forM fun name hname => keeps_unlink blocked hname).bind fun _ =>
      keeps_throw exception

/-! ## How persisting ends -/

/-- The directory after both temporary files have been written. -/
def written (root : ResultsRoot) (current : TrafficRunResult) : ResultsRoot :=
  (({ root with present := true } : ResultsRoot).put (temporary current.runId)
    (some (dump current))).put (summaryTemporary current.runId)
      (some (dumpSummary (summarizeResult current)))

/-- The directory after both files have been renamed. -/
def published (root : ResultsRoot) (current : TrafficRunResult) : ResultsRoot :=
  ((((written dump dumpSummary root current).put (temporary current.runId) none).put
    (destination current.runId) (some (dump current))).put
      (summaryTemporary current.runId) none).put (summaryDestination current.runId)
        (some (dumpSummary (summarizeResult current)))

/-- The `try` raises the exception of one of its calls, or no call raises. -/
theorem publish_outcome (root : ResultsRoot) (current : TrafficRunResult) :
    (∃ step fault root', faults step = some fault ∧
      (publish dump dumpSummary faults current).run root = .error fault.message root') ∨
    ((∀ step, faults step = none) ∧
      (publish dump dumpSummary faults current).run root =
        .ok ⟨⟩ (published dump dumpSummary root current)) := by
  obtain ⟨⟨hsummaryTemporary, hdestination, _⟩, ⟨hother, _⟩, _⟩ :
      (temporary current.runId ≠ summaryTemporary current.runId ∧
        temporary current.runId ≠ destination current.runId ∧
        temporary current.runId ≠ summaryDestination current.runId) ∧
      (summaryTemporary current.runId ≠ destination current.runId ∧
        summaryTemporary current.runId ≠ summaryDestination current.runId) ∧
      destination current.runId ≠ summaryDestination current.runId := by
    simpa [runFiles] using runFiles_nodup current.runId
  unfold publish
  cases hmkdir : faults .mkdir with
  | some fault => exact Or.inl ⟨_, fault, root, hmkdir, run_bind_error rfl⟩
  | none =>
  rw [run_bind_ok (rfl : (mkdir none).run root = .ok ⟨⟩ { root with present := true })]
  cases hexport : faults .writeExport with
  | some fault => exact Or.inl ⟨_, fault, _, hexport, run_bind_error rfl⟩
  | none =>
  rw [run_bind_ok (run_writeText rfl)]
  cases hsummary : faults .writeSummary with
  | some fault => exact Or.inl ⟨_, fault, _, hsummary, run_bind_error rfl⟩
  | none =>
  rw [run_bind_ok (run_writeText rfl)]
  change (∃ step fault root', _ ∧ EStateM.run _ (written dump dumpSummary root current) = _) ∨
    (_ ∧ EStateM.run _ (written dump dumpSummary root current) = _)
  cases hreplace : faults .replaceExport with
  | some fault => exact Or.inl ⟨_, fault, _, hreplace, run_bind_error rfl⟩
  | none =>
  have hfirst : (written dump dumpSummary root current).files.get? (temporary current.runId) =
      some (dump current) := by
    rw [written, ResultsRoot.get?_put, if_neg hsummaryTemporary, ResultsRoot.get?_put, if_pos rfl]
  rw [run_bind_ok (run_replace hfirst)]
  cases hreplaceSummary : faults .replaceSummary with
  | some fault => exact Or.inl ⟨_, fault, _, hreplaceSummary, rfl⟩
  | none =>
  have hsecond : (((written dump dumpSummary root current).put (temporary current.runId) none).put
      (destination current.runId) (some (dump current))).files.get?
        (summaryTemporary current.runId) = some (dumpSummary (summarizeResult current)) := by
    rw [ResultsRoot.get?_put, if_neg hother, ResultsRoot.get?_put, if_neg hsummaryTemporary.symm,
      written, ResultsRoot.get?_put, if_pos rfl]
  refine Or.inr ⟨fun step => ?_, run_replace hsecond⟩
  cases step <;> assumption

theorem get?_unlink (name other : String) (root : ResultsRoot) :
    ∃ root', (unlink blocked name).run root = .ok ⟨⟩ root' ∧
      (root.files.get? other = none ∨ (other = name ∧ blocked name = false) →
        root'.files.get? other = none) := by
  unfold unlink
  split
  · next hblocked =>
      refine ⟨root, rfl, ?_⟩
      rintro (habsent | ⟨_, hfree⟩)
      · exact habsent
      · exact absurd (hblocked.symm.trans hfree) (by decide)
  · refine ⟨root.put name none, rfl, ?_⟩
    rw [ResultsRoot.get?_put]
    rintro (habsent | ⟨rfl, _⟩)
    · split
      · rfl
      · exact habsent
    · exact if_pos rfl

theorem get?_unlinks (names : List String) (root : ResultsRoot) :
    ∃ root', (names.forM (unlink blocked)).run root = .ok ⟨⟩ root' ∧
      ∀ other, root.files.get? other = none ∨ (other ∈ names ∧ blocked other = false) →
        root'.files.get? other = none := by
  induction names generalizing root with
  | nil => exact ⟨root, rfl, fun other h => h.resolve_right fun hmember =>
      List.not_mem_nil hmember.1⟩
  | cons name rest ih =>
      obtain ⟨root₁, hrun, _⟩ := get?_unlink blocked name name root
      obtain ⟨root₂, hrest, habsent⟩ := ih root₁
      refine ⟨root₂, (run_bind_ok hrun).trans hrest, fun other h => habsent other ?_⟩
      obtain ⟨root', hrun', hother⟩ := get?_unlink blocked name other root
      cases hrun.symm.trans hrun'
      rcases h with hnone | ⟨hmember, hfree⟩
      · exact Or.inl (hother (Or.inl hnone))
      · rcases List.mem_cons.mp hmember with rfl | hmember
        · exact Or.inl (hother (Or.inr ⟨rfl, hfree⟩))
        · exact Or.inr ⟨hmember, hfree⟩

/-- The handler removes every file of the run that can be removed. -/
theorem run_discard (runId exception : String) (root : ResultsRoot) :
    ∃ root', (discard blocked runId exception).run root = .error exception root' ∧
      ∀ name ∈ runFiles runId, blocked name = false → root'.files.get? name = none := by
  obtain ⟨root', hrun, habsent⟩ := get?_unlinks blocked (runFiles runId) root
  exact ⟨root', run_bind_ok hrun, fun name hname hfree => habsent name (Or.inr ⟨hname, hfree⟩)⟩

/-- With nothing raised, the run has its two files and no others. -/
theorem get?_published (root : ResultsRoot) (current : TrafficRunResult) :
    (published dump dumpSummary root current).files.get? (destination current.runId) =
        some (dump current) ∧
      (published dump dumpSummary root current).files.get? (summaryDestination current.runId) =
        some (dumpSummary (summarizeResult current)) ∧
      (published dump dumpSummary root current).files.get? (temporary current.runId) = none ∧
      (published dump dumpSummary root current).files.get? (summaryTemporary current.runId) =
        none := by
  have hdistinct := runFiles_nodup current.runId
  simp only [runFiles, List.nodup_cons, List.mem_cons, List.not_mem_nil, or_false, not_or,
    List.nodup_nil, and_true] at hdistinct
  obtain ⟨⟨hsummaryTemporary, hdestination, hsummary⟩, ⟨hother, hotherSummary⟩, hfinal⟩ := hdistinct
  unfold published
  simp [ResultsRoot.get?_put, hsummaryTemporary, hdestination, hsummary, hotherSummary, hfinal,
    Ne.symm hother]

/-! ## What `_finish` freezes -/

/-- A result whose persistence did not raise is frozen and is the exported one. -/
theorem finish_persisted (s : TrafficTasks) (m : Moment) (target : TrafficRunState)
    (terminal : TrafficRunResult) : ∃ t,
      s.resumeFinish m target (.persisting terminal) .persisted = some (t, .returned true) ∧
        t.controller.frozenResult = some terminal ∧ t.exported = some terminal :=
  ⟨_, rfl, rfl, rfl⟩

/-- A result whose persistence raised is frozen as failed, once it has been copied. -/
theorem finish_unpersisted (target : TrafficRunState) (terminal : TrafficRunResult)
    (exception : String) :
    (∀ (s : TrafficTasks) (m : Moment), ∃ t,
      s.resumeFinish m target (.persisting terminal) (.persistenceRaised exception) =
        some (t, .suspended
          (.copying (TrafficController.persistenceFailed terminal exception))) ∧
      t.exported = none) ∧
    ∀ (s : TrafficTasks) (m : Moment), ∃ t,
      s.resumeFinish m target
          (.copying (TrafficController.persistenceFailed terminal exception)) .copied =
        some (t, .returned true) ∧
      t.controller.frozenResult =
        some (TrafficController.persistenceFailed terminal exception) ∧
      t.controller.state = .failed :=
  ⟨fun _ _ => ⟨_, rfl, rfl⟩, fun _ _ => ⟨_, rfl, rfl, rfl⟩⟩

/-- The failure text of a result that could not be persisted keeps an earlier one. -/
theorem failure_persistenceFailed (terminal : TrafficRunResult) (exception : String) :
    ((terminal.failure = none ∨ terminal.failure = some "") →
      (TrafficController.persistenceFailed terminal exception).failure =
        some s!"result persistence failed: {exception}") ∧
    ∀ earlier, terminal.failure = some earlier → earlier ≠ "" →
      (TrafficController.persistenceFailed terminal exception).failure =
        some s!"{earlier}; result persistence failed: {exception}" := by
  unfold TrafficController.persistenceFailed
  dsimp only
  refine ⟨?_, fun earlier hearlier hsome => ?_⟩
  · rintro (hnone | hempty)
    · rw [hnone]
    · rw [hempty]
      rfl
  · rw [hearlier]
    refine (if_neg hsome).trans (congrArg some ?_)
    simp only [toString, String.append_assoc]
    rfl

/-- How `_freeze_and_persist` ends: with the exception of one of its calls and the files of
the run removed, or with both files published. -/
theorem freezeAndPersist_outcome (root : ResultsRoot) (current : TrafficRunResult) :
    (∃ step fault root', faults step = some fault ∧
      (freezeAndPersist dump dumpSummary faults blocked current).run root =
        .error fault.message root' ∧
      ∀ name ∈ runFiles current.runId, blocked name = false → root'.files.get? name = none) ∨
    ((∀ step, faults step = none) ∧
      (freezeAndPersist dump dumpSummary faults blocked current).run root =
        .ok current (published dump dumpSummary root current)) := by
  rcases publish_outcome dump dumpSummary faults root current with
    ⟨step, fault, root₁, hfault, hrun⟩ | ⟨hfaults, hrun⟩
  · obtain ⟨root', hdiscard, habsent⟩ := run_discard blocked current.runId
      fault.message root₁
    exact Or.inl ⟨step, fault, root', hfault,
      run_bind_error ((run_tryCatch_error hrun).trans hdiscard), habsent⟩
  · exact Or.inr ⟨hfaults, run_bind_ok (run_tryCatch_ok hrun)⟩

end

/-- A run id as the text of a random UUID is: not empty and without a dot. -/
def Dotless (runId : String) : Prop := runId ≠ "" ∧ '.' ∉ runId.toList

instance (runId : String) : Decidable (Dotless runId) := inferInstanceAs (Decidable (_ ∧ _))

/-- Whatever the directory holds and whichever calls raise, persisting a result either
publishes its export and its summary, and `_finish` freezes it, or leaves no file of the run
that can be removed, and `_finish` freezes it as failed.  No other file changes. -/
theorem persistence_of_finish (dump : TrafficRunResult → String)
    (dumpSummary : TrafficRunSummary → String) (faults : PersistStep → Option Fault)
    (blocked : String → Bool) (root : ResultsRoot) (current : TrafficRunResult) :
    let result := (freezeAndPersist dump dumpSummary faults blocked current).run root
    (∀ name ∉ runFiles current.runId,
      (stateAfter result).files.get? name = root.files.get? name) ∧
    (∀ other, Dotless other → Dotless current.runId → other ≠ current.runId →
      ∀ name ∈ runFiles other, (stateAfter result).files.get? name = root.files.get? name) ∧
    ((∃ step, faults step ≠ none) →
      (∀ name ∈ runFiles current.runId, blocked name = false →
        (stateAfter result).files.get? name = none) ∧
      ∃ failed : TrafficRunResult, failed.state = .failed ∧
        (∃ step fault, faults step = some fault ∧
          ((current.failure = none ∨ current.failure = some "") →
            failed.failure = some s!"result persistence failed: {fault.message}") ∧
          ∀ earlier, current.failure = some earlier → earlier ≠ "" →
            failed.failure =
              some s!"{earlier}; result persistence failed: {fault.message}") ∧
        (∀ (s : TrafficTasks) m target, ∃ t,
          s.resumeFinish m target (.persisting current) (finishInput result) =
            some (t, .suspended (.copying failed))) ∧
        ∀ (s : TrafficTasks) m target, ∃ t,
          s.resumeFinish m target (.copying failed) .copied = some (t, .returned true) ∧
            t.controller.frozenResult = some failed ∧ t.controller.state = .failed) ∧
    ((∀ step, faults step = none) →
      ((stateAfter result).files.get? (destination current.runId) = some (dump current) ∧
        (stateAfter result).files.get? (summaryDestination current.runId) =
          some (dumpSummary (summarizeResult current)) ∧
        (stateAfter result).files.get? (temporary current.runId) = none ∧
        (stateAfter result).files.get? (summaryTemporary current.runId) = none) ∧
      ∀ (s : TrafficTasks) m target, ∃ t,
        s.resumeFinish m target (.persisting current) (finishInput result) =
          some (t, .returned true) ∧
        t.controller.frozenResult = some current) := by
  intro result
  have hkept := keeps_freezeAndPersist dump dumpSummary faults blocked current root
  refine ⟨hkept, fun other hother hcurrent hne name hname => ?_, ?_, ?_⟩
  · exact hkept name (not_mem_runFiles hcurrent.2 hother.2 hcurrent.1 hother.1 hne hname)
  · rintro ⟨raising, hraising⟩
    rcases freezeAndPersist_outcome dump dumpSummary faults blocked root current with
      ⟨step, fault, root', hfault, hrun, habsent⟩ | ⟨hfaults, _⟩
    · rw [show result = _ from hrun]
      refine ⟨habsent, TrafficController.persistenceFailed current fault.message, rfl,
        ⟨step, fault, hfault, failure_persistenceFailed current fault.message⟩,
        fun s m target => ?_, fun s m target => ?_⟩
      · obtain ⟨t, ht, _⟩ := (finish_unpersisted target current fault.message).1 s m
        exact ⟨t, ht⟩
      · exact (finish_unpersisted target current fault.message).2 s m
    · exact absurd (hfaults raising) hraising
  · intro hfaults
    rcases freezeAndPersist_outcome dump dumpSummary faults blocked root current with
      ⟨step, fault, _, hfault, _⟩ | ⟨_, hrun⟩
    · rw [hfaults step] at hfault
      cases hfault
    · rw [show result = _ from hrun]
      refine ⟨get?_published dump dumpSummary root current, fun s m target => ?_⟩
      obtain ⟨t, ht, hfrozen, _⟩ := finish_persisted s m target current
      exact ⟨t, ht, hfrozen⟩

end MeshtasticLab.Traffic

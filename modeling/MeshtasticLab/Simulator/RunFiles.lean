/-
  Simulator/RunFiles.lean --- where the service looks for the result of a run.

  Embeds `traffic_result`, `traffic_result_is_complete`, `traffic_summary` and
  `completed_runs` of `backend/app/simulator/service.py`, which look for files by name.

  WHAT IS LEFT OPEN

  A name with a slash is a path, and it may lead out of `results_root` or back into it:
  `elsewhere` is what the file system finds there.  A run id is the text of a random
  UUID, so no two names of files are the same and none is a path.
-/
import MeshtasticLab.Simulator.Service
import MeshtasticLab.Traffic.Persistence

set_option autoImplicit false

namespace MeshtasticLab.Simulator

open MeshtasticLab.Foundation MeshtasticLab.Traffic

/-- What a `.json` file holds: an export, a summary or anything else. -/
inductive RunFile where
  | result (content : TrafficRunResult)
  | summary (content : TrafficRunSummary)
  | other

/-- `TrafficRunResult.model_validate_json`, with the model for the text of the error. -/
def RunFile.validateResult : RunFile → Except ServiceError TrafficRunResult
  | .result content => .ok content
  | _ => .error (.valueError "TrafficRunResult")

namespace SimulatorService

/-- The `.json` files of `results_root`. -/
def jsonFiles (s : SimulatorService) : List (String × RunFile) :=
  (s.results.items.map fun item => (destination item.1, .result item.2)) ++
    s.summaries.items.map fun item => (summaryDestination item.1, .summary item.2)

/-- `path.name.endswith(".summary.json")`. -/
def isSummaryName (name : String) : Bool := ".summary.json".toList.isSuffixOf name.toList

/-- `completed_runs`. -/
def completedRuns (s : SimulatorService) : List String :=
  let persisted := ((s.jsonFiles.map (·.1)).filter fun name => ¬isSummaryName name).map stem
  sortedNames (persisted ++ s.volatileResults.keys)

section

variable (elsewhere : String → Option RunFile)

/-- The file that a path under `results_root` names. -/
def fileAt (s : SimulatorService) (path : String) : Option RunFile :=
  if '/' ∈ path.toList then elsewhere path
  else (s.jsonFiles.find? fun file => file.1 = path).map (·.2)

/-- `traffic_result`. -/
def trafficResult (s : SimulatorService) (runId : String) :
    Except ServiceError TrafficRunResult :=
  match (s.liveController runId).bind (·.result) with
  | some result => .ok result
  | none =>
      match s.fileAt elsewhere (destination runId) with
      | some file => file.validateResult
      | none =>
          match s.volatileResults.get? runId with
          | some result => .ok result
          | none => .error (.fileNotFound runId)

/-- `traffic_result_is_complete`. -/
def trafficResultIsComplete (s : SimulatorService) (runId : String) : Except ServiceError Bool :=
  match s.liveController runId with
  | some c => .ok (resultIsFinalized c runId)
  | none =>
      if (s.fileAt elsewhere (destination runId)).isSome ∨ s.volatileResults.contains runId then
        .ok true
      else .error (.fileNotFound runId)

end

end SimulatorService

/-! ## Names -/

/-- The text of a UUID: thirty-six hexadecimal digits and hyphens. -/
def UuidText (runId : String) : Prop :=
  runId.length = 36 ∧ ∀ c ∈ runId.toList, c ∈ "0123456789abcdef-".toList

instance (runId : String) : Decidable (UuidText runId) :=
  have := List.decidableBAll (fun c => c ∈ "0123456789abcdef-".toList) runId.toList
  inferInstanceAs (Decidable (_ ∧ _))

theorem UuidText.dotless {runId : String} (h : UuidText runId) : Dotless runId := by
  refine ⟨?_, fun hdot => absurd (h.2 '.' hdot) (by decide)⟩
  rintro rfl
  exact absurd h.1 (by decide)

theorem UuidText.not_path {runId : String} (h : UuidText runId) : '/' ∉ runId.toList :=
  fun hslash => absurd (h.2 '/' hslash) (by decide)

theorem toList_destination (runId : String) :
    (destination runId).toList = runId.toList ++ ".json".toList := by
  simp [destination, toString]

theorem toList_summaryDestination (runId : String) :
    (summaryDestination runId).toList = runId.toList ++ ".summary.json".toList := by
  simp [summaryDestination, toString]

theorem destination_inj {runId other : String} (h : destination runId = destination other) :
    runId = other := by
  have hlists := congrArg String.toList h
  rw [toList_destination, toList_destination] at hlists
  exact String.toList_inj.mp (List.append_cancel_right hlists)

/-- The name of a summary is the name of the export of another id. -/
theorem summaryDestination_eq (runId : String) :
    summaryDestination runId = destination (runId ++ ".summary") := by
  apply String.toList_inj.mp
  rw [toList_destination, toList_summaryDestination, String.toList_append, List.append_assoc]
  rfl

theorem destination_eq_summaryDestination {runId owner : String} :
    destination runId = summaryDestination owner ↔ runId = owner ++ ".summary" := by
  rw [summaryDestination_eq]
  exact ⟨destination_inj, fun h => h ▸ rfl⟩

/-- An id with the suffix of a summary is not the text of a UUID. -/
theorem not_uuidText_summary (owner : String) : ¬UuidText (owner ++ ".summary") := by
  intro h
  refine h.dotless.2 ?_
  rw [String.toList_append]
  exact List.mem_append_right _ (by decide)

theorem isSummaryName_summaryDestination (owner : String) :
    SimulatorService.isSummaryName (summaryDestination owner) = true := by
  unfold SimulatorService.isSummaryName
  rw [toList_summaryDestination, List.isSuffixOf_iff_suffix]
  exact List.suffix_append _ _

theorem not_isSummaryName_destination {runId : String} (h : UuidText runId) :
    SimulatorService.isSummaryName (destination runId) = false := by
  rw [Bool.eq_false_iff]
  unfold SimulatorService.isSummaryName
  rw [Ne, List.isSuffixOf_iff_suffix]
  rintro ⟨owner, howner⟩
  have hname : destination runId = summaryDestination (String.ofList owner) := by
    apply String.toList_inj.mp
    rw [toList_summaryDestination, String.toList_ofList, ← howner]
  rw [destination_eq_summaryDestination] at hname
  exact not_uuidText_summary _ (hname ▸ h)

theorem slash_destination {runId : String} :
    '/' ∈ (destination runId).toList ↔ '/' ∈ runId.toList := by
  rw [toList_destination, List.mem_append]
  exact or_iff_left (by decide)

namespace SimulatorService

variable {s : SimulatorService} {elsewhere : String → Option RunFile} {runId : String}

/-! ## Lookups -/

/-- Every file is of a run with a UUID. -/
structure Named (s : SimulatorService) : Prop where
  results : ∀ runId, s.results.contains runId = true → UuidText runId
  summaries : ∀ runId, s.summaries.contains runId = true → UuidText runId
  volatileResults : ∀ runId, s.volatileResults.contains runId = true → UuidText runId

theorem mem_jsonFiles {file : String × RunFile} : file ∈ s.jsonFiles ↔
    (∃ owner result, s.results.get? owner = some result ∧
      file = (destination owner, .result result)) ∨
    ∃ owner summary, s.summaries.get? owner = some summary ∧
      file = (summaryDestination owner, .summary summary) := by
  unfold jsonFiles
  rw [List.mem_append, List.mem_map, List.mem_map]
  refine or_congr ⟨?_, ?_⟩ ⟨?_, ?_⟩
  · rintro ⟨item, hitem, rfl⟩
    exact ⟨item.1, item.2, Dict.get?_eq_some.mpr hitem, rfl⟩
  · rintro ⟨owner, result, hget, rfl⟩
    exact ⟨(owner, result), Dict.get?_eq_some.mp hget, rfl⟩
  · rintro ⟨item, hitem, rfl⟩
    exact ⟨item.1, item.2, Dict.get?_eq_some.mpr hitem, rfl⟩
  · rintro ⟨owner, summary, hget, rfl⟩
    exact ⟨(owner, summary), Dict.get?_eq_some.mp hget, rfl⟩

/-- A name without a slash is found exactly when it is there. -/
theorem fileAt_isSome (s : SimulatorService) (elsewhere : String → Option RunFile) {path : String}
    (hpath : '/' ∉ path.toList) :
    (s.fileAt elsewhere path).isSome = true ↔ ∃ file, (path, file) ∈ s.jsonFiles := by
  unfold fileAt
  rw [if_neg hpath, Option.isSome_map, List.find?_isSome]
  constructor
  · rintro ⟨⟨name, file⟩, hmember, hname⟩
    rw [decide_eq_true_iff] at hname
    exact ⟨file, hname ▸ hmember⟩
  · rintro ⟨file, hmember⟩
    exact ⟨(path, file), hmember, decide_eq_true rfl⟩

theorem fileAt_mem {path : String} {file : RunFile} (hpath : '/' ∉ path.toList)
    (h : s.fileAt elsewhere path = some file) : (path, file) ∈ s.jsonFiles := by
  unfold fileAt at h
  rw [if_neg hpath] at h
  obtain ⟨⟨name, found⟩, hfind, rfl⟩ := Option.map_eq_some_iff.mp h
  have hname := List.find?_some hfind
  rw [decide_eq_true_iff] at hname
  exact hname ▸ List.mem_of_find?_eq_some hfind

/-- The file that an id without a slash names is an export or, for an id with the suffix of
a summary, a summary. -/
theorem fileAt_destination_isSome (s : SimulatorService) (elsewhere : String → Option RunFile)
    (hpath : '/' ∉ runId.toList) :
    (s.fileAt elsewhere (destination runId)).isSome = true ↔ s.results.contains runId = true ∨
      ∃ owner, s.summaries.contains owner = true ∧ runId = owner ++ ".summary" := by
  rw [fileAt_isSome s elsewhere (fun h => hpath (slash_destination.mp h))]
  constructor
  · rintro ⟨file, hmember⟩
    rcases mem_jsonFiles.mp hmember with ⟨owner, result, hget, heq⟩ | ⟨owner, summary, hget, heq⟩
    · have hname := destination_inj (Prod.mk.inj heq).1
      exact Or.inl (by rw [Dict.contains, hname, hget]; rfl)
    · have hname := destination_eq_summaryDestination.mp (Prod.mk.inj heq).1
      exact Or.inr ⟨owner, by rw [Dict.contains, hget]; rfl, hname⟩
  · rintro (hresult | ⟨owner, hsummary, hname⟩)
    · obtain ⟨result, hget⟩ := Option.isSome_iff_exists.mp hresult
      exact ⟨_, mem_jsonFiles.mpr (Or.inl ⟨runId, result, hget, rfl⟩)⟩
    · obtain ⟨summary, hget⟩ := Option.isSome_iff_exists.mp hsummary
      rw [destination_eq_summaryDestination.mpr hname]
      exact ⟨_, mem_jsonFiles.mpr (Or.inr ⟨owner, summary, hget, rfl⟩)⟩

/-- The export of a run is found by its id. -/
theorem fileAt_destination (h : UuidText runId) :
    s.fileAt elsewhere (destination runId) = (s.results.get? runId).map .result := by
  have hpath : '/' ∉ (destination runId).toList := fun hslash =>
    h.not_path (slash_destination.mp hslash)
  cases hfile : s.fileAt elsewhere (destination runId) with
  | some file =>
      rcases mem_jsonFiles.mp (fileAt_mem hpath hfile) with
        ⟨owner, result, hget, heq⟩ | ⟨owner, summary, _, heq⟩
      · obtain ⟨hname, rfl⟩ := Prod.mk.inj heq
        rw [destination_inj hname, hget]
        rfl
      · have hname := destination_eq_summaryDestination.mp (Prod.mk.inj heq).1
        exact absurd (hname ▸ h) (not_uuidText_summary owner)
  | none =>
      cases hget : s.results.get? runId with
      | none => rfl
      | some result =>
          have hfound := (fileAt_destination_isSome s elsewhere
            h.not_path).mpr (Or.inl (by rw [Dict.contains, hget]; rfl))
          rw [hfile] at hfound
          cases hfound

theorem mem_sortedNames {names : List String} {name : String} :
    name ∈ sortedNames names ↔ name ∈ names := by
  unfold sortedNames
  rw [List.mem_mergeSort, List.mem_dedup]

/-- The list of completed runs has the runs with an export and the archived ones. -/
theorem Named.mem_completedRuns (hnamed : Named s) : runId ∈ s.completedRuns ↔
    s.results.contains runId = true ∨ s.volatileResults.contains runId = true := by
  unfold completedRuns
  dsimp only
  rw [mem_sortedNames, List.mem_append, Dict.mem_keys, List.mem_map]
  refine or_congr_left ⟨?_, fun hresult => ?_⟩
  · rintro ⟨name, hname, rfl⟩
    obtain ⟨hmember, hsummary⟩ := List.mem_filter.mp hname
    obtain ⟨⟨_, file⟩, hfile, rfl⟩ := List.mem_map.mp hmember
    rcases mem_jsonFiles.mp hfile with ⟨owner, result, hget, heq⟩ | ⟨owner, summary, hget, heq⟩
    · cases heq
      have howner : s.results.contains owner = true := by rw [Dict.contains, hget]; rfl
      have hstem : stem (destination owner) = owner :=
        stem_json (hnamed.results owner howner).dotless.1
      dsimp only
      rw [hstem]
      exact howner
    · cases heq
      dsimp only at hsummary
      rw [isSummaryName_summaryDestination] at hsummary
      exact absurd hsummary (by decide)
  · have huuid := hnamed.results runId hresult
    obtain ⟨result, hget⟩ := Option.isSome_iff_exists.mp hresult
    refine ⟨destination runId, List.mem_filter.mpr ⟨List.mem_map.mpr ⟨_,
      mem_jsonFiles.mpr (Or.inl ⟨runId, result, hget, rfl⟩), rfl⟩, ?_⟩,
      stem_json huuid.dotless.1⟩
    rw [not_isSummaryName_destination huuid]
    decide

end SimulatorService

end MeshtasticLab.Simulator

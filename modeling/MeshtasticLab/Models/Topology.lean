/-
  Models/Topology.lean --- complete directed graphs and the topology presets.

  Embeds `generate_links`, `apply_topology_preset` and `default_scenario` of
  `backend/app/models/scenario.py`.

  WHAT THIS FILE IS FOR

  The three loops of `validate_graph` together test that the links are a
  permutation of the ordered pairs of the nodes.  Whatever keeps the nodes and the
  keys of the links therefore keeps a scenario valid, and a preset does.
-/
import MeshtasticLab.Models.Scenario
import Mathlib.Data.List.Perm.Basic
import Mathlib.Data.List.Lattice

set_option autoImplicit false

namespace MeshtasticLab.Models

open MeshtasticLab.Foundation

namespace Scenario

/-! ## The graph check -/

/-- The keys of the links, in scenario order. -/
def linkKeys (scenario : Scenario) : List (String × String) := scenario.links.map (·.key)

/-- The nodes are distinct and the links are the ordered pairs of them, in any order. -/
structure CompleteGraph (scenario : Scenario) : Prop where
  counted : scenario.nodeCount = scenario.nodes.length
  distinctIds : scenario.nodeIds.Nodup
  distinctPorts : (scenario.nodes.map (·.apiPort)).Nodup
  paired : scenario.linkKeys.Perm (orderedPairs scenario.nodeIds)

theorem nodup_orderedPairs {nodeIds : List String} (h : nodeIds.Nodup) :
    (orderedPairs nodeIds).Nodup := by
  unfold orderedPairs
  rw [List.nodup_flatMap]
  constructor
  · intro source _
    exact (h.filter _).map fun a b hab => (Prod.mk.inj hab).2
  · refine h.imp_of_mem fun {a b} _ _ hne pair hfirst hsecond => ?_
    obtain ⟨_, _, rfl⟩ := List.mem_map.mp hfirst
    obtain ⟨_, _, hpair⟩ := List.mem_map.mp hsecond
    exact hne (Prod.mk.inj hpair).1.symm

/-- The loop over the links finds no key twice. -/
theorem validateLinks_nodup {known : List String} {links : List DirectedLink}
    {seen linkKeys : List (String × String)} (hseen : seen.Nodup)
    (h : validateLinks known links seen = .ok linkKeys) : linkKeys.Nodup := by
  induction links generalizing seen with
  | nil =>
      cases h
      exact hseen
  | cons link rest ih =>
      unfold validateLinks at h
      split at h
      · cases h
      · split at h
        · cases h
        · split at h
          · cases h
          · next hnew =>
              refine ih ?_ h
              rw [List.nodup_append]
              refine ⟨hseen, List.nodup_singleton _, ?_⟩
              rintro key hkey other hother rfl
              exact hnew (List.mem_singleton.mp hother ▸ hkey)

/-- The loop over the links passes new keys of ordered pairs. -/
theorem validateLinks_of {known : List String} {links : List DirectedLink}
    {seen : List (String × String)} (hpairs : ∀ link ∈ links, link.key ∈ orderedPairs known)
    (hdistinct : (seen ++ links.map (·.key)).Nodup) :
    validateLinks known links seen = .ok (seen ++ links.map (·.key)) := by
  induction links generalizing seen with
  | nil => exact congrArg _ (List.append_nil seen).symm
  | cons link rest ih =>
      obtain ⟨hsource, htarget, hne⟩ : link.fromNode ∈ known ∧ link.toNode ∈ known ∧
          link.fromNode ≠ link.toNode :=
        mem_orderedPairs.mp (hpairs link List.mem_cons_self)
      have hnew : link.key ∉ seen := fun hkey =>
        (List.nodup_append.mp hdistinct).2.2 _ hkey _ (List.mem_map_of_mem List.mem_cons_self) rfl
      have hsplit : seen ++ (link :: rest).map (·.key) =
          (seen ++ [link.key]) ++ rest.map (·.key) := by simp
      rw [hsplit] at hdistinct ⊢
      have hrest := ih (fun other hother => hpairs other (List.mem_cons_of_mem _ hother)) hdistinct
      rw [← hrest, validateLinks, if_neg hne, if_neg, if_neg hnew]
      rintro (hunknown | hunknown)
      · exact hunknown hsource
      · exact hunknown htarget

theorem CompleteGraph.validateGraph {scenario : Scenario} (h : scenario.CompleteGraph) :
    scenario.validateGraph = .ok () := by
  have hlinks : validateLinks scenario.nodeIds scenario.links [] = .ok scenario.linkKeys := by
    refine validateLinks_of (fun link hlink => ?_) ?_
    · exact h.paired.mem_iff.mp (List.mem_map_of_mem hlink)
    · exact h.paired.nodup_iff.mpr (nodup_orderedPairs h.distinctIds)
  have hmissing : (orderedPairs scenario.nodeIds).filter
      (fun pair => pair ∉ scenario.linkKeys) = [] := by
    refine List.filter_eq_nil_iff.mpr fun pair hpair => ?_
    simpa using h.paired.mem_iff.mpr hpair
  unfold Scenario.validateGraph
  rw [if_neg (not_not.mpr h.counted), if_neg (not_not.mpr h.distinctIds),
    if_neg (not_not.mpr h.distinctPorts), hlinks]
  dsimp only
  rw [hmissing]
  rfl

/-- `validate_graph` passes a scenario exactly when it is a complete graph. -/
theorem validateGraph_ok_iff {scenario : Scenario} :
    scenario.validateGraph = .ok () ↔ scenario.CompleteGraph := by
  refine ⟨fun h => ?_, CompleteGraph.validateGraph⟩
  obtain ⟨hcount, hids, hports, linkKeys, hlinks, hmissing⟩ := validateGraph_passed h
  have hdistinct := validateLinks_nodup List.nodup_nil hlinks
  obtain ⟨rfl, hpairs⟩ := validateLinks_ok hlinks
  refine ⟨hcount, hids, hports, ?_⟩
  refine (List.perm_ext_iff_of_nodup hdistinct (nodup_orderedPairs hids)).mpr fun pair => ?_
  refine ⟨fun hpair => ?_, hmissing pair⟩
  obtain ⟨link, hlink, rfl⟩ := List.mem_map.mp hpair
  exact hpairs link hlink

/-- New links between the same nodes, with the same keys in the same order. -/
theorem CompleteGraph.withLinks {scenario : Scenario} (h : scenario.CompleteGraph)
    {links : List DirectedLink} (hkeys : links.map (·.key) = scenario.linkKeys) :
    ({ scenario with links := links } : Scenario).CompleteGraph where
  counted := h.counted
  distinctIds := h.distinctIds
  distinctPorts := h.distinctPorts
  paired := by
    unfold linkKeys
    rw [hkeys]
    exact h.paired

end Scenario

/-! ## Presets -/

/-- `TopologyPreset`. -/
inductive TopologyPreset where
  | fullMesh
  | line
  | star
  | allIsolated
  deriving DecidableEq, Repr

/-- `enabled` in the loops of `generate_links`, given the hub and the source and the
target with their indices. -/
def TopologyPreset.enables (preset : TopologyPreset) (hub : String) (source target : String × Nat) :
    Bool :=
  match preset with
  | .fullMesh => true
  | .line => ((source.2 : Int) - target.2).natAbs = 1
  | .star => source.1 = hub || target.1 = hub
  | .allIsolated => false

/-- What a look-up in the presets can raise. -/
inductive LookupError where
  | indexError
  | keyError (pair : String × String)
  deriving DecidableEq, Repr

/-- `generate_links`. -/
def generateLinks (nodeIds : List String) (preset : TopologyPreset) (rssiDbm : Int := -85)
    (snrDb : ℚ := 8) : Except LookupError (List DirectedLink) :=
  match nodeIds with
  | [] => .error .indexError
  | hub :: _ =>
      .ok (nodeIds.zipIdx.flatMap fun source =>
        (nodeIds.zipIdx.filter fun target => source.1 ≠ target.1).map fun target =>
          { fromNode := source.1
            toNode := target.1
            enabled := preset.enables hub source target
            rssiDbm := rssiDbm
            snrDb := snrDb })

/-- The loop of `apply_topology_preset` over the links. -/
def switchLinks (enabledByPair : Dict (String × String) Bool) :
    List DirectedLink → Except LookupError (List DirectedLink)
  | [] => .ok []
  | link :: rest =>
      match enabledByPair.get? link.key, switchLinks enabledByPair rest with
      | none, _ => .error (.keyError link.key)
      | some _, .error error => .error error
      | some enabled, .ok rest => .ok ({ link with enabled := enabled } :: rest)

/-- `apply_topology_preset`. -/
def applyTopologyPreset (scenario : Scenario) (preset : TopologyPreset) :
    Except LookupError Scenario :=
  match generateLinks scenario.nodeIds preset with
  | .error error => .error error
  | .ok generated =>
      let enabledByPair := (∅ : Dict (String × String) Bool).update
        (generated.map fun link => (link.key, link.enabled))
      match switchLinks enabledByPair scenario.links with
      | .error error => .error error
      | .ok links => .ok { scenario with links := links }

/-- `default_nodes` for a node count that it accepts. -/
def defaultNodes (nodeCount : Nat) : List ScenarioNode :=
  (List.range nodeCount).map fun i =>
    { id := s!"node-{i + 1}", apiPort := PUBLIC_PORT_MIN + i }

/-- The links of `default_scenario`: a full mesh between its nodes. -/
def defaultLinks (nodeCount : Nat) : List DirectedLink :=
  match generateLinks ((defaultNodes nodeCount).map (·.id)) .fullMesh with
  | .ok links => links
  | .error _ => []

/-- `default_scenario` for a node count that `default_nodes` accepts. -/
def defaultScenario (nodeCount : Nat := 5) : Scenario where
  name := if nodeCount = 5 then "five-node-full-mesh" else s!"{nodeCount}-node-full-mesh"
  seed := 1
  nodeCount := nodeCount
  nodes := defaultNodes nodeCount
  links := defaultLinks nodeCount

/-- The keys of generated links, whatever the preset and the signal levels. -/
theorem generateLinks_keys {nodeIds : List String} {preset : TopologyPreset} {rssiDbm : Int}
    {snrDb : ℚ} {links : List DirectedLink}
    (h : generateLinks nodeIds preset rssiDbm snrDb = .ok links) :
    links.map (·.key) = Scenario.orderedPairs nodeIds := by
  cases nodeIds with
  | nil => cases h
  | cons hub rest =>
      cases h
      unfold Scenario.orderedPairs
      generalize hub :: rest = nodeIds
      have hnames : nodeIds = nodeIds.zipIdx.map Prod.fst := List.zipIdx_map_fst 0 nodeIds |>.symm
      conv_rhs => rw [hnames]
      rw [List.map_flatMap, List.flatMap_map]
      refine List.flatMap_congr fun source _ => ?_
      rw [List.map_map, List.filter_map, List.map_map]
      rfl

/-! ## What a preset does -/

/-- A link with the enabled flag that a preset has for its pair. -/
def DirectedLink.switched (enabledByPair : Dict (String × String) Bool) (link : DirectedLink) :
    DirectedLink :=
  { link with enabled := (enabledByPair.get? link.key).getD link.enabled }

@[simp] theorem DirectedLink.key_switched (enabledByPair : Dict (String × String) Bool)
    (link : DirectedLink) : (link.switched enabledByPair).key = link.key := rfl

theorem switchLinks_ok {enabledByPair : Dict (String × String) Bool}
    {links switched : List DirectedLink} (h : switchLinks enabledByPair links = .ok switched) :
    switched = links.map (·.switched enabledByPair) := by
  induction links generalizing switched with
  | nil =>
      cases h
      rfl
  | cons link rest ih =>
      unfold switchLinks at h
      cases hget : enabledByPair.get? link.key with
      | none =>
          rw [hget] at h
          cases h
      | some enabled =>
          cases hrest : switchLinks enabledByPair rest with
          | error error =>
              rw [hget, hrest] at h
              cases h
          | ok tail =>
              rw [hget, hrest] at h
              cases h
              rw [ih hrest, List.map_cons, DirectedLink.switched, hget]
              rfl

theorem switchLinks_of {enabledByPair : Dict (String × String) Bool} {links : List DirectedLink}
    (h : ∀ link ∈ links, enabledByPair.contains link.key = true) :
    ∃ switched, switchLinks enabledByPair links = .ok switched := by
  induction links with
  | nil => exact ⟨[], rfl⟩
  | cons link rest ih =>
      obtain ⟨enabled, hget⟩ := Option.isSome_iff_exists.mp (h link List.mem_cons_self)
      obtain ⟨tail, hrest⟩ := ih fun other hother => h other (List.mem_cons_of_mem _ hother)
      refine ⟨{ link with enabled := enabled } :: tail, ?_⟩
      rw [switchLinks, hget, hrest]

/-- Only the keys and the signal levels of the links matter to a switch. -/
theorem switchLinks_switched (enabledByPair earlier : Dict (String × String) Bool)
    (links : List DirectedLink) :
    switchLinks enabledByPair (links.map (·.switched earlier)) =
      switchLinks enabledByPair links := by
  induction links with
  | nil => rfl
  | cons link rest ih =>
      rw [List.map_cons, switchLinks, switchLinks, ih, DirectedLink.key_switched]
      rfl

/-- A preset keeps all of a scenario but the enabled flags of its links. -/
theorem applyTopologyPreset_ok {scenario applied : Scenario} {preset : TopologyPreset}
    (h : applyTopologyPreset scenario preset = .ok applied) :
    ∃ enabledByPair : Dict (String × String) Bool,
      applied = { scenario with links := scenario.links.map (·.switched enabledByPair) } := by
  unfold applyTopologyPreset at h
  split at h
  · cases h
  · dsimp only at h
    split at h
    · cases h
    · next links hlinks =>
        cases h
        exact ⟨_, by rw [switchLinks_ok hlinks]⟩

/-- A preset overrides the one before it. -/
theorem applyTopologyPreset_again {scenario applied : Scenario} {first : TopologyPreset}
    (h : applyTopologyPreset scenario first = .ok applied) (last : TopologyPreset) :
    applyTopologyPreset applied last = applyTopologyPreset scenario last := by
  obtain ⟨enabledByPair, rfl⟩ := applyTopologyPreset_ok h
  unfold applyTopologyPreset
  have hids : ({ scenario with links := scenario.links.map (·.switched enabledByPair) } :
      Scenario).nodeIds = scenario.nodeIds := rfl
  rw [hids]
  cases generateLinks scenario.nodeIds last with
  | error error => rfl
  | ok generated =>
      dsimp only
      rw [switchLinks_switched]

theorem Scenario.CompleteGraph.applied {scenario applied : Scenario} {preset : TopologyPreset}
    (h : scenario.CompleteGraph) (happlied : applyTopologyPreset scenario preset = .ok applied) :
    applied.CompleteGraph := by
  obtain ⟨enabledByPair, rfl⟩ := applyTopologyPreset_ok happlied
  refine h.withLinks ?_
  rw [List.map_map]
  rfl

/-- Every preset applies to a complete graph. -/
theorem Scenario.CompleteGraph.appliesPreset {scenario : Scenario} (h : scenario.CompleteGraph)
    (hnodes : scenario.nodes ≠ []) (preset : TopologyPreset) :
    ∃ applied, applyTopologyPreset scenario preset = .ok applied := by
  unfold applyTopologyPreset
  cases hgenerated : generateLinks scenario.nodeIds preset with
  | error error =>
      cases hids : scenario.nodeIds with
      | nil => exact absurd (List.map_eq_nil_iff.mp hids) hnodes
      | cons hub rest =>
          rw [hids] at hgenerated
          cases hgenerated
  | ok generated =>
      have hknown : ∀ link ∈ scenario.links, ((∅ : Dict (String × String) Bool).update
          (generated.map fun link => (link.key, link.enabled))).contains link.key = true := by
        intro link hlink
        refine (Dict.contains_update _ _ _).mpr (Or.inr ?_)
        rw [List.map_map]
        refine (congrArg (link.key ∈ ·) (generateLinks_keys hgenerated)).mpr ?_
        exact h.paired.mem_iff.mp (List.mem_map_of_mem hlink)
      obtain ⟨links, hlinks⟩ := switchLinks_of hknown
      refine ⟨{ scenario with links := links }, ?_⟩
      dsimp only
      rw [hlinks]

/-- The scenario of a new service. -/
theorem completeGraph_defaultScenario : defaultScenario.CompleteGraph :=
  Scenario.validateGraph_ok_iff.mp (by decide +kernel)

theorem defaultScenario_nodes : defaultScenario.nodes ≠ [] := by decide +kernel

/-- A scenario that was accepted: its nodes are well formed, its node count is within the
bounds of its type, and it passed `validate_graph`. -/
abbrev AcceptedScenario : Type :=
  { scenario : Scenario // (∀ node ∈ scenario.nodes, node.WellFormed) ∧
    2 ≤ scenario.nodeCount ∧ scenario.nodeCount ≤ 10 ∧ scenario.validateGraph = .ok () }

end MeshtasticLab.Models

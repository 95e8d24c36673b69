/-
  Models/Scenario.lean --- the versioned scenario schema.

  Embeds `backend/app/models/scenario.py`: the records of a scenario, the graph
  check that a scenario passes on construction, and `link_map`.  The display
  fields that no modelled function reads and the Meshtastic channel are left out.
-/
import MeshtasticLab.Foundation.Dict
import Mathlib.Data.Rat.Defs

set_option autoImplicit false

namespace MeshtasticLab.Models

open MeshtasticLab.Foundation

/-- `SUPPORTED_MODEM_PRESETS`. -/
inductive ModemPreset where
  | longFast
  | longSlow
  | mediumSlow
  | mediumFast
  | shortSlow
  | shortFast
  | longModerate
  | shortTurbo
  | longTurbo
  deriving DecidableEq, Repr

/-- `RFSettings`, with the defaults of the source. -/
structure RFSettings where
  region : String := "US"
  modemPreset : ModemPreset := .longFast
  frequencySlot : Nat := 20
  hopLimit : Nat := 4
  deriving DecidableEq, Repr

/-- `ScenarioNode`. -/
structure ScenarioNode where
  id : String
  apiPort : Nat
  deriving DecidableEq, Repr

/-- A character of a node id after the first. -/
def isNodeIdChar (c : Char) : Bool :=
  ('a' ≤ c && c ≤ 'z') || ('0' ≤ c && c ≤ '9') || c = '-'

/-- The pattern of node ids. -/
def isNodeId (id : String) : Bool :=
  match id.toList with
  | [] => false
  | first :: rest => isNodeIdChar first && first ≠ '-' && rest.all isNodeIdChar &&
      rest.length ≤ 31

def PUBLIC_PORT_MIN : Nat := 45001
def PUBLIC_PORT_MAX : Nat := 45010

/-- What the types of its fields say of every node. -/
def ScenarioNode.WellFormed (node : ScenarioNode) : Prop :=
  isNodeId node.id = true ∧ PUBLIC_PORT_MIN ≤ node.apiPort ∧ node.apiPort ≤ PUBLIC_PORT_MAX

instance (node : ScenarioNode) : Decidable node.WellFormed :=
  inferInstanceAs (Decidable (_ ∧ _ ∧ _))

/-- `DirectedLink`, with the defaults of the source. -/
structure DirectedLink where
  fromNode : String
  toNode : String
  enabled : Bool := true
  rssiDbm : Int := -85
  snrDb : ℚ := 8
  deriving DecidableEq, Repr

/-- The key of a link: its ordered pair of nodes. -/
def DirectedLink.key (link : DirectedLink) : String × String := (link.fromNode, link.toNode)

/-- `Scenario`. -/
structure Scenario where
  name : String
  seed : Int := 1
  nodeCount : Nat
  rf : RFSettings := {}
  nodes : List ScenarioNode
  links : List DirectedLink
  freshState : Bool := true
  deriving DecidableEq, Repr

namespace Scenario

/-- The ids of the nodes, in scenario order. -/
def nodeIds (scenario : Scenario) : List String := scenario.nodes.map (·.id)

/-- The loop of `validate_graph` over the links, given the keys seen so far. -/
def validateLinks (known : List String) :
    List DirectedLink → List (String × String) → Except String (List (String × String))
  | [], seen => .ok seen
  | link :: rest, seen =>
      if link.fromNode = link.toNode then .error "self-links are not allowed"
      else if link.fromNode ∉ known ∨ link.toNode ∉ known then
        .error s!"link references unknown node: {link.fromNode} -> {link.toNode}"
      else if link.key ∈ seen then
        .error s!"duplicate directed link: {link.fromNode} -> {link.toNode}"
      else validateLinks known rest (seen ++ [link.key])

/-- The ordered pairs of distinct nodes. -/
def orderedPairs (nodeIds : List String) : List (String × String) :=
  nodeIds.flatMap fun source =>
    (nodeIds.filter fun target => source ≠ target).map fun target => (source, target)

/-- `Scenario.validate_graph`. -/
def validateGraph (scenario : Scenario) : Except String Unit :=
  if scenario.nodeCount ≠ scenario.nodes.length then
    .error "nodeCount must equal the number of nodes"
  else if ¬scenario.nodeIds.Nodup then .error "node IDs must be unique"
  else if ¬(scenario.nodes.map (·.apiPort)).Nodup then .error "public API ports must be unique"
  else
    match validateLinks scenario.nodeIds scenario.links [] with
    | .error message => .error message
    | .ok linkKeys =>
        let missing := (orderedPairs scenario.nodeIds).filter fun pair => pair ∉ linkKeys
        if missing.isEmpty then .ok ()
        else
          .error ("missing directed links: " ++
            String.intercalate ", " (missing.map fun pair => s!"{pair.1} -> {pair.2}"))

/-- `Scenario.link_map`. -/
def linkMap (scenario : Scenario) : Dict (String × String) DirectedLink :=
  (∅ : Dict _ _).update (scenario.links.map fun link => (link.key, link))

/-- What `validate_graph` has found when it passes a scenario. -/
theorem validateGraph_passed {scenario : Scenario} (h : scenario.validateGraph = .ok ()) :
    scenario.nodeCount = scenario.nodes.length ∧ scenario.nodeIds.Nodup ∧
      (scenario.nodes.map (·.apiPort)).Nodup ∧
      ∃ linkKeys, validateLinks scenario.nodeIds scenario.links [] = .ok linkKeys ∧
        ∀ pair ∈ orderedPairs scenario.nodeIds, pair ∈ linkKeys := by
  unfold validateGraph at h
  split at h
  · cases h
  · next hcount =>
      split at h
      · cases h
      · next hids =>
          split at h
          · cases h
          · next hports =>
              rw [not_not] at hcount hids hports
              refine ⟨hcount, hids, hports, ?_⟩
              split at h
              · cases h
              · next linkKeys hlinks =>
                  refine ⟨linkKeys, hlinks, fun pair hpair => ?_⟩
                  dsimp only at h
                  split at h
                  · next hnone =>
                      by_contra habsent
                      exact List.filter_eq_nil_iff.mp (List.isEmpty_iff.mp hnone) pair hpair
                        (by simpa using habsent)
                  · cases h

/-- A scenario that passed `validate_graph` has distinct node ids. -/
theorem nodeIds_nodup {scenario : Scenario} (h : scenario.validateGraph = .ok ()) :
    scenario.nodeIds.Nodup := (validateGraph_passed h).2.1

/-! ## Link maps -/

/-- A link map of some nodes: it has one link for each ordered pair, under its key. -/
structure Meshed (nodeIds : List String) (links : Dict (String × String) DirectedLink) :
    Prop where
  keyed : ∀ key link, links.get? key = some link → link.key = key
  paired : ∀ key, links.contains key = true ↔ key ∈ orderedPairs nodeIds

theorem mem_orderedPairs {nodeIds : List String} {pair : String × String} :
    pair ∈ orderedPairs nodeIds ↔
      pair.1 ∈ nodeIds ∧ pair.2 ∈ nodeIds ∧ pair.1 ≠ pair.2 := by
  obtain ⟨source, target⟩ := pair
  unfold orderedPairs
  rw [List.mem_flatMap]
  constructor
  · rintro ⟨a, ha, hpair⟩
    obtain ⟨b, hb, heq⟩ := List.mem_map.mp hpair
    cases heq
    obtain ⟨hb, hne⟩ := List.mem_filter.mp hb
    exact ⟨ha, hb, by simpa using hne⟩
  · rintro ⟨hsource, htarget, hne⟩
    exact ⟨source, hsource, List.mem_map.mpr
      ⟨target, List.mem_filter.mpr ⟨htarget, by simpa using hne⟩, rfl⟩⟩

/-- The link map that a list of links makes. -/
def linkMapOf (links : List DirectedLink) : Dict (String × String) DirectedLink :=
  (∅ : Dict _ _).update (links.map fun link => (link.key, link))

theorem get?_linkMapOf {links : List DirectedLink} {key : String × String}
    {link : DirectedLink} (h : (linkMapOf links).get? key = some link) :
    link ∈ links ∧ link.key = key := by
  rcases Dict.get?_update h with hnone | hmember
  · cases hnone
  · obtain ⟨found, hfound, heq⟩ := List.mem_map.mp hmember
    cases heq
    exact ⟨hfound, rfl⟩

theorem contains_linkMapOf {links : List DirectedLink} {key : String × String} :
    (linkMapOf links).contains key = true ↔ key ∈ links.map (·.key) := by
  unfold linkMapOf
  rw [Dict.contains_update, List.map_map]
  exact or_iff_right (by simp [Dict.contains])

/-- What the loop over the links collects: the keys of links between known nodes. -/
theorem validateLinks_ok {known : List String} {links : List DirectedLink}
    {seen linkKeys : List (String × String)}
    (h : validateLinks known links seen = .ok linkKeys) :
    linkKeys = seen ++ links.map (·.key) ∧
      ∀ link ∈ links, link.key ∈ orderedPairs known := by
  induction links generalizing seen with
  | nil =>
      cases h
      exact ⟨(List.append_nil _).symm, fun _ hmember => absurd hmember List.not_mem_nil⟩
  | cons link rest ih =>
      unfold validateLinks at h
      split at h
      · cases h
      · next hself =>
          split at h
          · cases h
          · next hknown =>
              split at h
              · cases h
              · obtain ⟨hkeys, hrest⟩ := ih h
                rw [not_or, not_not, not_not] at hknown
                refine ⟨by rw [hkeys, List.append_assoc]; rfl, ?_⟩
                intro other hmember
                rcases List.mem_cons.mp hmember with rfl | hmember
                · exact mem_orderedPairs.mpr ⟨hknown.1, hknown.2, hself⟩
                · exact hrest other hmember

/-- The link map of a scenario that passed `validate_graph`. -/
theorem meshed_linkMap {scenario : Scenario} (h : scenario.validateGraph = .ok ()) :
    Meshed scenario.nodeIds scenario.linkMap where
  keyed key link hget := (get?_linkMapOf hget).2
  paired := by
    obtain ⟨_, _, _, linkKeys, hlinks, hmissing⟩ := validateGraph_passed h
    obtain ⟨rfl, hpairs⟩ := validateLinks_ok hlinks
    intro key
    refine contains_linkMapOf.trans ⟨?_, ?_⟩
    · intro hkey
      obtain ⟨link, hlink, rfl⟩ := List.mem_map.mp hkey
      exact hpairs link hlink
    · exact hmissing key

end Scenario

end MeshtasticLab.Models

/-
  Models/Reachability.lean --- the node pairs that enabled links connect.

  Embeds `Scenario.reachable_pairs` of `backend/app/models/scenario.py`: the
  adjacency sets, the queue of every source with its hop counts, and the set of
  visited nodes, which grows when a node is taken from the queue.  A Python set is
  a list without repetitions; the order in which one is iterated is `order`, of
  which only that it lists every element once is ever used.
-/
import MeshtasticLab.Foundation.BreadthFirst
import MeshtasticLab.Models.Scenario

set_option autoImplicit false

namespace MeshtasticLab.Models

open MeshtasticLab.Foundation

namespace Scenario

/-- One pass of the loop over the links; `none` is the `KeyError` of an unknown node. -/
def addEdge (adjacency : Dict String (List String)) (link : DirectedLink) :
    Option (Dict String (List String)) :=
  if link.enabled then
    (adjacency.get? link.fromNode).map fun targets =>
      adjacency.set link.fromNode (targets.insert link.toNode)
  else some adjacency

/-- The adjacency sets of the enabled links. -/
def adjacency (scenario : Scenario) : Option (Dict String (List String)) :=
  scenario.links.foldlM addEdge
    ((∅ : Dict String (List String)).update (scenario.nodes.map fun node => (node.id, [])))

/-- The nodes that have adjacency sets and are not yet visited. -/
def unvisited (adjacency : Dict String (List String)) (visited : List String) : List String :=
  adjacency.keys.filter fun node => node ∉ visited

theorem unvisited_insert_le (adjacency : Dict String (List String)) (visited : List String)
    (target : String) :
    (unvisited adjacency (visited.insert target)).length ≤
      (unvisited adjacency visited).length := by
  unfold unvisited
  rw [← List.countP_eq_length_filter, ← List.countP_eq_length_filter]
  refine List.countP_mono_left fun node _ hnode => ?_
  simp only [List.mem_insert_iff, not_or, decide_eq_true_eq] at hnode ⊢
  exact hnode.2

theorem unvisited_insert_lt {adjacency : Dict String (List String)} {visited : List String}
    {target : String} {neighbors : List String} (hkey : adjacency.get? target = some neighbors)
    (hnew : target ∉ visited) :
    (unvisited adjacency (visited.insert target)).length <
      (unvisited adjacency visited).length := by
  unfold unvisited
  have hsame : (adjacency.keys.filter fun node => node ∉ visited.insert target) =
      (adjacency.keys.filter fun node => node ∉ visited).filter fun node => node ≠ target := by
    rw [List.filter_filter]
    refine List.filter_congr fun node _ => ?_
    simp only [List.mem_insert_iff, not_or, Bool.decide_and, ne_eq]
  rw [hsame]
  refine List.length_filter_lt_length_iff_exists.mpr ⟨target, ?_, by simp⟩
  have hmember : target ∈ adjacency.keys :=
    List.mem_map.mpr ⟨(target, neighbors), Dict.get?_eq_some.mp hkey, rfl⟩
  exact List.mem_filter.mpr ⟨hmember, by simpa using hnew⟩

/-- The `while` loop of one source: the queue, the visited nodes and the pairs found. -/
def explore (order : List String → List String) (maxHops : Option Nat)
    (adjacency : Dict String (List String)) (source : String)
    (pending : List (String × Nat)) (visited : List String)
    (reachable : List (String × String)) : Option (List (String × String)) :=
  match pending with
  | [] => some reachable
  | (target, hops) :: pending =>
      if target ∈ visited then
        explore order maxHops adjacency source pending visited reachable
      else
        let reachable := reachable.insert (source, target)
        if maxHops.all (fun limit => hops < limit) then
          match _hkey : adjacency.get? target with
          | none => none
          | some neighbors =>
              explore order maxHops adjacency source
                (pending ++ (order (neighbors.filter fun node =>
                  node ∉ visited.insert target)).map fun node => (node, hops + 1))
                (visited.insert target) reachable
        else
          explore order maxHops adjacency source pending (visited.insert target) reachable
termination_by ((unvisited adjacency visited).length, pending.length)
decreasing_by
  · exact Prod.Lex.right _ (by simp)
  · exact Prod.Lex.left _ _ (unvisited_insert_lt _hkey ‹_›)
  · rcases Nat.lt_or_eq_of_le (unvisited_insert_le adjacency visited target) with hlt | heq
    · exact Prod.Lex.left _ _ hlt
    · rw [heq]
      exact Prod.Lex.right _ (by simp)

/-- The queue of a source at the start. -/
def initialPending (order : List String → List String) (adjacency : Dict String (List String))
    (source : String) : List (String × Nat) :=
  (order ((adjacency.get? source).getD [])).map fun target => (target, 1)

/-- `Scenario.reachable_pairs`. -/
def reachablePairs (order : List String → List String) (maxHops : Option Nat)
    (scenario : Scenario) : Option (List (String × String)) :=
  match scenario.adjacency with
  | none => none
  | some adjacency =>
      adjacency.keys.foldlM (fun reachable source =>
        explore order maxHops adjacency source (initialPending order adjacency source)
          [source] reachable) []

/-! ## The adjacency sets -/

/-- An enabled link leads from one node to another. -/
def Leads (links : List DirectedLink) (source target : String) : Prop :=
  ∃ link ∈ links, link.enabled = true ∧ link.fromNode = source ∧ link.toNode = target

/-- The adjacency sets of some nodes hold what the enabled links lead to. -/
structure Adjacent (nodeIds : List String) (links : List DirectedLink)
    (adjacency : Dict String (List String)) : Prop where
  known : ∀ node, adjacency.contains node = true ↔ node ∈ nodeIds
  leads : ∀ source targets, adjacency.get? source = some targets →
    ∀ target, target ∈ targets ↔ Leads links source target

theorem leads_concat {links : List DirectedLink} {link : DirectedLink}
    {source target : String} :
    Leads (links ++ [link]) source target ↔ Leads links source target ∨
      (link.enabled = true ∧ link.fromNode = source ∧ link.toNode = target) := by
  unfold Leads
  simp only [List.mem_append, List.mem_singleton]
  constructor
  · rintro ⟨other, hmember | rfl, hother⟩
    · exact Or.inl ⟨other, hmember, hother⟩
    · exact Or.inr hother
  · rintro (⟨other, hmember, hother⟩ | hlink)
    · exact ⟨other, Or.inl hmember, hother⟩
    · exact ⟨link, Or.inr rfl, hlink⟩

/-- A link between known nodes is added. -/
theorem Adjacent.addEdge {nodeIds : List String} {links : List DirectedLink}
    {adjacency : Dict String (List String)} (h : Adjacent nodeIds links adjacency)
    {link : DirectedLink} (hknown : link.fromNode ∈ nodeIds) :
    ∃ next, Scenario.addEdge adjacency link = some next ∧
      Adjacent nodeIds (links ++ [link]) next := by
  unfold Scenario.addEdge
  split
  · next henabled =>
      obtain ⟨targets, htargets⟩ := Option.isSome_iff_exists.mp ((h.known _).mpr hknown)
      refine ⟨_, by rw [htargets]; rfl, ?_, ?_⟩
      · intro node
        rw [Dict.contains_set, h.known]
        exact or_iff_right_of_imp fun hsame => hsame ▸ hknown
      · intro source found hfound target
        rw [leads_concat]
        rw [Dict.get?_set] at hfound
        split at hfound
        · next hsame =>
            cases hfound
            rw [List.mem_insert_iff, h.leads _ _ htargets, hsame, or_comm]
            exact or_congr_right ⟨fun heq => ⟨henabled, rfl, heq.symm⟩, fun hlink => hlink.2.2.symm⟩
        · next hother =>
            rw [h.leads _ _ hfound]
            exact (or_iff_left fun hlink => hother hlink.2.1.symm).symm
  · next hdisabled =>
      refine ⟨adjacency, rfl, h.known, fun source targets htargets target => ?_⟩
      rw [leads_concat, h.leads _ _ htargets]
      exact (or_iff_left fun hlink => hdisabled hlink.1).symm

/-- Links between known nodes are added one after another. -/
theorem Adjacent.addEdges {nodeIds : List String} {links more : List DirectedLink}
    {adjacency : Dict String (List String)} (h : Adjacent nodeIds links adjacency)
    (hknown : ∀ link ∈ more, link.fromNode ∈ nodeIds) :
    ∃ final, more.foldlM Scenario.addEdge adjacency = some final ∧
      Adjacent nodeIds (links ++ more) final := by
  induction more generalizing links adjacency with
  | nil => exact ⟨adjacency, rfl, by rwa [List.append_nil]⟩
  | cons link rest ih =>
      obtain ⟨next, hnext, hadjacent⟩ := h.addEdge (hknown link (.head _))
      obtain ⟨final, hfinal, hdone⟩ := ih hadjacent fun other hother =>
        hknown other (.tail _ hother)
      refine ⟨final, ?_, by rwa [List.append_assoc] at hdone⟩
      rw [List.foldlM_cons, hnext]
      exact hfinal

/-- The links of a scenario that passed `validate_graph` join its nodes. -/
theorem links_known {scenario : Scenario} (h : scenario.validateGraph = .ok ())
    {link : DirectedLink} (hlink : link ∈ scenario.links) :
    link.fromNode ∈ scenario.nodeIds ∧ link.toNode ∈ scenario.nodeIds := by
  obtain ⟨_, _, _, linkKeys, hlinks, _⟩ := validateGraph_passed h
  have hpair := mem_orderedPairs.mp ((validateLinks_ok hlinks).2 link hlink)
  exact ⟨hpair.1, hpair.2.1⟩

/-- A valid scenario has the adjacency sets of its enabled links. -/
theorem adjacency_valid {scenario : Scenario} (h : scenario.validateGraph = .ok ()) :
    ∃ adjacency, scenario.adjacency = some adjacency ∧
      Adjacent scenario.nodeIds scenario.links adjacency := by
  have hempty : Adjacent scenario.nodeIds []
      ((∅ : Dict String (List String)).update
        (scenario.nodes.map fun node => (node.id, []))) := by
    refine ⟨?_, ?_⟩
    · intro node
      rw [Dict.contains_update, List.map_map]
      exact or_iff_right (by simp [Dict.contains])
    · intro source targets htargets target
      rcases Dict.get?_update htargets with hnone | hmember
      · cases hnone
      · obtain ⟨node, _, heq⟩ := List.mem_map.mp hmember
        cases heq
        simp [Leads]
  exact hempty.addEdges fun link hlink => (links_known h hlink).1

/-! ## The search -/

section

variable {order : List String → List String} (horder : ∀ items, (order items).Perm items)
  {maxHops : Option Nat} {scenario : Scenario} {adjacency : Dict String (List String)}

/-- A node that a search has in its queue and has not visited has adjacency sets. -/
theorem pending_known (hvalid : scenario.validateGraph = .ok ())
    (hadjacent : Adjacent scenario.nodeIds scenario.links adjacency) {source : String}
    {pending : List (String × Nat)} {visited : List String}
    (h : Searching (Leads scenario.links) maxHops source pending visited)
    (hsource : source ∈ visited) {entry : String × Nat} (hentry : entry ∈ pending)
    (hnew : entry.1 ∉ visited) : ∃ targets, adjacency.get? entry.1 = some targets := by
  rcases (h.walked entry hentry).1.last with hsame | ⟨_, link, hlink, _, _, hto⟩
  · exact absurd (hsame ▸ hsource) hnew
  · have hknown := (links_known hvalid hlink).2
    rw [hto] at hknown
    exact Option.isSome_iff_exists.mp ((hadjacent.known _).mpr hknown)

include horder

/-- The loop of one source adds the pairs that walks from it within the bound connect. -/
theorem explore_exact (hvalid : scenario.validateGraph = .ok ())
    (hadjacent : Adjacent scenario.nodeIds scenario.links adjacency) (source : String)
    (before : List (String × String)) (pending : List (String × Nat)) (visited : List String)
    (reachable : List (String × String))
    (h : Searching (Leads scenario.links) maxHops source pending visited)
    (hsource : source ∈ visited)
    (hreachable : ∀ pair, pair ∈ reachable ↔
      pair ∈ before ∨ (pair.1 = source ∧ pair.2 ≠ source ∧ pair.2 ∈ visited)) :
    ∃ result, explore order maxHops adjacency source pending visited reachable = some result ∧
      ∀ pair, pair ∈ result ↔ pair ∈ before ∨ (pair.1 = source ∧ pair.2 ≠ source ∧
        ∃ n, Walk (Leads scenario.links) source pair.2 n ∧ Within maxHops n) := by
  have hadded : ∀ {visited : List String} {reachable : List (String × String)} {target : String},
      source ∈ visited → target ∉ visited →
      (∀ pair, pair ∈ reachable ↔
        pair ∈ before ∨ (pair.1 = source ∧ pair.2 ≠ source ∧ pair.2 ∈ visited)) →
      ∀ pair, pair ∈ reachable.insert (source, target) ↔
        pair ∈ before ∨ (pair.1 = source ∧ pair.2 ≠ source ∧ pair.2 ∈ visited.insert target) := by
    intro visited reachable target hsource hnew hreachable pair
    have hne : target ≠ source := fun hsame => hnew (hsame ▸ hsource)
    rw [List.mem_insert_iff, hreachable, List.mem_insert_iff]
    constructor
    · rintro (rfl | hpair | ⟨hfirst, hother, hmember⟩)
      · exact Or.inr ⟨rfl, hne, Or.inl rfl⟩
      · exact Or.inl hpair
      · exact Or.inr ⟨hfirst, hother, Or.inr hmember⟩
    · rintro (hpair | ⟨hfirst, hother, heq | hmember⟩)
      · exact Or.inr (Or.inl hpair)
      · exact Or.inl (Prod.ext hfirst heq)
      · exact Or.inr (Or.inr ⟨hfirst, hother, hmember⟩)
  fun_induction explore order maxHops adjacency source pending visited reachable with
  | case1 visited reachable =>
      refine ⟨reachable, rfl, fun pair => ?_⟩
      rw [hreachable, h.complete]
  | case2 visited reachable target hops pending hvisited ih =>
      exact ih (h.skip hvisited) hsource hreachable
  | case3 visited reachable target hops pending hnew hmore hkey =>
      obtain ⟨targets, htargets⟩ := pending_known hvalid hadjacent h hsource (.head _) hnew
      rw [hkey] at htargets
      cases htargets
  | case4 visited reachable target hops pending hnew reachable' hmore neighbors hkey ih =>
      have hwithin : Within maxHops (hops + 1) := by
        intro limit hlimit
        rw [hlimit] at hmore
        exact Nat.succ_le_of_lt (by simpa using hmore)
      have hentry : ∀ v, v ∈ order (neighbors.filter fun node => node ∉ visited.insert target) ↔
          Leads scenario.links target v ∧ v ∉ visited.insert target := by
        intro v
        rw [(horder _).mem_iff, List.mem_filter, hadjacent.leads _ _ hkey]
        simp
      refine ih ?_ (List.mem_insert_of_mem hsource) (hadded hsource hnew hreachable)
      rw [List.insert_of_not_mem hnew] at hentry ⊢
      refine h.visit ?_ ?_
      · intro entry hmember
        obtain ⟨v, hv, rfl⟩ := List.mem_map.mp hmember
        exact ⟨rfl, hwithin, ((hentry v).mp hv).1⟩
      · intro v _ hedge hv
        exact List.mem_map.mpr ⟨v, (hentry v).mpr ⟨hedge, hv⟩, rfl⟩
  | case5 visited reachable target hops pending hnew reachable' hlast ih =>
      refine ih ?_ (List.mem_insert_of_mem hsource) (hadded hsource hnew hreachable)
      rw [List.insert_of_not_mem hnew, ← List.append_nil pending]
      refine h.visit (by simp) fun v hwithin => ?_
      -- the bound is reached, so no successor is within it
      cases hmax : maxHops with
      | none => rw [hmax] at hlast; exact absurd rfl hlast
      | some limit =>
          rw [hmax] at hlast
          have := hwithin limit hmax
          simp at hlast
          omega

/-- The pairs found after some of the sources. -/
theorem reachablePairs_of_sources (hvalid : scenario.validateGraph = .ok ())
    (hlimit : ∀ limit, maxHops = some limit → 1 ≤ limit)
    (hadjacent : Adjacent scenario.nodeIds scenario.links adjacency) (sources : List String)
    (hsources : ∀ source ∈ sources, source ∈ scenario.nodeIds)
    (before : List (String × String)) :
    ∃ result, sources.foldlM (fun reachable source =>
        explore order maxHops adjacency source (initialPending order adjacency source)
          [source] reachable) before = some result ∧
      ∀ pair, pair ∈ result ↔ pair ∈ before ∨ (pair.1 ∈ sources ∧ pair.2 ≠ pair.1 ∧
        ∃ n, Walk (Leads scenario.links) pair.1 pair.2 n ∧ Within maxHops n) := by
  induction sources generalizing before with
  | nil => exact ⟨before, rfl, by simp⟩
  | cons source rest ih =>
      obtain ⟨targets, htargets⟩ := Option.isSome_iff_exists.mp
        ((hadjacent.known source).mpr (hsources source (.head _)))
      have hstart : Searching (Leads scenario.links) maxHops source
          (initialPending order adjacency source) [source] := by
        refine Searching.start hlimit ?_ ?_
        · intro entry hentry
          obtain ⟨v, _, rfl⟩ := List.mem_map.mp hentry
          rfl
        · intro v
          rw [← hadjacent.leads source targets htargets v]
          unfold initialPending
          rw [htargets, List.mem_map]
          constructor
          · rintro ⟨w, hw, heq⟩
            cases heq
            exact (horder _).mem_iff.mp hw
          · exact fun hv => ⟨v, (horder _).mem_iff.mpr hv, rfl⟩
      obtain ⟨middle, hmiddle, hfound⟩ := explore_exact horder hvalid hadjacent source before _ _
        before hstart (by simp) (by
          intro pair
          refine (or_iff_left ?_).symm
          rintro ⟨_, hother, hmember⟩
          exact hother (List.mem_singleton.mp hmember))
      obtain ⟨result, hresult, hall⟩ := ih (fun other hother => hsources other (.tail _ hother))
        middle
      refine ⟨result, ?_, ?_⟩
      · rw [List.foldlM_cons, hmiddle]
        exact hresult
      · rintro ⟨first, second⟩
        rw [hall, hfound, List.mem_cons]
        constructor
        · rintro ((hpair | ⟨rfl, hother, hwalk⟩) | ⟨hmember, hrest⟩)
          · exact Or.inl hpair
          · exact Or.inr ⟨Or.inl rfl, hother, hwalk⟩
          · exact Or.inr ⟨Or.inr hmember, hrest⟩
        · rintro (hpair | ⟨hfirst | hmember, hother, hwalk⟩)
          · exact Or.inl (Or.inl hpair)
          · dsimp only at hfirst hother hwalk
            subst hfirst
            exact Or.inl (Or.inr ⟨rfl, hother, hwalk⟩)
          · exact Or.inr ⟨hmember, hother, hwalk⟩

/-- `reachable_pairs` of a valid scenario returns exactly the ordered pairs of distinct
nodes that a path of enabled links connects, within the bound when there is one. -/
theorem reachablePairs_exact (hvalid : scenario.validateGraph = .ok ())
    (hlimit : ∀ limit, maxHops = some limit → 1 ≤ limit) :
    ∃ pairs, scenario.reachablePairs order maxHops = some pairs ∧
      ∀ source target, (source, target) ∈ pairs ↔ source ≠ target ∧
        ∃ n, Walk (Leads scenario.links) source target n ∧ Within maxHops n := by
  obtain ⟨adjacency, hadjacency, hadjacent⟩ := adjacency_valid hvalid
  have hkeys : ∀ node, node ∈ adjacency.keys ↔ node ∈ scenario.nodeIds := by
    intro node
    rw [← hadjacent.known, Dict.mem_keys]
  obtain ⟨pairs, hpairs, hexact⟩ := reachablePairs_of_sources horder hvalid hlimit hadjacent
    adjacency.keys (fun source hsource => (hkeys source).mp hsource) []
  refine ⟨pairs, ?_, ?_⟩
  · unfold reachablePairs
    rw [hadjacency]
    exact hpairs
  · intro source target
    rw [hexact]
    simp only [List.not_mem_nil, false_or]
    constructor
    · rintro ⟨_, hother, hwalk⟩
      exact ⟨hother.symm, hwalk⟩
    · rintro ⟨hother, n, hwalk, hwithin⟩
      refine ⟨?_, hother.symm, n, hwalk, hwithin⟩
      -- the first link of the path starts at a node of the scenario
      cases n with
      | zero => cases hwalk; exact absurd rfl hother
      | succ n =>
          obtain ⟨v, ⟨link, hlink, _, hfrom, _⟩, _⟩ := hwalk.first
          exact (hkeys source).mpr (hfrom ▸ (links_known hvalid hlink).1)

end

/-- Three nodes whose enabled links form a cycle. -/
def ringScenario : Scenario where
  name := "ring"
  nodeCount := 3
  nodes := [{ id := "node-1", apiPort := 45001 }, { id := "node-2", apiPort := 45002 },
    { id := "node-3", apiPort := 45003 }]
  links := [{ fromNode := "node-1", toNode := "node-2" },
    { fromNode := "node-1", toNode := "node-3", enabled := false },
    { fromNode := "node-2", toNode := "node-1", enabled := false },
    { fromNode := "node-2", toNode := "node-3" },
    { fromNode := "node-3", toNode := "node-1" },
    { fromNode := "node-3", toNode := "node-2", enabled := false }]

/-- On the cycle a node reaches the next one in one hop and the one after it in two. -/
theorem ring_pairs_within_one : ∃ pairs, ringScenario.reachablePairs id (some 1) = some pairs ∧
    ∀ source target, (source, target) ∈ pairs ↔ source ≠ target ∧
      ∃ n, Walk (Leads ringScenario.links) source target n ∧ Within (some 1) n :=
  reachablePairs_exact (fun items => List.Perm.refl items) (by decide +kernel) (by simp)

end Scenario

end MeshtasticLab.Models

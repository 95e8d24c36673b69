/-
  Frontend/ScenarioEditor.lean --- changing the number of nodes in the interface.

  Embeds `makeNodes`, `resizeLinks` and `updateScenarioCount` of
  `frontend/src/App.tsx`, over the documents of `Models/Documents.lean`.

  WHAT THIS FILE IS FOR

  The interface edits a draft that the backend validates only on saving.  The two
  counters of `makeNodes` never turn back, so each has passed only names and ports
  that are in use: nine nodes leave one of the ten ports free.  `resizeLinks` finds
  a link again by a string, which names one ordered pair since no id has a NUL in it.
-/
import MeshtasticLab.Foundation.FirstFree
import MeshtasticLab.Models.Documents

set_option autoImplicit false

namespace MeshtasticLab.Frontend

open MeshtasticLab.Foundation MeshtasticLab.Models MeshtasticLab.Models.Document

/-! ## Nodes and links -/

/-- The id of the node with a suffix. -/
def nodeName : ℕ ↪ String where
  toFun suffix := s!"node-{suffix}"
  inj' first second hsame := by
    have hlists := congrArg String.toList hsame
    simp only [String.toList_append, toString] at hlists
    have hdigits : Nat.toDigits 10 first = Nat.toDigits 10 second := by
      simpa using List.append_cancel_left hlists
    have hvalue := congrArg (fun digits => Nat.ofDigitChars 10 digits 0) hdigits
    simpa only [Nat.ofDigitChars_ten_toDigits] using hvalue

/-- The outer loop of `makeNodes`. -/
def fillNodes (count : ℕ) (next : List Document.ScenarioNode) (usedIds : List String)
    (usedPorts : List ℕ) (suffix apiPort : ℕ) : List Document.ScenarioNode :=
  if next.length < count then
    let suffix := firstFree nodeName usedIds suffix
    let apiPort := firstFree (.refl ℕ) usedPorts apiPort
    let id := nodeName suffix
    let node : Document.ScenarioNode :=
      { id := id
        displayName := s!"Node {suffix}"
        role := .client
        apiPort := apiPort }
    fillNodes count (next ++ [node]) (usedIds ++ [id]) (usedPorts ++ [apiPort]) suffix apiPort
  else next
termination_by count - next.length
decreasing_by
  rw [List.length_append, List.length_singleton]
  omega

/-- `makeNodes`. -/
def makeNodes (count : ℕ) (previous : List Document.ScenarioNode) :
    List Document.ScenarioNode :=
  let next := previous.take count
  fillNodes count next (next.map (·.id)) (next.map (·.apiPort)) 1 45001

/-- The key of an ordered pair in `resizeLinks`. -/
def linkKey (source target : String) : String := s!"{source}\x00{target}"

/-- `existing` in `resizeLinks`. -/
def existing (previous : List DirectedLink) : Dict String DirectedLink :=
  (∅ : Dict String DirectedLink).update
    (previous.map fun link => (linkKey link.fromNode link.toNode, link))

/-- `resizeLinks`. -/
def resizeLinks (nodeIds : List String) (previous : List DirectedLink) : List DirectedLink :=
  nodeIds.flatMap fun source =>
    (nodeIds.filter fun target => target ≠ source).map fun target =>
      ((existing previous).get? (linkKey source target)).getD
        { fromNode := source
          toNode := target
          enabled := true
          rssiDbm := -85
          snrDb := 8 }

/-! ## The editor -/

/-- `ScenarioEditor`. -/
structure ScenarioEditor where
  draft : Option Document.Scenario
  saved : Option Document.Scenario
  deriving DecidableEq, Repr

/-- `setScenario`. -/
def ScenarioEditor.setScenario (editor : ScenarioEditor) (next : Document.Scenario) :
    ScenarioEditor := { editor with draft := some next }

/-- The fields of a `TrafficRequest` that name nodes. -/
structure TrafficDraft where
  sourceNodes : List String
  fixedDestination : Option String
  deriving DecidableEq, Repr

/-- What `updateScenarioCount` keeps of the traffic draft. -/
def TrafficDraft.restrict (current : TrafficDraft) (nextIds : List String) : TrafficDraft :=
  let sourceNodes := current.sourceNodes.filter fun source => source ∈ nextIds
  let kept := nextIds.find? fun id =>
    some id = current.fixedDestination ∧ id ∉ sourceNodes
  { sourceNodes := sourceNodes
    fixedDestination := kept.or (nextIds.find? fun id => id ∉ sourceNodes) }

/-- `updateScenarioCount`, for an integer. -/
def updateScenarioCount (editor : ScenarioEditor) (traffic : TrafficDraft) (count : ℤ) :
    ScenarioEditor × TrafficDraft :=
  match editor.draft with
  | none => (editor, traffic)
  | some scenario =>
      if count < 2 ∨ count > 10 then (editor, traffic)
      else
        let nextNodes := makeNodes count.toNat scenario.nodes
        let nextIds := nextNodes.map (·.id)
        (editor.setScenario
          { scenario with
            name := s!"{count}-node-custom"
            nodeCount := count.toNat
            nodes := nextNodes
            links := resizeLinks nextIds scenario.links },
          traffic.restrict nextIds)

/-! ## The nodes -/

theorem valid_named {suffix apiPort : ℕ} (hsuffix : suffix ≤ 10) (hmin : PUBLIC_PORT_MIN ≤ apiPort)
    (hmax : apiPort ≤ PUBLIC_PORT_MAX) :
    ({ id := nodeName suffix
       displayName := s!"Node {suffix}"
       role := .client
       apiPort := apiPort } : Document.ScenarioNode).Valid := by
  have hnames : ∀ suffix ≤ 10, isNodeId (nodeName suffix) = true ∧
      1 ≤ (s!"Node {suffix}").length ∧ (s!"Node {suffix}").length ≤ 40 := by decide +kernel
  obtain ⟨hid, hshown⟩ := hnames suffix hsuffix
  exact ⟨⟨hid, hmin, hmax⟩, hshown⟩

/-- The loop of `makeNodes` between two nodes: what it keeps, and that its counters have
passed only what is in use. -/
structure Filling (kept next : List Document.ScenarioNode) (suffix apiPort : ℕ) : Prop where
  keeps : kept <+: next
  valid : ∀ node ∈ next, node.Valid
  distinctIds : (next.map (·.id)).Nodup
  distinctPorts : (next.map (·.apiPort)).Nodup
  suffixes : Taken nodeName (next.map (·.id)) 1 suffix
  apiPorts : Taken (.refl ℕ) (next.map (·.apiPort)) 45001 apiPort
  firstPort : 45001 ≤ apiPort

/-- One more node, while there are fewer than ten. -/
theorem Filling.push {kept next : List Document.ScenarioNode} {suffix apiPort : ℕ}
    (h : Filling kept next suffix apiPort) (hlength : next.length < 10) :
    Filling kept
      (next ++ [{ id := nodeName (firstFree nodeName (next.map (·.id)) suffix)
                  displayName := s!"Node {firstFree nodeName (next.map (·.id)) suffix}"
                  role := .client
                  apiPort := firstFree (.refl ℕ) (next.map (·.apiPort)) apiPort }])
      (firstFree nodeName (next.map (·.id)) suffix)
      (firstFree (.refl ℕ) (next.map (·.apiPort)) apiPort) := by
  have hsuffixes := h.suffixes.firstFree
  have hports := h.apiPorts.firstFree
  have hid := firstFree_not_mem nodeName (next.map (·.id)) suffix
  have hport := firstFree_not_mem (.refl ℕ) (next.map (·.apiPort)) apiPort
  have hfirst := h.firstPort.trans (le_firstFree (.refl ℕ) (next.map (·.apiPort)) apiPort)
  generalize firstFree nodeName (next.map (·.id)) suffix = suffix at *
  generalize firstFree (.refl ℕ) (next.map (·.apiPort)) apiPort = apiPort at *
  have hsuffix : suffix ≤ 10 := by
    have := hsuffixes.le
    rw [List.length_map] at this
    omega
  have hlast : apiPort ≤ 45010 := by
    have := hports.le
    rw [List.length_map] at this
    omega
  refine ⟨h.keeps.trans (List.prefix_append _ _), ?_, ?_, ?_, ?_, ?_, hfirst⟩
  · intro node hnode
    rcases List.mem_append.mp hnode with hnode | hnode
    · exact h.valid node hnode
    · rw [List.mem_singleton.mp hnode]
      exact valid_named hsuffix hfirst hlast
  · rw [List.map_append, List.map_singleton, ← List.concat_eq_append]
    exact h.distinctIds.concat hid
  · rw [List.map_append, List.map_singleton, ← List.concat_eq_append]
    exact h.distinctPorts.concat hport
  · rw [List.map_append]
    exact hsuffixes.mono (List.subset_append_left _ _)
  · rw [List.map_append]
    exact hports.mono (List.subset_append_left _ _)

/-- The whole loop: it ends with as many nodes as were asked for. -/
theorem Filling.fillNodes {count : ℕ} (hcount : count ≤ 10)
    {kept next : List Document.ScenarioNode} {suffix apiPort : ℕ}
    (h : Filling kept next suffix apiPort) (hlength : next.length ≤ count) :
    (∃ suffix' apiPort', Filling kept
      (fillNodes count next (next.map (·.id)) (next.map (·.apiPort)) suffix apiPort)
      suffix' apiPort') ∧
    (Frontend.fillNodes count next (next.map (·.id)) (next.map (·.apiPort))
      suffix apiPort).length = count := by
  induction hmissing : count - next.length generalizing next suffix apiPort with
  | zero =>
      unfold Frontend.fillNodes
      rw [if_neg (by omega)]
      exact ⟨⟨suffix, apiPort, h⟩, by omega⟩
  | succ missing ih =>
      unfold Frontend.fillNodes
      rw [if_pos (by omega)]
      have hnext := ih (h.push (by omega)) (by simp; omega) (by simp; omega)
      rw [List.map_append, List.map_append] at hnext
      exact hnext

/-- The nodes that `makeNodes` makes from those of an accepted document. -/
theorem makeNodes_filled {document : Document.Scenario} {count : ℕ} (hcount : count ≤ 10)
    (hvalid : ∀ node ∈ document.nodes, node.Valid) (hcomplete : document.Complete) :
    (∃ suffix apiPort, Filling (document.nodes.take count) (makeNodes count document.nodes)
      suffix apiPort) ∧ (makeNodes count document.nodes).length = count := by
  obtain ⟨_, hids, hports, _⟩ := Document.Scenario.complete_iff.mp hcomplete
  have htaken : (document.nodes.take count).Sublist document.nodes := List.take_sublist _ _
  have hstart : Filling (document.nodes.take count) (document.nodes.take count) 1 45001 :=
    { keeps := List.prefix_rfl
      valid := fun node hnode => hvalid node (htaken.subset hnode)
      distinctIds := hids.sublist (htaken.map _)
      distinctPorts := hports.sublist (htaken.map _)
      suffixes := fun n hfirst hlast => absurd hlast (by omega)
      apiPorts := fun n hfirst hlast => absurd hlast (by omega)
      firstPort := le_rfl }
  exact hstart.fillNodes hcount (List.length_take_le _ _)

/-! ## The links -/

theorem nul_not_mem_of_isNodeId {id : String} (h : isNodeId id = true) :
    '\x00' ∉ id.toList := by
  have hchar : isNodeIdChar '\x00' = false := by decide
  unfold isNodeId at h
  cases hid : id.toList with
  | nil => exact List.not_mem_nil
  | cons first rest =>
      rw [hid] at h
      simp only [Bool.and_eq_true, List.all_eq_true] at h
      rintro (_ | ⟨_, hrest⟩)
      · exact absurd (hchar.symm.trans h.1.1.1) Bool.false_ne_true
      · exact absurd (hchar.symm.trans (h.1.2 _ hrest)) Bool.false_ne_true

/-- The key of a pair of ids names no other pair. -/
theorem linkKey_inj {source target source' target' : String} (hsource : '\x00' ∉ source.toList)
    (htarget : '\x00' ∉ target.toList) (h : linkKey source target = linkKey source' target') :
    source = source' ∧ target = target' := by
  have hlists := congrArg String.toList h
  simp only [linkKey, String.toList_append, toString] at hlists
  have hsplit : source.toList ++ '\x00' :: target.toList =
      source'.toList ++ '\x00' :: target'.toList := by simpa using hlists
  obtain ⟨hfirst, _, hsecond⟩ :=
    (List.append_cons_inj_of_notMem hsource htarget).mp hsplit
  exact ⟨String.toList_inj.mp hfirst, String.toList_inj.mp hsecond⟩

/-- Links between nodes of an accepted document, no two for one pair. -/
structure Keyed (previous : List DirectedLink) : Prop where
  distinct : (previous.map (·.key)).Nodup
  named : ∀ link ∈ previous, isNodeId link.fromNode = true ∧ isNodeId link.toNode = true

/-- The string keys find the link of a pair. -/
theorem Keyed.get?_existing {previous : List DirectedLink} (h : Keyed previous)
    {source target : String} (hsource : isNodeId source = true) (htarget : isNodeId target = true)
    {link : DirectedLink} :
    (existing previous).get? (linkKey source target) = some link ↔
      link ∈ previous ∧ link.key = (source, target) := by
  have hkeys : ∀ a ∈ previous, ∀ b : DirectedLink,
      linkKey a.fromNode a.toNode = linkKey b.fromNode b.toNode → a.key = b.key := by
    intro a ha b hsame
    obtain ⟨hfrom, hto⟩ := h.named a ha
    obtain ⟨hfirst, hsecond⟩ := linkKey_inj (nul_not_mem_of_isNodeId hfrom)
      (nul_not_mem_of_isNodeId hto) hsame
    exact Prod.ext hfirst hsecond
  have hdistinct : ((previous.map fun link =>
      (linkKey link.fromNode link.toNode, link)).map Prod.fst).Nodup := by
    rw [List.map_map]
    refine List.Nodup.map_on (fun a ha b hb hsame => ?_) h.distinct.of_map
    exact List.inj_on_of_nodup_map h.distinct ha hb (hkeys a ha b hsame)
  unfold existing
  rw [Dict.get?_eq_some, Dict.items_update (by exact hdistinct)]
  constructor
  · intro hmember
    obtain ⟨found, hfound, heq⟩ := List.mem_map.mp hmember
    obtain ⟨hkey, rfl⟩ := Prod.mk.inj heq
    exact ⟨hfound, hkeys found hfound
      { fromNode := source, toNode := target } hkey⟩
  · rintro ⟨hmember, hkey⟩
    obtain ⟨rfl, rfl⟩ := Prod.mk.inj hkey
    exact List.mem_map.mpr ⟨link, hmember, rfl⟩

/-- The link of a pair in `resizeLinks`. -/
def resizedLink (previous : List DirectedLink) (pair : String × String) : DirectedLink :=
  ((existing previous).get? (linkKey pair.1 pair.2)).getD
    { fromNode := pair.1
      toNode := pair.2
      enabled := true
      rssiDbm := -85
      snrDb := 8 }

/-- The loops of `resizeLinks` make one link for each ordered pair, in order. -/
theorem resizeLinks_eq (nodeIds : List String) (previous : List DirectedLink) :
    resizeLinks nodeIds previous =
      (Models.Scenario.orderedPairs nodeIds).map (resizedLink previous) := by
  unfold resizeLinks Models.Scenario.orderedPairs
  rw [List.map_flatMap]
  refine List.flatMap_congr fun source _ => ?_
  rw [List.map_map]
  simp only [ne_comm (a := source)]
  rfl

theorem Keyed.key_resizedLink {previous : List DirectedLink} (h : Keyed previous)
    {pair : String × String} (hsource : isNodeId pair.1 = true)
    (htarget : isNodeId pair.2 = true) : (resizedLink previous pair).key = pair := by
  unfold resizedLink
  cases hget : (existing previous).get? (linkKey pair.1 pair.2) with
  | none => rfl
  | some link => exact ((h.get?_existing hsource htarget).mp hget).2

theorem Keyed.resizeLinks_keys {previous : List DirectedLink} (h : Keyed previous)
    {nodeIds : List String} (hids : ∀ id ∈ nodeIds, isNodeId id = true) :
    (resizeLinks nodeIds previous).map (·.key) = Models.Scenario.orderedPairs nodeIds := by
  rw [resizeLinks_eq, List.map_map]
  refine (List.map_congr_left fun pair hpair => ?_).trans (List.map_id _)
  obtain ⟨hsource, htarget, _⟩ := Models.Scenario.mem_orderedPairs.mp hpair
  exact h.key_resizedLink (hids _ hsource) (hids _ htarget)

/-- A link whose pair had one before is that one. -/
theorem Keyed.mem_resizeLinks {previous : List DirectedLink} (h : Keyed previous)
    {nodeIds : List String} (hids : ∀ id ∈ nodeIds, isNodeId id = true) {link : DirectedLink}
    (hpair : link.key ∈ Models.Scenario.orderedPairs nodeIds)
    (hbefore : link.key ∈ previous.map (·.key)) :
    link ∈ resizeLinks nodeIds previous ↔ link ∈ previous := by
  obtain ⟨earlier, hearlier, hkey⟩ := List.mem_map.mp hbefore
  obtain ⟨hsource, htarget, _⟩ := Models.Scenario.mem_orderedPairs.mp hpair
  have hresized : resizedLink previous link.key = earlier := by
    unfold resizedLink
    rw [(h.get?_existing (hids _ hsource) (hids _ htarget)).mpr ⟨hearlier, hkey⟩]
    rfl
  rw [resizeLinks_eq, List.mem_map]
  constructor
  · rintro ⟨pair, hmember, rfl⟩
    obtain ⟨hfrom, hto, _⟩ := Models.Scenario.mem_orderedPairs.mp hmember
    rw [h.key_resizedLink (hids _ hfrom) (hids _ hto)] at hresized
    rw [hresized]
    exact hearlier
  · intro hlink
    have hsame : earlier = link := List.inj_on_of_nodup_map h.distinct hearlier hlink hkey
    exact ⟨link.key, hpair, hresized.trans hsame⟩

theorem Keyed.valid_resizeLinks {previous : List DirectedLink} (h : Keyed previous)
    (hvalid : ∀ link ∈ previous, LinkValid link) {nodeIds : List String}
    (hids : ∀ id ∈ nodeIds, isNodeId id = true) :
    ∀ link ∈ resizeLinks nodeIds previous, LinkValid link := by
  intro link hlink
  rw [resizeLinks_eq] at hlink
  obtain ⟨pair, hpair, rfl⟩ := List.mem_map.mp hlink
  obtain ⟨hsource, htarget, _⟩ := Models.Scenario.mem_orderedPairs.mp hpair
  unfold resizedLink
  cases hget : (existing previous).get? (linkKey pair.1 pair.2) with
  | none =>
      have hsnr : (-30 : ℚ) ≤ 8 ∧ (8 : ℚ) ≤ 30 := by decide
      simpa [LinkValid] using hsnr
  | some found =>
      exact hvalid found ((h.get?_existing (hids _ hsource) (hids _ htarget)).mp hget).1

/-- The links of an accepted document can be found by their string keys. -/
theorem keyed_of_complete {document : Document.Scenario}
    (hvalid : ∀ node ∈ document.nodes, node.Valid) (hcomplete : document.Complete) :
    Keyed document.links := by
  obtain ⟨_, hids, _, hpaired⟩ := Document.Scenario.complete_iff.mp hcomplete
  have hnamed : ∀ id ∈ document.nodeIds, isNodeId id = true := by
    intro id hid
    obtain ⟨node, hnode, rfl⟩ := List.mem_map.mp hid
    exact (hvalid node hnode).1.1
  refine ⟨hpaired.nodup_iff.mpr (Scenario.nodup_orderedPairs hids), fun link hlink => ?_⟩
  obtain ⟨hsource, htarget, _⟩ := Models.Scenario.mem_orderedPairs.mp
    (hpaired.mem_iff.mp (List.mem_map_of_mem hlink))
  exact ⟨hnamed _ hsource, hnamed _ htarget⟩

/-! ## The draft -/

/-- A changed node count makes, of a document that the backend accepts, one that it accepts
too.  The nodes that stay are the first of the old ones, as they were and in their order, and
the links between them are the old ones. -/
theorem updateScenarioCount_accepted {knownRegion : String → Bool} {editor : ScenarioEditor}
    {scenario : Document.Scenario} (hdraft : editor.draft = some scenario)
    (haccepted : scenario.Accepted knownRegion) (traffic : TrafficDraft) {count : ℤ}
    (hmin : 2 ≤ count) (hmax : count ≤ 10) :
    ∃ resized, (updateScenarioCount editor traffic count).1.draft = some resized ∧
      resized.Accepted knownRegion ∧ resized.nodeCount = count ∧
      resized.nodes.take (min count.toNat scenario.nodeCount) =
        scenario.nodes.take (min count.toNat scenario.nodeCount) ∧
      ∀ link : DirectedLink,
        link.fromNode ∈ (scenario.nodes.take count.toNat).map (·.id) →
        link.toNode ∈ (scenario.nodes.take count.toNat).map (·.id) →
        (link ∈ resized.links ↔ link ∈ scenario.links) := by
  obtain ⟨hpreset, hfields, hcomplete⟩ := Document.Scenario.accepted_iff.mp haccepted
  obtain ⟨hversion, hname, hcount, hrf, hchannel, hnodes, hlinks⟩ := hfields
  obtain ⟨hcounted, hids, hports, hpaired⟩ := Document.Scenario.complete_iff.mp hcomplete
  have hkeyed := keyed_of_complete hnodes hcomplete
  unfold updateScenarioCount
  rw [hdraft]
  dsimp only
  rw [if_neg (by omega)]
  obtain ⟨size, rfl⟩ := Int.eq_ofNat_of_zero_le (by omega : 0 ≤ count)
  rw [Int.toNat_natCast]
  obtain ⟨⟨_, _, hfilled⟩, hlength⟩ := makeNodes_filled (by omega : size ≤ 10) hnodes hcomplete
  have hnamed : ∀ id ∈ (makeNodes size scenario.nodes).map (·.id), isNodeId id = true := by
    intro id hid
    obtain ⟨node, hnode, rfl⟩ := List.mem_map.mp hid
    exact (hfilled.valid node hnode).1.1
  have hkeys := hkeyed.resizeLinks_keys hnamed
  refine ⟨_, rfl, ?_, rfl, ?_, fun link hsource htarget => ?_⟩
  · refine Document.Scenario.accepted_iff.mpr ⟨hpreset, ⟨hversion, ?_, ?_, hrf, hchannel,
      hfilled.valid, hkeyed.valid_resizeLinks hlinks hnamed⟩, ?_⟩
    · have hnames : ∀ size ≤ 10, 1 ≤ (s!"{(size : ℕ)}-node-custom").length ∧
          (s!"{(size : ℕ)}-node-custom").length ≤ 80 := by decide +kernel
      exact hnames size (by omega)
    · exact ⟨by dsimp only; omega, by dsimp only; omega⟩
    · refine Document.Scenario.complete_iff.mpr ⟨hlength.symm, hfilled.distinctIds,
        hfilled.distinctPorts, ?_⟩
      exact (List.Perm.of_eq hkeys)
  · have hkept : (scenario.nodes.take size).length = min size scenario.nodeCount := by
      rw [List.length_take, hcounted]
    have hnext := List.prefix_iff_eq_take.mp hfilled.keeps
    have hold : scenario.nodes.take size = scenario.nodes.take (min size scenario.nodeCount) := by
      rw [hcounted]
      exact List.take_eq_take_min
    rw [hkept] at hnext
    exact hnext.symm.trans hold
  · have hstay : (scenario.nodes.take size).map (·.id) ⊆
        (makeNodes size scenario.nodes).map (·.id) := (hfilled.keeps.map _).subset
    have hwere : (scenario.nodes.take size).map (·.id) ⊆ scenario.nodeIds :=
      ((List.take_sublist size scenario.nodes).map _).subset
    by_cases hself : link.fromNode = link.toNode
    · refine iff_of_false (fun hlink => ?_) (fun hlink => ?_)
      · have := hkeys ▸ List.mem_map_of_mem (f := DirectedLink.key) hlink
        exact (Models.Scenario.mem_orderedPairs.mp this).2.2 hself
      · have := hpaired.mem_iff.mp (List.mem_map_of_mem (f := DirectedLink.key) hlink)
        exact (Models.Scenario.mem_orderedPairs.mp this).2.2 hself
    · refine hkeyed.mem_resizeLinks hnamed ?_ ?_
      · exact Models.Scenario.mem_orderedPairs.mpr ⟨hstay hsource, hstay htarget, hself⟩
      · exact hpaired.mem_iff.mpr
          (Models.Scenario.mem_orderedPairs.mpr ⟨hwere hsource, hwere htarget, hself⟩)

/-- Three nodes under names and ports of the user's choice. -/
def renamed : Document.Scenario where
  name := "renamed"
  nodeCount := 3
  nodes :=
    [{ id := "node-2", displayName := "Hill", role := .router, apiPort := 45001 },
      { id := "base", displayName := "Base", apiPort := 45010 },
      { id := "node-1", displayName := "Car", apiPort := 45002 }]
  links :=
    [{ fromNode := "base", toNode := "node-1", enabled := false },
      { fromNode := "node-1", toNode := "base" },
      { fromNode := "base", toNode := "node-2", rssiDbm := -120 },
      { fromNode := "node-2", toNode := "base" },
      { fromNode := "node-1", toNode := "node-2" },
      { fromNode := "node-2", toNode := "node-1", snrDb := 1 / 2 }]

theorem renamed_grown :
    ∃ resized, (updateScenarioCount ⟨some renamed, none⟩ ⟨["base"], none⟩ 10).1.draft =
        some resized ∧ resized.Accepted (fun region => region = "US") ∧
      resized.nodeCount = (10 : ℤ) ∧ resized.nodes.take 3 = renamed.nodes ∧
      ∀ link : DirectedLink, link.fromNode ∈ renamed.nodeIds → link.toNode ∈ renamed.nodeIds →
        (link ∈ resized.links ↔ link ∈ renamed.links) := by
  have hdraft : (⟨some renamed, none⟩ : ScenarioEditor).draft = some renamed := rfl
  have haccepted : renamed.Accepted (fun region => region = "US") := by decide +kernel
  have hmin : (2 : ℤ) ≤ 10 := by decide
  have hmax : (10 : ℤ) ≤ 10 := by decide
  exact updateScenarioCount_accepted hdraft haccepted ⟨["base"], none⟩ hmin hmax

/-- The traffic draft names only nodes of the new draft, and no source as destination. -/
theorem restrict_named (current : TrafficDraft) (nextIds : List String) :
    (∀ source ∈ (current.restrict nextIds).sourceNodes, source ∈ nextIds) ∧
      ∀ id, (current.restrict nextIds).fixedDestination = some id →
        id ∈ nextIds ∧ id ∉ (current.restrict nextIds).sourceNodes := by
  refine ⟨fun source hsource => ?_, fun id hid => ?_⟩
  · exact of_decide_eq_true (List.mem_filter.mp hsource).2
  · rcases Option.or_eq_some_iff.mp hid with hkept | ⟨_, hfirst⟩
    · have hfound := List.find?_some hkept
      exact ⟨List.mem_of_find?_eq_some hkept, (of_decide_eq_true hfound).2⟩
    · have hfound := List.find?_some hfirst
      exact ⟨List.mem_of_find?_eq_some hfirst, of_decide_eq_true hfound⟩

end MeshtasticLab.Frontend

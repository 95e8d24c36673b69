/-
  Models/Documents.lean --- the JSON scenario and what the backend accepts of it.

  Embeds the field constraints of `backend/app/models/scenario.py`, over the document
  that the interface edits (`frontend/src/types.ts`).  Which region codes exist is
  decided by the Meshtastic protobufs: `knownRegion` stands for `RegionCode.Value`.
-/
import MeshtasticLab.Models.Topology

set_option autoImplicit false

namespace MeshtasticLab.Models

/-! ## Base64 -/

/-- The value of a character of the base64 alphabet. -/
def base64Digit? (c : Char) : Option Nat :=
  if 'A' ≤ c ∧ c ≤ 'Z' then some (c.toNat - 'A'.toNat)
  else if 'a' ≤ c ∧ c ≤ 'z' then some (c.toNat - 'a'.toNat + 26)
  else if '0' ≤ c ∧ c ≤ '9' then some (c.toNat - '0'.toNat + 52)
  else if c = '+' then some 62
  else if c = '/' then some 63
  else none

/-- `base64.b64decode` with `validate=True`, as bytes. -/
def b64decodeChars : List Char → Option (List Nat)
  | [] => some []
  | [a, b, '=', '='] =>
      match base64Digit? a, base64Digit? b with
      | some a, some b => some [a * 4 + b / 16]
      | _, _ => none
  | [a, b, c, '='] =>
      match base64Digit? a, base64Digit? b, base64Digit? c with
      | some a, some b, some c => some [a * 4 + b / 16, b % 16 * 16 + c / 4]
      | _, _, _ => none
  | a :: b :: c :: d :: rest =>
      match base64Digit? a, base64Digit? b, base64Digit? c, base64Digit? d,
        b64decodeChars rest with
      | some a, some b, some c, some d, some rest =>
          some ([a * 4 + b / 16, b % 16 * 16 + c / 4, c % 4 * 64 + d] ++ rest)
      | _, _, _, _, _ => none
  | _ => none

/-! ## Documents -/

namespace Document

/-- `NodeRole`. -/
inductive NodeRole where
  | client
  | clientMute
  | router
  | repeater
  deriving DecidableEq, Repr

/-- `CollisionMode`. -/
inductive CollisionMode where
  | native
  deriving DecidableEq, Repr

/-- `RFSettings`, with the preset as its name. -/
structure RFSettings where
  region : String := "US"
  modemPreset : String := "LONG_FAST"
  frequencySlot : Int := 20
  hopLimit : Int := 4
  collisionMode : CollisionMode := .native
  deriving DecidableEq, Repr

/-- `ScenarioChannel`. -/
structure ScenarioChannel where
  name : String := "Simulator"
  psk : String := "AQ=="
  deriving DecidableEq, Repr

/-- `ScenarioNode`, with the fields that only an interface shows. -/
structure ScenarioNode extends Models.ScenarioNode where
  displayName : String
  role : NodeRole := .client
  deriving DecidableEq, Repr

/-- `Scenario`. -/
structure Scenario where
  schemaVersion : Nat := 1
  name : String
  seed : Int := 1
  nodeCount : Nat
  rf : RFSettings := {}
  channel : ScenarioChannel := {}
  nodes : List ScenarioNode
  links : List DirectedLink
  freshState : Bool := true
  deriving DecidableEq, Repr

/-! ## The constraints of the fields -/

/-- `SUPPORTED_MODEM_PRESETS`, by name. -/
def modemPreset? (name : String) : Option ModemPreset :=
  [("LONG_FAST", .longFast), ("LONG_SLOW", .longSlow), ("MEDIUM_SLOW", .mediumSlow),
    ("MEDIUM_FAST", .mediumFast), ("SHORT_SLOW", .shortSlow), ("SHORT_FAST", .shortFast),
    ("LONG_MODERATE", .longModerate), ("SHORT_TURBO", .shortTurbo),
    ("LONG_TURBO", .longTurbo)].lookup name

/-- The fields of `RFSettings`, `modem_preset` apart. -/
def RFSettings.Valid (knownRegion : String → Bool) (rf : RFSettings) : Prop :=
  (rf.region ≠ "UNSET" ∧ knownRegion rf.region = true) ∧
    (0 ≤ rf.frequencySlot ∧ rf.frequencySlot ≤ 255) ∧ 1 ≤ rf.hopLimit ∧ rf.hopLimit ≤ 7

/-- The fields of `ScenarioChannel`. -/
def ScenarioChannel.Valid (channel : ScenarioChannel) : Prop :=
  (1 ≤ channel.name.length ∧ channel.name.length ≤ 12) ∧
    ∃ length ∈ [1, 16, 32], (b64decodeChars channel.psk.toList).map List.length = some length

/-- The fields of `ScenarioNode`. -/
def ScenarioNode.Valid (node : ScenarioNode) : Prop :=
  node.WellFormed ∧ 1 ≤ node.displayName.length ∧ node.displayName.length ≤ 40

/-- The fields of `DirectedLink`. -/
def LinkValid (link : DirectedLink) : Prop :=
  (-200 ≤ link.rssiDbm ∧ link.rssiDbm ≤ 0) ∧ -30 ≤ link.snrDb ∧ link.snrDb ≤ 30

instance (knownRegion : String → Bool) (rf : RFSettings) : Decidable (rf.Valid knownRegion) :=
  inferInstanceAs (Decidable (_ ∧ _))

instance (channel : ScenarioChannel) : Decidable channel.Valid :=
  inferInstanceAs (Decidable (_ ∧ _))

instance (node : ScenarioNode) : Decidable node.Valid := inferInstanceAs (Decidable (_ ∧ _))

instance (link : DirectedLink) : Decidable (LinkValid link) :=
  inferInstanceAs (Decidable (_ ∧ _))

/-- The fields of `Scenario` and of all that it holds. -/
def Scenario.FieldsValid (knownRegion : String → Bool) (document : Scenario) : Prop :=
  document.schemaVersion = 1 ∧
    (1 ≤ document.name.length ∧ document.name.length ≤ 80) ∧
    (2 ≤ document.nodeCount ∧ document.nodeCount ≤ 10) ∧
    document.rf.Valid knownRegion ∧ document.channel.Valid ∧
    (∀ node ∈ document.nodes, node.Valid) ∧ ∀ link ∈ document.links, LinkValid link

instance (knownRegion : String → Bool) (document : Scenario) :
    Decidable (document.FieldsValid knownRegion) :=
  inferInstanceAs (Decidable (_ ∧ _))

/-! ## Validation -/

/-- The scenario of a document, for a modem preset. -/
def Scenario.toScenario (document : Scenario) (preset : ModemPreset) : Models.Scenario where
  name := document.name
  seed := document.seed
  nodeCount := document.nodeCount
  rf :=
    { region := document.rf.region
      modemPreset := preset
      frequencySlot := document.rf.frequencySlot.toNat
      hopLimit := document.rf.hopLimit.toNat }
  nodes := document.nodes.map (·.toScenarioNode)
  links := document.links
  freshState := document.freshState

/-- `Scenario.model_validate`, with no account of what a rejection reports. -/
def Scenario.modelValidate (knownRegion : String → Bool) (document : Scenario) :
    Option Models.Scenario :=
  match modemPreset? document.rf.modemPreset with
  | none => none
  | some preset =>
      if document.FieldsValid knownRegion ∧ (document.toScenario preset).validateGraph = .ok ()
      then some (document.toScenario preset)
      else none

/-- The backend accepts a document. -/
def Scenario.Accepted (knownRegion : String → Bool) (document : Scenario) : Prop :=
  (document.modelValidate knownRegion).isSome = true

instance (knownRegion : String → Bool) (document : Scenario) :
    Decidable (document.Accepted knownRegion) := inferInstanceAs (Decidable (_ = true))

/-- The ids of the nodes of a document, in its order. -/
def Scenario.nodeIds (document : Scenario) : List String := document.nodes.map (·.id)

/-- The nodes and links of a document make a complete graph, whatever its preset. -/
def Scenario.Complete (document : Scenario) : Prop :=
  (document.toScenario .longFast).CompleteGraph

theorem Scenario.Complete.toScenario {document : Scenario} (h : document.Complete)
    (preset : ModemPreset) : (document.toScenario preset).CompleteGraph where
  counted := h.counted
  distinctIds := h.distinctIds
  distinctPorts := h.distinctPorts
  paired := h.paired

/-- What a complete document is, in its own fields. -/
theorem Scenario.complete_iff {document : Scenario} :
    document.Complete ↔ document.nodeCount = document.nodes.length ∧ document.nodeIds.Nodup ∧
      (document.nodes.map (·.apiPort)).Nodup ∧
      (document.links.map (·.key)).Perm (Models.Scenario.orderedPairs document.nodeIds) := by
  have hids : (document.toScenario .longFast).nodeIds = document.nodeIds := List.map_map
  have hports : (document.toScenario .longFast).nodes.map (·.apiPort) =
      document.nodes.map (·.apiPort) := List.map_map
  have hlength : (document.toScenario .longFast).nodes.length = document.nodes.length :=
    List.length_map _
  constructor
  · intro h
    exact ⟨h.counted.trans hlength, hids ▸ h.distinctIds, hports ▸ h.distinctPorts,
      hids ▸ h.paired⟩
  · rintro ⟨hcount, hdistinct, hdistinctPorts, hpaired⟩
    exact ⟨hcount.trans hlength.symm, hids ▸ hdistinct, hports ▸ hdistinctPorts,
      hids ▸ hpaired⟩

theorem Scenario.accepted_iff {knownRegion : String → Bool} {document : Scenario} :
    document.Accepted knownRegion ↔
      (∃ preset, modemPreset? document.rf.modemPreset = some preset) ∧
        document.FieldsValid knownRegion ∧ document.Complete := by
  unfold Accepted modelValidate
  cases hpreset : modemPreset? document.rf.modemPreset with
  | none => simp
  | some preset =>
      have hgraph : (document.toScenario preset).validateGraph = .ok () ↔ document.Complete := by
        refine Scenario.validateGraph_ok_iff.trans ⟨fun h => ?_, fun h => h.toScenario preset⟩
        exact ⟨h.counted, h.distinctIds, h.distinctPorts, h.paired⟩
      by_cases hvalid : document.FieldsValid knownRegion ∧
          (document.toScenario preset).validateGraph = .ok ()
      · rw [← hgraph]
        simp [hvalid]
      · rw [← hgraph]
        simp [hvalid]

/-- What the backend accepts makes an accepted scenario. -/
theorem Scenario.modelValidate_accepted {knownRegion : String → Bool} {document : Scenario}
    {scenario : Models.Scenario} (h : document.modelValidate knownRegion = some scenario) :
    ∃ accepted : AcceptedScenario, accepted.val = scenario := by
  unfold modelValidate at h
  split at h
  · cases h
  · split at h
    · next hvalid =>
        cases h
        obtain ⟨⟨_, _, hcount, _, _, hnodes, _⟩, hgraph⟩ := hvalid
        refine ⟨⟨_, fun node hnode => ?_, hcount.1, hcount.2, hgraph⟩, rfl⟩
        obtain ⟨shown, hshown, rfl⟩ := List.mem_map.mp hnode
        exact (hnodes shown hshown).1
    · cases h

end Document

end MeshtasticLab.Models

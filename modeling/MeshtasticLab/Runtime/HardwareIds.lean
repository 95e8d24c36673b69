/-
  Runtime/HardwareIds.lean --- the hardware ids of the native processes.

  Embeds `NativeProcessSupervisor._hardware_ids_for` of
  `backend/app/runtime/processes.py`.  Every node, in the order of its id, takes
  the first hash of its id and a salt that is neither reserved nor taken.  The
  search for the salt has no bound in the source, so it has fuel here; a result is
  the same at every fuel that is enough.
-/
import MeshtasticLab.Foundation.Dict
import MeshtasticLab.Gateway.Framing
import Mathlib.Data.List.Sort
import Mathlib.Data.String.Basic

set_option autoImplicit false

namespace MeshtasticLab.Runtime

open MeshtasticLab.Foundation MeshtasticLab.Gateway

/-- The hardware id that a node and a salt hash to: `hashlib.sha256` is `sha256`. -/
def hardwareIdOf (sha256 : Bytes → Bytes) (nodeId : String) (salt : Nat) : Nat :=
  fromBytesBig ((sha256 s!"meshtastic-lab:{nodeId}:{salt}".toUTF8.data.toList).take 4)

/-- An id that a node may take. -/
def Free (used : List Nat) (hardwareId : Nat) : Prop :=
  hardwareId ≠ 0 ∧ hardwareId ≠ 0xFFFFFFFF ∧ hardwareId ∉ used

instance (used : List Nat) (hardwareId : Nat) : Decidable (Free used hardwareId) :=
  inferInstanceAs (Decidable (_ ∧ _ ∧ _))

/-- The `while` loop over the salts. -/
def searchSalt (hash : Nat → Nat) (used : List Nat) : Nat → Nat → Option Nat
  | 0, _ => none
  | fuel + 1, salt =>
      if Free used (hash salt) then some (hash salt)
      else searchSalt hash used fuel (salt + 1)

/-- The `for` loop over the ordered ids, given the dictionary and the ids in use. -/
def assignIds (sha256 : Bytes → Bytes) (fuel : Nat) :
    List String → Dict String Nat → List Nat → Option (Dict String Nat)
  | [], hardwareIds, _ => some hardwareIds
  | nodeId :: rest, hardwareIds, used =>
      match searchSalt (hardwareIdOf sha256 nodeId) used fuel 0 with
      | none => none
      | some hardwareId =>
          assignIds sha256 fuel rest (hardwareIds.set nodeId hardwareId) (hardwareId :: used)

/-- `_hardware_ids_for`. -/
def hardwareIdsFor (sha256 : Bytes → Bytes) (fuel : Nat) (nodeIds : List String) :
    Option (Dict String Nat) :=
  assignIds sha256 fuel (nodeIds.insertionSort (· ≤ ·)) ∅ []

/-- The salt search ends for some ids: some fuel is enough for all of them. -/
def Terminates (sha256 : Bytes → Bytes) (nodeIds : List String) : Prop :=
  ∃ fuel, (hardwareIdsFor sha256 fuel nodeIds).isSome = true

/-! ## The salt search -/

theorem searchSalt_free {hash : Nat → Nat} {used : List Nat} {fuel salt hardwareId : Nat}
    (h : searchSalt hash used fuel salt = some hardwareId) : Free used hardwareId := by
  induction fuel generalizing salt with
  | zero => cases h
  | succ fuel ih =>
      unfold searchSalt at h
      split at h
      · next hfree =>
          cases h
          exact hfree
      · exact ih h

/-- More fuel finds the same id. -/
theorem searchSalt_mono {hash : Nat → Nat} {used : List Nat} {fuel more salt hardwareId : Nat}
    (h : searchSalt hash used fuel salt = some hardwareId) (hle : fuel ≤ more) :
    searchSalt hash used more salt = some hardwareId := by
  induction fuel generalizing salt more with
  | zero => cases h
  | succ fuel ih =>
      obtain ⟨more, rfl⟩ : ∃ k, more = k + 1 := ⟨more - 1, by omega⟩
      unfold searchSalt at h ⊢
      split at h
      · next hfree =>
          rw [if_pos hfree]
          exact h
      · next htaken =>
          rw [if_neg htaken]
          exact ih h (by omega)

theorem assignIds_mono {sha256 : Bytes → Bytes} {fuel more : Nat} {nodeIds : List String}
    {hardwareIds result : Dict String Nat} {used : List Nat}
    (h : assignIds sha256 fuel nodeIds hardwareIds used = some result) (hle : fuel ≤ more) :
    assignIds sha256 more nodeIds hardwareIds used = some result := by
  induction nodeIds generalizing hardwareIds used with
  | nil => exact h
  | cons nodeId rest ih =>
      unfold assignIds at h ⊢
      split at h
      · cases h
      · next hardwareId hsearch =>
          rw [searchSalt_mono hsearch hle]
          exact ih h

/-! ## The assignment -/

/-- What the loop has assigned: an id that may be used to every node done, no id twice,
and all of them in use. -/
structure Assigned (done : List String) (hardwareIds : Dict String Nat) (used : List Nat) :
    Prop where
  nodes : ∀ nodeId, hardwareIds.contains nodeId = true ↔ nodeId ∈ done
  valid : ∀ nodeId hardwareId, hardwareIds.get? nodeId = some hardwareId →
    hardwareId ≠ 0 ∧ hardwareId ≠ 0xFFFFFFFF
  taken : ∀ nodeId hardwareId, hardwareIds.get? nodeId = some hardwareId → hardwareId ∈ used
  distinct : ∀ nodeId other hardwareId, hardwareIds.get? nodeId = some hardwareId →
    hardwareIds.get? other = some hardwareId → nodeId = other

theorem Assigned.empty : Assigned [] ∅ [] where
  nodes nodeId := by simp [Dict.contains]
  valid nodeId hardwareId h := by cases h
  taken nodeId hardwareId h := by cases h
  distinct nodeId other hardwareId h := by cases h

/-- One more node takes a free id. -/
theorem Assigned.set {done : List String} {hardwareIds : Dict String Nat} {used : List Nat}
    (h : Assigned done hardwareIds used) {hardwareId : Nat} (hfree : Free used hardwareId)
    (nodeId : String) :
    Assigned (done ++ [nodeId]) (hardwareIds.set nodeId hardwareId) (hardwareId :: used) where
  nodes node := by
    rw [Dict.contains_set, h.nodes, List.mem_append, List.mem_singleton, or_comm]
  valid node found hfound := by
    rw [Dict.get?_set] at hfound
    split at hfound
    · cases hfound
      exact ⟨hfree.1, hfree.2.1⟩
    · exact h.valid node found hfound
  taken node found hfound := by
    rw [Dict.get?_set] at hfound
    split at hfound
    · cases hfound
      exact .head _
    · exact .tail _ (h.taken node found hfound)
  distinct node other found hfound hother := by
    rw [Dict.get?_set] at hfound hother
    split at hfound
    · next hnode =>
        cases hfound
        split at hother
        · next hsame => rw [hnode, hsame]
        · exact absurd (h.taken other _ hother) hfree.2.2
    · split at hother
      · cases hother
        exact absurd (h.taken node _ hfound) hfree.2.2
      · exact h.distinct node other found hfound hother

theorem assigned_assignIds {sha256 : Bytes → Bytes} {fuel : Nat} {done nodeIds : List String}
    {hardwareIds result : Dict String Nat} {used : List Nat}
    (h : Assigned done hardwareIds used)
    (hresult : assignIds sha256 fuel nodeIds hardwareIds used = some result) :
    ∃ used, Assigned (done ++ nodeIds) result used := by
  induction nodeIds generalizing done hardwareIds used with
  | nil =>
      cases hresult
      exact ⟨used, by rwa [List.append_nil]⟩
  | cons nodeId rest ih =>
      unfold assignIds at hresult
      split at hresult
      · cases hresult
      · next hardwareId hsearch =>
          obtain ⟨used, hassigned⟩ := ih (h.set (searchSalt_free hsearch) nodeId) hresult
          exact ⟨used, by rwa [List.append_assoc] at hassigned⟩

/-! ## The order of the ids -/

/-- Sorting forgets the order in which the ids came. -/
theorem sorted_perm {nodeIds others : List String} (hperm : nodeIds.Perm others) :
    nodeIds.insertionSort (· ≤ ·) = others.insertionSort (· ≤ ·) := by
  refine List.Perm.eq_of_pairwise (fun a b _ _ hab hba => le_antisymm hab hba)
    (List.pairwise_insertionSort (· ≤ ·) nodeIds) (List.pairwise_insertionSort (· ≤ ·) others) ?_
  exact (List.perm_insertionSort (· ≤ ·) nodeIds).trans
    (hperm.trans (List.perm_insertionSort (· ≤ ·) others).symm)

/-- With a hash for which the salt search ends, every node gets an id that is not
reserved, no two nodes the same, and every order of the ids and every amount of fuel that
is enough give this one mapping. -/
theorem hardwareIdsFor_unique (sha256 : Bytes → Bytes) (nodeIds : List String)
    (hterminates : Terminates sha256 nodeIds) :
    ∃ hardwareIds : Dict String Nat,
      (∀ nodeId ∈ nodeIds, ∃ hardwareId, hardwareIds.get? nodeId = some hardwareId ∧
        hardwareId ≠ 0 ∧ hardwareId ≠ 0xFFFFFFFF) ∧
      (∀ nodeId other hardwareId, hardwareIds.get? nodeId = some hardwareId →
        hardwareIds.get? other = some hardwareId → nodeId = other) ∧
      ∀ others, nodeIds.Perm others → Terminates sha256 others ∧
        ∀ fuel result, hardwareIdsFor sha256 fuel others = some result →
          result = hardwareIds := by
  obtain ⟨fuel, hsome⟩ := hterminates
  obtain ⟨hardwareIds, hresult⟩ := Option.isSome_iff_exists.mp hsome
  obtain ⟨used, hassigned⟩ := assigned_assignIds Assigned.empty hresult
  rw [List.nil_append] at hassigned
  refine ⟨hardwareIds, ?_, hassigned.distinct, ?_⟩
  · intro nodeId hmember
    have hsorted := (List.perm_insertionSort (· ≤ ·) nodeIds).mem_iff.mpr hmember
    obtain ⟨hardwareId, hget⟩ :=
      Option.isSome_iff_exists.mp ((hassigned.nodes nodeId).mpr hsorted)
    exact ⟨hardwareId, hget, hassigned.valid nodeId hardwareId hget⟩
  · intro others hperm
    have hsame : ∀ fuel, hardwareIdsFor sha256 fuel others =
        hardwareIdsFor sha256 fuel nodeIds := by
      intro fuel
      unfold hardwareIdsFor
      rw [sorted_perm hperm]
    refine ⟨⟨fuel, by rw [hsame, hresult]; rfl⟩, fun another result hother => ?_⟩
    rw [hsame] at hother
    -- both amounts of fuel give what the larger of them gives
    have hfirst := assignIds_mono hresult (Nat.le_max_left fuel another)
    have hsecond := assignIds_mono hother (Nat.le_max_right fuel another)
    exact Option.some.inj (hsecond.symm.trans hfirst)

/-- A hash that tells the salts apart and the nodes not. -/
def saltOnly (text : Bytes) : Bytes := [0, 0, 0, text.getLast?.getD 0]

/-- Two nodes whose first hashes collide get two ids, the same in both orders. -/
theorem hardwareIds_of_collision :
    ∃ hardwareIds : Dict String Nat,
      (∀ nodeId ∈ ["node-2", "node-1"], ∃ hardwareId,
        hardwareIds.get? nodeId = some hardwareId ∧
          hardwareId ≠ 0 ∧ hardwareId ≠ 0xFFFFFFFF) ∧
      (∀ nodeId other hardwareId, hardwareIds.get? nodeId = some hardwareId →
        hardwareIds.get? other = some hardwareId → nodeId = other) ∧
      ∀ others, ["node-2", "node-1"].Perm others → Terminates saltOnly others ∧
        ∀ fuel result, hardwareIdsFor saltOnly fuel others = some result →
          result = hardwareIds :=
  hardwareIdsFor_unique saltOnly ["node-2", "node-1"] ⟨2, by decide +kernel⟩

end MeshtasticLab.Runtime

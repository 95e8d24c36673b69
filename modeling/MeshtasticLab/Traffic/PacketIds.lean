/-
  Traffic/PacketIds.lean --- allocation and quarantine of packet identifiers.

  Embeds `_allocate_packet_id`, `_retire_packet_ids` and
  `_purge_packet_id_quarantine` from `backend/app/traffic/controller.py`.  The
  pseudo-random draws of an allocation are an argument: the values that
  `randrange` returns, in order.
-/
import MeshtasticLab.Foundation.Dict
import Mathlib.Data.Finset.Basic
import Mathlib.Data.Rat.Defs

set_option autoImplicit false

namespace MeshtasticLab.Traffic

open MeshtasticLab.Foundation

def PACKET_ID_QUARANTINE_SECONDS : ℚ := 5 * 60
def MAX_QUARANTINED_PACKET_IDS_PER_SOURCE : Nat := 600 * 60

/-- What a call of the traffic controller raises. -/
inductive TrafficError where
  | runtimeError (message : String)
  | valueError (message : String)
  | keyError (key : String)
  | decodeError
  | packetIdQuarantineCapacityError (message : String)
  deriving DecidableEq, Repr

/-- `str(exc)`. -/
def TrafficError.text : TrafficError → String
  | .runtimeError message => message
  | .valueError message => message
  | .keyError key => s!"'{key}'"
  | .decodeError => "Error parsing message"
  | .packetIdQuarantineCapacityError message => message

/-- The identifiers reserved by the current run and those in quarantine. -/
structure PacketIds where
  packetIdsBySource : Dict String (Dict Nat ℚ) := ∅
  packetIdQuarantine : Dict String (List (ℚ × Nat)) := ∅
  quarantinedPacketIds : Dict String (Finset Nat) := ∅

namespace PacketIds

/-- The identifiers the current run has reserved for a source. -/
def used (ids : PacketIds) (source : String) : Dict Nat ℚ :=
  (ids.packetIdsBySource.get? source).getD ∅

/-- The quarantine of a source, in the order of its deque. -/
def quarantine (ids : PacketIds) (source : String) : List (ℚ × Nat) :=
  (ids.packetIdQuarantine.get? source).getD []

/-- The quarantined identifiers of a source. -/
def quarantined (ids : PacketIds) (source : String) : Finset Nat :=
  (ids.quarantinedPacketIds.get? source).getD ∅

/-- The loop of `_purge_packet_id_quarantine`. -/
def purgeLoop (now : ℚ) : List (ℚ × Nat) → Finset Nat → List (ℚ × Nat) × Finset Nat
  | [], quarantined => ([], quarantined)
  | (expiry, packetId) :: rest, quarantined =>
      if expiry ≤ now then purgeLoop now rest (quarantined.erase packetId)
      else ((expiry, packetId) :: rest, quarantined)

/-- `_purge_packet_id_quarantine`. -/
def purge (ids : PacketIds) (source : String) (now : ℚ) : PacketIds :=
  let purged := purgeLoop now (ids.quarantine source) (ids.quarantined source)
  { ids with
    packetIdQuarantine := ids.packetIdQuarantine.set source purged.1
    quarantinedPacketIds := ids.quarantinedPacketIds.set source purged.2 }

/-- `_allocate_packet_id` after its purge: the first draw that is neither used nor
quarantined.  Without a result the loop still draws. -/
def allocateFresh (ids : PacketIds) (source : String) (now : ℚ) :
    List Nat → Option (Nat × PacketIds)
  | [] => none
  | packetId :: rest =>
      if ¬(ids.used source).contains packetId ∧ packetId ∉ ids.quarantined source then
        some (packetId,
          { ids with
            packetIdsBySource :=
              ids.packetIdsBySource.set source ((ids.used source).set packetId now) })
      else ids.allocateFresh source now rest

/-- `_allocate_packet_id`. -/
def allocate (ids : PacketIds) (source : String) (now : ℚ) (draws : List Nat) :
    Option (Nat × PacketIds) :=
  (ids.purge source now).allocateFresh source now draws

/-- The identifiers of a source that are still inside their quarantine window, with
the end of the window. -/
def retained (packetIds : Dict Nat ℚ) (now : ℚ) : List (ℚ × Nat) :=
  (packetIds.items.filter fun entry => now < entry.2 + PACKET_ID_QUARANTINE_SECONDS).map
    fun entry => (entry.2 + PACKET_ID_QUARANTINE_SECONDS, entry.1)

/-- The loop of `_retire_packet_ids`; when it raises, the sources before the
failing one stay moved. -/
def retireLoop (now : ℚ) : List (String × Dict Nat ℚ) → PacketIds →
    PacketIds × Except TrafficError Unit
  | [], ids => ({ ids with packetIdsBySource := ∅ }, .ok ())
  | (source, packetIds) :: rest, ids =>
      let purged := ids.purge source now
      let kept := retained packetIds now
      if MAX_QUARANTINED_PACKET_IDS_PER_SOURCE <
          (purged.quarantine source).length + kept.length then
        (purged, .error (.packetIdQuarantineCapacityError
          ("packet ID quarantine capacity is too small for the configured " ++
            "late-acknowledgment window")))
      else
        retireLoop now rest
          { purged with
            packetIdQuarantine :=
              purged.packetIdQuarantine.set source (purged.quarantine source ++ kept)
            quarantinedPacketIds :=
              purged.quarantinedPacketIds.set source
                (purged.quarantined source ∪ (kept.map Prod.snd).toFinset) }

/-- `_retire_packet_ids`. -/
def retire (ids : PacketIds) (now : ℚ) : PacketIds × Except TrafficError Unit :=
  retireLoop now ids.packetIdsBySource.items ids

/-! ## What an allocation reserves -/

@[simp] theorem used_purge (ids : PacketIds) (source other : String) (now : ℚ) :
    (ids.purge source now).used other = ids.used other := rfl

/-- A fresh identifier was not used, and afterwards it is the only new used one. -/
theorem allocateFresh_spec {ids ids' : PacketIds} {source : String} {now : ℚ}
    {draws : List Nat} {packetId : Nat}
    (h : ids.allocateFresh source now draws = some (packetId, ids')) :
    (ids.used source).get? packetId = none ∧
      ∀ other, ids'.used other =
        if other = source then (ids.used source).set packetId now else ids.used other := by
  induction draws with
  | nil => cases h
  | cons draw rest ih =>
      unfold allocateFresh at h
      split at h
      · next hfresh =>
          obtain ⟨rfl, rfl⟩ := Prod.mk.inj (Option.some.inj h)
          refine ⟨?_, ?_⟩
          · have hunused := hfresh.1
            unfold Dict.contains at hunused
            rwa [Option.isSome_iff_ne_none, not_not] at hunused
          · intro other
            simp only [used, Dict.get?_set]
            split
            · rfl
            · rfl
      · exact ih h

/-- An allocated identifier was not used by the source in this run, and afterwards
it is. -/
theorem allocate_spec {ids ids' : PacketIds} {source : String} {now : ℚ}
    {draws : List Nat} {packetId : Nat}
    (h : ids.allocate source now draws = some (packetId, ids')) :
    (ids.used source).get? packetId = none ∧
      ∀ other, ids'.used other =
        if other = source then (ids.used source).set packetId now else ids.used other := by
  have hspec := allocateFresh_spec h
  simp only [used_purge] at hspec
  exact hspec

/-- Retiring that does not raise leaves nothing reserved. -/
theorem retire_reserved {ids ids' : PacketIds} {now : ℚ}
    (h : ids.retire now = (ids', .ok ())) : ids'.packetIdsBySource = ∅ := by
  unfold retire at h
  generalize ids.packetIdsBySource.items = items at h
  induction items generalizing ids with
  | nil =>
      cases h
      rfl
  | cons item rest ih =>
      unfold retireLoop at h
      dsimp only at h
      split at h
      · cases h
      · exact ih h

/-- Retiring that raises leaves every identifier reserved. -/
theorem retire_used_of_error {ids ids' : PacketIds} {now : ℚ} {error : TrafficError}
    (h : ids.retire now = (ids', .error error)) (source : String) :
    ids'.used source = ids.used source := by
  unfold retire at h
  have hloop : ∀ (items : List (String × Dict Nat ℚ)) (start : PacketIds),
      retireLoop now items start = (ids', .error error) →
        ids'.packetIdsBySource = start.packetIdsBySource := by
    intro items
    induction items with
    | nil =>
        intro start hstart
        cases hstart
    | cons item rest ih =>
        intro start hstart
        unfold retireLoop at hstart
        dsimp only at hstart
        split at hstart
        · cases hstart
          rfl
        · exact (ih _ hstart).trans rfl
  unfold used
  rw [hloop _ ids h]

/-! ## What the quarantine holds -/

/-- The identifiers in the quarantine of a source. -/
def shelf (ids : PacketIds) (source : String) : List Nat :=
  (ids.quarantine source).map Prod.snd

/-- What the quarantine of every source is: no identifier twice, and the set of
quarantined identifiers those of the deque. -/
structure Shelved (ids : PacketIds) : Prop where
  nodup : ∀ source, (ids.shelf source).Nodup
  listed : ∀ source packetId, packetId ∈ ids.quarantined source ↔ packetId ∈ ids.shelf source

/-- No identifier that the current run has reserved is in quarantine. -/
def Apart (ids : PacketIds) : Prop :=
  ∀ source packetId, (ids.used source).get? packetId ≠ none → packetId ∉ ids.shelf source

/-- The loop drops expired entries from the front, and their identifiers. -/
theorem purgeLoop_spec (now : ℚ) (entries : List (ℚ × Nat)) (set : Finset Nat) :
    ∃ dropped, entries = dropped ++ (purgeLoop now entries set).1 ∧
      (∀ entry ∈ dropped, entry.1 ≤ now) ∧
      ∀ packetId, packetId ∈ (purgeLoop now entries set).2 ↔
        packetId ∈ set ∧ packetId ∉ dropped.map Prod.snd := by
  induction entries generalizing set with
  | nil => exact ⟨[], rfl, by simp, by simp [purgeLoop]⟩
  | cons entry rest ih =>
      obtain ⟨expiry, packetId⟩ := entry
      unfold purgeLoop
      split
      · next hexpired =>
          obtain ⟨dropped, hsplit, hold, hset⟩ := ih (set.erase packetId)
          refine ⟨(expiry, packetId) :: dropped, ?_, ?_, ?_⟩
          · rw [List.cons_append, ← hsplit]
          · intro entry hmember
            rcases List.mem_cons.mp hmember with rfl | hrest
            · exact hexpired
            · exact hold entry hrest
          · intro other
            rw [hset, Finset.mem_erase, List.map_cons, List.mem_cons, not_or]
            tauto
      · exact ⟨[], rfl, by simp, by simp⟩

theorem quarantine_purge (ids : PacketIds) (source other : String) (now : ℚ) :
    (ids.purge source now).quarantine other =
      if other = source then (purgeLoop now (ids.quarantine source) (ids.quarantined source)).1
      else ids.quarantine other := by
  unfold purge quarantine
  dsimp only
  rw [Dict.get?_set]
  split <;> rfl

theorem quarantined_purge (ids : PacketIds) (source other : String) (now : ℚ) :
    (ids.purge source now).quarantined other =
      if other = source then (purgeLoop now (ids.quarantine source) (ids.quarantined source)).2
      else ids.quarantined other := by
  unfold purge quarantined
  dsimp only
  rw [Dict.get?_set]
  split <;> rfl

/-- Purging keeps what has not expired. -/
theorem mem_quarantine_purge {ids : PacketIds} {source other : String} {now : ℚ}
    {entry : ℚ × Nat} (hmember : entry ∈ ids.quarantine other) (hlive : now < entry.1) :
    entry ∈ (ids.purge source now).quarantine other := by
  rw [quarantine_purge]
  split
  · next heq =>
      subst heq
      obtain ⟨dropped, hsplit, hold, _⟩ :=
        purgeLoop_spec now (ids.quarantine other) (ids.quarantined other)
      rw [hsplit] at hmember
      rcases List.mem_append.mp hmember with hdropped | hkept
      · exact absurd (hold entry hdropped) (Rat.not_le.mpr hlive)
      · exact hkept
  · exact hmember

theorem shelf_purge_subset {ids : PacketIds} {source other : String} {now : ℚ} {packetId : Nat}
    (hmember : packetId ∈ (ids.purge source now).shelf other) : packetId ∈ ids.shelf other := by
  unfold shelf at hmember ⊢
  rw [quarantine_purge] at hmember
  split at hmember
  · next heq =>
      subst heq
      obtain ⟨dropped, hsplit, _⟩ :=
        purgeLoop_spec now (ids.quarantine other) (ids.quarantined other)
      rw [hsplit, List.map_append]
      exact List.mem_append_right _ hmember
  · exact hmember

theorem Shelved.purge {ids : PacketIds} (h : ids.Shelved) (source : String) (now : ℚ) :
    (ids.purge source now).Shelved := by
  obtain ⟨dropped, hsplit, _, hset⟩ :=
    purgeLoop_spec now (ids.quarantine source) (ids.quarantined source)
  have hshelf : ids.shelf source = dropped.map Prod.snd ++
      (purgeLoop now (ids.quarantine source) (ids.quarantined source)).1.map Prod.snd := by
    unfold shelf
    rw [← List.map_append, ← hsplit]
  have hnodup := h.nodup source
  rw [hshelf, List.nodup_append] at hnodup
  refine ⟨?_, ?_⟩
  · intro other
    unfold shelf
    rw [quarantine_purge]
    split
    · exact hnodup.2.1
    · exact h.nodup other
  · intro other packetId
    unfold shelf
    rw [quarantine_purge, quarantined_purge]
    split
    · rw [hset, h.listed, hshelf, List.mem_append]
      constructor
      · rintro ⟨hdropped | hkept, hnot⟩
        · exact absurd hdropped hnot
        · exact hkept
      · intro hkept
        exact ⟨Or.inr hkept, fun hdropped => hnodup.2.2 packetId hdropped packetId hkept rfl⟩
    · exact h.listed other packetId

theorem Apart.purge {ids : PacketIds} (h : ids.Apart) (source : String) (now : ℚ) :
    (ids.purge source now).Apart :=
  fun other packetId hused hmember => h other packetId hused (shelf_purge_subset hmember)

/-- A fresh identifier is one of the draws and not in quarantine, and the quarantine
stays as it is. -/
theorem allocateFresh_quarantine {ids ids' : PacketIds} {source : String} {now : ℚ}
    {draws : List Nat} {packetId : Nat}
    (h : ids.allocateFresh source now draws = some (packetId, ids')) :
    packetId ∈ draws ∧ packetId ∉ ids.quarantined source ∧
      ids'.packetIdQuarantine = ids.packetIdQuarantine ∧
      ids'.quarantinedPacketIds = ids.quarantinedPacketIds := by
  induction draws with
  | nil => cases h
  | cons draw rest ih =>
      unfold allocateFresh at h
      split at h
      · next hfresh =>
          obtain ⟨rfl, rfl⟩ := Prod.mk.inj (Option.some.inj h)
          exact ⟨List.mem_cons_self, hfresh.2, rfl, rfl⟩
      · obtain ⟨hdrawn, hrest⟩ := ih h
        exact ⟨List.mem_cons_of_mem _ hdrawn, hrest⟩

/-- What an allocation leaves in quarantine: everything that has not expired. -/
theorem allocate_quarantine {ids ids' : PacketIds} {source : String} {now : ℚ}
    {draws : List Nat} {packetId : Nat}
    (h : ids.allocate source now draws = some (packetId, ids')) (hshelved : ids.Shelved)
    (hapart : ids.Apart) :
    packetId ∈ draws ∧ ids'.Shelved ∧ ids'.Apart ∧
      (∀ expiry, now < expiry → (expiry, packetId) ∉ ids.quarantine source) ∧
      ∀ other (entry : ℚ × Nat), entry ∈ ids.quarantine other → now < entry.1 →
        entry ∈ ids'.quarantine other := by
  obtain ⟨hdrawn, hnew, hqueue, hset⟩ := allocateFresh_quarantine h
  have hpurged := hshelved.purge source now
  have hquarantine : ∀ other, ids'.quarantine other = (ids.purge source now).quarantine other := by
    intro other
    unfold quarantine
    rw [hqueue]
  have hquarantined : ∀ other,
      ids'.quarantined other = (ids.purge source now).quarantined other := by
    intro other
    unfold quarantined
    rw [hset]
  have hshelf : ∀ other, ids'.shelf other = (ids.purge source now).shelf other := by
    intro other
    unfold shelf
    rw [hquarantine]
  refine ⟨hdrawn, ⟨?_, ?_⟩, ?_, ?_, ?_⟩
  · intro other
    rw [hshelf]
    exact hpurged.nodup other
  · intro other otherId
    rw [hshelf, hquarantined]
    exact hpurged.listed other otherId
  · intro other otherId hused hmember
    rw [hshelf] at hmember
    rw [(allocate_spec h).2] at hused
    split at hused
    · next heq =>
        subst heq
        rw [Dict.get?_set] at hused
        split at hused
        · next hsame =>
            subst hsame
            exact hnew ((hpurged.listed other otherId).mpr hmember)
        · exact hapart other otherId hused (shelf_purge_subset hmember)
    · exact hapart other otherId hused (shelf_purge_subset hmember)
  · intro expiry hlive hmember
    refine hnew ((hpurged.listed source packetId).mpr ?_)
    exact List.mem_map_of_mem (f := Prod.snd) (mem_quarantine_purge hmember hlive)
  · intro other entry hmember hlive
    rw [hquarantine]
    exact mem_quarantine_purge hmember hlive

/-- The identifiers that are retained are those of the dictionary, none twice. -/
theorem retained_nodup (packetIds : Dict Nat ℚ) (now : ℚ) :
    ((retained packetIds now).map Prod.snd).Nodup := by
  unfold retained
  rw [List.map_map]
  exact packetIds.distinct.sublist (List.filter_sublist.map _)

theorem mem_retained {packetIds : Dict Nat ℚ} {now : ℚ} {entry : ℚ × Nat} :
    entry ∈ retained packetIds now ↔ ∃ time, packetIds.get? entry.2 = some time ∧
      entry.1 = time + PACKET_ID_QUARANTINE_SECONDS ∧ now < entry.1 := by
  unfold retained
  simp only [List.mem_map, List.mem_filter, decide_eq_true_eq]
  constructor
  · rintro ⟨⟨packetId, time⟩, ⟨hmember, hlive⟩, rfl⟩
    exact ⟨time, Dict.get?_eq_some.mpr hmember, rfl, hlive⟩
  · rintro ⟨time, hget, hexpiry, hlive⟩
    refine ⟨(entry.2, time), ⟨Dict.get?_eq_some.mp hget, hexpiry ▸ hlive⟩, ?_⟩
    rw [← hexpiry]

/-- The quarantine after the identifiers of one source have joined it. -/
def shelve (ids : PacketIds) (source : String) (kept : List (ℚ × Nat)) : PacketIds :=
  { ids with
    packetIdQuarantine := ids.packetIdQuarantine.set source (ids.quarantine source ++ kept)
    quarantinedPacketIds :=
      ids.quarantinedPacketIds.set source
        (ids.quarantined source ∪ (kept.map Prod.snd).toFinset) }

theorem quarantine_shelve (ids : PacketIds) (source other : String) (kept : List (ℚ × Nat)) :
    (ids.shelve source kept).quarantine other =
      if other = source then ids.quarantine source ++ kept else ids.quarantine other := by
  unfold shelve quarantine
  dsimp only
  rw [Dict.get?_set]
  split <;> rfl

theorem quarantined_shelve (ids : PacketIds) (source other : String) (kept : List (ℚ × Nat)) :
    (ids.shelve source kept).quarantined other =
      if other = source then ids.quarantined source ∪ (kept.map Prod.snd).toFinset
      else ids.quarantined other := by
  unfold shelve quarantined
  dsimp only
  rw [Dict.get?_set]
  split <;> rfl

theorem Shelved.shelve {ids : PacketIds} (h : ids.Shelved) {source : String}
    {kept : List (ℚ × Nat)} (hnodup : (kept.map Prod.snd).Nodup)
    (happart : ∀ packetId ∈ kept.map Prod.snd, packetId ∉ ids.shelf source) :
    (ids.shelve source kept).Shelved where
  nodup := by
    intro other
    unfold shelf
    rw [quarantine_shelve]
    split
    · rw [List.map_append, List.nodup_append]
      refine ⟨h.nodup source, hnodup, ?_⟩
      rintro a ha b hb rfl
      exact happart a hb ha
    · exact h.nodup other
  listed := by
    intro other packetId
    unfold shelf
    rw [quarantine_shelve, quarantined_shelve]
    split
    · rw [Finset.mem_union, List.mem_toFinset, List.map_append, List.mem_append, h.listed]
      rfl
    · exact h.listed other packetId

/-- Retiring sources one by one: what has not expired stays, and what they reserved
joins it. -/
theorem retireLoop_spec {now : ℚ} {items : List (String × Dict Nat ℚ)} {ids ids' : PacketIds}
    (h : retireLoop now items ids = (ids', .ok ())) (hshelved : ids.Shelved)
    (hdistinct : (items.map Prod.fst).Nodup)
    (hapart : ∀ item ∈ items, ∀ packetId, item.2.get? packetId ≠ none →
      packetId ∉ ids.shelf item.1) :
    ids'.Shelved ∧ ids'.packetIdsBySource = ∅ ∧
      (∀ other (entry : ℚ × Nat), entry ∈ ids.quarantine other → now < entry.1 →
        entry ∈ ids'.quarantine other) ∧
      ∀ item ∈ items, ∀ packetId time, item.2.get? packetId = some time →
        now < time + PACKET_ID_QUARANTINE_SECONDS →
          (time + PACKET_ID_QUARANTINE_SECONDS, packetId) ∈ ids'.quarantine item.1 := by
  induction items generalizing ids with
  | nil =>
      cases h
      exact ⟨⟨hshelved.nodup, hshelved.listed⟩, rfl, fun _ _ hmember _ => hmember, by simp⟩
  | cons item rest ih =>
      obtain ⟨source, packetIds⟩ := item
      rw [List.map_cons, List.nodup_cons] at hdistinct
      unfold retireLoop at h
      dsimp only at h
      split at h
      · cases h
      · have hpurged := hshelved.purge source now
        have hkept : ∀ packetId ∈ (retained packetIds now).map Prod.snd,
            packetId ∉ (ids.purge source now).shelf source := by
          intro packetId hmember hshelf
          obtain ⟨entry, hentry, rfl⟩ := List.mem_map.mp hmember
          obtain ⟨time, hget, _⟩ := mem_retained.mp hentry
          exact hapart (source, packetIds) List.mem_cons_self entry.2 (by simp [hget])
            (shelf_purge_subset hshelf)
        have hnext := hpurged.shelve (retained_nodup packetIds now) hkept
        have hrest : ∀ item ∈ rest, ∀ packetId, item.2.get? packetId ≠ none →
            packetId ∉ ((ids.purge source now).shelve source
              (retained packetIds now)).shelf item.1 := by
          intro item hmember packetId hused hshelf
          have hother : item.1 ≠ source := by
            rintro rfl
            exact hdistinct.1 (List.mem_map.mpr ⟨item, hmember, rfl⟩)
          unfold shelf at hshelf
          rw [quarantine_shelve, if_neg hother] at hshelf
          exact hapart item (List.mem_cons_of_mem _ hmember) packetId hused
            (shelf_purge_subset hshelf)
        obtain ⟨hdone, hempty, hstays, hjoins⟩ := ih h hnext hdistinct.2 hrest
        refine ⟨hdone, hempty, ?_, ?_⟩
        · intro other entry hmember hlive
          refine hstays other entry ?_ hlive
          have hpurge : entry ∈ (ids.purge source now).quarantine other :=
            mem_quarantine_purge hmember hlive
          change entry ∈ ((ids.purge source now).shelve source _).quarantine other
          rw [quarantine_shelve]
          split
          · next heq =>
              subst heq
              exact List.mem_append_left _ hpurge
          · exact hpurge
        · intro item hmember packetId time hget hlive
          rcases List.mem_cons.mp hmember with rfl | hlater
          · refine hstays source _ ?_ hlive
            change _ ∈ ((ids.purge source now).shelve source _).quarantine source
            rw [quarantine_shelve, if_pos rfl]
            exact List.mem_append_right _ (mem_retained.mpr ⟨time, hget, rfl, hlive⟩)
          · exact hjoins item hlater packetId time hget hlive

/-- Retiring that does not raise keeps what has not expired and shelves what the run
reserved. -/
theorem retire_quarantine {ids ids' : PacketIds} {now : ℚ}
    (h : ids.retire now = (ids', .ok ())) (hshelved : ids.Shelved) (hapart : ids.Apart) :
    ids'.Shelved ∧ ids'.Apart ∧
      (∀ other (entry : ℚ × Nat), entry ∈ ids.quarantine other → now < entry.1 →
        entry ∈ ids'.quarantine other) ∧
      ∀ source packetId time, (ids.used source).get? packetId = some time →
        now < time + PACKET_ID_QUARANTINE_SECONDS →
          (time + PACKET_ID_QUARANTINE_SECONDS, packetId) ∈ ids'.quarantine source := by
  have hitems : ∀ item ∈ ids.packetIdsBySource.items, item.2 = ids.used item.1 := by
    intro item hmember
    unfold used
    rw [Dict.get?_eq_some.mpr hmember]
    rfl
  obtain ⟨hdone, hempty, hstays, hjoins⟩ :=
    retireLoop_spec h hshelved ids.packetIdsBySource.distinct (by
      intro item hmember packetId hused
      rw [hitems item hmember] at hused
      exact hapart item.1 packetId hused)
  refine ⟨hdone, ?_, hstays, ?_⟩
  · intro source packetId hused
    unfold used at hused
    rw [hempty] at hused
    exact absurd rfl hused
  · intro source packetId time hget hlive
    have hsource : ∃ packetIds, ids.packetIdsBySource.get? source = some packetIds := by
      unfold used at hget
      cases hfound : ids.packetIdsBySource.get? source with
      | none =>
          rw [hfound] at hget
          cases hget
      | some packetIds => exact ⟨packetIds, rfl⟩
    obtain ⟨packetIds, hfound⟩ := hsource
    have hmember := Dict.get?_eq_some.mp hfound
    refine hjoins (source, packetIds) hmember packetId time ?_ hlive
    rw [hitems _ hmember]
    exact hget

/-! ## Room in the quarantine -/

/-- The quarantine of every source has room for what the run reserved. -/
def HasRoom (ids : PacketIds) (now : ℚ) : Prop :=
  ∀ item ∈ ids.packetIdsBySource.items,
    ((ids.purge item.1 now).quarantine item.1).length + (retained item.2 now).length ≤
      MAX_QUARANTINED_PACKET_IDS_PER_SOURCE

instance (ids : PacketIds) (now : ℚ) : Decidable (ids.HasRoom now) :=
  inferInstanceAs (Decidable (∀ item ∈ ids.packetIdsBySource.items,
    ((ids.purge item.1 now).quarantine item.1).length + (retained item.2 now).length ≤
      MAX_QUARANTINED_PACKET_IDS_PER_SOURCE))

/-- Retiring one source leaves the quarantine of the others. -/
theorem retireLoop_of_room {now : ℚ} {items : List (String × Dict Nat ℚ)} {ids : PacketIds}
    (hdistinct : (items.map Prod.fst).Nodup)
    (hroom : ∀ item ∈ items,
      ((ids.purge item.1 now).quarantine item.1).length + (retained item.2 now).length ≤
        MAX_QUARANTINED_PACKET_IDS_PER_SOURCE) :
    (retireLoop now items ids).2 = .ok () := by
  induction items generalizing ids with
  | nil => rfl
  | cons item rest ih =>
      obtain ⟨source, packetIds⟩ := item
      rw [List.map_cons, List.nodup_cons] at hdistinct
      unfold retireLoop
      dsimp only
      rw [if_neg (Nat.not_lt.mpr (hroom _ List.mem_cons_self))]
      change (retireLoop now rest ((ids.purge source now).shelve source
        (retained packetIds now))).2 = _
      refine ih hdistinct.2 ?_
      intro item hmember
      have hother : item.1 ≠ source := by
        rintro rfl
        exact hdistinct.1 (List.mem_map.mpr ⟨item, hmember, rfl⟩)
      have hsame := hroom item (List.mem_cons_of_mem _ hmember)
      rw [quarantine_purge, if_pos rfl] at hsame ⊢
      rw [quarantine_shelve, quarantined_shelve, if_neg hother, if_neg hother,
        quarantine_purge, quarantined_purge, if_neg hother, if_neg hother]
      exact hsame

/-- With room in the quarantine retiring does not raise. -/
theorem retire_of_room {ids : PacketIds} {now : ℚ} (h : ids.HasRoom now) :
    (ids.retire now).2 = .ok () :=
  retireLoop_of_room ids.packetIdsBySource.distinct h

end PacketIds

end MeshtasticLab.Traffic

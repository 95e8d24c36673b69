/-
  Traffic/RejectedStarts.lean --- what a start that raises leaves behind.

  WHAT THIS FILE IS FOR

  `start` makes its checks before it writes anything, but the last of them is the
  loop of `_retire_packet_ids`, which moves the identifiers of one source into
  quarantine before it looks at the next.  When it raises for a later source, the
  identifiers of the earlier ones are in quarantine and reserved as well, and the
  next start moves them again.  Up to expired entries of the quarantine a start
  that raises leaves everything as it was exactly when no identifier that is still
  inside its window was reserved for an earlier source.
-/
import MeshtasticLab.Traffic.Evidence
import MeshtasticLab.Traffic.Markers
import MeshtasticLab.Traffic.Quarantine

set_option autoImplicit false

namespace MeshtasticLab.Traffic

open MeshtasticLab.Foundation MeshtasticLab.Gateway MeshtasticLab.Metrics MeshtasticLab.Models

namespace PacketIds

variable {ids ids' other other' : PacketIds} {now later : ℚ}

/-! ## Expired entries -/

/-- The quarantine of a source has lost entries from its front, all expired, and
their identifiers. -/
def Sheds (now : ℚ) (ids ids' : PacketIds) (source : String) : Prop :=
  ∃ dropped, ids.quarantine source = dropped ++ ids'.quarantine source ∧
    (∀ entry ∈ dropped, entry.1 ≤ now) ∧
    ids'.quarantined source = ids.quarantined source \ (dropped.map Prod.snd).toFinset

/-- The same identifiers are reserved, and the quarantine has lost nothing but
expired entries. -/
structure DropsExpired (now : ℚ) (ids ids' : PacketIds) : Prop where
  reserved : ids'.packetIdsBySource = ids.packetIdsBySource
  sheds : ∀ source, Sheds now ids ids' source

theorem Sheds.of_eq {source : String} (hqueue : ids'.quarantine source = ids.quarantine source)
    (hset : ids'.quarantined source = ids.quarantined source) : Sheds now ids ids' source :=
  ⟨[], by simp [hqueue], by simp, by simp [hset]⟩

theorem Sheds.trans {ids'' : PacketIds} {source : String} (hfirst : Sheds now ids ids' source)
    (hsecond : Sheds now ids' ids'' source) : Sheds now ids ids'' source := by
  obtain ⟨first, hsplit, hexpired, hset⟩ := hfirst
  obtain ⟨second, hsplit', hexpired', hset'⟩ := hsecond
  refine ⟨first ++ second, ?_, ?_, ?_⟩
  · rw [hsplit, hsplit', List.append_assoc]
  · intro entry hentry
    rcases List.mem_append.mp hentry with hentry | hentry
    · exact hexpired entry hentry
    · exact hexpired' entry hentry
  · rw [hset', hset, List.map_append, List.toFinset_append, sdiff_sdiff_left]
    rfl

theorem DropsExpired.refl (ids : PacketIds) : DropsExpired now ids ids :=
  ⟨rfl, fun _ => .of_eq rfl rfl⟩

theorem DropsExpired.trans {ids'' : PacketIds} (hfirst : DropsExpired now ids ids')
    (hsecond : DropsExpired now ids' ids'') : DropsExpired now ids ids'' :=
  ⟨hsecond.reserved.trans hfirst.reserved,
    fun source => (hfirst.sheds source).trans (hsecond.sheds source)⟩

theorem DropsExpired.mono (h : DropsExpired now ids ids') (hlater : now ≤ later) :
    DropsExpired later ids ids' := by
  refine ⟨h.reserved, fun source => ?_⟩
  obtain ⟨dropped, hsplit, hexpired, hset⟩ := h.sheds source
  exact ⟨dropped, hsplit, fun entry hentry => (hexpired entry hentry).trans hlater, hset⟩

/-- The loop drops entries that have expired before it looks at any other. -/
theorem purgeLoop_append {dropped : List (ℚ × Nat)}
    (hexpired : ∀ entry ∈ dropped, entry.1 ≤ now) (entries : List (ℚ × Nat))
    (set : Finset Nat) :
    purgeLoop now (dropped ++ entries) set =
      purgeLoop now entries (set \ (dropped.map Prod.snd).toFinset) := by
  induction dropped generalizing set with
  | nil => simp
  | cons entry rest ih =>
      obtain ⟨expiry, packetId⟩ := entry
      rw [List.cons_append]
      conv_lhs => unfold purgeLoop
      rw [if_pos (hexpired _ List.mem_cons_self),
        ih (fun entry hentry => hexpired entry (List.mem_cons_of_mem _ hentry))]
      congr 1
      ext other
      simp only [Finset.mem_sdiff, Finset.mem_erase, List.map_cons, List.toFinset_cons,
        Finset.mem_insert]
      tauto

/-- Which entries the loop keeps does not depend on the set. -/
theorem purgeLoop_fst (now : ℚ) (entries : List (ℚ × Nat)) (set set' : Finset Nat) :
    (purgeLoop now entries set).1 = (purgeLoop now entries set').1 := by
  induction entries generalizing set set' with
  | nil => rfl
  | cons entry rest ih =>
      obtain ⟨expiry, packetId⟩ := entry
      unfold purgeLoop
      split
      · exact ih _ _
      · rfl

/-- After a purge nothing tells what an earlier one had dropped. -/
theorem purgeLoop_sheds {source : String} (h : Sheds now ids ids' source)
    (hlater : now ≤ later) :
    purgeLoop later (ids'.quarantine source) (ids'.quarantined source) =
      purgeLoop later (ids.quarantine source) (ids.quarantined source) := by
  obtain ⟨dropped, hsplit, hexpired, hset⟩ := h
  rw [hsplit, purgeLoop_append (fun entry hentry => (hexpired entry hentry).trans hlater), hset]

/-- Purging drops expired entries and no others. -/
theorem dropsExpired_purge (ids : PacketIds) (source : String) (now : ℚ) :
    DropsExpired now ids (ids.purge source now) := by
  refine ⟨rfl, fun other => ?_⟩
  by_cases hother : other = source
  · subst hother
    obtain ⟨dropped, hsplit, hexpired, hset⟩ :=
      purgeLoop_spec now (ids.quarantine other) (ids.quarantined other)
    refine ⟨dropped, ?_, hexpired, ?_⟩
    · rw [quarantine_purge, if_pos rfl]
      exact hsplit
    · rw [quarantined_purge, if_pos rfl]
      ext packetId
      rw [hset, Finset.mem_sdiff, List.mem_toFinset]
  · refine .of_eq ?_ ?_
    · rw [quarantine_purge, if_neg hother]
    · rw [quarantined_purge, if_neg hother]

/-! ## Retiring that raises -/

/-- The quarantine of a source has no room for what it has reserved. -/
def Overfull (ids : PacketIds) (now : ℚ) (item : String × Dict Nat ℚ) : Prop :=
  MAX_QUARANTINED_PACKET_IDS_PER_SOURCE <
    ((ids.purge item.1 now).quarantine item.1).length + (retained item.2 now).length

instance (ids : PacketIds) (now : ℚ) (item : String × Dict Nat ℚ) :
    Decidable (ids.Overfull now item) :=
  inferInstanceAs (Decidable (_ < _))

/-- Every source has room, or no source before the first one without room has an
identifier inside its window. -/
def RetiresCleanly (ids : PacketIds) (now : ℚ) : Prop :=
  ids.HasRoom now ∨
    ∀ item ∈ ids.packetIdsBySource.items.takeWhile fun item => ¬ids.Overfull now item,
      retained item.2 now = []

instance (ids : PacketIds) (now : ℚ) : Decidable (ids.RetiresCleanly now) :=
  inferInstanceAs (Decidable (_ ∨ _))

/-- The quarantine after one pass of the loop that does not raise. -/
def retireOne (ids : PacketIds) (now : ℚ) (item : String × Dict Nat ℚ) : PacketIds :=
  (ids.purge item.1 now).shelve item.1 (retained item.2 now)

theorem retireLoop_of_overfull {item : String × Dict Nat ℚ} (hfull : ids.Overfull now item)
    (rest : List (String × Dict Nat ℚ)) :
    retireLoop now (item :: rest) ids = (ids.purge item.1 now,
      .error (.packetIdQuarantineCapacityError
        ("packet ID quarantine capacity is too small for the configured " ++
          "late-acknowledgment window"))) := by
  unfold Overfull at hfull
  unfold retireLoop
  dsimp only
  rw [if_pos hfull]

theorem retireLoop_of_room_for {item : String × Dict Nat ℚ} (hroom : ¬ids.Overfull now item)
    (rest : List (String × Dict Nat ℚ)) :
    retireLoop now (item :: rest) ids = retireLoop now rest (ids.retireOne now item) := by
  unfold Overfull at hroom
  conv_lhs => unfold retireLoop
  dsimp only
  rw [if_neg hroom]
  rfl

/-- A pass of the loop leaves the quarantine of every other source. -/
theorem retireOne_of_ne {item : String × Dict Nat ℚ} {source : String}
    (hother : source ≠ item.1) :
    (ids.retireOne now item).quarantine source = ids.quarantine source ∧
      (ids.retireOne now item).quarantined source = ids.quarantined source := by
  unfold retireOne
  rw [quarantine_shelve, if_neg hother, quarantine_purge, if_neg hother, quarantined_shelve,
    if_neg hother, quarantined_purge, if_neg hother]
  exact ⟨rfl, rfl⟩

theorem quarantine_retireOne (ids : PacketIds) (now : ℚ) (item : String × Dict Nat ℚ) :
    (ids.retireOne now item).quarantine item.1 =
      (ids.purge item.1 now).quarantine item.1 ++ retained item.2 now := by
  unfold retireOne
  rw [quarantine_shelve, if_pos rfl]

/-- Whether a source has room depends on nothing but its own quarantine. -/
theorem overfull_congr {item : String × Dict Nat ℚ}
    (hqueue : ids'.quarantine item.1 = ids.quarantine item.1) :
    ids'.Overfull now item ↔ ids.Overfull now item := by
  unfold Overfull
  rw [quarantine_purge, if_pos rfl, quarantine_purge, if_pos rfl, hqueue,
    purgeLoop_fst now _ (ids'.quarantined item.1) (ids.quarantined item.1)]

section Loop

variable {items : List (String × Dict Nat ℚ)} {p : String × Dict Nat ℚ → Prop}

/-- Which sources have no room is the same after a pass over another source. -/
theorem full_retireOne {item : String × Dict Nat ℚ}
    (hdistinct : ((item :: items).map Prod.fst).Nodup)
    (hfull : ∀ next ∈ item :: items, ids.Overfull now next ↔ p next) :
    ∀ next ∈ items, (ids.retireOne now item).Overfull now next ↔ p next := by
  intro next hnext
  rw [List.map_cons, List.nodup_cons] at hdistinct
  have hother : next.1 ≠ item.1 := fun heq =>
    hdistinct.1 (heq ▸ List.mem_map_of_mem (f := Prod.fst) hnext)
  rw [overfull_congr (retireOne_of_ne hother).1]
  exact hfull next (List.mem_cons_of_mem _ hnext)

/-- The loop leaves the quarantine of a source that it does not reach. -/
theorem quarantine_retireLoop {outcome : Except TrafficError Unit} {source : String}
    (h : retireLoop now items ids = (ids', outcome)) (hnot : source ∉ items.map Prod.fst) :
    ids'.quarantine source = ids.quarantine source := by
  induction items generalizing ids with
  | nil =>
      cases h
      rfl
  | cons item rest ih =>
      rw [List.map_cons, List.mem_cons, not_or] at hnot
      by_cases hroom : ids.Overfull now item
      · rw [retireLoop_of_overfull hroom] at h
        cases h
        rw [quarantine_purge, if_neg hnot.1]
      · rw [retireLoop_of_room_for hroom] at h
        rw [ih h hnot.2, (retireOne_of_ne hnot.1).1]

/-- The loop raises when it comes to a source without room. -/
theorem retireLoop_raises (hdistinct : (items.map Prod.fst).Nodup)
    (hfull : ∀ item ∈ items, ids.Overfull now item ↔ p item)
    (hsome : ∃ item ∈ items, p item) :
    ∃ error ids', retireLoop now items ids = (ids', .error error) := by
  induction items generalizing ids with
  | nil =>
      obtain ⟨item, hitem, _⟩ := hsome
      cases hitem
  | cons item rest ih =>
      by_cases hroom : ids.Overfull now item
      · exact ⟨_, _, retireLoop_of_overfull hroom rest⟩
      · rw [retireLoop_of_room_for hroom]
        refine ih (List.nodup_cons.mp hdistinct).2 (full_retireOne hdistinct hfull) ?_
        obtain ⟨next, hnext, hfound⟩ := hsome
        rcases List.mem_cons.mp hnext with rfl | hlater
        · exact absurd ((hfull _ List.mem_cons_self).mpr hfound) hroom
        · exact ⟨next, hlater, hfound⟩

variable [DecidablePred p]

/-- When nothing is retained before the source without room, raising drops no more
than expired entries. -/
theorem retireLoop_dropsExpired {error : TrafficError} (hdistinct : (items.map Prod.fst).Nodup)
    (hfull : ∀ item ∈ items, ids.Overfull now item ↔ p item)
    (hclean : ∀ item ∈ items.takeWhile fun item => ¬p item, retained item.2 now = [])
    (h : retireLoop now items ids = (ids', .error error)) : DropsExpired now ids ids' := by
  induction items generalizing ids with
  | nil => cases h
  | cons item rest ih =>
      have hpurged := dropsExpired_purge ids item.1 now
      by_cases hroom : ids.Overfull now item
      · rw [retireLoop_of_overfull hroom] at h
        cases h
        exact hpurged
      · have hnot : ¬p item := (hfull item List.mem_cons_self).not.mp hroom
        rw [List.takeWhile_cons_of_pos (by simpa using hnot)] at hclean
        rw [retireLoop_of_room_for hroom] at h
        have hnothing : retained item.2 now = [] := hclean item List.mem_cons_self
        have hone : DropsExpired now ids (ids.retireOne now item) := by
          refine hpurged.trans ⟨rfl, fun source => .of_eq ?_ ?_⟩
          · unfold retireOne
            rw [quarantine_shelve, hnothing]
            split
            · next heq => rw [heq, List.append_nil]
            · rfl
          · unfold retireOne
            rw [quarantined_shelve, hnothing]
            split
            · next heq => simp [heq]
            · rfl
        exact hone.trans (ih (List.nodup_cons.mp hdistinct).2 (full_retireOne hdistinct hfull)
          (fun next hnext => hclean next (List.mem_cons_of_mem _ hnext)) h)

/-! ## Entries that have not expired -/

/-- How many entries of a list have not expired. -/
def unexpired (now : ℚ) (entries : List (ℚ × Nat)) : Nat :=
  entries.countP fun entry => now < entry.1

theorem unexpired_of_sheds {source : String} (h : Sheds now ids ids' source) :
    unexpired now (ids'.quarantine source) = unexpired now (ids.quarantine source) := by
  obtain ⟨dropped, hsplit, hexpired, _⟩ := h
  have hnone : (dropped.countP fun entry => decide (now < entry.1)) = 0 := by
    rw [List.countP_eq_zero]
    intro entry hentry
    simpa using hexpired entry hentry
  unfold unexpired
  rw [hsplit, List.countP_append, hnone, Nat.zero_add]

theorem unexpired_retained (packetIds : Dict Nat ℚ) (now : ℚ) :
    unexpired now (retained packetIds now) = (retained packetIds now).length := by
  unfold unexpired
  rw [List.countP_eq_length]
  intro entry hentry
  obtain ⟨_, _, _, hlive⟩ := mem_retained.mp hentry
  simpa using hlive

/-- What the loop retained before it raised has joined the quarantine. -/
theorem unexpired_retireLoop {error : TrafficError} (hdistinct : (items.map Prod.fst).Nodup)
    (hfull : ∀ item ∈ items, ids.Overfull now item ↔ p item)
    (h : retireLoop now items ids = (ids', .error error)) :
    ∀ item ∈ items.takeWhile fun item => ¬p item,
      unexpired now (ids'.quarantine item.1) =
        unexpired now (ids.quarantine item.1) + (retained item.2 now).length := by
  induction items generalizing ids with
  | nil => cases h
  | cons item rest ih =>
      intro next hnext
      have hkeys := List.nodup_cons.mp hdistinct
      by_cases hroom : ids.Overfull now item
      · have hfound : p item := (hfull item List.mem_cons_self).mp hroom
        rw [List.takeWhile_cons_of_neg (by simpa using hfound)] at hnext
        cases hnext
      · have hnot : ¬p item := (hfull item List.mem_cons_self).not.mp hroom
        rw [List.takeWhile_cons_of_pos (by simpa using hnot)] at hnext
        rw [retireLoop_of_room_for hroom] at h
        rcases List.mem_cons.mp hnext with rfl | hlater
        · rw [quarantine_retireLoop h hkeys.1, quarantine_retireOne, ← unexpired_retained,
            ← unexpired_of_sheds ((dropsExpired_purge ids next.1 now).sheds next.1)]
          exact List.countP_append
        · have hmember : next ∈ rest := (List.takeWhile_sublist _).subset hlater
          have hother : next.1 ≠ item.1 := fun heq =>
            hkeys.1 (heq ▸ List.mem_map_of_mem (f := Prod.fst) hmember)
          rw [ih hkeys.2 (full_retireOne hdistinct hfull) h next hlater,
            (retireOne_of_ne hother).1]

end Loop

/-- Retiring that raises drops no more than expired entries exactly when it retires
cleanly. -/
theorem dropsExpired_retire_iff {error : TrafficError} (h : ids.retire now = (ids', .error error)) :
    DropsExpired now ids ids' ↔ ids.RetiresCleanly now := by
  have hdistinct : (ids.packetIdsBySource.items.map Prod.fst).Nodup :=
    ids.packetIdsBySource.distinct
  constructor
  · intro hdrops
    refine Or.inr fun item hitem => ?_
    have hjoined := unexpired_retireLoop (p := ids.Overfull now) hdistinct
      (fun _ _ => Iff.rfl) h item hitem
    rw [unexpired_of_sheds (hdrops.sheds item.1)] at hjoined
    exact List.eq_nil_of_length_eq_zero (by omega)
  · rintro (hroom | hclean)
    · have hok := retire_of_room hroom
      rw [h] at hok
      cases hok
    · exact retireLoop_dropsExpired (p := ids.Overfull now) hdistinct (fun _ _ => Iff.rfl)
        hclean h

/-- Without room for some source retiring raises. -/
theorem retire_raises (h : ¬ids.HasRoom now) :
    ∃ error ids', ids.retire now = (ids', .error error) := by
  refine retireLoop_raises (p := ids.Overfull now) ids.packetIdsBySource.distinct
    (fun _ _ => Iff.rfl) ?_
  by_contra hnone
  refine h fun item hitem => Nat.not_lt.mp fun hfull => hnone ⟨item, hitem, hfull⟩

/-! ## Retiring again -/

/-- At a later time a purge of a source leaves the same, whatever was dropped before. -/
theorem purge_sheds {source : String} (h : Sheds now ids ids' source) (hlater : now ≤ later) :
    (ids'.purge source later).quarantine source = (ids.purge source later).quarantine source ∧
      (ids'.purge source later).quarantined source =
        (ids.purge source later).quarantined source := by
  rw [quarantine_purge, if_pos rfl, quarantine_purge, if_pos rfl, quarantined_purge, if_pos rfl,
    quarantined_purge, if_pos rfl, purgeLoop_sheds h hlater]
  exact ⟨rfl, rfl⟩

theorem dropsExpired_purge_both (h : DropsExpired now ids ids') (hlater : now ≤ later)
    (source : String) : DropsExpired later (ids.purge source later) (ids'.purge source later) := by
  refine ⟨h.reserved, fun other => ?_⟩
  by_cases hother : other = source
  · subst hother
    obtain ⟨hqueue, hset⟩ := purge_sheds (h.sheds other) hlater
    exact .of_eq hqueue hset
  · unfold Sheds
    rw [quarantine_purge, if_neg hother, quarantine_purge, if_neg hother, quarantined_purge,
      if_neg hother, quarantined_purge, if_neg hother]
    exact (h.mono hlater).sheds other

theorem dropsExpired_retireOne (h : DropsExpired now ids ids') (hlater : now ≤ later)
    (item : String × Dict Nat ℚ) :
    DropsExpired later (ids.retireOne later item) (ids'.retireOne later item) := by
  refine ⟨h.reserved, fun other => ?_⟩
  by_cases hother : other = item.1
  · subst hother
    obtain ⟨hqueue, hset⟩ := purge_sheds (h.sheds item.1) hlater
    refine .of_eq ?_ ?_
    · rw [quarantine_retireOne, quarantine_retireOne, hqueue]
    · unfold retireOne
      rw [quarantined_shelve, if_pos rfl, quarantined_shelve, if_pos rfl, hset]
  · unfold Sheds
    rw [(retireOne_of_ne hother).1, (retireOne_of_ne hother).1, (retireOne_of_ne hother).2,
      (retireOne_of_ne hother).2]
    exact (h.mono hlater).sheds other

/-- Retiring ends the same way, whatever expired entries were dropped before. -/
theorem retireLoop_dropsExpired_both {items : List (String × Dict Nat ℚ)}
    (h : DropsExpired now ids ids') (hlater : now ≤ later) :
    (retireLoop later items ids').2 = (retireLoop later items ids).2 ∧
      DropsExpired later (retireLoop later items ids).1 (retireLoop later items ids').1 := by
  induction items generalizing ids ids' now with
  | nil => exact ⟨rfl, rfl, (h.mono hlater).sheds⟩
  | cons item rest ih =>
      have hqueue := (purge_sheds (h.sheds item.1) hlater).1
      have hsame : ids'.Overfull later item ↔ ids.Overfull later item := by
        unfold Overfull
        rw [hqueue]
      by_cases hroom : ids.Overfull later item
      · rw [retireLoop_of_overfull hroom, retireLoop_of_overfull (hsame.mpr hroom)]
        exact ⟨rfl, dropsExpired_purge_both h hlater item.1⟩
      · rw [retireLoop_of_room_for hroom, retireLoop_of_room_for (hsame.not.mpr hroom)]
        exact ih (dropsExpired_retireOne h hlater item) le_rfl

/-- Retiring again after expired entries were dropped. -/
theorem retire_dropsExpired_both (h : DropsExpired now ids ids') (hlater : now ≤ later) :
    (ids'.retire later).2 = (ids.retire later).2 ∧
      DropsExpired later (ids.retire later).1 (ids'.retire later).1 := by
  unfold retire
  rw [h.reserved]
  exact retireLoop_dropsExpired_both h hlater

/-! ## Filling the quarantine of one source -/

/-- Nothing that is held for a source expires up to a time, its identifiers are below a
bound, so many of them are in quarantine and so many reserved, and nothing is held for any
other source. -/
structure Stocked (ids : PacketIds) (source : String) (horizon : ℚ)
    (bound shelved reserved : Nat) : Prop where
  items : ids.packetIdsBySource.items =
    if reserved = 0 then [] else [(source, ids.used source)]
  length : (ids.used source).items.length = reserved
  used : ∀ entry ∈ (ids.used source).items,
    entry.1 < bound ∧ horizon < entry.2 + PACKET_ID_QUARANTINE_SECONDS
  shelf : (ids.quarantine source).length = shelved
  live : ∀ entry ∈ ids.quarantine source, horizon < entry.1
  quarantined : ∀ packetId ∈ ids.quarantined source, packetId < bound
  others : ∀ other, other ≠ source →
    ids.quarantine other = [] ∧ ids.quarantined other = ∅

theorem purgeLoop_of_live {entries : List (ℚ × Nat)} (hlive : ∀ entry ∈ entries, now < entry.1)
    (set : Finset Nat) : purgeLoop now entries set = (entries, set) := by
  cases entries with
  | nil => rfl
  | cons entry rest =>
      unfold purgeLoop
      rw [if_neg (not_le.mpr (hlive entry List.mem_cons_self))]

variable {source : String} {horizon : ℚ} {bound shelved reserved : Nat}

theorem Stocked.purge (h : Stocked ids source horizon bound shelved reserved)
    (hnow : now ≤ horizon) :
    (ids.purge source now).quarantine source = ids.quarantine source ∧
      (ids.purge source now).quarantined source = ids.quarantined source := by
  have hlive : ∀ entry ∈ ids.quarantine source, now < entry.1 :=
    fun entry hentry => lt_of_le_of_lt hnow (h.live entry hentry)
  rw [quarantine_purge, if_pos rfl, quarantined_purge, if_pos rfl, purgeLoop_of_live hlive]
  exact ⟨rfl, rfl⟩

/-- The bound itself is a fresh identifier. -/
theorem Stocked.allocate (h : Stocked ids source horizon bound shelved reserved)
    (hnow : now ≤ horizon) (hwindow : horizon < now + PACKET_ID_QUARANTINE_SECONDS) :
    ∃ ids', ids.allocate source now [bound] = some (bound, ids') ∧
      Stocked ids' source horizon (bound + 1) shelved (reserved + 1) := by
  obtain ⟨hqueue, hset⟩ := h.purge hnow
  have hunused : (ids.used source).contains bound = false := by
    cases hcontains : (ids.used source).contains bound with
    | false => rfl
    | true =>
        obtain ⟨time, hget⟩ := Option.isSome_iff_exists.mp hcontains
        exact absurd (h.used _ (Dict.get?_eq_some.mp hget)).1 (Nat.lt_irrefl _)
  have hfresh : bound ∉ ids.quarantined source :=
    fun hmember => Nat.lt_irrefl _ (h.quarantined bound hmember)
  have hallocate : ids.allocate source now [bound] = some (bound,
      { ids.purge source now with
        packetIdsBySource :=
          ids.packetIdsBySource.set source ((ids.used source).set bound now) }) := by
    unfold PacketIds.allocate allocateFresh
    rw [used_purge, hset, if_pos ⟨by simp [hunused], hfresh⟩]
    rfl
  refine ⟨_, hallocate, ?_⟩
  have hused : (({ ids.purge source now with
        packetIdsBySource :=
          ids.packetIdsBySource.set source ((ids.used source).set bound now) } :
          PacketIds).used source) = (ids.used source).set bound now := by
    unfold PacketIds.used
    rw [Dict.get?_set_self]
    rfl
  have hnew : ((ids.used source).set bound now).items =
      (ids.used source).items ++ [(bound, now)] := by
    have hnot : bound ∉ (ids.used source).items.map Prod.fst := by
      intro hmember
      obtain ⟨entry, hentry, hkey⟩ := List.mem_map.mp hmember
      exact Nat.lt_irrefl _ (hkey ▸ (h.used entry hentry).1)
    unfold Dict.set Dict.assign
    dsimp only
    rw [if_neg hnot]
  exact
    { items := by
        rw [hused, if_neg (Nat.succ_ne_zero _)]
        change Dict.assign ids.packetIdsBySource.items source _ = _
        rw [h.items]
        unfold Dict.assign
        split <;> simp
      length := by
        rw [hused, hnew, List.length_append, h.length]
        rfl
      used := by
        rw [hused, hnew]
        intro entry hentry
        rcases List.mem_append.mp hentry with hentry | hentry
        · obtain ⟨hbelow, hlives⟩ := h.used entry hentry
          exact ⟨Nat.lt_succ_of_lt hbelow, hlives⟩
        · rw [List.mem_singleton.mp hentry]
          exact ⟨Nat.lt_succ_self _, hwindow⟩
      shelf := by
        change ((ids.purge source now).quarantine source).length = shelved
        rw [hqueue, h.shelf]
      live := by
        change ∀ entry ∈ (ids.purge source now).quarantine source, horizon < entry.1
        rw [hqueue]
        exact h.live
      quarantined := by
        change ∀ packetId ∈ (ids.purge source now).quarantined source, packetId < bound + 1
        rw [hset]
        exact fun packetId hmember => Nat.lt_succ_of_lt (h.quarantined packetId hmember)
      others := by
        intro other hother
        change (ids.purge source now).quarantine other = [] ∧
          (ids.purge source now).quarantined other = ∅
        rw [quarantine_purge, if_neg hother, quarantined_purge, if_neg hother]
        exact h.others other hother }

/-- The source keeps what it had reserved, in quarantine. -/
theorem Stocked.retire (h : Stocked ids source horizon bound shelved reserved) (now : ℚ)
    (hnow : now ≤ horizon) (hroom : shelved + reserved ≤ MAX_QUARANTINED_PACKET_IDS_PER_SOURCE) :
    ∃ ids', ids.retire now = (ids', .ok ()) ∧
      Stocked ids' source horizon bound (shelved + reserved) 0 := by
  by_cases hnone : reserved = 0
  · subst hnone
    refine ⟨{ ids with packetIdsBySource := ∅ }, ?_, ?_⟩
    · unfold PacketIds.retire
      rw [h.items]
      rfl
    · exact ⟨rfl, rfl, fun _ hentry => absurd hentry List.not_mem_nil, h.shelf, h.live,
        h.quarantined, h.others⟩
  · obtain ⟨hqueue, _⟩ := h.purge hnow
    have hretained : (retained (ids.used source) now).length = reserved := by
      unfold retained
      rw [List.length_map, List.filter_eq_self.mpr, h.length]
      intro entry hentry
      simpa using lt_of_le_of_lt hnow (h.used entry hentry).2
    have hitems : ids.packetIdsBySource.items = [(source, ids.used source)] := by
      rw [h.items, if_neg hnone]
    have hfits : ¬ids.Overfull now (source, ids.used source) := by
      unfold Overfull
      rw [hqueue, h.shelf, hretained, Nat.not_lt]
      exact hroom
    have hshelf : (ids.retireOne now (source, ids.used source)).quarantine source =
        ids.quarantine source ++ retained (ids.used source) now := by
      rw [quarantine_retireOne ids now (source, ids.used source), hqueue]
    refine ⟨{ ids.retireOne now (source, ids.used source) with packetIdsBySource := ∅ }, ?_, ?_⟩
    · unfold PacketIds.retire
      rw [hitems, retireLoop_of_room_for hfits]
      rfl
    · exact
        { items := rfl
          length := rfl
          used := fun _ hentry => absurd hentry List.not_mem_nil
          shelf := by
            change ((ids.retireOne now _).quarantine source).length = _
            rw [hshelf, List.length_append, h.shelf, hretained]
          live := by
            change ∀ entry ∈ (ids.retireOne now _).quarantine source, horizon < entry.1
            rw [hshelf]
            intro entry hentry
            rcases List.mem_append.mp hentry with hentry | hentry
            · exact h.live entry hentry
            · obtain ⟨time, hget, hexpiry, _⟩ := mem_retained.mp hentry
              rw [hexpiry]
              exact (h.used (entry.2, time) (Dict.get?_eq_some.mp hget)).2
          quarantined := by
            change ∀ packetId ∈ (ids.retireOne now _).quarantined source, packetId < bound
            unfold retireOne
            rw [quarantined_shelve, if_pos rfl]
            intro packetId hmember
            rcases Finset.mem_union.mp hmember with hmember | hmember
            · rw [(h.purge hnow).2] at hmember
              exact h.quarantined packetId hmember
            · obtain ⟨entry, hentry, rfl⟩ := List.mem_map.mp (List.mem_toFinset.mp hmember)
              obtain ⟨time, hget, _⟩ := mem_retained.mp hentry
              exact (h.used (entry.2, time) (Dict.get?_eq_some.mp hget)).1
          others := by
            intro other hother
            change (ids.retireOne now _).quarantine other = [] ∧
              (ids.retireOne now _).quarantined other = ∅
            rw [(retireOne_of_ne hother).1, (retireOne_of_ne hother).2]
            exact h.others other hother }

/-- The first identifier of a source that has reserved none. -/
theorem allocate_first (ids : PacketIds) (source : String) (now : ℚ) (packetId : Nat)
    (hnew : source ∉ ids.packetIdsBySource.items.map Prod.fst)
    (hfresh : packetId ∉ (ids.purge source now).quarantined source) :
    ∃ ids', ids.allocate source now [packetId] = some (packetId, ids') ∧
      ids'.packetIdsBySource.items =
        ids.packetIdsBySource.items ++ [(source, (∅ : Dict Nat ℚ).set packetId now)] ∧
      ∀ other, ids'.quarantine other = (ids.purge source now).quarantine other ∧
        ids'.quarantined other = (ids.purge source now).quarantined other := by
  have hunused : ids.used source = ∅ := by
    unfold PacketIds.used
    rw [Dict.get?_eq_none.mpr fun value hmember =>
      hnew (List.mem_map_of_mem (f := Prod.fst) hmember)]
    rfl
  refine ⟨{ ids.purge source now with
    packetIdsBySource := ids.packetIdsBySource.set source ((∅ : Dict Nat ℚ).set packetId now) },
    ?_, ?_, fun _ => ⟨rfl, rfl⟩⟩
  · unfold PacketIds.allocate allocateFresh
    rw [used_purge, hunused, if_pos ⟨by simp [Dict.contains], hfresh⟩]
    rfl
  · unfold Dict.set Dict.assign
    dsimp only
    rw [if_neg hnew]

/-- With the quarantine of a source full, one identifier of another source and then one of
its own keep the next start from retiring cleanly. -/
theorem Stocked.blocked (h : Stocked ids source horizon bound shelved 0) (opener : String)
    (now later : ℚ) (hopener : opener ≠ source) (packetId : Nat) (hnow : now ≤ horizon)
    (hlater : later ≤ horizon)
    (hwindow : horizon < now + PACKET_ID_QUARANTINE_SECONDS)
    (hfull : shelved = MAX_QUARANTINED_PACKET_IDS_PER_SOURCE) :
    ∃ opened ids', ids.allocate opener now [packetId] = some (packetId, opened) ∧
      opened.allocate source now [bound] = some (bound, ids') ∧ ¬ids'.RetiresCleanly later := by
  obtain ⟨hqueue, hset⟩ := h.others opener hopener
  have hnobody : ids.packetIdsBySource.items = [] := h.items
  obtain ⟨opened, hopened, hitems, hkeeps⟩ := allocate_first ids opener now packetId
    (by simp [hnobody]) (by
      rw [quarantined_purge, if_pos rfl, hqueue, hset]
      exact Finset.notMem_empty _)
  rw [hnobody, List.nil_append] at hitems
  have hopenerQueue : opened.quarantine opener = [] := by
    rw [(hkeeps opener).1, quarantine_purge, if_pos rfl, hqueue]
    rfl
  have hsourceQueue : opened.quarantine source = ids.quarantine source := by
    rw [(hkeeps source).1, quarantine_purge, if_neg hopener.symm]
  have hsourceSet : opened.quarantined source = ids.quarantined source := by
    rw [(hkeeps source).2, quarantined_purge, if_neg hopener.symm]
  have hlive : ∀ {t : ℚ}, t ≤ horizon → ∀ set, purgeLoop t (ids.quarantine source) set =
      (ids.quarantine source, set) := by
    intro t ht set
    exact purgeLoop_of_live (fun entry hentry => lt_of_le_of_lt ht (h.live entry hentry)) set
  obtain ⟨ids', hallocate, hitems', hkeeps'⟩ := allocate_first opened source now bound
    (by simpa [hitems] using hopener.symm) (by
      rw [quarantined_purge, if_pos rfl, hsourceQueue, hsourceSet, hlive hnow]
      exact fun hmember => Nat.lt_irrefl _ (h.quarantined bound hmember))
  rw [hitems] at hitems'
  have hopenerQueue' : ids'.quarantine opener = [] := by
    rw [(hkeeps' opener).1, quarantine_purge, if_neg hopener, hopenerQueue]
  have hsourceQueue' : ids'.quarantine source = ids.quarantine source := by
    rw [(hkeeps' source).1, quarantine_purge, if_pos rfl, hsourceQueue, hsourceSet, hlive hnow]
  have hretained : ∀ id : Nat, (retained ((∅ : Dict Nat ℚ).set id now) later).length = 1 := by
    intro id
    have hitem : ((∅ : Dict Nat ℚ).set id now).items = [(id, now)] := rfl
    unfold retained
    rw [hitem, List.filter_eq_self.mpr]
    · rfl
    · intro entry hentry
      rw [List.mem_singleton.mp hentry]
      simpa using lt_of_le_of_lt hlater hwindow
  have hroom : ¬ids'.Overfull later (opener, (∅ : Dict Nat ℚ).set packetId now) := by
    unfold Overfull MAX_QUARANTINED_PACKET_IDS_PER_SOURCE
    rw [quarantine_purge, if_pos rfl, hopenerQueue', hretained]
    change ¬600 * 60 < 1
    decide
  have hnone : ids'.Overfull later (source, (∅ : Dict Nat ℚ).set bound now) := by
    unfold Overfull
    rw [quarantine_purge, if_pos rfl, hsourceQueue', hlive hlater, h.shelf, hfull, hretained]
    exact Nat.lt_succ_self _
  refine ⟨opened, ids', hopened, hallocate, ?_⟩
  rintro (hall | hclean)
  · refine Nat.not_lt.mpr (hall (source, (∅ : Dict Nat ℚ).set bound now) ?_) hnone
    rw [hitems']
    simp
  · have hnothing := hclean (opener, (∅ : Dict Nat ℚ).set packetId now) (by
      rw [hitems', List.cons_append, List.takeWhile_cons_of_pos (by simpa using hroom)]
      exact List.mem_cons_self)
    have hone := hretained packetId
    rw [hnothing] at hone
    cases hone

end PacketIds

namespace TrafficController

variable {c d : TrafficController} {now : ℚ}

/-! ## One start -/

/-- The checks of `start` that come before it resets anything are passed. -/
structure Admits (c : TrafficController) (runId : String) (taskActive : Bool)
    (request : TrafficRunRequest) (scenarioSnapshot : Option Scenario) : Prop where
  idle : taskActive = false
  nodes : request.validateRequestNodes (scenarioSnapshot.getD c.scenario).nodeIds
    request.schedulingFlows = .ok ()
  messages : request.maximumSequence ≤ MAX_TRAFFIC_MESSAGES_PER_RUN
  payload : (trafficMarker runId request.maximumSequence).length ≤ request.payloadBytes

/-- Everything is as before, up to entries of the quarantine that have expired. -/
structure AsBefore (now : ℚ) (c d : TrafficController) : Prop where
  fields : d = { c with packetIds := d.packetIds }
  packetIds : PacketIds.DropsExpired now c.packetIds d.packetIds

/-- The last part of `start`, once nothing is reserved and nothing counted. -/
def beginRun (c : TrafficController) (m : Moment) (runId : String) (request : TrafficRunRequest)
    (snapshot : Scenario) (missing : List String) :
    TrafficController × Except TrafficError String :=
  match c.liveMetricsSnapshot with
  | .error message => (c, .error (.valueError message))
  | .ok metrics =>
      ({ c with
          run := some
            { provenance := c.buildMetadata
              runId := runId
              state := .running
              request := request
              scenarioSnapshot := snapshot
              startedAt := m.wallClock
              randomSeed := request.seed
              failedReceptionMetricsComplete := missing.isEmpty
              missingLocalStatsNodes := missing
              metrics := metrics }
          frozenResults := []
          state := .running
          phase := .generating }, .ok runId)

/-- The controller that `start` has reset, with the baseline of the run. -/
def resetFor (c : TrafficController) (m : Moment) (snapshot : Scenario)
    (baseline : Option FailedReceptionSample) : TrafficController :=
  let sample := baseline.getD { totals := ∅ }
  { c with
    finalizationWaitTimedOut := false
    accumulators :=
      { latestFailedReceptions := (∅ : Dict String Nat).update sample.totals.items
        latestDuplicateReceptions := (∅ : Dict String Nat).update sample.duplicateTotals.items }
    lastActivityMonotonic := m.now
    activityChanged := false
    eventStreamId := some m.streamId
    runScenario := snapshot }

section Start

variable {m : Moment} {runId : String} {taskActive : Bool} {request : TrafficRunRequest}
  {scenarioSnapshot : Option Scenario} {baseline : Option FailedReceptionSample}

/-- A start that fails a check raises the same error whatever identifiers are held, and
leaves the controller as it is. -/
theorem start_of_not_admits (m : Moment) (baseline : Option FailedReceptionSample)
    (h : ¬c.Admits runId taskActive request scenarioSnapshot) :
    ∃ error, ∀ ids, start { c with packetIds := ids } m runId taskActive request
      scenarioSnapshot baseline = ({ c with packetIds := ids }, .error error) := by
  unfold start
  dsimp only
  by_cases hactive : taskActive = true
  · simp only [if_pos hactive]
    exact ⟨_, fun _ => rfl⟩
  · simp only [if_neg hactive]
    cases hvalid : request.validateRequestNodes (scenarioSnapshot.getD c.scenario).nodeIds
        request.schedulingFlows with
    | error message => exact ⟨_, fun _ => rfl⟩
    | ok =>
        dsimp only
        by_cases hmany : MAX_TRAFFIC_MESSAGES_PER_RUN < request.maximumSequence
        · simp only [if_pos hmany]
          exact ⟨_, fun _ => rfl⟩
        · have hsmall :
              request.payloadBytes < (trafficMarker runId request.maximumSequence).length := by
            by_contra hfits
            exact h ⟨by simpa using hactive, hvalid, Nat.not_lt.mp hmany, Nat.not_lt.mp hfits⟩
          simp only [if_neg hmany, if_pos hsmall]
          exact ⟨_, fun _ => rfl⟩

/-- A start that passes its checks retires the identifiers, and raises or begins a run. -/
theorem start_of_admits (h : c.Admits runId taskActive request scenarioSnapshot) :
    c.start m runId taskActive request scenarioSnapshot baseline =
      match c.packetIds.retire m.now with
      | (left, .error error) => ({ c with packetIds := left }, .error error)
      | (left, .ok ()) =>
          beginRun
            { c.resetFor m (scenarioSnapshot.getD c.scenario) baseline with packetIds := left }
            m runId request (scenarioSnapshot.getD c.scenario)
            (sortedNames (c.missingStatsNodes (scenarioSnapshot.getD c.scenario) baseline)) := by
  obtain ⟨hidle, hvalid, hmany, hsmall⟩ := h
  subst hidle
  unfold start
  dsimp only
  rw [if_neg (by simp), hvalid]
  dsimp only
  rw [if_neg (Nat.not_lt.mpr hmany), if_neg (Nat.not_lt.mpr hsmall)]
  unfold resetAccumulators
  cases c.packetIds.retire m.now with
  | mk left outcome => cases outcome <;> rfl

/-- Once the identifiers are retired a start does not raise, and the run is there. -/
theorem beginRun_ok (c : TrafficController) (m : Moment) (runId : String)
    (request : TrafficRunRequest) (snapshot : Scenario) (missing : List String) :
    ∃ d, c.beginRun m runId request snapshot missing = (d, .ok runId) ∧
      d.frame = { c.frame with
        state := .running
        request := some (runId, request)
        frozen := 0
        phase := .generating } ∧
      d.frozenResults = [] ∧ d.packetIds = c.packetIds ∧ d.accumulators = c.accumulators := by
  obtain ⟨metrics, hmetrics⟩ := c.liveMetricsSnapshot_ok
  unfold beginRun
  rw [hmetrics]
  exact ⟨_, rfl, rfl, rfl, rfl, rfl⟩

/-- Beginning a run keeps the identifiers and looks at none. -/
theorem AsBefore.beginRun (h : AsBefore now c d) (m : Moment) (runId : String)
    (request : TrafficRunRequest) (snapshot : Scenario) (missing : List String) :
    (d.beginRun m runId request snapshot missing).2 =
        (c.beginRun m runId request snapshot missing).2 ∧
      AsBefore now (c.beginRun m runId request snapshot missing).1
        (d.beginRun m runId request snapshot missing).1 := by
  obtain ⟨hfields, hdrops⟩ := h
  obtain ⟨metrics, hmetrics⟩ := c.liveMetricsSnapshot_ok
  have hsame : d.liveMetricsSnapshot = .ok metrics := by
    rw [hfields]
    exact hmetrics
  unfold TrafficController.beginRun
  rw [hmetrics, hsame]
  refine ⟨rfl, ?_, hdrops⟩
  rw [hfields]

/-- A start that raises leaves everything as before exactly when the checks reject it or
the identifiers retire cleanly. -/
theorem start_raises_iff (c : TrafficController) (m : Moment) (runId : String) (taskActive : Bool)
    (request : TrafficRunRequest) (scenarioSnapshot : Option Scenario)
    (baseline : Option FailedReceptionSample) :
    (∀ error, (c.start m runId taskActive request scenarioSnapshot baseline).2 = .error error →
      AsBefore m.now c (c.start m runId taskActive request scenarioSnapshot baseline).1) ↔
    (c.Admits runId taskActive request scenarioSnapshot →
      c.packetIds.RetiresCleanly m.now) := by
  constructor
  · intro hkeeps hadmits
    by_cases hroom : c.packetIds.HasRoom m.now
    · exact Or.inl hroom
    · obtain ⟨error, left, hretire⟩ := PacketIds.retire_raises hroom
      rw [start_of_admits hadmits, hretire] at hkeeps
      have hdrops := (hkeeps _ rfl).packetIds
      exact (PacketIds.dropsExpired_retire_iff hretire).mp hdrops
  · intro hclean error hraised
    by_cases hadmits : c.Admits runId taskActive request scenarioSnapshot
    · rw [start_of_admits hadmits] at hraised ⊢
      split at hraised
      · next left _ hretire =>
          refine ⟨rfl, ?_⟩
          exact (PacketIds.dropsExpired_retire_iff hretire).mpr (hclean hadmits)
      · obtain ⟨d, hbegun, _⟩ := beginRun_ok
          { c.resetFor m (scenarioSnapshot.getD c.scenario) baseline with packetIds := _ } m
          runId request (scenarioSnapshot.getD c.scenario)
          (sortedNames (c.missingStatsNodes (scenarioSnapshot.getD c.scenario) baseline))
        rw [hbegun] at hraised
        cases hraised
    · obtain ⟨_, hsame⟩ := start_of_not_admits m baseline hadmits
      have hstart : c.start m runId taskActive request scenarioSnapshot baseline = (c, _) :=
        hsame c.packetIds
      rw [hstart]
      exact ⟨rfl, .refl _⟩

/-- A start ends the same way whatever expired entries were dropped before, and leaves the
same up to expired entries. -/
theorem AsBefore.start (h : AsBefore now c d) (hlater : now ≤ m.now) :
    (d.start m runId taskActive request scenarioSnapshot baseline).2 =
        (c.start m runId taskActive request scenarioSnapshot baseline).2 ∧
      AsBefore m.now (c.start m runId taskActive request scenarioSnapshot baseline).1
        (d.start m runId taskActive request scenarioSnapshot baseline).1 := by
  obtain ⟨hfields, hdrops⟩ := h
  generalize d.packetIds = ids at hfields hdrops
  subst hfields
  by_cases hadmits : c.Admits runId taskActive request scenarioSnapshot
  · have hadmits' :
        Admits { c with packetIds := ids } runId taskActive request scenarioSnapshot :=
      ⟨hadmits.idle, hadmits.nodes, hadmits.messages, hadmits.payload⟩
    obtain ⟨hsame, hleft⟩ := PacketIds.retire_dropsExpired_both hdrops hlater
    rw [start_of_admits hadmits, start_of_admits hadmits']
    cases hretire : c.packetIds.retire m.now with
    | mk left outcome =>
        cases hretire' : ids.retire m.now with
        | mk left' outcome' =>
            rw [hretire, hretire'] at hsame hleft
            dsimp only at hsame hleft
            subst hsame
            cases outcome' with
            | error error => exact ⟨rfl, rfl, hleft⟩
            | ok => exact AsBefore.beginRun ⟨rfl, hleft⟩ m runId request _ _
  · obtain ⟨_, hsame⟩ := start_of_not_admits m baseline hadmits
    have hstart : c.start m runId taskActive request scenarioSnapshot baseline = (c, _) :=
      hsame c.packetIds
    rw [hstart, hsame ids]
    exact ⟨rfl, rfl, hdrops.mono hlater⟩

end Start

end TrafficController

open TrafficController

/-- A call of `start`: its arguments, and the tasks before it and after it. -/
structure StartCall where
  m : Moment
  runId : String
  request : TrafficRunRequest
  scenarioSnapshot : Option Scenario
  baseline : Option FailedReceptionSample
  before : TrafficTasks
  after : TrafficTasks

namespace StartCall

/-- Whether the call raises, and what. -/
def outcome (call : StartCall) : Except TrafficError String :=
  (call.before.controller.start call.m call.runId (call.before.runTask ≠ .done) call.request
    call.scenarioSnapshot call.baseline).2

/-- When the call raises, the tasks and every field of the controller are as before, up to
entries of the quarantine that have expired, and the next start ends as it would have
without the call. -/
def ChangesNothing (call : StartCall) : Prop :=
  ∀ error, call.outcome = .error error →
    call.after = call.before.withController call.after.controller ∧
    AsBefore call.m.now call.before.controller call.after.controller ∧
    ∀ (m : Moment) (runId : String) (taskActive : Bool) (request : TrafficRunRequest)
      (scenarioSnapshot : Option Scenario) (baseline : Option FailedReceptionSample),
      call.m.now ≤ m.now →
        (call.after.controller.start m runId taskActive request scenarioSnapshot baseline).2 =
          (call.before.controller.start m runId taskActive request scenarioSnapshot
            baseline).2 ∧
        AsBefore m.now
          (call.before.controller.start m runId taskActive request scenarioSnapshot baseline).1
          (call.after.controller.start m runId taskActive request scenarioSnapshot baseline).1

/-- A check before the reset rejects the call, or no source without room comes after one
with identifiers inside their window. -/
def Clean (call : StartCall) : Prop :=
  call.before.controller.Admits call.runId (call.before.runTask ≠ .done) call.request
      call.scenarioSnapshot →
    call.before.controller.packetIds.RetiresCleanly call.m.now

end StartCall

namespace TrafficTasks

variable {s t : TrafficTasks} {calls : List StartCall}

/-- A call of `start` on the tasks. -/
def startCall (s : TrafficTasks) (m : Moment) (runId : String) (request : TrafficRunRequest)
    (scenarioSnapshot : Option Scenario) (baseline : Option FailedReceptionSample) :
    StartCall where
  m := m
  runId := runId
  request := request
  scenarioSnapshot := scenarioSnapshot
  baseline := baseline
  before := s
  after := s.started m runId request scenarioSnapshot baseline

/-- The calls of `start` in a run. -/
def noteStart (calls : List StartCall) (s : TrafficTasks) (a : Action) (_ : TrafficTasks) :
    List StartCall :=
  match a with
  | .start m runId request scenarioSnapshot baseline =>
      calls ++ [s.startCall m runId request scenarioSnapshot baseline]
  | _ => calls

/-- A call changes nothing when it raises exactly when it is clean. -/
theorem startCall_changesNothing (s : TrafficTasks) (m : Moment) (runId : String)
    (request : TrafficRunRequest) (scenarioSnapshot : Option Scenario)
    (baseline : Option FailedReceptionSample) :
    (s.startCall m runId request scenarioSnapshot baseline).ChangesNothing ↔
      (s.startCall m runId request scenarioSnapshot baseline).Clean := by
  have hafter : ∀ error,
      (s.startCall m runId request scenarioSnapshot baseline).outcome = .error error →
        (s.startCall m runId request scenarioSnapshot baseline).after =
          s.withController (s.controller.start m runId (s.runTask ≠ .done) request
            scenarioSnapshot baseline).1 := by
    intro error hraised
    unfold startCall started
    unfold StartCall.outcome startCall at hraised
    dsimp only at hraised ⊢
    split
    · next hstart => rw [hstart]
    · next hstart =>
        rw [hstart] at hraised
        cases hraised
  have hiff := start_raises_iff s.controller m runId (s.runTask ≠ .done) request scenarioSnapshot
    baseline
  constructor
  · intro hnothing
    refine hiff.mp fun error hraised => ?_
    have hbefore := (hnothing error hraised).2.1
    rw [hafter error hraised] at hbefore
    exact hbefore
  · intro hclean error hraised
    have hbefore := hiff.mpr hclean error hraised
    rw [hafter error hraised]
    exact ⟨rfl, hbefore, fun _ _ _ _ _ _ hlater => hbefore.start hlater⟩

section Runs

variable {scenario : Scenario} {hardwareIds : Dict String Nat} {buildMetadata : BuildMetadata}
  {settleSeconds : Option ℚ} {failedReceptionSampler : Bool}

/-- In every run each start changes nothing when it raises exactly when it is clean, and so
does any start of the state reached, even while a call of `stop` is under way. -/
theorem rejected_start_of_run (pb : Protobuf)
    (hrun : Run (recorded (step pb) noteStart) Always
      (.new scenario hardwareIds buildMetadata settleSeconds failedReceptionSampler, [])
      (s, calls)) :
    (∀ call ∈ calls, call.ChangesNothing ↔ call.Clean) ∧
      ∀ m runId request scenarioSnapshot baseline,
        (s.startCall m runId request scenarioSnapshot baseline).ChangesNothing ↔
          (s.startCall m runId request scenarioSnapshot baseline).Clean := by
  refine ⟨?_, startCall_changesNothing s⟩
  refine hrun.invariant (I := fun u => ∀ call ∈ u.2, call.ChangesNothing ↔ call.Clean) ?_ (by simp)
  rintro ⟨u, earlier⟩ a ⟨v, later⟩ hnoted _ hstep
  obtain ⟨_, hrecord⟩ := recorded_eq_some.mp hstep
  dsimp only at hrecord hnoted ⊢
  subst hrecord
  cases a with
  | start m runId request scenarioSnapshot baseline =>
      intro call hcall
      rcases List.mem_append.mp hcall with hearlier | hnew
      · exact hnoted call hearlier
      · rw [List.mem_singleton.mp hnew]
        exact startCall_changesNothing u m runId request scenarioSnapshot baseline
  | _ => exact hnoted

end Runs

/-- Three starts: of an unknown node, of a run, and of another one while it is active. -/
def rejectedStarts : List Action :=
  [.start pairMoment "first" { sourceNodes := ["node-3"] } none none,
    .start pairMoment "second" { sourceNodes := ["node-1"] } none none,
    .start pairMoment "third" { sourceNodes := ["node-1"] } none none]

/-- Two of the starts raise, and change nothing. -/
theorem rejected_starts_change_nothing :
    ∃ s calls, exec (recorded (step pairProtobuf) noteStart) rejectedStarts (pairTasks, []) =
        some (s, calls) ∧
      calls.map (fun call => call.outcome.toBool) = [false, true, false] ∧
      ∀ call ∈ calls, call.ChangesNothing := by
  have hstate : (exec (recorded (step pairProtobuf) noteStart) rejectedStarts
      (pairTasks, [])).map (fun s => (s.2.map fun call => call.outcome.toBool,
        decide (∀ call ∈ s.2, call.before.controller.packetIds.RetiresCleanly call.m.now))) =
      some ([false, true, false], true) := by
    decide +kernel
  obtain ⟨⟨s, calls⟩, hexec, hstate⟩ := Option.map_eq_some_iff.mp hstate
  obtain ⟨houtcomes, hclean⟩ := Prod.mk.inj hstate
  refine ⟨s, calls, hexec, houtcomes, fun call hcall => ?_⟩
  exact ((rejected_start_of_run pairProtobuf
    (.of_exec hexec (conforms_always _ _))).1 call hcall).mpr
      fun _ => (of_decide_eq_true hclean) call hcall

/-! ## Runs that are stopped -/

/-- No run is under way, and no call of `stop` or `fail`. -/
structure Ready (s : TrafficTasks) : Prop where
  sound : Sound s
  task : s.runTask = .done
  isOver : s.callers.all (fun caller => CallerPc.isOver caller.pc) = true
  hardware : s.controller.hardwareIds = pairTasks.controller.hardwareIds
  sampler : s.controller.failedReceptionSampler = false
  finalized : s.controller.finalizationDone = true

/-- A run waits for its next message, and this many were submitted. -/
structure Generating (s : TrafficTasks) (runId : String) (request : TrafficRunRequest)
    (sequence : Nat) : Prop where
  sound : Sound s
  task : s.runTask = .sleeping
  uncancelled : s.cancelRequested = false
  callers : s.callers = []
  opened : s.controller.frozenResults = []
  request : s.controller.frame.request = some (runId, request)
  state : s.controller.state = .running
  hardware : s.controller.hardwareIds = pairTasks.controller.hardwareIds
  sampler : s.controller.failedReceptionSampler = false
  finalized : s.controller.finalizationDone = true
  sequence : s.controller.accumulators.sequence = sequence

variable {runId : String} {request : TrafficRunRequest} {sequence : Nat} {m : Moment}

/-- A run starts when the identifiers of the last one can be retired. -/
theorem Ready.begin (pb : Protobuf) (h : Ready s) {left : PacketIds}
    (hadmits : s.controller.Admits runId false request (some pairScenario))
    (hretire : s.controller.packetIds.retire m.now = (left, .ok ())) :
    ∃ t, Run (step pb) Always s t ∧ Generating t runId request 0 ∧
      t.controller.packetIds = left := by
  obtain ⟨d, hbegun, hframe, hopened, hids, hcounts⟩ := beginRun_ok
    { s.controller.resetFor m pairScenario none with packetIds := left } m runId request
    pairScenario (sortedNames (s.controller.missingStatsNodes pairScenario none))
  have hstart : s.controller.start m runId (s.runTask ≠ .done) request (some pairScenario) none =
      (d, .ok runId) := by
    rw [show decide (s.runTask ≠ .done) = false by simp [h.task], start_of_admits hadmits, hretire]
    exact hbegun
  have hfirst : step pb s (.start m runId request (some pairScenario) none) =
      some { controller := d, runTask := .scheduled } := by
    unfold step started
    dsimp only
    rw [if_pos h.isOver, hstart]
  have hsecond : step pb { controller := d, runTask := .scheduled } (.run m .begun) =
      some { controller := d, runTask := .sleeping } := rfl
  refine ⟨_, .snoc (.snoc (.refl s) trivial hfirst) trivial hsecond, ?_, hids⟩
  exact
    { sound := (h.sound.step pb hfirst).step pb hsecond
      task := rfl
      uncancelled := rfl
      callers := rfl
      opened := hopened
      request := congrArg Frame.request hframe
      state := congrArg Frame.state hframe
      hardware := (congrArg Frame.hardwareIds hframe).trans h.hardware
      sampler := (congrArg Frame.failedReceptionSampler hframe).trans h.sampler
      finalized := (congrArg Frame.finalizationDone hframe).trans h.finalized
      sequence := congrArg Accumulators.sequence hcounts }

/-- A broadcast is submitted when its marker fits and its identifier is fresh. -/
theorem submit_broadcast (pb : Protobuf) {c : TrafficController} {source : String}
    (flowName : String) {draws : List Nat} {packetId hardwareId : Nat} {ids : PacketIds}
    {run : TrafficRunResult}
    (hcurrent : c.current = some run)
    (hfits : (trafficMarker run.runId (c.accumulators.sequence + 1)).utf8ByteSize ≤
      run.request.payloadBytes)
    (hallocate : c.packetIds.allocate source m.now draws = some (packetId, ids))
    (hhardware : c.hardwareIds.get? source = some hardwareId) :
    ∃ d sent, c.submit pb m source "broadcast" draws flowName = some (d, .ok (some sent)) := by
  unfold submit
  rw [hcurrent]
  dsimp only
  rw [if_neg (Nat.not_lt.mpr hfits)]
  rw [show (c.modifyAccumulators (·.nextSequence)).packetIds = c.packetIds from rfl, hallocate]
  dsimp only
  rw [if_pos rfl]
  rw [show (c.modifyAccumulators (·.nextSequence)).hardwareIds = c.hardwareIds from rfl,
    hhardware]
  exact ⟨_, _, rfl⟩

/-- The run sends its next message. -/
theorem Generating.send (pb : Protobuf) (h : Generating s runId request sequence)
    (flow hardwareId : Nat) {entry : TrafficFlow} {source : String} {draws : List Nat}
    {packetId : Nat} {ids : PacketIds} (hkind : request.kind = .broadcastText)
    (hflow : request.schedulingFlows[flow]? = some entry)
    (hsource : entry.sourceNodes[0]? = some source)
    (hfits : (trafficMarker runId (sequence + 1)).utf8ByteSize ≤ request.payloadBytes)
    (hknown : pairTasks.controller.hardwareIds.get? source = some hardwareId)
    (hallocate : s.controller.packetIds.allocate source m.now draws = some (packetId, ids)) :
    ∃ t, Run (step pb) Always s t ∧ Generating t runId request (sequence + 1) ∧
      t.controller.packetIds = ids := by
  have hrequest := h.request
  unfold TrafficController.frame at hrequest
  obtain ⟨run, hrun, hnamed⟩ := Option.map_eq_some_iff.mp hrequest
  obtain ⟨rfl, rfl⟩ := Prod.mk.inj hnamed
  have hcurrent : s.controller.current = some run := (current_of_open h.opened).trans hrun
  obtain ⟨d, sent, hsubmit⟩ := submit_broadcast pb (m := m) entry.name hcurrent
    (by rw [h.sequence]; exact hfits) hallocate (by rw [h.hardware]; exact hknown)
  have hbooks : Books False s.controller d := (books_submit h.opened hsubmit False.elim).1
  have hallocation : s.controller.submitAllocation m source draws = some (packetId, ids) := by
    unfold submitAllocation
    rw [hcurrent]
    dsimp only
    rw [h.sequence, if_neg (Nat.not_lt.mpr hfits), hallocate]
  have hids : d.packetIds = ids := by
    rcases packetIds_submitted (submitted_submit h.opened hsubmit) with
      ⟨hnone, _⟩ | ⟨_, hsome⟩
    · rw [hallocation] at hnone
      cases hnone
    · rw [hallocation] at hsome
      cases hsome
      rfl
  have hfirst : step pb s (.run m (.submit flow 0 0 draws)) =
      some { s with controller := d, runTask := .sending source sent.1 } := by
    unfold step
    dsimp only
    rw [h.uncancelled, h.task]
    unfold resumeRun runSubmit
    simp [hcurrent, hflow, hsource, chooseDestination, hkind, hsubmit, h.uncancelled]
  have hsecond : step pb { s with controller := d, runTask := .sending source sent.1 }
      (.run m (.sent none false)) = some { s with controller := d, runTask := .sleeping } := by
    unfold step
    dsimp only
    rw [h.uncancelled]
    rfl
  refine ⟨_, .snoc (.snoc (.refl s) trivial hfirst) trivial hsecond, ?_, hids⟩
  exact
    { sound := (h.sound.step pb hfirst).step pb hsecond
      task := rfl
      uncancelled := h.uncancelled
      callers := h.callers
      opened := opened_of_frame hbooks.frame h.opened
      request := (congrArg Frame.request hbooks.frame).trans h.request
      state := (congrArg Frame.state hbooks.frame).trans h.state
      hardware := (congrArg Frame.hardwareIds hbooks.frame).trans h.hardware
      sampler := (congrArg Frame.failedReceptionSampler hbooks.frame).trans h.sampler
      finalized := (congrArg Frame.finalizationDone hbooks.frame).trans h.finalized
      sequence := by
        have hcounted := congrArg Evidence.sequence (evidence_submit hcurrent hsubmit)
        exact hcounted.trans (congrArg (· + 1) h.sequence) }

/-- A call of `stop` cancels the run task. -/
theorem Generating.cancel (pb : Protobuf) (h : Generating s runId request sequence)
    (m : Moment) :
    ∃ t, Run (step pb) Always s t ∧ t.runTask = .done ∧
      t.callers = [{ kind := .stop, pc := .cancelling false }] ∧
      t.controller = { s.controller with state := .stopping } := by
  have hcalled : step pb s (.call m .stop) =
      some { s with
        controller := { s.controller with state := .stopping }
        cancelRequested := true
        callers := [{ kind := .stop, pc := .cancelling false }] } := by
    unfold step
    dsimp only
    unfold enterCall frozenResult
    simp [h.opened, h.finalized, h.callers, h.task, h.state, afterWait, cancelRunTask]
  have hcancelled : step pb
      { s with
        controller := { s.controller with state := .stopping }
        cancelRequested := true
        callers := [{ kind := .stop, pc := .cancelling false }] } .cancelled =
      some { s with
        controller := { s.controller with state := .stopping }
        cancelRequested := true
        callers := [{ kind := .stop, pc := .cancelling false }]
        runTask := .done } := by
    unfold step cancelled
    simp [h.task]
  exact ⟨_, .snoc (.snoc (.refl s) trivial hcalled) trivial hcancelled, rfl, rfl, rfl⟩

/-- The run is stopped: its result is frozen and persisted. -/
theorem Generating.stop (pb : Protobuf) (h : Generating s runId request sequence) (m : Moment) :
    ∃ t, Run (step pb) Always s t ∧ Ready t ∧ t.controller.packetIds = s.controller.packetIds := by
  obtain ⟨u, hrun, htask, hcallers, hcontroller⟩ := h.cancel pb m
  have hsound : Sound u := hrun.invariant (fun _ _ _ h _ hstep => h.step pb hstep) h.sound
  have hopened : u.controller.frozenResults = [] := by
    rw [hcontroller]
    exact h.opened
  -- The firmware queue is given up, and the finalization begins.
  have hbooks : Books False u.controller (u.controller.finalizePendingSubmissions m) :=
    books_finalizePendingSubmissions hopened m
  generalize hpending : u.controller.finalizePendingSubmissions m = c at hbooks
  have hcopened := opened_of_frame hbooks.frame hopened
  have hframe : c.frame = { s.controller.frame with state := .stopping } := by
    rw [hbooks.frame, hcontroller]
    rfl
  have hnamed : c.frame.request = some (runId, request) := by
    rw [hframe]
    exact h.request
  have hcurrent : c.current ≠ none := by
    rw [current_of_open hcopened]
    intro hnone
    unfold TrafficController.frame at hnamed
    rw [hnone] at hnamed
    cases hnamed
  have hbegun : step pb u (.resume 0 m .runTaskDone) =
      some { u with
        controller := c.beginFinalization m
        callers := [{ kind := .stop, pc := .finishing .cancelled (.computing 0) }] } := by
    have hsampler : c.failedReceptionSampler = false :=
      (congrArg Frame.failedReceptionSampler hframe).trans h.sampler
    have hstate : c.state = .stopping := congrArg Frame.state hframe
    have hdone : c.finalizationDone = true :=
      (congrArg Frame.finalizationDone hframe).trans h.finalized
    unfold step
    simp [hcallers, htask, resumeCall, afterCancel, hpending, hsampler, afterSampling,
      frozenResult, hcopened, hstate, enterFinish, hcurrent, hdone, proceedFinish, callerAfter]
  have hsound' := hsound.step pb hbegun
  have hbooks' : Books False { c with finalizationDone := false, phase := .finalizing }
      (c.beginFinalization m) :=
    books_finalizePendingSubmissions
      (c := { c with finalizationDone := false, phase := .finalizing }) hcopened m
  have hframe' : (c.beginFinalization m).frame = { s.controller.frame with
      state := .stopping
      finalizationDone := false
      phase := .finalizing } := by
    rw [hbooks'.frame]
    exact congrArg (fun frame => { frame with finalizationDone := false, phase := .finalizing })
      hframe
  have hids : (c.beginFinalization m).packetIds = s.controller.packetIds := by
    have hsame : u.controller.packetIds = s.controller.packetIds := by rw [hcontroller]
    have hpended : Does Watch.NoDeed u.controller (u.controller.finalizePendingSubmissions m) :=
      does_finalizePendingSubmissions u.controller m
    have hbegan : Does Watch.NoDeed c (c.beginFinalization m) := does_beginFinalization c m
    rw [hpending] at hpended
    exact hbegan.sameKeys_of_none.packetIds.trans
      (hpended.sameKeys_of_none.packetIds.trans hsame)
  generalize c.beginFinalization m = d at hbegun hsound' hframe' hids
  -- The metrics can be computed, and the captured result is the run.
  obtain ⟨metrics, hmetrics⟩ := finalMetrics_ok hsound'.structured.controlled.agreement
  have hnamed' : d.frame.request = some (runId, request) := by
    rw [hframe']
    exact h.request
  unfold TrafficController.frame at hnamed'
  obtain ⟨run, hcaptured, _⟩ := Option.map_eq_some_iff.mp hnamed'
  have hcomputed : step pb { u with
        controller := d
        callers := [{ kind := .stop, pc := .finishing .cancelled (.computing 0) }] }
      (.resume 0 m (.finish .computed)) =
      some { u with
        controller := d.publishMetricUpdate m (summaryValues metrics.toMetricsSummary) "snapshot"
        persistCalls := d.terminalResult run .cancelled metrics m.wallClock :: u.persistCalls
        callers := [{
          kind := .stop
          pc := .finishing .cancelled
            (.persisting (d.terminalResult run .cancelled metrics m.wallClock)) }] } := by
    unfold step
    simp [resumeCall, resumeFinish, hmetrics, capturedResult, hcaptured, callerAfter]
  generalize d.terminalResult run .cancelled metrics m.wallClock = terminal at hcomputed
  have hpersisted : step pb { u with
        controller := d.publishMetricUpdate m (summaryValues metrics.toMetricsSummary) "snapshot"
        persistCalls := terminal :: u.persistCalls
        callers := [{ kind := .stop, pc := .finishing .cancelled (.persisting terminal) }] }
      (.resume 0 m (.finish .persisted)) =
      some { u with
        controller := (d.publishMetricUpdate m (summaryValues metrics.toMetricsSummary)
          "snapshot").freeze terminal
        persistCalls := terminal :: u.persistCalls
        exported := some terminal
        callers := [{ kind := .stop, pc := .returned true }] } := by
    unfold step
    simp [resumeCall, resumeFinish, completeFinish, wake, htask, callerAfter, RunPc.wake]
  have hpublished : ∀ values, (d.publishMetricUpdate m values "snapshot").frame = d.frame ∧
      (d.publishMetricUpdate m values "snapshot").packetIds = d.packetIds := by
    intro values
    unfold publishMetricUpdate
    split
    · exact ⟨rfl, rfl⟩
    · split <;> exact ⟨rfl, rfl⟩
  obtain ⟨hpubframe, hpubids⟩ := hpublished (summaryValues metrics.toMetricsSummary)
  refine ⟨_, .snoc (.snoc (.snoc hrun trivial hbegun) trivial hcomputed) trivial hpersisted, ?_,
    hpubids.trans hids⟩
  exact
    { sound := (hsound'.step pb hcomputed).step pb hpersisted
      task := htask
      isOver := rfl
      hardware := (congrArg Frame.hardwareIds (hpubframe.trans hframe')).trans h.hardware
      sampler := (congrArg Frame.failedReceptionSampler (hpubframe.trans hframe')).trans h.sampler
      finalized := rfl }

/-! ## A quarantine without room -/

section Pair

/-- At once one message on each of ten flows of the second node, and then sixty a minute. -/
def burstRequest : TrafficRunRequest where
  payloadBytes := 200
  durationSeconds := 60
  flows := (List.range 10).map fun i =>
    { name := s!"flow-{i}", sourceNodes := ["node-2"], messagesPerMinute := 60 }

/-- A message of the first node, and then one of the second. -/
def openingRequest : TrafficRunRequest where
  payloadBytes := 200
  flows :=
    [{ name := "opening", sourceNodes := ["node-1"] },
      { name := "second", sourceNodes := ["node-2"] }]

example : burstRequest.WellFormed ∧ openingRequest.WellFormed := by decide +kernel

/-- A number as a run id. -/
theorem plainRunId_toString (n : Nat) : PlainRunId (toString n) := by
  intro c hc
  have hdigit : c.isDigit = true :=
    Nat.isDigit_of_mem_toDigits (b := 10) (n := n) (by decide) (by decide)
      (by simpa [Nat.repr_eq_ofList_toDigits] using hc)
  have hrange := Char.isDigit_iff_toNat.mp hdigit
  have hnine : '9'.toNat = 57 := rfl
  refine ⟨by omega, ?_⟩
  rintro rfl
  cases hdigit

/-- The markers of a run whose id is a short number are short. -/
theorem length_trafficMarker_toString {n sequence : Nat} (hn : n < 10000)
    (hsequence : sequence ≤ 600) : (trafficMarker (toString n) sequence).length ≤ 200 := by
  refine (trafficMarker_length_mono _ hsequence).trans ?_
  have hlength : n.repr.length ≤ 4 := (Nat.length_repr_le_iff (by decide)).mpr hn
  unfold trafficMarker
  simp only [String.length_append]
  have hprefix : (toString TRAFFIC_PREFIX).length = 3 := by decide +kernel
  have hlast : (toString 600).length = 3 := by decide +kernel
  have hcolon : (toString ":").length = 1 := by decide +kernel
  have hrunId : (toString (toString n)).length ≤ 4 := hlength
  omega

/-- The start of a run whose id is a number passes its checks. -/
theorem admits_numbered {s : TrafficTasks} {request : TrafficRunRequest} {n : Nat} (hn : n < 10000)
    (hrequest : request = burstRequest ∨ request = openingRequest) :
    s.controller.Admits (toString n) false request (some pairScenario) := by
  have hburst : burstRequest.validateRequestNodes pairScenario.nodeIds
      burstRequest.schedulingFlows = .ok () := by decide +kernel
  have hopening : openingRequest.validateRequestNodes pairScenario.nodeIds
      openingRequest.schedulingFlows = .ok () := by decide +kernel
  rcases hrequest with rfl | rfl
  · exact ⟨rfl, hburst, by decide +kernel,
      length_trafficMarker_toString hn (by decide +kernel)⟩
  · exact ⟨rfl, hopening, by decide +kernel,
      length_trafficMarker_toString hn (by decide +kernel)⟩

/-- The messages of a burst. -/
theorem Generating.burst (h : Generating s runId burstRequest 0) {bound shelved : Nat}
    (hstock : PacketIds.Stocked s.controller.packetIds "node-2" 299 bound shelved 0)
    (hrunId : PlainRunId runId) (hadmits : (trafficMarker runId 600).length ≤ 200)
    (hearly : 0 ≤ m.now) (hlate : m.now ≤ 299) {n : Nat} (hn : n ≤ 10) :
    ∃ t, Run (step pairProtobuf) Always s t ∧ Generating t runId burstRequest n ∧
      PacketIds.Stocked t.controller.packetIds "node-2" 299 (bound + n) shelved n := by
  induction n with
  | zero => exact ⟨s, .refl s, h, hstock⟩
  | succ n ih =>
      obtain ⟨t, hrun, hgenerating, hheld⟩ := ih (by omega)
      obtain ⟨ids, hallocate, hmore⟩ := hheld.allocate hlate (by
        unfold PACKET_ID_QUARANTINE_SECONDS
        linarith)
      have hfits : (trafficMarker runId (n + 1)).utf8ByteSize ≤ burstRequest.payloadBytes := by
        rw [hrunId.markerSize]
        exact (trafficMarker_length_mono runId (by omega)).trans hadmits
      have hflow : burstRequest.schedulingFlows[n]? =
          some { name := s!"flow-{n}", sourceNodes := ["node-2"], messagesPerMinute := 60 } := by
        change ((List.range 10).map fun i =>
          ({ name := s!"flow-{i}", sourceNodes := ["node-2"], messagesPerMinute := 60 } :
            TrafficFlow))[n]? = _
        rw [List.getElem?_map, List.getElem?_range (by omega)]
        rfl
      obtain ⟨u, hsent, hnext, hids⟩ := hgenerating.send pairProtobuf _ 2 rfl hflow
        rfl hfits (by decide +kernel) hallocate
      exact ⟨u, hrun.trans hsent, hnext, hids ▸ hmore⟩

/-- After so many bursts nothing has expired. -/
theorem bursts {n : Nat} (hn : n ≤ 3600) :
    ∃ s shelved reserved, Run (step pairProtobuf) Always pairTasks s ∧ Ready s ∧
      shelved + reserved = 10 * n ∧
      PacketIds.Stocked s.controller.packetIds "node-2" 299 (10 * n + 1) shelved reserved := by
  induction n with
  | zero =>
      refine ⟨pairTasks, 0, 0, .refl _, ?_, rfl, ?_⟩
      · exact ⟨(exact_new _ _ _ _ _).toSound, rfl, rfl, rfl, rfl, rfl⟩
      · exact ⟨rfl, rfl, fun _ hentry => absurd hentry List.not_mem_nil, rfl,
          fun _ hentry => absurd hentry List.not_mem_nil,
          fun _ hmember => absurd hmember (Finset.notMem_empty _), fun _ _ => ⟨rfl, rfl⟩⟩
  | succ n ih =>
      obtain ⟨s, shelved, reserved, hrun, hready, htotal, hstock⟩ := ih (by omega)
      have hearly : (0 : ℚ) ≤ (pairMomentAt (n / 20)).now := by
        change (0 : ℚ) ≤ n / 20
        positivity
      have hlate : (pairMomentAt (n / 20)).now ≤ 299 := by
        change (n : ℚ) / 20 ≤ 299
        have hbound : (n : ℚ) ≤ 3600 := by exact_mod_cast (by omega : n ≤ 3600)
        linarith
      obtain ⟨left, hretire, hshelved⟩ := hstock.retire _ hlate (by
        unfold MAX_QUARANTINED_PACKET_IDS_PER_SOURCE
        omega)
      obtain ⟨t, hbegun, hgenerating, hids⟩ := hready.begin pairProtobuf
        (admits_numbered (n := n) (by omega) (Or.inl rfl)) hretire
      obtain ⟨u, hburst, hgenerated, hstock'⟩ := hgenerating.burst (hids ▸ hshelved)
        (plainRunId_toString n) (length_trafficMarker_toString (by omega) le_rfl) hearly hlate
        (Nat.le_refl 10)
      obtain ⟨v, hstopped, hready', hsame⟩ := hgenerated.stop pairProtobuf (pairMomentAt (n / 20))
      refine ⟨v, shelved + reserved, 10,
        ((hrun.trans hbegun).trans hburst).trans hstopped, hready', by omega, ?_⟩
      rw [hsame]
      exact hstock'

/-- After 3600 bursts in three minutes and a run with one message of each node, a start
raises with the identifier of the first node in quarantine and still reserved. -/
theorem rejected_start_moves_identifiers :
    ∃ s, Run (step pairProtobuf) Always pairTasks s ∧
      ¬(s.startCall (pairMomentAt 182) (toString 3601) openingRequest (some pairScenario)
        none).ChangesNothing := by
  obtain ⟨s, shelved, reserved, hrun, hready, htotal, hstock⟩ := bursts (Nat.le_refl 3600)
  obtain ⟨left, hretire, hshelved⟩ := hstock.retire (pairMomentAt 181).now
    (by decide +kernel) (by
      unfold MAX_QUARANTINED_PACKET_IDS_PER_SOURCE
      omega)
  obtain ⟨t, hbegun, hgenerating, hids⟩ := hready.begin pairProtobuf
    (admits_numbered (n := 3600) (by decide) (Or.inr rfl)) hretire
  obtain ⟨opened, ids, hopened, hsecond, hblocked⟩ := hshelved.blocked "node-1"
    (pairMomentAt 181).now (pairMomentAt 182).now (by decide) 7
    (by decide +kernel) (by decide +kernel) (by decide +kernel) htotal
  have hplain := plainRunId_toString 3600
  have hfits : ∀ n ≤ 600, (trafficMarker (toString 3600) n).utf8ByteSize ≤ 200 := by
    intro n hn
    rw [hplain.markerSize]
    exact length_trafficMarker_toString (by decide) hn
  obtain ⟨u, hfirst, hgenerated, hids'⟩ := hgenerating.send pairProtobuf
    0 1 rfl rfl rfl (hfits 1 (by decide)) (by decide +kernel) (hids ▸ hopened)
  obtain ⟨v, hlast, hgenerated', hids''⟩ := hgenerated.send pairProtobuf
    1 2 rfl rfl rfl (hfits 2 (by decide)) (by decide +kernel) (hids' ▸ hsecond)
  obtain ⟨w, hstopped, hready', hsame⟩ := hgenerated'.stop pairProtobuf (pairMomentAt 181)
  refine ⟨w, (((hrun.trans hbegun).trans hfirst).trans hlast).trans hstopped, fun hnothing => ?_⟩
  have hclean := (startCall_changesNothing _ _ _ _ _ _).mp hnothing
  refine hblocked ?_
  rw [← hids'', ← hsame]
  have hadmits := admits_numbered (s := w) (n := 3601) (by decide) (Or.inr rfl)
  exact hclean ⟨by simp [startCall, hready'.task], hadmits.nodes, hadmits.messages,
    hadmits.payload⟩

end Pair

end TrafficTasks

end MeshtasticLab.Traffic

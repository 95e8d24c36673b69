/-
  Frontend/EventCache.lean --- the packet events that the interface keeps.

  Embeds `mergeEvents`, `acceptEvents` and `clearEventEvidence` of
  `frontend/src/App.tsx`, over the events of `Metrics/Events.lean`.

  WHAT THIS FILE IS FOR

  Events reach the page in pages of the replayed history and one by one over the
  socket, in any interleaving and some of them twice.  Every batch is merged into
  the cache, which is then sorted and cut to its last five hundred events.  Notices
  have no sequence; they sort before every event, so that a cut drops them first.
-/
import MeshtasticLab.Foundation.Dict
import MeshtasticLab.Foundation.Largest
import MeshtasticLab.Metrics.Events

set_option autoImplicit false

namespace MeshtasticLab.Frontend

open MeshtasticLab.Foundation MeshtasticLab.Metrics

/-! ## Merging -/

/-- The loop of `mergeEvents`: `sequenced` and `unsequenced` after its last event. -/
def siftEvents (events : List PacketEvent) : Dict ℕ PacketEvent × List PacketEvent :=
  events.foldl
    (fun sifted event =>
      if event.sequence > 0 then (sifted.1.set event.sequence event, sifted.2)
      else (sifted.1, sifted.2 ++ [event]))
    (∅, [])

/-- What `mergeEvents` sorts and cuts. -/
def siftedEvents (events : List PacketEvent) : List PacketEvent :=
  (siftEvents events).2 ++ (siftEvents events).1.items.map Prod.snd

/-- `sort((left, right) => left.sequence - right.sequence)`, which is stable. -/
def sortEvents (events : List PacketEvent) : List PacketEvent :=
  events.mergeSort fun left right => (left.sequence : ℤ) - right.sequence ≤ 0

/-- `mergeEvents`. -/
def mergeEvents (current incoming : List PacketEvent) : List PacketEvent :=
  (sortEvents (siftedEvents (current ++ incoming))).rtake 500

/-- What the page keeps of the event stream. -/
structure EventEvidence where
  events : List PacketEvent := []
  eventStreamId : Option String := none
  latestEventSequence : ℕ := 0
  eventEvidenceGeneration : ℕ := 0
  deriving DecidableEq

namespace EventEvidence

/-- `acceptEvents`. -/
def acceptEvents (page : EventEvidence) (incoming : List PacketEvent)
    (streamId : Option String := none) : EventEvidence :=
  match streamId.or (incoming.head?.map (·.streamId)) with
  | none => page
  | some incomingStreamId =>
      if incomingStreamId = "" then page
      else
        let streamChanged :=
          page.eventStreamId ≠ none ∧ page.eventStreamId ≠ some incomingStreamId
        let matchingEvents := incoming.filter fun event => event.streamId = incomingStreamId
        { page with
          events := mergeEvents (if streamChanged then [] else page.events) matchingEvents
          eventStreamId := some incomingStreamId
          latestEventSequence :=
            matchingEvents.foldl (fun latest event => max latest event.sequence)
              (if streamChanged then 0 else page.latestEventSequence) }

/-- `clearEventEvidence`. -/
def clearEventEvidence (page : EventEvidence) (streamId : Option String := none) :
    EventEvidence :=
  { events := []
    eventStreamId := streamId
    latestEventSequence := 0
    eventEvidenceGeneration := page.eventEvidenceGeneration + 1 }

end EventEvidence

/-! ## What is merged -/

/-- The events of a list that have a sequence. -/
def sequencedEvents (events : List PacketEvent) : List PacketEvent :=
  events.filter fun event => event.sequence > 0

theorem mem_sequencedEvents {events : List PacketEvent} {event : PacketEvent} :
    event ∈ sequencedEvents events ↔ event ∈ events ∧ event.sequence > 0 := by
  unfold sequencedEvents
  rw [List.mem_filter, decide_eq_true_iff]

theorem siftEvents_snoc (events : List PacketEvent) (event : PacketEvent) :
    siftEvents (events ++ [event]) =
      if event.sequence > 0 then
        ((siftEvents events).1.set event.sequence event, (siftEvents events).2)
      else ((siftEvents events).1, (siftEvents events).2 ++ [event]) := by
  unfold siftEvents
  rw [List.foldl_append]
  rfl

/-- The loop keeps events that have a sequence under it. -/
theorem of_mem_siftEvents {events : List PacketEvent} {item : ℕ × PacketEvent}
    (hitem : item ∈ (siftEvents events).1.items) :
    item.1 = item.2.sequence ∧ item.2 ∈ events ∧ item.2.sequence > 0 := by
  induction events using List.reverseRecOn with
  | nil => cases hitem
  | append_singleton events event ih =>
      rw [siftEvents_snoc] at hitem
      split at hitem
      · next hsequenced =>
          rcases Dict.mem_items_set.mp hitem with rfl | ⟨_, hold⟩
          · exact ⟨rfl, List.mem_append_right _ List.mem_cons_self, hsequenced⟩
          · obtain ⟨hkey, hmember, hpositive⟩ := ih hold
            exact ⟨hkey, List.mem_append_left _ hmember, hpositive⟩
      · obtain ⟨hkey, hmember, hpositive⟩ := ih hitem
        exact ⟨hkey, List.mem_append_left _ hmember, hpositive⟩

/-- The loop loses no sequence. -/
theorem siftEvents_contains {events : List PacketEvent} {event : PacketEvent}
    (hmember : event ∈ events) (hsequenced : event.sequence > 0) :
    (siftEvents events).1.contains event.sequence = true := by
  induction events using List.reverseRecOn with
  | nil => cases hmember
  | append_singleton events last ih =>
      rw [siftEvents_snoc]
      rcases List.mem_append.mp hmember with hold | hlast
      · split
        · exact (Dict.contains_set _ _ _ _).mpr (Or.inr (ih hold))
        · exact ih hold
      · rw [List.mem_singleton.mp hlast] at hsequenced ⊢
        rw [if_pos hsequenced]
        exact (Dict.contains_set _ _ _ _).mpr (Or.inl rfl)

/-- The notices that the loop keeps have no sequence. -/
theorem of_mem_unsequenced {events : List PacketEvent} {event : PacketEvent}
    (hmember : event ∈ (siftEvents events).2) : event ∈ events ∧ ¬event.sequence > 0 := by
  induction events using List.reverseRecOn with
  | nil => cases hmember
  | append_singleton events last ih =>
      rw [siftEvents_snoc] at hmember
      split at hmember
      · obtain ⟨hold, hnotice⟩ := ih hmember
        exact ⟨List.mem_append_left _ hold, hnotice⟩
      · next hnotice =>
          rcases List.mem_append.mp hmember with hold | hlast
          · obtain ⟨hold, hnotice⟩ := ih hold
            exact ⟨List.mem_append_left _ hold, hnotice⟩
          · rw [List.mem_singleton.mp hlast]
            exact ⟨List.mem_append_right _ List.mem_cons_self, hnotice⟩

/-- The sequenced events that are merged are the values of the map. -/
theorem sequencedEvents_siftedEvents (events : List PacketEvent) :
    sequencedEvents (siftedEvents events) = (siftEvents events).1.items.map Prod.snd := by
  unfold sequencedEvents siftedEvents
  rw [List.filter_append, List.filter_eq_nil_iff.mpr, List.nil_append, List.filter_eq_self.mpr]
  · intro event hmember
    obtain ⟨item, hitem, rfl⟩ := List.mem_map.mp hmember
    exact decide_eq_true (of_mem_siftEvents hitem).2.2
  · intro event hmember
    rw [decide_eq_true_iff]
    exact (of_mem_unsequenced hmember).2

/-! ## Sorting -/

theorem sortEvents_perm (events : List PacketEvent) : (sortEvents events).Perm events :=
  List.mergeSort_perm events _

theorem sortEvents_sorted (events : List PacketEvent) :
    (sortEvents events).Pairwise fun earlier later => earlier.sequence ≤ later.sequence := by
  have hsorted : (sortEvents events).Pairwise fun left right =>
      decide ((left.sequence : ℤ) - right.sequence ≤ 0) = true := by
    refine List.pairwise_mergeSort ?_ ?_ events
    · simp only [decide_eq_true_eq]
      omega
    · simp only [Bool.or_eq_true, decide_eq_true_eq]
      omega
  refine hsorted.imp fun {earlier later} hle => ?_
  rw [decide_eq_true_iff] at hle
  omega

/-- Sorted, the merged events of a cache have increasing sequences. -/
theorem increasing_sortEvents (events : List PacketEvent) :
    (sequencedEvents (sortEvents (siftedEvents events))).Pairwise
      fun earlier later => earlier.sequence < later.sequence := by
  have hperm : (sequencedEvents (sortEvents (siftedEvents events))).Perm
      ((siftEvents events).1.items.map Prod.snd) := by
    rw [← sequencedEvents_siftedEvents]
    exact (sortEvents_perm _).filter _
  have hkeys : ((siftEvents events).1.items.map Prod.snd).map PacketEvent.sequence =
      (siftEvents events).1.items.map Prod.fst := by
    rw [List.map_map]
    exact List.map_congr_left fun item hitem => (of_mem_siftEvents hitem).1.symm
  have hdistinct : ((sequencedEvents (sortEvents (siftedEvents events))).map
      PacketEvent.sequence).Nodup := by
    rw [(hperm.map _).nodup_iff, hkeys]
    exact (siftEvents events).1.distinct
  have hsorted : (sequencedEvents (sortEvents (siftedEvents events))).Pairwise
      fun earlier later => earlier.sequence ≤ later.sequence :=
    (sortEvents_sorted _).sublist List.filter_sublist
  exact (hsorted.and (List.pairwise_map.mp hdistinct)).imp
    fun {earlier later} hboth => lt_of_le_of_ne hboth.1 hboth.2

/-- The sequenced events of a cache are cut by themselves. -/
theorem sequencedEvents_mergeEvents (current incoming : List PacketEvent) :
    sequencedEvents (mergeEvents current incoming) =
      (sequencedEvents (sortEvents (siftedEvents (current ++ incoming)))).rtake 500 := by
  refine filter_rtake ((sortEvents_sorted _).imp fun {earlier later} hle hpositive => ?_) 500
  rw [decide_eq_true_iff] at hpositive ⊢
  exact lt_of_lt_of_le hpositive hle

/-- Nothing is in the cache that was not merged into it. -/
theorem mem_of_mem_mergeEvents {current incoming : List PacketEvent} {event : PacketEvent}
    (hmember : event ∈ mergeEvents current incoming) : event ∈ current ++ incoming := by
  have hsifted : event ∈ siftedEvents (current ++ incoming) :=
    (sortEvents_perm _).mem_iff.mp (List.mem_of_mem_drop hmember)
  rcases List.mem_append.mp hsifted with hnotice | hvalue
  · exact (of_mem_unsequenced hnotice).1
  · obtain ⟨item, hitem, rfl⟩ := List.mem_map.mp hvalue
    exact (of_mem_siftEvents hitem).2.1

/-! ## The newest events -/

variable {seen : List PacketEvent}

/-- Merging a batch keeps the five hundred newest events of all that were seen. -/
theorem newest_mergeEvents {cache incoming : List PacketEvent}
    (h : Newest 500 PacketEvent.sequence seen (sequencedEvents cache))
    (hkeyed : KeyedBy PacketEvent.sequence (seen ++ sequencedEvents incoming)) :
    Newest 500 PacketEvent.sequence (seen ++ sequencedEvents incoming)
      (sequencedEvents (mergeEvents cache incoming)) := by
  rw [sequencedEvents_mergeEvents]
  refine h.merge hkeyed (increasing_sortEvents _) fun event => ?_
  have hseen : ∀ other ∈ cache ++ incoming, other.sequence > 0 →
      other ∈ seen ++ sequencedEvents incoming := by
    intro other hother hsequenced
    rcases List.mem_append.mp hother with hcache | hincoming
    · exact List.mem_append_left _
        ((h.holds other).mp (mem_sequencedEvents.mpr ⟨hcache, hsequenced⟩)).1
    · exact List.mem_append_right _ (mem_sequencedEvents.mpr ⟨hincoming, hsequenced⟩)
  have hvalues : event ∈ sequencedEvents (sortEvents (siftedEvents (cache ++ incoming))) ↔
      event ∈ (siftEvents (cache ++ incoming)).1.items.map Prod.snd := by
    rw [← sequencedEvents_siftedEvents]
    exact ((sortEvents_perm _).filter _).mem_iff
  have hsplit : event ∈ sequencedEvents cache ∨ event ∈ sequencedEvents incoming ↔
      event ∈ cache ++ incoming ∧ event.sequence > 0 := by
    rw [mem_sequencedEvents, mem_sequencedEvents, List.mem_append]
    tauto
  rw [hvalues, hsplit, List.mem_map]
  constructor
  · rintro ⟨item, hitem, rfl⟩
    exact (of_mem_siftEvents hitem).2
  · rintro ⟨hmember, hsequenced⟩
    -- The map has an event with this sequence, and there is only one.
    obtain ⟨found, hget⟩ := Option.isSome_iff_exists.mp (siftEvents_contains hmember hsequenced)
    have hitem := Dict.get?_eq_some.mp hget
    obtain ⟨hkey, hfound, hpositive⟩ := of_mem_siftEvents hitem
    exact ⟨_, hitem, hkeyed found (hseen found hfound hpositive) event
      (hseen event hmember hsequenced) hkey.symm⟩

/-- Merging batches one after the other keeps the five hundred newest events of all. -/
theorem newest_foldl {cache : List PacketEvent} {batches : List (List PacketEvent)}
    (h : Newest 500 PacketEvent.sequence seen (sequencedEvents cache))
    (hkeyed : KeyedBy PacketEvent.sequence (seen ++ sequencedEvents batches.flatten)) :
    Newest 500 PacketEvent.sequence (seen ++ sequencedEvents batches.flatten)
      (sequencedEvents (batches.foldl mergeEvents cache)) := by
  induction batches generalizing seen cache with
  | nil =>
      rw [List.flatten_nil, show sequencedEvents [] = [] from rfl, List.append_nil]
      exact h
  | cons batch rest ih =>
      have hflatten : seen ++ sequencedEvents (batch :: rest).flatten =
          (seen ++ sequencedEvents batch) ++ sequencedEvents rest.flatten := by
        unfold sequencedEvents
        rw [List.flatten_cons, List.filter_append, List.append_assoc]
      rw [hflatten] at hkeyed ⊢
      rw [List.foldl_cons]
      refine ih (newest_mergeEvents h fun one hone other hother => ?_) hkeyed
      exact hkeyed one (List.mem_append_left _ hone) other (List.mem_append_left _ hother)

/-- Nothing is in the cache that was in no batch. -/
theorem mem_flatten_of_mem_foldl {cache : List PacketEvent} {batches : List (List PacketEvent)}
    {event : PacketEvent} (hmember : event ∈ batches.foldl mergeEvents cache) :
    event ∈ cache ++ batches.flatten := by
  induction batches generalizing cache with
  | nil => exact List.mem_append_left _ hmember
  | cons batch rest ih =>
      rw [List.foldl_cons] at hmember
      rw [List.flatten_cons, ← List.append_assoc]
      rcases List.mem_append.mp (ih hmember) with hmerged | hrest
      · exact List.mem_append_left _ (mem_of_mem_mergeEvents hmerged)
      · exact List.mem_append_right _ hrest

/-- However the events of a collection are split into batches, repeated, ordered and mixed
with notices, the sequenced events of the cache are those with the five hundred largest
sequences, each once and in increasing order; without notices they are all of it. -/
theorem mergeEvents_arrival_order {collection : List PacketEvent}
    (hkeyed : KeyedBy PacketEvent.sequence collection) {batches : List (List PacketEvent)}
    (hbatches : ∀ event, event ∈ collection ↔
      event ∈ batches.flatten ∧ event.sequence > 0) :
    Newest 500 PacketEvent.sequence collection
        (sequencedEvents (batches.foldl mergeEvents [])) ∧
      (∀ others : List (List PacketEvent), (∀ event, event ∈ collection ↔
          event ∈ others.flatten ∧ event.sequence > 0) →
        sequencedEvents (others.foldl mergeEvents []) =
          sequencedEvents (batches.foldl mergeEvents [])) ∧
      ((∀ event ∈ batches.flatten, event.sequence > 0) →
        sequencedEvents (batches.foldl mergeEvents []) = batches.foldl mergeEvents []) := by
  have hnewest : ∀ others : List (List PacketEvent), (∀ event, event ∈ collection ↔
      event ∈ others.flatten ∧ event.sequence > 0) →
        Newest 500 PacketEvent.sequence collection
          (sequencedEvents (others.foldl mergeEvents [])) := by
    intro others hothers
    have hseen : ∀ event, event ∈ [] ++ sequencedEvents others.flatten ↔ event ∈ collection := by
      intro event
      rw [List.nil_append, mem_sequencedEvents, hothers]
    refine (newest_foldl (.nil 500 _) fun one hone other hother => ?_).congr hseen
    exact hkeyed one ((hseen one).mp hone) other ((hseen other).mp hother)
  refine ⟨hnewest batches hbatches, ?_, ?_⟩
  · intro others hothers
    exact (hnewest others hothers).unique (hnewest batches hbatches)
  · intro hsequenced
    refine List.filter_eq_self.mpr fun event hmember => ?_
    exact decide_eq_true (hsequenced event (mem_flatten_of_mem_foldl hmember))

/-- An event of a stream with this sequence; a notice has none. -/
def streamEvent (sequence : ℕ) : PacketEvent :=
  { streamId := "stream", sequence := sequence, monotonicSeconds := 0, eventType := .rxInjected }

/-- An event that comes after a later one and a notice still takes its place. -/
theorem mergeEvents_late_event :
    sequencedEvents ([[streamEvent 2], [streamEvent 0], [streamEvent 1, streamEvent 2]].foldl
      mergeEvents []) = [streamEvent 1, streamEvent 2] := by
  have hboth : Newest 500 PacketEvent.sequence [streamEvent 1, streamEvent 2]
      [streamEvent 1, streamEvent 2] :=
    ⟨by decide, fun event => (and_iff_left_of_imp (by revert event; decide)).symm⟩
  refine Newest.unique (mergeEvents_arrival_order
    (by unfold KeyedBy; decide) ?_).1 hboth
  intro event
  simp only [List.flatten_cons, List.flatten_nil, List.mem_append, List.mem_cons,
    List.not_mem_nil, or_false]
  constructor
  · rintro (rfl | rfl) <;> decide
  · rintro ⟨rfl | rfl | rfl | rfl, hsequenced⟩
    · exact Or.inr rfl
    · exact absurd hsequenced (by decide)
    · exact Or.inl rfl
    · exact Or.inr rfl

/-! ## The page -/

/-- Accepting batches of one stream merges what they have of it, one after the other. -/
theorem events_foldl_acceptEvents {stream : String} (hstream : stream ≠ "")
    (batches : List (List PacketEvent)) {page : EventEvidence}
    (hpage : page.eventStreamId = none ∨ page.eventStreamId = some stream) :
    (batches.foldl (fun page batch => page.acceptEvents batch (some stream)) page).events =
      (batches.map fun batch =>
        batch.filter fun event => event.streamId = stream).foldl mergeEvents page.events := by
  induction batches generalizing page with
  | nil => rfl
  | cons batch rest ih =>
      have hsame : ¬(page.eventStreamId ≠ none ∧ page.eventStreamId ≠ some stream) := by
        rintro ⟨hnone, hother⟩
        exact hpage.elim hnone hother
      have haccept : (page.acceptEvents batch (some stream)).eventStreamId = some stream ∧
          (page.acceptEvents batch (some stream)).events = mergeEvents page.events
            (batch.filter fun event => event.streamId = stream) := by
        unfold EventEvidence.acceptEvents
        simp only [Option.some_or, if_neg hstream, hsame, if_false, and_self]
      rw [List.foldl_cons, ih (Or.inr haccept.1), haccept.2, List.map_cons, List.foldl_cons]

end MeshtasticLab.Frontend

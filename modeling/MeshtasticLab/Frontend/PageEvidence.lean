/-
  Frontend/PageEvidence.lean --- what a page shows of the published events.

  Events are accepted in two phases: the page turns to their stream, which drops what it
  has of another one, and merges them.  What a page shows was published in its stream
  (`Shows`), and a merge loses no event that is among the last five hundred.
-/
import MeshtasticLab.Frontend.LivePage
import Mathlib.Order.Interval.Finset.Nat

set_option autoImplicit false

namespace MeshtasticLab.Frontend

open MeshtasticLab.Foundation MeshtasticLab.Metrics

/-! ## The numbers of published events -/

/-- The events of every stream are numbered from one. -/
def Numbered (published : List PacketEvent) : Prop :=
  ∀ streamId, (streamLog published streamId).map (·.sequence) =
    List.range' 1 (streamLog published streamId).length

section Numbered

variable {published : List PacketEvent} {event other : PacketEvent}

theorem mem_streamLog {streamId : String} :
    event ∈ streamLog published streamId ↔ event ∈ published ∧ event.streamId = streamId := by
  simp [streamLog]

theorem streamLog_append (published more : List PacketEvent) (streamId : String) :
    streamLog (published ++ more) streamId =
      streamLog published streamId ++ streamLog more streamId :=
  List.filter_append _ _

/-- A published event has a number of its stream. -/
theorem Numbered.bounds (h : Numbered published) (hmember : event ∈ published) :
    0 < event.sequence ∧ event.sequence ≤ (streamLog published event.streamId).length := by
  have hnumber : event.sequence ∈
      (streamLog published event.streamId).map (·.sequence) :=
    List.mem_map_of_mem (mem_streamLog.mpr ⟨hmember, rfl⟩)
  rw [h, List.mem_range'_1] at hnumber
  omega

/-- A number of a stream is that of one event. -/
theorem Numbered.unique (h : Numbered published) (hevent : event ∈ published)
    (hother : other ∈ published) (hstream : event.streamId = other.streamId)
    (hsequence : event.sequence = other.sequence) : event = other := by
  have hdistinct : ((streamLog published other.streamId).map (·.sequence)).Nodup := by
    rw [h]
    exact List.nodup_range'
  exact List.inj_on_of_nodup_map hdistinct (mem_streamLog.mpr ⟨hevent, hstream⟩)
    (mem_streamLog.mpr ⟨hother, rfl⟩) hsequence

end Numbered

/-! ## The two phases of accepting events -/

namespace EventEvidence

/-- The page turns to a stream. -/
def turnTo (page : EventEvidence) (streamId : String) : EventEvidence :=
  if page.eventStreamId ≠ none ∧ page.eventStreamId ≠ some streamId then
    { page with events := [], eventStreamId := some streamId, latestEventSequence := 0 }
  else { page with eventStreamId := some streamId }

/-- Events of its stream are merged into the page. -/
def merge (page : EventEvidence) (incoming : List PacketEvent) : EventEvidence :=
  { page with
    events := mergeEvents page.events incoming
    latestEventSequence :=
      incoming.foldl (fun latest event => max latest event.sequence) page.latestEventSequence }

@[simp] theorem events_merge (page : EventEvidence) (incoming : List PacketEvent) :
    (page.merge incoming).events = mergeEvents page.events incoming := by
  simp only [merge]

@[simp] theorem eventStreamId_merge (page : EventEvidence) (incoming : List PacketEvent) :
    (page.merge incoming).eventStreamId = page.eventStreamId := by
  simp only [merge]

@[simp] theorem latestEventSequence_merge (page : EventEvidence) (incoming : List PacketEvent) :
    (page.merge incoming).latestEventSequence =
      incoming.foldl (fun latest event => max latest event.sequence)
        page.latestEventSequence := by
  simp only [merge]

theorem acceptEvents_eq (page : EventEvidence) {incoming : List PacketEvent} {streamId : String}
    (hstream : streamId ≠ "") (hincoming : ∀ event ∈ incoming, event.streamId = streamId) :
    page.acceptEvents incoming (some streamId) = (page.turnTo streamId).merge incoming := by
  have hmatching : (incoming.filter fun event => event.streamId = streamId) = incoming :=
    List.filter_eq_self.mpr fun event hmember => decide_eq_true (hincoming event hmember)
  unfold acceptEvents turnTo merge
  simp only [Option.some_or, if_neg hstream, hmatching]
  split <;> rfl

theorem receive_eq (page : EventEvidence) {event : PacketEvent} (hstream : event.streamId ≠ "") :
    page.receive event =
      if isReset event then page.clearEventEvidence (some event.streamId)
      else (page.turnTo event.streamId).merge [event] := by
  unfold receive
  split
  · rfl
  · exact page.acceptEvents_eq hstream (by simp)

end EventEvidence

theorem length_mergeEvents_le (current incoming : List PacketEvent) :
    (mergeEvents current incoming).length ≤ 500 := by
  unfold mergeEvents
  rw [List.rtake, List.length_drop]
  omega

/-- The largest of some numbers and the sequences of events. -/
theorem foldl_max_le {incoming : List PacketEvent} {start bound : ℕ} :
    incoming.foldl (fun latest event => max latest event.sequence) start ≤ bound ↔
      start ≤ bound ∧ ∀ event ∈ incoming, event.sequence ≤ bound := by
  induction incoming generalizing start with
  | nil => simp
  | cons event rest ih =>
      rw [List.foldl_cons, ih, max_le_iff, List.forall_mem_cons]
      tauto

theorem le_foldl_max {incoming : List PacketEvent} {start bound : ℕ} :
    bound ≤ incoming.foldl (fun latest event => max latest event.sequence) start ↔
      bound ≤ start ∨ ∃ event ∈ incoming, bound ≤ event.sequence := by
  induction incoming generalizing start with
  | nil => simp
  | cons event rest ih =>
      rw [List.foldl_cons, ih, le_max_iff, List.exists_mem_cons_iff, or_assoc]

/-! ## What a page shows -/

/-- What a page shows was published in its stream, unless it is a notice, up to its cursor. -/
structure Shows (published : List PacketEvent) (page : EventEvidence) : Prop where
  genuine : ∀ event ∈ page.events, 0 < event.sequence → event ∈ published
  current : ∀ event ∈ page.events, page.eventStreamId = some event.streamId
  behind : ∀ event ∈ page.events, event.sequence ≤ page.latestEventSequence
  increasing : (sequencedEvents page.events).Pairwise
    fun earlier later => earlier.sequence < later.sequence
  short : page.events.length ≤ 500
  unset : page.eventStreamId = none → page.latestEventSequence = 0
  reached : ∀ streamId, page.eventStreamId = some streamId →
    page.latestEventSequence ≤ (streamLog published streamId).length

namespace Shows

variable {published more : List PacketEvent} {page : EventEvidence} {incoming : List PacketEvent}
  {streamId : String}

/-- A page without events. -/
theorem cleared (published : List PacketEvent) (page : EventEvidence) (streamId : Option String) :
    Shows published (page.clearEventEvidence streamId) where
  genuine _ hmember := absurd hmember List.not_mem_nil
  current _ hmember := absurd hmember List.not_mem_nil
  behind _ hmember := absurd hmember List.not_mem_nil
  increasing := List.Pairwise.nil
  short := Nat.zero_le _
  unset _ := rfl
  reached _ _ := Nat.zero_le _

theorem published_append (h : Shows published page) (more : List PacketEvent) :
    Shows (published ++ more) page where
  genuine event hmember hpositive := List.mem_append_left _ (h.genuine event hmember hpositive)
  current := h.current
  behind := h.behind
  increasing := h.increasing
  short := h.short
  unset := h.unset
  reached streamId hstream := by
    rw [streamLog_append, List.length_append]
    exact Nat.le_add_right_of_le (h.reached streamId hstream)

theorem turnTo (h : Shows published page) (streamId : String) :
    Shows published (page.turnTo streamId) ∧
      (page.turnTo streamId).eventStreamId = some streamId := by
  unfold EventEvidence.turnTo
  split
  · exact ⟨⟨by simp, by simp, by simp, List.Pairwise.nil, by simp, by simp, by simp⟩, rfl⟩
  · next hsame =>
      have hcases : page.eventStreamId = none ∨ page.eventStreamId = some streamId := by
        by_cases hnone : page.eventStreamId = none
        · exact Or.inl hnone
        · exact Or.inr (not_not.mp fun hother => hsame ⟨hnone, hother⟩)
      refine ⟨⟨h.genuine, ?_, h.behind, h.increasing, h.short, by simp, ?_⟩, rfl⟩
      · intro event hmember
        rcases hcases with hnone | hsome
        · have hstream := h.current event hmember
          rw [hnone] at hstream
          cases hstream
        · exact hsome.symm.trans (h.current event hmember)
      · intro other hother
        rcases hcases with hnone | hsome
        · exact (h.unset hnone).le.trans (Nat.zero_le _)
        · exact h.reached other (hsome.trans hother)

/-- Merging events of the stream. -/
theorem merge (h : Shows published page) (hnumbered : Numbered published)
    (hpage : page.eventStreamId = some streamId)
    (hstream : ∀ event ∈ incoming, event.streamId = streamId)
    (hgenuine : ∀ event ∈ incoming, 0 < event.sequence → event ∈ published) :
    Shows published (page.merge incoming) := by
  have hsource : ∀ event ∈ (page.merge incoming).events,
      event ∈ page.events ∨ event ∈ incoming := by
    intro event hmember
    rw [EventEvidence.events_merge] at hmember
    exact List.mem_append.mp (mem_of_mem_mergeEvents hmember)
  have hlatest := foldl_max_le.mp (le_refl (incoming.foldl
    (fun latest event => max latest event.sequence) page.latestEventSequence))
  constructor
  case genuine =>
    intro event hmember hpositive
    exact (hsource event hmember).elim (fun hold => h.genuine event hold hpositive)
      (fun hnew => hgenuine event hnew hpositive)
  case current =>
    intro event hmember
    rw [EventEvidence.eventStreamId_merge]
    exact (hsource event hmember).elim (h.current event) fun hnew => by
      rw [hstream event hnew]
      exact hpage
  case behind =>
    intro event hmember
    rw [EventEvidence.latestEventSequence_merge]
    exact (hsource event hmember).elim (fun hold => (h.behind event hold).trans hlatest.1)
      (hlatest.2 event)
  case increasing =>
    rw [EventEvidence.events_merge, sequencedEvents_mergeEvents]
    exact (increasing_sortEvents _).sublist (List.drop_sublist _ _)
  case short =>
    rw [EventEvidence.events_merge]
    exact length_mergeEvents_le _ _
  case unset =>
    intro hnone
    rw [EventEvidence.eventStreamId_merge, hpage] at hnone
    cases hnone
  case reached =>
    intro other hother
    rw [EventEvidence.eventStreamId_merge, hpage] at hother
    cases hother
    rw [EventEvidence.latestEventSequence_merge]
    refine foldl_max_le.mpr ⟨h.reached _ hpage, fun event hmember => ?_⟩
    rcases Nat.eq_zero_or_pos event.sequence with hzero | hpositive
    · exact hzero.le.trans (Nat.zero_le _)
    · have hbound := (hnumbered.bounds (hgenuine event hmember hpositive)).2
      rwa [hstream event hmember] at hbound

/-- What a page shows of its stream is in the order of the log. -/
theorem sublist (h : Shows published page) (hnumbered : Numbered published)
    (hpage : page.eventStreamId = some streamId) :
    (sequencedEvents page.events).Sublist (streamLog published streamId) := by
  have : Std.Antisymm fun earlier later : PacketEvent => earlier.sequence < later.sequence :=
    ⟨fun _ _ hlt hgt => absurd hgt hlt.asymm⟩
  refine List.sublist_of_subperm_of_pairwise (List.subperm_of_subset ?_ ?_) h.increasing ?_
  · refine h.increasing.imp fun {earlier later} hlt => ?_
    rintro rfl
    exact lt_irrefl _ hlt
  · intro event hmember
    obtain ⟨hshown, hpositive⟩ := mem_sequencedEvents.mp hmember
    have hstream := h.current event hshown
    rw [hpage] at hstream
    exact mem_streamLog.mpr ⟨h.genuine event hshown hpositive, (Option.some.inj hstream).symm⟩
  · have hnumbers : ((streamLog published streamId).map (·.sequence)).Pairwise (· < ·) := by
      rw [hnumbered]
      exact List.pairwise_lt_range'
    exact List.pairwise_map.mp hnumbers

end Shows

/-! ## What a merge keeps -/

/-- An event is kept if fewer than five hundred numbers are between it and the latest. -/
theorem mem_mergeEvents_of_recent {cache incoming : List PacketEvent} {event : PacketEvent}
    {latest : ℕ} (hkeyed : KeyedBy PacketEvent.sequence (sequencedEvents (cache ++ incoming)))
    (hlatest : ∀ other ∈ cache ++ incoming, other.sequence ≤ latest)
    (hmember : event ∈ cache ++ incoming) (hpositive : 0 < event.sequence)
    (hrecent : latest < event.sequence + 500) : event ∈ mergeEvents cache incoming := by
  have hnewest : Newest 500 PacketEvent.sequence ([] ++ sequencedEvents (cache ++ incoming))
      (sequencedEvents (mergeEvents [] (cache ++ incoming))) :=
    newest_mergeEvents (.nil 500 _) hkeyed
  have hlargest : event.sequence ∈ largest 500
      ((sequencedEvents (cache ++ incoming)).map PacketEvent.sequence).toFinset := by
    refine mem_largest.mpr ⟨?_, ?_⟩
    · exact List.mem_toFinset.mpr
        (List.mem_map_of_mem (mem_sequencedEvents.mpr ⟨hmember, hpositive⟩))
    · refine lt_of_le_of_lt (Finset.card_le_card (t := Finset.Ioc event.sequence latest) ?_) ?_
      · intro sequence hsequence
        rw [Finset.mem_filter, List.mem_toFinset, List.mem_map] at hsequence
        obtain ⟨⟨other, hother, rfl⟩, hlater⟩ := hsequence
        exact Finset.mem_Ioc.mpr
          ⟨hlater, hlatest other (mem_sequencedEvents.mp hother).1⟩
      · rw [Nat.card_Ioc]
        omega
  have hkept := (hnewest.holds event).mpr
    ⟨mem_sequencedEvents.mpr ⟨hmember, hpositive⟩, hlargest⟩
  exact (mem_sequencedEvents.mp hkept).1

end MeshtasticLab.Frontend

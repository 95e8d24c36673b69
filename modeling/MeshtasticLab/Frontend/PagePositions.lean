/-
  Frontend/PagePositions.lean --- how far a page has come, and what it may have missed.

  A page has a position in the current stream of the broker, which is zero as long as it
  is in another stream.  Events on their way to it are gapless if none of them is further
  than one behind its position, or behind the events that are gone, before a notice tells
  of a gap.  A page that takes gapless events one after the other shows all that is
  retained up to its position, as far as it has room.
-/
import MeshtasticLab.Frontend.Authentic

set_option autoImplicit false

namespace MeshtasticLab.Frontend

open MeshtasticLab.Foundation MeshtasticLab.Metrics

/-! ## Positions -/

section Positions

variable {current : String} {gone gone' reached reached' : ℕ} {event : PacketEvent}
  {events more : List PacketEvent}

/-- The position in a stream after an event. -/
def position (current : String) (reached : ℕ) (event : PacketEvent) : ℕ :=
  if event.streamId = current ∧ isReset event = false then max reached event.sequence else 0

/-- The position in a stream after events. -/
def positionAfter (current : String) (reached : ℕ) (events : List PacketEvent) : ℕ :=
  events.foldl (position current) reached

/-- The event tells of a gap in the stream. -/
def Tells (current : String) (event : PacketEvent) : Prop :=
  isDropNotice event = true ∧ event.streamId = current

/-- From a position on, no event of the stream is behind a gap that is not told of. -/
def Gapless (current : String) (gone : ℕ) : ℕ → List PacketEvent → Prop
  | _, [] => True
  | reached, event :: rest =>
      Tells current event ∨
        (event.streamId = current → event.sequence ≤ max gone reached + 1) ∧
          Gapless current gone (position current reached event) rest

theorem positionAfter_append :
    positionAfter current reached (events ++ more) =
      positionAfter current (positionAfter current reached events) more := by
  simp [positionAfter]

theorem position_mono (h : reached ≤ reached') :
    position current reached event ≤ position current reached' event := by
  unfold position
  split
  · exact max_le_max_right _ h
  · exact le_refl 0

theorem positionAfter_mono (h : reached ≤ reached') :
    positionAfter current reached events ≤ positionAfter current reached' events := by
  induction events generalizing reached reached' with
  | nil => exact h
  | cons event rest ih => exact ih (position_mono h)

/-- An event that is no reset of its stream is not beyond the position after it. -/
theorem le_position (reached : ℕ) (hstream : event.streamId = current)
    (hreset : isReset event = false) :
    max reached event.sequence ≤ position current reached event := by
  simp [position, hstream, hreset]

theorem Gapless.mono (hgapless : Gapless current gone reached events) (hgone : gone ≤ gone')
    (hreached : reached ≤ reached') : Gapless current gone' reached' events := by
  induction events generalizing reached reached' with
  | nil => exact trivial
  | cons event rest ih =>
      rcases hgapless with htells | ⟨hnext, hrest⟩
      · exact Or.inl htells
      · refine Or.inr ⟨fun hstream => ?_, ih hrest (position_mono hreached)⟩
        have hbound := hnext hstream
        omega

/-- After a notice that tells of a gap there is nothing to check. -/
theorem gapless_append :
    Gapless current gone reached (events ++ more) ↔
      Gapless current gone reached events ∧
        ((∃ event ∈ events, Tells current event) ∨
          Gapless current gone (positionAfter current reached events) more) := by
  induction events generalizing reached with
  | nil => simp [Gapless, positionAfter]
  | cons event rest ih =>
      have hafter : positionAfter current reached (event :: rest) =
          positionAfter current (position current reached event) rest := by
        simp [positionAfter]
      simp only [List.cons_append, Gapless, ih, hafter, List.exists_mem_cons_iff]
      rw [← and_assoc, or_and_left, or_assoc]

/-- An event of another stream is gapless. -/
theorem gapless_of_other (hother : ∀ event ∈ events, event.streamId ≠ current) :
    Gapless current gone reached events := by
  induction events generalizing reached with
  | nil => exact trivial
  | cons event rest ih =>
      refine Or.inr ⟨fun hstream => absurd hstream (hother event List.mem_cons_self), ih ?_⟩
      exact fun later hlater => hother later (List.mem_cons_of_mem _ hlater)

/-- An event without a number is gapless. -/
theorem gapless_notice (hsequence : event.sequence = 0) :
    Gapless current gone reached [event] := by
  refine Or.inr ⟨fun _ => ?_, trivial⟩
  omega

/-- Consecutive events of the stream are gapless, and the position after them is not before
the last one. -/
theorem gapless_consecutive {start : ℕ}
    (hstream : ∀ event ∈ events, event.streamId = current ∧ isReset event = false)
    (hnumbers : events.map (·.sequence) = List.range' (start + 1) events.length)
    (hstart : start ≤ max gone reached) :
    Gapless current gone reached events ∧
      (events ≠ [] → start + events.length ≤ positionAfter current reached events) := by
  induction events generalizing start reached with
  | nil => exact ⟨trivial, fun hne => absurd rfl hne⟩
  | cons event rest ih =>
      obtain ⟨hcurrent, hreset⟩ := hstream event List.mem_cons_self
      simp only [List.map_cons, List.length_cons, List.range'_succ, List.cons.injEq] at hnumbers
      obtain ⟨hfirst, hrest⟩ := hnumbers
      have hposition := le_position reached hcurrent hreset
      have hnext : start + 1 ≤ max gone (position current reached event) := by
        omega
      obtain ⟨hgapless, hlast⟩ :=
        ih (fun later hlater => hstream later (List.mem_cons_of_mem _ hlater)) hrest hnext
      refine ⟨Or.inr ⟨fun _ => by omega, hgapless⟩, fun _ => ?_⟩
      change _ ≤ positionAfter current (position current reached event) rest
      rw [List.length_cons]
      rcases List.eq_nil_or_concat rest with rfl | ⟨_, _, rfl⟩
      · change start + 1 ≤ position current reached event
        omega
      · have hreached := hlast (by simp)
        omega

end Positions

/-! ## Pages -/

section Pages

variable {published : List PacketEvent} {page : EventEvidence} {current streamId : String}
  {event : PacketEvent} {incoming items : List PacketEvent}

theorem reachedIn_of_ne (hother : page.eventStreamId ≠ some current) :
    page.reachedIn current = 0 := by
  simp [EventEvidence.reachedIn, hother]

theorem reachedIn_of_eq (hsame : page.eventStreamId = some current) :
    page.reachedIn current = page.latestEventSequence := by
  simp [EventEvidence.reachedIn, hsame]

/-- A page is not ahead of its stream. -/
theorem Shows.reachedIn_le (hshows : Shows published page) (current : String) :
    page.reachedIn current ≤ (streamLog published current).length := by
  unfold EventEvidence.reachedIn
  split
  · next hsame => exact hshows.reached current hsame
  · exact Nat.zero_le _

/-- A page that turns to a stream keeps its position there. -/
theorem Shows.latestEventSequence_turnTo (hshows : Shows published page) (streamId : String) :
    (page.turnTo streamId).latestEventSequence = page.reachedIn streamId := by
  unfold EventEvidence.turnTo EventEvidence.reachedIn
  by_cases hnone : page.eventStreamId = none
  · simp [hnone, hshows.unset hnone]
  · by_cases hsame : page.eventStreamId = some streamId
    · simp [hsame]
    · simp [hnone, hsame]

/-- Its position after a merge of events of the stream. -/
theorem Shows.reachedIn_merge (hshows : Shows published page) (streamId : String)
    (incoming : List PacketEvent) (current : String) :
    ((page.turnTo streamId).merge incoming).reachedIn current =
      if streamId = current then
        incoming.foldl (fun latest event => max latest event.sequence) (page.reachedIn current)
      else 0 := by
  have hpage : ((page.turnTo streamId).merge incoming).eventStreamId = some streamId := by
    rw [EventEvidence.eventStreamId_merge]
    exact (hshows.turnTo streamId).2
  split
  · next hsame =>
      rw [hsame] at hpage ⊢
      rw [reachedIn_of_eq hpage, EventEvidence.latestEventSequence_merge,
        hshows.latestEventSequence_turnTo]
  · next hother =>
      refine reachedIn_of_ne ?_
      rw [hpage]
      simpa using hother

/-- Receiving an event moves the page to the next position. -/
theorem Shows.reachedIn_receive (hshows : Shows published page) (hstream : event.streamId ≠ "")
    (current : String) :
    (page.receive event).reachedIn current =
      position current (page.reachedIn current) event := by
  rw [page.receive_eq hstream]
  unfold position
  by_cases hreset : isReset event = true
  · rw [if_pos hreset]
    simp [hreset, EventEvidence.reachedIn, EventEvidence.clearEventEvidence]
  · rw [if_neg hreset, hshows.reachedIn_merge]
    simp [hreset]

/-- Of the given events of a stream the page shows all up to its position, as far as it has
room. -/
def Complete (page : EventEvidence) (current : String) (items : List PacketEvent) : Prop :=
  ∀ event ∈ items, event.sequence ≤ page.reachedIn current →
    page.reachedIn current < event.sequence + 500 → event ∈ page.events

/-- Nothing is missed by a page that is not in the stream. -/
theorem complete_of_reachedIn (hitems : ∀ event ∈ items, 0 < event.sequence)
    (hreached : page.reachedIn current = 0) : Complete page current items := by
  intro event hmember hbehind _
  have hpositive := hitems event hmember
  omega

/-- A page that turns to a stream misses nothing by that. -/
theorem Complete.turnTo (hcomplete : Complete page current items)
    (hshows : Shows published page) (hitems : ∀ event ∈ items, 0 < event.sequence)
    (streamId : String) : Complete (page.turnTo streamId) current items := by
  by_cases hsame : page.eventStreamId = some current ∧ streamId = current
  · obtain ⟨hpage, rfl⟩ := hsame
    have hkept : page.turnTo streamId = page := by
      unfold EventEvidence.turnTo
      rw [if_neg (by simp [hpage]), ← hpage]
    rwa [hkept]
  · refine complete_of_reachedIn hitems ?_
    by_cases hstream : streamId = current
    · rw [hstream, reachedIn_of_eq (hshows.turnTo current).2,
        hshows.latestEventSequence_turnTo]
      exact reachedIn_of_ne fun hpage => hsame ⟨hpage, hstream⟩
    · refine reachedIn_of_ne ?_
      rw [(hshows.turnTo streamId).2]
      simpa using hstream

/-- A merge misses nothing if what is given up to the new position was behind the old one or
is merged. -/
theorem Complete.merge (hcomplete : Complete page current items)
    (hshows : Shows published page) (hnumbered : Numbered published)
    (hpage : page.eventStreamId = some current)
    (hincoming : ∀ event ∈ incoming, event.streamId = current)
    (hgenuine : ∀ event ∈ incoming, 0 < event.sequence → event ∈ published)
    (hitems : ∀ event ∈ items, 0 < event.sequence)
    (hcovered : ∀ event ∈ items, event.sequence ≤ (page.merge incoming).reachedIn current →
      event.sequence ≤ page.reachedIn current ∨ event ∈ incoming) :
    Complete (page.merge incoming) current items := by
  have hmerged : (page.merge incoming).eventStreamId = some current := by
    rw [EventEvidence.eventStreamId_merge]
    exact hpage
  have hlatest := foldl_max_le.mp (le_refl (incoming.foldl
    (fun latest event => max latest event.sequence) page.latestEventSequence))
  rw [← EventEvidence.latestEventSequence_merge, ← reachedIn_of_eq hmerged] at hlatest
  obtain ⟨hold, hnew⟩ := hlatest
  have hstream : ∀ event ∈ page.events ++ incoming, event.streamId = current := by
    intro event hmember
    rcases List.mem_append.mp hmember with hshown | hcoming
    · exact (Option.some.inj (hpage.symm.trans (hshows.current event hshown))).symm
    · exact hincoming event hcoming
  have hpublished : ∀ event ∈ page.events ++ incoming, 0 < event.sequence →
      event ∈ published := by
    intro event hmember hpositive
    rcases List.mem_append.mp hmember with hshown | hcoming
    · exact hshows.genuine event hshown hpositive
    · exact hgenuine event hcoming hpositive
  intro event hmember hbehind hrecent
  rw [EventEvidence.events_merge]
  refine mem_mergeEvents_of_recent ?_ ?_ ?_ (hitems event hmember) hrecent
  · intro one hone other hother hsequence
    obtain ⟨hone, hpositive⟩ := mem_sequencedEvents.mp hone
    obtain ⟨hother, hpositive'⟩ := mem_sequencedEvents.mp hother
    exact hnumbered.unique (hpublished one hone hpositive) (hpublished other hother hpositive')
      ((hstream one hone).trans (hstream other hother).symm) hsequence
  · intro other hother
    rcases List.mem_append.mp hother with hshown | hcoming
    · exact (hshows.behind other hshown).trans hold
    · exact hnew other hcoming
  · refine List.mem_append.mpr ?_
    rcases hcovered event hmember hbehind with hbefore | hcoming
    · rw [← reachedIn_of_eq hpage] at hold
      exact Or.inl (hcomplete event hmember hbefore (hold.trans_lt hrecent))
    · exact Or.inr hcoming

/-- Receiving the next event of the stream misses nothing. -/
theorem Complete.receive {streamIds : List String} {gone : ℕ}
    (hcomplete : Complete page current items) (hshows : Shows published page)
    (hnumbered : Numbered published) (hgenuine : Genuine streamIds published event)
    (hnamed : "" ∉ streamIds)
    (hitems : ∀ item ∈ items, item ∈ streamLog published current ∧ gone < item.sequence)
    (hnext : event.streamId = current →
      event.sequence ≤ max gone (page.reachedIn current) + 1) :
    Complete (page.receive event) current items := by
  have hstream : event.streamId ≠ "" := fun hempty => hnamed (hempty ▸ hgenuine.known)
  have hpositive : ∀ item ∈ items, 0 < item.sequence := fun item hitem =>
    Nat.zero_lt_of_lt (hitems item hitem).2
  have hreceived := hshows.reachedIn_receive hstream current
  unfold position at hreceived
  split at hreceived
  · next hkept =>
      obtain ⟨rfl, hreset⟩ := hkept
      obtain ⟨hturned, hpage⟩ := hshows.turnTo event.streamId
      rw [page.receive_eq hstream, if_neg (by simp [hreset])] at hreceived ⊢
      refine (hcomplete.turnTo hshows hpositive event.streamId).merge hturned hnumbered hpage
        (by simp) (by simpa using hgenuine.published) hpositive ?_
      intro item hitem hbehind
      rw [hreceived] at hbehind
      rw [reachedIn_of_eq hpage, hshows.latestEventSequence_turnTo]
      by_cases hbefore : item.sequence ≤ page.reachedIn event.streamId
      · exact Or.inl hbefore
      · -- What is between the old position and the event is gone, so the item is the event.
        right
        obtain ⟨hlogged, hretained⟩ := hitems item hitem
        obtain ⟨hpublished, hsame⟩ := mem_streamLog.mp hlogged
        have hbound := hnext rfl
        have hsequence : item.sequence = event.sequence := by omega
        have hevent := hgenuine.published (by omega)
        exact List.mem_singleton.mpr (hnumbered.unique hpublished hevent hsame hsequence)
  · exact complete_of_reachedIn hpositive hreceived

/-- Accepting an answer misses nothing if it has all that is given up to its last event. -/
theorem Complete.answered {streamIds : List String} {history : EventHistoryPage}
    (hcomplete : Complete page current items) (hshows : Shows published page)
    (hnumbered : Numbered published) (hanswer : Answer streamIds published history)
    (hnamed : "" ∉ streamIds) (hitems : ∀ item ∈ items, 0 < item.sequence)
    (hcovers : history.streamId = current → ∀ item ∈ items,
      (∃ event ∈ history.events, item.sequence ≤ event.sequence) → item ∈ history.events) :
    Complete (page.acceptEvents history.events (some history.streamId)) current items := by
  have hstream : history.streamId ≠ "" := fun hempty => hnamed (hempty ▸ hanswer.known)
  rw [page.acceptEvents_eq hstream fun event hmember => (hanswer.events event hmember).2]
  have hmerged := hshows.reachedIn_merge history.streamId history.events current
  split at hmerged
  · next hsame =>
      subst hsame
      obtain ⟨hturned, hpage⟩ := hshows.turnTo history.streamId
      refine (hcomplete.turnTo hshows hitems history.streamId).merge hturned hnumbered hpage
        (fun event hmember => (hanswer.events event hmember).2)
        (fun event hmember _ => (hanswer.events event hmember).1) hitems ?_
      intro item hitem hbehind
      rw [hmerged, le_foldl_max] at hbehind
      rw [reachedIn_of_eq hpage, hshows.latestEventSequence_turnTo]
      exact hbehind.imp_right (hcovers rfl item hitem)
  · exact complete_of_reachedIn hitems hmerged

end Pages

end MeshtasticLab.Frontend

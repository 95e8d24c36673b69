/-
  Traffic/Expiry.lean --- the quarantine of packet identifiers is in expiry order.

  WHAT THIS FILE IS FOR

  `_purge_packet_id_quarantine` looks at the front of a deque only.  That is enough
  because the identifiers of a source stand in one line: those in quarantine in the
  order of their expiry, and after them, in the order of their allocation, those of
  the current run, which retiring appends.  An allocation joins the line at its end;
  a purge and a retirement only take identifiers out of it.
-/
import MeshtasticLab.Traffic.RejectedStarts

set_option autoImplicit false

namespace MeshtasticLab.Traffic

open MeshtasticLab.Foundation MeshtasticLab.Gateway MeshtasticLab.Metrics MeshtasticLab.Models
open TrafficController

namespace PacketIds

/-! ## The line of a source -/

/-- The identifiers of a dictionary with the ends of their quarantine windows. -/
def expiries (packetIds : Dict Nat ℚ) : List (ℚ × Nat) :=
  packetIds.items.map fun entry => (entry.2 + PACKET_ID_QUARANTINE_SECONDS, entry.1)

/-- The identifiers of a source: those in quarantine, then those of the current run. -/
def line (ids : PacketIds) (source : String) : List (ℚ × Nat) :=
  ids.quarantine source ++ expiries (ids.used source)

/-- What the identifiers of every source are at a time of the clock: none twice, the
current ones not in quarantine, and all in the order of their expiry, which is at most
the quarantine time away. -/
structure InLine (ids : PacketIds) (clock : ℚ) : Prop where
  shelved : ids.Shelved
  apart : ids.Apart
  sorted : ∀ source, (ids.line source).Pairwise fun earlier later => earlier.1 ≤ later.1
  recent : ∀ source, ∀ entry ∈ ids.line source, entry.1 ≤ clock + PACKET_ID_QUARANTINE_SECONDS

theorem mem_expiries {packetIds : Dict Nat ℚ} {entry : ℚ × Nat} :
    entry ∈ expiries packetIds ↔ ∃ time, packetIds.get? entry.2 = some time ∧
      entry.1 = time + PACKET_ID_QUARANTINE_SECONDS := by
  unfold expiries
  rw [List.mem_map]
  constructor
  · rintro ⟨⟨packetId, time⟩, hmember, rfl⟩
    exact ⟨time, Dict.get?_eq_some.mpr hmember, rfl⟩
  · rintro ⟨time, hget, hexpiry⟩
    exact ⟨(entry.2, time), Dict.get?_eq_some.mp hget, by rw [← hexpiry]⟩

/-- A new identifier goes to the end. -/
theorem expiries_set {packetIds : Dict Nat ℚ} {packetId : Nat}
    (hnew : packetIds.get? packetId = none) (now : ℚ) :
    expiries (packetIds.set packetId now) =
      expiries packetIds ++ [(now + PACKET_ID_QUARANTINE_SECONDS, packetId)] := by
  unfold expiries
  rw [Dict.items_set_of_new (Dict.not_mem_of_get?_eq_none hnew), List.map_append]
  rfl

/-- What is retained of a dictionary keeps its order. -/
theorem retained_sublist (packetIds : Dict Nat ℚ) (now : ℚ) :
    (retained packetIds now).Sublist (expiries packetIds) :=
  List.filter_sublist.map _

/-- A line that lost identifiers at a later time is still one. -/
theorem InLine.thinned {ids ids' : PacketIds} {clock now : ℚ} (h : ids.InLine clock)
    (hclock : clock ≤ now) (hshelved : ids'.Shelved) (hapart : ids'.Apart)
    (hline : ∀ source, (ids'.line source).Sublist (ids.line source)) : ids'.InLine now where
  shelved := hshelved
  apart := hapart
  sorted := fun source => (h.sorted source).sublist (hline source)
  recent := fun source entry hmember =>
    (h.recent source entry ((hline source).subset hmember)).trans
      (by gcongr)

theorem InLine.later {ids : PacketIds} {clock now : ℚ} (h : ids.InLine clock)
    (hclock : clock ≤ now) : ids.InLine now :=
  h.thinned hclock h.shelved h.apart fun _ => List.Sublist.refl _

/-- With no identifiers every source is in line. -/
theorem inLine_empty (clock : ℚ) : InLine {} clock where
  shelved := ⟨fun _ => List.nodup_nil, fun _ _ => Iff.rfl⟩
  apart := fun _ _ hused => absurd rfl hused
  sorted := fun _ => List.Pairwise.nil
  recent := by
    intro source entry hmember
    cases hmember

/-- The quarantine alone is in order. -/
theorem InLine.sorted_quarantine {ids : PacketIds} {clock : ℚ} (h : ids.InLine clock)
    (source : String) :
    (ids.quarantine source).Pairwise fun earlier later => earlier.1 ≤ later.1 :=
  (h.sorted source).sublist (List.sublist_append_left _ _)

/-! ## Purging -/

/-- In expiry order what the loop leaves has not expired. -/
theorem live_of_purgeLoop {now : ℚ} {entries : List (ℚ × Nat)}
    (hsorted : entries.Pairwise fun earlier later => earlier.1 ≤ later.1) (set : Finset Nat)
    {entry : ℚ × Nat} (hmember : entry ∈ (purgeLoop now entries set).1) : now < entry.1 := by
  induction entries generalizing set with
  | nil => cases hmember
  | cons head rest ih =>
      rw [List.pairwise_cons] at hsorted
      unfold purgeLoop at hmember
      split at hmember
      · exact ih hsorted.2 _ hmember
      · next hlive =>
          rw [not_le] at hlive
          rcases List.mem_cons.mp hmember with rfl | hrest
          · exact hlive
          · exact lt_of_lt_of_le hlive (hsorted.1 entry hrest)

/-- A purge takes entries out of a quarantine. -/
theorem quarantine_purge_sublist (ids : PacketIds) (source other : String) (now : ℚ) :
    ((ids.purge source now).quarantine other).Sublist (ids.quarantine other) := by
  obtain ⟨dropped, hsplit, _⟩ := (dropsExpired_purge ids source now).sheds other
  rw [hsplit]
  exact List.sublist_append_right _ _

theorem line_purge_sublist (ids : PacketIds) (source other : String) (now : ℚ) :
    ((ids.purge source now).line other).Sublist (ids.line other) :=
  (quarantine_purge_sublist ids source other now).append (List.Sublist.refl _)

/-- A purge leaves in the quarantine of its source exactly what has not expired. -/
theorem InLine.mem_purge {ids : PacketIds} {clock now : ℚ} (h : ids.InLine clock)
    {source : String} {entry : ℚ × Nat} :
    entry ∈ (ids.purge source now).quarantine source ↔
      entry ∈ ids.quarantine source ∧ now < entry.1 := by
  constructor
  · intro hmember
    refine ⟨(quarantine_purge_sublist ids source source now).subset hmember, ?_⟩
    rw [quarantine_purge, if_pos rfl] at hmember
    exact live_of_purgeLoop (h.sorted_quarantine source) _ hmember
  · rintro ⟨hmember, hlive⟩
    exact mem_quarantine_purge hmember hlive

/-! ## Allocating -/

/-- Afterwards the line of the source is the purged one with the new identifier at its
end, and those of the others are the same. -/
theorem line_allocate {ids ids' : PacketIds} {source : String} {now : ℚ} {draws : List Nat}
    {packetId : Nat} (h : ids.allocate source now draws = some (packetId, ids'))
    (other : String) :
    ids'.line other = (ids.purge source now).line other ++
      if other = source then [(now + PACKET_ID_QUARANTINE_SECONDS, packetId)] else [] := by
  obtain ⟨hunused, hused⟩ := allocate_spec h
  have hqueue : ids'.quarantine other = (ids.purge source now).quarantine other := by
    unfold quarantine
    rw [(allocateFresh_quarantine h).2.2.1]
  unfold line
  rw [hqueue, hused, used_purge]
  split
  · next heq => rw [heq, expiries_set hunused, List.append_assoc]
  · rw [List.append_nil]

/-- An allocation keeps every source in line. -/
theorem InLine.allocate {ids ids' : PacketIds} {clock now : ℚ} (h : ids.InLine clock)
    (hclock : clock ≤ now) {source : String} {draws : List Nat} {packetId : Nat}
    (hallocate : ids.allocate source now draws = some (packetId, ids')) : ids'.InLine now := by
  obtain ⟨_, hshelved, hapart, _, _⟩ := allocate_quarantine hallocate h.shelved h.apart
  have hpurged := h.thinned hclock (h.shelved.purge source now) (h.apart.purge source now)
    fun other => line_purge_sublist ids source other now
  refine ⟨hshelved, hapart, ?_, ?_⟩
  · intro other
    rw [line_allocate hallocate other, List.pairwise_append]
    refine ⟨hpurged.sorted other, by split <;> simp, ?_⟩
    intro earlier hearlier later hlater
    split at hlater
    · rw [List.mem_singleton.mp hlater]
      exact hpurged.recent other earlier hearlier
    · cases hlater
  · intro other entry hmember
    rw [line_allocate hallocate other, List.mem_append] at hmember
    rcases hmember with hold | hnew
    · exact hpurged.recent other entry hold
    · split at hnew
      · rw [List.mem_singleton.mp hnew]
      · cases hnew

/-! ## Retiring -/

/-- The loop makes the quarantine of a source out of its entries and, after them, those
of the items. -/
theorem retireLoop_sublist {now : ℚ} {items : List (String × Dict Nat ℚ)}
    {ids ids' : PacketIds} (h : retireLoop now items ids = (ids', .ok ()))
    (hdistinct : (items.map Prod.fst).Nodup) {item : String × Dict Nat ℚ} (hitem : item ∈ items) :
    (ids'.quarantine item.1).Sublist (ids.quarantine item.1 ++ expiries item.2) := by
  induction items generalizing ids with
  | nil => cases hitem
  | cons head rest ih =>
      rw [List.map_cons, List.nodup_cons] at hdistinct
      by_cases hfull : ids.Overfull now head
      · rw [retireLoop_of_overfull hfull] at h
        cases h
      · rw [retireLoop_of_room_for hfull] at h
        rcases List.mem_cons.mp hitem with rfl | hlater
        · rw [quarantine_retireLoop h hdistinct.1, quarantine_retireOne]
          exact (quarantine_purge_sublist ids _ _ now).append (retained_sublist item.2 now)
        · have hother : item.1 ≠ head.1 := fun heq =>
            hdistinct.1 (heq ▸ List.mem_map_of_mem (f := Prod.fst) hlater)
          have hrest := ih h hdistinct.2 hlater
          rw [(retireOne_of_ne hother).1] at hrest
          exact hrest

/-- Retiring that does not raise only takes identifiers out of a line. -/
theorem line_retire_sublist {ids ids' : PacketIds} {now : ℚ}
    (h : ids.retire now = (ids', .ok ())) (source : String) :
    (ids'.line source).Sublist (ids.line source) := by
  have hnothing : expiries (ids'.used source) = [] := by
    unfold used
    rw [retire_reserved h]
    rfl
  unfold line
  rw [hnothing, List.append_nil]
  cases hfound : ids.packetIdsBySource.get? source with
  | none =>
      rw [quarantine_retireLoop h (Dict.not_mem_of_get?_eq_none hfound)]
      exact List.sublist_append_left _ _
  | some packetIds =>
      have hused : ids.used source = packetIds := by
        unfold used
        rw [hfound]
        rfl
      rw [hused]
      exact retireLoop_sublist h ids.packetIdsBySource.distinct (Dict.get?_eq_some.mp hfound)

/-- Retiring that does not raise keeps every source in line. -/
theorem InLine.retire {ids ids' : PacketIds} {clock now : ℚ} (h : ids.InLine clock)
    (hclock : clock ≤ now) (hretire : ids.retire now = (ids', .ok ())) : ids'.InLine now := by
  obtain ⟨hshelved, hapart, _⟩ := retire_quarantine hretire h.shelved h.apart
  exact h.thinned hclock hshelved hapart (line_retire_sublist hretire)

end PacketIds

namespace TrafficTasks

variable {s t : TrafficTasks} {h : IdHistory}

/-! ## Runs whose starts do not raise -/

/-- A call of `start` in this state does not raise. -/
def StartsRun (s : TrafficTasks) : Action → Prop
  | .start m runId request scenarioSnapshot baseline =>
      (s.controller.start m runId (s.runTask ≠ .done) request scenarioSnapshot baseline).2 =
        .ok runId
  | _ => True

instance (s : TrafficTasks) (a : Action) : Decidable (StartsRun s a) := by
  unfold StartsRun
  cases a <;> infer_instance

/-- The condition on a step: the clock does not go back and `start` does not raise. -/
def NoStartRaises (s : TrafficTasks × IdHistory) (a : Action) : Prop :=
  Forward s.2 a ∧ StartsRun s.1 a

instance (s : TrafficTasks × IdHistory) (a : Action) : Decidable (NoStartRaises s a) :=
  inferInstanceAs (Decidable (_ ∧ _))

/-- A start that does not raise retires the identifiers of the last run. -/
theorem retire_of_startsRun {pb : Protobuf} {m : Moment} {runId : String}
    {request : TrafficRunRequest} {scenarioSnapshot : Option Scenario}
    {baseline : Option FailedReceptionSample}
    (hstarts : StartsRun s (.start m runId request scenarioSnapshot baseline))
    (hstep : step pb s (.start m runId request scenarioSnapshot baseline) = some t) :
    ∃ ids, s.controller.packetIds.retire m.now = (ids, .ok ()) ∧ s.runTask = .done ∧
      t.runTask = .scheduled ∧ t.controller.packetIds = ids := by
  have hok : (s.controller.start m runId (s.runTask ≠ .done) request scenarioSnapshot
    baseline).2 = .ok runId := hstarts
  unfold step at hstep
  dsimp only at hstep
  split at hstep
  · cases hstep
    cases hstart : s.controller.start m runId (s.runTask ≠ .done) request scenarioSnapshot
      baseline with
    | mk c outcome =>
        rw [hstart] at hok
        have houtcome : outcome = .ok runId := hok
        subst houtcome
        unfold started
        rw [hstart]
        rcases start_watch hstart with
          ⟨_, houtcome, _⟩ | ⟨_, _, _, houtcome, _⟩ | ⟨ids, hretire, _, hactive, hwatch⟩
        · cases houtcome
        · cases houtcome
        · exact ⟨ids, hretire, by simpa using hactive, rfl, congrArg Watch.packetIds hwatch⟩
  · cases hstep

/-! ## What the identifiers are of the history -/

/-- The identifiers of the current run are those the history has of it, and of those of
earlier runs the ones in quarantine are those that have not expired. -/
structure Traced (ids : PacketIds) (h : IdHistory) : Prop where
  past : ∀ old ∈ h.allocations, old.run ≤ h.runs
  reserved : ∀ source packetId time, (ids.used source).get? packetId = some time ↔
    { source := source, packetId := packetId, run := h.runs, time := time } ∈ h.allocations
  retired : ∀ source (entry : ℚ × Nat), h.clock < entry.1 →
    (entry ∈ ids.quarantine source ↔ ∃ old ∈ h.allocations, old.source = source ∧
      old.packetId = entry.2 ∧ old.run < h.runs ∧
        entry.1 = old.time + PACKET_ID_QUARANTINE_SECONDS)

theorem traced_empty (clock : ℚ) : Traced {} { clock := clock } where
  past := by
    intro old hmember
    cases hmember
  reserved := by
    intro source packetId time
    constructor
    · intro hget
      cases hget
    · intro hmember
      cases hmember
  retired := by
    intro source entry _
    constructor
    · intro hmember
      cases hmember
    · rintro ⟨old, hmember, _⟩
      cases hmember

/-- The identifiers stay traced while nothing but the clock changes. -/
theorem Traced.idle {ids : PacketIds} (htraced : Traced ids h) {later : IdHistory}
    (hclock : h.clock ≤ later.clock) (hruns : later.runs = h.runs)
    (hallocations : later.allocations = h.allocations) : Traced ids later where
  past := by
    rw [hallocations, hruns]
    exact htraced.past
  reserved := by
    rw [hallocations, hruns]
    exact htraced.reserved
  retired := by
    rw [hallocations, hruns]
    intro source entry hlive
    exact htraced.retired source entry (lt_of_le_of_lt hclock hlive)

theorem Traced.allocate {ids ids' : PacketIds} (htraced : Traced ids h) {source : String} {now : ℚ}
    {draws : List Nat} {packetId : Nat}
    (hclock : h.clock ≤ now)
    (hallocate : ids.allocate source now draws = some (packetId, ids'))
    {later : IdHistory} (hnow : later.clock = now) (hruns : later.runs = h.runs)
    (hallocations : later.allocations =
      h.allocations ++ [{ source := source, packetId := packetId, run := h.runs, time := now }]) :
    Traced ids' later := by
  obtain ⟨hunused, hused⟩ := PacketIds.allocate_spec hallocate
  have hqueue : ∀ other, ids'.quarantine other = (ids.purge source now).quarantine other := by
    intro other
    unfold PacketIds.quarantine
    rw [(PacketIds.allocateFresh_quarantine hallocate).2.2.1]
  refine ⟨?_, ?_, ?_⟩
  · intro old hmember
    rw [hallocations, List.mem_append, List.mem_singleton] at hmember
    rw [hruns]
    rcases hmember with hold | rfl
    · exact htraced.past old hold
    · exact Nat.le_refl _
  · intro other otherId time
    rw [hallocations, hruns, List.mem_append, List.mem_singleton, ← htraced.reserved, hused]
    by_cases hsource : other = source
    · subst hsource
      rw [if_pos rfl, Dict.get?_set]
      by_cases hsame : otherId = packetId
      · subst hsame
        rw [if_pos rfl, hunused]
        simp [eq_comm]
      · rw [if_neg hsame]
        simp [hsame]
    · rw [if_neg hsource]
      simp [hsource]
  · intro other entry hlive
    rw [hnow] at hlive
    have hkept : entry ∈ ids'.quarantine other ↔ entry ∈ ids.quarantine other := by
      rw [hqueue]
      exact ⟨fun hmember =>
          (PacketIds.quarantine_purge_sublist ids source other now).subset hmember,
        fun hmember => PacketIds.mem_quarantine_purge hmember hlive⟩
    rw [hkept, htraced.retired other entry (lt_of_le_of_lt hclock hlive), hallocations, hruns]
    constructor
    · rintro ⟨old, hold, hrest⟩
      exact ⟨old, List.mem_append_left _ hold, hrest⟩
    · rintro ⟨old, hold, hsource, hpacketId, hrun, hexpiry⟩
      rcases List.mem_append.mp hold with hold | hnew
      · exact ⟨old, hold, hsource, hpacketId, hrun, hexpiry⟩
      · rw [List.mem_singleton.mp hnew] at hrun
        exact absurd hrun (Nat.lt_irrefl _)

/-- When a run starts, the identifiers of the last one join those of the earlier ones. -/
theorem Traced.start {ids ids' : PacketIds} (htraced : Traced ids h)
    (hline : ids.InLine h.clock) {now : ℚ} (hclock : h.clock ≤ now)
    (hretire : ids.retire now = (ids', .ok ())) {later : IdHistory} (hnow : later.clock = now)
    (hruns : later.runs = h.runs + 1) (hallocations : later.allocations = h.allocations) :
    Traced ids' later := by
  obtain ⟨_, _, hstays, hjoins⟩ := PacketIds.retire_quarantine hretire hline.shelved hline.apart
  refine ⟨?_, ?_, ?_⟩
  · intro old hmember
    rw [hallocations] at hmember
    rw [hruns]
    exact Nat.le_succ_of_le (htraced.past old hmember)
  · intro source packetId time
    rw [hallocations, hruns]
    unfold PacketIds.used
    rw [PacketIds.retire_reserved hretire]
    constructor
    · intro hget
      cases hget
    · intro hmember
      exact absurd (htraced.past _ hmember) (Nat.not_succ_le_self _)
  · intro source entry hlive
    rw [hnow] at hlive
    rw [hallocations, hruns]
    have hsplit : (∃ old ∈ h.allocations, old.source = source ∧ old.packetId = entry.2 ∧
        old.run < h.runs + 1 ∧ entry.1 = old.time + PACKET_ID_QUARANTINE_SECONDS) ↔
        entry ∈ ids.quarantine source ∨ entry ∈ PacketIds.expiries (ids.used source) := by
      rw [htraced.retired source entry (lt_of_le_of_lt hclock hlive), PacketIds.mem_expiries]
      constructor
      · rintro ⟨old, hold, rfl, hpacketId, hrun, hexpiry⟩
        rcases Nat.lt_succ_iff_lt_or_eq.mp hrun with hearlier | hcurrent
        · exact Or.inl ⟨old, hold, rfl, hpacketId, hearlier, hexpiry⟩
        · refine Or.inr ⟨old.time, (htraced.reserved _ _ _).mpr ?_, hexpiry⟩
          rw [← hpacketId, ← hcurrent]
          exact hold
      · rintro (⟨old, hold, hsource, hpacketId, hrun, hexpiry⟩ | ⟨time, hget, hexpiry⟩)
        · exact ⟨old, hold, hsource, hpacketId, Nat.lt_succ_of_lt hrun, hexpiry⟩
        · exact ⟨_, (htraced.reserved _ _ _).mp hget, rfl, rfl, Nat.lt_succ_self _, hexpiry⟩
    rw [hsplit]
    constructor
    · intro hmember
      have hin := (PacketIds.line_retire_sublist hretire source).subset
        (List.mem_append_left _ hmember)
      exact List.mem_append.mp hin
    · rintro (hmember | hmember)
      · exact hstays source entry hmember hlive
      · obtain ⟨time, hget, hexpiry⟩ := PacketIds.mem_expiries.mp hmember
        have hjoined := hjoins source entry.2 time hget (hexpiry ▸ hlive)
        rw [← hexpiry] at hjoined
        exact hjoined

/-- A step under the condition keeps the identifiers in line and traced. -/
theorem inLine_step (pb : Protobuf) (hsound : Sound s)
    (hline : s.controller.packetIds.InLine h.clock) (htraced : Traced s.controller.packetIds h)
    {a : Action} (hquiet : NoStartRaises (s, h) a) (hstep : step pb s a = some t) :
    t.controller.packetIds.InLine (remember h s a t).clock ∧
      Traced t.controller.packetIds (remember h s a t) := by
  obtain ⟨hforward, hstarts⟩ := hquiet
  have hclock := clock_remember hforward s t
  cases hstart : a.starts with
  | false =>
      have hruns : (remember h s a t).runs = h.runs := by
        unfold remember
        simp [hstart]
      have hids : t.controller.packetIds = (s.handled pb a).packetIds :=
        (Watch.Does.sameKeys_of_none (does_step pb hstart hstep)).packetIds
      rw [hids]
      rcases packetIds_handled pb hsound.structured hstep with
        ⟨hnone, hsame⟩ | ⟨m, flow, source, pick, draws, call, packetId, rfl, hcall, hallocation,
          hallocate⟩
      · rw [hsame]
        refine ⟨hline.later hclock, htraced.idle hclock hruns ?_⟩
        unfold remember
        simp [hnone]
      · refine ⟨hline.allocate (hforward m rfl) hallocate,
          htraced.allocate (hforward m rfl) hallocate rfl hruns ?_⟩
        unfold remember
        simp [hallocation, Action.moment]
  | true =>
      cases a with
      | start m runId request scenarioSnapshot baseline =>
          have hretired := retire_of_startsRun hstarts hstep
          dsimp only at hretired
          obtain ⟨ids, hretire, hover, hscheduled, hids⟩ := hretired
          rw [hids]
          refine ⟨hline.retire (hforward m rfl) hretire,
            htraced.start hline (hforward m rfl) hretire rfl ?_ ?_⟩
          · simp [remember, hover, hscheduled, Action.starts]
          · simp [remember, allocation]
      | _ => cases hstart

section Runs

variable {scenario : Scenario} {hardwareIds : Dict String Nat} {buildMetadata : BuildMetadata}
  {settleSeconds : Option ℚ} {failedReceptionSampler : Bool}

/-- In every run whose starts do not raise the quarantine of each source is in expiry order and
holds no identifier twice, its set is that of its deque and disjoint from what the
current run has reserved, and a purge leaves in the set exactly the identifiers of
earlier runs that have not expired. -/
theorem quarantine_in_order (pb : Protobuf) (clock : ℚ)
    (hrun : Run (recorded (step pb) remember) NoStartRaises
      (.new scenario hardwareIds buildMetadata settleSeconds failedReceptionSampler,
        { clock := clock }) (s, h)) (source : String) :
    ((s.controller.packetIds.quarantine source).Pairwise
      fun earlier later => earlier.1 ≤ later.1) ∧
    ((s.controller.packetIds.quarantine source).map Prod.snd).Nodup ∧
    (∀ packetId, packetId ∈ s.controller.packetIds.quarantined source ↔
      packetId ∈ (s.controller.packetIds.quarantine source).map Prod.snd) ∧
    (∀ packetId ∈ s.controller.packetIds.quarantined source,
      (s.controller.packetIds.used source).contains packetId = false) ∧
    ∀ now, h.clock ≤ now → ∀ packetId,
      packetId ∈ (s.controller.packetIds.purge source now).quarantined source ↔
        ∃ old ∈ h.allocations, old.source = source ∧ old.packetId = packetId ∧
          old.run < h.runs ∧ now < old.time + PACKET_ID_QUARANTINE_SECONDS := by
  have hinvariant : Sound s ∧ s.controller.packetIds.InLine h.clock ∧
      Traced s.controller.packetIds h := by
    refine hrun.invariant (I := fun u => Sound u.1 ∧ u.1.controller.packetIds.InLine u.2.clock ∧
      Traced u.1.controller.packetIds u.2) ?_ ?_
    · rintro ⟨u, g⟩ a v ⟨hsound, hline, htraced⟩ hquiet hstep
      obtain ⟨hstep, hrecord⟩ := recorded_eq_some.mp hstep
      rw [hrecord]
      exact ⟨hsound.step pb hstep, inLine_step pb hsound hline htraced hquiet hstep⟩
    · exact ⟨(exact_new _ _ _ _ _).toSound, PacketIds.inLine_empty clock, traced_empty clock⟩
  obtain ⟨_, hline, htraced⟩ := hinvariant
  refine ⟨hline.sorted_quarantine source, hline.shelved.nodup source,
    hline.shelved.listed source, ?_, ?_⟩
  · intro packetId hmember
    rw [← Bool.not_eq_true]
    intro hreserved
    refine hline.apart source packetId ?_ ((hline.shelved.listed source packetId).mp hmember)
    exact Option.isSome_iff_ne_none.mp hreserved
  · intro now hnow packetId
    rw [(hline.shelved.purge source now).listed]
    unfold PacketIds.shelf
    rw [List.mem_map]
    constructor
    · rintro ⟨entry, hentry, rfl⟩
      obtain ⟨hmember, hlive⟩ := hline.mem_purge.mp hentry
      obtain ⟨old, hold, hsource, hpacketId, hearlier, hexpiry⟩ :=
        (htraced.retired source entry (lt_of_le_of_lt hnow hlive)).mp hmember
      exact ⟨old, hold, hsource, hpacketId, hearlier, hexpiry ▸ hlive⟩
    · rintro ⟨old, hold, hsource, hpacketId, hearlier, hlive⟩
      refine ⟨(old.time + PACKET_ID_QUARANTINE_SECONDS, packetId), hline.mem_purge.mpr ⟨?_, hlive⟩,
        rfl⟩
      exact (htraced.retired source (_, packetId) (lt_of_le_of_lt hnow hlive)).mpr
        ⟨old, hold, hsource, hpacketId, hearlier, rfl⟩

end Runs

/-- The identifier of a run that started at zero is in quarantine while a later run goes
on, and no longer after five minutes. -/
theorem identifier_quarantined_until_expiry :
    ∃ s h, exec (recorded (step pairProtobuf) remember) (twoRuns 10 [7, 9])
      (pairTasks, { clock := 0 }) = some (s, h) ∧
      7 ∈ (s.controller.packetIds.purge "node-1" 299).quarantined "node-1" ∧
      7 ∉ (s.controller.packetIds.purge "node-1" 300).quarantined "node-1" := by
  have hstate : (exec (recorded (step pairProtobuf) remember) (twoRuns 10 [7, 9])
      (pairTasks, { clock := 0 })).map (fun s => (s.2.allocations, s.2.runs, s.2.clock)) =
      some ([⟨"node-1", 7, 1, 0⟩, ⟨"node-1", 9, 2, 11⟩], 2, 12) := by
    decide +kernel
  have hquiet : Conforms (recorded (step pairProtobuf) remember) NoStartRaises
      (twoRuns 10 [7, 9]) (pairTasks, { clock := 0 }) := by
    decide +kernel
  obtain ⟨⟨s, h⟩, hexec, hstate⟩ := Option.map_eq_some_iff.mp hstate
  obtain ⟨hallocations, hrest⟩ := Prod.mk.inj hstate
  obtain ⟨hruns, hclock⟩ := Prod.mk.inj hrest
  dsimp only at hallocations hruns hclock
  have hpurge := (quarantine_in_order pairProtobuf 0 (.of_exec hexec hquiet)
    "node-1").2.2.2.2
  rw [hallocations, hruns, hclock] at hpurge
  refine ⟨s, h, hexec, ?_, ?_⟩
  · rw [hpurge 299 (by norm_num)]
    exact ⟨_, List.mem_cons_self, rfl, rfl, by decide, by decide +kernel⟩
  · rw [hpurge 300 (by norm_num)]
    decide +kernel

end TrafficTasks

end MeshtasticLab.Traffic

/-
  Traffic/Interference.lean --- the flows of a run do not interfere.

  WHAT THIS FILE IS FOR

  The destinations of a flow are a walk of its own cursor along its own sources.
  Its sources come in the order of its own due times, whatever the other flows of
  the run are.  So two runs that share a flow submit the same messages for it.
-/
import MeshtasticLab.Traffic.MergedSchedule

set_option autoImplicit false

namespace MeshtasticLab.Traffic

open MeshtasticLab.Foundation MeshtasticLab.Gateway MeshtasticLab.Metrics MeshtasticLab.Models
open TrafficController TrafficTasks

/-! ## The walk of a cursor -/

/-- The destination of a direct text, which `_choose_destination` finds among the nodes. -/
def TrafficFlow.destination (flow : TrafficFlow) (nodeIds : List String) (source : String)
    (pick : Nat) : Option String :=
  let candidates := nodeIds.filter (· ≠ source)
  match flow.destinationStrategy with
  | .fixed => flow.fixedDestination
  | .roundRobin => candidates[pick % candidates.length]?
  | .deterministicRandom => candidates[pick % candidates.length]?

theorem destination_of_choose {c : TrafficController} {flow : TrafficFlow}
    {source destination : String} {pick : Nat}
    (hchoose : c.chooseDestination .directText flow.destinationStrategy flow.fixedDestination
      source pick = .ok destination) :
    flow.destination c.runScenario.nodeIds source pick = some destination := by
  unfold chooseDestination at hchoose
  unfold TrafficFlow.destination
  dsimp only at hchoose ⊢
  cases hstrategy : flow.destinationStrategy with
  | fixed =>
      rw [hstrategy] at hchoose
      dsimp only at hchoose ⊢
      split at hchoose
      · cases hchoose
      · next hfixed =>
          cases hchoose
          exact hfixed
  | _ =>
      rw [hstrategy] at hchoose
      dsimp only at hchoose ⊢
      split at hchoose
      · cases hchoose
      · next hget =>
          cases hchoose
          exact hget

namespace DestinationCursor

variable {R : Randomness}

/-- The pick for a direct text from a source. -/
def pickFrom (cursor : DestinationCursor R) (nodeIds : List String) (flow : TrafficFlow)
    (source : String) : Nat × DestinationCursor R :=
  cursor.pick .directText flow.destinationStrategy source (nodeIds.filter (· ≠ source)).length

/-- The cursor after direct texts from some sources. -/
def after (nodeIds : List String) (flow : TrafficFlow) (cursor : DestinationCursor R)
    (sources : List String) : DestinationCursor R :=
  sources.foldl (fun cursor source => (cursor.pickFrom nodeIds flow source).2) cursor

/-- The sources with the destinations of their direct texts. -/
def visits (nodeIds : List String) (flow : TrafficFlow) :
    DestinationCursor R → List String → List (String × Option String)
  | _, [] => []
  | cursor, source :: rest =>
      (source, flow.destination nodeIds source (cursor.pickFrom nodeIds flow source).1) ::
        visits nodeIds flow (cursor.pickFrom nodeIds flow source).2 rest

variable {nodeIds : List String} {flow : TrafficFlow}

theorem after_concat (cursor : DestinationCursor R) (sources : List String) (source : String) :
    after nodeIds flow cursor (sources ++ [source]) =
      ((after nodeIds flow cursor sources).pickFrom nodeIds flow source).2 := by
  unfold after
  rw [List.foldl_append]
  rfl

theorem visits_append (cursor : DestinationCursor R) (sources more : List String) :
    visits nodeIds flow cursor (sources ++ more) = visits nodeIds flow cursor sources ++
      visits nodeIds flow (after nodeIds flow cursor sources) more := by
  induction sources generalizing cursor with
  | nil => rfl
  | cons source rest ih =>
      change _ :: visits nodeIds flow _ (rest ++ more) = _ :: (visits nodeIds flow _ rest ++ _)
      rw [ih]
      rfl

/-- A walk begins as it does along fewer sources. -/
theorem visits_prefix (cursor : DestinationCursor R) {sources whole : List String}
    (hbeginning : sources <+: whole) :
    visits nodeIds flow cursor sources <+: visits nodeIds flow cursor whole := by
  obtain ⟨more, rfl⟩ := hbeginning
  rw [visits_append]
  exact List.prefix_append _ _

end DestinationCursor

/-! ## The order of a flow -/

namespace TrafficFlow

variable {flow : TrafficFlow}

/-- When a message of the flow is due, and the place of its source. -/
def rank (R : Randomness) (seed : Int) (flow : TrafficFlow) (source : String) (tick : Nat) :
    ℚ ×ₗ ℕ :=
  toLex (flow.due R seed source tick, flow.sourceNodes.idxOf source)

theorem ranked (R : Randomness) (seed : Int) (hrate : 0 < flow.messagesPerMinute) :
    Merge.Ranked flow.sourceNodes (flow.rank R seed) where
  grows source _ := by
    intro a b hlt
    exact Prod.Lex.toLex_lt_toLex.mpr
      (Or.inl (TrafficRunRequest.strictMono_due R seed hrate source hlt))
  differs source hsource other _ tick tick' heq := by
    have hplace : flow.sourceNodes.idxOf source = flow.sourceNodes.idxOf other :=
      (Prod.mk.inj (congrArg ofLex heq)).2
    exact (List.idxOf_inj hsource).mp hplace

end TrafficFlow

/-- Two messages of one flow have the same order in every request. -/
theorem rank_lt_of_flow {R : Randomness} {request : TrafficRunRequest} {index : Nat}
    {flow : TrafficFlow} (hflow : request.schedulingFlows[index]? = some flow)
    {source other : String} {tick tick' : Nat} :
    request.rank R (index, source) tick < request.rank R (index, other) tick' ↔
      flow.rank R request.seed source tick < flow.rank R request.seed other tick' := by
  unfold TrafficRunRequest.rank TrafficFlow.rank TrafficRunRequest.due TrafficRunRequest.position
  simp only [hflow, Prod.Lex.toLex_lt_toLex, lt_irrefl, false_or, true_and]

/-! ## The destinations of a flow -/

/-- The calls for a flow. -/
def CallHistory.callsFor (h : CallHistory) (index : Nat) : List Call :=
  h.calls.filter fun call => call.flow = index

/-- The sources of the calls for a flow. -/
def CallHistory.sourcesFor (h : CallHistory) (index : Nat) : List String :=
  (h.callsFor index).map (·.source)

/-- The sources and the destinations that were submitted for a flow. -/
def CallHistory.pairsFor (h : CallHistory) (index : Nat) : List (String × String) :=
  (h.callsFor index).map fun call => (call.source, call.destination)

/-- A pair as a visit. -/
def visited (pair : String × String) : String × Option String := (pair.1, some pair.2)

namespace ScheduledTasks

variable {R : Randomness} {u v : ScheduledTasks R} {h h' : CallHistory}
  {request : TrafficRunRequest} {pb : Protobuf}

/-- The run task is in its loop. -/
def InLoop (u : ScheduledTasks R) : Prop :=
  u.tasks.runTask = .sleeping ∨ ∃ source ref, u.tasks.runTask = .sending source ref

theorem InLoop.generates (hin : InLoop u) : u.tasks.runTask.generates = true := by
  rcases hin with hrun | ⟨source, ref, hrun⟩ <;> rw [hrun] <;> rfl

/-- Every flow of a run of direct texts walks its own cursor. -/
structure Walked (request : TrafficRunRequest) (u : ScheduledTasks R) (h : CallHistory) :
    Prop where
  chosen : ∀ index flow, request.schedulingFlows[index]? = some flow →
    (h.pairsFor index).map visited =
      DestinationCursor.visits h.nodeIds flow (request.destinationCursor R flow)
        (h.sourcesFor index)
  scheduled : u.tasks.runTask = .scheduled → h.calls = []
  cursors : InLoop u → ∀ g, u.generation = some g →
    ∀ index flow, request.schedulingFlows[index]? = some flow → g.destinations[index]? =
      some (DestinationCursor.after h.nodeIds flow (request.destinationCursor R flow)
        (h.sourcesFor index))

/-- A step that keeps the calls keeps the walks, when it keeps the cursors of a run task
that stays in its loop. -/
theorem Walked.keep (hwalked : Walked request u h) (hcalls : h'.calls = h.calls)
    (hnodeIds : h'.nodeIds = h.nodeIds)
    (hscheduled : v.tasks.runTask = .scheduled → u.tasks.runTask = .scheduled)
    (hcursors : InLoop v → InLoop u ∧ ∀ g, v.generation = some g →
      ∃ g', u.generation = some g' ∧ g.destinations = g'.destinations) :
    Walked request v h' := by
  have hpairs : ∀ index, h'.pairsFor index = h.pairsFor index := by
    intro index
    unfold CallHistory.pairsFor CallHistory.callsFor
    rw [hcalls]
  have hsources : ∀ index, h'.sourcesFor index = h.sourcesFor index := by
    intro index
    unfold CallHistory.sourcesFor CallHistory.callsFor
    rw [hcalls]
  refine ⟨?_, ?_, ?_⟩
  · intro index flow hflow
    rw [hpairs, hsources, hnodeIds]
    exact hwalked.chosen index flow hflow
  · intro hrun
    rw [hcalls]
    exact hwalked.scheduled (hscheduled hrun)
  · intro hin g hg index flow hflow
    obtain ⟨hbefore, hsame⟩ := hcursors hin
    obtain ⟨g', hg', hdestinations⟩ := hsame g hg
    rw [hdestinations, hsources, hnodeIds]
    exact hwalked.cursors hbefore g' hg' index flow hflow

/-- Outside the loop no cursor is needed. -/
theorem Walked.leave (hwalked : Walked request u h) (hcalls : h'.calls = h.calls)
    (hnodeIds : h'.nodeIds = h.nodeIds) (houtside : v.tasks.runTask.generates = false) :
    Walked request v h' := by
  refine hwalked.keep hcalls hnodeIds ?_ ?_
  · intro hrun
    rw [hrun] at houtside
    cases houtside
  · intro hin
    rw [hin.generates] at houtside
    cases houtside

/-- Packets, reports, `stop` and `fail` keep the walks. -/
theorem Walked.bystand (hwalked : Walked request u h) {a : Action} (hstarts : a.starts = false)
    (hruns : a.runs = false) (hcancelled : a ≠ .cancelled)
    (hstep : TrafficTasks.step pb u.tasks a = some v.tasks)
    (hgeneration : v.generation = u.generation) : Walked request v h := by
  have hkind := (step_bystands pb hstarts hruns hcancelled hstep).kind
  have hsame : ∀ pc : RunPc, v.tasks.runTask = pc → pc.generates = true →
      u.tasks.runTask = pc := by
    intro pc hpc hgenerates
    rw [hpc] at hkind
    exact RunPc.eq_of_kind hkind hgenerates
  refine hwalked.keep rfl rfl (fun hrun => hsame _ hrun rfl) fun hin => ⟨?_, ?_⟩
  · rcases hin with hrun | ⟨source, ref, hrun⟩
    · exact Or.inl (hsame _ hrun rfl)
    · exact Or.inr ⟨source, ref, hsame _ hrun rfl⟩
  · intro g hg
    exact ⟨g, hgeneration ▸ hg, rfl⟩

/-- The cursors of a run task that enters its loop are those of the request. -/
theorem Walked.begun (hwalked : Walked request u h) (hon : OnSchedule request u h)
    (hstructured : Structured u.tasks) {m : Moment}
    (hstep : step R pb u (.run m .begun) = some v) : Walked request v h := by
  obtain ⟨hscheduled, htasks, hgeneration⟩ := begun_cases hon hstructured hstep
  have hnone := hwalked.scheduled hscheduled
  refine ⟨hwalked.chosen, fun _ => hnone, ?_⟩
  intro _ g hg index flow hflow
  rw [hgeneration] at hg
  cases hg
  have hsources : h.sourcesFor index = [] := by
    unfold CallHistory.sourcesFor CallHistory.callsFor
    rw [hnone]
    rfl
  rw [hsources]
  unfold Generation.enter
  rw [List.getElem?_map, hflow]
  rfl

/-- The cursors of the destinations stay between two messages. -/
theorem Walked.sent (hwalked : Walked request u h) {m : Moment} {exception : Option String}
    {last : Bool} (hstep : step R pb u (.run m (.sent exception last)) = some v) :
    Walked request v { h with isOver := h.isOver || last } := by
  obtain ⟨g, from_, ref, hg, hrun, hgeneration, _, _, hleaves, hsleeps⟩ := sent_cases hstep
  cases last with
  | true => exact hwalked.leave rfl rfl (hleaves rfl)
  | false =>
      have hsleeping := hsleeps rfl
      refine hwalked.keep rfl rfl ?_ fun _ => ⟨Or.inr ⟨from_, ref, hrun⟩, ?_⟩
      · intro hpc
        rw [hsleeping] at hpc
        cases hpc
      · intro g' hg'
        rw [hgeneration] at hg'
        cases hg'
        refine ⟨g, hg, ?_⟩
        unfold Generation.nextIteration
        split <;> rfl

/-- One more call is one more for its own flow and none for the others. -/
theorem callsFor_concat (h h' : CallHistory) {call : Call}
    (hcalls : h'.calls = h.calls ++ [call]) (index : Nat) : h'.callsFor index =
      if call.flow = index then h.callsFor index ++ [call] else h.callsFor index := by
  unfold CallHistory.callsFor
  rw [hcalls, List.filter_append]
  split
  · next hsame => simp [hsame]
  · next hother => simp [hother]

/-- A message takes one step of the walk of its own flow. -/
theorem Walked.submit (hwalked : Walked request u h) (hon : OnSchedule request u h)
    (hstructured : Structured u.tasks) (hdirect : request.kind = .directText) {m : Moment}
    {flow source pick : Nat} {draws : List Nat}
    (hstep : step R pb u (.run m (.submit flow source pick draws)) = some v) :
    Walked request v (noteCalls h u (.run m (.submit flow source pick draws)) v) := by
  obtain ⟨key, tick, entry, cursor, hsubmits, hcases⟩ := submit_cases hon hstructured hstep
  rcases hcases with ⟨hnoted, hleaves⟩ | ⟨destination, hnoted, hchoose, _, hafter⟩
  · rw [hnoted]
    exact hwalked.leave rfl rfl hleaves.outside
  rw [hnoted]
  obtain ⟨g, hg, _, _, hcursor, hgeneration⟩ := hsubmits.before
  have hin : InLoop u := Or.inl hsubmits.sleeping
  have hwalk := hwalked.cursors hin g hg key.1 entry hsubmits.entry
  rw [hcursor] at hwalk
  have hpick : pickFor u.tasks.controller request entry key.2 cursor =
      cursor.pickFrom h.nodeIds entry key.2 := by
    unfold pickFor DestinationCursor.pickFrom
    rw [hdirect, hon.nodeIds]
  rw [hdirect, hpick] at hchoose
  have hdestination := destination_of_choose hchoose
  rw [hon.nodeIds] at hdestination
  rw [hpick] at hgeneration
  have hcalls := callsFor_concat h
    { h with
      calls := h.calls ++ [⟨key.1, key.2, tick, destination, h.calls.length + 1⟩]
      interrupted := h.interrupted || !v.tasks.runTask.generates } rfl
  refine ⟨?_, ?_, ?_⟩
  · intro index flow hflow
    unfold CallHistory.pairsFor CallHistory.sourcesFor
    rw [hcalls]
    split
    · next hsame =>
        cases hsame
        rw [hsubmits.entry] at hflow
        cases hflow
        have hbefore := hwalked.chosen key.1 entry hsubmits.entry
        unfold CallHistory.pairsFor CallHistory.sourcesFor at hbefore
        rw [List.map_append, List.map_append, List.map_append, DestinationCursor.visits_append,
          hbefore]
        congr 1
        change [(key.2, some destination)] = _
        unfold CallHistory.sourcesFor at hwalk
        rw [← Option.some.inj hwalk, ← hdestination]
        rfl
    · exact hwalked.chosen index flow hflow
  · intro hrun
    rcases hafter with ⟨_, _, hsending⟩ | houtside
    · rw [hrun] at hsending
      cases hsending
    · rw [hrun] at houtside
      cases houtside
  · intro _ g' hg' index flow hflow
    rw [hgeneration] at hg'
    cases hg'
    unfold CallHistory.sourcesFor
    rw [hcalls]
    split
    · next hsame =>
        cases hsame
        rw [hsubmits.entry] at hflow
        cases hflow
        have hindex := (List.getElem?_eq_some_iff.mp hcursor).1
        rw [List.getElem?_set_self hindex, List.map_append]
        change _ = some (DestinationCursor.after h.nodeIds entry _ (_ ++ [key.2]))
        unfold CallHistory.sourcesFor at hwalk
        rw [DestinationCursor.after_concat, ← Option.some.inj hwalk]
    · next hother =>
        rw [List.getElem?_set_ne hother]
        exact hwalked.cursors hin g hg index flow hflow

/-- The calls of the run are on schedule, and its flows walk their cursors. -/
structure Walking (s : ScheduledTasks R × CallHistory) : Prop extends Scheduling s where
  walked : ∀ request, s.2.request = some request → request.kind = .directText →
    Walked request s.1 s.2

/-- A step of the run task keeps the walks. -/
theorem Walked.run (hwalked : Walked request u h) (hon : OnSchedule request u h)
    (hstructured : Structured u.tasks) (hdirect : request.kind = .directText) {m : Moment}
    {input : RunInput} (hstep : step R pb u (.run m input) = some v) :
    Walked request v (noteCalls h u (.run m input) v) := by
  cases input with
  | begun => exact hwalked.begun hon hstructured hstep
  | submit flow source pick draws => exact hwalked.submit hon hstructured hdirect hstep
  | sent exception last => exact hwalked.sent hstep
  | _ =>
      obtain ⟨ht, _⟩ := step_of_alone (by simp) (by simp) (by simp) hstep
      have houtside := generates_of_run (by simp) (by simp) (by simp) ht
      have hresume := ht
      unfold TrafficTasks.step at hresume
      dsimp only at hresume
      split at hresume
      · cases hresume
      · exact hwalked.leave rfl rfl (leaves_resumeRun pb houtside hresume).outside

/-- A step keeps the walks. -/
theorem Walking.step {s : ScheduledTasks R × CallHistory} {a : Action} (h : Walking s)
    (hwell : WellFormedStart s a) (hstep : ScheduledTasks.step R pb s.1 a = some v) :
    Walking (v, noteCalls s.2 s.1 a v) := by
  refine ⟨h.toScheduling.step hwell hstep, ?_⟩
  intro request hrequest hdirect
  cases a with
  | start m runId started scenarioSnapshot baseline =>
      unfold noteCalls at hrequest ⊢
      dsimp only at hrequest ⊢
      rcases start_onSchedule (h := s.2) hwell hstep with
        ⟨hdone, hscheduled, hon⟩ | ⟨hsame, hgeneration, _⟩
      · rw [if_pos ⟨hdone, hscheduled⟩] at hrequest ⊢
        cases hrequest
        refine ⟨fun index flow hflow => rfl, fun _ => rfl, fun hin => ?_⟩
        rcases hin with hrun | ⟨_, _, hrun⟩ <;> rw [hscheduled] at hrun <;> cases hrun
      · have hnot : ¬ (s.1.tasks.runTask = .done ∧ v.tasks.runTask = .scheduled) := by
          rw [hsame]
          rintro ⟨hdone, hscheduled⟩
          rw [hdone] at hscheduled
          cases hscheduled
        rw [if_neg hnot] at hrequest ⊢
        refine (h.walked request hrequest hdirect).keep rfl rfl (fun hrun => hsame ▸ hrun) ?_
        intro hin
        unfold InLoop at hin ⊢
        rw [hsame] at hin
        exact ⟨hin, fun g hg => ⟨g, hgeneration ▸ hg, rfl⟩⟩
  | run m input =>
      have hbefore : s.2.request = some request :=
        (request_noteCalls_run s.2 s.1 m input v).symm.trans hrequest
      exact (h.walked request hbefore hdirect).run (h.onSchedule request hbefore)
        h.sound.structured hdirect hstep
  | cancelled =>
      obtain ⟨ht, _⟩ := step_of_alone (by simp) (by simp) (by simp) hstep
      exact (h.walked request hrequest hdirect).leave rfl rfl (leaves_cancelled pb ht).outside
  | _ =>
      obtain ⟨ht, hgeneration⟩ := step_of_alone (by simp) (by simp) (by simp) hstep
      exact (h.walked request hrequest hdirect).bystand rfl rfl (by simp) ht hgeneration

section Runs

variable {scenario : Scenario} {hardwareIds : Dict String Nat} {buildMetadata : BuildMetadata}
  {settleSeconds : Option ℚ} {failedReceptionSampler : Bool}

theorem walking_of_run {s : ScheduledTasks R × CallHistory}
    (hrun : Run (recorded (ScheduledTasks.step R pb) noteCalls) WellFormedStart
      (fresh R (.new scenario hardwareIds buildMetadata settleSeconds failedReceptionSampler))
      s) : Walking s := by
  refine hrun.invariant (I := Walking) ?_ ?_
  · rintro u a ⟨v, h⟩ hwalking hwell hstep
    obtain ⟨hstep, hrecord⟩ := recorded_eq_some.mp hstep
    rw [show h = _ from hrecord]
    exact hwalking.step hwell hstep
  · exact ⟨⟨(exact_new _ _ _ _ _).toSound, nofun⟩, nofun⟩

end Runs

/-! ## The order of a flow -/

theorem callsFor_ticks (h : CallHistory) (index : Nat) (entry : String × Nat) :
    entry ∈ (h.callsFor index).map (fun call => (call.source, call.tick)) ↔
      ((index, entry.1), entry.2) ∈ h.calls.map Call.entry := by
  obtain ⟨source, tick⟩ := entry
  unfold CallHistory.callsFor Call.entry
  simp only [List.mem_map, List.mem_filter, decide_eq_true_eq, Prod.mk.injEq]
  constructor
  · rintro ⟨call, ⟨hcall, hindex⟩, hsource, htick⟩
    exact ⟨call, hcall, ⟨hindex, hsource⟩, htick⟩
  · rintro ⟨call, hcall, ⟨hindex, hsource⟩, htick⟩
    exact ⟨call, ⟨hcall, hindex⟩, hsource, htick⟩

/-- The calls for a flow are the beginning of its own order, and all of it when the loop is
over. -/
theorem OnSchedule.own_order (hon : OnSchedule request u h) {index : Nat} {flow : TrafficFlow}
    (hflow : request.schedulingFlows[index]? = some flow) {whole : List (String × Nat)}
    (hwhole : ∀ entry, entry ∈ whole ↔ entry ∈ Merge.ticks flow.sourceNodes
      fun _ => request.messagesPerFlow flow)
    (hsorted : whole.Pairwise fun a b =>
      flow.rank R request.seed a.1 a.2 < flow.rank R request.seed b.1 b.2) :
    (h.callsFor index).map (fun call => (call.source, call.tick)) <+: whole ∧
      (h.isOver = true →
        (h.callsFor index).map (fun call => (call.source, call.tick)) = whole) := by
  obtain ⟨pending, hmerged, hat⟩ := hon.merged
  have hirrefl : Std.Irrefl fun a b : String × Nat =>
      flow.rank R request.seed a.1 a.2 < flow.rank R request.seed b.1 b.2 :=
    ⟨fun _ => lt_irrefl _⟩
  have htrans : IsTrans (String × Nat) fun a b =>
      flow.rank R request.seed a.1 a.2 < flow.rank R request.seed b.1 b.2 :=
    ⟨fun _ _ _ => lt_trans⟩
  have hpart : (h.callsFor index).map (fun call => (call.source, call.tick)) <+: whole ∧
      (pending.items = [] →
        (h.callsFor index).map (fun call => (call.source, call.tick)) = whole) := by
    refine hmerged.prefix_of_part (fun source => (index, source)) (hon.scheduled.ranked R)
      hon.scheduled.nodup_cursors (callsFor_ticks h index) ?_ ?_ hsorted ?_
    · have hcalls := List.pairwise_map.mp hmerged.sorted
      refine List.pairwise_map.mpr ((hcalls.filter _).imp_of_mem ?_)
      intro a b ha hb hlt
      have hsame : ∀ call ∈ h.callsFor index, call.flow = index := fun call hcall =>
        of_decide_eq_true (List.mem_filter.mp hcall).2
      unfold Call.entry at hlt
      rw [hsame a ha, hsame b hb] at hlt
      exact (rank_lt_of_flow hflow).mp hlt
    · rintro ⟨source, tick⟩
      have hmessages : request.cursorMessages (index, source) = request.messagesPerFlow flow := by
        unfold TrafficRunRequest.cursorMessages
        rw [hflow]
      rw [hwhole, Merge.mem_ticks, Merge.mem_ticks, TrafficRunRequest.mem_cursors, hmessages]
      simp [hflow]
    · exact fun a _ b _ hlt => (rank_lt_of_flow hflow).mpr hlt
  exact ⟨hpart.1, fun hover => hpart.2 (hat.finished hover)⟩

/-- What has been submitted for a flow is the beginning of the walk along its own order, and
all of it when the loop is over. -/
theorem Walking.planned {s : ScheduledTasks R × CallHistory} (hwalking : Walking s)
    (hrequest : s.2.request = some request) (hdirect : request.kind = .directText)
    {index : Nat} {flow : TrafficFlow} (hflow : request.schedulingFlows[index]? = some flow)
    {whole : List (String × Nat)} (hwhole : ∀ entry, entry ∈ whole ↔
      entry ∈ Merge.ticks flow.sourceNodes fun _ => request.messagesPerFlow flow)
    (hsorted : whole.Pairwise fun a b =>
      flow.rank R request.seed a.1 a.2 < flow.rank R request.seed b.1 b.2) :
    (s.2.pairsFor index).map visited <+:
        DestinationCursor.visits s.2.nodeIds flow (request.destinationCursor R flow)
          (whole.map Prod.fst) ∧
      (s.2.isOver = true → (s.2.pairsFor index).map visited =
        DestinationCursor.visits s.2.nodeIds flow (request.destinationCursor R flow)
          (whole.map Prod.fst)) := by
  obtain ⟨hbeginning, hall⟩ :=
    (hwalking.onSchedule request hrequest).own_order hflow hwhole hsorted
  have hsources : s.2.sourcesFor index =
      ((s.2.callsFor index).map fun call => (call.source, call.tick)).map Prod.fst := by
    rw [List.map_map]
    rfl
  rw [(hwalking.walked request hrequest hdirect).chosen index flow hflow, hsources]
  constructor
  · exact DestinationCursor.visits_prefix _ (hbeginning.map Prod.fst)
  · intro hover
    rw [hall hover]

theorem visited_injective : Function.Injective visited := by
  rintro ⟨a, b⟩ ⟨c, d⟩ heq
  obtain ⟨hsource, hdestination⟩ := Prod.mk.inj heq
  exact Prod.ext hsource (Option.some.inj hdestination)

/-- The destinations of a named flow begin where its name and the seed say. -/
theorem destinationCursor_of_named {request' : TrafficRunRequest} {flow : TrafficFlow}
    (hnamed : request.flows ≠ []) (hnamed' : request'.flows ≠ [])
    (hseed : request.seed = request'.seed) :
    request.destinationCursor R flow = request'.destinationCursor R flow := by
  unfold TrafficRunRequest.destinationCursor TrafficRunRequest.destinationSeed
  rw [if_neg (by simpa using hnamed), if_neg (by simpa using hnamed'), hseed]

section Pairs

variable {pb' : Protobuf} {scenario scenario' : Scenario}
  {hardwareIds hardwareIds' : Dict String Nat}
  {buildMetadata buildMetadata' : BuildMetadata} {settleSeconds settleSeconds' : Option ℚ}
  {failedReceptionSampler failedReceptionSampler' : Bool}

/-- Two runs of direct texts with one seed, one duration and the same nodes submit the same
pairs of sources and destinations for a named flow of both. -/
theorem flows_do_not_interfere {s s' : ScheduledTasks R × CallHistory}
    {request request' : TrafficRunRequest} {index index' : Nat} {flow : TrafficFlow}
    (hrun : Run (recorded (ScheduledTasks.step R pb) noteCalls) WellFormedStart
      (fresh R (.new scenario hardwareIds buildMetadata settleSeconds failedReceptionSampler))
      s)
    (hrun' : Run (recorded (ScheduledTasks.step R pb') noteCalls) WellFormedStart
      (fresh R (.new scenario' hardwareIds' buildMetadata' settleSeconds'
        failedReceptionSampler')) s')
    (hrequest : s.2.request = some request) (hrequest' : s'.2.request = some request')
    (hdirect : request.kind = .directText) (hdirect' : request'.kind = .directText)
    (hseed : request.seed = request'.seed)
    (hduration : request.durationSeconds = request'.durationSeconds)
    (hnodeIds : s.2.nodeIds = s'.2.nodeIds)
    (hflow : request.flows[index]? = some flow) (hflow' : request'.flows[index']? = some flow) :
    (s.2.pairsFor index <+: s'.2.pairsFor index' ∨ s'.2.pairsFor index' <+: s.2.pairsFor index) ∧
      (s.2.isOver = true → s'.2.pairsFor index' <+: s.2.pairsFor index) ∧
      (s.2.isOver = true → s'.2.isOver = true →
        s.2.pairsFor index = s'.2.pairsFor index') := by
  have hwalking := walking_of_run hrun
  have hwalking' := walking_of_run hrun'
  have hnamed : ∀ {request : TrafficRunRequest} {index : Nat},
      request.flows[index]? = some flow → request.flows ≠ [] ∧
        request.schedulingFlows[index]? = some flow := by
    intro request index hflow
    have hne : request.flows ≠ [] := List.ne_nil_of_mem (List.mem_of_getElem? hflow)
    unfold TrafficRunRequest.schedulingFlows
    rw [if_neg (by simpa using hne)]
    exact ⟨hne, hflow⟩
  obtain ⟨hne, hscheduled⟩ := hnamed hflow
  obtain ⟨hne', hscheduled'⟩ := hnamed hflow'
  have hon := (hwalking.onSchedule request hrequest).scheduled
  have hmember := List.mem_of_getElem? hscheduled
  obtain ⟨whole, hwhole, hsorted⟩ : ∃ whole : List (String × Nat),
      (∀ entry, entry ∈ whole ↔
        entry ∈ Merge.ticks flow.sourceNodes fun _ => request.messagesPerFlow flow) ∧
      whole.Pairwise fun a b =>
        flow.rank R request.seed a.1 a.2 < flow.rank R request.seed b.1 b.2 :=
    Merge.exists_sorted_ticks (TrafficFlow.ranked R request.seed (hon.rates flow hmember))
      (hon.distinct flow hmember)
  have hwhole' : ∀ entry, entry ∈ whole ↔
      entry ∈ Merge.ticks flow.sourceNodes fun _ => request'.messagesPerFlow flow := by
    have hmessages : request'.messagesPerFlow flow = request.messagesPerFlow flow := by
      unfold TrafficRunRequest.messagesPerFlow
      rw [hduration]
    rw [hmessages]
    exact hwhole
  obtain ⟨hbeginning, hall⟩ := hwalking.planned hrequest hdirect hscheduled hwhole hsorted
  obtain ⟨hbeginning', hall'⟩ :=
    hwalking'.planned hrequest' hdirect' hscheduled' hwhole' (hseed ▸ hsorted)
  rw [← hnodeIds, ← destinationCursor_of_named hne hne' hseed] at hbeginning' hall'
  refine ⟨?_, ?_, ?_⟩
  · exact (List.prefix_or_prefix_of_prefix hbeginning hbeginning').imp
      (List.prefix_map_iff_of_injective visited_injective).mp
      (List.prefix_map_iff_of_injective visited_injective).mp
  · intro hover
    rw [← hall hover] at hbeginning'
    exact (List.prefix_map_iff_of_injective visited_injective).mp hbeginning'
  · intro hover hover'
    exact visited_injective.list_map ((hall hover).trans (hall' hover').symm)

/-- Three nodes that hear nothing. -/
def quietScenario : Scenario where
  name := "quiet"
  nodeCount := 3
  nodes := [{ id := "node-1", apiPort := 45001 }, { id := "node-2", apiPort := 45002 },
    { id := "node-3", apiPort := 45003 }]
  links := []

/-- A controller of the three nodes, with nothing running. -/
def quietTasks : TrafficTasks :=
  .new quietScenario
    ((∅ : Dict String Nat).update [("node-1", 1), ("node-2", 2), ("node-3", 3)]) .unavailable
    none false

/-- Two sources that draw their destinations from one stream. -/
def rumour : TrafficFlow where
  name := "rumour"
  sourceNodes := ["node-1", "node-2"]
  destinationStrategy := .deterministicRandom
  messagesPerMinute := 60

/-- A source that takes its destinations in turn. -/
def rounds : TrafficFlow where
  name := "rounds"
  sourceNodes := ["node-3"]
  destinationStrategy := .roundRobin
  messagesPerMinute := 30

/-- The stream of the rumour, then the turns. -/
def rumourFirst : TrafficRunRequest where
  kind := .directText
  durationSeconds := 2
  flows := [rumour, rounds]

/-- Another stream before the turns and the rumour. -/
def rumourLast : TrafficRunRequest where
  kind := .directText
  durationSeconds := 2
  flows :=
    [{ name := "whisper"
       sourceNodes := ["node-1"]
       destinationStrategy := .deterministicRandom
       messagesPerMinute := 30 }, rounds, rumour]

/-- All messages of the first request are generated. -/
def generatedFirst : List Action :=
  [.start pairMoment "run" rumourFirst none none,
    .run pairMoment .begun,
    .run pairMoment (.submit 0 0 0 [3]),
    .run pairMoment (.sent none false),
    .run pairMoment (.submit 0 1 1 [4]),
    .run pairMoment (.sent none false),
    .run pairMoment (.submit 1 0 0 [5]),
    .run pairMoment (.sent none false),
    .run pairMoment (.submit 0 0 0 [6]),
    .run pairMoment (.sent none false),
    .run pairMoment (.submit 0 1 1 [7]),
    .run pairMoment (.sent none true)]

/-- All messages of the second request are generated. -/
def generatedLast : List Action :=
  [.start pairMoment "other" rumourLast none none,
    .run pairMoment .begun,
    .run pairMoment (.submit 0 0 1 [3]),
    .run pairMoment (.sent none false),
    .run pairMoment (.submit 1 0 0 [4]),
    .run pairMoment (.sent none false),
    .run pairMoment (.submit 2 0 0 [5]),
    .run pairMoment (.sent none false),
    .run pairMoment (.submit 2 1 1 [6]),
    .run pairMoment (.sent none false),
    .run pairMoment (.submit 2 0 0 [7]),
    .run pairMoment (.sent none false),
    .run pairMoment (.submit 2 1 1 [8]),
    .run pairMoment (.sent none true)]

/-- The two runs submit the same messages for the rumour, which is the first flow of one and
the last of the other. -/
theorem rumour_pairs_in_both_runs :
    ∃ s s', exec (recorded (ScheduledTasks.step countingRandomness pairProtobuf) noteCalls)
        generatedFirst (fresh countingRandomness quietTasks) = some s ∧
      exec (recorded (ScheduledTasks.step countingRandomness pairProtobuf) noteCalls)
        generatedLast (fresh countingRandomness quietTasks) = some s' ∧
      s.2.pairsFor 0 = [("node-1", "node-2"), ("node-2", "node-3"), ("node-1", "node-2"),
        ("node-2", "node-3")] ∧
      s.2.pairsFor 0 = s'.2.pairsFor 2 := by
  have hstate : (exec (recorded (ScheduledTasks.step countingRandomness pairProtobuf) noteCalls)
      generatedFirst (fresh countingRandomness quietTasks)).map
        (fun s => (s.2.request, s.2.nodeIds, s.2.isOver, s.2.pairsFor 0)) =
      some (some rumourFirst, ["node-1", "node-2", "node-3"], true,
        [("node-1", "node-2"), ("node-2", "node-3"), ("node-1", "node-2"),
          ("node-2", "node-3")]) := by
    decide +kernel
  have hstate' : (exec (recorded (ScheduledTasks.step countingRandomness pairProtobuf) noteCalls)
      generatedLast (fresh countingRandomness quietTasks)).map
        (fun s => (s.2.request, s.2.nodeIds, s.2.isOver)) =
      some (some rumourLast, ["node-1", "node-2", "node-3"], true) := by
    decide +kernel
  have hwell : Conforms
      (recorded (ScheduledTasks.step countingRandomness pairProtobuf) noteCalls)
      WellFormedStart generatedFirst (fresh countingRandomness quietTasks) := by
    decide +kernel
  have hwell' : Conforms
      (recorded (ScheduledTasks.step countingRandomness pairProtobuf) noteCalls)
      WellFormedStart generatedLast (fresh countingRandomness quietTasks) := by
    decide +kernel
  obtain ⟨s, hexec, hstate⟩ := Option.map_eq_some_iff.mp hstate
  obtain ⟨s', hexec', hstate'⟩ := Option.map_eq_some_iff.mp hstate'
  simp only [Prod.mk.injEq] at hstate hstate'
  obtain ⟨hrequest, hnodeIds, hover, hpairs⟩ := hstate
  obtain ⟨hrequest', hnodeIds', hover'⟩ := hstate'
  have hflow : rumourFirst.flows[0]? = some rumour := rfl
  have hflow' : rumourLast.flows[2]? = some rumour := rfl
  obtain ⟨_, _, hsame⟩ := flows_do_not_interfere (.of_exec hexec hwell) (.of_exec hexec' hwell')
    hrequest hrequest' rfl rfl rfl rfl (hnodeIds.trans hnodeIds'.symm) hflow hflow'
  exact ⟨s, s', hexec, hexec', hpairs, hsame hover hover'⟩

end Pairs

end ScheduledTasks

end MeshtasticLab.Traffic

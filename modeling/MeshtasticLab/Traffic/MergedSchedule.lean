/-
  Traffic/MergedSchedule.lean --- the merged schedule is complete and in order.

  WHAT THIS FILE IS FOR

  The calls of `_submit` are kept in a history.  At every moment they are the
  beginning of the merge of all cursors: each message of a cursor once, in the order
  of the due times, numbered from one.  A run that leaves its loop has submitted
  every message.
-/
import MeshtasticLab.Traffic.Cursors
import MeshtasticLab.Traffic.Loop

set_option autoImplicit false

namespace MeshtasticLab.Traffic

open MeshtasticLab.Foundation MeshtasticLab.Gateway MeshtasticLab.Metrics MeshtasticLab.Models
open TrafficController TrafficTasks

/-- One call of `_submit`: the cursor it is made for, its destination and the sequence
number that it is given. -/
structure Call where
  flow : Nat
  source : String
  tick : Nat
  destination : String
  sequence : Nat
  deriving DecidableEq

/-- The cursor of a call and its tick. -/
def Call.entry (call : Call) : (Nat × String) × Nat := ((call.flow, call.source), call.tick)

/-- When a call is due, after the start. -/
def Call.due (R : Randomness) (request : TrafficRunRequest) (call : Call) : ℚ :=
  request.due R (call.flow, call.source) call.tick

/-- The place of the source of a call in its flow. -/
def Call.position (request : TrafficRunRequest) (call : Call) : Nat :=
  request.position (call.flow, call.source)

/-- A call comes before another one: it is due earlier, or at the same time and has the
smaller flow index, or the same and the smaller position. -/
def Call.Before (R : Randomness) (request : TrafficRunRequest) (a b : Call) : Prop :=
  a.due R request < b.due R request ∨
    a.due R request = b.due R request ∧
      (a.flow < b.flow ∨ a.flow = b.flow ∧ a.position request < b.position request)

/-- What is remembered of a run: what it was asked to do and among which nodes, the calls
of `_submit` in order, whether its loop came to its end, and whether it was cancelled or
raised. -/
structure CallHistory where
  request : Option TrafficRunRequest := none
  nodeIds : List String := []
  calls : List Call := []
  isOver : Bool := false
  interrupted : Bool := false

namespace ScheduledTasks

variable {R : Randomness} {u v : ScheduledTasks R} {h : CallHistory}

/-- The history after a step. -/
def noteCalls (h : CallHistory) (u : ScheduledTasks R) (a : Action) (v : ScheduledTasks R) :
    CallHistory :=
  match a with
  | .start _ _ request _ _ =>
      if u.tasks.runTask = .done ∧ v.tasks.runTask = .scheduled then
        { request := some request, nodeIds := v.tasks.controller.runScenario.nodeIds }
      else h
  | .run _ (.submit flow source pick _) =>
      let h := { h with interrupted := h.interrupted || !v.tasks.runTask.generates }
      match v.generation.bind (·.selected), u.tasks.submission flow source pick with
      | some (_, tick), some (source, destination, _) =>
          { h with
            calls := h.calls ++
              [{ flow := flow
                 source := source
                 tick := tick
                 destination := destination
                 sequence := u.tasks.controller.accumulators.sequence + 1 }] }
      | _, _ => h
  | .run _ (.sent _ last) => { h with isOver := h.isOver || last }
  | .cancelled => { h with interrupted := true }
  | _ => h

/-- A request that is handed to `start` is an object of its type. -/
def WellFormedStart (_ : ScheduledTasks R × CallHistory) (a : Action) : Prop :=
  match a with
  | .start _ _ request _ _ => request.WellFormed
  | _ => True

/-- Where the run task is in its loop, and what its cursors have left. -/
structure AtCursor (request : TrafficRunRequest) (u : ScheduledTasks R) (h : CallHistory)
    (pending : Dict (Nat × String) Nat) : Prop where
  finished : h.isOver = true → pending.items = []
  outside : u.tasks.runTask.generates = false → h.isOver = true ∨ h.interrupted = true
  scheduled : u.tasks.runTask = .scheduled → pending = Merge.start request.cursors
  sleeping : u.tasks.runTask = .sleeping → pending.items ≠ [] ∧
    ∃ g, u.generation = some g ∧ g.request = request ∧
      g.destinations.length = request.schedulingFlows.length ∧ g.nextTick = pending
  sending : ∀ source ref, u.tasks.runTask = .sending source ref →
    ∃ g key tick, u.generation = some g ∧ g.request = request ∧
      g.destinations.length = request.schedulingFlows.length ∧ g.selected = some (key, tick) ∧
      pending = Merge.advance request.cursorMessages g.nextTick key tick

/-- The calls of a run are the beginning of the merge of its cursors. -/
structure OnSchedule (request : TrafficRunRequest) (u : ScheduledTasks R) (h : CallHistory) :
    Prop where
  scheduled : request.Scheduled
  identity : ∃ runId, u.tasks.controller.frame.request = some (runId, request)
  nodeIds : u.tasks.controller.runScenario.nodeIds = h.nodeIds
  sequence : u.tasks.controller.accumulators.sequence = h.calls.length
  numbered : h.calls.map (·.sequence) = List.range' 1 h.calls.length
  merged : ∃ pending, Merge.Merged request.cursors (request.rank R) request.cursorMessages
    (h.calls.map Call.entry) pending ∧ AtCursor request u h pending

/-! ## Steps -/

/-- Outside the loop it is over or interrupted. -/
theorem atCursor_outside {request : TrafficRunRequest} {pending : Dict (Nat × String) Nat}
    (hfinished : h.isOver = true → pending.items = [])
    (houtside : u.tasks.runTask.generates = false)
    (hended : h.isOver = true ∨ h.interrupted = true) : AtCursor request u h pending := by
  have habsent : ∀ pc : RunPc, u.tasks.runTask = pc → pc.generates = true → False := by
    intro pc hpc hgenerates
    rw [hpc, hgenerates] at houtside
    cases houtside
  refine ⟨hfinished, fun _ => hended, ?_, ?_, ?_⟩
  · exact fun hpc => (habsent _ hpc rfl).elim
  · exact fun hpc => (habsent _ hpc rfl).elim
  · exact fun source ref hpc => (habsent _ hpc rfl).elim

/-- The run task stays where it is. -/
theorem AtCursor.bystand {request : TrafficRunRequest} {pending : Dict (Nat × String) Nat}
    (hat : AtCursor request u h pending) (hgeneration : v.generation = u.generation)
    (hkind : v.tasks.runTask.kind = u.tasks.runTask.kind) : AtCursor request v h pending := by
  have hsame : ∀ pc : RunPc, v.tasks.runTask = pc → pc.generates = true →
      u.tasks.runTask = pc := by
    intro pc hpc hgenerates
    rw [hpc] at hkind
    exact RunPc.eq_of_kind hkind hgenerates
  refine ⟨hat.finished, ?_, ?_, ?_, ?_⟩
  · intro houtside
    cases hbefore : u.tasks.runTask.generates with
    | false => exact hat.outside hbefore
    | true =>
        rw [RunPc.eq_of_kind hkind.symm hbefore, hbefore] at houtside
        cases houtside
  · exact fun hpc => hat.scheduled (hsame _ hpc rfl)
  · intro hpc
    rw [hgeneration]
    exact hat.sleeping (hsame _ hpc rfl)
  · intro source ref hpc
    rw [hgeneration]
    exact hat.sending source ref (hsame _ hpc rfl)

variable {request : TrafficRunRequest} {pb : Protobuf} {h' : CallHistory}

/-- A step of the tasks that keeps the calls, when the run task is where it should be. -/
theorem OnSchedule.keep (hon : OnSchedule request u h) (hstructured : Structured u.tasks)
    {a : Action} (hstarts : a.starts = false)
    (hstep : TrafficTasks.step pb u.tasks a = some v.tasks)
    (hsequence : v.tasks.controller.accumulators.sequence =
      u.tasks.controller.accumulators.sequence)
    (hcalls : h'.calls = h.calls) (hnodeIds : h'.nodeIds = h.nodeIds)
    (hat : ∀ pending, AtCursor request u h pending → AtCursor request v h' pending) :
    OnSchedule request v h' := by
  obtain ⟨hrequest, hscenario⟩ := step_identity pb hstructured hstarts hstep
  obtain ⟨pending, hmerged, hbefore⟩ := hon.merged
  refine ⟨hon.scheduled, ?_, ?_, ?_, ?_, pending, ?_, hat pending hbefore⟩
  · obtain ⟨runId, hidentity⟩ := hon.identity
    exact ⟨runId, hrequest.trans hidentity⟩
  · rw [hscenario, hnodeIds]
    exact hon.nodeIds
  · rw [hsequence, hcalls]
    exact hon.sequence
  · rw [hcalls]
    exact hon.numbered
  · rw [hcalls]
    exact hmerged

/-- Every step of the scheduled tasks is one of the tasks. -/
theorem tasks_step {a : Action} (hstep : step R pb u a = some v) :
    TrafficTasks.step pb u.tasks a = some v.tasks := by
  unfold step at hstep
  obtain ⟨t, ht, hstep⟩ := Option.bind_eq_some_iff.mp hstep
  split at hstep
  · obtain ⟨_, _, hstep⟩ := Option.bind_eq_some_iff.mp hstep
    cases hstep
    exact ht
  · obtain ⟨_, _, hstep⟩ := Option.bind_eq_some_iff.mp hstep
    obtain ⟨_, _, hstep⟩ := Option.bind_eq_some_iff.mp hstep
    dsimp only at hstep
    split at hstep
    · cases hstep
      exact ht
    · cases hstep
  · obtain ⟨_, _, hstep⟩ := Option.bind_eq_some_iff.mp hstep
    dsimp only at hstep
    split at hstep
    · cases hstep
      exact ht
    · cases hstep
  · cases hstep
    exact ht

/-- A step of the tasks alone. -/
theorem step_of_alone {a : Action} (halone : ∀ m, a ≠ .run m .begun)
    (hsubmit : ∀ m flow source pick draws, a ≠ .run m (.submit flow source pick draws))
    (hsent : ∀ m exception last, a ≠ .run m (.sent exception last))
    (hstep : step R pb u a = some v) :
    TrafficTasks.step pb u.tasks a = some v.tasks ∧ v.generation = u.generation := by
  unfold step at hstep
  obtain ⟨t, ht, hstep⟩ := Option.bind_eq_some_iff.mp hstep
  split at hstep
  · exact absurd rfl (halone _)
  · exact absurd rfl (hsubmit _ _ _ _ _)
  · exact absurd rfl (hsent _ _ _)
  · cases hstep
    exact ⟨ht, rfl⟩

/-- A call of `start` that returns has accepted the request. -/
theorem start_accepts {c d : TrafficController} {m : Moment} {runId : String}
    {taskActive : Bool} {scenarioSnapshot : Option Scenario}
    {baseline : Option FailedReceptionSample} {started : String}
    (hstart : c.start m runId taskActive request scenarioSnapshot baseline = (d, .ok started)) :
    request.validateRequestNodes (scenarioSnapshot.getD c.scenario).nodeIds
        request.schedulingFlows = .ok () ∧
      request.maximumSequence ≤ MAX_TRAFFIC_MESSAGES_PER_RUN ∧
      d.frame.request = some (runId, request) ∧ d.accumulators.sequence = 0 ∧
      d.runScenario = scenarioSnapshot.getD c.scenario := by
  unfold TrafficController.start at hstart
  dsimp only at hstart
  split at hstart
  · cases hstart
  · split at hstart
    · cases hstart
    · next hvalid =>
        split at hstart
        · cases hstart
        · next hbounded =>
            split at hstart
            · cases hstart
            · split at hstart
              · cases hstart
              · next reset hreset =>
                  unfold resetAccumulators at hreset
                  split at hreset <;> cases hreset
                  split at hstart
                  · cases hstart
                  · cases hstart
                    exact ⟨hvalid, Nat.le_of_not_lt hbounded, rfl, rfl, rfl⟩

/-- A state that only differs in what the calls do not rest on. -/
theorem OnSchedule.congr (hon : OnSchedule request u h)
    (hframe : v.tasks.controller.frame = u.tasks.controller.frame)
    (haccumulators : v.tasks.controller.accumulators = u.tasks.controller.accumulators)
    (hrun : v.tasks.runTask = u.tasks.runTask) (hgeneration : v.generation = u.generation) :
    OnSchedule request v h := by
  obtain ⟨pending, hmerged, hat⟩ := hon.merged
  refine ⟨hon.scheduled, ?_, ?_, ?_, hon.numbered, pending, hmerged,
    hat.bystand hgeneration (congrArg RunPc.kind hrun)⟩
  · rw [hframe]
    exact hon.identity
  · have hscenario : v.tasks.controller.runScenario = u.tasks.controller.runScenario :=
      congrArg Frame.runScenario hframe
    rw [hscenario]
    exact hon.nodeIds
  · rw [haccumulators]
    exact hon.sequence

/-- `start` raises and the calls are kept, or a run begins whose calls have yet to be
made. -/
theorem start_onSchedule (hwell : request.WellFormed) {m : Moment} {runId : String}
    {scenarioSnapshot : Option Scenario} {baseline : Option FailedReceptionSample}
    (hstep : step R pb u (.start m runId request scenarioSnapshot baseline) = some v) :
    (u.tasks.runTask = .done ∧ v.tasks.runTask = .scheduled ∧
      OnSchedule request v
        { request := some request, nodeIds := v.tasks.controller.runScenario.nodeIds }) ∨
    (v.tasks.runTask = u.tasks.runTask ∧ v.generation = u.generation ∧
      ∀ request, OnSchedule request u h → OnSchedule request v h) := by
  obtain ⟨hstep, hgeneration⟩ := step_of_alone (by simp) (by simp) (by simp) hstep
  unfold TrafficTasks.step at hstep
  dsimp only at hstep
  split at hstep
  · have hstarted : v.tasks = u.tasks.started m runId request scenarioSnapshot baseline :=
      (Option.some.inj hstep).symm
    unfold started at hstarted
    split at hstarted
    · next c error hstart =>
        right
        rcases start_cases False hstart with ⟨_, _, hbooks, _, haccumulators, _⟩ | ⟨hok, _⟩
        · have hrun : v.tasks.runTask = u.tasks.runTask := by
            rw [hstarted]
            rfl
          refine ⟨hrun, hgeneration, fun request hon => hon.congr ?_ ?_ hrun hgeneration⟩
          · rw [hstarted]
            exact hbooks.frame
          · rw [hstarted]
            exact haccumulators
        · cases hok
    · next c outcome hstart =>
        left
        obtain ⟨hvalid, hbounded, hidentity, hsequence, _⟩ := start_accepts hstart
        have hscheduled := hwell.scheduled hvalid hbounded
        rcases start_cases False hstart with ⟨_, hraised, _⟩ | ⟨_, hactive, _⟩
        · cases hraised
        · refine ⟨by simpa using hactive, by rw [hstarted], hscheduled, ?_, rfl, ?_, rfl, ?_⟩
          · rw [hstarted]
            exact ⟨runId, hidentity⟩
          · rw [hstarted]
            exact hsequence
          · have hcount : ∀ key ∈ request.cursors, 0 < request.cursorMessages key :=
              fun key => TrafficRunRequest.cursorMessages_pos
            refine ⟨_, Merge.merged_start hcount, by simp, ?_, fun _ => rfl, ?_, ?_⟩ <;>
              rw [hstarted]
            · exact fun houtside => absurd houtside (by simp [RunPc.generates])
            · exact fun hpc => by cases hpc
            · exact fun source ref hpc => by cases hpc
  · cases hstep

/-- Packets, reports, `stop` and `fail` keep the calls. -/
theorem OnSchedule.bystand (hon : OnSchedule request u h) (hstructured : Structured u.tasks)
    {a : Action} (hstarts : a.starts = false) (hruns : a.runs = false)
    (hcancelled : a ≠ .cancelled) (hstep : TrafficTasks.step pb u.tasks a = some v.tasks)
    (hgeneration : v.generation = u.generation) : OnSchedule request v h := by
  have hbystands := step_bystands pb hstarts hruns hcancelled hstep
  exact hon.keep hstructured hstarts hstep hbystands.sequence rfl rfl
    fun _ hat => hat.bystand hgeneration hbystands.kind

/-- So does the cancellation of the run task. -/
theorem OnSchedule.cancelled (hon : OnSchedule request u h) (hstructured : Structured u.tasks)
    (hstep : TrafficTasks.step pb u.tasks .cancelled = some v.tasks) :
    OnSchedule request v { h with interrupted := true } := by
  have hleaves := leaves_cancelled pb hstep
  exact hon.keep hstructured rfl hstep hleaves.sequence rfl rfl
    fun _ hat => atCursor_outside hat.finished hleaves.outside (Or.inr rfl)

/-- Outside its loop the run task keeps the calls. -/
theorem OnSchedule.outside (hon : OnSchedule request u h) (hstructured : Structured u.tasks)
    {m : Moment} {input : RunInput} (houtside : u.tasks.runTask.generates = false)
    (hstep : TrafficTasks.step pb u.tasks (.run m input) = some v.tasks) :
    OnSchedule request v h := by
  have hresume := hstep
  unfold TrafficTasks.step at hresume
  dsimp only at hresume
  split at hresume
  · cases hresume
  · have hleaves := leaves_resumeRun pb houtside hresume
    exact hon.keep hstructured rfl hstep hleaves.sequence rfl rfl
      fun _ hat => atCursor_outside hat.finished hleaves.outside (hat.outside houtside)

/-- The run task enters its loop with the cursors of the request. -/
theorem begun_cases (hon : OnSchedule request u h) (hstructured : Structured u.tasks)
    {m : Moment} (hstep : step R pb u (.run m .begun) = some v) :
    u.tasks.runTask = .scheduled ∧ v.tasks = { u.tasks with runTask := .sleeping } ∧
      v.generation = some (.enter R request) := by
  unfold step at hstep
  obtain ⟨t, ht, hstep⟩ := Option.bind_eq_some_iff.mp hstep
  obtain ⟨run, hcurrent, hstep⟩ := Option.bind_eq_some_iff.mp hstep
  cases hstep
  unfold TrafficTasks.step at ht
  dsimp only at ht
  split at ht
  · cases ht
  · cases hrun : u.tasks.runTask with
    | scheduled =>
        rw [hrun] at ht
        cases ht
        obtain ⟨runId, hidentity⟩ := hon.identity
        have hsame := hstructured.request_of_current (by simp [hrun]) hcurrent
        rw [hidentity] at hsame
        cases hsame
        exact ⟨rfl, rfl, rfl⟩
    | _ =>
        rw [hrun] at ht
        cases ht

theorem OnSchedule.begun (hon : OnSchedule request u h) (hstructured : Structured u.tasks)
    {m : Moment} (hstep : step R pb u (.run m .begun) = some v) : OnSchedule request v h := by
  obtain ⟨hscheduled, htasks, hgeneration⟩ := begun_cases hon hstructured hstep
  have hsleeping : v.tasks.runTask = .sleeping := by rw [htasks]
  refine hon.keep hstructured rfl (tasks_step hstep) (by rw [htasks]) rfl rfl
    fun pending hat => ?_
  have hpending := hat.scheduled hscheduled
  refine ⟨hat.finished, ?_, ?_, ?_, ?_⟩
  · intro houtside
    rw [hsleeping] at houtside
    cases houtside
  · intro hpc
    rw [hsleeping] at hpc
    cases hpc
  · intro _
    refine ⟨?_, _, hgeneration, rfl, List.length_map _, hpending.symm⟩
    obtain ⟨key, hkey⟩ := List.exists_mem_of_ne_nil _ hon.scheduled.cursors_ne_nil
    have hget : (Merge.start request.cursors).get? key = some 0 := by
      rw [Merge.get?_start, if_pos hkey]
    rw [hpending]
    exact List.ne_nil_of_mem (Dict.get?_eq_some.mp hget)
  · intro source ref hpc
    rw [hsleeping] at hpc
    cases hpc

/-! ## Submissions -/

/-- The pick for a message of a flow, and the cursor of its destinations after that. -/
def pickFor (c : TrafficController) (request : TrafficRunRequest) (flow : TrafficFlow)
    (source : String) (cursor : DestinationCursor R) : Nat × DestinationCursor R :=
  cursor.pick request.kind flow.destinationStrategy source
    (c.runScenario.nodeIds.filter (· ≠ source)).length

/-- What the run task submits next: a message of some cursor and tick, whose flow has some
cursor of destinations. -/
structure Submits (request : TrafficRunRequest) (u v : ScheduledTasks R) (key : Nat × String)
    (tick : Nat) (flow : TrafficFlow) (cursor : DestinationCursor R) : Prop where
  before : ∃ g, u.generation = some g ∧ g.request = request ∧ g.select = some (key, tick) ∧
    g.destinations[key.1]? = some cursor ∧ v.generation = some
      { g with
        destinations :=
          g.destinations.set key.1 (pickFor u.tasks.controller request flow key.2 cursor).2
        selected := some (key, tick) }
  sleeping : u.tasks.runTask = .sleeping
  entry : request.schedulingFlows[key.1]? = some flow
  source : key.2 ∈ flow.sourceNodes

/-- A submission is for the cursor that is due first.  The choice of its destination raises,
or its call is the next of the history. -/
theorem submit_cases (hon : OnSchedule request u h) (hstructured : Structured u.tasks)
    {m : Moment} {flow source pick : Nat} {draws : List Nat}
    (hstep : step R pb u (.run m (.submit flow source pick draws)) = some v) :
    ∃ key tick entry cursor, Submits request u v key tick entry cursor ∧
      ((noteCalls h u (.run m (.submit flow source pick draws)) v =
          { h with interrupted := true } ∧ Leaves u.tasks v.tasks) ∨
      ∃ destination, noteCalls h u (.run m (.submit flow source pick draws)) v =
          { h with
            calls := h.calls ++ [⟨key.1, key.2, tick, destination, h.calls.length + 1⟩]
            interrupted := h.interrupted || !v.tasks.runTask.generates } ∧
        u.tasks.controller.chooseDestination request.kind entry.destinationStrategy
          entry.fixedDestination key.2
          (pickFor u.tasks.controller request entry key.2 cursor).1 = .ok destination ∧
        v.tasks.controller.accumulators.sequence =
          u.tasks.controller.accumulators.sequence + 1 ∧
        ((∃ from_ ref, v.tasks.runTask = .sending from_ ref) ∨
          v.tasks.runTask.generates = false)) := by
  unfold step at hstep
  obtain ⟨t, ht, hstep⟩ := Option.bind_eq_some_iff.mp hstep
  obtain ⟨g, hg, hstep⟩ := Option.bind_eq_some_iff.mp hstep
  obtain ⟨⟨call, g'⟩, hnext, hstep⟩ := Option.bind_eq_some_iff.mp hstep
  have hresume := ht
  unfold TrafficTasks.step at hresume
  dsimp only at hresume hstep
  split at hresume
  · cases hresume
  split at hstep
  · next hcall =>
    cases hstep
    cases hrun : u.tasks.runTask with
    | sleeping =>
        rw [hrun] at hresume
        obtain ⟨pending, hmerged, hat⟩ := hon.merged
        obtain ⟨_, g₀, hgeneration, hrequest, _, hnextTick⟩ := hat.sleeping hrun
        rw [hg] at hgeneration
        cases hgeneration
        unfold Generation.nextCall at hnext
        obtain ⟨⟨key, tick⟩, hselect, hnext⟩ := Option.bind_eq_some_iff.mp hnext
        obtain ⟨entry, hentry, hnext⟩ := Option.bind_eq_some_iff.mp hnext
        obtain ⟨cursor, hcursor, hnext⟩ := Option.bind_eq_some_iff.mp hnext
        cases hnext
        cases hcall
        rw [hrequest] at hentry
        -- The cursor is one of the request, so its source is in its flow.
        have hget := Merge.get?_of_next hselect
        rw [hnextTick] at hget
        obtain ⟨entry', hentry', hsource⟩ :=
          TrafficRunRequest.mem_cursors.mp (hmerged.ahead key tick hget).1
        rw [hentry] at hentry'
        cases hentry'
        refine ⟨key, tick, entry, cursor,
          ⟨⟨g, hg, hrequest, hselect, hcursor, ?_⟩, hrun, hentry, hsource⟩, ?_⟩
        · rw [← hrequest]
          rfl
        rcases runSubmit_cases pb hresume with ⟨hraised, hleaves⟩ |
          ⟨⟨from_, destination, name⟩, hsubmission, hsequence, hafter⟩
        · refine Or.inl ⟨?_, hleaves⟩
          unfold noteCalls
          dsimp only
          rw [hraised, hleaves.outside, Bool.not_false, Bool.or_true]
          rfl
        · obtain ⟨run, entry', hcurrent, hentry', hfrom, hchoose⟩ := submission_eq_some hsubmission
          obtain ⟨runId, hidentity⟩ := hon.identity
          have hsame := hstructured.request_of_current (by simp [hrun]) hcurrent
          rw [hidentity] at hsame
          cases hsame
          rw [hentry] at hentry'
          cases hentry'
          have hposition : g.request.position key = entry.sourceNodes.idxOf key.2 := by
            unfold TrafficRunRequest.position
            rw [hrequest, hentry]
          rw [hposition, List.getElem?_idxOf hsource] at hfrom
          cases hfrom
          refine Or.inr ⟨destination, ?_, ?_, hsequence, hafter⟩
          · unfold noteCalls
            dsimp only
            rw [hsubmission, hon.sequence]
            rfl
          · rw [← hchoose]
            unfold pickFor
            rw [hrequest]
    | _ =>
        rw [hrun] at hresume
        cases hresume
  · cases hstep

/-- The message that is due first is the next one of the merge. -/
theorem OnSchedule.submit (hon : OnSchedule request u h) (hstructured : Structured u.tasks)
    {m : Moment} {flow source pick : Nat} {draws : List Nat}
    (hstep : step R pb u (.run m (.submit flow source pick draws)) = some v) :
    OnSchedule request v (noteCalls h u (.run m (.submit flow source pick draws)) v) := by
  obtain ⟨key, tick, entry, cursor, hsubmits, hcases⟩ := submit_cases hon hstructured hstep
  have ht := tasks_step hstep
  rcases hcases with ⟨hkept, hleaves⟩ | ⟨destination, hnoted, _, hsequence, hafter⟩
  · rw [hkept]
    exact hon.keep hstructured rfl ht hleaves.sequence rfl rfl
      fun _ hat => atCursor_outside hat.finished hleaves.outside (Or.inr rfl)
  · obtain ⟨g, hg, hrequest, hselect, _, hgeneration⟩ := hsubmits.before
    obtain ⟨hidentity, hscenario⟩ := step_identity pb hstructured rfl ht
    obtain ⟨pending, hmerged, hat⟩ := hon.merged
    obtain ⟨hpending, g₀, hg₀, _, hlength, hnextTick⟩ := hat.sleeping hsubmits.sleeping
    rw [hg] at hg₀
    cases hg₀
    have hover : h.isOver ≠ true := fun hover => hpending (hat.finished hover)
    unfold Generation.select at hselect
    rw [hrequest, hnextTick] at hselect
    rw [hnoted]
    refine ⟨hon.scheduled, ?_, ?_, ?_, ?_,
      Merge.advance request.cursorMessages pending key tick, ?_, ?_⟩
    · rw [hidentity]
      exact hon.identity
    · rw [hscenario]
      exact hon.nodeIds
    · rw [hsequence, hon.sequence, List.length_append]
      rfl
    · rw [List.map_append, hon.numbered, List.length_append]
      change _ ++ [h.calls.length + 1] = List.range' 1 (h.calls.length + 1)
      rw [List.range'_1_concat, Nat.add_comm 1]
    · rw [List.map_append]
      exact hmerged.step (hon.scheduled.ranked R) hselect
    · rcases hafter with ⟨from_, ref, hsending⟩ | houtside
      · refine ⟨fun hover' => absurd hover' hover, ?_, ?_, ?_, ?_⟩
        · intro houtside
          rw [hsending] at houtside
          cases houtside
        · intro hpc
          rw [hsending] at hpc
          cases hpc
        · intro hpc
          rw [hsending] at hpc
          cases hpc
        · intro _ _ _
          refine ⟨_, key, tick, hgeneration, hrequest, ?_, rfl, ?_⟩
          · rw [List.length_set, hlength]
          · dsimp only
            rw [hnextTick]
      · refine atCursor_outside (fun hover' => absurd hover' hover) houtside (Or.inr ?_)
        rw [houtside]
        exact Bool.or_true _

/-- After a message the cursors advance, and the run task leaves its loop when none is
left. -/
theorem sent_cases {m : Moment} {exception : Option String} {last : Bool}
    (hstep : step R pb u (.run m (.sent exception last)) = some v) :
    ∃ g from_ ref, u.generation = some g ∧ u.tasks.runTask = .sending from_ ref ∧
      v.generation = some g.nextIteration ∧
      last = g.nextIteration.nextTick.items.isEmpty ∧
      v.tasks.controller.accumulators.sequence =
        u.tasks.controller.accumulators.sequence ∧
      (last = true → v.tasks.runTask.generates = false) ∧
      (last = false → v.tasks.runTask = .sleeping) := by
  unfold step at hstep
  obtain ⟨t, ht, hstep⟩ := Option.bind_eq_some_iff.mp hstep
  obtain ⟨g, hg, hstep⟩ := Option.bind_eq_some_iff.mp hstep
  dsimp only at hstep
  split at hstep
  · next hlast =>
      cases hstep
      unfold TrafficTasks.step at ht
      dsimp only at ht
      split at ht
      · cases ht
      · cases hrun : u.tasks.runTask with
        | sending from_ ref =>
            rw [hrun] at ht
            exact ⟨g, from_, ref, hg, rfl, rfl, hlast, resumeRun_sent pb ht⟩
        | _ =>
            rw [hrun] at ht
            cases ht
  · cases hstep

/-- The run task sleeps again, or has left its loop when no cursor is left. -/
theorem OnSchedule.sent (hon : OnSchedule request u h) (hstructured : Structured u.tasks)
    {m : Moment} {exception : Option String} {last : Bool}
    (hstep : step R pb u (.run m (.sent exception last)) = some v) :
    OnSchedule request v { h with isOver := h.isOver || last } := by
  obtain ⟨g, from_, ref, hg, hrun, hgeneration, hlast, hsequence, hleaves, hsleeps⟩ :=
    sent_cases hstep
  refine hon.keep hstructured rfl (tasks_step hstep) hsequence rfl rfl fun pending hat => ?_
  obtain ⟨g', key, tick, hg', hrequest, hlength, hselected, hpending⟩ :=
    hat.sending from_ ref hrun
  rw [hg] at hg'
  cases hg'
  have hnext : g.nextIteration.nextTick = pending := by
    unfold Generation.nextIteration
    rw [hselected, hpending, hrequest]
  have hsame : g.nextIteration.request = request ∧
      g.nextIteration.destinations = g.destinations := by
    unfold Generation.nextIteration
    rw [hselected]
    exact ⟨hrequest, rfl⟩
  rw [hnext] at hlast
  have hfinished : (h.isOver || last) = true → pending.items = [] := by
    intro hover
    rcases Bool.or_eq_true_iff.mp hover with hover | hover
    · exact hat.finished hover
    · rw [hlast] at hover
      exact List.isEmpty_iff.mp hover
  cases last with
  | true => exact atCursor_outside hfinished (hleaves rfl) (Or.inl (Bool.or_true _))
  | false =>
      have hsleeping := hsleeps rfl
      refine ⟨hfinished, ?_, ?_, ?_, ?_⟩
      · intro houtside
        rw [hsleeping] at houtside
        cases houtside
      · intro hpc
        rw [hsleeping] at hpc
        cases hpc
      · intro _
        have hmore : pending.items ≠ [] := fun hnil => absurd hlast (by simp [hnil])
        refine ⟨hmore, g.nextIteration, hgeneration, hsame.1, ?_, hnext⟩
        rw [hsame.2, hlength]
      · intro source ref hpc
        rw [hsleeping] at hpc
        cases hpc

/-! ## Runs -/

/-- The tasks are sound, and the calls of the run are on schedule. -/
structure Scheduling (s : ScheduledTasks R × CallHistory) : Prop where
  sound : Sound s.1.tasks
  onSchedule : ∀ request, s.2.request = some request → OnSchedule request s.1 s.2

/-- What else the run task does it does outside its loop. -/
theorem generates_of_run {m : Moment} {input : RunInput} {t : TrafficTasks}
    (hbegun : input ≠ .begun) (hsubmit : ∀ flow source pick draws,
      input ≠ .submit flow source pick draws) (hsent : ∀ exception last,
      input ≠ .sent exception last)
    (hstep : TrafficTasks.step pb u.tasks (.run m input) = some t) :
    u.tasks.runTask.generates = false := by
  unfold TrafficTasks.step at hstep
  dsimp only at hstep
  split at hstep
  · cases hstep
  · cases hrun : u.tasks.runTask with
    | scheduled =>
        rw [hrun] at hstep
        cases input <;> first | exact absurd rfl hbegun | cases hstep
    | sleeping =>
        rw [hrun] at hstep
        cases input <;> first | exact absurd rfl (hsubmit _ _ _ _) | cases hstep
    | sending source ref =>
        rw [hrun] at hstep
        cases input <;> first | exact absurd rfl (hsent _ _) | cases hstep
    | _ => rfl

/-- A step of the run task keeps the calls on schedule. -/
theorem OnSchedule.run (hon : OnSchedule request u h) (hstructured : Structured u.tasks)
    {m : Moment} {input : RunInput} (hstep : step R pb u (.run m input) = some v) :
    OnSchedule request v (noteCalls h u (.run m input) v) := by
  cases input with
  | begun => exact hon.begun hstructured hstep
  | submit flow source pick draws => exact hon.submit hstructured hstep
  | sent exception last => exact hon.sent hstructured hstep
  | _ =>
      obtain ⟨ht, _⟩ := step_of_alone (by simp) (by simp) (by simp) hstep
      exact hon.outside hstructured (generates_of_run (by simp) (by simp) (by simp) ht) ht

theorem request_noteCalls_run (h : CallHistory) (u : ScheduledTasks R) (m : Moment)
    (input : RunInput) (v : ScheduledTasks R) :
    (noteCalls h u (.run m input) v).request = h.request := by
  unfold noteCalls
  cases input with
  | submit flow source pick draws =>
      dsimp only
      split <;> rfl
  | _ => rfl

/-- A step keeps the calls on schedule. -/
theorem Scheduling.step {s : ScheduledTasks R × CallHistory} {a : Action}
    (h : Scheduling s) (hwell : WellFormedStart s a)
    (hstep : ScheduledTasks.step R pb s.1 a = some v) :
    Scheduling (v, noteCalls s.2 s.1 a v) := by
  refine ⟨h.sound.step pb (tasks_step hstep), ?_⟩
  intro request hrequest
  have hstructured := h.sound.structured
  cases a with
  | start m runId started scenarioSnapshot baseline =>
      unfold noteCalls at hrequest ⊢
      dsimp only at hrequest ⊢
      rcases start_onSchedule (h := s.2) hwell hstep with
        ⟨hdone, hscheduled, hon⟩ | ⟨hsame, _, hkept⟩
      · rw [if_pos ⟨hdone, hscheduled⟩] at hrequest ⊢
        cases hrequest
        exact hon
      · have hnot : ¬ (s.1.tasks.runTask = .done ∧ v.tasks.runTask = .scheduled) := by
          rw [hsame]
          rintro ⟨hdone, hscheduled⟩
          rw [hdone] at hscheduled
          cases hscheduled
        rw [if_neg hnot] at hrequest ⊢
        exact hkept request (h.onSchedule request hrequest)
  | run m input =>
      have hbefore : s.2.request = some request :=
        (request_noteCalls_run s.2 s.1 m input v).symm.trans hrequest
      exact (h.onSchedule request hbefore).run hstructured hstep
  | cancelled =>
      obtain ⟨ht, _⟩ := step_of_alone (by simp) (by simp) (by simp) hstep
      exact (h.onSchedule request hrequest).cancelled hstructured ht
  | _ =>
      obtain ⟨ht, hgeneration⟩ := step_of_alone (by simp) (by simp) (by simp) hstep
      exact (h.onSchedule request hrequest).bystand hstructured rfl rfl (by simp) ht hgeneration

/-! ## The whole schedule -/

theorem before_of_rank {a b : Call}
    (hlt : request.rank R a.entry.1 a.entry.2 < request.rank R b.entry.1 b.entry.2) :
    a.Before R request b := by
  rcases Prod.Lex.toLex_lt_toLex.mp hlt with hdue | ⟨hdue, hplace⟩
  · exact Or.inl hdue
  · exact Or.inr ⟨hdue, Prod.Lex.toLex_lt_toLex.mp hplace⟩

/-- The calls are sorted. -/
theorem OnSchedule.ordered (hon : OnSchedule request u h) :
    h.calls.Pairwise (Call.Before R request) := by
  obtain ⟨pending, hmerged, _⟩ := hon.merged
  exact (List.pairwise_map.mp hmerged.sorted).imp before_of_rank

/-- There are never more calls than `_maximum_sequence`. -/
theorem OnSchedule.length_le (hon : OnSchedule request u h) :
    h.calls.length ≤ request.maximumSequence := by
  obtain ⟨pending, hmerged, _⟩ := hon.merged
  have hle := hmerged.length_le
  rw [List.length_map, request.sum_cursorMessages] at hle
  exact hle

/-- When the loop is over all calls have been made. -/
theorem OnSchedule.length_of_over (hon : OnSchedule request u h) (hover : h.isOver = true) :
    h.calls.length = request.maximumSequence := by
  obtain ⟨pending, hmerged, hat⟩ := hon.merged
  have hperm := hmerged.perm_of_done hon.scheduled.nodup_cursors (hat.finished hover)
  have hlength := hperm.length_eq
  rw [List.length_map, Merge.length_ticks, request.sum_cursorMessages] at hlength
  exact hlength

/-- Then each source of a flow has been called for as often as its ticks fall before the
end of the run. -/
theorem OnSchedule.countP_of_over (hon : OnSchedule request u h) (hover : h.isOver = true)
    {index : Nat} {flow : TrafficFlow} (hflow : request.schedulingFlows[index]? = some flow)
    {source : String} (hsource : source ∈ flow.sourceNodes) :
    h.calls.countP (fun call => call.flow = index ∧ call.source = source) =
      (ticksBefore request.durationSeconds flow.messagesPerMinute).ncard := by
  obtain ⟨pending, hmerged, hat⟩ := hon.merged
  have hkey : (index, source) ∈ request.cursors :=
    TrafficRunRequest.mem_cursors.mpr ⟨flow, hflow, hsource⟩
  have hcount := hmerged.countP_of_done hon.scheduled.nodup_cursors (hat.finished hover) hkey
  have hrate := hon.scheduled.rates flow (List.mem_of_getElem? hflow)
  have hmessages : request.cursorMessages (index, source) = request.messagesPerFlow flow := by
    unfold TrafficRunRequest.cursorMessages
    rw [hflow]
  rw [ncard_ticksBefore hon.scheduled.duration hrate, ← TrafficRunRequest.messagesPerFlow,
    ← hmessages, ← hcount, List.countP_map]
  apply List.countP_congr
  intro call _
  simp [Call.entry]

/-- A run task that sleeps has a call to make. -/
theorem OnSchedule.nextCall_of_sleeping (hon : OnSchedule request u h)
    (hsleeping : u.tasks.runTask = .sleeping) :
    h.calls.length < request.maximumSequence ∧
      ∃ g call g', u.generation = some g ∧ g.nextCall u.tasks.controller = some (call, g') := by
  obtain ⟨pending, hmerged, hat⟩ := hon.merged
  obtain ⟨hpending, g, hg, hrequest, hlength, hnextTick⟩ := hat.sleeping hsleeping
  cases hnext : Merge.next (request.rank R) pending with
  | none => exact absurd (Merge.next_eq_none.mp hnext) hpending
  | some entry =>
      obtain ⟨key, tick⟩ := entry
      have hranked := hon.scheduled.ranked R
      have hafter := (hmerged.step hranked hnext).length_le
      rw [List.length_append, List.length_map, request.sum_cursorMessages] at hafter
      have hselect : g.select = some (key, tick) := by
        unfold Generation.select
        rw [hrequest, hnextTick]
        exact hnext
      obtain ⟨hkey, _⟩ := hmerged.ahead key tick (Merge.get?_of_next hnext)
      obtain ⟨flow, hflow, _⟩ := TrafficRunRequest.mem_cursors.mp hkey
      have hindex : key.1 < g.destinations.length := by
        rw [hlength]
        exact (List.getElem?_eq_some_iff.mp hflow).1
      have hcall : (g.nextCall u.tasks.controller).isSome = true := by
        unfold Generation.nextCall
        rw [hselect]
        simp only [hrequest, hflow, List.getElem?_eq_getElem hindex, Option.bind_eq_bind,
          Option.bind_some, Option.isSome_some]
      obtain ⟨⟨call, g'⟩, hcall⟩ := Option.isSome_iff_exists.mp hcall
      exact ⟨hafter, g, call, g', hg, hcall⟩

section Runs

variable {scenario : Scenario} {hardwareIds : Dict String Nat} {buildMetadata : BuildMetadata}
  {settleSeconds : Option ℚ} {failedReceptionSampler : Bool}

/-- A controller before its first run, with no calls to remember. -/
def fresh (R : Randomness) (tasks : TrafficTasks) : ScheduledTasks R × CallHistory :=
  ({ tasks := tasks }, {})

theorem scheduling_of_run {s : ScheduledTasks R × CallHistory}
    (hrun : Run (recorded (ScheduledTasks.step R pb) noteCalls) WellFormedStart
      (fresh R (.new scenario hardwareIds buildMetadata settleSeconds failedReceptionSampler))
      s) : Scheduling s := by
  refine hrun.invariant (I := Scheduling) ?_ ?_
  · rintro u a ⟨v, h⟩ hscheduling hwell hstep
    obtain ⟨hstep, hrecord⟩ := recorded_eq_some.mp hstep
    rw [show h = _ from hrecord]
    exact hscheduling.step hwell hstep
  · exact ⟨(exact_new _ _ _ _ _).toSound, nofun⟩

/-- In every run the calls of `_submit` come in the order of their due times and are numbered
from one.  They are never more than `_maximum_sequence`, and as long as the run task
sleeps there is a next one.  A run that is neither cancelled nor raises generates until
its loop is over, and then every source has its messages. -/
theorem calls_follow_schedule {s : ScheduledTasks R × CallHistory} {request : TrafficRunRequest}
    (hrun : Run (recorded (ScheduledTasks.step R pb) noteCalls) WellFormedStart
      (fresh R (.new scenario hardwareIds buildMetadata settleSeconds failedReceptionSampler))
      s) (hrequest : s.2.request = some request) :
    s.2.calls.Pairwise (Call.Before R request) ∧
      s.2.calls.map (·.sequence) = List.range' 1 s.2.calls.length ∧
      s.2.calls.length ≤ request.maximumSequence ∧
      request.maximumSequence ≤ MAX_TRAFFIC_MESSAGES_PER_RUN ∧
      (s.1.tasks.runTask = .sleeping → s.2.calls.length < request.maximumSequence ∧
        ∃ g call g', s.1.generation = some g ∧
          g.nextCall s.1.tasks.controller = some (call, g')) ∧
      (s.2.interrupted = false → s.1.tasks.runTask.generates = true ∨ s.2.isOver = true) ∧
      (s.2.isOver = true → s.2.calls.length = request.maximumSequence ∧
        ∀ index flow source, request.schedulingFlows[index]? = some flow →
          source ∈ flow.sourceNodes →
          s.2.calls.countP (fun call => call.flow = index ∧ call.source = source) =
            (ticksBefore request.durationSeconds flow.messagesPerMinute).ncard) := by
  have hon := (scheduling_of_run hrun).onSchedule request hrequest
  refine ⟨hon.ordered, hon.numbered, hon.length_le, hon.scheduled.bounded,
    hon.nextCall_of_sleeping, ?_, ?_⟩
  · intro hwell
    obtain ⟨_, _, hat⟩ := hon.merged
    cases hgenerates : s.1.tasks.runTask.generates with
    | true => exact Or.inl rfl
    | false =>
        rcases hat.outside hgenerates with hover | hinterrupted
        · exact Or.inr hover
        · rw [hwell] at hinterrupted
          cases hinterrupted
  · intro hover
    exact ⟨hon.length_of_over hover, fun _ _ _ hflow hsource =>
      hon.countP_of_over hover hflow hsource⟩

end Runs

section Pair

/-- A stream of pseudo-random numbers. -/
def countingRandomness : Randomness where
  Stream := Nat
  seeded seed := seed.toNat
  random stream := (1 / 2, stream + 1)
  choice stream count := (stream % count, stream + 1)
  nameSeed name := name.length

/-- Two flows whose first messages fall due together. -/
def pairFlows : TrafficRunRequest where
  kind := .directText
  durationSeconds := 2
  flows :=
    [{ name := "chat"
       sourceNodes := ["node-1"]
       fixedDestination := some "node-2"
       messagesPerMinute := 60 },
     { name := "probe"
       sourceNodes := ["node-2"]
       destinationStrategy := .roundRobin
       messagesPerMinute := 30 }]

/-- The run task generates all messages of the two flows. -/
def generatedFlows : List Action :=
  [.start pairMoment "run" pairFlows none none,
    .run pairMoment .begun,
    .run pairMoment (.submit 0 0 0 [7]),
    .run pairMoment (.sent none false),
    .run pairMoment (.submit 1 0 0 [8]),
    .run pairMoment (.sent none false),
    .run pairMoment (.submit 0 0 0 [9]),
    .run pairMoment (.sent none true)]

instance (s : ScheduledTasks R × CallHistory) (a : Action) : Decidable (WellFormedStart s a) :=
  match a with
  | .start _ _ request _ _ => inferInstanceAs (Decidable request.WellFormed)
  | .fromRadio .. | .rfTransmission .. | .drop .. | .failedReceptions ..
  | .duplicateReceptions .. | .eventLoopLag .. | .topologyChange .. | .run .. | .cancelled
  | .call .. | .resume .. => .isTrue trivial

/-- All messages of the two flows are generated in order, the two first ones in the order of
the flows. -/
theorem generated_flows_follow_schedule :
    ∃ s, exec (recorded (ScheduledTasks.step countingRandomness pairProtobuf) noteCalls)
        generatedFlows (fresh countingRandomness pairTasks) = some s ∧
      s.2.calls.map Call.entry =
        [((0, "node-1"), 0), ((1, "node-2"), 0), ((0, "node-1"), 1)] ∧
      s.2.calls.Pairwise (Call.Before countingRandomness pairFlows) ∧
      s.2.calls.length = pairFlows.maximumSequence := by
  have hstate : (exec (recorded (ScheduledTasks.step countingRandomness pairProtobuf) noteCalls)
      generatedFlows (fresh countingRandomness pairTasks)).map
        (fun s => (s.2.request, s.2.calls.map Call.entry, s.2.isOver)) =
      some (some pairFlows,
        [((0, "node-1"), 0), ((1, "node-2"), 0), ((0, "node-1"), 1)], true) := by
    decide +kernel
  have hwell : Conforms
      (recorded (ScheduledTasks.step countingRandomness pairProtobuf) noteCalls)
      WellFormedStart generatedFlows (fresh countingRandomness pairTasks) := by
    decide +kernel
  obtain ⟨s, hexec, hstate⟩ := Option.map_eq_some_iff.mp hstate
  obtain ⟨hrequest, hstate⟩ := Prod.mk.inj hstate
  obtain ⟨hcalls, hover⟩ := Prod.mk.inj hstate
  obtain ⟨hordered, _, _, _, _, _, hcomplete⟩ :=
    calls_follow_schedule (.of_exec hexec hwell) hrequest
  exact ⟨s, hexec, hcalls, hordered, (hcomplete hover).1⟩

end Pair

end ScheduledTasks

end MeshtasticLab.Traffic

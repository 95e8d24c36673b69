/-
  Traffic/Schedule.lean --- when the run task submits, and to whom.

  Embeds the loop of `TrafficController._run`: the offsets, the intervals, the
  cursor of every flow and source, the pseudo-random and round-robin choices and
  the order in which messages fall due.  `random.Random` is a stream that its seed
  determines.  The loop runs inside the tasks of `Tasks.lean`, so that stops,
  failures and packets come between its steps in any order.
-/
import MeshtasticLab.Foundation.Merge
import MeshtasticLab.Traffic.Tasks
import Mathlib.Data.Int.Bitwise
import Mathlib.Data.Prod.Lex

set_option autoImplicit false

namespace MeshtasticLab.Traffic

open MeshtasticLab.Foundation MeshtasticLab.Gateway MeshtasticLab.Metrics MeshtasticLab.Models

def SOURCE_TIMING_RNG_SALT : Int := 0x4D4C5F534F55524345

def FLOW_DESTINATION_RNG_SALT : Int := 0x4D4C5F464C4F575F

/-- `random.Random`: what `random()` and `choice` on a sequence of some length answer, and
the stream after that.  `nameSeed` is the number that `_flow_seed` takes from a name. -/
structure Randomness where
  Stream : Type
  seeded : Int → Stream
  random : Stream → ℚ × Stream
  choice : Stream → Nat → Nat × Stream
  nameSeed : String → Nat

namespace Randomness

/-- `_flow_seed`. -/
def flowSeed (R : Randomness) (runSeed : Int) (flowName : String) (salt : Int) : Int :=
  Int.xor (Int.xor runSeed salt) (R.nameSeed flowName)

/-- One draw for each source. -/
def jitter (R : Randomness) (interval : ℚ) : R.Stream → List String → List (String × ℚ)
  | _, [] => []
  | stream, source :: rest =>
      let drawn := R.random stream
      (source, drawn.1 * interval) :: R.jitter interval drawn.2 rest

/-- `_source_offsets_for`. -/
def sourceOffsetsFor (R : Randomness) (sourceNodes : List String) (timing : SourceTiming)
    (interval : ℚ) (seed : Int) : Dict String ℚ :=
  match timing with
  | .aligned => (∅ : Dict String ℚ).update (sourceNodes.map fun source => (source, 0))
  | .evenlyStaggered =>
      (∅ : Dict String ℚ).update (sourceNodes.zipIdx.map fun entry =>
        (entry.1, entry.2 * interval / sourceNodes.length))
  | .deterministicJitter =>
      (∅ : Dict String ℚ).update (R.jitter interval (R.seeded seed) sourceNodes)

end Randomness

/-! ## Cursors -/

/-- The seconds between two messages of a source of the flow. -/
def TrafficFlow.interval (flow : TrafficFlow) : ℚ := 60 / flow.messagesPerMinute

/-- `_flow_source_offsets`, with the seed that `_run` gives it. -/
def TrafficFlow.sourceOffsets (R : Randomness) (seed : Int) (flow : TrafficFlow) :
    Dict String ℚ :=
  R.sourceOffsetsFor flow.sourceNodes flow.sourceTiming flow.interval
    (R.flowSeed seed flow.name SOURCE_TIMING_RNG_SALT)

/-- When a message of a source of the flow is due, after the start. -/
def TrafficFlow.due (R : Randomness) (seed : Int) (flow : TrafficFlow) (source : String)
    (tick : Nat) : ℚ :=
  ((flow.sourceOffsets R seed).get? source).getD 0 + tick * flow.interval

/-- `round_robin[index]` and `destination_randomizers[index]` of one flow. -/
structure DestinationCursor (R : Randomness) where
  roundRobin : Dict String Nat
  randomizer : R.Stream

/-- The round-robin index or the pseudo-random draw that `_choose_destination` goes by,
and the cursor after it. -/
def DestinationCursor.pick {R : Randomness} (cursor : DestinationCursor R) (kind : TrafficKind)
    (strategy : DestinationStrategy) (source : String) (candidates : Nat) :
    Nat × DestinationCursor R :=
  match kind, strategy with
  | .broadcastText, _ => (0, cursor)
  | .directText, .fixed => (0, cursor)
  | .directText, .roundRobin =>
      let index := (cursor.roundRobin.get? source).getD 0
      (index, { cursor with roundRobin := cursor.roundRobin.set source (index + 1) })
  | .directText, .deterministicRandom =>
      let drawn := R.choice cursor.randomizer candidates
      (drawn.1, { cursor with randomizer := drawn.2 })

namespace TrafficRunRequest

/-- The flow and the source of every cursor, in `schedule_order`. -/
def cursors (request : TrafficRunRequest) : List (Nat × String) :=
  request.schedulingFlows.zipIdx.flatMap fun entry =>
    entry.1.sourceNodes.map fun source => (entry.2, source)

/-- The messages that a cursor has to submit. -/
def cursorMessages (request : TrafficRunRequest) (key : Nat × String) : Nat :=
  match request.schedulingFlows[key.1]? with
  | none => 0
  | some flow => request.messagesPerFlow flow

/-- When the message of a cursor is due. -/
def due (R : Randomness) (request : TrafficRunRequest) (key : Nat × String) (tick : Nat) : ℚ :=
  match request.schedulingFlows[key.1]? with
  | none => 0
  | some flow => flow.due R request.seed key.2 tick

/-- The place of a source in its flow. -/
def position (request : TrafficRunRequest) (key : Nat × String) : Nat :=
  match request.schedulingFlows[key.1]? with
  | none => 0
  | some flow => flow.sourceNodes.idxOf key.2

/-- What `_run` takes the minimum by: the due time, then the `schedule_order`. -/
def rank (R : Randomness) (request : TrafficRunRequest) (key : Nat × String) (tick : Nat) :
    ℚ ×ₗ ℕ ×ₗ ℕ :=
  toLex (request.due R key tick, toLex (key.1, request.position key))

/-- The seed of the destinations of a flow. -/
def destinationSeed (R : Randomness) (request : TrafficRunRequest) (flow : TrafficFlow) : Int :=
  if request.flows.isEmpty then request.seed
  else R.flowSeed request.seed flow.name FLOW_DESTINATION_RNG_SALT

/-- The cursor of the destinations of a flow when the run begins. -/
def destinationCursor (R : Randomness) (request : TrafficRunRequest) (flow : TrafficFlow) :
    DestinationCursor R where
  roundRobin := (∅ : Dict String Nat).update (flow.sourceNodes.map fun source => (source, 0))
  randomizer := R.seeded (request.destinationSeed R flow)

end TrafficRunRequest

/-! ## The loop -/

/-- The local variables of `_run` that its loop changes; `selected` is the cursor whose
message is being submitted. -/
structure Generation (R : Randomness) where
  request : TrafficRunRequest
  nextTick : Dict (Nat × String) Nat
  destinations : List (DestinationCursor R)
  selected : Option ((Nat × String) × Nat) := none

namespace Generation

variable {R : Randomness}

/-- The local variables when the loop is entered. -/
def enter (R : Randomness) (request : TrafficRunRequest) : Generation R where
  request := request
  nextTick := Merge.start request.cursors
  destinations := request.schedulingFlows.map (request.destinationCursor R)

/-- The cursor whose message falls due first, and its tick. -/
def select (g : Generation R) : Option ((Nat × String) × Nat) :=
  Merge.next (g.request.rank R) g.nextTick

/-- The next call of `_submit`: the flow, the place of the source in it and the pick of
the destination, and the local variables when it is made. -/
def nextCall (g : Generation R) (c : TrafficController) :
    Option ((Nat × Nat × Nat) × Generation R) := do
  let (key, tick) ← g.select
  let flow ← g.request.schedulingFlows[key.1]?
  let cursor ← g.destinations[key.1]?
  let candidates := c.runScenario.nodeIds.filter (· ≠ key.2)
  let picked := cursor.pick g.request.kind flow.destinationStrategy key.2 candidates.length
  some ((key.1, g.request.position key, picked.1),
    { g with
      destinations := g.destinations.set key.1 picked.2
      selected := some (key, tick) })

/-- The end of the body of the loop. -/
def nextIteration (g : Generation R) : Generation R :=
  match g.selected with
  | none => g
  | some (key, tick) =>
      { g with
        nextTick := Merge.advance g.request.cursorMessages g.nextTick key tick
        selected := none }

end Generation

/-- The tasks of a controller whose run task keeps its schedule. -/
structure ScheduledTasks (R : Randomness) where
  tasks : TrafficTasks
  generation : Option (Generation R) := none

namespace ScheduledTasks

variable {R : Randomness}

/-- One step of the tasks, in which the run task submits what is due first and leaves the
loop when no cursor is left. -/
def step (R : Randomness) (pb : Protobuf) (u : ScheduledTasks R)
    (a : TrafficTasks.Action) : Option (ScheduledTasks R) := do
  let t ← TrafficTasks.step pb u.tasks a
  match a with
  | .run _ .begun =>
      let run ← u.tasks.controller.current
      some { tasks := t, generation := some (.enter R run.request) }
  | .run _ (.submit flow source pick _) =>
      let g ← u.generation
      let (call, g) ← g.nextCall u.tasks.controller
      if call = (flow, source, pick) then some { tasks := t, generation := some g } else none
  | .run _ (.sent _ last) =>
      let g ← u.generation
      let g := g.nextIteration
      if last = g.nextTick.items.isEmpty then some { tasks := t, generation := some g } else none
  | _ => some { tasks := t, generation := u.generation }

end ScheduledTasks

end MeshtasticLab.Traffic

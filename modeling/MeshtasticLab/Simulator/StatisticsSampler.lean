/-
  Simulator/StatisticsSampler.lean --- sampling the local statistics of the nodes.

  Embeds `_sample_local_stats` of `backend/app/simulator/service.py` with what it
  shares with `_on_from_radio`: the metrics of the nodes, one slot a node for the
  request id of the last local statistics, and the condition variable.

  HOW THE COROUTINES ARE CUT

  Each node has a task, and a step runs it from one suspension to the next.  A
  gateway's `send_to_radio` does not suspend: it raises or the request is queued.  A
  wait for the condition ends when its future is done; the timer of the wait sets it
  too, and then the task finds its wait cancelled, even if it was notified before.  The
  clock of the loop does not go back.

  WHAT IS LEFT OPEN

  A sleep may end and a timer may fire at any time.  `parseTelemetry` stands for the
  generated decoder.  What else `_on_from_radio` does, for the traffic controller and
  with other packets, is left out.
-/
import MeshtasticLab.Foundation.Condition
import MeshtasticLab.Foundation.Runs
import MeshtasticLab.Gateway.Packets
import MeshtasticLab.Traffic.Results

set_option autoImplicit false

namespace MeshtasticLab.Simulator

open MeshtasticLab.Foundation MeshtasticLab.Gateway MeshtasticLab.Traffic

/-- `portnums_pb2.TELEMETRY_APP`. -/
def TELEMETRY_APP : Nat := 67

/-- `_NodeMetrics`. -/
structure NodeMetrics where
  tx : Nat := 0
  rx : Nat := 0
  rxBad : Nat := 0
  rxBadInitialized : Bool := false
  rxDuplicate : Nat := 0
  channelUtilization : Option ℚ := none
  deriving DecidableEq

/-- The counters of `telemetry_pb2.LocalStats` that the application reads. -/
structure LocalStats where
  numPacketsTx : Nat := 0
  numPacketsRx : Nat := 0
  numPacketsRxBad : Nat := 0
  numRxDupe : Nat := 0
  deriving DecidableEq

/-- `telemetry_pb2.Telemetry` by its variant. -/
inductive Telemetry where
  | localStats (stats : LocalStats)
  | deviceMetrics (channelUtilization : ℚ)
  | other
  deriving DecidableEq

/-- Where the task of a node is. -/
inductive SampleNodePc where
  | scheduled
  | sleeping
  | waiting (timedOut : Bool)
  | returned (value : Option (Nat × Nat))
  | raised
  deriving DecidableEq

/-- `sample_node` of one node. -/
structure SampleNode where
  expectedPacketIds : List Nat := []
  pc : SampleNodePc := .scheduled
  deriving DecidableEq

/-- A call of `_sample_local_stats`. -/
structure Sampler where
  deadline : ℚ
  nodes : Dict String SampleNode

namespace Sampler

/-- What the tasks of the nodes returned, once they all have. -/
def values (sampler : Sampler) : Option (List (String × Option (Nat × Nat))) :=
  sampler.nodes.items.mapM fun item =>
    match item.2.pc with
    | .returned value => some (item.1, value)
    | _ => none

/-- The sample that `_sample_local_stats` returns. -/
def sample (sampler : Sampler) : Option FailedReceptionSample :=
  sampler.values.map fun values =>
    let totals : Dict String Nat := (∅ : Dict String Nat).update
      (values.filterMap fun value => value.2.map fun counters => (value.1, counters.1))
    { totals := totals
      duplicateTotals := (∅ : Dict String Nat).update
        (values.filterMap fun value => value.2.map fun counters => (value.1, counters.2))
      missingNodes := (values.map Prod.fst).filter fun nodeId => ¬totals.contains nodeId }

end Sampler

/-- The service as far as local statistics go; `collisions` are the receivers of the
collision events it published.  The constructor refuses times that are not positive. -/
structure StatisticsTasks where
  gateways : List String
  verifications : List String
  localStatsDeadlineSeconds : ℚ
  localStatsRetrySeconds : ℚ
  positive : 0 < localStatsDeadlineSeconds ∧ 0 < localStatsRetrySeconds
  nodeMetrics : Dict String NodeMetrics
  localStatsResponseIds : Dict String Nat := ∅
  controlPacketId : Nat := 0
  localStatsCondition : Waiters String := []
  collisions : List String := []
  sampler : Option Sampler := none
  clock : ℚ := 0

namespace StatisticsTasks

variable {s t : StatisticsTasks}

/-! ## `_on_from_radio` -/

/-- The local statistics in a message: the request id of the packet and the counters. -/
def localStatsIn (parseTelemetry : List UInt8 → Option Telemetry) (message : FromRadio) :
    Option (Nat × LocalStats) :=
  match message with
  | .packet packet =>
      match packet.payload with
      | .decoded data =>
          if data.portnum = TELEMETRY_APP then
            match parseTelemetry data.payload with
            | some (.localStats stats) => some (data.requestId, stats)
            | _ => none
          else none
      | _ => none
  | _ => none

/-- The branch of `_on_from_radio` for local statistics. -/
def recordLocalStats (s : StatisticsTasks) (nodeId : String) (metrics : NodeMetrics)
    (requestId : Nat) (stats : LocalStats) : StatisticsTasks :=
  { s with
    nodeMetrics := s.nodeMetrics.set nodeId
      { metrics with
        tx := stats.numPacketsTx
        rx := stats.numPacketsRx
        rxBad := stats.numPacketsRxBad
        rxBadInitialized := true
        rxDuplicate := stats.numRxDupe }
    collisions :=
      if metrics.rxBadInitialized ∧ metrics.rxBad < stats.numPacketsRxBad then
        s.collisions ++ [nodeId]
      else s.collisions
    localStatsResponseIds := s.localStatsResponseIds.set nodeId requestId
    localStatsCondition := s.localStatsCondition.notifyAll }

/-- The channel utilization in a message. -/
def channelUtilizationIn (parseTelemetry : List UInt8 → Option Telemetry)
    (message : FromRadio) : Option ℚ :=
  match message with
  | .packet packet =>
      match packet.payload with
      | .decoded data =>
          if data.portnum = TELEMETRY_APP then
            match parseTelemetry data.payload with
            | some (.deviceMetrics channelUtilization) => some channelUtilization
            | _ => none
          else none
      | _ => none
  | _ => none

/-- `_on_from_radio` for telemetry. -/
def onFromRadio (parseTelemetry : List UInt8 → Option Telemetry) (s : StatisticsTasks)
    (nodeId : String) (message : FromRadio) : StatisticsTasks :=
  match s.nodeMetrics.get? nodeId with
  | none => s
  | some metrics =>
      match localStatsIn parseTelemetry message, channelUtilizationIn parseTelemetry message with
      | some (requestId, stats), _ => s.recordLocalStats nodeId metrics requestId stats
      | none, some channelUtilization =>
          { s with
            nodeMetrics := s.nodeMetrics.set nodeId
              { metrics with channelUtilization := some channelUtilization } }
      | none, none => s

/-! ## `_sample_local_stats` -/

/-- `_next_control_packet_id`. -/
def nextControlPacketId (id : Nat) : Nat :=
  if (id + 1) % 2 ^ 32 = 0 then 1 else (id + 1) % 2 ^ 32

/-- `response_arrived`. -/
def responseArrived (s : StatisticsTasks) (nodeId : String) (node : SampleNode) : Bool :=
  match s.localStatsResponseIds.get? nodeId with
  | none => false
  | some responseId => responseId ∈ node.expectedPacketIds

/-- The task of a node comes to its next suspension. -/
def putNode (s : StatisticsTasks) (nodeId : String) (node : SampleNode) : StatisticsTasks :=
  { s with
    sampler := s.sampler.map fun sampler =>
      { sampler with nodes := sampler.nodes.set nodeId node } }

/-- What `sample_node` returns once the response has arrived. -/
def readMetrics (s : StatisticsTasks) (nodeId : String) : SampleNodePc :=
  match s.nodeMetrics.get? nodeId with
  | none => .raised
  | some metrics => .returned (some (metrics.rxBad, metrics.rxDuplicate))

/-- `Condition.wait_for(response_arrived)`: the task returns, or waits until it is
notified. -/
def waitFor (s : StatisticsTasks) (nodeId : String) (node : SampleNode) : StatisticsTasks :=
  if s.responseArrived nodeId node then
    s.putNode nodeId { node with pc := s.readMetrics nodeId }
  else
    ({ s with localStatsCondition := s.localStatsCondition.enter nodeId }).putNode nodeId
      { node with pc := .waiting false }

/-- One pass through the loop of `sample_node`, given what the clock shows at its top and
after the request, and whether `send_to_radio` raised. -/
def attempt (s : StatisticsTasks) (deadline : ℚ) (nodeId : String) (node : SampleNode)
    (first second : ℚ) (sendRaised : Bool) : StatisticsTasks :=
  if deadline - first ≤ 0 then s.putNode nodeId { node with pc := .returned none }
  else
    let packetId := nextControlPacketId s.controlPacketId
    let s := { s with controlPacketId := packetId }
    if sendRaised then
      if deadline - second ≤ 0 then s.putNode nodeId { node with pc := .returned none }
      else s.putNode nodeId { node with pc := .sleeping }
    else
      let node := { node with expectedPacketIds := packetId :: node.expectedPacketIds }
      if min s.localStatsRetrySeconds (deadline - second) ≤ 0 then
        s.putNode nodeId { node with pc := .returned none }
      else s.waitFor nodeId node

/-- The task of a node runs again. -/
def resume (s : StatisticsTasks) (deadline : ℚ) (nodeId : String) (node : SampleNode)
    (first second : ℚ) (sendRaised : Bool) : Option StatisticsTasks :=
  match node.pc with
  | .scheduled | .sleeping => some (s.attempt deadline nodeId node first second sendRaised)
  | .waiting timedOut =>
      if (nodeId, true) ∈ s.localStatsCondition then
        let s := { s with localStatsCondition := s.localStatsCondition.leave nodeId }
        if timedOut then
          -- The wait that ends with an exception notifies another waiter.
          some ({ s with localStatsCondition := s.localStatsCondition.notify 1 }.attempt deadline
            nodeId node first second sendRaised)
        else some (s.waitFor nodeId node)
      else none
  | .returned _ | .raised => none

/-- Every gateway, and nothing else, has been verified. -/
def Ready (s : StatisticsTasks) : Prop :=
  s.gateways ≠ [] ∧ s.gateways ⊆ s.verifications ∧ s.verifications ⊆ s.gateways

instance (s : StatisticsTasks) : Decidable s.Ready := inferInstanceAs (Decidable (_ ∧ _))

/-- `_sample_local_stats` up to `gather`; it raises when the nodes are not ready. -/
def sampleLocalStats (s : StatisticsTasks) : StatisticsTasks :=
  if ¬s.Ready then s
  else
    { s with
      sampler := some
        { deadline := s.clock + s.localStatsDeadlineSeconds
          nodes := (∅ : Dict String SampleNode).update
            (s.gateways.map fun nodeId => (nodeId, {})) } }

/-! ## Steps -/

/-- What can happen next, with what the clock shows. -/
inductive Action where
  | fromRadio (now : ℚ) (nodeId : String) (message : FromRadio)
  | sample (now : ℚ)
  | resume (nodeId : String) (first second : ℚ) (sendRaised : Bool)
  | timeout (now : ℚ) (nodeId : String)

/-- One step.  A sampler is called when there was none, or the last one has returned. -/
def step (parseTelemetry : List UInt8 → Option Telemetry) (s : StatisticsTasks) :
    Action → Option StatisticsTasks
  | .fromRadio now nodeId message =>
      if s.clock ≤ now then some ({ s with clock := now }.onFromRadio parseTelemetry nodeId message)
      else none
  | .sample now =>
      if s.clock ≤ now ∧ ∀ sampler ∈ s.sampler, sampler.sample ≠ none then
        some { s with clock := now }.sampleLocalStats
      else none
  | .resume nodeId first second sendRaised =>
      if s.clock ≤ first ∧ first ≤ second then
        match s.sampler with
        | none => none
        | some sampler =>
            match sampler.nodes.get? nodeId with
            | none => none
            | some node =>
                { s with clock := second }.resume sampler.deadline nodeId node first second
                  sendRaised
      else none
  | .timeout now nodeId =>
      if s.clock ≤ now then
        match s.sampler with
        | none => none
        | some sampler =>
            match sampler.nodes.get? nodeId with
            | none => none
            | some node =>
                if node.pc = .waiting false then
                  some (({ s with
                    clock := now
                    localStatsCondition := s.localStatsCondition.cancel nodeId }).putNode nodeId
                      { node with pc := .waiting true })
                else none
      else none

/-- The service once its start has made the gateways and the metrics of the nodes. -/
def new (nodes verifications : List String) (freshState : Bool)
    (localStatsDeadlineSeconds localStatsRetrySeconds : ℚ)
    (positive : 0 < localStatsDeadlineSeconds ∧ 0 < localStatsRetrySeconds)
    (controlPacketId : Nat) (clock : ℚ) : StatisticsTasks where
  gateways := nodes
  verifications := verifications
  localStatsDeadlineSeconds := localStatsDeadlineSeconds
  localStatsRetrySeconds := localStatsRetrySeconds
  positive := positive
  nodeMetrics := (∅ : Dict String NodeMetrics).update
    (nodes.map fun nodeId => (nodeId, { rxBadInitialized := freshState }))
  controlPacketId := controlPacketId
  clock := clock

/-! ## Answers -/

/-- The task of a node in the last call of the sampler. -/
def node? (s : StatisticsTasks) (nodeId : String) : Option SampleNode :=
  s.sampler.bind fun sampler => sampler.nodes.get? nodeId

end StatisticsTasks

/-- The task has not ended. -/
def SampleNodePc.Working : SampleNodePc → Prop
  | .returned _ | .raised => False
  | _ => True

/-- The task runs next from the top of its loop. -/
def SampleNodePc.AtTop : SampleNodePc → Prop
  | .scheduled | .sleeping | .waiting true => True
  | _ => False

instance (pc : SampleNodePc) : Decidable pc.Working :=
  match pc with
  | .returned _ | .raised => instDecidableFalse
  | .scheduled | .sleeping | .waiting _ => instDecidableTrue

instance (pc : SampleNodePc) : Decidable pc.AtTop :=
  match pc with
  | .returned _ | .raised | .waiting false => instDecidableFalse
  | .scheduled | .sleeping | .waiting true => instDecidableTrue

namespace StatisticsTasks

variable {s t : StatisticsTasks}

/-- The sampler is under way, it has sent the node a request with this id, and its
deadline has not come. -/
def Asked (s : StatisticsTasks) (nodeId : String) (requestId : Nat) (now : ℚ) : Prop :=
  ∃ sampler ∈ s.sampler, sampler.sample = none ∧ now < sampler.deadline ∧
    ∃ node ∈ sampler.nodes.get? nodeId, requestId ∈ node.expectedPacketIds

instance (s : StatisticsTasks) (nodeId : String) (requestId : Nat) (now : ℚ) :
    Decidable (s.Asked nodeId requestId now) :=
  inferInstanceAs (Decidable (∃ sampler ∈ s.sampler, sampler.sample = none ∧
    now < sampler.deadline ∧ ∃ node ∈ sampler.nodes.get? nodeId,
      requestId ∈ node.expectedPacketIds))

/-- What is remembered of a call of the sampler: the nodes and totals of the answers that
were handled before its deadline, what the nodes' last reports were when their tasks
returned, and the nodes that reported less than before. -/
structure History where
  answers : List (String × Nat) := []
  lastReports : Dict String Nat := ∅
  decreased : List String := []

/-- The history after a step. -/
def remember (parseTelemetry : List UInt8 → Option Telemetry) (h : History)
    (s : StatisticsTasks) (a : Action) (t : StatisticsTasks) : History :=
  match a with
  | .sample _ => if s.Ready then {} else h
  | .fromRadio now nodeId message =>
      match s.nodeMetrics.get? nodeId, localStatsIn parseTelemetry message with
      | some metrics, some (requestId, stats) =>
          { h with
            answers :=
              if s.Asked nodeId requestId now then
                h.answers ++ [(nodeId, stats.numPacketsRxBad)]
              else h.answers
            decreased :=
              if stats.numPacketsRxBad < metrics.rxBad then nodeId :: h.decreased
              else h.decreased }
      | _, _ => h
  | .resume nodeId .. =>
      match s.nodeMetrics.get? nodeId, t.node? nodeId with
      | some metrics, some { pc := .returned (some _), .. } =>
          { h with lastReports := h.lastReports.set nodeId metrics.rxBad }
      | _, _ => h
  | .timeout .. => h

/-- The condition on a step under which no answer is lost.  While an answer waits to be
looked at, no report of the node without an id that the sampler sent is handled, and the
node's task does not come to the top of its loop after the deadline.  An answer after the
node's task has returned reports no more than the node's last report before. -/
def LooksInTime (parseTelemetry : List UInt8 → Option Telemetry) (u : StatisticsTasks × History)
    (a : Action) : Prop :=
  match a with
  | .fromRadio now nodeId message =>
      ∀ node ∈ u.1.node? nodeId, ∀ report ∈ localStatsIn parseTelemetry message,
        (node.pc.Working → u.1.responseArrived nodeId node = true →
          report.1 ∈ node.expectedPacketIds) ∧
        (¬node.pc.Working → u.1.Asked nodeId report.1 now →
          ∀ last ∈ u.2.lastReports.get? nodeId, report.2.numPacketsRxBad ≤ last)
  | .resume nodeId _ second _ =>
      ∀ sampler ∈ u.1.sampler, ∀ node ∈ u.1.node? nodeId,
        u.1.responseArrived nodeId node = true → node.pc.AtTop → second < sampler.deadline
  | _ => True

instance (parseTelemetry : List UInt8 → Option Telemetry) (u : StatisticsTasks × History)
    (a : Action) : Decidable (LooksInTime parseTelemetry u a) :=
  match a with
  | .fromRadio now nodeId message =>
      inferInstanceAs (Decidable (∀ node ∈ u.1.node? nodeId,
        ∀ report ∈ localStatsIn parseTelemetry message,
          (node.pc.Working → u.1.responseArrived nodeId node = true →
            report.1 ∈ node.expectedPacketIds) ∧
          (¬node.pc.Working → u.1.Asked nodeId report.1 now →
            ∀ last ∈ u.2.lastReports.get? nodeId, report.2.numPacketsRxBad ≤ last)))
  | .resume nodeId _ second _ =>
      inferInstanceAs (Decidable (∀ sampler ∈ u.1.sampler, ∀ node ∈ u.1.node? nodeId,
        u.1.responseArrived nodeId node = true → node.pc.AtTop → second < sampler.deadline))
  | .sample _ | .timeout .. => instDecidableTrue

/-! ## What a run of a task comes to -/

/-- Where one run of a node's task leaves it: the response has arrived and is read, the
task waits for it, it gives up at the top of its loop after the deadline, or it sleeps
before another request. -/
inductive Moved (s : StatisticsTasks) (deadline : ℚ) (nodeId : String) (node : SampleNode)
    (second : ℚ) (next : SampleNode) : Prop where
  | arrived (harrived : s.responseArrived nodeId next = true)
      (hpc : next.pc = s.readMetrics nodeId)
  | waits (hmissing : s.responseArrived nodeId next = false) (hpc : next.pc = .waiting false)
  | gaveUp (htop : node.pc.AtTop) (hlate : deadline ≤ second) (hpc : next.pc = .returned none)
  | slept (hpc : next.pc = .sleeping)

/-- What the run of a node's task leaves as it is. -/
structure Resumed (s t : StatisticsTasks) (nodeId : String) (next : SampleNode) : Prop where
  gateways : t.gateways = s.gateways
  nodeMetrics : t.nodeMetrics = s.nodeMetrics
  responseIds : t.localStatsResponseIds = s.localStatsResponseIds
  clock : t.clock = s.clock
  sampler : t.sampler = s.sampler.map fun sampler =>
    { sampler with nodes := sampler.nodes.set nodeId next }
  others : ∀ other done, other ≠ nodeId → (other, done) ∈ s.localStatsCondition →
    (other, done) ∈ t.localStatsCondition ∨ (other, true) ∈ t.localStatsCondition
  entered : next.pc = .waiting false → (nodeId, false) ∈ t.localStatsCondition

theorem resumed_putNode (s : StatisticsTasks) (nodeId : String) (next : SampleNode)
    (hpc : next.pc ≠ .waiting false) : Resumed s (s.putNode nodeId next) nodeId next :=
  ⟨rfl, rfl, rfl, rfl, rfl, fun _ _ _ hmember => Or.inl hmember, fun hwaits => absurd hwaits hpc⟩

theorem readMetrics_ne_waiting (s : StatisticsTasks) (nodeId : String) :
    s.readMetrics nodeId ≠ .waiting false := by
  unfold readMetrics
  split <;> nofun

/-- The service with a new packet id, or with other waiters. -/
structure Prepared (s u : StatisticsTasks) (nodeId : String) : Prop where
  fields : u = { s with
    controlPacketId := u.controlPacketId
    localStatsCondition := u.localStatsCondition }
  others : ∀ other done, other ≠ nodeId → (other, done) ∈ s.localStatsCondition →
    (other, done) ∈ u.localStatsCondition ∨ (other, true) ∈ u.localStatsCondition

variable {u : StatisticsTasks} {deadline first second : ℚ} {nodeId : String}
  {node next : SampleNode}

theorem Prepared.moved (h : Prepared s u nodeId)
    (hmoved : Moved u deadline nodeId node second next) :
    Moved s deadline nodeId node second next := by
  obtain ⟨hfields, _⟩ := h
  rw [hfields] at hmoved
  cases hmoved with
  | arrived harrived hpc => exact .arrived harrived hpc
  | waits hmissing hpc => exact .waits hmissing hpc
  | gaveUp htop hlate hpc => exact .gaveUp htop hlate hpc
  | slept hpc => exact .slept hpc

theorem Prepared.resumed (h : Prepared s u nodeId) (hresumed : Resumed u t nodeId next) :
    Resumed s t nodeId next where
  gateways := hresumed.gateways.trans (by rw [h.fields])
  nodeMetrics := hresumed.nodeMetrics.trans (by rw [h.fields])
  responseIds := hresumed.responseIds.trans (by rw [h.fields])
  clock := hresumed.clock.trans (by rw [h.fields])
  sampler := hresumed.sampler.trans (by rw [h.fields])
  others := by
    intro other done hother hmember
    rcases h.others other done hother hmember with hsame | hdone
    · exact hresumed.others other done hother hsame
    · rcases hresumed.others other true hother hdone with hdone | hdone
      · exact Or.inr hdone
      · exact Or.inr hdone
  entered := hresumed.entered

theorem waitFor_cases (s : StatisticsTasks) (deadline second : ℚ) (nodeId : String)
    (node start : SampleNode) :
    ∃ next, Moved s deadline nodeId start second next ∧
      Resumed s (s.waitFor nodeId node) nodeId next ∧
      next.expectedPacketIds = node.expectedPacketIds := by
  unfold waitFor
  split
  · next harrived =>
      exact ⟨{ node with pc := s.readMetrics nodeId }, .arrived harrived rfl,
        resumed_putNode s nodeId _ (s.readMetrics_ne_waiting nodeId), rfl⟩
  · next hmissing =>
      refine ⟨{ node with pc := .waiting false },
        .waits (Bool.eq_false_iff.mpr hmissing) rfl, ⟨rfl, rfl, rfl, rfl, rfl, ?_, ?_⟩, rfl⟩
      · exact fun _ _ _ hmember => Or.inl (List.mem_append_left _ hmember)
      · exact fun _ => List.mem_append_right _ List.mem_cons_self

/-- A pass through the loop. -/
theorem attempt_cases (s : StatisticsTasks) (nodeId : String) (deadline : ℚ) (node : SampleNode)
    (htop : node.pc.AtTop)
    (hclock : first ≤ second) (sendRaised : Bool) :
    ∃ next, Moved s deadline nodeId node second next ∧
      Resumed s (s.attempt deadline nodeId node first second sendRaised) nodeId next ∧
      node.expectedPacketIds ⊆ next.expectedPacketIds := by
  have hnumbered : Prepared s
      { s with controlPacketId := nextControlPacketId s.controlPacketId } nodeId :=
    ⟨rfl, fun _ _ _ hmember => Or.inl hmember⟩
  unfold attempt
  split
  · next hover =>
      exact ⟨{ node with pc := .returned none }, .gaveUp htop (by linarith) rfl,
        resumed_putNode s nodeId _ (by simp), List.Subset.refl _⟩
  · dsimp only
    split
    · split
      · next hover =>
          exact ⟨{ node with pc := .returned none }, .gaveUp htop (by linarith) rfl,
            hnumbered.resumed (resumed_putNode _ nodeId _ (by simp)), List.Subset.refl _⟩
      · exact ⟨{ node with pc := .sleeping }, .slept rfl,
          hnumbered.resumed (resumed_putNode _ nodeId _ (by simp)), List.Subset.refl _⟩
    · split
      · next hover =>
          have hlate : deadline ≤ second := by
            rcases min_le_iff.mp hover with hretry | hlate
            · exact absurd hretry (not_le.mpr s.positive.2)
            · linarith
          exact ⟨{ expectedPacketIds := nextControlPacketId s.controlPacketId ::
              node.expectedPacketIds, pc := .returned none }, .gaveUp htop hlate rfl,
            hnumbered.resumed (resumed_putNode _ nodeId _ (by simp)), List.subset_cons_self _ _⟩
      · obtain ⟨next, hmoved, hresumed, hexpected⟩ := waitFor_cases
          { s with controlPacketId := nextControlPacketId s.controlPacketId } deadline second nodeId
          { node with
            expectedPacketIds := nextControlPacketId s.controlPacketId :: node.expectedPacketIds }
          node
        refine ⟨next, hnumbered.moved hmoved, hnumbered.resumed hresumed, ?_⟩
        rw [hexpected]
        exact List.subset_cons_self _ _

/-- The task of a node that runs has not ended, and moves on. -/
theorem resume_cases {sendRaised : Bool}
    (hresume : s.resume deadline nodeId node first second sendRaised = some t)
    (hclock : first ≤ second) :
    node.pc.Working ∧ ∃ next, Moved s deadline nodeId node second next ∧
      Resumed s t nodeId next ∧ node.expectedPacketIds ⊆ next.expectedPacketIds := by
  unfold resume at hresume
  split at hresume
  · next hpc =>
      cases hresume
      exact ⟨by rw [hpc]; trivial,
        attempt_cases s nodeId _ _ (by rw [hpc]; trivial) hclock sendRaised⟩
  · next hpc =>
      cases hresume
      exact ⟨by rw [hpc]; trivial,
        attempt_cases s nodeId _ _ (by rw [hpc]; trivial) hclock sendRaised⟩
  · next timedOut hpc =>
      refine ⟨by rw [hpc]; trivial, ?_⟩
      have hleaves : ∀ other done, other ≠ nodeId → (other, done) ∈ s.localStatsCondition →
          (other, done) ∈ s.localStatsCondition.leave nodeId := by
        intro other done hother hmember
        exact List.mem_filter.mpr ⟨hmember, by simpa using hother⟩
      split at hresume
      · dsimp only at hresume
        split at hresume
        · next htimedOut =>
            cases hresume
            have hprepared : Prepared s { s with
                localStatsCondition := (s.localStatsCondition.leave nodeId).notify 1 } nodeId :=
              ⟨rfl, fun other done hother hmember =>
                Waiters.mem_notify (hleaves other done hother hmember)⟩
            obtain ⟨next, hmoved, hresumed, hexpected⟩ := attempt_cases { s with
                localStatsCondition := (s.localStatsCondition.leave nodeId).notify 1 } nodeId
              deadline node (by rw [hpc, htimedOut]; trivial) hclock
              sendRaised
            exact ⟨next, hprepared.moved hmoved, hprepared.resumed hresumed, hexpected⟩
        · cases hresume
          have hprepared : Prepared s { s with
              localStatsCondition := s.localStatsCondition.leave nodeId } nodeId :=
            ⟨rfl, fun other done hother hmember => Or.inl (hleaves other done hother hmember)⟩
          obtain ⟨next, hmoved, hresumed, hexpected⟩ := waitFor_cases { s with
              localStatsCondition := s.localStatsCondition.leave nodeId } deadline second nodeId
            node node
          exact ⟨next, hprepared.moved hmoved, hprepared.resumed hresumed,
            hexpected ▸ List.Subset.refl _⟩
      · cases hresume
  · cases hresume
  · cases hresume

theorem node?_of_resumed (h : Resumed s t nodeId next) (hnode : s.node? nodeId = some node)
    (other : String) :
    t.node? other = if other = nodeId then some next else s.node? other := by
  unfold node? at hnode ⊢
  rw [h.sampler]
  obtain ⟨sampler, hsampler, _⟩ := Option.bind_eq_some_iff.mp hnode
  rw [hsampler, Option.map_some, Option.bind_some, Option.bind_some, Dict.get?_set]

theorem responseArrived_mono (hsame : t.localStatsResponseIds = s.localStatsResponseIds)
    (hexpected : node.expectedPacketIds ⊆ next.expectedPacketIds)
    (harrived : s.responseArrived nodeId node = true) :
    t.responseArrived nodeId next = true := by
  unfold responseArrived at harrived ⊢
  rw [hsame]
  split at harrived
  · cases harrived
  · simpa using hexpected (by simpa using harrived)

/-! ## What is held of an answer -/

/-- What the metrics of a node hold of its bad receptions. -/
def rxBad (s : StatisticsTasks) (nodeId : String) : Option Nat :=
  (s.nodeMetrics.get? nodeId).map (·.rxBad)

/-- An answer waits to be looked at, or was. -/
inductive Held (s : StatisticsTasks) (h : History) (answer : String × Nat) (node : SampleNode) :
    Prop where
  | waiting (hworking : node.pc.Working) (harrived : s.responseArrived answer.1 node = true)
      (htotal : answer.1 ∉ h.decreased → ∃ total ∈ s.rxBad answer.1, answer.2 ≤ total)
  | returned (value : Nat × Nat) (hpc : node.pc = .returned (some value))
      (htotal : answer.1 ∉ h.decreased → answer.2 ≤ value.1)

/-- What holds of every call of the sampler that looks in time. -/
structure Sampled (s : StatisticsTasks) (h : History) : Prop where
  known : ∀ nodeId ∈ s.gateways, s.rxBad nodeId ≠ none
  listed : ∀ nodeId node, s.node? nodeId = some node → nodeId ∈ s.gateways
  unraised : ∀ nodeId node, s.node? nodeId = some node → node.pc ≠ .raised
  late : ∀ sampler ∈ s.sampler, ∀ nodeId node, s.node? nodeId = some node →
    node.pc = .returned none → sampler.deadline ≤ s.clock
  lastReport : ∀ nodeId node value, s.node? nodeId = some node →
    node.pc = .returned (some value) → h.lastReports.get? nodeId = some value.1
  held : ∀ answer ∈ h.answers, ∃ node, s.node? answer.1 = some node ∧ Held s h answer node

variable {h : History} {parseTelemetry : List UInt8 → Option Telemetry}

theorem Sampled.new (nodes verifications : List String) (freshState : Bool)
    (localStatsDeadlineSeconds localStatsRetrySeconds : ℚ)
    (positive : 0 < localStatsDeadlineSeconds ∧ 0 < localStatsRetrySeconds)
    (controlPacketId : Nat) (clock : ℚ) :
    Sampled (.new nodes verifications freshState localStatsDeadlineSeconds
      localStatsRetrySeconds positive controlPacketId clock) {} where
  known := by
    intro nodeId hmember
    have hnode : nodeId ∈ nodes := hmember
    have hcontains := (Dict.contains_update (∅ : Dict String NodeMetrics)
      (nodes.map fun nodeId => (nodeId, { rxBadInitialized := freshState })) nodeId).mpr
        (Or.inr (by simpa using hnode))
    obtain ⟨metrics, hget⟩ := Option.isSome_iff_exists.mp hcontains
    unfold rxBad StatisticsTasks.new
    dsimp only
    rw [hget]
    simp
  listed := nofun
  unraised := nofun
  late := nofun
  lastReport := nofun
  held := by simp

/-- The clock goes on. -/
theorem Sampled.tick (hsampled : Sampled s h) {now : ℚ} (hnow : s.clock ≤ now) :
    Sampled { s with clock := now } h where
  known := hsampled.known
  listed := hsampled.listed
  unraised := hsampled.unraised
  late := fun sampler hsampler nodeId node hnode hpc =>
    (hsampled.late sampler hsampler nodeId node hnode hpc).trans hnow
  lastReport := hsampled.lastReport
  held := by
    intro answer hanswer
    obtain ⟨node, hnode, hheld⟩ := hsampled.held answer hanswer
    refine ⟨node, hnode, ?_⟩
    cases hheld with
    | waiting hworking harrived htotal => exact .waiting hworking harrived htotal
    | returned value hpc htotal => exact .returned value hpc htotal

/-- The metrics change, but not their bad receptions. -/
theorem Sampled.metrics (hsampled : Sampled s h) {metrics : Dict String NodeMetrics}
    (hsame : ∀ nodeId, (metrics.get? nodeId).map (·.rxBad) = s.rxBad nodeId) :
    Sampled { s with nodeMetrics := metrics } h where
  known := fun nodeId hmember => by
    change (metrics.get? nodeId).map (·.rxBad) ≠ none
    rw [hsame]
    exact hsampled.known nodeId hmember
  listed := hsampled.listed
  unraised := hsampled.unraised
  late := hsampled.late
  lastReport := hsampled.lastReport
  held := by
    intro answer hanswer
    obtain ⟨node, hnode, hheld⟩ := hsampled.held answer hanswer
    refine ⟨node, hnode, ?_⟩
    cases hheld with
    | waiting hworking harrived htotal =>
        refine .waiting hworking harrived fun hkept => ?_
        obtain ⟨total, hmember, hle⟩ := htotal hkept
        exact ⟨total, (hsame answer.1).trans hmember, hle⟩
    | returned value hpc htotal => exact .returned value hpc htotal

/-! ## Steps -/

/-- A message without local statistics leaves their totals, their slots and the waiters. -/
theorem onFromRadio_of_none (s : StatisticsTasks)
    (parseTelemetry : List UInt8 → Option Telemetry) (nodeId : String) (message : FromRadio)
    (hnone : s.nodeMetrics.get? nodeId = none ∨ localStatsIn parseTelemetry message = none) :
    ∃ metrics : Dict String NodeMetrics,
      s.onFromRadio parseTelemetry nodeId message = { s with nodeMetrics := metrics } ∧
        ∀ other, (metrics.get? other).map (·.rxBad) = s.rxBad other := by
  unfold onFromRadio
  split
  · exact ⟨s.nodeMetrics, rfl, fun _ => rfl⟩
  · next metrics hmetrics =>
      rcases hnone with hunknown | hnone
      · rw [hmetrics] at hunknown
        cases hunknown
      · rw [hnone]
        split
        · next hreport => cases hreport
        · refine ⟨_, rfl, fun other => ?_⟩
          rw [Dict.get?_set]
          unfold rxBad
          split
          · next heq => simp [heq, hmetrics]
          · rfl
        · exact ⟨s.nodeMetrics, rfl, fun _ => rfl⟩

/-- A report of the node is recorded while no answer is lost. -/
theorem Sampled.report (hsampled : Sampled s h) {metrics : NodeMetrics} {requestId : Nat}
    {stats : LocalStats} {later : History}
    (hmetrics : s.nodeMetrics.get? nodeId = some metrics)
    (hpending : ∀ node ∈ s.node? nodeId, node.pc.Working →
      s.responseArrived nodeId node = true → requestId ∈ node.expectedPacketIds)
    (hover : ∀ node ∈ s.node? nodeId, ¬node.pc.Working → s.Asked nodeId requestId s.clock →
      ∀ last ∈ h.lastReports.get? nodeId, stats.numPacketsRxBad ≤ last)
    (hanswers : later.answers = if s.Asked nodeId requestId s.clock then
      h.answers ++ [(nodeId, stats.numPacketsRxBad)] else h.answers)
    (hreports : later.lastReports = h.lastReports)
    (hdecreased : later.decreased = if stats.numPacketsRxBad < metrics.rxBad then
      nodeId :: h.decreased else h.decreased) :
    Sampled (s.recordLocalStats nodeId metrics requestId stats) later := by
  have hrxBad : ∀ other, (s.recordLocalStats nodeId metrics requestId stats).rxBad other =
      if other = nodeId then some stats.numPacketsRxBad else s.rxBad other := by
    intro other
    unfold rxBad recordLocalStats
    dsimp only
    rw [Dict.get?_set]
    split <;> rfl
  have harrives : ∀ other node,
      (s.recordLocalStats nodeId metrics requestId stats).responseArrived other node =
        if other = nodeId then decide (requestId ∈ node.expectedPacketIds)
        else s.responseArrived other node := by
    intro other node
    unfold responseArrived recordLocalStats
    dsimp only
    rw [Dict.get?_set]
    by_cases heq : other = nodeId
    · rw [if_pos heq, if_pos heq]
    · rw [if_neg heq, if_neg heq]
  have hdecreases : ∀ other, other ∉ later.decreased → other ∉ h.decreased ∧
      (other = nodeId → metrics.rxBad ≤ stats.numPacketsRxBad) := by
    intro other hother
    rw [hdecreased] at hother
    split at hother
    · rw [List.mem_cons, not_or] at hother
      exact ⟨hother.2, fun heq => absurd heq hother.1⟩
    · next hnot => exact ⟨hother, fun _ => Nat.not_lt.mp hnot⟩
  refine
    { known := ?_
      listed := hsampled.listed
      unraised := hsampled.unraised
      late := hsampled.late
      lastReport := by
        rw [hreports]
        exact hsampled.lastReport
      held := ?_ }
  · intro other hother
    rw [hrxBad]
    split
    · rintro ⟨⟩
    · exact hsampled.known other hother
  · intro answer hanswer
    have hold : answer ∈ h.answers → ∃ node, s.node? answer.1 = some node ∧
        Held (s.recordLocalStats nodeId metrics requestId stats) later answer node := by
      intro hearlier
      obtain ⟨node, hnode, hheld⟩ := hsampled.held answer hearlier
      refine ⟨node, hnode, ?_⟩
      cases hheld with
      | returned value hpc htotal =>
          exact .returned value hpc fun hkept => htotal (hdecreases answer.1 hkept).1
      | waiting hworking harrived htotal =>
          refine .waiting hworking ?_ fun hkept => ?_
          · rw [harrives]
            split
            · next heq =>
                rw [decide_eq_true_eq]
                rw [heq] at hnode harrived
                exact hpending node hnode hworking harrived
            · exact harrived
          · obtain ⟨hbefore, hgrows⟩ := hdecreases answer.1 hkept
            obtain ⟨total, hmember, hle⟩ := htotal hbefore
            rw [hrxBad]
            split
            · next heq =>
                refine ⟨stats.numPacketsRxBad, rfl, hle.trans ?_⟩
                rw [heq] at hmember
                unfold rxBad at hmember
                rw [hmetrics] at hmember
                cases hmember
                exact hgrows heq
            · exact ⟨total, hmember, hle⟩
    rw [hanswers] at hanswer
    split at hanswer
    · next hasked =>
        rcases List.mem_append.mp hanswer with hearlier | hnew
        · exact hold hearlier
        · rw [List.mem_singleton.mp hnew]
          obtain ⟨sampler, hsampler, hrunning, hbefore, node, hget, hexpected⟩ := hasked
          have hnode : s.node? nodeId = some node := by
            unfold node?
            rw [hsampler]
            exact hget
          refine ⟨node, hnode, ?_⟩
          by_cases hworking : node.pc.Working
          · refine .waiting hworking ?_ fun _ => ⟨stats.numPacketsRxBad, ?_, le_rfl⟩
            · rw [harrives, if_pos rfl]
              exact decide_eq_true hexpected
            · rw [hrxBad, if_pos rfl]
              rfl
          · cases hpc : node.pc with
            | returned value =>
                cases value with
                | none =>
                    have hlate := hsampled.late sampler hsampler nodeId node hnode hpc
                    exact absurd hbefore (not_lt.mpr hlate)
                | some value =>
                    refine .returned value hpc fun _ => ?_
                    exact hover node hnode hworking
                      ⟨sampler, hsampler, hrunning, hbefore, node, hget, hexpected⟩ value.1
                      (hsampled.lastReport nodeId node value hnode hpc)
            | raised => exact absurd hpc (hsampled.unraised nodeId node hnode)
            | _ =>
                rw [hpc] at hworking
                exact absurd trivial hworking
    · exact hold hanswer

/-- The metrics are there to be read. -/
theorem readMetrics_of_rxBad {total : Nat} (h : s.rxBad nodeId = some total) :
    ∃ duplicate, s.readMetrics nodeId = .returned (some (total, duplicate)) := by
  unfold rxBad at h
  obtain ⟨metrics, hmetrics, rfl⟩ := Option.map_eq_some_iff.mp h
  unfold readMetrics
  rw [hmetrics]
  exact ⟨metrics.rxDuplicate, rfl⟩

/-- The task of a node runs while no answer is lost. -/
theorem Sampled.resumed (hsampled : Sampled s h) {sampler : Sampler}
    (hsampler : s.sampler = some sampler) (hnode : s.node? nodeId = some node)
    (hworking : node.pc.Working) (hmoved : Moved s sampler.deadline nodeId node second next)
    (hresumed : Resumed s t nodeId next)
    (hexpected : node.expectedPacketIds ⊆ next.expectedPacketIds) (hclock : s.clock = second)
    (hlooks : s.responseArrived nodeId node = true → node.pc.AtTop → second < sampler.deadline)
    {later : History} (hanswers : later.answers = h.answers)
    (hdecreased : later.decreased = h.decreased)
    (hreports : later.lastReports =
      match s.nodeMetrics.get? nodeId, t.node? nodeId with
      | some metrics, some { pc := .returned (some _), .. } =>
          h.lastReports.set nodeId metrics.rxBad
      | _, _ => h.lastReports) : Sampled t later := by
  have hnodes := node?_of_resumed hresumed hnode
  have hrxBad : ∀ other, t.rxBad other = s.rxBad other := by
    intro other
    unfold rxBad
    rw [hresumed.nodeMetrics]
  obtain ⟨total, htotal⟩ := Option.ne_none_iff_exists'.mp
    (hsampled.known nodeId (hsampled.listed nodeId node hnode))
  obtain ⟨duplicate, hread⟩ := readMetrics_of_rxBad htotal
  have hmetrics : ∃ metrics, s.nodeMetrics.get? nodeId = some metrics ∧ metrics.rxBad = total :=
    Option.map_eq_some_iff.mp htotal
  have hself : t.node? nodeId = some next := by
    rw [hnodes, if_pos rfl]
  refine
    { known := ?_
      listed := ?_
      unraised := ?_
      late := ?_
      lastReport := ?_
      held := ?_ }
  · intro other hother
    rw [hresumed.gateways] at hother
    rw [hrxBad]
    exact hsampled.known other hother
  · intro other found hfound
    rw [hresumed.gateways]
    rw [hnodes] at hfound
    split at hfound
    · next heq => exact heq ▸ hsampled.listed nodeId node hnode
    · exact hsampled.listed other found hfound
  · intro other found hfound
    rw [hnodes] at hfound
    split at hfound
    · cases hfound
      cases hmoved with
      | arrived _ hpc => simp [hpc, hread]
      | waits _ hpc => simp [hpc]
      | gaveUp _ _ hpc => simp [hpc]
      | slept hpc => simp [hpc]
    · exact hsampled.unraised other found hfound
  · intro newer hnewer other found hfound hpc
    rw [hresumed.sampler, hsampler] at hnewer
    cases hnewer
    rw [hresumed.clock]
    rw [hnodes] at hfound
    split at hfound
    · cases hfound
      cases hmoved with
      | arrived _ hread' => simp [hread', hread] at hpc
      | waits _ hwaits => simp [hwaits] at hpc
      | gaveUp _ hlate _ => rwa [hclock]
      | slept hslept => simp [hslept] at hpc
    · exact hsampled.late sampler hsampler other found hfound hpc
  · intro other found value hfound hpc
    rw [hnodes] at hfound
    split at hfound
    · next heq =>
        cases hfound
        subst heq
        obtain ⟨metrics, hget, hbad⟩ := hmetrics
        have hset : later.lastReports = h.lastReports.set other metrics.rxBad := by
          rw [hreports, hget, hself]
          obtain ⟨expected, pc⟩ := next
          dsimp only at hpc
          rw [hpc]
        rw [hset, Dict.get?_set_self, hbad]
        cases hmoved with
        | arrived _ hread' =>
            rw [hread', hread] at hpc
            cases hpc
            rfl
        | waits _ hwaits => simp [hwaits] at hpc
        | gaveUp _ _ hnone => simp [hnone] at hpc
        | slept hslept => simp [hslept] at hpc
    · next hne =>
        have hsame : later.lastReports.get? other = h.lastReports.get? other := by
          rw [hreports]
          split
          · exact Dict.get?_set_of_ne _ hne _
          · rfl
        rw [hsame]
        exact hsampled.lastReport other found value hfound hpc
  · intro answer hanswer
    rw [hanswers] at hanswer
    obtain ⟨found, hfound, hheld⟩ := hsampled.held answer hanswer
    by_cases heq : answer.1 = nodeId
    · rw [heq, hnode] at hfound
      cases hfound
      refine ⟨next, by rw [heq]; exact hself, ?_⟩
      cases hheld with
      | returned value hpc _ =>
          rw [hpc] at hworking
          exact absurd hworking id
      | waiting _ harrived hle =>
          rw [heq] at harrived
          cases hmoved with
          | arrived _ hpc =>
              refine .returned (total, duplicate) (hpc.trans hread) fun hkept => ?_
              rw [hdecreased] at hkept
              obtain ⟨reported, hmember, hle⟩ := hle hkept
              rw [heq] at hmember
              cases hmember.symm.trans htotal
              exact hle
          | waits hmissing _ =>
              rw [responseArrived_mono rfl hexpected harrived] at hmissing
              cases hmissing
          | gaveUp htop hlate _ => exact absurd (hlooks harrived htop) (not_lt.mpr hlate)
          | slept hpc =>
              refine .waiting (by rw [hpc]; trivial) ?_ fun hkept => ?_
              · rw [heq]
                exact responseArrived_mono hresumed.responseIds hexpected harrived
              · rw [hdecreased] at hkept
                rw [hrxBad]
                exact hle hkept
    · refine ⟨found, by rw [hnodes, if_neg heq]; exact hfound, ?_⟩
      cases hheld with
      | returned value hpc hle =>
          exact .returned value hpc (by rw [hdecreased]; exact hle)
      | waiting hstill harrived hle =>
          refine .waiting hstill ?_ fun hkept => ?_
          · exact responseArrived_mono hresumed.responseIds (List.Subset.refl _) harrived
          · rw [hdecreased] at hkept
            rw [hrxBad]
            exact hle hkept

/-- A call of the sampler begins with no answers. -/
theorem Sampled.sample (hsampled : Sampled s h) :
    Sampled s.sampleLocalStats (if s.Ready then {} else h) := by
  unfold sampleLocalStats
  by_cases hready : s.Ready
  · rw [if_neg (not_not.mpr hready), if_pos hready]
    have hfresh : ∀ nodeId node, ((∅ : Dict String SampleNode).update
        (s.gateways.map fun nodeId => (nodeId, {}))).get? nodeId = some node →
          nodeId ∈ s.gateways ∧ node = {} := by
      intro nodeId node hget
      rcases Dict.get?_update hget with hempty | hmember
      · cases hempty
      · obtain ⟨gateway, hgateway, heq⟩ := List.mem_map.mp hmember
        obtain ⟨rfl, rfl⟩ := Prod.mk.inj heq
        exact ⟨hgateway, rfl⟩
    exact
      { known := hsampled.known
        listed := fun nodeId node hnode => (hfresh nodeId node hnode).1
        unraised := by
          intro nodeId node hnode
          rw [(hfresh nodeId node hnode).2]
          nofun
        late := by
          intro sampler _ nodeId node hnode hpc
          rw [(hfresh nodeId node hnode).2] at hpc
          cases hpc
        lastReport := by
          intro nodeId node value hnode hpc
          rw [(hfresh nodeId node hnode).2] at hpc
          cases hpc
        held := by simp }
  · rw [if_pos hready, if_neg hready]
    exact hsampled

/-- The timer of a wait fires. -/
theorem Sampled.timeout (hsampled : Sampled s h) (hnode : s.node? nodeId = some node)
    (hwaits : node.pc = .waiting false) (waiters : Waiters String) :
    Sampled (({ s with localStatsCondition := waiters }).putNode nodeId
      { node with pc := .waiting true }) h := by
  have hresumed : Resumed { s with localStatsCondition := waiters }
      (({ s with localStatsCondition := waiters }).putNode nodeId
        { node with pc := .waiting true }) nodeId { node with pc := .waiting true } :=
    resumed_putNode _ nodeId _ (by simp)
  have hnodes := node?_of_resumed hresumed hnode
  refine
    { known := hsampled.known
      listed := ?_
      unraised := ?_
      late := ?_
      lastReport := ?_
      held := ?_ }
  · intro other found hfound
    rw [hnodes] at hfound
    split at hfound
    · next heq => exact heq ▸ hsampled.listed nodeId node hnode
    · exact hsampled.listed other found hfound
  · intro other found hfound
    rw [hnodes] at hfound
    split at hfound
    · cases hfound
      nofun
    · exact hsampled.unraised other found hfound
  · intro newer hnewer other found hfound hpc
    obtain ⟨sampler, hsampler, rfl⟩ := Option.map_eq_some_iff.mp hnewer
    rw [hnodes] at hfound
    split at hfound
    · cases hfound
      cases hpc
    · exact hsampled.late sampler hsampler other found hfound hpc
  · intro other found value hfound hpc
    rw [hnodes] at hfound
    split at hfound
    · cases hfound
      cases hpc
    · exact hsampled.lastReport other found value hfound hpc
  · intro answer hanswer
    obtain ⟨found, hfound, hheld⟩ := hsampled.held answer hanswer
    by_cases heq : answer.1 = nodeId
    · rw [heq, hnode] at hfound
      cases hfound
      refine ⟨{ node with pc := .waiting true }, by rw [hnodes, if_pos heq], ?_⟩
      cases hheld with
      | returned value hpc _ =>
          rw [hwaits] at hpc
          cases hpc
      | waiting _ harrived hle => exact .waiting trivial harrived hle
    · refine ⟨found, by rw [hnodes, if_neg heq]; exact hfound, ?_⟩
      cases hheld with
      | returned value hpc hle => exact .returned value hpc hle
      | waiting hstill harrived hle => exact .waiting hstill harrived hle

theorem Sampled.step (hsampled : Sampled s h) {a : Action}
    (hlooks : LooksInTime parseTelemetry (s, h) a) (hstep : step parseTelemetry s a = some t) :
    Sampled t (remember parseTelemetry h s a t) := by
  cases a with
  | fromRadio now nodeId message =>
      unfold StatisticsTasks.step at hstep
      dsimp only at hstep
      split at hstep
      · next hnow =>
          cases hstep
          have hticked := hsampled.tick hnow
          unfold remember
          dsimp only
          split
          · next metrics requestId stats hmetrics hreport =>
              have hrecorded : { s with clock := now }.onFromRadio parseTelemetry nodeId message =
                  { s with clock := now }.recordLocalStats nodeId metrics requestId stats := by
                unfold onFromRadio
                rw [hmetrics, hreport]
              rw [hrecorded]
              refine hticked.report hmetrics ?_ ?_ rfl rfl rfl
              · intro node hnode hworking harrived
                exact (hlooks node hnode _ hreport).1 hworking harrived
              · intro node hnode hover hasked
                exact (hlooks node hnode _ hreport).2 hover hasked
          · next hnone =>
              obtain ⟨metrics, hsame, hbad⟩ := onFromRadio_of_none
                { s with clock := now } parseTelemetry nodeId message (by
                  by_contra hboth
                  rw [not_or] at hboth
                  obtain ⟨metrics, hmetrics⟩ := Option.ne_none_iff_exists'.mp hboth.1
                  obtain ⟨⟨requestId, stats⟩, hreport⟩ := Option.ne_none_iff_exists'.mp hboth.2
                  exact hnone metrics requestId stats hmetrics hreport)
              rw [hsame]
              exact hticked.metrics hbad
      · cases hstep
  | sample now =>
      unfold StatisticsTasks.step at hstep
      dsimp only at hstep
      split at hstep
      · next hnow =>
          cases hstep
          exact (hsampled.tick hnow.1).sample
      · cases hstep
  | resume nodeId first second sendRaised =>
      unfold StatisticsTasks.step at hstep
      dsimp only at hstep
      split at hstep
      · next hclock =>
          split at hstep
          · cases hstep
          · next sampler hsampler =>
              split at hstep
              · cases hstep
              · next node hget =>
                  have hnode : s.node? nodeId = some node := by
                    unfold node?
                    rw [hsampler]
                    exact hget
                  obtain ⟨hworking, next, hmoved, hresumed, hexpected⟩ :=
                    resume_cases hstep hclock.2
                  refine (hsampled.tick (hclock.1.trans hclock.2)).resumed
                    (s := { s with clock := second }) hsampler hnode hworking hmoved hresumed
                    hexpected rfl (hlooks sampler hsampler node hnode) ?_ ?_ ?_
                  · unfold remember
                    dsimp only
                    split <;> rfl
                  · unfold remember
                    dsimp only
                    split <;> rfl
                  · unfold remember
                    dsimp only
                    split <;> rfl
      · cases hstep
  | timeout now nodeId =>
      unfold StatisticsTasks.step at hstep
      dsimp only at hstep
      split at hstep
      · next hnow =>
          split at hstep
          · cases hstep
          · next sampler hsampler =>
              split at hstep
              · cases hstep
              · next node hget =>
                  split at hstep
                  · next hwaits =>
                      cases hstep
                      have hnode : s.node? nodeId = some node := by
                        unfold node?
                        rw [hsampler]
                        exact hget
                      exact (hsampled.tick hnow).timeout hnode hwaits _
                  · cases hstep
      · cases hstep

/-! ## No lost wake-up -/

/-- A task that waits has a future, and the future is done once the wait timed out or the
response has arrived. -/
def Wakeable (s : StatisticsTasks) : Prop :=
  ∀ nodeId node timedOut, s.node? nodeId = some node → node.pc = .waiting timedOut →
    (∃ done, (nodeId, done) ∈ s.localStatsCondition) ∧
      (timedOut = true ∨ s.responseArrived nodeId node = true →
        (nodeId, true) ∈ s.localStatsCondition)

theorem Wakeable.resumed (hwakeable : Wakeable s) (hnode : s.node? nodeId = some node)
    (hmoved : Moved s deadline nodeId node second next) (hresumed : Resumed s t nodeId next) :
    Wakeable t := by
  have hnodes := node?_of_resumed hresumed hnode
  intro other found timedOut hfound hpc
  rw [hnodes] at hfound
  by_cases heq : other = nodeId
  · subst heq
    rw [if_pos rfl] at hfound
    cases hfound
    cases hmoved with
    | arrived _ hread =>
        unfold readMetrics at hread
        rw [hpc] at hread
        split at hread <;> cases hread
    | waits hmissing hwaits =>
        have hentered := hresumed.entered hwaits
        rw [hpc] at hwaits
        cases hwaits
        refine ⟨⟨false, hentered⟩, ?_⟩
        rintro (htimedOut | harrived)
        · cases htimedOut
        · unfold responseArrived at harrived hmissing
          rw [hresumed.responseIds, hmissing] at harrived
          cases harrived
    | gaveUp _ _ hnone =>
        rw [hpc] at hnone
        cases hnone
    | slept hslept =>
        rw [hpc] at hslept
        cases hslept
  · rw [if_neg heq] at hfound
    obtain ⟨⟨done, hmember⟩, hdone⟩ := hwakeable other found timedOut hfound hpc
    refine ⟨?_, fun hready => ?_⟩
    · rcases hresumed.others other done heq hmember with hsame | hset
      · exact ⟨done, hsame⟩
      · exact ⟨true, hset⟩
    · have harrived : timedOut = true ∨ s.responseArrived other found = true := by
        unfold responseArrived at hready ⊢
        rwa [hresumed.responseIds] at hready
      rcases hresumed.others other true heq (hdone harrived) with hset | hset <;> exact hset

theorem Wakeable.step (hwakeable : Wakeable s) {a : Action}
    (hstep : step parseTelemetry s a = some t) : Wakeable t := by
  cases a with
  | fromRadio now nodeId message =>
      unfold StatisticsTasks.step at hstep
      dsimp only at hstep
      split at hstep
      · cases hstep
        unfold onFromRadio
        split
        · exact hwakeable
        · split
          · intro other node timedOut hnode hpc
            obtain ⟨⟨done, hmember⟩, _⟩ := hwakeable other node timedOut hnode hpc
            exact ⟨⟨true, Waiters.mem_notifyAll hmember⟩,
              fun _ => Waiters.mem_notifyAll hmember⟩
          · exact hwakeable
          · exact hwakeable
      · cases hstep
  | sample now =>
      unfold StatisticsTasks.step at hstep
      dsimp only at hstep
      split at hstep
      · cases hstep
        unfold sampleLocalStats
        split
        · exact hwakeable
        · intro nodeId node timedOut hnode hpc
          rcases Dict.get?_update (show (Dict.update ∅ _).get? nodeId = some node from hnode) with
            hempty | hmember
          · cases hempty
          · obtain ⟨gateway, _, heq⟩ := List.mem_map.mp hmember
            obtain ⟨_, rfl⟩ := Prod.mk.inj heq
            cases hpc
      · cases hstep
  | resume nodeId first second sendRaised =>
      unfold StatisticsTasks.step at hstep
      dsimp only at hstep
      split at hstep
      · next hclock =>
          split at hstep
          · cases hstep
          · next sampler hsampler =>
              split at hstep
              · cases hstep
              · next node hget =>
                  have hnode : s.node? nodeId = some node := by
                    unfold node?
                    rw [hsampler]
                    exact hget
                  obtain ⟨_, next, hmoved, hresumed, _⟩ := resume_cases hstep hclock.2
                  exact Wakeable.resumed (s := { s with clock := second }) hwakeable hnode hmoved
                    hresumed
      · cases hstep
  | timeout now nodeId =>
      unfold StatisticsTasks.step at hstep
      dsimp only at hstep
      split at hstep
      · split at hstep
        · cases hstep
        · next sampler hsampler =>
            split at hstep
            · cases hstep
            · next node hget =>
                split at hstep
                · next hwaits =>
                    cases hstep
                    have hnode : s.node? nodeId = some node := by
                      unfold node?
                      rw [hsampler]
                      exact hget
                    have hnodes := node?_of_resumed
                      (resumed_putNode { s with
                        clock := now
                        localStatsCondition := s.localStatsCondition.cancel nodeId } nodeId
                        { node with pc := .waiting true } (by simp)) hnode
                    intro other found timedOut hfound hpc
                    rw [hnodes] at hfound
                    by_cases heq : other = nodeId
                    · subst heq
                      obtain ⟨⟨done, hmember⟩, _⟩ := hwakeable other node false hnode hwaits
                      have hset := Waiters.mem_cancel other hmember
                      rw [if_pos rfl] at hset
                      exact ⟨⟨true, hset⟩, fun _ => hset⟩
                    · rw [if_neg heq] at hfound
                      obtain ⟨⟨done, hmember⟩, hdone⟩ :=
                        hwakeable other found timedOut hfound hpc
                      refine ⟨⟨_, Waiters.mem_cancel nodeId hmember⟩, fun hready => ?_⟩
                      have hset := Waiters.mem_cancel nodeId (hdone hready)
                      rwa [if_neg heq] at hset
                · cases hstep
      · cases hstep

/-- A task whose wait is over is enabled. -/
theorem Wakeable.enabled (hwakeable : Wakeable s) (hnode : s.node? nodeId = some node)
    (hworking : node.pc.Working)
    (hready : node.pc.AtTop ∨ s.responseArrived nodeId node = true) (sendRaised : Bool)
    (hfirst : s.clock ≤ first) (hsecond : first ≤ second) :
    (StatisticsTasks.step parseTelemetry s (.resume nodeId first second sendRaised)).isSome =
      true := by
  unfold StatisticsTasks.step
  dsimp only
  rw [if_pos ⟨hfirst, hsecond⟩]
  unfold node? at hnode
  obtain ⟨sampler, hsampler, hget⟩ := Option.bind_eq_some_iff.mp hnode
  rw [hsampler]
  dsimp only
  rw [hget]
  dsimp only
  unfold resume
  cases hpc : node.pc with
  | scheduled => rfl
  | sleeping => rfl
  | waiting timedOut =>
      have hset : (nodeId, true) ∈ s.localStatsCondition := by
        refine (hwakeable nodeId node timedOut ?_ hpc).2 ?_
        · unfold node?
          rw [hsampler]
          exact hget
        · rw [hpc] at hready
          cases timedOut with
          | true => exact Or.inl rfl
          | false => exact hready.imp False.elim id
      dsimp only
      rw [if_pos hset]
      split <;> rfl
  | returned value =>
      rw [hpc] at hworking
      exact absurd hworking id
  | raised =>
      rw [hpc] at hworking
      exact absurd hworking id

/-! ## The sample -/

/-- A sampler that has its sample has the value of every node. -/
theorem values_eq_some {items : List (String × SampleNode)}
    {values : List (String × Option (Nat × Nat))}
    (h : (items.mapM fun item : String × SampleNode =>
      match item.2.pc with
      | .returned value => some (item.1, value)
      | _ => none) = some values) :
    values.map Prod.fst = items.map Prod.fst ∧
      ∀ item ∈ items, ∃ value, item.2.pc = .returned value ∧ (item.1, value) ∈ values := by
  induction items generalizing values with
  | nil =>
      cases h
      exact ⟨rfl, fun _ hitem => absurd hitem List.not_mem_nil⟩
  | cons item rest ih =>
      rw [List.mapM_cons] at h
      obtain ⟨first, hfirst, h⟩ := Option.bind_eq_some_iff.mp h
      obtain ⟨others, hothers, h⟩ := Option.bind_eq_some_iff.mp h
      cases h
      obtain ⟨hkeys, hvalues⟩ := ih hothers
      split at hfirst
      · next value hpc =>
          cases hfirst
          refine ⟨by rw [List.map_cons, List.map_cons, hkeys], fun found hfound => ?_⟩
          rcases List.mem_cons.mp hfound with rfl | hrest
          · exact ⟨value, hpc, List.mem_cons_self⟩
          · obtain ⟨value, hpc, hmember⟩ := hvalues found hrest
            exact ⟨value, hpc, List.mem_cons_of_mem _ hmember⟩
      · cases hfirst

/-- The names of the totals are some of those of the values, in their order. -/
theorem totals_sublist (values : List (String × Option (Nat × Nat))) :
    ((values.filterMap fun value : String × Option (Nat × Nat) =>
      value.2.map fun counters => (value.1, counters.1)).map Prod.fst).Sublist
        (values.map Prod.fst) := by
  induction values with
  | nil => exact List.Sublist.refl _
  | cons value rest ih =>
      rw [List.filterMap_cons]
      cases hvalue : value.2 with
      | none => exact ih.cons _
      | some counters => exact ih.cons_cons _

/-- A node whose task returned counters is in the sample with them. -/
theorem sample_of_returned {sampler : Sampler} {sample : FailedReceptionSample}
    (hsample : sampler.sample = some sample) (hnode : sampler.nodes.get? nodeId = some node) :
    ∃ value, node.pc = .returned value ∧ ∀ counters, value = some counters →
      sample.totals.get? nodeId = some counters.1 ∧ nodeId ∉ sample.missingNodes := by
  obtain ⟨values, hvalues, rfl⟩ := Option.map_eq_some_iff.mp hsample
  obtain ⟨hkeys, hall⟩ := values_eq_some hvalues
  obtain ⟨value, hpc, hmember⟩ := hall (nodeId, node) (Dict.get?_eq_some.mp hnode)
  refine ⟨value, hpc, ?_⟩
  rintro counters rfl
  have hdistinct : (values.map Prod.fst).Nodup := by
    rw [hkeys]
    exact sampler.nodes.distinct
  have htotal : ((∅ : Dict String Nat).update
      (values.filterMap fun value : String × Option (Nat × Nat) =>
        value.2.map fun counters => (value.1, counters.1))).get? nodeId = some counters.1 := by
    rw [Dict.get?_eq_some, Dict.items_update_empty (hdistinct.sublist (totals_sublist values))]
    exact List.mem_filterMap.mpr ⟨(nodeId, some counters), hmember, rfl⟩
  refine ⟨htotal, fun hmissing => ?_⟩
  obtain ⟨_, hmissing⟩ := List.mem_filter.mp hmissing
  unfold Dict.contains at hmissing
  rw [htotal] at hmissing
  simp at hmissing

section Runs

variable {nodes verifications : List String} {freshState : Bool}
  {localStatsDeadlineSeconds localStatsRetrySeconds : ℚ}
  {positive : 0 < localStatsDeadlineSeconds ∧ 0 < localStatsRetrySeconds}
  {controlPacketId : Nat} {clock : ℚ}

/-- In every run that looks in time, a sample has a total for every node that answered
before the deadline, and when the node's totals did not decrease it is at least as large
as the one that the node answered. -/
theorem answers_sampled (hrun : Run
      (recorded (step parseTelemetry) (remember parseTelemetry)) (LooksInTime parseTelemetry)
      (.new nodes verifications freshState localStatsDeadlineSeconds localStatsRetrySeconds
        positive controlPacketId clock, {}) (s, h))
    {sampler : Sampler} {sample : FailedReceptionSample} (hsampler : s.sampler = some sampler)
    (hsample : sampler.sample = some sample) :
    ∀ answer ∈ h.answers, answer.1 ∉ sample.missingNodes ∧
      ∃ total, sample.totals.get? answer.1 = some total ∧
        (answer.1 ∉ h.decreased → answer.2 ≤ total) := by
  have hsampled : Sampled s h := by
    refine hrun.invariant (I := fun u => Sampled u.1 u.2) ?_ (.new ..)
    rintro ⟨u, earlier⟩ a ⟨v, later⟩ hsampled hlooks hstep
    obtain ⟨hstep, hrecord⟩ := recorded_eq_some.mp hstep
    dsimp only at hstep hrecord hsampled ⊢
    rw [hrecord]
    exact hsampled.step hlooks hstep
  intro answer hanswer
  obtain ⟨node, hnode, hheld⟩ := hsampled.held answer hanswer
  unfold node? at hnode
  rw [hsampler] at hnode
  obtain ⟨value, hpc, htotals⟩ := sample_of_returned hsample hnode
  cases hheld with
  | waiting hworking _ _ =>
      rw [hpc] at hworking
      exact absurd hworking id
  | returned counters hreturned hle =>
      rw [hpc] at hreturned
      cases hreturned
      obtain ⟨htotal, hmissing⟩ := htotals counters rfl
      exact ⟨hmissing, counters.1, htotal, hle⟩

/-- In every run a task that has an answer to look at can run. -/
theorem answered_enabled (hrun : Run (step parseTelemetry) Always
      (.new nodes verifications freshState localStatsDeadlineSeconds localStatsRetrySeconds
        positive controlPacketId clock) s)
    (hnode : s.node? nodeId = some node) (hworking : node.pc.Working)
    (harrived : s.responseArrived nodeId node = true) (sendRaised : Bool)
    (hfirst : s.clock ≤ first) (hsecond : first ≤ second) :
    (step parseTelemetry s (.resume nodeId first second sendRaised)).isSome = true := by
  have hwakeable : Wakeable s :=
    hrun.invariant (I := Wakeable) (fun _ _ _ hwakeable _ hstep => hwakeable.step hstep) nofun
  exact hwakeable.enabled hnode hworking (Or.inr harrived) sendRaised hfirst hsecond

end Runs

/-! ## An answer that is overwritten -/

section Single

/-- A decoder for reports of one counter. -/
def decodeReport (bytes : List UInt8) : Option Telemetry :=
  match bytes with
  | [numPacketsRxBad] => some (.localStats { numPacketsRxBad := numPacketsRxBad.toNat })
  | _ => none

/-- A report of local statistics; without a request the request id is zero. -/
def reportMessage (requestId : Nat) (numPacketsRxBad : UInt8) : FromRadio :=
  .packet
    { payload := .decoded {
        portnum := TELEMETRY_APP
        payload := [numPacketsRxBad]
        requestId := requestId } }

/-- One node, with the times that are the defaults. -/
def singleNode : StatisticsTasks :=
  .new ["node-1"] ["node-1"] true 10 1 (by decide +kernel) 0 0

/-- The node answers the first request after a quarter of a second, and a report that
nobody asked for is handled before the task runs again.  The node answers none of the
requests that follow. -/
def overwrittenAnswer : List Action :=
  [.sample 0,
    .resume "node-1" 0 0 false,
    .fromRadio (1 / 4) "node-1" (reportMessage 1 3),
    .fromRadio (1 / 4) "node-1" (reportMessage 0 3),
    .resume "node-1" (1 / 4) (1 / 4) false] ++
  (List.range 10).flatMap fun i =>
    [.timeout (i + 1) "node-1", .resume "node-1" (i + 1) (i + 1) false]

/-- The node has answered, and the sample lists it as missing. -/
theorem overwritten_answer_missing :
    ∃ s h sampler sample, Run (recorded (step decodeReport) (remember decodeReport)) Always
        (singleNode, {}) (s, h) ∧ s.sampler = some sampler ∧ sampler.sample = some sample ∧
      ("node-1", 3) ∈ h.answers ∧ "node-1" ∈ sample.missingNodes ∧
        sample.totals.get? "node-1" = none := by
  have hstate : ((exec (recorded (step decodeReport) (remember decodeReport)) overwrittenAnswer
      (singleNode, {})).bind fun u => u.1.sampler.bind fun sampler => sampler.sample.map
        fun sample => (u.2.answers, sample.missingNodes, sample.totals.items)) =
      some ([("node-1", 3)], ["node-1"], []) := by
    decide +kernel
  obtain ⟨⟨s, h⟩, hexec, hstate⟩ := Option.bind_eq_some_iff.mp hstate
  obtain ⟨sampler, hsampler, hstate⟩ := Option.bind_eq_some_iff.mp hstate
  obtain ⟨sample, hsample, hstate⟩ := Option.map_eq_some_iff.mp hstate
  obtain ⟨hanswers, hstate⟩ := Prod.mk.inj hstate
  obtain ⟨hmissing, hnone⟩ := Prod.mk.inj hstate
  dsimp only at hanswers hsampler
  refine ⟨s, h, sampler, sample, .of_exec hexec (conforms_always _ _), hsampler, hsample, ?_,
    ?_, ?_⟩
  · rw [hanswers]
    exact List.mem_singleton_self _
  · rw [hmissing]
    exact List.mem_singleton_self _
  · unfold Dict.get?
    rw [hnone]
    rfl

/-- The node answers, its task looks, and a report that nobody asked for comes later. -/
def answerInTime : List Action :=
  [.sample 0,
    .resume "node-1" 0 0 false,
    .fromRadio (1 / 8) "node-1" (reportMessage 0 2),
    .resume "node-1" (1 / 8) (1 / 8) false,
    .fromRadio (1 / 4) "node-1" (reportMessage 1 3),
    .resume "node-1" (1 / 4) (1 / 4) false,
    .fromRadio (1 / 2) "node-1" (reportMessage 0 4)]

theorem answer_in_time_sampled :
    ∃ s h sampler sample, exec (recorded (step decodeReport) (remember decodeReport)) answerInTime
        (singleNode, {}) = some (s, h) ∧ s.sampler = some sampler ∧
      sampler.sample = some sample ∧ h.answers = [("node-1", 3)] ∧
        ∃ total, sample.totals.get? "node-1" = some total ∧ 3 ≤ total := by
  have hstate : (exec (recorded (step decodeReport) (remember decodeReport)) answerInTime
      (singleNode, {})).map (fun u => (u.2.answers, u.2.decreased,
        u.1.sampler.map fun sampler => sampler.sample.isSome)) =
      some ([("node-1", 3)], [], some true) := by
    decide +kernel
  have hlooks : Conforms (recorded (step decodeReport) (remember decodeReport))
      (LooksInTime decodeReport) answerInTime (singleNode, {}) := by
    decide +kernel
  obtain ⟨⟨s, h⟩, hexec, hstate⟩ := Option.map_eq_some_iff.mp hstate
  obtain ⟨hanswers, hstate⟩ := Prod.mk.inj hstate
  obtain ⟨hdecreased, hsampler⟩ := Prod.mk.inj hstate
  obtain ⟨sampler, hsampler, hsample⟩ := Option.map_eq_some_iff.mp hsampler
  obtain ⟨sample, hsample⟩ := Option.isSome_iff_exists.mp hsample
  dsimp only at hanswers hdecreased hsampler
  refine ⟨s, h, sampler, sample, hexec, hsampler, hsample, hanswers, ?_⟩
  obtain ⟨_, total, htotal, hle⟩ := answers_sampled (.of_exec hexec hlooks) hsampler hsample
    ("node-1", 3) (by rw [hanswers]; exact List.mem_singleton_self _)
  exact ⟨total, htotal, hle (by rw [hdecreased]; exact List.not_mem_nil)⟩

end Single

end StatisticsTasks

end MeshtasticLab.Simulator

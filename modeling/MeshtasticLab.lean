import MeshtasticLab.Foundation.Scanner
import MeshtasticLab.Gateway.Framing
import MeshtasticLab.Gateway.FramingGrammar
import MeshtasticLab.Foundation.BoundedDeque
import MeshtasticLab.Metrics.Events
import MeshtasticLab.Metrics.History
import MeshtasticLab.Foundation.Dict
import MeshtasticLab.Foundation.Runs
import MeshtasticLab.Models.Scenario
import MeshtasticLab.Gateway.Packets
import MeshtasticLab.Metrics.Airtime
import MeshtasticLab.Metrics.Calculations
import MeshtasticLab.Traffic.Identifier
import MeshtasticLab.Traffic.PacketIds
import MeshtasticLab.Traffic.Request
import MeshtasticLab.Traffic.Results
import MeshtasticLab.Traffic.Controller
import MeshtasticLab.Traffic.Handlers
import MeshtasticLab.Traffic.Lifecycle
import MeshtasticLab.Foundation.Counting
import MeshtasticLab.Traffic.Tasks
import MeshtasticLab.Traffic.Ledger
import MeshtasticLab.Traffic.Entries
import MeshtasticLab.Traffic.Admission
import MeshtasticLab.Traffic.Books
import MeshtasticLab.Traffic.Advance
import MeshtasticLab.Traffic.Moves
import MeshtasticLab.Traffic.Structure
import MeshtasticLab.Traffic.Accounting
import MeshtasticLab.Traffic.Recomputation
import MeshtasticLab.Traffic.Finalization
import MeshtasticLab.Traffic.Frozen
import MeshtasticLab.Traffic.Deeds
import MeshtasticLab.Traffic.Handled
import MeshtasticLab.Traffic.Attribution
import MeshtasticLab.Traffic.Quarantine
import MeshtasticLab.Foundation.Telescope
import MeshtasticLab.Traffic.NativeCounters
import MeshtasticLab.Traffic.Evidence
import MeshtasticLab.Traffic.LocalStats
import MeshtasticLab.Foundation.Merge
import MeshtasticLab.Traffic.Schedule
import MeshtasticLab.Traffic.Cursors
import MeshtasticLab.Traffic.Loop
import MeshtasticLab.Traffic.MergedSchedule
import MeshtasticLab.Traffic.Interference
import MeshtasticLab.Metrics.EventStream
import MeshtasticLab.Metrics.Delivery
import MeshtasticLab.Simulator.Medium
import MeshtasticLab.Simulator.Decisions
import MeshtasticLab.Traffic.Postings
import MeshtasticLab.Simulator.PacketEvidence
import MeshtasticLab.Gateway.NoisyStream
import MeshtasticLab.Traffic.Addressing
import MeshtasticLab.Traffic.Drain
import MeshtasticLab.Traffic.ReportOrder
import MeshtasticLab.Models.Topology
import MeshtasticLab.Simulator.Service
import MeshtasticLab.Simulator.Phases
import MeshtasticLab.Simulator.LinkUpdates
import MeshtasticLab.Traffic.Publications
import MeshtasticLab.Traffic.Stopping
import MeshtasticLab.Traffic.InHand
import MeshtasticLab.Simulator.Tending
import MeshtasticLab.Simulator.Restarts
import MeshtasticLab.Simulator.Streams
import MeshtasticLab.Foundation.BreadthFirst
import MeshtasticLab.Models.Reachability
import MeshtasticLab.Runtime.HardwareIds
import MeshtasticLab.Experiments.WaitDeadline
import MeshtasticLab.Traffic.Markers
import MeshtasticLab.Traffic.Payloads
import MeshtasticLab.Foundation.FirstFree
import MeshtasticLab.Frontend.ScenarioEditor
import MeshtasticLab.Foundation.Raising
import MeshtasticLab.Traffic.Persistence
import MeshtasticLab.Traffic.Origins
import MeshtasticLab.Experiments.FlowSummaries
import MeshtasticLab.Foundation.Condition
import MeshtasticLab.Simulator.StatisticsSampler
import MeshtasticLab.Traffic.RejectedStarts
import MeshtasticLab.Simulator.RunFiles
import MeshtasticLab.Simulator.Custody
import MeshtasticLab.Simulator.Keeping
import MeshtasticLab.Simulator.Threads
import MeshtasticLab.Simulator.Reached
import MeshtasticLab.Simulator.Retrieval
import MeshtasticLab.Simulator.CompletedRuns
import MeshtasticLab.Foundation.Interpolation
import MeshtasticLab.Metrics.Percentiles
import MeshtasticLab.Traffic.Expiry
import MeshtasticLab.Foundation.Largest
import MeshtasticLab.Frontend.EventCache
import MeshtasticLab.Foundation.Utf8
import MeshtasticLab.Runtime.BoundedLog
import MeshtasticLab.Foundation.BoundedDict
import MeshtasticLab.Simulator.Readiness
import MeshtasticLab.Foundation.Overwrite
import MeshtasticLab.Simulator.TopologyHistory
import MeshtasticLab.Gateway.NodeGateway
import MeshtasticLab.Gateway.GatewayMoves
import MeshtasticLab.Gateway.OneClient
import MeshtasticLab.Gateway.Periods
import MeshtasticLab.Runtime.Supervisor
import MeshtasticLab.Runtime.SupervisorMoves
import MeshtasticLab.Runtime.Children
import MeshtasticLab.Runtime.Isolation
import MeshtasticLab.Runtime.Failures
import MeshtasticLab.Runtime.RecentLogs
import MeshtasticLab.Gateway.Resources
import MeshtasticLab.Simulator.Lab
import MeshtasticLab.Runtime.OwnSteps
import MeshtasticLab.Simulator.LabGateways
import MeshtasticLab.Simulator.LabPhases
import MeshtasticLab.Simulator.LabRuns
import MeshtasticLab.Simulator.LabStates
import MeshtasticLab.Simulator.Lifecycle
import MeshtasticLab.Frontend.LivePage
import MeshtasticLab.Frontend.PageEvidence
import MeshtasticLab.Frontend.PageSessions
import MeshtasticLab.Frontend.Authentic
import MeshtasticLab.Frontend.PagePositions
import MeshtasticLab.Frontend.PageProgress
import MeshtasticLab.Frontend.NothingMissed

import PowerGovernor.Library.FirstFit
import PowerGovernor.Library.Keyed
import PowerGovernor.Library.Transition
import PowerGovernor.Library.Stateful
import PowerGovernor.Library.RefillWindow
import PowerGovernor.Library.ParentPath
import PowerGovernor.Library.Buckets
import PowerGovernor.Library.ListOrder
import PowerGovernor.Library.Fifo
import PowerGovernor.Library.Volume
import PowerGovernor.Library.BoundedLog
import PowerGovernor.Units
import PowerGovernor.Ids
import PowerGovernor.Clock
import PowerGovernor.Energy
import PowerGovernor.PowerWindow
import PowerGovernor.PowerWindow.Average
import PowerGovernor.PowerWindow.Peak
import PowerGovernor.Budget.Manager
import PowerGovernor.Budget.Chain
import PowerGovernor.Budget.Capacity
import PowerGovernor.Budget.Availability
import PowerGovernor.Budget.Forest
import PowerGovernor.Budget.Admission
import PowerGovernor.Budget.Consistency
import PowerGovernor.PowerDomain
import PowerGovernor.WorkloadClass
import PowerGovernor.Authority
import PowerGovernor.Reservation.Manager
import PowerGovernor.Reservation.Returns
import PowerGovernor.Reservation.Index
import PowerGovernor.Reservation.IndexRuns
import PowerGovernor.Reservation.Effect
import PowerGovernor.Reservation.Ledger
import PowerGovernor.Reservation.Guarantee
import PowerGovernor.Freshness
import PowerGovernor.Thermal
import PowerGovernor.Thermal.PermittedPower
import PowerGovernor.Thermal.Hysteresis
import PowerGovernor.Thermal.Recovery
import PowerGovernor.Policy
import PowerGovernor.Burst
import PowerGovernor.Burst.Calls
import PowerGovernor.Burst.Queries
import PowerGovernor.EnergyAccount
import PowerGovernor.Consumption
import PowerGovernor.EnergyAccount.Refusals
import PowerGovernor.Decision.Engine
import PowerGovernor.Decision.Limits
import PowerGovernor.Decision.Hysteresis
import PowerGovernor.Decision.Agreement
import PowerGovernor.Decision.Explanation
import PowerGovernor.Decision.Tightening
import PowerGovernor.Decision.Recall
import PowerGovernor.Decision.Sequence
import PowerGovernor.Json
import PowerGovernor.Decision.Document
import PowerGovernor.Governor.State
import PowerGovernor.Governor.Operations
import PowerGovernor.Governor.Hierarchy
import PowerGovernor.Governor.Agreement
import PowerGovernor.Library.Codec
import PowerGovernor.Library.ShiftRegister
import PowerGovernor.Library.Layout
import PowerGovernor.Checksum
import PowerGovernor.Persistence.Binary
import PowerGovernor.Persistence.Envelope
import PowerGovernor.Persistence.StateCodec
import PowerGovernor.Governor.Run
import PowerGovernor.Governor.AllowSoundness
import PowerGovernor.Governor.Revalidation
import PowerGovernor.PowerWindow.Doubles
import PowerGovernor.Governor.Doubles
import PowerGovernor.Governor.FailedObservations
import PowerGovernor.Governor.ThermalEvidence
import PowerGovernor.Persistence.Recovery
import PowerGovernor.Persistence.RoundTrip
import PowerGovernor.Persistence.RecoveredTelemetry
import PowerGovernor.Governor.Lifecycle
import PowerGovernor.Persistence.Loading
import PowerGovernor.Persistence.Generations
import PowerGovernor.Reservation.Identity
import PowerGovernor.Reservation.Atomicity
import PowerGovernor.Reservation.Lifecycle
import PowerGovernor.Reservation.Reissue
import PowerGovernor.Governor.Clients
import PowerGovernor.Governor.PolicyInForce
import PowerGovernor.Governor.PolicyEnforcement
import PowerGovernor.Persistence.FreshIds
import PowerGovernor.Governor.IndexMirror
import PowerGovernor.Persistence.Records
import PowerGovernor.Persistence.Replay
import PowerGovernor.Persistence.Reload
import PowerGovernor.Persistence.Digest
import PowerGovernor.Persistence.IterationOrder
import PowerGovernor.Persistence.Acceptance
import PowerGovernor.Persistence.Totality
import PowerGovernor.Persistence.StateFile
import PowerGovernor.Persistence.LoadedState
import PowerGovernor.Persistence.HierarchyCheck
import PowerGovernor.Persistence.Accounting
import PowerGovernor.Persistence.Restart
import PowerGovernor.Persistence.CurrentAuthority
import PowerGovernor.Protocol.Messages
import PowerGovernor.Protocol.Layouts
import PowerGovernor.Protocol.Frames
import PowerGovernor.Protocol.Transport
import PowerGovernor.Protocol.Delivery
import PowerGovernor.Corruption
import PowerGovernor.Coordinator.Handler
import PowerGovernor.Coordinator.Runs
import PowerGovernor.Coordinator.Fencing
import PowerGovernor.Coordinator.Answers
import PowerGovernor.Coordinator.Observations
import PowerGovernor.Coordinator.Calls
import PowerGovernor.Coordinator.Temperatures
import PowerGovernor.Governor.Audit
import PowerGovernor.Governor.Interference
import PowerGovernor.Governor.EnergyWindow
import PowerGovernor.Persistence.EnergyRecovery
import PowerGovernor.Coordinator.Refusals
import PowerGovernor.Coordinator.TimeLimits
import PowerGovernor.Coordinator.Isolation
import PowerGovernor.Authority.Fencing
import PowerGovernor.Units.Arithmetic
import PowerGovernor.ElapsedTime
import PowerGovernor.Uuid
import PowerGovernor.Json.ReadBack
import PowerGovernor.Json.FixedPoint
import PowerGovernor.Decision.Readback
import PowerGovernor.BufferBounds
import PowerGovernor.Coordinator.Turns
import PowerGovernor.Distributed.Worker
import PowerGovernor.Distributed.Runs
import PowerGovernor.Distributed.Exchanges
import PowerGovernor.Distributed.Sessions
import PowerGovernor.Distributed.Epochs
import PowerGovernor.Distributed.Progress
import PowerGovernor.Coordinator.Survival
import PowerGovernor.Coordinator.Grants
import PowerGovernor.Coordinator.Holders
import PowerGovernor.Distributed.Service
import PowerGovernor.Persistence.Files
import PowerGovernor.Persistence.Durability
import PowerGovernor.Governor.History
import PowerGovernor.Governor.ControlLoop
import PowerGovernor.Governor.Redemption
import PowerGovernor.Reservation.Commitments
import PowerGovernor.Coordinator.Commitments

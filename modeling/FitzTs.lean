import FitzTs.Lib.Machine
import FitzTs.Lib.OrderedMap
import FitzTs.Core.Types
import FitzTs.Client.Multiplexer.TimeoutHeap
import FitzTs.Client.Multiplexer.PendingQueue
import FitzTs.Client.Multiplexer
import FitzTs.Client.Multiplexer.Settling
import FitzTs.Client.Multiplexer.Invariant
import FitzTs.Client.Multiplexer.Outcome
import FitzTs.Client.Multiplexer.InFlight
import FitzTs.Client.Multiplexer.Correlation
import FitzTs.Client.Multiplexer.LateAnswers
import FitzTs.Client.Internal.Readiness
import FitzTs.Client.Connection.State
import FitzTs.Client.Connection.Attempts
import FitzTs.Client.Connection.Loss
import FitzTs.Client.Connection.Calls
import FitzTs.Client.Connection.Receiving
import FitzTs.Client.Connection
import FitzTs.Client.Multiplexer.Sessions
import FitzTs.Client.Connection.Quiet
import FitzTs.Client.Connection.Effects
import FitzTs.Client.Connection.Incidents
import FitzTs.Client.Connection.Moves
import FitzTs.Client.Connection.Steps
import FitzTs.Client.Connection.Closing
import FitzTs.Client.Connection.Ownership
import FitzTs.Client.Connection.Waiters
import FitzTs.Client.Connection.ReconnectWait
import FitzTs.Client.Connection.Authenticated
import FitzTs.Client.Connection.Outbox
import FitzTs.Client.Connection.Handshake
import FitzTs.Client.Connection.Correlations
import FitzTs.Domains.Lease.Handle
import FitzTs.Domains.Lease.WithLease
import FitzTs.Domains.Lease.WithLeaseOutcome
import FitzTs.Domains.Lease.Acquire
import FitzTs.Domains.Lease.AcquireAttribution
import FitzTs.Domains.Subscriptions
import FitzTs.Domains.Subscriptions.Frame
import FitzTs.Domains.Subscriptions.Index
import FitzTs.Domains.Subscriptions.Requests
import FitzTs.Domains.Subscriptions.Targets
import FitzTs.Domains.Subscriptions.Objects
import FitzTs.Domains.Subscriptions.BestEffort
import FitzTs.Domains.Subscriptions.Moves
import FitzTs.Domains.Subscriptions.Handlers
import FitzTs.Domains.Subscriptions.Registrations
import FitzTs.Domains.Routes
import FitzTs.Domains.Rpc.Dispatch
import FitzTs.Domains.Stream.Read
import FitzTs.Domains.Stream.ReadProgress
import FitzTs.Domains.Stream.ReadTermination
import FitzTs.Domains.Lease.Protection
import FitzTs.Core.Buffer
import FitzTs.Domains.Rpc.Codec
import FitzTs.Domains.Rpc.Worker
import FitzTs.Domains.Rpc.WorkerResponses
import FitzTs.Domains.Rpc.WorkerCredit
import FitzTs.Client.Multiplexer.Surface
import FitzTs.Domains.Rpc.Caller
import FitzTs.Domains.Rpc.Streaming
import FitzTs.Domains.Kv.Codec
import FitzTs.Lib.Keyset
import FitzTs.Domains.Kv.Scan
import FitzTs.Client.Connection.Bystanders
import FitzTs.Client.Connection.Serving
import FitzTs.Domains.Handles
import FitzTs.Domains.Handles.Sessions
import FitzTs.Client.Connection.Sending
import FitzTs.Domains.Handles.Disposal
import FitzTs.Frame.Codec
import FitzTs.Frame.Parser
import FitzTs.Lib.Framing
import FitzTs.Transport.Tcp
import FitzTs.Client.Resilience
import FitzTs.Client.Retry
import FitzTs.Domains.Queue.Enqueue
import FitzTs.Client.Retry.Attempts
import FitzTs.Domains.Queue.EnqueueRetries
import FitzTs.Domains.Lease.Inventory
import FitzTs.Domains.Lease.InventoryInvalidations
import FitzTs.Domains.Lease.InventorySnapshots
import FitzTs.Client.Internal.AsyncHandlerDispatcher
import FitzTs.Domains.WakeLoop
import FitzTs.Domains.WakeLoop.Gate
import FitzTs.Domains.WakeLoop.Wakes
import FitzTs.Domains.WakeLoop.Outage
import FitzTs.Domains.Routes.Matching
import FitzTs.Lib.Utf8.RoundTrip
import FitzTs.Domains.Routes.Scan
import FitzTs.Domains.Routes.Registration
import FitzTs.Domains.Routes.Selectors
import FitzTs.Frame.Extensions
import FitzTs.Frame.Extensions.Decoding
import FitzTs.Core.BufferReader
import FitzTs.Core.BufferWriter
import FitzTs.Core.BufferRoundTrip
import FitzTs.Domains.Rpc.Envelope
import FitzTs.Domains.Rpc.Frames
import FitzTs.Core.BufferFormats
import FitzTs.Domains.Queue.Codec
import FitzTs.Domains.Stream.Codec
import FitzTs.Domains.FailClosed
import FitzTs.Domains.Kv.Answers
import FitzTs.Domains.Lease.Codec
import FitzTs.Domains.Schedule.Codec
import FitzTs.Domains.Stream.Answers
import FitzTs.Domains.StrictAnswers
import FitzTs.Core.BufferAt
import FitzTs.Domains.Stream.Requests
import FitzTs.Domains.Stream.RequestParsing
import FitzTs.Core.WakeGate
import FitzTs.Domains.Rpc.Selection
import FitzTs.Client.Internal.RequestSlots
import FitzTs.Client.Internal.HandlerRuns
import FitzTs.Client.Internal.HandlerViews
import FitzTs.Domains.Schedule.Entries
import FitzTs.Domains.Schedule.Selector
import FitzTs.Core.TaskGroup
import FitzTs.Domains.Lease.Operations
import FitzTs.Domains.Rpc.NextCalls
import FitzTs.Domains.Rpc.NextResults
import FitzTs.Domains.Rpc.CorrelationPool
import FitzTs.Client.Multiplexer.TimeoutHeapOrder
import FitzTs.Client.Multiplexer.Timeouts
import FitzTs.Client.Multiplexer.PendingQueueOrder
import FitzTs.Core.Lifecycle.Waiting
import FitzTs.Domains.SubscriptionIterator
import FitzTs.Domains.SubscriptionIterator.Delivery
import FitzTs.Domains.SubscriptionHandle

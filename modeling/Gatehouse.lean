import Gatehouse.Config.Address
import Gatehouse.Config.Options
import Gatehouse.Context.Basic
import Gatehouse.Context.Handler
import Gatehouse.Context.Mount
import Gatehouse.Context.RequestId
import Gatehouse.Context.Run
import Gatehouse.Disk.Basic
import Gatehouse.Disk.Location
import Gatehouse.Disk.Media
import Gatehouse.Disk.Tree
import Gatehouse.Fault
import Gatehouse.Http.Headers
import Gatehouse.Http.Message
import Gatehouse.Http.Method
import Gatehouse.Http.Target
import Gatehouse.Json
import Gatehouse.Lifecycle.AcceptLoop
import Gatehouse.Lifecycle.Collector
import Gatehouse.Lifecycle.Engine
import Gatehouse.Lifecycle.Hook
import Gatehouse.Lifecycle.HookRun
import Gatehouse.Lifecycle.HookTasks
import Gatehouse.Lifecycle.Network
import Gatehouse.Lifecycle.Registry
import Gatehouse.Lifecycle.Session.Basic
import Gatehouse.Lifecycle.Session.Call
import Gatehouse.Lifecycle.Session.Move
import Gatehouse.Lifecycle.Signal.Basic
import Gatehouse.Lifecycle.Signal.Handles
import Gatehouse.Lifecycle.SignalMask
import Gatehouse.Lifecycle.Spin
import Gatehouse.Lifecycle.Timeline
import Gatehouse.Lifecycle.Tracker.Basic
import Gatehouse.Lifecycle.Tracker.Handles
import Gatehouse.Lifecycle.Transport
import Gatehouse.Lifecycle.Waiter
import Gatehouse.Logging.Config
import Gatehouse.Logging.Filter
import Gatehouse.Logging.Regex.Basic
import Gatehouse.Logging.Regex.Reader
import Gatehouse.Path.Clean
import Gatehouse.Path.Segments
import Gatehouse.Proofs.Chain.Aborting
import Gatehouse.Proofs.Chain.Conduct
import Gatehouse.Proofs.Chain.Course
import Gatehouse.Proofs.Chain.Lengths
import Gatehouse.Proofs.Chain.Onion
import Gatehouse.Proofs.Chain.Recovery
import Gatehouse.Proofs.Context.Answer
import Gatehouse.Proofs.Context.Confinement
import Gatehouse.Proofs.Http.Values
import Gatehouse.Proofs.Lifecycle.Cancelling
import Gatehouse.Proofs.Lifecycle.Collecting
import Gatehouse.Proofs.Lifecycle.Deadline
import Gatehouse.Proofs.Lifecycle.Deeds
import Gatehouse.Proofs.Lifecycle.Draining
import Gatehouse.Proofs.Lifecycle.Executions
import Gatehouse.Proofs.Lifecycle.Granting
import Gatehouse.Proofs.Lifecycle.Histories
import Gatehouse.Proofs.Lifecycle.HookOrder
import Gatehouse.Proofs.Lifecycle.Interleaving
import Gatehouse.Proofs.Lifecycle.Leaving
import Gatehouse.Proofs.Lifecycle.MaskReading
import Gatehouse.Proofs.Lifecycle.Order
import Gatehouse.Proofs.Lifecycle.Reporting
import Gatehouse.Proofs.Lifecycle.RunHistory
import Gatehouse.Proofs.Lifecycle.Signaling
import Gatehouse.Proofs.Lifecycle.Starting
import Gatehouse.Proofs.Lifecycle.StopHistory
import Gatehouse.Proofs.Lifecycle.Stopping
import Gatehouse.Proofs.Lifecycle.Tracking
import Gatehouse.Proofs.Path.Climbing
import Gatehouse.Proofs.Path.NormalForm
import Gatehouse.Proofs.Path.Pieces
import Gatehouse.Proofs.Path.Resolve
import Gatehouse.Proofs.Route.Excess
import Gatehouse.Proofs.Route.FirstRefusal
import Gatehouse.Proofs.Route.Fronting
import Gatehouse.Proofs.Route.Limits
import Gatehouse.Proofs.Route.Lookup
import Gatehouse.Proofs.Route.Mounting
import Gatehouse.Proofs.Route.Naming
import Gatehouse.Proofs.Route.Nesting
import Gatehouse.Proofs.Route.Placing
import Gatehouse.Proofs.Route.Reading
import Gatehouse.Proofs.Route.Refusing
import Gatehouse.Proofs.Route.Registering
import Gatehouse.Proofs.Route.Remainder
import Gatehouse.Proofs.Route.Shadowing
import Gatehouse.Proofs.Route.Standing
import Gatehouse.Proofs.Route.Swallowing
import Gatehouse.Proofs.Route.Views
import Gatehouse.Proofs.Route.Whole
import Gatehouse.Route.Dispatch
import Gatehouse.Route.Group
import Gatehouse.Route.Pattern
import Gatehouse.Route.Site
import Gatehouse.Route.Table
import Gatehouse.Text.Classes
import Gatehouse.Text.Quoted
import Gatehouse.Text.Slice
import Gatehouse.Text.Unmarked
import Gatehouse.Time.Calendar
import Gatehouse.Time.Duration

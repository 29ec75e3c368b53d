import FailoverPool.Bytes
import FailoverPool.Digest.Sha1
import FailoverPool.Duration
import FailoverPool.Error
import FailoverPool.Exchange.Basic
import FailoverPool.Exchange.Dispatch
import FailoverPool.Exchange.Handshake
import FailoverPool.Exchange.Watchers
import FailoverPool.Floating.Format
import FailoverPool.Floating.Rounding
import FailoverPool.Floating.Shortest
import FailoverPool.Future.Basic
import FailoverPool.Future.Script
import FailoverPool.Network.Basic
import FailoverPool.Network.Events
import FailoverPool.Options
import FailoverPool.Pool.Basic
import FailoverPool.Pool.Maintenance
import FailoverPool.Pool.WarmUp
import FailoverPool.Proofs.Chaining
import FailoverPool.Proofs.Client.Binding
import FailoverPool.Proofs.Client.Routing
import FailoverPool.Proofs.Client.Selection
import FailoverPool.Proofs.Client.Streams
import FailoverPool.Proofs.Exchange.Departures
import FailoverPool.Proofs.Exchange.Effects
import FailoverPool.Proofs.Exchange.Ending
import FailoverPool.Proofs.Exchange.Establishing
import FailoverPool.Proofs.Exchange.History
import FailoverPool.Proofs.Exchange.Listening
import FailoverPool.Proofs.Exchange.Matching
import FailoverPool.Proofs.Exchange.Moves
import FailoverPool.Proofs.Exchange.Registry
import FailoverPool.Proofs.Exchange.Streams
import FailoverPool.Proofs.Exchange.Subscriptions
import FailoverPool.Proofs.Exchange.Waiting
import FailoverPool.Proofs.Future.Polling
import FailoverPool.Proofs.Network.Deeds
import FailoverPool.Proofs.Network.Evolution
import FailoverPool.Proofs.Network.News
import FailoverPool.Proofs.Pool.Accounting
import FailoverPool.Proofs.Pool.Agreement
import FailoverPool.Proofs.Pool.Asking
import FailoverPool.Proofs.Pool.Attention
import FailoverPool.Proofs.Pool.Checking
import FailoverPool.Proofs.Pool.Closing
import FailoverPool.Proofs.Pool.Construction
import FailoverPool.Proofs.Pool.Course
import FailoverPool.Proofs.Pool.Deeds
import FailoverPool.Proofs.Pool.Discovery
import FailoverPool.Proofs.Pool.Effects
import FailoverPool.Proofs.Pool.Fallback
import FailoverPool.Proofs.Pool.Freezing
import FailoverPool.Proofs.Pool.Reconciliation
import FailoverPool.Proofs.Pool.Redialing
import FailoverPool.Proofs.Pool.Reporting
import FailoverPool.Proofs.Pool.Sound
import FailoverPool.Proofs.Pool.Sparing
import FailoverPool.Proofs.Protocol.Contents
import FailoverPool.Proofs.Protocol.Entries
import FailoverPool.Proofs.Protocol.Framing
import FailoverPool.Proofs.Protocol.Lengths
import FailoverPool.Proofs.Protocol.Numbers
import FailoverPool.Proofs.Protocol.Passwords
import FailoverPool.Proofs.Protocol.Responses
import FailoverPool.Proofs.Protocol.Splitting
import FailoverPool.Proofs.Text.Base64
import FailoverPool.Proofs.Value.Locality
import FailoverPool.Proofs.Value.Reading
import FailoverPool.Proofs.Value.RoundTrip
import FailoverPool.Proofs.Value.Sizes
import FailoverPool.Proofs.Value.Stability
import FailoverPool.Proofs.Value.Texts
import FailoverPool.Proofs.Value.Writing
import FailoverPool.Proofs.Value.Yielding
import FailoverPool.Protocol.Code
import FailoverPool.Protocol.Frame
import FailoverPool.Protocol.Greeting
import FailoverPool.Protocol.Isolation
import FailoverPool.Protocol.Key
import FailoverPool.Protocol.Request
import FailoverPool.Protocol.Response
import FailoverPool.Protocol.Stream
import FailoverPool.Simulation.Run
import FailoverPool.Simulation.Schedule
import FailoverPool.Simulation.Script
import FailoverPool.Simulation.Session
import FailoverPool.Simulation.Time
import FailoverPool.Simulation.Turn
import FailoverPool.Simulation.World
import FailoverPool.Text.Base64
import FailoverPool.Text.GraphemeExtend
import FailoverPool.Text.Quoted
import FailoverPool.Text.Unprintable
import FailoverPool.Text.Utf8
import FailoverPool.Value.Basic
import FailoverPool.Value.Display
import FailoverPool.Value.Marker
import FailoverPool.Value.Reader
import FailoverPool.Value.Sequence
import FailoverPool.Value.Typed
import FailoverPool.Value.Writer

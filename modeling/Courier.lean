import Courier.Main
import Courier.Event.Shorthand
import Courier.Rehearsal.Run
import Courier.Settings.Reader
import Courier.Proofs.Delivery.Bounds
import Courier.Proofs.Engine.Outcomes
import Courier.Proofs.Engine.Phases
import Courier.Proofs.Engine.Wakeups
import Courier.Proofs.Engine.Flushing
import Courier.Proofs.Delivery.Assembly
import Courier.Proofs.Delivery.Partition
import Courier.Proofs.Engine.Batching
import Courier.Proofs.Engine.Deadlines
import Courier.Proofs.Engine.Reasons
import Courier.Proofs.Ledger.Attempts
import Courier.Proofs.Engine.Resending
import Courier.Proofs.Engine.Completion
import Courier.Proofs.Engine.Draining
import Courier.Proofs.Json.Objects
import Courier.Proofs.Json.Members
import Courier.Proofs.Json.Leaves
import Courier.Proofs.Json.Kinds
import Courier.Proofs.Json.RoundTrip
import Courier.Proofs.Event.Reading
import Courier.Proofs.Event.RoundTrip
import Courier.Proofs.Delivery.Recording
import Courier.Proofs.Engine.Positions
import Courier.Proofs.Engine.Verdicts
import Courier.Proofs.Engine.Sessions
import Courier.Proofs.Command.Input
import Courier.Proofs.Command.Driving
import Courier.Proofs.Command.Accounting
import Courier.Proofs.Event.Building
import Courier.Proofs.Engine.Meanwhile
import Courier.Proofs.Engine.Wishes
import Courier.Proofs.Json.Grammar
import Courier.Proofs.Json.Scanning
import Courier.Proofs.Json.Acceptance
import Courier.Proofs.Settings.Reading
import Courier.Proofs.Delivery.Schedule
import Courier.Proofs.Text.Cutting
import Courier.Proofs.Settings.Base
import Courier.Proofs.Delivery.Headers
import Courier.Proofs.Event.Size

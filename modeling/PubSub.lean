import PubSub.Context.Describe
import PubSub.Graph.Query
import PubSub.Proofs.Context.Course
import PubSub.Proofs.Context.Publish
import PubSub.Proofs.Context.Notices
import PubSub.Proofs.Wake.Bits
import PubSub.Proofs.Wake.Driver
import PubSub.Proofs.Wait.Sound
import PubSub.Proofs.Wait.Quiet
import PubSub.Proofs.Wait.Edits
import PubSub.Proofs.Wait.WakeUp
import PubSub.Proofs.Wait.Claims
import PubSub.Proofs.Wait.Enrolment
import PubSub.Proofs.Wake.Tally
import PubSub.Proofs.Wake.Drain
import PubSub.Proofs.Wake.Sweep
import PubSub.Proofs.Wake.IndexSet
import PubSub.Proofs.Wake.Course
import PubSub.Proofs.Wake.Signals
import PubSub.Proofs.Wake.Ownership
import PubSub.Proofs.Wait.Undisturbed
import PubSub.Proofs.Wait.Pass
import PubSub.Proofs.Wait.Outcome
import PubSub.Proofs.Context.Nodes
import PubSub.Proofs.Context.Queues
import PubSub.Proofs.Endpoint.Ledger
import PubSub.Proofs.Context.Exchange
import PubSub.Proofs.Context.Samples
import PubSub.Proofs.Qos.BestAvailable
import PubSub.Proofs.Qos.Resolution
import PubSub.Proofs.Context.Effects
import PubSub.Proofs.Context.Creation
import PubSub.Proofs.Context.Endpoints
import PubSub.Proofs.Endpoint.Status
import PubSub.Proofs.Context.Moments
import PubSub.Proofs.Context.Books
import PubSub.Proofs.Endpoint.Callbacks
import PubSub.Proofs.Context.Reporting
import PubSub.Proofs.Context.Lives
import PubSub.Proofs.Context.Incidents
import PubSub.Proofs.Context.Reports
import PubSub.Proofs.Context.Counters
import PubSub.Proofs.Context.Frozen
import PubSub.Proofs.Wait.Guards
import PubSub.Proofs.Context.Changes
import PubSub.Proofs.Wait.Triggers
import PubSub.Proofs.Context.Requests
import PubSub.Proofs.Context.Views
import PubSub.Proofs.Qos.Liveliness
import PubSub.Proofs.Qos.Undetermined
import PubSub.Proofs.Qos.Report
import PubSub.Proofs.Qos.Boundary
import PubSub.Proofs.Context.IterationOrder
import PubSub.Proofs.Wake.Reuse
import PubSub.Proofs.Wake.Timeout
import PubSub.Proofs.Wait.Deadline
import PubSub.Proofs.Wait.Capacity
import PubSub.Proofs.Qos.Spelling
import PubSub.Proofs.Environment.Reading
import PubSub.Proofs.Environment.Peers
import PubSub.Proofs.Context.MintOrder

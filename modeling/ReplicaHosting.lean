import ReplicaHosting.Descriptor.Json
import ReplicaHosting.Config.Toml
import ReplicaHosting.Registry.Ledger
import ReplicaHosting.Node.Run
import ReplicaHosting.Node.Outlook
import ReplicaHosting.Stage
import ReplicaHosting.Telemetry
import ReplicaHosting.Proofs.Replica.Passage
import ReplicaHosting.Proofs.Replica.Stopping
import ReplicaHosting.Proofs.Node.Perform
import ReplicaHosting.Proofs.Node.Shift
import ReplicaHosting.Proofs.Node.Order
import ReplicaHosting.Proofs.Node.Dedup
import ReplicaHosting.Proofs.Node.Alignment
import ReplicaHosting.Proofs.Registry.Identity
import ReplicaHosting.Proofs.Node.SameSession
import ReplicaHosting.Proofs.Node.Halt
import ReplicaHosting.Proofs.Node.Start
import ReplicaHosting.Proofs.Node.Handles
import ReplicaHosting.Proofs.Node.Callbacks
import ReplicaHosting.Proofs.Node.Stop
import ReplicaHosting.Proofs.Node.Outcome
import ReplicaHosting.Proofs.Registry.Ledger
import ReplicaHosting.Proofs.Node.Candidate
import ReplicaHosting.Proofs.Node.Record
import ReplicaHosting.Proofs.Replica.Watching
import ReplicaHosting.Proofs.Node.Follow
import ReplicaHosting.Proofs.Node.Watching
import ReplicaHosting.Proofs.Node.Isolation
import ReplicaHosting.Proofs.Node.Requests
import ReplicaHosting.Proofs.Node.Likeness
import ReplicaHosting.Proofs.Node.Gathering
import ReplicaHosting.Proofs.Node.Refusal
import ReplicaHosting.Proofs.Node.Latecomers
import ReplicaHosting.Proofs.Replica.Serving
import ReplicaHosting.Proofs.Node.Serving
import ReplicaHosting.Proofs.Json.Printed
import ReplicaHosting.Proofs.Json.Skipping
import ReplicaHosting.Proofs.Json.Wanted
import ReplicaHosting.Proofs.Descriptor.RoundTrip
import ReplicaHosting.Proofs.Descriptor.Members
import ReplicaHosting.Proofs.Config.Decoding
import ReplicaHosting.Telemetry.Run
import ReplicaHosting.Proofs.Telemetry.Install
import ReplicaHosting.Proofs.Node.Abandon
import ReplicaHosting.Replica.Stream
import ReplicaHosting.Proofs.Replica.Following
import ReplicaHosting.Proofs.Node.Attaching
import ReplicaHosting.Proofs.Telemetry.Winner
import ReplicaHosting.Proofs.Presence.Codes

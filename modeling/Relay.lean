import Relay.Lib.Transaction
import Relay.Lib.Table
import Relay.Lib.Run
import Relay.Access.Records
import Relay.Access.Memory
import Relay.Access.Identifier
import Relay.Access.State
import Relay.Access.Token
import Relay.Access.Service
import Relay.Access.Invitation
import Relay.Access.Authority
import Relay.Access.Effects
import Relay.Access.System
import Relay.Access.Failures
import Relay.Access.Integrity
import Relay.Access.Redemption
import Relay.Access.Fencing
import Relay.Access.Signatures
import Relay.Access.Scope
import Relay.Access.Revocation
import Relay.Access.Placement
import Relay.Server.MediaWriter
import Relay.Server.Takeover
import Relay.Session.RelaySession
import Relay.Session.Acceptance
import Relay.Session.Registry
import Relay.Session.Revisions
import Relay.Lib.Ownership
import Relay.Downlink.Forwarder
import Relay.Downlink.RetransmissionCache
import Relay.Downlink.Pacer
import Relay.Downlink.Changes
import Relay.Downlink.Slots
import Relay.Downlink.Shutdown
import Relay.Lib.Serial
import Relay.Downlink.Sequence
import Relay.Downlink.Repairs
import Relay.Downlink.Reconnect
import Relay.Downlink.Frontier
import Relay.Downlink.Reordering
import Relay.Session.Lane
import Relay.Session.Forwarding
import Relay.Session.Closing
import Relay.Session.Control
import Relay.Session.Announcements
import Relay.ClockLineage.Ntp
import Relay.ClockLineage.Timeline
import Relay.Downlink.Feedback
import Relay.Access.StateRevision
import Relay.Lib.Register
import Relay.Access.Delivery
import Relay.Access.Evidence
import Relay.Session.Quiescence
import Relay.Access.Operations
import Relay.Access.Adapters
import Relay.Access.Capacity
import Relay.Media.Red
import Relay.Server.RedListener
import Relay.Server.Room
import Relay.Server.Capability
import Relay.Server.BusScope
import Relay.Media.Ingress
import Relay.Access.Mailbox
import Relay.Access.Renewal
import Relay.Access.Consumers
import Relay.Session.CaptureClock
import Relay.Server.Subscriber
import Relay.Names.Bijection
import Relay.Media.Drift
import Relay.Access.Allocation
import Relay.Session.FanOut
import Relay.Access.Window
import Relay.Access.Lifetimes
import Relay.Access.Limiter
import Relay.Downlink.Extensions
import Relay.Names.Separation
import Relay.Access.Provenance
import Relay.Access.Documents
import Relay.Downlink.Unwrapping
import Relay.ClockLineage.CaptureMapping
import Relay.Session.PacketSnapshot
import Relay.Server.Handshakes
import Relay.Media.Source
import Relay.Server.Managed
import Relay.Server.Stopping

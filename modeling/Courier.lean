import Courier.Stream.Field
import Courier.Catalog
import Courier.Packet.Sum
import Courier.Text.Blank
import Courier.Transport.Basic
import Courier.Users.Table
import Courier.Options
import Courier.Command
import Courier.Error
import Courier.Events
import Courier.Datagram.Endpoint
import Courier.Loopback
import Courier.Server
import Courier.Client
import Courier.Transport.Scripted
import Courier.Cluster
import Courier.Packet.Sample
import Courier.ChatRoom
import Courier.Main
import Courier.Proofs.Datagram.Tables
import Courier.Proofs.Datagram.Reports
import Courier.Proofs.Server.Run
import Courier.Proofs.Packet.Catalog
import Courier.Proofs.Stream.Fields
import Courier.Proofs.Users.History
import Courier.Proofs.Users.Scan
import Courier.Proofs.Users.Sessions
import Courier.Proofs.Server.Sessions
import Courier.Proofs.Datagram.Course
import Courier.Proofs.Datagram.Channels
import Courier.Proofs.Datagram.Fleet
import Courier.Proofs.Datagram.Dealings
import Courier.Proofs.Datagram.Attending
import Courier.Proofs.Datagram.Opening
import Courier.Proofs.Datagram.Handshake
import Courier.Proofs.Lasting
import Courier.Proofs.Peering
import Courier.Proofs.Datagram.Calm
import Courier.Proofs.Chat.Relays
import Courier.Proofs.Chat.Chronicle
import Courier.Proofs.Chat.Speech
import Courier.Proofs.Chat.Standing
import Courier.Proofs.Chat.Relaying
import Courier.Proofs.Chat.Listening
import Courier.Proofs.Chat.Correspondence
import Courier.Proofs.Chat.Delivery
import Courier.Proofs.Stream.Bounds
import Courier.Proofs.Stream.Truncation
import Courier.Proofs.Stream.Checked
import Courier.Proofs.Stream.Safety
import Courier.Proofs.Datagram.Frames
import Courier.Proofs.Stream.Canonical
import Courier.Proofs.Packet.Sequence
import Courier.Proofs.Chat.Responses
import Courier.Proofs.Chat.Identity
import Courier.Proofs.Datagram.Isolation
import Courier.Proofs.Datagram.Admission
import Courier.Proofs.Datagram.Failing
import Courier.Proofs.Client.Lifecycle
import Courier.Proofs.Client.Leaving
import Courier.Proofs.Server.Outbox
import Courier.Proofs.Server.Outgoing
import Courier.Proofs.Server.Messages
import Courier.Proofs.Datagram.Carriage
import Courier.Proofs.Packet.Registration
import Courier.Proofs.Config.Effective
import Courier.Proofs.Datagram.Farewells
import Courier.Proofs.Server.History
import Courier.Proofs.Server.Orderly
import Courier.Proofs.Server.Shutdown
import Courier.Proofs.Server.Kick
import Courier.Proofs.Config.RoundTrip

import Courier.Proofs.Datagram.Serving
import Courier.Proofs.Server.Calls
import Courier.Proofs.Server.Sending

namespace Courier

open Datagram

namespace Node

variable {π ν κ : Type}

def roster (node : Node π (Station ν) κ) : Roster :=
  node.transport.roster

variable [Network ν]

theorem roster_call (call : TransportCall) (node : Node π (Station ν) κ) :
    (attempt (Node.call call) node).roster = (attempt call.run node.transport).roster :=
  congrArg Station.roster (transport_call call node)

theorem drained_of_poll {node after : Node π (Station ν) κ} {events : List RawEvent}
    (polled : Node.poll node = .ok events after) :
    Drained node.roster events after.roster := by
  have called : Node.call (.poll node.pollTimeout) node = .ok events after := polled
  exact Station.drained_of_poll (of_call_eq_ok called).1

theorem roster_of_createServer {name : String} {port : UInt16} {channels : UInt8} {maxPeers : Nat}
    {node after : Node π (Station ν) κ}
    (created : Node.call (.createServer name port channels maxPeers) node = .ok () after) :
    ∃ socket next,
      after.roster = ⟨some { role := .server, socket, channels, maxPeers }, next⟩ := by
  have ran : Station.createServer name port channels maxPeers node.transport =
      .ok () after.transport := (of_call_eq_ok created).1
  rcases Station.createServer_cases name port channels maxPeers node.transport with
    ⟨error, network, failed⟩ | ⟨-, socket, network, bound⟩
  · rw [failed] at ran
    cases ran
  · rw [bound] at ran
    injection ran with _ station
    refine ⟨socket, node.transport.process.nextPeer, ?_⟩
    rw [roster, ← station]
    rfl

theorem ignoresSending_roster : IgnoresSending (roster : Node π (Station ν) κ → Roster) where
  scratch _ _ := rfl
  send peer channel data flags node :=
    (roster_call (.send peer channel data flags) node).trans
      (Station.roster_send peer channel data flags node.transport)

end Node

namespace Server

variable {π ν κ : Type}

/-- The two tables that a server has to keep in step. -/
def tables (server : Server π (Station ν) κ) : UserTable × Roster :=
  (server.users, server.toNode.roster)

variable [Network ν]

theorem tables_refuse (server : Server π (Station ν) κ) (peer : PeerHandle) :
    (server.refuse peer).tables = (server.users, server.toNode.roster.remove peer) := by
  apply congrArg (Prod.mk server.users)
  exact (Node.roster_call (.disconnectPeer peer) server.toNode).trans
    (Station.roster_disconnectPeer peer server.transport)

variable [PacketType π]

theorem keeps_sendToPeer (peer : PeerHandle) (packet : π) :
    Keeps tables (sendToPeer peer packet : EStateM Error (Server π (Station ν) κ) Unit) :=
  Node.ignoresSending_roster.sendToPeer peer packet

theorem keeps_sendTo (user : UserId) (packet : π) :
    Keeps tables (sendTo user packet : EStateM Error (Server π (Station ν) κ) Unit) :=
  Node.ignoresSending_roster.sendTo user packet

theorem keeps_broadcast (packet : π) :
    Keeps tables (broadcast packet : EStateM Error (Server π (Station ν) κ) Nat) :=
  Node.ignoresSending_roster.broadcast packet

theorem tables_message (server : Server π (Station ν) κ) (peer : PeerHandle) (data : Bytes) :
    (server.message peer data).tables = server.tables :=
  Node.ignoresSending_roster.deliver peer _ _

end Server

end Courier

import Courier.Proofs.Client.Calls
import Courier.Proofs.Server.Tables

namespace Courier

open Datagram

/-! A send can be refused for the channel it is on. That is so exactly if the link has no such
channel, and if there was something to send. -/

def Refused (operation : EStateM Error σ α) (state : σ) : Prop :=
  ∃ channel limit after,
    operation state = .error (.transport (.invalidChannel channel limit)) after

namespace Refused

variable {operation : EStateM Error σ α} {next : α → EStateM Error σ β} {state after : σ}

theorem bind_iff_of_ok {value : α} (acted : operation state = .ok value after) :
    Refused (operation >>= next) state ↔ Refused (next value) after := by
  simp only [Refused, Bind.bind, EStateM.bind, acted]

theorem bind_iff_of_error {error : Error} (failed : operation state = .error error after) :
    Refused (operation >>= next) state ↔
      ∃ channel limit, error = .transport (.invalidChannel channel limit) := by
  simp [Refused, Bind.bind, EStateM.bind, failed]

end Refused

/-- There are bytes for the packet. -/
def Encodable {π : Type} [PacketType π] (packet : π) : Prop :=
  ∃ form, wireForm packet = .ok form

theorem Datagram.Station.send_invalid_iff {ν : Type} [Network ν] {station : Station ν} {host : Host}
    (hosting : station.endpoint.host = some host) {peer : PeerHandle} {link : Link}
    (found : host.connectedLink? peer = some link) (channel : UInt8) (data : Bytes)
    (flags : SendFlags) :
    (∃ asked limit after,
        send peer channel data flags station = .error (.invalidChannel asked limit) after) ↔
      link.channels ≤ channel := by
  have sending := send_eq hosting peer channel data flags
  simp only [found] at sending
  rw [sending]
  by_cases closed : link.channels ≤ channel
  · rw [if_pos closed]
    exact ⟨fun _ => closed, fun _ => ⟨_, _, _, rfl⟩⟩
  · rw [if_neg closed]
    refine ⟨?_, fun open' => absurd open' closed⟩
    rintro ⟨asked, limit, after, failed⟩
    split at failed
    · cases failed
    · obtain ⟨network, sent | ⟨reason, unsent⟩⟩ := sendFrame_cases host.socket link.address
        (.data channel flags data) station
      · rw [sent] at failed
        cases failed
      · rw [unsent] at failed
        cases failed

namespace Node

variable {π τ ν κ : Type}

theorem refused_call_iff [Transport τ] (call : TransportCall) (node : Node π τ κ) :
    Refused (Node.call call) node ↔ ∃ channel limit after,
      call.run node.transport = .error (.invalidChannel channel limit) after := by
  simp only [Refused, Node.call, perform]
  cases call.run node.transport with
  | ok value after => simp
  | error error after => simp

theorem refused_sendBytes_iff [Network ν] {node : Node π (Station ν) κ} {peer : PeerHandle}
    {link : Link} (linked : node.roster.link? peer = some link)
    (connected : link.state = .connected) (data : Bytes) :
    Refused (sendBytes peer data) node ↔ link.channels ≤ node.config.sendChannel := by
  obtain ⟨host, hosting, there⟩ := Option.bind_eq_some_iff.mp linked
  have found : host.connectedLink? peer = some link := by
    simp [Host.connectedLink?, there, connected]
  exact (refused_call_iff (.send peer node.config.sendChannel data .reliable) node).trans
    (Station.send_invalid_iff hosting found node.config.sendChannel data .reliable)

variable [PacketType π]

theorem encode_cases (packet : π) (node : Node π τ κ) :
    (∃ form scratch, wireForm packet = .ok form ∧
        encode packet node = .ok form { node with scratch }) ∨
      ∃ error scratch, wireForm packet = .error error ∧
        encode packet node = .error (.protocol error) { node with scratch } := by
  unfold wireForm encode Writer.flush
  cases encodePacket packet ({} : Writer) with
  | ok value written => exact .inl ⟨written.bytes, written, rfl, rfl⟩
  | error error written => exact .inr ⟨error, written, rfl, rfl⟩

theorem refused_sendPacket_iff [Network ν] {node : Node π (Station ν) κ} {peer : PeerHandle}
    {link : Link}
    (linked : node.roster.link? peer = some link) (connected : link.state = .connected)
    (packet : π) :
    Refused (sendPacket peer packet) node ↔
      Encodable packet ∧ link.channels ≤ node.config.sendChannel := by
  rcases encode_cases packet node with ⟨form, scratch, form_eq, encoded⟩ |
    ⟨error, scratch, form_eq, failed⟩
  · have encodable : Encodable packet := ⟨form, form_eq⟩
    have there : Node.roster { node with scratch } = node.roster := rfl
    rw [sendPacket, Refused.bind_iff_of_ok encoded,
      refused_sendBytes_iff (there.symm ▸ linked) connected form]
    simp [encodable]
  · rw [sendPacket, Refused.bind_iff_of_error failed]
    simp [Encodable, form_eq]

end Node

namespace Server

variable {π τ ν κ : Type}

theorem refused_asNode_iff (operation : EStateM Error (Node π τ κ) α) (server : Server π τ κ) :
    Refused (asNode operation) server ↔ Refused operation server.toNode := by
  simp only [Refused, asNode]
  cases operation server.toNode with
  | ok value node => simp
  | error error node => simp

variable [Network ν] [PacketType π] {server : Server π (Station ν) κ} {peer : PeerHandle}
  {link : Link}

theorem refused_sendToPeer_iff (linked : server.toNode.roster.link? peer = some link)
    (connected : link.state = .connected) (packet : π) :
    Refused (sendToPeer peer packet) server ↔
      Encodable packet ∧ link.channels ≤ server.config.sendChannel :=
  (refused_asNode_iff _ server).trans (Node.refused_sendPacket_iff linked connected packet)

theorem refused_sendTo_iff {user : UserId} (held : server.users.peer user = .ok peer)
    (linked : server.toNode.roster.link? peer = some link)
    (connected : link.state = .connected) (packet : π) :
    Refused (sendTo user packet) server ↔
      Encodable packet ∧ link.channels ≤ server.config.sendChannel := by
  have known : peerOf user server = .ok peer server := by
    simp only [peerOf, held]
  rw [sendTo, Refused.bind_iff_of_ok known]
  exact refused_sendToPeer_iff linked connected packet

end Server

namespace Client

variable {π τ ν κ : Type}

theorem refused_asNode_iff (operation : EStateM Error (Node π τ κ) α) (client : Client π τ κ) :
    Refused (asNode operation) client ↔ Refused operation client.toNode := by
  simp only [Refused, asNode]
  cases operation client.toNode with
  | ok value node => simp
  | error error node => simp

/-- A client that is not connected sends nothing. -/
theorem refused_of_checked_iff (next : Client π τ κ → EStateM Error (Client π τ κ) α)
    (client : Client π τ κ) :
    Refused (do checkConnected; next (← get)) client ↔
      client.state = .connected ∧ Refused (next client) client := by
  by_cases connected : client.state = .connected
  · rw [Refused.bind_iff_of_ok (checkConnected_of_connected connected),
      Refused.bind_iff_of_ok (get_eq client)]
    simp [connected]
  · rw [Refused.bind_iff_of_error (checkConnected_of_not_connected connected)]
    simp [connected]

variable [Network ν] {client : Client π (Station ν) κ} {link : Link}

theorem refused_sendBytes_iff (linked : client.toNode.roster.link? client.server = some link)
    (connected : link.state = .connected) (data : Bytes) :
    Refused (sendBytes data) client ↔
      client.state = .connected ∧ link.channels ≤ client.config.sendChannel := by
  refine (refused_of_checked_iff _ client).trans (and_congr_right fun _ => ?_)
  exact (refused_asNode_iff _ client).trans (Node.refused_sendBytes_iff linked connected data)

theorem refused_send_iff [PacketType π]
    (linked : client.toNode.roster.link? client.server = some link)
    (connected : link.state = .connected) (packet : π) :
    Refused (send packet) client ↔
      client.state = .connected ∧ Encodable packet ∧
        link.channels ≤ client.config.sendChannel := by
  refine (refused_of_checked_iff _ client).trans (and_congr_right fun _ => ?_)
  exact (refused_asNode_iff _ client).trans (Node.refused_sendPacket_iff linked connected packet)

end Client

end Courier

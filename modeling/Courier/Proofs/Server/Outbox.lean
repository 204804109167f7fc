import Courier.Packet.Sample
import Courier.Proofs.Packet.Grammar
import Courier.Proofs.Server.Answers
import Courier.Proofs.Users.History
import Courier.Transport.Scripted
import Mathlib

namespace Courier

/-! What a server sends when it is sent a message. Handling a message queues packets, and every one
of them is sent, whatever handling it has ended in and whatever comes of the sends before. -/

theorem outbox_handleMessage {π : Type} [PacketType π] (registry : PacketRegistry π)
    (peer : PeerHandle) (user : Option UserId) (message : Bytes) :
    (handleMessage registry peer user message).outbox =
      match decodePacket registry (.ofBytes message) with
      | .ok packet _ => (PacketType.process packet { peer, user }).2.outbox
      | .error _ _ => [] := by
  rw [handleMessage_eq]
  cases decodePacket registry (.ofBytes message) <;> rfl

namespace Server

variable {π τ κ : Type} [PacketType π] [Transport τ]

/-- The packets that are queued are sent in that order: a reply to the peer that has sent the
message, and a broadcast to each user in the order of their ids. A packet that cannot be written is
sent to nobody, and what fails changes nothing about the rest. -/
theorem outbox_sent_in_order {server : Server π τ κ} {requested : Nat}
    {history : List UserTable.Call}
    (reached : server.users = (UserTable.ofSize requested).after history) (peer : PeerHandle)
    (channel : UInt8) (flags : SendFlags) (message : Bytes) :
    let user := server.users.user? peer
    let queued :=
      match decodePacket server.registry (.ofBytes message) with
      | .ok packet _ => (PacketType.process packet { peer, user }).2.outbox
      | .error _ _ => []
    let after := server.handle (.receive peer channel flags message)
    after.calls = server.calls ++ queued.flatMap (server.sendsOf peer) ∧
      after.transport =
        TransportCall.runAll (queued.flatMap (server.sendsOf peer)) server.transport ∧
      UserTable.Ascending (server.users.entries.map (·.1)) ∧
      ∀ user peer, (user, peer) ∈ server.users.entries ↔ server.users.peer user = .ok peer := by
  intro user queued after
  have consistent : server.users.Consistent := reached ▸ (UserTable.Consistent.ofSize _).after _
  have makes := makes_message server peer message
  rw [outbox_handleMessage] at makes
  refine ⟨makes.recorded, makes.carried, consistent.ascending_activeUsers, fun user peer => ?_⟩
  rw [UserTable.mem_entries consistent.capacity_le, UserTable.peer_eq_ok_iff]

def parlour : Server SamplePacket Scripted Unit where
  transport := { deaf := [⟨5⟩] }
  registry := .ofList [(⟨0x40⟩, .knock 0)]
  users := (UserTable.ofSize 2).after [.acquire ⟨5⟩, .acquire ⟨6⟩]

theorem outbox_sent_in_order_parlour :
    parlour.users = (UserTable.ofSize 2).after [.acquire ⟨5⟩, .acquire ⟨6⟩] ∧
      (parlour.handle (.receive ⟨6⟩ 0 .none [0x40, 0xff])).calls =
        [.send ⟨5⟩ 0 [0x40, 2] .reliable, .send ⟨6⟩ 0 [0x40, 2] .reliable,
          .send ⟨6⟩ 0 [0x40, 3] .reliable] := by
  have users : parlour.users = (UserTable.ofSize 2).after [.acquire ⟨5⟩, .acquire ⟨6⟩] := rfl
  obtain ⟨sent, -⟩ := outbox_sent_in_order users ⟨6⟩ 0 .none [0x40, 0xff]
  refine ⟨users, sent.trans ?_⟩
  cbv

end Server

end Courier

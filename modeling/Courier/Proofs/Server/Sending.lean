import Courier.Proofs.Action
import Courier.Server

namespace Courier

/-! What sending leaves as it is. A packet is encoded in the buffer of a node and then handed to the
transport, so a view of a node that sees neither is the same before and after, however much is sent
and whether or not it fails. -/

namespace Node

variable {π τ κ : Type} [Transport τ]

/-- A view that sees neither the buffer nor what sending changes. -/
structure IgnoresSending (view : Node π τ κ → α) : Prop where
  scratch : ∀ (node : Node π τ κ) (scratch : Writer), view { node with scratch } = view node
  send : ∀ peer channel data flags, Keeps view (Node.call (.send peer channel data flags))

end Node

namespace Server

variable {π τ κ : Type} {view : Node π τ κ → α}

/-- The users of a server, and a view of the rest. -/
def withUsers (view : Node π τ κ → α) (server : Server π τ κ) : UserTable × α :=
  (server.users, view server.toNode)

theorem attempt_asNode (operation : EStateM Error (Node π τ κ) β) (server : Server π τ κ) :
    attempt (asNode operation) server =
      { server with toNode := attempt operation server.toNode } := by
  simp only [attempt, asNode]
  cases operation server.toNode <;> rfl

theorem keeps_asNode {operation : EStateM Error (Node π τ κ) β} (kept : Keeps view operation) :
    Keeps (withUsers view) (asNode operation) := by
  intro server
  rw [attempt_asNode]
  exact congrArg (Prod.mk server.users) (kept server.toNode)

theorem keeps_peerOf (view : Server π τ κ → α) (user : UserId) :
    Keeps view (peerOf user : EStateM Error (Server π τ κ) PeerHandle) := by
  intro server
  simp only [attempt, peerOf]
  cases server.users.peer user <;> rfl

end Server

namespace Node.IgnoresSending

variable {π τ κ : Type} [Transport τ] {view : Node π τ κ → α}

theorem sendBytes (ignores : IgnoresSending view) (peer : PeerHandle) (data : Bytes) :
    Keeps view (Node.sendBytes peer data) :=
  Keeps.get.bind fun node => ignores.send peer node.config.sendChannel data .reliable

theorem sendEach (ignores : IgnoresSending view) (data : Bytes) (peers : List PeerHandle)
    (node : Node π τ κ) : view (Node.sendEach data peers node).2 = view node := by
  induction peers generalizing node with
  | nil => rfl
  | cons peer rest ih =>
      have first := ignores.sendBytes peer data node
      rw [Node.sendEach]
      cases sent : Node.sendBytes peer data node with
      | ok value after =>
          rw [attempt, sent] at first
          exact (ih after).trans first
      | error error after =>
          rw [attempt, sent] at first
          exact (ih after).trans first

variable [PacketType π]

theorem encode (ignores : IgnoresSending view) (packet : π) : Keeps view (Node.encode packet) := by
  intro node
  simp only [attempt, Node.encode]
  cases encodePacket packet node.scratch.flush with
  | ok value scratch => exact ignores.scratch node scratch
  | error error scratch => exact ignores.scratch node scratch

theorem sendPacket (ignores : IgnoresSending view) (peer : PeerHandle) (packet : π) :
    Keeps view (Node.sendPacket peer packet) :=
  (ignores.encode packet).bind fun data => ignores.sendBytes peer data

theorem sendToPeer (ignores : IgnoresSending view) (peer : PeerHandle) (packet : π) :
    Keeps (Server.withUsers view) (Server.sendToPeer peer packet) :=
  Server.keeps_asNode (ignores.sendPacket peer packet)

theorem sendTo (ignores : IgnoresSending view) (user : UserId) (packet : π) :
    Keeps (Server.withUsers view) (Server.sendTo user packet) :=
  (Server.keeps_peerOf _ user).bind fun peer => ignores.sendToPeer peer packet

theorem broadcast (ignores : IgnoresSending view) (packet : π) :
    Keeps (Server.withUsers view) (Server.broadcast packet) := by
  apply (Server.keeps_asNode (ignores.encode packet)).bind
  intro data
  apply Keeps.always
  intro server
  exact congrArg (Prod.mk server.users) (ignores.sendEach data _ server.toNode)

theorem deliver (ignores : IgnoresSending view) (origin : PeerHandle) (outbox : List (Outgoing π))
    (server : Server π τ κ) :
    Server.withUsers view
        (outbox.foldl (fun server outgoing => Server.deliver origin outgoing server) server) =
      Server.withUsers view server := by
  induction outbox generalizing server with
  | nil => rfl
  | cons outgoing rest ih =>
      refine (ih _).trans ?_
      cases outgoing with
      | reply packet => exact ignores.sendToPeer origin packet server
      | broadcast packet => exact ignores.broadcast packet server

end Node.IgnoresSending

end Courier

import Courier.Proofs.Client.Calls
import Courier.Proofs.Packet.Grammar
import Courier.Proofs.Server.Tables

namespace Courier

open Datagram

/-! What a message does to a server: it is told and answered, and no session is touched. What cannot
be read is told, and that is all. The rest of a batch does not notice it, since what has been
recorded makes no difference to what is done. -/

namespace Node

variable {π τ κ : Type}

/-- The node, with more recorded before all that is. -/
def recalling (earlier : List (Act κ)) (node : Node π τ κ) : Node π τ κ :=
  { node with acts := earlier ++ node.acts }

theorem record_recalling (earlier acts : List (Act κ)) (node : Node π τ κ) :
    (node.recalling earlier).record acts = (node.record acts).recalling earlier := by
  simp only [record, recalling, List.append_assoc]

theorem overlooks_encode [PacketType π] (earlier : List (Act κ)) (packet : π) :
    Overlooks (recalling earlier : Node π τ κ → _) (encode packet) := by
  intro node
  have scratch : (node.recalling earlier).scratch = node.scratch := rfl
  simp only [encode, scratch]
  cases encodePacket packet node.scratch.flush <;> rfl

variable [Transport τ]

theorem overlooks_call (earlier : List (Act κ)) (call : TransportCall) :
    Overlooks (recalling earlier : Node π τ κ → _) (Node.call call) := by
  intro node
  have transport : (node.recalling earlier).transport = node.transport := rfl
  simp only [Node.call, perform, record_recalling, transport]
  cases call.run node.transport <;> rfl

theorem overlooks_sendBytes (earlier : List (Act κ)) (peer : PeerHandle) (data : Bytes) :
    Overlooks (recalling earlier : Node π τ κ → _) (sendBytes peer data) := fun node =>
  overlooks_call earlier (.send peer node.config.sendChannel data .reliable) node

theorem sendEach_recalling (earlier : List (Act κ)) (data : Bytes) (peers : List PeerHandle)
    (node : Node π τ κ) :
    sendEach data peers (node.recalling earlier) =
      (sendEach data peers node).map id (recalling earlier) := by
  induction peers generalizing node with
  | nil => rfl
  | cons peer rest ih =>
      rw [sendEach, sendEach, overlooks_sendBytes]
      cases sendBytes peer data node with
      | ok value after =>
          dsimp only [changed]
          rw [ih]
          rfl
      | error error after => exact ih after

theorem overlooks_sendPacket [PacketType π] (earlier : List (Act κ)) (peer : PeerHandle)
    (packet : π) : Overlooks (recalling earlier : Node π τ κ → _) (sendPacket peer packet) :=
  (overlooks_encode earlier packet).bind fun data => overlooks_sendBytes earlier peer data

end Node

namespace Server

variable {π τ κ : Type}

def recalling (earlier : List (Act κ)) (server : Server π τ κ) : Server π τ κ :=
  server.onNode (Node.recalling earlier)

theorem overlooks_asNode {earlier : List (Act κ)} {operation : EStateM Error (Node π τ κ) β}
    (overlooks : Overlooks (Node.recalling earlier) operation) :
    Overlooks (recalling earlier) (asNode operation) := by
  intro server
  have same := overlooks server.toNode
  simp only [asNode, recalling, onNode, same]
  cases operation server.toNode <;> rfl

theorem record_recalling (earlier acts : List (Act κ)) (server : Server π τ κ) :
    (server.recalling earlier).onNode (·.record acts) =
      (server.onNode (·.record acts)).recalling earlier := by
  simp only [recalling, onNode, Node.record_recalling]

theorem fire_eq (server : Server π τ κ) (kind : EventKind) (event : NetEvent) :
    server.fire kind event =
      server.onNode (·.record ((server.handlers.callback? kind).toList.map fun callback =>
        .ran kind callback event)) := by
  simp only [fire, onNode, Node.fire, EventHandlers.call]
  cases server.handlers.callback? kind <;> rfl

theorem fire_recalling (earlier : List (Act κ)) (kind : EventKind) (event : NetEvent)
    (server : Server π τ κ) :
    (server.recalling earlier).fire kind event = (server.fire kind event).recalling earlier :=
  record_recalling earlier _ server

theorem leave_recalling (earlier : List (Act κ)) (peer : PeerHandle) (server : Server π τ κ) :
    (server.recalling earlier).leave peer = (server.leave peer).recalling earlier :=
  fire_recalling earlier _ _ { server with users := (server.users.releasePeer peer).2 }

variable [Transport τ]

theorem refuse_recalling (earlier : List (Act κ)) (peer : PeerHandle) (server : Server π τ κ) :
    (server.recalling earlier).refuse peer = (server.refuse peer).recalling earlier := by
  simp only [refuse, recalling, onNode, (Node.overlooks_call earlier _).attempt]

theorem join_recalling (earlier : List (Act κ)) (peer : PeerHandle) (server : Server π τ κ) :
    (server.recalling earlier).join peer = (server.join peer).recalling earlier := by
  have users : (server.recalling earlier).users = server.users := rfl
  unfold join
  rw [users]
  split
  · next user table _ => exact fire_recalling earlier _ _ { server with users := table }
  · rfl
  · exact refuse_recalling earlier peer server

variable [PacketType π]

theorem deliver_recalling (earlier : List (Act κ)) (origin : PeerHandle) (outgoing : Outgoing π)
    (server : Server π τ κ) :
    deliver origin outgoing (server.recalling earlier) =
      (deliver origin outgoing server).recalling earlier := by
  cases outgoing with
  | reply packet =>
      exact (overlooks_asNode (Node.overlooks_sendPacket earlier origin packet)).attempt server
  | broadcast packet =>
      have overlooks : Overlooks (recalling earlier : Server π τ κ → _) (broadcast packet) := by
        refine (overlooks_asNode (Node.overlooks_encode earlier packet)).bind fun data => ?_
        refine Overlooks.always fun server => ?_
        have same : Node.sendEach data (server.recalling earlier).activePeers
            (server.recalling earlier).toNode = _ :=
          Node.sendEach_recalling earlier data server.activePeers server.toNode
        simp only [sendToAll, same]
        rfl
      exact overlooks.attempt server

/-- A message is told, handled for what it prints, and answered. -/
theorem message_eq (server : Server π τ κ) (peer : PeerHandle) (data : Bytes) :
    server.message peer data =
      (handleMessage server.registry peer (server.users.user? peer) data).outbox.foldl
        (fun server outgoing => deliver peer outgoing server)
        ((server.fire .message { peer, user := server.users.user? peer, data }).onNode
          (·.record ((handleMessage server.registry peer (server.users.user? peer) data).printed.map
            .printed))) :=
  rfl

theorem message_recalling (earlier : List (Act κ)) (peer : PeerHandle) (data : Bytes)
    (server : Server π τ κ) :
    (server.recalling earlier).message peer data =
      (server.message peer data).recalling earlier := by
  have delivered (outbox : List (Outgoing π)) (server : Server π τ κ) :
      outbox.foldl (fun server outgoing => deliver peer outgoing server)
          (server.recalling earlier) =
        (outbox.foldl (fun server outgoing => deliver peer outgoing server) server).recalling
          earlier := by
    induction outbox generalizing server with
    | nil => rfl
    | cons outgoing rest ih => rw [List.foldl_cons, deliver_recalling, ih, List.foldl_cons]
  have users : (server.recalling earlier).users = server.users := rfl
  have registry : (server.recalling earlier).registry = server.registry := rfl
  rw [message_eq, message_eq, users, registry, fire_recalling, record_recalling, delivered]

/-- What has been recorded makes no difference to a batch. -/
theorem handleAll_recalling (earlier : List (Act κ)) (events : List RawEvent)
    (server : Server π τ κ) :
    (server.recalling earlier).handleAll events = (server.handleAll events).recalling earlier := by
  induction events generalizing server with
  | nil => rfl
  | cons event rest ih =>
      have handled : (server.recalling earlier).handle event =
          (server.handle event).recalling earlier := by
        cases event with
        | connect peer => exact join_recalling earlier peer server
        | disconnect peer => exact leave_recalling earlier peer server
        | receive peer channel flags data => exact message_recalling earlier peer data server
      change ((server.recalling earlier).handle event).handleAll rest = _
      rw [handled, ih]
      rfl

omit [Transport τ] [PacketType π] in
theorem keeps_running_asNode (operation : EStateM Error (Node π τ κ) β) :
    Keeps Server.running (asNode operation) := by
  intro server
  rw [attempt_asNode]

theorem running_message (server : Server π τ κ) (peer : PeerHandle) (data : Bytes) :
    (server.message peer data).running = server.running := by
  have delivered (outbox : List (Outgoing π)) (server : Server π τ κ) :
      (outbox.foldl (fun server outgoing => deliver peer outgoing server) server).running =
        server.running := by
    induction outbox generalizing server with
    | nil => rfl
    | cons outgoing rest ih =>
        refine (ih _).trans ?_
        cases outgoing with
        | reply packet => exact keeps_running_asNode _ server
        | broadcast packet =>
            exact (keeps_running_asNode _).bind (fun data => Keeps.always fun _ => rfl) server
  exact delivered _ _

/-- What neither sending nor recording changes is left by a message as it was. -/
theorem withUsers_message {view : Node π τ κ → α} (ignores : Node.IgnoresSending view)
    (unrecorded : ∀ (node : Node π τ κ) acts, view (node.record acts) = view node)
    (server : Server π τ κ) (peer : PeerHandle) (data : Bytes) :
    withUsers view (server.message peer data) = withUsers view server := by
  rw [message_eq, ignores.deliver]
  exact congrArg (Prod.mk server.users) ((unrecorded _ _).trans (unrecorded _ _))

/-- A message that cannot be read is told, and nothing else is done. -/
theorem message_of_decodePacket_eq_error {server : Server π τ κ} {data : Bytes}
    {error : ProtocolError} {rest : Reader}
    (failed : decodePacket server.registry (.ofBytes data) = .error error rest)
    (peer : PeerHandle) :
    server.message peer data =
      server.fire .message { peer, user := server.users.user? peer, data } := by
  rw [message_eq, handleMessage_eq, failed]
  simp [onNode, Node.record]

/-- What is recorded before a batch stays before what the batch records, and changes nothing. -/
theorem handleAll_onNode_record (events : List RawEvent) (server : Server π τ κ) :
    ∃ later, ∀ acts,
      handleAll (server.onNode (·.record acts)) events =
        { server.handleAll events with acts := server.acts ++ acts ++ later } := by
  let blank : Server π τ κ := server.onNode fun node => { node with acts := [] }
  have whole (acts : List (Act κ)) :
      server.onNode (·.record acts) = blank.recalling (server.acts ++ acts) := by
    simp [blank, recalling, onNode, Node.record, Node.recalling]
  have own : server = blank.recalling server.acts := by
    simp [blank, recalling, onNode, Node.recalling]
  refine ⟨(blank.handleAll events).acts, fun acts => ?_⟩
  have same : server.handleAll events = (blank.handleAll events).recalling server.acts := by
    rw [← handleAll_recalling, ← own]
  rw [whole, handleAll_recalling, same]
  rfl

/-- No message touches a session, whatever handling it does and whatever becomes of the answers. One
that cannot be read is told under the user that its origin is, and nothing is sent; the rest of the
batch goes on as if it had not been there. -/
theorem sessions_kept_of_receive {ν : Type} [Network ν] (server : Server π (Station ν) κ)
    (peer : PeerHandle) (channel : UInt8) (flags : SendFlags) (data : Bytes) :
    let after := server.handle (.receive peer channel flags data)
    (after.users = server.users ∧
        after.transport.endpoint.host = server.transport.endpoint.host ∧
        after.registry = server.registry ∧ after.config = server.config ∧
        after.handlers = server.handlers ∧ after.running = server.running) ∧
      ∀ error rest, decodePacket server.registry (.ofBytes data) = .error error rest →
        let told := server.handlers.onMessage.toList.map fun callback =>
          Act.ran .message callback { peer, user := server.users.user? peer, data }
        after = { server with acts := server.acts ++ told } ∧
          ∀ events, ∃ later,
            (server.handleAll events).acts = server.acts ++ later ∧
              server.handleAll (.receive peer channel flags data :: events) =
                { server.handleAll events with acts := server.acts ++ told ++ later } := by
  intro after
  have settings : Node.IgnoresSending fun node : Node π (Station ν) κ =>
      (node.registry, node.config, node.handlers) :=
    ⟨fun _ _ => rfl, fun _ _ _ _ node => by rw [Node.attempt_call]; rfl⟩
  have kept := withUsers_message (Node.ignoresSending_roster.prod settings) (fun _ _ => rfl)
    server peer data
  simp only [withUsers, Prod.mk.injEq] at kept
  obtain ⟨users, roster, registry, config, handlers⟩ := kept
  refine ⟨⟨users, congrArg Roster.host roster, registry, config, handlers,
    running_message server peer data⟩, fun error rest failed => ?_⟩
  intro told
  have noticed : after = server.onNode (·.record told) :=
    (message_of_decodePacket_eq_error failed peer).trans (fire_eq server _ _)
  refine ⟨noticed, fun events => ?_⟩
  obtain ⟨later, same⟩ := server.handleAll_onNode_record events
  refine ⟨later, ?_, ?_⟩
  · have alone := congrArg (fun server => server.acts) (same [])
    simpa [onNode, Node.record] using alone
  · change after.handleAll events = _
    rw [noticed, same]

end Server

end Courier

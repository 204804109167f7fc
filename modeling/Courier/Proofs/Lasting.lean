import Courier.Proofs.Client.Calls
import Courier.Proofs.Datagram.Attending

namespace Courier

namespace Node

variable {π τ κ : Type} [Transport τ]

/-- What stays true of a node through everything that it does to its transport, its buffer and its
record stays true through the calls of a server and of a client. -/
structure Lasting (holds : Node π τ κ → Prop) : Prop where
  call : ∀ call : TransportCall, call.Usual → Preserves holds (Node.call call)
  scratch : ∀ {node : Node π τ κ} (scratch : Writer), holds node → holds { node with scratch }
  record : ∀ {node : Node π τ κ} (acts : List (Act κ)), holds node → holds (node.record acts)

/-- What is true of the transport, as long as the usual calls keep it so, and the settings. -/
theorem lasting_transport {holds : τ → Prop}
    (lasts : ∀ call : TransportCall, call.Usual → Preserves holds call.run) (config : Config)
    (registry : PacketRegistry π) :
    Lasting fun node : Node π τ κ =>
      holds node.transport ∧ node.config = config ∧ node.registry = registry where
  call call usual node := by
    rintro ⟨first, same⟩
    rw [attempt_call]
    exact ⟨lasts call usual first, same⟩
  scratch _ holding := holding
  record _ holding := holding

theorem lasting_settings (config : Config) (registry : PacketRegistry π) :
    Lasting fun node : Node π τ κ => node.config = config ∧ node.registry = registry where
  call call _ node same := by
    rw [attempt_call]
    exact same
  scratch _ same := same
  record _ same := same

namespace Lasting

variable {holds : Node π τ κ → Prop} (lasting : Lasting holds)

include lasting

theorem sendBytes (peer : PeerHandle) (data : Bytes) :
    Preserves holds (Node.sendBytes peer data) :=
  Preserves.get.bind fun node =>
    lasting.call (.send peer node.config.sendChannel data .reliable) (.inl trivial)

theorem sendEach (data : Bytes) (peers : List PeerHandle) {node : Node π τ κ}
    (first : holds node) : holds (Node.sendEach data peers node).2 := by
  induction peers generalizing node with
  | nil => exact first
  | cons peer rest ih =>
      have next := lasting.sendBytes peer data first
      rw [Node.sendEach]
      cases sent : Node.sendBytes peer data node with
      | ok value after =>
          rw [attempt, sent] at next
          exact ih next
      | error error after =>
          rw [attempt, sent] at next
          exact ih next

theorem poll : Preserves holds Node.poll :=
  Preserves.get.bind fun node => lasting.call (.poll node.pollTimeout) (.inr ⟨_, rfl⟩)

theorem fire (kind : EventKind) (event : NetEvent) {node : Node π τ κ} (first : holds node) :
    holds (node.fire kind event) :=
  lasting.record _ first

variable [PacketType π]

theorem encode (packet : π) : Preserves holds (Node.encode packet) := by
  intro node first
  simp only [attempt, Node.encode]
  cases encodePacket packet node.scratch.flush with
  | ok value scratch => exact lasting.scratch scratch first
  | error error scratch => exact lasting.scratch scratch first

theorem sendPacket (peer : PeerHandle) (packet : π) :
    Preserves holds (Node.sendPacket peer packet) :=
  (lasting.encode packet).bind fun _ => lasting.sendBytes peer _

end Lasting

end Node

namespace Server

variable {π τ κ : Type} {holds : Node π τ κ → Prop}

def Having (holds : Node π τ κ → Prop) (server : Server π τ κ) : Prop :=
  holds server.toNode

theorem preserves_asNode {operation : EStateM Error (Node π τ κ) β}
    (preserved : Preserves holds operation) : Preserves (Having holds) (asNode operation) := by
  intro server first
  rw [attempt_asNode]
  exact preserved first

theorem preserves_peerOf (user : UserId) : Preserves (Having holds) (peerOf user) := by
  intro server first
  simp only [attempt, peerOf]
  cases server.users.peer user <;> exact first

variable [Transport τ] (lasting : Node.Lasting holds)

include lasting

theorem having_fire (kind : EventKind) (event : NetEvent) {server : Server π τ κ}
    (first : server.Having holds) : (server.fire kind event).Having holds :=
  lasting.fire kind event first

theorem having_refuse (peer : PeerHandle) {server : Server π τ κ} (first : server.Having holds) :
    (server.refuse peer).Having holds :=
  lasting.call (.disconnectPeer peer) (.inl trivial) first

theorem having_join (peer : PeerHandle) {server : Server π τ κ} (first : server.Having holds) :
    (server.join peer).Having holds := by
  unfold join
  split
  · exact having_fire lasting _ _ first
  · exact first
  · exact having_refuse lasting peer first

theorem having_leave (peer : PeerHandle) {server : Server π τ κ} (first : server.Having holds) :
    (server.leave peer).Having holds :=
  having_fire lasting _ _ first

theorem preserves_kick (user : UserId) : Preserves (Having holds) (kick user) := by
  refine (preserves_peerOf user).bind fun peer => ?_
  refine Preserves.bind (Preserves.modify ?_) fun _ => ?_
  · exact fun _ first => first
  · refine Preserves.bind (Preserves.modify ?_) fun _ => Preserves.modify ?_
    · exact fun _ first => having_refuse lasting peer first
    · exact fun _ first => having_fire lasting _ _ first

theorem having_shutdown {server : Server π τ κ} (first : server.Having holds) :
    server.shutdown.Having holds := by
  unfold shutdown
  split
  · have told : Having holds ({ server with running := false }.onNode
        (attempt (Node.call .disconnect))) := lasting.call .disconnect (.inl trivial) first
    exact lasting.call .stop (.inl trivial) told
  · exact first

variable [PacketType π]

theorem preserves_sendToPeer (peer : PeerHandle) (packet : π) :
    Preserves (Having holds) (sendToPeer peer packet) :=
  preserves_asNode (lasting.sendPacket peer packet)

theorem preserves_sendTo (user : UserId) (packet : π) :
    Preserves (Having holds) (sendTo user packet) :=
  (preserves_peerOf user).bind fun peer => preserves_sendToPeer lasting peer packet

theorem preserves_broadcast (packet : π) : Preserves (Having holds) (broadcast packet) :=
  (preserves_asNode (lasting.encode packet)).bind fun data =>
    Preserves.always fun server first => lasting.sendEach data server.activePeers first

theorem having_deliver (origin : PeerHandle) (outgoing : Outgoing π) {server : Server π τ κ}
    (first : server.Having holds) : (deliver origin outgoing server).Having holds := by
  cases outgoing with
  | reply packet => exact preserves_sendToPeer lasting origin packet first
  | broadcast packet => exact preserves_broadcast lasting packet first

theorem having_message (peer : PeerHandle) (data : Bytes) {server : Server π τ κ}
    (first : server.Having holds) : (server.message peer data).Having holds := by
  have delivered (outbox : List (Outgoing π)) {told : Server π τ κ} (holding : told.Having holds) :
      Having holds (outbox.foldl (fun server outgoing => deliver peer outgoing server) told) := by
    induction outbox generalizing told with
    | nil => exact holding
    | cons outgoing rest ih => exact ih (having_deliver lasting peer outgoing holding)
  exact delivered _ (lasting.record _ (having_fire lasting _ _ first))

theorem having_handle (event : RawEvent) {server : Server π τ κ} (first : server.Having holds) :
    (server.handle event).Having holds := by
  cases event with
  | connect peer => exact having_join lasting peer first
  | disconnect peer => exact having_leave lasting peer first
  | receive peer channel flags data => exact having_message lasting peer data first

theorem having_handleAll (events : List RawEvent) {server : Server π τ κ}
    (first : server.Having holds) : (server.handleAll events).Having holds := by
  induction events generalizing server with
  | nil => exact first
  | cons event rest ih => exact ih (having_handle lasting event first)

theorem preserves_poll : Preserves (Having holds) (poll : EStateM Error (Server π τ κ) Nat) :=
  (preserves_asNode lasting.poll).bind fun events =>
    (Preserves.modify fun _ => having_handleAll lasting events).bind fun _ => Preserves.pure _

end Server

namespace Client

variable {π τ κ : Type} {holds : Node π τ κ → Prop}

def Having (holds : Node π τ κ → Prop) (client : Client π τ κ) : Prop :=
  holds client.toNode

theorem preserves_asNode {operation : EStateM Error (Node π τ κ) β}
    (preserved : Preserves holds operation) : Preserves (Having holds) (asNode operation) := by
  intro client first
  rw [attempt_asNode]
  exact preserved first

theorem preserves_checkConnected :
    Preserves (Having holds) (checkConnected : EStateM Error (Client π τ κ) Unit) :=
  Preserves.get.bind fun client => by
    split
    · exact Preserves.throw _
    · exact Preserves.pure _

variable [Transport τ] (lasting : Node.Lasting holds)

include lasting

theorem preserves_sendBytes (data : Bytes) :
    Preserves (Having holds) (sendBytes data : EStateM Error (Client π τ κ) Unit) :=
  preserves_checkConnected.bind fun _ =>
    Preserves.get.bind fun _ => preserves_asNode (lasting.sendBytes _ data)

theorem preserves_disconnect :
    Preserves (Having holds) (disconnect : EStateM Error (Client π τ κ) Unit) := by
  refine Preserves.get.bind fun client => ?_
  split
  · exact Preserves.pure _
  · refine Preserves.bind (Preserves.modify ?_) fun _ => ?_
    · exact fun _ first => first
    · exact (preserves_asNode (lasting.call .disconnect (.inl trivial))).bind fun _ =>
        preserves_asNode (lasting.call .stop (.inl trivial))

theorem having_fire (kind : EventKind) (data : Bytes) {client : Client π τ κ}
    (first : client.Having holds) : (client.fire kind data).Having holds :=
  lasting.fire kind _ first

variable [PacketType π]

theorem preserves_send (packet : π) :
    Preserves (Having holds) (send packet : EStateM Error (Client π τ κ) Unit) :=
  preserves_checkConnected.bind fun _ =>
    Preserves.get.bind fun _ => preserves_asNode (lasting.sendPacket _ packet)

theorem having_deliver (outgoing : Outgoing π) {client : Client π τ κ}
    (first : client.Having holds) : (client.deliver outgoing).Having holds :=
  preserves_send lasting outgoing.packet first

theorem having_message (data : Bytes) {client : Client π τ κ} (first : client.Having holds) :
    (client.message data).Having holds := by
  have delivered (outbox : List (Outgoing π)) {told : Client π τ κ} (holding : told.Having holds) :
      Having holds (outbox.foldl deliver told) := by
    induction outbox generalizing told with
    | nil => exact holding
    | cons outgoing rest ih => exact ih (having_deliver lasting outgoing holding)
  exact delivered _ (lasting.record _ (having_fire lasting _ _ first))

theorem having_handle (event : RawEvent) {client : Client π τ κ} (first : client.Having holds) :
    (client.handle event).Having holds := by
  unfold handle
  split
  · cases event with
    | connect peer =>
        have connected : Having holds { client with state := .connected } := first
        exact having_fire lasting _ _ connected
    | disconnect peer =>
        have disconnected : Having holds { client with state := .disconnected } := first
        exact having_fire lasting _ _ disconnected
    | receive peer channel flags data => exact having_message lasting data first
  · exact first

theorem having_handleAll (events : List RawEvent) {client : Client π τ κ}
    (first : client.Having holds) : (events.foldl handle client).Having holds := by
  induction events generalizing client with
  | nil => exact first
  | cons event rest ih => exact ih (having_handle lasting event first)

theorem preserves_poll : Preserves (Having holds) (poll : EStateM Error (Client π τ κ) Nat) :=
  (preserves_asNode lasting.poll).bind fun events =>
    (Preserves.modify fun _ => having_handleAll lasting events).bind fun _ => Preserves.pure _

end Client

end Courier

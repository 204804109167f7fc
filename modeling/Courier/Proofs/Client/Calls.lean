import Courier.Client
import Courier.Proofs.Server.Calls
import Courier.Proofs.Server.Sending

namespace Courier

/-! What the calls of a client come to, whatever its transport is. -/

namespace Client

variable {π τ κ : Type}

theorem attempt_asNode (operation : EStateM Error (Node π τ κ) β) (client : Client π τ κ) :
    attempt (asNode operation) client =
      { client with toNode := attempt operation client.toNode } := by
  simp only [attempt, asNode]
  cases operation client.toNode <;> rfl

/-- The server of a client, and a view of the rest. -/
def withServer (view : Node π τ κ → α) (client : Client π τ κ) : PeerHandle × α :=
  (client.server, view client.toNode)

theorem keeps_asNode {view : Node π τ κ → α} {operation : EStateM Error (Node π τ κ) β}
    (kept : Keeps view operation) : Keeps (withServer view) (asNode operation) := by
  intro client
  rw [attempt_asNode]
  exact congrArg (Prod.mk client.server) (kept client.toNode)

theorem keeps_state_asNode (operation : EStateM Error (Node π τ κ) β) :
    Keeps Client.state (asNode operation) := by
  intro client
  rw [attempt_asNode]

theorem checkConnected_of_connected {client : Client π τ κ}
    (connected : client.state = .connected) : checkConnected client = .ok () client := by
  simp only [checkConnected, Bind.bind, EStateM.bind, get_eq, isConnected, connected]
  rfl

theorem checkConnected_of_not_connected {client : Client π τ κ}
    (apart : client.state ≠ .connected) :
    checkConnected client = .error .notConnected client := by
  simp only [checkConnected, Bind.bind, EStateM.bind, get_eq, isConnected, apart, decide_false,
    Bool.not_false, if_true]
  rfl

theorem keeps_checkConnected (view : Client π τ κ → α) :
    Keeps view (checkConnected : EStateM Error (Client π τ κ) Unit) := by
  refine Keeps.get.bind fun client => ?_
  split
  · exact Keeps.throw _
  · exact Keeps.pure _

variable [Transport τ]

theorem sendBytes_of_not_connected {client : Client π τ κ} (apart : client.state ≠ .connected)
    (data : Bytes) : sendBytes data client = .error .notConnected client := by
  simp only [sendBytes, Bind.bind, EStateM.bind, checkConnected_of_not_connected apart]

theorem keeps_state_sendBytes (data : Bytes) :
    Keeps Client.state (sendBytes data : EStateM Error (Client π τ κ) Unit) :=
  (keeps_checkConnected _).bind fun _ => Keeps.get.bind fun _ => keeps_state_asNode _

theorem disconnect_of_disconnected {client : Client π τ κ} (gone : client.state = .disconnected) :
    disconnect client = .ok () client := by
  simp only [disconnect, Bind.bind, EStateM.bind, get_eq, gone, if_true]
  rfl

theorem disconnect_of_ok {client : Client π τ κ} (here : client.state ≠ .disconnected) {left : τ}
    (told : Transport.disconnect client.transport = .ok () left) :
    disconnect client = .ok () { client with
      state := .disconnected
      toNode := (((client.toNode.record [.called .disconnect]).withTransport left).record
        [.called .stop]).withTransport (Transport.stop left) } := by
  simp only [disconnect, Bind.bind, EStateM.bind, get_eq, here, if_false, modify_eq, asNode,
    Node.call, Node.perform, TransportCall.run, told]
  rfl

theorem disconnect_of_error {client : Client π τ κ} (here : client.state ≠ .disconnected) {left : τ}
    {error : TransportError} (untold : Transport.disconnect client.transport = .error error left) :
    disconnect client = .error (.transport error) { client with
      state := .disconnected
      toNode := (client.toNode.record [.called .disconnect]).withTransport left } := by
  simp only [disconnect, Bind.bind, EStateM.bind, get_eq, here, if_false, modify_eq, asNode,
    Node.call, Node.perform, TransportCall.run, untold]

/-- A client that has left once does nothing; one that cannot tell the server keeps its host. -/
theorem disconnect_cases (client : Client π τ κ) :
    let after := attempt disconnect client
    let left := attempt Transport.disconnect client.transport
    after.server = client.server ∧ after.state = .disconnected ∧
      (client.state = .disconnected ∧ after = client ∨
        client.state ≠ .disconnected ∧
          (after.transport = left ∨ after.transport = Transport.stop left)) := by
  by_cases gone : client.state = .disconnected
  · rw [attempt, disconnect_of_disconnected gone]
    exact ⟨rfl, gone, .inl ⟨gone, rfl⟩⟩
  · cases ran : Transport.disconnect client.transport with
    | ok value left =>
        rw [attempt, disconnect_of_ok gone ran, attempt, ran]
        exact ⟨rfl, rfl, .inr ⟨gone, .inr rfl⟩⟩
    | error error left =>
        rw [attempt, disconnect_of_error gone ran, attempt, ran]
        exact ⟨rfl, rfl, .inr ⟨gone, .inl rfl⟩⟩

/-- What no call changes, leaving does not change either. -/
theorem keeps_disconnect {view : Node π τ κ → α}
    (kept : ∀ call : TransportCall, Keeps view (Node.call call)) :
    Keeps (withServer view) disconnect := by
  refine Keeps.get.bind fun client => ?_
  split
  · exact Keeps.pure _
  · have noted : Keeps (withServer view)
        (modify fun client => { client with state := .disconnected } :
          EStateM Error (Client π τ κ) PUnit) := fun _ => rfl
    exact noted.bind fun _ => (keeps_asNode (kept .disconnect)).bind fun _ =>
      keeps_asNode (kept .stop)

/-- A client that has been made has made its three calls. -/
theorem calls_of_connect {node fresh : Node π τ κ} {client : Client π τ κ}
    (connected : connect node = .ok client fresh) :
    node.config.validate = .ok () ∧ client.state = .connecting ∧
      ∃ ready hosting : Node π τ κ, Node.call .start node = .ok () ready ∧
        Node.call (.createClient ready.config.channels) ready = .ok () hosting ∧
        Node.call (.connect ready.config.host ready.config.port ready.config.channels) hosting =
          .ok client.server client.toNode := by
  obtain ⟨_, checked, sound, starting⟩ := of_bind_eq_ok connected
  obtain ⟨_, ready, start, reading⟩ := of_bind_eq_ok starting
  obtain ⟨_, _, same, creating⟩ := of_bind_eq_ok reading
  cases same
  obtain ⟨_, hosting, created, dialling⟩ := of_bind_eq_ok creating
  obtain ⟨server, asked, dialled, reading⟩ := of_bind_eq_ok dialling
  obtain ⟨_, _, same, made⟩ := of_bind_eq_ok reading
  cases same
  cases made
  obtain ⟨valid, rfl⟩ := Node.of_check_eq_ok sound
  exact ⟨valid, rfl, ready, hosting, start, created, dialled⟩

/-- A client begins as the node that it is made of, waiting for the server. -/
theorem begun_of_connect {node fresh : Node π τ κ} {client : Client π τ κ}
    (connected : connect node = .ok client fresh) :
    node.config.validate = .ok () ∧ client.config = node.config ∧
      client.registry = node.registry ∧ client.state = .connecting ∧
      ∃ started made : τ, Transport.start node.transport = .ok () started ∧
        Transport.createClient node.config.channels started = .ok () made ∧
        Transport.connect node.config.host node.config.port node.config.channels made =
          .ok client.server client.transport := by
  obtain ⟨valid, waiting, ready, hosting, start, created, dialled⟩ := calls_of_connect connected
  obtain ⟨startRan, startConfig, startRegistry⟩ := Node.of_call_eq_ok start
  obtain ⟨createRan, createConfig, createRegistry⟩ := Node.of_call_eq_ok created
  obtain ⟨askRan, askConfig, askRegistry⟩ := Node.of_call_eq_ok dialled
  rw [startConfig] at createRan createConfig askRan
  exact ⟨valid, askConfig.trans createConfig,
    askRegistry.trans (createRegistry.trans startRegistry), waiting, _, _, startRan, createRan,
    askRan⟩

/-- What no call changes is as it was in the node that a client is made of. -/
theorem view_of_connect {view : Node π τ κ → α}
    (kept : ∀ call : TransportCall, Keeps view (Node.call call)) {node fresh : Node π τ κ}
    {client : Client π τ κ} (connected : connect node = .ok client fresh) :
    view client.toNode = view node := by
  obtain ⟨-, -, ready, hosting, start, created, dialled⟩ := calls_of_connect connected
  calc view client.toNode = view hosting := (kept (.connect ..)).of_eq_ok dialled
    _ = view ready := (kept (.createClient _)).of_eq_ok created
    _ = view node := (kept .start).of_eq_ok start

variable [PacketType π]

theorem send_of_not_connected {client : Client π τ κ} (apart : client.state ≠ .connected)
    (packet : π) : send packet client = .error .notConnected client := by
  simp only [send, Bind.bind, EStateM.bind, checkConnected_of_not_connected apart]

theorem keeps_state_send (packet : π) :
    Keeps Client.state (send packet : EStateM Error (Client π τ κ) Unit) :=
  (keeps_checkConnected _).bind fun _ => Keeps.get.bind fun _ => keeps_state_asNode _

theorem poll_of_receive {client : Client π τ κ} {events : List RawEvent} {node : Node π τ κ}
    (received : Node.poll client.toNode = .ok events node) :
    poll client = .ok events.length (events.foldl handle { client with toNode := node }) := by
  simp only [poll, Bind.bind, EStateM.bind, asNode, received]
  rfl

theorem attempt_poll_of_receive {client : Client π τ κ} {events : List RawEvent}
    {node : Node π τ κ} (received : Node.poll client.toNode = .ok events node) :
    attempt poll client = events.foldl handle { client with toNode := node } := by
  rw [attempt, poll_of_receive received]

theorem poll_of_error {client : Client π τ κ} {error : Error} {node : Node π τ κ}
    (failed : Node.poll client.toNode = .error error node) :
    poll client = .error error { client with toNode := node } := by
  simp only [poll, Bind.bind, EStateM.bind, asNode, failed]

theorem attempt_poll_of_error {client : Client π τ κ} {error : Error} {node : Node π τ κ}
    (failed : Node.poll client.toNode = .error error node) :
    attempt poll client = { client with toNode := node } := by
  rw [attempt, poll_of_error failed]

end Client

namespace Node.IgnoresSending

variable {π τ κ : Type} [Transport τ] {view : Node π τ κ → α} {other : Node π τ κ → β}

theorem prod (first : IgnoresSending view) (second : IgnoresSending other) :
    IgnoresSending fun node => (view node, other node) where
  scratch node scratch := Prod.ext (first.scratch node scratch) (second.scratch node scratch)
  send peer channel data flags node :=
    Prod.ext (first.send peer channel data flags node) (second.send peer channel data flags node)

theorem clientSendBytes (ignores : IgnoresSending view) (data : Bytes) :
    Keeps (Client.withServer view) (Client.sendBytes data) :=
  (Client.keeps_checkConnected _).bind fun _ => Keeps.get.bind fun _ =>
    Client.keeps_asNode (ignores.sendBytes _ data)

variable [PacketType π]

theorem clientSend (ignores : IgnoresSending view) (packet : π) :
    Keeps (Client.withServer view) (Client.send packet) :=
  (Client.keeps_checkConnected _).bind fun _ => Keeps.get.bind fun _ =>
    Client.keeps_asNode (ignores.sendPacket _ packet)

theorem clientDeliver (ignores : IgnoresSending view) (outbox : List (Outgoing π))
    (client : Client π τ κ) :
    Client.withServer view (outbox.foldl Client.deliver client) =
      Client.withServer view client := by
  induction outbox generalizing client with
  | nil => rfl
  | cons outgoing rest ih => exact (ih _).trans (ignores.clientSend outgoing.packet client)

end Node.IgnoresSending

namespace Client

variable {π τ κ : Type} [Transport τ] [PacketType π]

theorem state_deliver (outbox : List (Outgoing π)) (client : Client π τ κ) :
    (outbox.foldl deliver client).state = client.state := by
  induction outbox generalizing client with
  | nil => rfl
  | cons outgoing rest ih => exact (ih _).trans (keeps_state_send outgoing.packet client)

theorem handle_of_other {client : Client π τ κ} {event : RawEvent}
    (other : event.peer ≠ client.server) : client.handle event = client :=
  if_neg other

/-- What neither sending nor recording changes is left by a batch as it was. -/
theorem withServer_handleAll {view : Node π τ κ → α} (ignores : Node.IgnoresSending view)
    (unrecorded : ∀ (node : Node π τ κ) acts, view (node.record acts) = view node)
    (events : List RawEvent) (client : Client π τ κ) :
    withServer view (events.foldl handle client) = withServer view client := by
  induction events generalizing client with
  | nil => rfl
  | cons event rest ih =>
      refine (ih _).trans ?_
      have told (kind : EventKind) (data : Bytes) (client : Client π τ κ) :
          withServer view (client.fire kind data) = withServer view client :=
        congrArg (Prod.mk client.server) (unrecorded _ _)
      unfold handle
      split
      · cases event with
        | connect peer => exact told .connect [] { client with state := .connected }
        | disconnect peer => exact told .disconnect [] { client with state := .disconnected }
        | receive peer channel flags data =>
            refine (ignores.clientDeliver _ _).trans (Eq.trans ?_ (told .message data client))
            exact congrArg (Prod.mk client.server) (unrecorded _ _)
      · rfl

end Client

end Courier

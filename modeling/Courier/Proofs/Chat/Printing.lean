import Courier.Proofs.Chat.Relays
import Courier.Proofs.Client.Calls

namespace Courier

/-! What a client has processed is what it has printed: one line for each relay, and no other line
is the line of a relay. -/

def Act.line? : Act κ → Option String
  | .printed line => some line
  | _ => none

namespace Node

variable {π τ κ : Type}

def printed (node : Node π τ κ) : List String :=
  node.acts.filterMap Act.line?

def relays (node : Node π τ κ) : List Relay :=
  node.printed.filterMap relayOf?

theorem relays_of_shown {node : Node π τ κ} {relays : List Relay}
    (printed : node.printed = relays.map shown) : node.relays = relays := by
  have reads : relayOf? ∘ shown = some := funext relayOf?_shown
  rw [Node.relays, printed, List.filterMap_map, reads, List.filterMap_some]

theorem printed_record (node : Node π τ κ) (acts : List (Act κ)) :
    (node.record acts).printed = node.printed ++ acts.filterMap Act.line? :=
  List.filterMap_append

theorem printed_fire (node : Node π τ κ) (kind : EventKind) (event : NetEvent) :
    (node.fire kind event).printed = node.printed := by
  rw [fire, printed_record, List.filterMap_map]
  refine (congrArg (node.printed ++ ·) ?_).trans (List.append_nil _)
  exact List.filterMap_eq_nil_iff.mpr fun _ _ => rfl

theorem relays_fire (node : Node π τ κ) (kind : EventKind) (event : NetEvent) :
    (node.fire kind event).relays = node.relays :=
  congrArg (List.filterMap relayOf?) (printed_fire node kind event)

theorem printed_process [PacketType π] (node : Node π τ κ) (peer : PeerHandle)
    (user : Option UserId) (message : Bytes) :
    (node.process peer user message).2.printed =
      node.printed ++ (handleMessage node.registry peer user message).printed := by
  rw [process, printed_record, List.filterMap_map]
  exact congrArg (node.printed ++ ·) List.filterMap_some

/-- A message is processed as the relay that is read in it, once, and as none if it is another. -/
theorem relays_process (node : Node ChatPacket τ κ) (peer : PeerHandle) (user : Option UserId)
    (message : Bytes) :
    (node.process peer user message).2.relays =
      node.relays ++ (ChatPacket.relayIn? node.registry message).toList := by
  rw [relays, printed_process, List.filterMap_append, ChatPacket.relays_handleMessage]
  rfl

variable [Transport τ]

theorem keeps_relays_call (call : TransportCall) :
    Keeps relays (Node.call call : EStateM Error (Node π τ κ) call.Answer) := by
  intro node
  rw [attempt_call]
  have printed : (node.record [.called call]).printed = node.printed :=
    (printed_record node [.called call]).trans (List.append_nil _)
  exact congrArg (List.filterMap relayOf?) printed

theorem keeps_registry_call (call : TransportCall) :
    Keeps registry (Node.call call : EStateM Error (Node π τ κ) call.Answer) := by
  intro node
  rw [attempt_call]
  rfl

end Node

/-- The relay in an event. Events of other peers are passed over. -/
def RawEvent.relay? (server : PeerHandle) (registry : PacketRegistry ChatPacket) :
    RawEvent → Option Relay
  | .receive peer _ _ data => if peer = server then ChatPacket.relayIn? registry data else none
  | _ => none

def relaysOf (server : PeerHandle) (registry : PacketRegistry ChatPacket)
    (events : List RawEvent) : List Relay :=
  events.filterMap (RawEvent.relay? server registry)

namespace Client

variable {τ κ : Type} [Transport τ]

theorem ignoresSending_account :
    Node.IgnoresSending fun node : Node ChatPacket τ κ => (node.registry, node.relays) :=
  Node.IgnoresSending.prod
    ⟨fun _ _ => rfl, fun _ _ _ _ => Node.keeps_registry_call _⟩
    ⟨fun _ _ => rfl, fun _ _ _ _ => Node.keeps_relays_call _⟩

/-- A client with what it knows and what it has processed. -/
def account (client : Client ChatPacket τ κ) :
    PeerHandle × PacketRegistry ChatPacket × List Relay :=
  client.withServer fun node => (node.registry, node.relays)

theorem account_message (client : Client ChatPacket τ κ) (data : Bytes) :
    (client.message data).account =
      (client.server, client.registry,
        client.relays ++ (ChatPacket.relayIn? client.registry data).toList) := by
  refine (ignoresSending_account.clientDeliver _ _).trans ?_
  have told := Node.relays_fire client.toNode .message
    { peer := client.server, user := none, data }
  have processed := Node.relays_process (client.fire .message data).toNode client.server none data
  rw [← told]
  exact congrArg (fun relays => (client.server, client.registry, relays)) processed

theorem account_handle (client : Client ChatPacket τ κ) (event : RawEvent) :
    (client.handle event).account =
      (client.server, client.registry,
        client.relays ++ (event.relay? client.server client.registry).toList) := by
  have unread {after : Client ChatPacket τ κ} (same : after.account = client.account) :
      after.account = (client.server, client.registry, client.relays ++ []) := by
    rw [List.append_nil]
    exact same
  have fired (kind : EventKind) (state : ClientState) :
      ({ client with state }.fire kind []).account = client.account :=
    congrArg (fun relays => (client.server, client.registry, relays)) (Node.relays_fire _ _ _)
  unfold handle
  split
  · next own =>
    cases event with
    | connect peer => exact unread (fired .connect .connected)
    | disconnect peer => exact unread (fired .disconnect .disconnected)
    | receive peer channel flags data =>
        obtain rfl : peer = client.server := own
        rw [RawEvent.relay?, if_pos rfl]
        exact account_message client data
  · next other =>
    have passed : event.relay? client.server client.registry = none := by
      cases event with
      | receive peer => exact if_neg other
      | _ => rfl
    rw [passed]
    exact unread rfl

/-- A batch is processed as the relays in its events, in their order. -/
theorem account_handleAll (client : Client ChatPacket τ κ) (events : List RawEvent) :
    (events.foldl handle client).account =
      (client.server, client.registry,
        client.relays ++ relaysOf client.server client.registry events) := by
  induction events generalizing client with
  | nil =>
      rw [relaysOf, List.filterMap_nil, List.append_nil]
      rfl
  | cons event rest ih =>
      obtain ⟨server, account⟩ := Prod.mk.inj (account_handle client event)
      obtain ⟨registry, relays⟩ := Prod.mk.inj account
      refine (ih _).trans ?_
      rw [server, registry, relays, List.append_assoc, relaysOf, relaysOf, List.filterMap_cons]
      cases event.relay? client.server client.registry <;> rfl

theorem relays_poll_of_receive {client : Client ChatPacket τ κ} {events : List RawEvent}
    {node : Node ChatPacket τ κ} (received : Node.poll client.toNode = .ok events node) :
    (attempt poll client).relays =
      client.relays ++ relaysOf client.server client.registry events := by
  have relays : node.relays = client.relays :=
    (Node.keeps_poll Node.keeps_relays_call).of_eq_ok received
  have registry : node.registry = client.registry :=
    (Node.keeps_poll Node.keeps_registry_call).of_eq_ok received
  rw [attempt_poll_of_receive received, ← relays, ← registry]
  exact congrArg (fun account => account.2.2)
    (account_handleAll { client with toNode := node } events)

theorem relays_poll_of_error {client : Client ChatPacket τ κ} {error : Error}
    {node : Node ChatPacket τ κ} (failed : Node.poll client.toNode = .error error node) :
    (attempt poll client).relays = client.relays := by
  have kept := Node.keeps_poll Node.keeps_relays_call client.toNode
  rw [attempt, failed] at kept
  rw [attempt_poll_of_error failed]
  exact kept

theorem relays_send (packet : ChatPacket) (client : Client ChatPacket τ κ) :
    (attempt (send packet) client).relays = client.relays :=
  congrArg (fun account => account.2.2) (ignoresSending_account.clientSend packet client)

theorem relays_sendBytes (data : Bytes) (client : Client ChatPacket τ κ) :
    (attempt (sendBytes data) client).relays = client.relays :=
  congrArg (fun account => account.2.2) (ignoresSending_account.clientSendBytes data client)

theorem relays_disconnect (client : Client ChatPacket τ κ) :
    (attempt disconnect client).relays = client.relays :=
  congrArg Prod.snd (keeps_disconnect Node.keeps_relays_call client)

/-- A client that has just been made has processed what its node has. -/
theorem relays_connect {node fresh : Node ChatPacket τ κ} {client : Client ChatPacket τ κ}
    (connected : connect node = .ok client fresh) : client.relays = node.relays :=
  view_of_connect Node.keeps_relays_call connected

end Client

end Courier

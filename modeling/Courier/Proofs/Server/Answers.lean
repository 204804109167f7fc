import Courier.Proofs.Refusals

namespace Courier

/-! What a server asks of its transport, in order, and what it asks for when it answers a message.
-/

namespace TransportCall

variable {τ : Type} [Transport τ]

/-- One call after the other, whatever comes of each. -/
def runAll (calls : List TransportCall) (transport : τ) : τ :=
  calls.foldl (fun transport call => attempt call.run transport) transport

theorem runAll_append (first second : List TransportCall) (transport : τ) :
    runAll (first ++ second) transport = runAll second (runAll first transport) :=
  List.foldl_append

end TransportCall

def Act.call? : Act κ → Option TransportCall
  | .called call => some call
  | _ => none

namespace Node

variable {π τ κ : Type}

def calls (node : Node π τ κ) : List TransportCall :=
  node.acts.filterMap Act.call?

theorem calls_record (node : Node π τ κ) (acts : List (Act κ)) :
    (node.record acts).calls = node.calls ++ acts.filterMap Act.call? :=
  List.filterMap_append

variable [Transport τ]

/-- From one node to the other these calls are made. Each is recorded, and does what it does to the
transport that the ones before have left, whether they have succeeded or not. -/
structure Makes (before : Node π τ κ) (calls : List TransportCall) (after : Node π τ κ) : Prop where
  recorded : after.calls = before.calls ++ calls
  carried : after.transport = TransportCall.runAll calls before.transport

namespace Makes

theorem refl (node : Node π τ κ) : node.Makes [] node where
  recorded := (List.append_nil _).symm
  carried := rfl

theorem trans {before middle after : Node π τ κ} {first second : List TransportCall}
    (one : before.Makes first middle) (other : middle.Makes second after) :
    before.Makes (first ++ second) after where
  recorded := by rw [other.recorded, one.recorded, List.append_assoc]
  carried := by rw [other.carried, one.carried, TransportCall.runAll_append]

theorem call (call : TransportCall) (node : Node π τ κ) :
    node.Makes [call] (attempt (Node.call call) node) where
  recorded := by
    rw [attempt_call]
    exact calls_record node [.called call]
  carried := transport_call call node

theorem record (node : Node π τ κ) {acts : List (Act κ)}
    (silent : ∀ act ∈ acts, act.call? = none) : node.Makes [] (node.record acts) where
  recorded := by rw [calls_record, List.filterMap_eq_nil_iff.mpr silent]
  carried := rfl

theorem fire (node : Node π τ κ) (kind : EventKind) (event : NetEvent) :
    node.Makes [] (node.fire kind event) := by
  refine record node fun act ran => ?_
  obtain ⟨run, -, rfl⟩ := List.mem_map.mp ran
  rfl

theorem process [PacketType π] (node : Node π τ κ) (peer : PeerHandle) (user : Option UserId)
    (message : Bytes) : node.Makes [] (node.process peer user message).2 := by
  refine record node fun act printed => ?_
  obtain ⟨line, -, rfl⟩ := List.mem_map.mp printed
  rfl

end Makes

theorem ignoresSending_config : IgnoresSending (Node.config : Node π τ κ → Config) where
  scratch _ _ := rfl
  send peer channel data flags node := by
    rw [attempt_call]
    rfl

/-- How the bytes of a packet go to a peer. -/
def sendOf (config : Config) (form : Bytes) (peer : PeerHandle) : TransportCall :=
  .send peer config.sendChannel form .reliable

/-- A packet goes to each of the peers as it is written; one that cannot be written goes to
nobody. -/
def lettersTo [PacketType π] (config : Config) (packet : π) (peers : List PeerHandle) :
    List TransportCall :=
  match wireForm packet with
  | .ok form => peers.map (sendOf config form)
  | .error _ => []

namespace Makes

theorem sendBytes (peer : PeerHandle) (data : Bytes) (node : Node π τ κ) :
    node.Makes [sendOf node.config data peer] (attempt (Node.sendBytes peer data) node) :=
  call (sendOf node.config data peer) node

/-- Everyone is sent to once, whoever can be reached. -/
theorem sendEach (data : Bytes) (peers : List PeerHandle) (node : Node π τ κ) :
    node.Makes (peers.map (sendOf node.config data)) (Node.sendEach data peers node).2 := by
  induction peers generalizing node with
  | nil => exact refl node
  | cons peer rest ih =>
      have later (after : Node π τ κ) (reached : attempt (Node.sendBytes peer data) node = after) :
          node.Makes ((peer :: rest).map (sendOf node.config data))
            (Node.sendEach data rest after).2 := by
        have first := sendBytes peer data node
        have same := ignoresSending_config.sendBytes peer data node
        rw [reached] at first same
        exact first.trans (same ▸ ih after)
      rw [Node.sendEach]
      cases sent : Node.sendBytes peer data node with
      | ok value after => exact later after (by rw [attempt, sent])
      | error error after => exact later after (by rw [attempt, sent])

variable [PacketType π]

theorem sendPacket (peer : PeerHandle) (packet : π) (node : Node π τ κ) :
    node.Makes (lettersTo node.config packet [peer])
      (attempt (Node.sendPacket peer packet) node) := by
  rw [lettersTo]
  rcases encode_cases packet node with
    ⟨form, scratch, written, encoded⟩ | ⟨error, scratch, refused, failed⟩
  · have sends : Node.sendPacket peer packet node =
        Node.sendBytes peer form { node with scratch } := by
      simp only [Node.sendPacket, Bind.bind, EStateM.bind, encoded]
    rw [attempt_congr sends, written]
    obtain ⟨recorded, carried⟩ := sendBytes peer form { node with scratch }
    exact ⟨recorded, carried⟩
  · simp only [attempt, Node.sendPacket, Bind.bind, EStateM.bind, failed, refused]
    obtain ⟨recorded, carried⟩ := refl node
    exact ⟨recorded, carried⟩

end Makes

end Node

namespace Server

variable {π τ κ : Type}

def calls (server : Server π τ κ) : List TransportCall :=
  server.toNode.calls

/-- Those who are sent an answer to a message of the origin: the origin, or all who hold an id. -/
def recipients (server : Server π τ κ) (origin : PeerHandle) : Outgoing π → List PeerHandle
  | .reply _ => [origin]
  | .broadcast _ => server.users.entries.map (·.2)

variable [PacketType π]

/-- An answer that cannot be written is sent to nobody. -/
def sendsOf (server : Server π τ κ) (origin : PeerHandle) (outgoing : Outgoing π) :
    List TransportCall :=
  match wireForm outgoing.packet with
  | .ok form => (server.recipients origin outgoing).map (Node.sendOf server.config form)
  | .error _ => []

theorem sendsOf_congr {server other : Server π τ κ} (users : server.users = other.users)
    (config : server.config = other.config) (origin : PeerHandle) :
    server.sendsOf origin = other.sendsOf origin := by
  funext outgoing
  have same : server.recipients origin outgoing = other.recipients origin outgoing := by
    cases outgoing with
    | reply packet => rfl
    | broadcast packet => simp only [recipients, users]
  simp only [sendsOf, same, config]

variable [Transport τ]

/-- What a server does makes these calls. -/
abbrev Makes (before : Server π τ κ) (calls : List TransportCall) (after : Server π τ κ) : Prop :=
  before.toNode.Makes calls after.toNode

theorem makes_sendToPeer (peer : PeerHandle) (packet : π) (server : Server π τ κ) :
    server.Makes (Node.lettersTo server.config packet [peer])
      (attempt (sendToPeer peer packet) server) := by
  rw [sendToPeer, attempt_asNode]
  exact Node.Makes.sendPacket peer packet server.toNode

theorem makes_broadcast (packet : π) (server : Server π τ κ) :
    server.Makes (Node.lettersTo server.config packet (server.users.entries.map (·.2)))
      (attempt (broadcast packet) server) := by
  rw [Node.lettersTo]
  rcases Node.encode_cases packet server.toNode with
    ⟨form, scratch, written, encoded⟩ | ⟨error, scratch, refused, failed⟩
  · simp only [attempt, broadcast, Bind.bind, EStateM.bind, asNode, encoded, written]
    obtain ⟨recorded, carried⟩ :=
      Node.Makes.sendEach form server.activePeers { server.toNode with scratch }
    exact ⟨recorded, carried⟩
  · simp only [attempt, broadcast, Bind.bind, EStateM.bind, asNode, failed, refused]
    obtain ⟨recorded, carried⟩ := Node.Makes.refl server.toNode
    exact ⟨recorded, carried⟩

theorem makes_deliver (origin : PeerHandle) (outgoing : Outgoing π) (server : Server π τ κ) :
    server.Makes (server.sendsOf origin outgoing) (deliver origin outgoing server) := by
  cases outgoing with
  | reply packet => exact makes_sendToPeer origin packet server
  | broadcast packet => exact makes_broadcast packet server

theorem sendsOf_deliver (origin other : PeerHandle) (outgoing : Outgoing π)
    (server : Server π τ κ) :
    (deliver origin outgoing server).sendsOf other = server.sendsOf other := by
  have same := Node.ignoresSending_config.deliver origin [outgoing] server
  exact sendsOf_congr (congrArg Prod.fst same) (congrArg Prod.snd same) other

/-- One answer after the other is sent to those it is for, whatever comes of the others. -/
theorem makes_deliverAll (origin : PeerHandle) (outbox : List (Outgoing π))
    (server : Server π τ κ) :
    server.Makes (outbox.flatMap (server.sendsOf origin))
      (outbox.foldl (fun server outgoing => deliver origin outgoing server) server) := by
  induction outbox generalizing server with
  | nil => exact .refl server.toNode
  | cons outgoing rest ih =>
      have later := ih (deliver origin outgoing server)
      rw [sendsOf_deliver] at later
      exact (makes_deliver origin outgoing server).trans later

/-- A message is answered as the user that its origin is when it arrives. -/
theorem makes_message (server : Server π τ κ) (peer : PeerHandle) (message : Bytes) :
    server.Makes
      ((handleMessage server.registry peer (server.users.user? peer) message).outbox.flatMap
        (server.sendsOf peer)) (server.message peer message) := by
  let user := server.users.user? peer
  let told := server.fire .message { peer, user, data := message }
  let handled := { told with toNode := (told.toNode.process peer user message).2 }
  have silent : server.Makes [] handled :=
    (Node.Makes.fire server.toNode ..).trans (.process told.toNode peer user message)
  have same : handled.sendsOf peer = server.sendsOf peer := sendsOf_congr rfl rfl peer
  rw [← same]
  exact silent.trans (makes_deliverAll peer _ handled)

theorem calls_message (server : Server π τ κ) (peer : PeerHandle) (message : Bytes) :
    (server.message peer message).calls = server.calls ++
      (handleMessage server.registry peer (server.users.user? peer) message).outbox.flatMap
        (server.sendsOf peer) :=
  (makes_message server peer message).recorded

end Server

end Courier

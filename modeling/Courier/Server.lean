import Courier.Node
import Courier.Users.Table

namespace Courier

/-- A server gives a user id to every peer that connects, tells the application what happens, and
lets every message act. -/
structure Server (π τ κ : Type) extends Node π τ κ where
  users : UserTable
  running : Bool := true

namespace Server

variable {π τ κ : Type} [PacketType π] [Transport τ]

def onNode (change : Node π τ κ → Node π τ κ) (server : Server π τ κ) : Server π τ κ :=
  { server with toNode := change server.toNode }

def asNode (operation : EStateM Error (Node π τ κ) α) : EStateM Error (Server π τ κ) α :=
  fun server =>
    match operation server.toNode with
    | .ok value node => .ok value { server with toNode := node }
    | .error error node => .error error { server with toNode := node }

def withTransport (server : Server π τ κ) (transport : σ) : Server π σ κ :=
  { server.toNode.withTransport transport with users := server.users, running := server.running }

def fire (server : Server π τ κ) (kind : EventKind) (event : NetEvent) : Server π τ κ :=
  server.onNode (·.fire kind event)

def ofNode (node : Node π τ κ) : Server π τ κ :=
  { node with users := node.config.userTable }

def build : EStateM Error (Node π τ κ) (Server π τ κ) := do
  Node.check
  Node.call .start
  let config := (← get).config
  Node.call (.createServer config.host config.port config.channels config.maxPeers.toNat)
  return ofNode (← get)

/-- The bound address, or the configured one while there is no host. -/
def localAddress (server : Server π τ κ) : Option SocketAddress :=
  Transport.localAddress server.transport

def address (server : Server π τ κ) : String :=
  server.localAddress.elim server.config.address toString

def peerOf (user : UserId) : EStateM Error (Server π τ κ) PeerHandle := fun server =>
  match server.users.peer user with
  | .ok peer => .ok peer server
  | .error error => .error (.session error) server

def sendToPeer (peer : PeerHandle) (packet : π) : EStateM Error (Server π τ κ) Unit :=
  asNode (Node.sendPacket peer packet)

def sendTo (user : UserId) (packet : π) : EStateM Error (Server π τ κ) Unit := do
  sendToPeer (← peerOf user) packet

def activePeers (server : Server π τ κ) : List PeerHandle :=
  server.users.entries.map (·.2)

def sendToAll (data : Bytes) : StateM (Server π τ κ) Nat := fun server =>
  let (delivered, node) := server.toNode.sendEach data server.activePeers
  (delivered, { server with toNode := node })

/-- A packet is encoded once and goes to every user in the order of their ids; what is counted are
the users that could be sent to. -/
def broadcast (packet : π) : EStateM Error (Server π τ κ) Nat := do
  let data ← asNode (Node.encode packet)
  always (sendToAll data)

def deliver (origin : PeerHandle) (outgoing : Outgoing π) : Server π τ κ → Server π τ κ :=
  match outgoing with
  | .reply packet => attempt (sendToPeer origin packet)
  | .broadcast packet => attempt (broadcast packet)

def refuse (server : Server π τ κ) (peer : PeerHandle) : Server π τ κ :=
  server.onNode (attempt (Node.call (.disconnectPeer peer)))

/-- A peer that holds an id already is not admitted again, and one for which there is no id is sent
away without a word to the application. -/
def join (server : Server π τ κ) (peer : PeerHandle) : Server π τ κ :=
  match server.users.acquire peer with
  | (.ok user, users) => { server with users }.fire .connect { peer, user := some user }
  | (.error (.alreadyAcquired _), _) => server
  | (.error _, _) => server.refuse peer

def leave (server : Server π τ κ) (peer : PeerHandle) : Server π τ κ :=
  let (user, users) := server.users.releasePeer peer
  { server with users }.fire .disconnect { peer, user }

def message (server : Server π τ κ) (peer : PeerHandle) (data : Bytes) : Server π τ κ :=
  let user := server.users.user? peer
  let told := server.fire .message { peer, user, data }
  let (outbox, node) := told.toNode.process peer user data
  outbox.foldl (fun server outgoing => deliver peer outgoing server) { told with toNode := node }

def handle (server : Server π τ κ) : RawEvent → Server π τ κ
  | .connect peer => server.join peer
  | .disconnect peer => server.leave peer
  | .receive peer _ _ data => server.message peer data

def handleAll (server : Server π τ κ) (events : List RawEvent) : Server π τ κ :=
  events.foldl handle server

def poll : EStateM Error (Server π τ κ) Nat := do
  let events ← asNode Node.poll
  modify (·.handleAll events)
  return events.length

/-- A user is sent away. The id is free again even if the peer cannot be told. -/
def kick (user : UserId) : EStateM Error (Server π τ κ) Unit := do
  let peer ← peerOf user
  modify fun server => { server with users := (server.users.release user).2 }
  modify (·.refuse peer)
  modify (·.fire .disconnect { peer, user := some user })

/-- The end: everyone is told, every id is free again, and the host is gone. -/
def shutdown (server : Server π τ κ) : Server π τ κ :=
  if server.running then
    let told := { server with running := false }.onNode (attempt (Node.call .disconnect))
    { told with users := told.users.clear }.onNode (attempt (Node.call .stop))
  else server

/-- Only the loss of the host stops a run with an error; after any other failed poll it waits and
goes on. -/
def isFatal : Error → Bool
  | .transport .noHost | .transport .notStarted => true
  | _ => false

def await [Interruptible τ] (timeout : Nat) :
    EStateM Error (Server π τ κ) (Option (List RawEvent)) :=
  asNode (Node.perform (.poll timeout) (Interruptible.await timeout))

def sleep [Interruptible τ] (server : Server π τ κ) (time : Nat) : Server π τ κ :=
  server.onNode fun node => node.withTransport (Interruptible.sleep time node.transport)

def runUntil [Interruptible τ] : (rounds : Nat) → EStateM Error (Server π τ κ) Unit
  | 0, server => .ok () server
  | rounds + 1, server =>
    if !server.running then .ok () server
    else
      match await server.pollTimeout server with
      | .ok none server => .ok () server.shutdown
      | .ok (some events) server => runUntil rounds (server.handleAll events)
      | .error error server =>
        if isFatal error then .error error server
        else runUntil rounds (server.sleep server.pollTimeout)

end Server

end Courier

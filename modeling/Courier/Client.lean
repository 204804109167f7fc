import Courier.Node

namespace Courier

/-! A client has exactly one peer, the server. It is connecting from the start, connected once the
server has accepted it, and disconnected once either of them has left. -/

inductive ClientState where
  | connecting
  | connected
  | disconnected
deriving DecidableEq, Repr

structure Client (π τ κ : Type) extends Node π τ κ where
  server : PeerHandle
  state : ClientState := .connecting

namespace Client

variable {π τ κ : Type} [PacketType π] [Transport τ]

def onNode (change : Node π τ κ → Node π τ κ) (client : Client π τ κ) : Client π τ κ :=
  { client with toNode := change client.toNode }

def asNode (operation : EStateM Error (Node π τ κ) α) : EStateM Error (Client π τ κ) α :=
  fun client =>
    match operation client.toNode with
    | .ok value node => .ok value { client with toNode := node }
    | .error error node => .error error { client with toNode := node }

def withTransport (client : Client π τ κ) (transport : σ) : Client π σ κ :=
  { client.toNode.withTransport transport with server := client.server, state := client.state }

def fire (client : Client π τ κ) (kind : EventKind) (data : Bytes) : Client π τ κ :=
  client.onNode (·.fire kind { peer := client.server, user := none, data })

def isConnecting (client : Client π τ κ) : Bool :=
  client.state = .connecting

def isConnected (client : Client π τ κ) : Bool :=
  client.state = .connected

/-- Connecting is done when the request is sent; the server's answer comes with a later poll. -/
def connect : EStateM Error (Node π τ κ) (Client π τ κ) := do
  Node.check
  Node.call .start
  let config := (← get).config
  Node.call (.createClient config.channels)
  let server : PeerHandle ← Node.call (.connect config.host config.port config.channels)
  return { (← get) with server }

def checkConnected : EStateM Error (Client π τ κ) Unit := do
  if !(← get).isConnected then throw .notConnected

def send (packet : π) : EStateM Error (Client π τ κ) Unit := do
  checkConnected
  asNode (Node.sendPacket (← get).server packet)

def sendBytes (data : Bytes) : EStateM Error (Client π τ κ) Unit := do
  checkConnected
  asNode (Node.sendBytes (← get).server data)

/-- Whatever a message queues goes to the server, also what is meant for everyone. -/
def deliver (client : Client π τ κ) (outgoing : Outgoing π) : Client π τ κ :=
  attempt (send outgoing.packet) client

def message (client : Client π τ κ) (data : Bytes) : Client π τ κ :=
  let told := client.fire .message data
  let (outbox, node) := told.toNode.process told.server none data
  outbox.foldl deliver { told with toNode := node }

def handle (client : Client π τ κ) (event : RawEvent) : Client π τ κ :=
  if event.peer = client.server then
    match event with
    | .connect _ => { client with state := .connected }.fire .connect []
    | .disconnect _ => { client with state := .disconnected }.fire .disconnect []
    | .receive _ _ _ data => client.message data
  else client

def poll : EStateM Error (Client π τ κ) Nat := do
  let events ← asNode Node.poll
  modify fun client => events.foldl handle client
  return events.length

/-- Leaving once is enough. If the server cannot be told, the host stays. -/
def disconnect : EStateM Error (Client π τ κ) Unit := do
  if (← get).state = .disconnected then
    return ()
  modify fun client => { client with state := .disconnected }
  asNode (Node.call .disconnect)
  asNode (Node.call .stop)

end Client

end Courier

import Courier.Error
import Courier.Events
import Courier.Packet.Dispatch
import Courier.Transport.Call

namespace Courier

/-! A node is what a server and a client have in common: a transport, the packets it understands,
the application's callbacks, and a buffer in which every outgoing packet is encoded. Whatever it
does outside of itself it also records. -/

inductive Act (κ : Type) where
  | called (call : TransportCall)
  | ran (kind : EventKind) (callback : κ) (event : NetEvent)
  | printed (line : String)
deriving DecidableEq, Repr

structure Node (π τ κ : Type) where
  transport : τ
  config : Config := {}
  registry : PacketRegistry π := .empty
  handlers : EventHandlers κ := .empty
  scratch : Writer := {}
  acts : List (Act κ) := []

namespace Node

variable {π τ κ : Type} [PacketType π] [Transport τ]

def record (node : Node π τ κ) (acts : List (Act κ)) : Node π τ κ :=
  { node with acts := node.acts ++ acts }

def withTransport (node : Node π τ κ) (transport : σ) : Node π σ κ :=
  { transport
    config := node.config
    registry := node.registry
    handlers := node.handlers
    scratch := node.scratch
    acts := node.acts }

/-- A call is recorded when it is made, whether it succeeds or not. -/
def perform (call : TransportCall) (operation : EStateM TransportError τ α) :
    EStateM Error (Node π τ κ) α := fun node =>
  match operation node.transport with
  | .ok value transport => .ok value ((node.record [.called call]).withTransport transport)
  | .error error transport =>
    .error (.transport error) ((node.record [.called call]).withTransport transport)

def call (call : TransportCall) : EStateM Error (Node π τ κ) call.Answer :=
  perform call call.run

def pollTimeout (node : Node π τ κ) : Nat :=
  node.config.pollTimeout.toNat

def poll : EStateM Error (Node π τ κ) (List RawEvent) := do
  call (.poll (← get).pollTimeout)

def fire (node : Node π τ κ) (kind : EventKind) (event : NetEvent) : Node π τ κ :=
  node.record
    ((node.handlers.call kind event).map fun (callback, event) => .ran kind callback event)

def encode (packet : π) : EStateM Error (Node π τ κ) Bytes := fun node =>
  match encodePacket packet node.scratch.flush with
  | .ok _ scratch => .ok scratch.bytes { node with scratch }
  | .error error scratch => .error (.protocol error) { node with scratch }

def sendBytes (peer : PeerHandle) (data : Bytes) : EStateM Error (Node π τ κ) Unit := do
  call (.send peer (← get).config.sendChannel data .reliable)

def sendPacket (peer : PeerHandle) (packet : π) : EStateM Error (Node π τ κ) Unit := do
  sendBytes peer (← encode packet)

/-- A peer that cannot be sent to is passed over. -/
def sendEach (data : Bytes) : List PeerHandle → Node π τ κ → Nat × Node π τ κ
  | [], node => (0, node)
  | peer :: rest, node =>
    match sendBytes peer data node with
    | .ok _ node =>
      let (delivered, node) := sendEach data rest node
      (delivered + 1, node)
    | .error _ node => sendEach data rest node

/-- A message is handled for what it prints, now, and for the packets it queues. -/
def process (node : Node π τ κ) (peer : PeerHandle) (user : Option UserId) (message : Bytes) :
    List (Outgoing π) × Node π τ κ :=
  let context := handleMessage node.registry peer user message
  (context.outbox, node.record (context.printed.map .printed))

def check : EStateM Error (Node π τ κ) Unit := fun node =>
  match node.config.validate with
  | .ok () => .ok () node
  | .error error => .error (.config error) node

end Node

end Courier

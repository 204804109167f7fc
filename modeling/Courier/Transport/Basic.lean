import Courier.Address.Text
import Courier.Identity

namespace Courier

/-- Delivery flags travel with a message and are reported as they were given. -/
structure SendFlags where
  bits : UInt32
deriving DecidableEq, Repr

namespace SendFlags

def none : SendFlags := ⟨0⟩
def reliable : SendFlags := ⟨1⟩
def unsequenced : SendFlags := ⟨2⟩
def unreliableFragment : SendFlags := ⟨8⟩

instance : Inhabited SendFlags := ⟨none⟩

instance : OrOp SendFlags where
  or a b := ⟨a.bits ||| b.bits⟩

def contains (a b : SendFlags) : Bool :=
  a.bits &&& b.bits = b.bits

end SendFlags

/-- What can go wrong in a transport. Failures of the system below are told in its own words. -/
inductive TransportError where
  | notStarted
  | hostAlreadyExists
  | noHost
  | noAvailablePeers
  | unknownPeer (peer : PeerHandle)
  | invalidChannel (channel limit : UInt8)
  | payloadTooLarge (size max : Nat)
  | addressResolution (target : String)
  | addressFamily (here there : SocketAddress)
  | bindFailed (reason : String)
  | sendFailed (reason : String)
  | receiveFailed (reason : String)
deriving DecidableEq, Repr

def TransportError.message : TransportError → String
  | .notStarted => "transport is not initialized"
  | .hostAlreadyExists => "a host already exists on this transport"
  | .noHost => "no host has been created"
  | .noAvailablePeers => "no available peers for initiating a connection"
  | .unknownPeer peer => s!"unknown peer {peer}"
  | .invalidChannel channel limit => s!"channel {channel} out of range (limit {limit})"
  | .payloadTooLarge size max => s!"payload of {size} bytes exceeds maximum of {max}"
  | .addressResolution target => s!"could not resolve address {target}"
  | .addressFamily here there => s!"local socket {here} cannot reach {there}"
  | .bindFailed reason => s!"bind failed: {reason}"
  | .sendFailed reason => s!"send failed: {reason}"
  | .receiveFailed reason => s!"receive failed: {reason}"

/-- A transport reports that a peer is there, that it is gone, or one whole message from it. -/
inductive RawEvent where
  | connect (peer : PeerHandle)
  | disconnect (peer : PeerHandle)
  | receive (peer : PeerHandle) (channel : UInt8) (flags : SendFlags) (data : Bytes)
deriving DecidableEq, Repr

def RawEvent.peer : RawEvent → PeerHandle
  | .connect peer | .disconnect peer | .receive peer _ _ _ => peer

def always (action : StateM σ α) : EStateM ε σ α := fun state =>
  let (value, state) := action state
  .ok value state

def attempt (action : EStateM ε σ α) (state : σ) : σ :=
  match action state with
  | .ok _ state => state
  | .error _ state => state

/-- A transport is started, then hosts a server or a client, and is stopped. Its state stands for
everything it can reach: whatever an operation changes out there is in the state it leaves, also
when it fails. -/
class Transport (τ : Type) where
  start : EStateM TransportError τ Unit
  stop : τ → τ
  createServer (host : String) (port : UInt16) (channels : UInt8) (maxPeers : Nat) :
    EStateM TransportError τ Unit
  createClient (channels : UInt8) : EStateM TransportError τ Unit
  connect (host : String) (port : UInt16) (channels : UInt8) :
    EStateM TransportError τ PeerHandle
  disconnect : EStateM TransportError τ Unit
  disconnectPeer (peer : PeerHandle) : EStateM TransportError τ Unit
  poll (timeout : Nat) : EStateM TransportError τ (List RawEvent)
  send (peer : PeerHandle) (channel : UInt8) (data : Bytes) (flags : SendFlags) :
    EStateM TransportError τ Unit
  localAddress : τ → Option SocketAddress

end Courier

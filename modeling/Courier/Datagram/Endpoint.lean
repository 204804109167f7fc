import Courier.Datagram.Host
import Courier.Datagram.Network

namespace Courier.Datagram

/-! An endpoint has at most one host, and room for a datagram from its first start on. All
endpoints of a process share its network and its supply of peer handles, which are never given out
twice. -/

structure Endpoint where
  started : Bool := false
  room : Nat := 0
  host : Option Host := none

/-- What all endpoints of a process share. -/
structure Process (ν : Type) where
  network : ν
  nextPeer : Nat := 1

/-- An endpoint with its process: all that an operation can change. -/
structure Station (ν : Type) where
  endpoint : Endpoint := {}
  process : Process ν

def Endpoint.peerCount (endpoint : Endpoint) : Nat :=
  endpoint.host.elim 0 fun host => host.links.size

namespace Station

variable {ν : Type} [Network ν]

def setHost (station : Station ν) (host : Option Host) : Station ν :=
  { station with endpoint := { station.endpoint with host } }

def setNetwork (station : Station ν) (network : ν) : Station ν :=
  { station with process := { station.process with network } }

def bind (address : SocketAddress) : EStateM TransportError (Station ν) SocketAddress :=
  fun station =>
    match Network.bind address station.process.network with
    | .ok socket network => .ok socket (station.setNetwork network)
    | .error reason network => .error (.bindFailed reason) (station.setNetwork network)

def close (socket : SocketAddress) (station : Station ν) : Station ν :=
  station.setNetwork (Network.close socket station.process.network)

def resolve (host : String) (port : UInt16) :
    EStateM TransportError (Station ν) SocketAddress := do
  let target := s!"{host}:{port}"
  match Network.resolve? (← get).process.network target with
  | some address => return address
  | none => throw (.addressResolution target)

def sendFrame (socket destination : SocketAddress) (frame : Frame) :
    EStateM TransportError (Station ν) Unit := fun station =>
  match Network.send socket destination frame.encode station.process.network with
  | .ok _ network => .ok () (station.setNetwork network)
  | .error reason network => .error (.sendFailed reason) (station.setNetwork network)

def receive (socket : SocketAddress) (wait : Nat) : StateM (Station ν) Receipt := fun station =>
  let (receipt, network) := Network.receive socket wait station.process.network
  (receipt, station.setNetwork network)

def newPeer : StateM (Station ν) PeerHandle := fun station =>
  let next := station.process.nextPeer
  (⟨next⟩, { station with process := { station.process with nextPeer := next + 1 } })

def theHost : EStateM TransportError (Station ν) Host := do
  match (← get).endpoint.host with
  | some host => return host
  | none => throw .noHost

def start (station : Station ν) : Station ν :=
  if station.endpoint.started then station
  else { station with endpoint := { station.endpoint with started := true, room := maxDatagram } }

def closeHost (station : Station ν) : Station ν :=
  match station.endpoint.host with
  | none => station
  | some host => (station.setHost none).close host.socket

def stop (station : Station ν) : Station ν :=
  let closed := station.closeHost
  { closed with endpoint := { closed.endpoint with started := false } }

/-- A host is made once, after the start. -/
def checkCanCreate : EStateM TransportError (Station ν) Unit := do
  let endpoint := (← get).endpoint
  if !endpoint.started then throw .notStarted
  if endpoint.host.isSome then throw .hostAlreadyExists

def createServer (host : String) (port : UInt16) (channels : UInt8) (maxPeers : Nat) :
    EStateM TransportError (Station ν) Unit := do
  checkCanCreate
  let address ← resolve host port
  let socket ← bind address
  modify (·.setHost (some { role := .server, socket, channels, maxPeers }))

def createClient (channels : UInt8) : EStateM TransportError (Station ν) Unit := do
  checkCanCreate
  let socket ← bind (.wildcard .v4)
  modify (·.setHost (some { role := .client, socket, channels, maxPeers := 1 }))

/-- A client takes a new socket to reach an address of the other family; the peers of a server are
bound to the one it has. -/
def reachable (host : Host) (address : SocketAddress) :
    EStateM TransportError (Station ν) Host := do
  if host.socket.family = address.family then
    return host
  match host.role with
  | .server => throw (.addressFamily host.socket address)
  | .client =>
    let socket ← bind (.wildcard address.family)
    modify (·.close host.socket)
    let moved := { host with socket }
    modify (·.setHost (some moved))
    return moved

def connect (host : String) (port : UInt16) (channels : UInt8) :
    EStateM TransportError (Station ν) PeerHandle := do
  let _ ← theHost
  let address ← resolve host port
  let known ← theHost
  if known.isFull then throw .noAvailablePeers
  let ready ← reachable known address
  let channels := negotiate channels ready.channels
  let peer ← always newPeer
  modify (·.setHost (some (ready.insert peer { address, channels, state := .connecting })))
  sendFrame ready.socket address (.connect channels)
  return peer

/-- The link is forgotten before it is known whether the peer can be told. -/
def disconnectPeer (peer : PeerHandle) : EStateM TransportError (Station ν) Unit := do
  match (← get).endpoint.host with
  | none => return ()
  | some host =>
    match host.link? peer with
    | none => return ()
    | some link =>
      modify (·.setHost (some (host.remove peer)))
      sendFrame host.socket link.address .disconnect

def disconnectAll : List PeerHandle → StateM (Station ν) (Option TransportError)
  | [] => return none
  | peer :: rest => fun station =>
    match disconnectPeer peer station with
    | .ok _ station => disconnectAll rest station
    | .error error station =>
      let (_, station) := disconnectAll rest station
      (some error, station)

def disconnectInOrder (peers : List PeerHandle) : EStateM TransportError (Station ν) Unit := do
  match ← always (disconnectAll peers) with
  | none => return ()
  | some error => throw error

/-- In which order the links are told is left open; this is the order of their handles. -/
def disconnect : EStateM TransportError (Station ν) Unit := do
  match (← get).endpoint.host with
  | none => return ()
  | some host => disconnectInOrder host.links.keys

/-- An answer that cannot be sent is no error. -/
def answer (socket source : SocketAddress) (frame : Frame) : StateM (Station ν) Bool :=
  fun station =>
    match sendFrame socket source frame station with
    | .ok _ station => (true, station)
    | .error _ station => (false, station)

def accept (host : Host) (source : SocketAddress) (channels : UInt8) :
    StateM (Station ν) (List RawEvent) := do
  let peer ← newPeer
  let admitted := host.insert peer { address := source, channels, state := .connected }
  if ← answer host.socket source (.accept channels) then
    modify (·.setHost (some admitted))
    return [.connect peer]
  else
    modify (·.setHost (some (admitted.remove peer)))
    return []

def handle (host : Host) (source : SocketAddress) (frame : Frame) :
    StateM (Station ν) (List RawEvent) := do
  match host.react source frame with
  | .ignore => return []
  | .answer frame =>
    let _ ← answer host.socket source frame
    return []
  | .accept channels => accept host source channels
  | .report after event =>
    modify (·.setHost (some after))
    return [event]

def handleDatagram (source : SocketAddress) (bytes : Bytes) :
    StateM (Station ν) (List RawEvent) := do
  let endpoint := (← get).endpoint
  match endpoint.host, Frame.decode? (bytes.take endpoint.room) with
  | some host, some frame => handle host source frame
  | _, _ => return []

/-- Polling waits for the first item only and takes what is there until nothing is left. An item is
answered at most once and an answer never, so twice the backlog is enough, also if the endpoint is
among its own peers. -/
def drain (socket : SocketAddress) :
    (limit wait : Nat) → EStateM TransportError (Station ν) (List RawEvent)
  | 0, _ => return []
  | limit + 1, wait => do
    match ← always (receive socket wait) with
    | .nothing => return []
    | .reset => drain socket limit 0
    | .failed reason => throw (.receiveFailed reason)
    | .datagram source bytes =>
      let events ← always (handleDatagram source bytes)
      return events ++ (← drain socket limit 0)

def poll (timeout : Nat) : EStateM TransportError (Station ν) (List RawEvent) := do
  let host ← theHost
  let backlog := Network.backlog (← get).process.network host.socket
  drain host.socket (2 * backlog + 1) timeout

def send (peer : PeerHandle) (channel : UInt8) (data : Bytes) (flags : SendFlags) :
    EStateM TransportError (Station ν) Unit := do
  let host ← theHost
  match host.connectedLink? peer with
  | none => throw (.unknownPeer peer)
  | some link =>
    if link.channels ≤ channel then throw (.invalidChannel channel link.channels)
    if maxPayload < data.length then throw (.payloadTooLarge data.length maxPayload)
    sendFrame host.socket link.address (.data channel flags data)

def localAddress (station : Station ν) : Option SocketAddress :=
  station.endpoint.host.map (·.socket)

instance : Transport (Station ν) where
  start := modify start
  stop := stop
  createServer := createServer
  createClient := createClient
  connect := connect
  disconnect := disconnect
  disconnectPeer := disconnectPeer
  poll := poll
  send := send
  localAddress := localAddress

end Station

end Courier.Datagram

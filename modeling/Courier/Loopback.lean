import Courier.Address.Text
import Courier.Datagram.Network

namespace Courier

open Datagram (Receipt Network)

/-- A network inside the process. Every socket has a queue of what has arrived for it. Nothing
arrives while a socket waits, and nothing is lost on the way to a socket that is there. -/
structure Loopback where
  queues : Std.TreeMap SocketAddress (List Receipt) := {}
  nextPort : UInt16 := 49152
  unreachable : List SocketAddress := []
  sent : List (SocketAddress × SocketAddress × Bytes) := []

namespace Loopback

/-- The only name there is, is `localhost`; everything else is an address as it is written. -/
def hostNamed? (name : List Char) : Option IpAddress :=
  if name = "localhost".toList then some (.loopback .v4) else IpAddress.parse? name

def splitPort? (target : List Char) : Option (List Char × UInt16) := do
  let reversed := target.reverse
  let digits := (reversed.takeWhile (· ≠ ':')).reverse
  let name := ((reversed.dropWhile (· ≠ ':')).drop 1).reverse
  let (port, rest) ← takePort? (':' :: digits)
  if rest.isEmpty then some (name, port) else none

def resolve? (target : String) : Option SocketAddress :=
  (SocketAddress.parse? target.toList).or do
    let (name, port) ← splitPort? target.toList
    return { ip := ← hostNamed? name, port }

/-! A socket can be bound to any port of this machine, to all its addresses or to a single one, and
port 0 stands for the next one of a range that is never used twice. What is sent to an address is
for the socket bound to it, or else for the one bound to that port of all addresses. -/

def isLocal (address : SocketAddress) : Bool :=
  address.ip.isLoopback || address.ip.isUnspecified

def bind (address : SocketAddress) : EStateM String Loopback SocketAddress := fun network =>
  if !isLocal address then
    .error "Cannot assign requested address (os error 99)" network
  else
    let (bound, network) :=
      if address.port = 0 then
        ({ address with port := network.nextPort },
          { network with nextPort := network.nextPort + 1 })
      else (address, network)
    if network.queues.contains bound then
      .error "Address already in use (os error 98)" network
    else
      .ok bound { network with queues := network.queues.insert bound [] }

def close (socket : SocketAddress) (network : Loopback) : Loopback :=
  { network with queues := network.queues.erase socket }

def receiver? (network : Loopback) (address : SocketAddress) : Option SocketAddress :=
  let everywhere := { SocketAddress.wildcard address.family with port := address.port }
  [address, everywhere].find? network.queues.contains

def sourceOf (socket : SocketAddress) : SocketAddress :=
  if socket.ip.isUnspecified then { socket with ip := .loopback socket.family } else socket

def enqueue (network : Loopback) (socket : SocketAddress) (item : Receipt) : Loopback :=
  { network with queues := network.queues.modify socket (· ++ [item]) }

def arrive (network : Loopback) (address : SocketAddress) (item : Receipt) : Loopback :=
  match network.receiver? address with
  | some socket => network.enqueue socket item
  | none => network

def record (network : Loopback) (source destination : SocketAddress) (bytes : Bytes) : Loopback :=
  { network with sent := network.sent ++ [(source, destination, bytes)] }

def send (socket destination : SocketAddress) (bytes : Bytes) : EStateM String Loopback Unit :=
  fun network =>
    if socket.family ≠ destination.family then
      .error "Address family not supported by protocol (os error 97)" network
    else if destination ∈ network.unreachable then
      .error "Network is unreachable (os error 101)" network
    else
      let source := sourceOf socket
      .ok () ((network.record source destination bytes).arrive destination (.datagram source bytes))

def receive (socket : SocketAddress) : StateM Loopback Receipt := fun network =>
  match network.queues[socket]? with
  | some (item :: rest) => (item, { network with queues := network.queues.insert socket rest })
  | _ => (.nothing, network)

def backlog (network : Loopback) (socket : SocketAddress) : Nat :=
  (network.queues.getD socket []).length

instance : Network Loopback where
  resolve? _ := resolve?
  bind := bind
  close := close
  send := send
  receive socket _ := receive socket
  backlog := backlog

def setReachable (network : Loopback) (address : SocketAddress) (reachable : Bool) : Loopback :=
  let others := network.unreachable.filter (· ≠ address)
  { network with unreachable := if reachable then others else address :: others }

def sentByDestination (network : Loopback) : List (SocketAddress × SocketAddress × Bytes) :=
  network.sent.mergeSort fun first second => (compare first.2.1 second.2.1).isLE

end Loopback

end Courier

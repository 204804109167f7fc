import Courier.Bytes
import Courier.Address.Basic

namespace Courier.Datagram

/-! What an endpoint needs from the network below it. A socket is known by the address it is bound
to. Binding and sending fail in the network's own words. Receiving waits no longer than it is told
and yields at most one item; the backlog says how many items are there already. -/

inductive Receipt where
  | datagram (source : SocketAddress) (bytes : Bytes)
  | nothing
  | reset
  | failed (reason : String)
deriving DecidableEq, Repr

class Network (ν : Type) where
  resolve? (network : ν) (target : String) : Option SocketAddress
  bind (address : SocketAddress) : EStateM String ν SocketAddress
  close (socket : SocketAddress) (network : ν) : ν
  send (socket destination : SocketAddress) (bytes : Bytes) : EStateM String ν Unit
  receive (socket : SocketAddress) (wait : Nat) : StateM ν Receipt
  backlog (network : ν) (socket : SocketAddress) : Nat

end Courier.Datagram

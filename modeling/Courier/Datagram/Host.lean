import Std.Data.TreeMap
import Courier.Datagram.Frame

namespace Courier.Datagram

/-! A host is a socket with what is known about its peers: a link for each of them, and the peer
of each address that a link was made for last. -/

inductive Role where
  | server
  | client
deriving DecidableEq, Repr

inductive LinkState where
  | connecting
  | connected
deriving DecidableEq, Repr

structure Link where
  address : SocketAddress
  channels : UInt8
  state : LinkState
deriving DecidableEq, Repr

structure Host where
  role : Role
  socket : SocketAddress
  channels : UInt8
  maxPeers : Nat
  links : Std.TreeMap PeerHandle Link := {}
  byAddress : Std.TreeMap SocketAddress PeerHandle := {}

/-- The channels of a link are what was asked for, as far as the host has them. Asking for none
leaves it to the host. -/
def negotiate (requested limit : UInt8) : UInt8 :=
  if requested = 0 then limit else min requested limit

namespace Host

def link? (host : Host) (peer : PeerHandle) : Option Link :=
  host.links[peer]?

def peerAt? (host : Host) (address : SocketAddress) : Option PeerHandle :=
  host.byAddress[address]?

def connectedLink? (host : Host) (peer : PeerHandle) : Option Link :=
  (host.link? peer).filter (·.state = .connected)

def isFull (host : Host) : Bool :=
  host.maxPeers ≤ host.links.size

def insert (host : Host) (peer : PeerHandle) (link : Link) : Host :=
  { host with
    links := host.links.insert peer link
    byAddress := host.byAddress.insert link.address peer }

/-- Forgetting a peer also frees its address, even if a later link has taken it over. -/
def remove (host : Host) (peer : PeerHandle) : Host :=
  match host.link? peer with
  | none => host
  | some link =>
    { host with
      links := host.links.erase peer
      byAddress := host.byAddress.erase link.address }

/-- The server has answered: the link is connected, with no more channels than were asked for. -/
def establish (host : Host) (peer : PeerHandle) (link : Link) (channels : UInt8) : Host :=
  let established := { link with state := .connected, channels := negotiate channels link.channels }
  { host with links := host.links.insert peer established }

@[simp] theorem link?_insert (host : Host) (peer other : PeerHandle) (link : Link) :
    (host.insert peer link).link? other = if peer = other then some link else host.link? other := by
  simp [insert, link?, Std.TreeMap.getElem?_insert, Std.LawfulEqCmp.compare_eq_iff_eq]

@[simp] theorem peerAt?_insert (host : Host) (peer : PeerHandle) (link : Link)
    (address : SocketAddress) :
    (host.insert peer link).peerAt? address =
      if link.address = address then some peer else host.peerAt? address := by
  simp [insert, peerAt?, Std.TreeMap.getElem?_insert, Std.LawfulEqCmp.compare_eq_iff_eq]

@[simp] theorem link?_remove (host : Host) (peer other : PeerHandle) :
    (host.remove peer).link? other = if peer = other then none else host.link? other := by
  unfold remove
  split
  · next absent =>
    split
    · next same => rw [← same, absent]
    · rfl
  · simp [link?, Std.TreeMap.getElem?_erase, Std.LawfulEqCmp.compare_eq_iff_eq]

theorem peerAt?_remove {host : Host} {peer : PeerHandle} {link : Link}
    (known : host.link? peer = some link) (address : SocketAddress) :
    (host.remove peer).peerAt? address =
      if link.address = address then none else host.peerAt? address := by
  simp [remove, known, peerAt?, Std.TreeMap.getElem?_erase, Std.LawfulEqCmp.compare_eq_iff_eq]

theorem remove_of_link?_eq_none {host : Host} {peer : PeerHandle}
    (unknown : host.link? peer = none) : host.remove peer = host := by
  simp [remove, unknown]

/-- What a frame from an address does: nothing, an answer to that address, a new link if the address
can be told, or a change of the links that is reported. -/
inductive Reaction where
  | ignore
  | answer (frame : Frame)
  | accept (channels : UInt8)
  | report (after : Host) (event : RawEvent)

def reactToStranger (host : Host) : Frame → Reaction
  | .connect channels =>
    match host.role with
    | .client => .ignore
    | .server =>
      if host.isFull then .answer .disconnect else .accept (negotiate channels host.channels)
  | _ => .ignore

def reactToPeer (host : Host) (peer : PeerHandle) : Frame → Reaction
  | .connect _ => .answer (.accept ((host.link? peer).elim host.channels Link.channels))
  | .accept channels =>
    match host.link? peer with
    | some link =>
      if link.state = .connecting then
        .report (host.establish peer link channels) (.connect peer)
      else .ignore
    | none => .ignore
  | .disconnect => .report (host.remove peer) (.disconnect peer)
  | .data channel flags payload =>
    match host.connectedLink? peer with
    | some link =>
      if channel < link.channels then .report host (.receive peer channel flags payload)
      else .ignore
    | none => .ignore

def react (host : Host) (source : SocketAddress) (frame : Frame) : Reaction :=
  match host.peerAt? source with
  | none => host.reactToStranger frame
  | some peer => host.reactToPeer peer frame

end Host

end Courier.Datagram

import Courier.Proofs.Datagram.Admission
import Mathlib.Data.List.Basic

namespace Courier.Datagram

/-! What leaving sends: a farewell to each link, one after the other, whatever becomes of those
before. -/

section

variable {ν : Type} [Network ν] (socket : SocketAddress)

/-- One farewell to each address, and how that leaves the network. -/
def sendFarewells (addresses : List SocketAddress) (network : ν) : ν :=
  addresses.foldl
    (fun network address => attempt (Network.send socket address Frame.disconnect.encode) network)
    network

theorem sendFarewells_cons (address : SocketAddress) (rest : List SocketAddress) (network : ν) :
    sendFarewells socket (address :: rest) network =
      sendFarewells socket rest
        (attempt (Network.send socket address Frame.disconnect.encode) network) :=
  rfl

/-- The network takes each of the farewells, as it is when it comes to that one. -/
def TakesFarewells : List SocketAddress → ν → Prop
  | [], _ => True
  | address :: rest, network =>
    Sendable socket address .disconnect network ∧
      TakesFarewells rest (attempt (Network.send socket address Frame.disconnect.encode) network)

/-- What the network says of the first farewell that it does not take. -/
def firstUnsent? : List SocketAddress → ν → Option String
  | [], _ => none
  | address :: rest, network =>
    match Network.send socket address Frame.disconnect.encode network with
    | .ok _ after => firstUnsent? rest after
    | .error reason _ => some reason

theorem firstUnsent?_eq_none_iff (addresses : List SocketAddress) (network : ν) :
    firstUnsent? socket addresses network = none ↔ TakesFarewells socket addresses network := by
  induction addresses generalizing network with
  | nil => simp [firstUnsent?, TakesFarewells]
  | cons address rest ih =>
      rw [firstUnsent?, TakesFarewells, Sendable, attempt]
      cases sent : Network.send socket address Frame.disconnect.encode network with
      | ok value after => simp [ih]
      | error reason after => simp

end

namespace Host

/-- The addresses of the links under these handles. -/
def addressesOf (host : Host) (peers : List PeerHandle) : List SocketAddress :=
  peers.filterMap fun peer => (host.link? peer).map (·.address)

/-- The addresses of all links, in the order of their handles. -/
def addresses (host : Host) : List SocketAddress :=
  host.links.toList.map (·.2.address)

theorem addressesOf_keys (host : Host) : host.addressesOf host.links.keys = host.addresses := by
  rw [addressesOf, addresses, ← Std.TreeMap.map_fst_toList_eq_keys, List.filterMap_map,
    ← List.filterMap_eq_map]
  apply List.filterMap_congr
  rintro ⟨peer, link⟩ mem
  have linked : host.link? peer = some link := Std.TreeMap.mem_toList_iff_getElem?_eq_some.mp mem
  simp [linked]

theorem addressesOf_remove (host : Host) {peer : PeerHandle} {peers : List PeerHandle}
    (absent : peer ∉ peers) : (host.remove peer).addressesOf peers = host.addressesOf peers := by
  apply List.filterMap_congr
  intro other mem
  rw [link?_remove, if_neg (ne_of_mem_of_not_mem mem absent).symm]

/-- Where no two links share an address, no address is listed twice. -/
theorem Inverse.nodup_addresses {host : Host} (inverse : host.Inverse) :
    host.addresses.Nodup := by
  rw [addresses, List.Nodup, List.pairwise_map]
  apply List.Pairwise.imp_of_mem _ Std.TreeMap.distinct_keys_toList
  intro first second firstMem secondMem distinct same
  have firstLinked : host.link? first.1 = some first.2 :=
    Std.TreeMap.mem_toList_iff_getElem?_eq_some.mp firstMem
  have secondLinked : host.link? second.1 = some second.2 :=
    Std.TreeMap.mem_toList_iff_getElem?_eq_some.mp secondMem
  rw [Std.LawfulEqCmp.compare_eq_iff_eq] at distinct
  exact distinct (inverse.peer_eq firstLinked secondLinked same)

theorem settings_foldl_remove (peers : List PeerHandle) (host : Host) :
    (peers.foldl remove host).settings = host.settings := by
  induction peers generalizing host with
  | nil => rfl
  | cons peer rest ih => rw [List.foldl_cons, ih, settings_remove]

theorem Sound.foldl_remove {host : Host} {next : Nat} (sound : host.Sound next)
    (peers : List PeerHandle) : (peers.foldl Host.remove host).Sound next := by
  induction peers generalizing host with
  | nil => exact sound
  | cons peer rest ih => exact ih (sound.remove peer)

theorem foldl_remove_roster (peers : List PeerHandle) (host : Host) (next : Nat) :
    peers.foldl Roster.remove ⟨some host, next⟩ = ⟨some (peers.foldl remove host), next⟩ := by
  induction peers generalizing host with
  | nil => rfl
  | cons peer rest ih => exact ih (host.remove peer)

section

variable {host : Host} {order : List PeerHandle} (all : order.Perm host.links.keys)

include all

theorem nodup_of_perm : order.Nodup :=
  all.nodup_iff.mpr Std.TreeMap.nodup_keys

theorem addressesOf_perm : (host.addressesOf order).Perm host.addresses :=
  host.addressesOf_keys ▸ all.filterMap _

theorem link?_of_perm (peer : PeerHandle) : (order.foldl remove host).link? peer = none := by
  have left := Roster.link?_foldl_remove ⟨some host, 0⟩ order peer
  rw [foldl_remove_roster, Roster.link?_some, Roster.link?_some] at left
  rw [left]
  split
  · rfl
  · next absent =>
    rw [all.mem_iff, Std.TreeMap.mem_keys] at absent
    exact Std.TreeMap.getElem?_eq_none absent

theorem isEmpty_links_of_perm : (order.foldl remove host).links.isEmpty := by
  rw [Std.TreeMap.isEmpty_iff_forall_not_mem]
  intro peer mem
  rw [Std.TreeMap.mem_iff_isSome_getElem?] at mem
  have gone : (order.foldl remove host).links[peer]? = none := link?_of_perm all peer
  rw [gone] at mem
  cases mem

/-- An address that is there is the address of a link, so none is left. -/
theorem Sound.isEmpty_byAddress_of_perm {next : Nat} (sound : host.Sound next) :
    (order.foldl Host.remove host).byAddress.isEmpty := by
  rw [Std.TreeMap.isEmpty_iff_forall_not_mem]
  intro address mem
  rw [Std.TreeMap.mem_iff_isSome_getElem?, Option.isSome_iff_exists] at mem
  obtain ⟨peer, found⟩ := mem
  obtain ⟨link, linked, -⟩ := (sound.foldl_remove order).linked found
  rw [link?_of_perm all peer] at linked
  cases linked

end

end Host

namespace Station

variable {ν : Type} [Network ν]

theorem sendFrame_of_ok {socket destination : SocketAddress} {frame : Frame} {network : ν}
    {station : Station ν}
    (sent : Network.send socket destination frame.encode station.process.network = .ok () network)
    (host : Option Host) :
    sendFrame socket destination frame (station.setHost host) =
      .ok () ((station.setHost host).setNetwork network) := by
  have taken : Network.send socket destination frame.encode (station.setHost host).process.network =
      .ok () network := sent
  simp only [sendFrame, taken]

theorem sendFrame_of_error {socket destination : SocketAddress} {frame : Frame} {network : ν}
    {reason : String} {station : Station ν}
    (unsent : Network.send socket destination frame.encode station.process.network =
      .error reason network) (host : Option Host) :
    sendFrame socket destination frame (station.setHost host) =
      .error (.sendFailed reason) ((station.setHost host).setNetwork network) := by
  have refused : Network.send socket destination frame.encode
      (station.setHost host).process.network = .error reason network := unsent
  simp only [sendFrame, refused]

theorem disconnectPeer_of_linked {peer : PeerHandle} {host : Host} {link : Link}
    {station : Station ν} (hosting : station.endpoint.host = some host)
    (linked : host.link? peer = some link) :
    disconnectPeer peer station =
      sendFrame host.socket link.address .disconnect
        (station.setHost (some (host.remove peer))) := by
  simp only [disconnectPeer_eq, hosting, linked]

theorem disconnectPeer_of_unlinked {peer : PeerHandle} {station : Station ν}
    (unlinked : station.roster.link? peer = none) :
    disconnectPeer peer station = .ok () station := by
  rw [disconnectPeer_eq]
  cases hosting : station.endpoint.host with
  | none => rfl
  | some host =>
      rw [roster_of_host hosting, Roster.link?_some] at unlinked
      simp only [unlinked]

theorem disconnectAll_of_ok {peer : PeerHandle} {station after : Station ν}
    (left : disconnectPeer peer station = .ok () after) (rest : List PeerHandle) :
    disconnectAll (peer :: rest) station = disconnectAll rest after := by
  simp only [disconnectAll, left]

theorem disconnectAll_of_error {peer : PeerHandle} {station after : Station ν}
    {error : TransportError} (left : disconnectPeer peer station = .error error after)
    (rest : List PeerHandle) :
    disconnectAll (peer :: rest) station = (some error, (disconnectAll rest after).2) := by
  simp only [disconnectAll, left]
  rfl

/-- Each link is told when it is its turn, and what is kept is the first failure. -/
theorem disconnectAll_eq {peers : List PeerHandle} (distinct : peers.Nodup) {host : Host}
    {station : Station ν} (hosting : station.endpoint.host = some host) :
    disconnectAll peers station =
      ((firstUnsent? host.socket (host.addressesOf peers) station.process.network).map
          TransportError.sendFailed,
        (station.setHost (some (peers.foldl Host.remove host))).setNetwork
          (sendFarewells host.socket (host.addressesOf peers) station.process.network)) := by
  induction peers generalizing host station with
  | nil =>
      have same : station.setHost (some host) = station := by
        rw [setHost, ← hosting]
      rw [List.foldl_nil, same]
      rfl
  | cons peer rest ih =>
      obtain ⟨absent, others⟩ := List.nodup_cons.mp distinct
      cases linked : host.link? peer with
      | none =>
          have unlinked : station.roster.link? peer = none := by
            rw [roster_of_host hosting, Roster.link?_some, linked]
          have skipped : host.addressesOf (peer :: rest) = host.addressesOf rest := by
            simp [Host.addressesOf, linked]
          rw [disconnectAll_of_ok (disconnectPeer_of_unlinked unlinked), ih others hosting,
            List.foldl_cons, Host.remove_of_link?_eq_none linked, skipped]
      | some link =>
          have first : host.addressesOf (peer :: rest) = link.address :: host.addressesOf rest := by
            simp [Host.addressesOf, linked]
          have socket : (host.remove peer).socket = host.socket :=
            congrArg (·.2.1) (host.settings_remove peer)
          -- The others are told at the addresses they had, whether or not this one could be told.
          have later (network : ν) := @ih others (host.remove peer)
            ((station.setHost (some (host.remove peer))).setNetwork network) rfl
          rw [socket, host.addressesOf_remove absent] at later
          have told := disconnectPeer_of_linked hosting linked
          rw [first, firstUnsent?, sendFarewells_cons, List.foldl_cons, attempt]
          cases sent : Network.send host.socket link.address Frame.disconnect.encode
              station.process.network with
          | ok _ network =>
              rw [sendFrame_of_ok sent] at told
              rw [disconnectAll_of_ok told, later]
              rfl
          | error reason network =>
              rw [sendFrame_of_error sent] at told
              rw [disconnectAll_of_error told, later]
              rfl

theorem attempt_disconnectPeer_eq (peer : PeerHandle) {host : Host} {station : Station ν}
    (hosting : station.endpoint.host = some host) :
    attempt (disconnectPeer peer) station =
      (station.setHost (some (host.remove peer))).setNetwork
        (sendFarewells host.socket (host.addressesOf [peer]) station.process.network) := by
  have single : (disconnectAll [peer] station).2 = attempt (disconnectPeer peer) station := by
    rw [attempt]
    cases left : disconnectPeer peer station with
    | ok _ after =>
        rw [disconnectAll_of_ok left]
        rfl
    | error error after =>
        rw [disconnectAll_of_error left]
        rfl
  rw [← single, disconnectAll_eq (List.pairwise_singleton _ peer) hosting]
  rfl

/-- Leaving removes the links it is to tell, whatever is sent, and fails with the first farewell
that is not. -/
theorem disconnectInOrder_eq {peers : List PeerHandle} (distinct : peers.Nodup) {host : Host}
    {station : Station ν} (hosting : station.endpoint.host = some host) :
    disconnectInOrder peers station =
      match firstUnsent? host.socket (host.addressesOf peers) station.process.network with
      | none => .ok () (attempt (disconnectInOrder peers) station)
      | some reason => .error (.sendFailed reason) (attempt (disconnectInOrder peers) station) := by
  have all := disconnectAll_eq distinct hosting
  rw [attempt_disconnectInOrder]
  simp only [disconnectInOrder, Bind.bind, EStateM.bind, always, all]
  cases firstUnsent? host.socket (host.addressesOf peers) station.process.network <;> rfl

theorem attempt_disconnectInOrder_eq {peers : List PeerHandle} (distinct : peers.Nodup)
    {host : Host} {station : Station ν} (hosting : station.endpoint.host = some host) :
    attempt (disconnectInOrder peers) station =
      (station.setHost (some (peers.foldl Host.remove host))).setNetwork
        (sendFarewells host.socket (host.addressesOf peers) station.process.network) := by
  rw [attempt_disconnectInOrder, disconnectAll_eq distinct hosting]

theorem disconnect_eq_of_vacant {station : Station ν} (vacant : station.endpoint.host = none) :
    disconnect station = .ok () station := by
  simp only [disconnect, Bind.bind, EStateM.bind, get_eq, vacant]
  rfl

theorem disconnectInOrder_eq_ok_iff {peers : List PeerHandle} (distinct : peers.Nodup)
    {host : Host} {station : Station ν} (hosting : station.endpoint.host = some host) :
    (∃ after, disconnectInOrder peers station = .ok () after) ↔
      TakesFarewells host.socket (host.addressesOf peers) station.process.network := by
  rw [disconnectInOrder_eq distinct hosting, ← firstUnsent?_eq_none_iff]
  cases firstUnsent? host.socket (host.addressesOf peers) station.process.network <;> simp

theorem of_disconnectInOrder_eq_error {peers : List PeerHandle} (distinct : peers.Nodup)
    {host : Host} {station after : Station ν} {error : TransportError}
    (hosting : station.endpoint.host = some host)
    (failed : disconnectInOrder peers station = .error error after) :
    ∃ reason,
      firstUnsent? host.socket (host.addressesOf peers) station.process.network = some reason ∧
        error = .sendFailed reason := by
  rw [disconnectInOrder_eq distinct hosting] at failed
  cases unsent : firstUnsent? host.socket (host.addressesOf peers) station.process.network with
  | none =>
      rw [unsent] at failed
      cases failed
  | some reason =>
      rw [unsent] at failed
      cases failed
      exact ⟨reason, rfl, rfl⟩

/-- Once the socket is closed as well, the order shows in the network alone. -/
theorem stop_disconnectInOrder {peers : List PeerHandle} (distinct : peers.Nodup) {host : Host}
    {station : Station ν} (hosting : station.endpoint.host = some host) :
    (attempt (disconnectInOrder peers) station).stop =
      station.stop.setNetwork (Network.close host.socket
        (sendFarewells host.socket (host.addressesOf peers) station.process.network)) := by
  have socket : (peers.foldl Host.remove host).socket = host.socket :=
    congrArg (·.2.1) (Host.settings_foldl_remove peers host)
  rw [attempt_disconnectInOrder_eq distinct hosting, stop, stop, closeHost, closeHost, hosting,
    ← socket]
  rfl

end Station

end Courier.Datagram

import Courier.Proofs.Datagram.Calm
import Courier.Proofs.Lasting
import Courier.Proofs.Refusals
import Courier.Proofs.Users.History

namespace Courier

open Datagram

/-! What sending a packet does to the dealings with an address. -/

namespace Datagram.Dealings

variable {π : Type} [PacketType π] {dealings : Dealings} {peer : PeerHandle}

def tell (dealings : Dealings) (peer : PeerHandle) (channel : UInt8) (packet : π) : Dealings :=
  match wireForm packet with
  | .ok form => dealings.say peer channel .reliable form
  | .error _ => dealings

def tellAll (dealings : Dealings) (peers : List PeerHandle) (channel : UInt8) (packet : π) :
    Dealings :=
  peers.foldl (fun dealings peer => dealings.tell peer channel packet) dealings

theorem tell_of_error {packet : π} {error : ProtocolError}
    (failed : wireForm packet = .error error) (channel : UInt8) :
    dealings.tell peer channel packet = dealings := by
  rw [tell, failed]

theorem tell_eq_self (other : ∀ link, dealings.facing ≠ some (peer, link)) (channel : UInt8)
    (packet : π) : dealings.tell peer channel packet = dealings := by
  rw [tell]
  split
  · exact say_eq_self fun link facing => absurd facing (other link)
  · rfl

theorem tell_of_stranger (stranger : dealings.facing = none) (channel : UInt8) (packet : π) :
    dealings.tell peer channel packet = dealings :=
  tell_eq_self (by simp [stranger]) channel packet

@[simp] theorem facing_tell (dealings : Dealings) (peer : PeerHandle) (channel : UInt8)
    (packet : π) : (dealings.tell peer channel packet).facing = dealings.facing := by
  rw [tell]
  split
  · exact facing_say ..
  · rfl

@[simp] theorem facing_tellAll (dealings : Dealings) (peers : List PeerHandle) (channel : UInt8)
    (packet : π) : (dealings.tellAll peers channel packet).facing = dealings.facing := by
  induction peers generalizing dealings with
  | nil => rfl
  | cons peer rest ih => exact (ih _).trans (facing_tell ..)

theorem tellAll_eq_self {peers : List PeerHandle}
    (others : ∀ peer ∈ peers, ∀ link, dealings.facing ≠ some (peer, link)) (channel : UInt8)
    (packet : π) : dealings.tellAll peers channel packet = dealings := by
  induction peers with
  | nil => rfl
  | cons peer rest ih =>
      rw [tellAll, List.foldl_cons, tell_eq_self (others peer List.mem_cons_self)]
      exact ih fun other mem => others other (List.mem_cons_of_mem _ mem)

theorem tellAll_of_stranger (stranger : dealings.facing = none) (peers : List PeerHandle)
    (channel : UInt8) (packet : π) : dealings.tellAll peers channel packet = dealings :=
  tellAll_eq_self (by simp [stranger]) channel packet

/-- Of the peers that are told, only the one that is faced matters. -/
theorem tellAll_of_mem {link : Link} (facing : dealings.facing = some (peer, link))
    {peers : List PeerHandle} (distinct : peers.Nodup) (mem : peer ∈ peers) (channel : UInt8)
    (packet : π) : dealings.tellAll peers channel packet = dealings.tell peer channel packet := by
  induction peers with
  | nil => cases mem
  | cons first rest ih =>
      obtain ⟨single, later⟩ := List.nodup_cons.mp distinct
      rw [tellAll, List.foldl_cons]
      by_cases same : first = peer
      · subst same
        refine tellAll_eq_self (fun other among link' facing' => ?_) channel packet
        rw [facing_tell, facing] at facing'
        cases facing'
        exact single among
      · have other (link' : Link) : dealings.facing ≠ some (first, link') := by
          rw [facing]
          rintro ⟨⟩
          exact same rfl
        rw [tell_eq_self other]
        exact ih later ((List.mem_cons.mp mem).resolve_left (Ne.symm same))

end Datagram.Dealings

namespace Node

variable {π κ : Type} {role : Role} {limit : UInt8} {address : SocketAddress} {config : Config}
  {registry : PacketRegistry π} {node : Node π (Station Interface) κ}

def Steady (role : Role) (limit : UInt8) (address : SocketAddress) (config : Config)
    (registry : PacketRegistry π) (node : Node π (Station Interface) κ) : Prop :=
  node.transport.Steady role limit address ∧ node.config = config ∧ node.registry = registry

theorem lasting_steady (role : Role) (limit : UInt8) (address : SocketAddress) (config : Config)
    (registry : PacketRegistry π) :
    Lasting (Steady role limit address config registry :
      Node π (Station Interface) κ → Prop) :=
  lasting_transport Station.steady_run config registry

theorem dealings_sendBytes (steady : node.Steady role limit address config registry)
    (peer : PeerHandle) (data : Bytes) :
    (attempt (sendBytes peer data) node).transport.dealings address =
      (node.transport.dealings address).say peer config.sendChannel .reliable data := by
  obtain ⟨⟨attending, calm⟩, rfl, -⟩ := steady
  have called := transport_call (.send peer node.config.sendChannel data .reliable) node
  exact (congrArg (Station.dealings · address) called).trans
    (attending.dealings_send calm peer node.config.sendChannel data .reliable)

variable [PacketType π]

theorem dealings_sendPacket (steady : node.Steady role limit address config registry)
    (peer : PeerHandle) (packet : π) :
    (attempt (sendPacket peer packet) node).transport.dealings address =
      (node.transport.dealings address).tell peer config.sendChannel packet := by
  rcases encode_cases packet node with ⟨form, scratch, written, encoded⟩ |
    ⟨error, scratch, failed, unencoded⟩
  · have ready : Steady role limit address config registry { node with scratch } := steady
    have sent : attempt (sendPacket peer packet) node =
        attempt (sendBytes peer form) { node with scratch } := by
      simp only [attempt, sendPacket, Bind.bind, EStateM.bind, encoded]
    rw [sent, dealings_sendBytes ready, Dealings.tell, written]
  · have unsent : attempt (sendPacket peer packet) node = { node with scratch } := by
      simp only [attempt, sendPacket, Bind.bind, EStateM.bind, unencoded]
    rw [unsent, Dealings.tell_of_error failed]

theorem dealings_sendEach {packet : π} {form : Bytes} (written : wireForm packet = .ok form)
    (steady : node.Steady role limit address config registry) (peers : List PeerHandle) :
    (sendEach form peers node).2.transport.dealings address =
      (node.transport.dealings address).tellAll peers config.sendChannel packet := by
  induction peers generalizing node with
  | nil => rfl
  | cons peer rest ih =>
      have first := dealings_sendBytes steady peer form
      have next := (lasting_steady ..).sendBytes peer form steady
      have told : (node.transport.dealings address).tell peer config.sendChannel packet =
          (node.transport.dealings address).say peer config.sendChannel .reliable form := by
        rw [Dealings.tell, written]
      rw [Dealings.tellAll, List.foldl_cons, told, ← first, sendEach]
      cases sent : sendBytes peer form node with
      | ok value after =>
          rw [attempt, sent] at next
          simp only [attempt, sent]
          exact ih next
      | error error after =>
          rw [attempt, sent] at next
          simp only [attempt, sent]
          exact ih next

end Node

namespace Server

variable {π κ : Type} {limit : UInt8} {address : SocketAddress} {config : Config}
  {registry : PacketRegistry π} {server : Server π (Station Interface) κ}

theorem transport_refuse (server : Server π (Station Interface) κ) (peer : PeerHandle) :
    (server.refuse peer).transport = attempt (Station.disconnectPeer peer) server.transport :=
  Node.transport_call (.disconnectPeer peer) server.toNode

theorem dealings_refuse
    (steady : server.Having (Node.Steady .server limit address config registry))
    (peer : PeerHandle) :
    (server.refuse peer).transport.dealings address =
      (server.transport.dealings address).part peer := by
  obtain ⟨⟨attending, calm⟩, -⟩ := steady
  rw [transport_refuse]
  exact attending.dealings_disconnectPeer calm peer

theorem mem_activePeers_iff (consistent : server.users.Consistent) (peer : PeerHandle) :
    peer ∈ server.activePeers ↔ ∃ user, server.users.user? peer = some user := by
  simp only [activePeers, List.mem_map, Prod.exists, exists_eq_right,
    UserTable.mem_entries consistent.capacity_le, consistent.user?_eq_some_iff]

theorem nodup_activePeers (consistent : server.users.Consistent) : server.activePeers.Nodup := by
  have entries : server.users.entries.Nodup :=
    List.Nodup.of_map _ consistent.ascending_activeUsers.nodup
  have holds {entry : UserId × PeerHandle} (mem : entry ∈ server.users.entries) :
      server.users.user? entry.2 = some entry.1 :=
    (consistent.user?_eq_some_iff ..).mpr
      ((UserTable.mem_entries consistent.capacity_le entry.1 entry.2).mp mem)
  refine List.Nodup.map_on (fun first mem second mem' same => ?_) entries
  have own := holds mem
  rw [same, holds mem'] at own
  exact Prod.ext (Option.some.inj own).symm same

variable [PacketType π]

theorem dealings_sendToPeer
    (steady : server.Having (Node.Steady .server limit address config registry))
    (peer : PeerHandle) (packet : π) :
    (attempt (sendToPeer peer packet) server).transport.dealings address =
      (server.transport.dealings address).tell peer config.sendChannel packet := by
  rw [sendToPeer, attempt_asNode]
  exact Node.dealings_sendPacket steady peer packet

theorem dealings_broadcast
    (steady : server.Having (Node.Steady .server limit address config registry)) (packet : π) :
    (attempt (broadcast packet) server).transport.dealings address =
      (server.transport.dealings address).tellAll server.activePeers config.sendChannel
        packet := by
  rcases Node.encode_cases packet server.toNode with ⟨form, scratch, written, encoded⟩ |
    ⟨error, scratch, failed, unencoded⟩
  · have ready : Node.Steady .server limit address config registry
        { server.toNode with scratch } := steady
    have sent : (attempt (broadcast packet) server).toNode =
        (Node.sendEach form server.activePeers { server.toNode with scratch }).2 := by
      simp only [attempt, broadcast, Bind.bind, EStateM.bind, asNode, encoded]
      rfl
    rw [sent]
    exact Node.dealings_sendEach written ready server.activePeers
  · have unsent : (attempt (broadcast packet) server).transport = server.transport := by
      simp only [attempt, broadcast, Bind.bind, EStateM.bind, asNode, unencoded]
    rw [unsent]
    symm
    induction server.activePeers with
    | nil => rfl
    | cons peer rest ih =>
        rw [Dealings.tellAll, List.foldl_cons, Dealings.tell_of_error failed]
        exact ih

end Server

end Courier

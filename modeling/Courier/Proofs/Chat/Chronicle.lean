import Courier.Proofs.Chat.Relays
import Courier.Proofs.Datagram.Interface
import Mathlib.Data.List.Basic

namespace Courier

open Datagram

/-! A chronicle of what a server does for its users: whom it admits, from which address, and whom it
releases; what it relays to everyone, and what it tells one peer alone. -/

inductive Entry where
  | admitted (peer : PeerHandle) (place : Option SocketAddress)
  | released (peer : PeerHandle)
  | relayed (relay : Relay)
  | told (peer : PeerHandle) (relay : Relay)
deriving DecidableEq, Repr

namespace Entry

def broadcast? : Entry → Option Relay
  | .relayed relay => some relay
  | _ => none

/-- What a peer gets that has been admitted. -/
def relayTo? (peer : PeerHandle) : Entry → Option Relay
  | .relayed relay => some relay
  | .told other relay => if other = peer then some relay else none
  | _ => none

def ofBroadcast (packet : ChatPacket) : List Entry :=
  packet.sendable?.toList.map .relayed

def ofSend (peer : PeerHandle) (packet : ChatPacket) : List Entry :=
  packet.sendable?.toList.map (.told peer)

def ofOutgoing (peer : PeerHandle) : Outgoing ChatPacket → List Entry
  | .reply packet => ofSend peer packet
  | .broadcast packet => ofBroadcast packet

theorem relayed_of_mem_ofBroadcast {packet : ChatPacket} {entry : Entry}
    (mem : entry ∈ ofBroadcast packet) : ∃ relay, entry = .relayed relay := by
  obtain ⟨relay, -, rfl⟩ := List.mem_map.mp mem
  exact ⟨relay, rfl⟩

theorem told_of_mem_ofSend {peer : PeerHandle} {packet : ChatPacket} {entry : Entry}
    (mem : entry ∈ ofSend peer packet) : ∃ relay, entry = .told peer relay := by
  obtain ⟨relay, -, rfl⟩ := List.mem_map.mp mem
  exact ⟨relay, rfl⟩

theorem relaysTo_ofBroadcast (peer : PeerHandle) (packet : ChatPacket) :
    (ofBroadcast packet).filterMap (relayTo? peer) = packet.sendable?.toList := by
  rw [ofBroadcast]
  cases packet.sendable? <;> rfl

theorem relaysTo_ofSend (peer : PeerHandle) (packet : ChatPacket) :
    (ofSend peer packet).filterMap (relayTo? peer) = packet.sendable?.toList := by
  rw [ofSend]
  cases packet.sendable? with
  | none => rfl
  | some relay => exact List.filterMap_cons_some (if_pos rfl)

theorem relaysTo_ofSend_of_ne {peer other : PeerHandle} (different : other ≠ peer)
    (packet : ChatPacket) : (ofSend other packet).filterMap (relayTo? peer) = [] := by
  rw [ofSend]
  cases packet.sendable? with
  | none => rfl
  | some relay => exact List.filterMap_cons_none (if_neg different)

end Entry

def broadcasts (chronicle : List Entry) : List Relay :=
  chronicle.filterMap Entry.broadcast?

@[simp] theorem broadcasts_append (earlier later : List Entry) :
    broadcasts (earlier ++ later) = broadcasts earlier ++ broadcasts later :=
  List.filterMap_append

/-- Who is admitted from an address. -/
def Entry.guest? (address : SocketAddress) : Entry → Option PeerHandle
  | .admitted peer place => if place = some address then some peer else none
  | _ => none

theorem Entry.guest?_eq_some_iff {address : SocketAddress} {entry : Entry} {peer : PeerHandle} :
    entry.guest? address = some peer ↔ entry = .admitted peer (some address) := by
  cases entry with
  | admitted other place =>
      rw [guest?, Option.ite_none_right_eq_some, Option.some_inj, admitted.injEq]
      exact and_comm
  | _ => simp [guest?]

/-- What there is before the admission of a client, and what from then on until its release, or
until the end if it has not been released. -/
structure Stay where
  before : List Entry
  peer : PeerHandle
  during : List Entry
deriving DecidableEq, Repr

/-- A client is known by its address, and stays once. -/
def stay? (address : SocketAddress) : List Entry → Option Stay
  | [] => none
  | entry :: rest =>
    match entry.guest? address with
    | some peer => some { before := [], peer, during := rest.takeWhile (· ≠ .released peer) }
    | none => (stay? address rest).map fun stay => { stay with before := entry :: stay.before }

namespace Stay

/-- How many broadcasts it has missed. -/
def missed (stay : Stay) : Nat :=
  (broadcasts stay.before).length

def relays (stay : Stay) : List Relay :=
  stay.during.filterMap (Entry.relayTo? stay.peer)

/-- It is told nothing that the others are not told as well. -/
def Shared (stay : Stay) : Prop :=
  ∀ relay, .told stay.peer relay ∉ stay.during

theorem relays_eq_broadcasts {stay : Stay} (shared : stay.Shared) :
    stay.relays = broadcasts stay.during := by
  refine List.filterMap_congr fun entry mem => ?_
  cases entry with
  | told other relay =>
      refine if_neg ?_
      rintro rfl
      exact shared relay mem
  | _ => rfl

theorem split {address : SocketAddress} {chronicle : List Entry} {stay : Stay}
    (stays : stay? address chronicle = some stay) :
    ∃ later, chronicle =
      stay.before ++ .admitted stay.peer (some address) :: (stay.during ++ later) := by
  induction chronicle generalizing stay with
  | nil => cases stays
  | cons entry rest ih =>
      rw [stay?] at stays
      split at stays
      · next peer guest =>
        cases stays
        rw [Entry.guest?_eq_some_iff.mp guest]
        exact ⟨_, congrArg (List.cons _) (List.takeWhile_append_dropWhile).symm⟩
      · obtain ⟨shorter, found, rfl⟩ := Option.map_eq_some_iff.mp stays
        obtain ⟨later, split⟩ := ih found
        exact ⟨later, congrArg (List.cons entry) split⟩

/-- What is broadcast during a stay is a segment of all that is broadcast, from the admission on. -/
theorem broadcasts_during {address : SocketAddress} {chronicle : List Entry} {stay : Stay}
    (stays : stay? address chronicle = some stay) :
    broadcasts stay.during <+: (broadcasts chronicle).drop stay.missed := by
  obtain ⟨later, split⟩ := Stay.split stays
  have entered : broadcasts (.admitted stay.peer (some address) :: (stay.during ++ later)) =
      broadcasts (stay.during ++ later) := rfl
  rw [split, broadcasts_append, entered, broadcasts_append, missed, List.drop_left]
  exact List.prefix_append _ _

end Stay

/-- How far a client has got in the chronicle, and what it has got. -/
inductive Attendance where
  | absent
  | present (peer : PeerHandle) (relays : List Relay)
  | left (peer : PeerHandle) (relays : List Relay)

namespace Attendance

def relays : Attendance → List Relay
  | .absent => []
  | .present _ relays | .left _ relays => relays

def after (address : SocketAddress) : Attendance → Entry → Attendance
  | .absent, .admitted peer place =>
    if place = some address then .present peer [] else .absent
  | .present peer relays, entry =>
    if entry = .released peer then .left peer relays
    else .present peer (relays ++ (entry.relayTo? peer).toList)
  | attendance, _ => attendance

def afterAll (address : SocketAddress) (attendance : Attendance) (entries : List Entry) :
    Attendance :=
  entries.foldl (after address) attendance

variable {address : SocketAddress}

@[simp] theorem afterAll_nil (attendance : Attendance) :
    attendance.afterAll address [] = attendance := rfl

theorem afterAll_singleton (attendance : Attendance) (entry : Entry) :
    attendance.afterAll address [entry] = attendance.after address entry := rfl

theorem afterAll_append (attendance : Attendance) (earlier later : List Entry) :
    attendance.afterAll address (earlier ++ later) =
      (attendance.afterAll address earlier).afterAll address later :=
  List.foldl_append

/-- What a client has got is not taken back. -/
theorem relays_after (attendance : Attendance) (entry : Entry) :
    attendance.relays <+: (attendance.after address entry).relays := by
  cases attendance with
  | absent => exact List.nil_prefix
  | present peer relays =>
      rw [after]
      split
      · exact List.prefix_refl relays
      · exact List.prefix_append relays _
  | left peer relays => exact List.prefix_refl relays

theorem relays_afterAll (attendance : Attendance) (entries : List Entry) :
    attendance.relays <+: (attendance.afterAll address entries).relays := by
  induction entries generalizing attendance with
  | nil => exact List.prefix_refl _
  | cons entry rest ih => exact (relays_after attendance entry).trans (ih _)

/-- Only an admission ends an absence. -/
theorem after_absent {entry : Entry}
    (other : ∀ peer, entry ≠ .admitted peer (some address)) :
    absent.after address entry = .absent := by
  cases entry with
  | admitted peer place => exact if_neg fun here => other peer (by rw [here])
  | _ => rfl

theorem after_present {peer : PeerHandle} {relays : List Relay} {entry : Entry}
    (other : entry ≠ .released peer) :
    (present peer relays).after address entry =
      .present peer (relays ++ (entry.relayTo? peer).toList) :=
  if_neg other

theorem afterAll_absent {entries : List Entry}
    (others : ∀ peer, .admitted peer (some address) ∉ entries) :
    absent.afterAll address entries = .absent := by
  induction entries with
  | nil => rfl
  | cons entry rest ih =>
      have other : ∀ peer, entry ≠ .admitted peer (some address) := by
        rintro peer rfl
        exact others peer List.mem_cons_self
      rw [afterAll, List.foldl_cons, after_absent other]
      exact ih fun peer mem => others peer (List.mem_cons_of_mem _ mem)

theorem afterAll_present {peer : PeerHandle} {relays : List Relay} {entries : List Entry}
    (still : .released peer ∉ entries) :
    (present peer relays).afterAll address entries =
      .present peer (relays ++ entries.filterMap (Entry.relayTo? peer)) := by
  induction entries generalizing relays with
  | nil => rw [List.filterMap_nil, List.append_nil, afterAll_nil]
  | cons entry rest ih =>
      have other : entry ≠ .released peer := by
        rintro rfl
        exact still List.mem_cons_self
      rw [afterAll, List.foldl_cons, after_present other]
      refine (ih fun mem => still (List.mem_cons_of_mem _ mem)).trans ?_
      rw [List.append_assoc, List.filterMap_cons]
      cases entry.relayTo? peer <;> rfl

theorem relays_afterAll_left (peer : PeerHandle) (relays : List Relay) (entries : List Entry) :
    ((left peer relays).afterAll address entries).relays = relays := by
  induction entries with
  | nil => rfl
  | cons entry rest ih => exact ih

theorem relays_afterAll_present (peer : PeerHandle) (relays : List Relay)
    (entries : List Entry) :
    ((present peer relays).afterAll address entries).relays =
      relays ++ (entries.takeWhile (· ≠ .released peer)).filterMap (Entry.relayTo? peer) := by
  induction entries generalizing relays with
  | nil => exact (List.append_nil relays).symm
  | cons entry rest ih =>
      rw [afterAll, List.foldl_cons]
      by_cases release : entry = .released peer
      · rw [after, if_pos release, List.takeWhile_cons_of_neg (by simp [release]),
          List.filterMap_nil, List.append_nil]
        exact relays_afterAll_left peer relays rest
      · rw [after_present release, List.takeWhile_cons_of_pos (by simp [release])]
        refine (ih _).trans ?_
        rw [List.append_assoc, List.filterMap_cons]
        cases entry.relayTo? peer <;> rfl

end Attendance

def attendance (address : SocketAddress) (chronicle : List Entry) : Attendance :=
  Attendance.absent.afterAll address chronicle

theorem attendance_append (address : SocketAddress) (earlier later : List Entry) :
    attendance address (earlier ++ later) = (attendance address earlier).afterAll address later :=
  Attendance.afterAll_append _ _ _

/-- What a client gets, it gets during its stay. -/
theorem relays_attendance (address : SocketAddress) (chronicle : List Entry) :
    (attendance address chronicle).relays = (stay? address chronicle).elim [] Stay.relays := by
  induction chronicle with
  | nil => rfl
  | cons entry rest ih =>
      rw [stay?, attendance, Attendance.afterAll, List.foldl_cons]
      split
      · next peer guest =>
        have admission : Attendance.absent.after address entry = .present peer [] := by
          rw [Entry.guest?_eq_some_iff.mp guest]
          exact if_pos rfl
        rw [admission]
        exact Attendance.relays_afterAll_present peer [] rest
      · next stranger =>
        have still : Attendance.absent.after address entry = .absent := by
          refine Attendance.after_absent fun peer admission => ?_
          rw [Entry.guest?_eq_some_iff.mpr admission] at stranger
          cases stranger
        rw [still]
        refine ih.trans ?_
        cases stay? address rest <;> rfl

namespace Server

variable {κ : Type}

/-- Where the peer is. Nothing is sent any more to one that is gone. -/
def place? (server : Server ChatPacket (Station Interface) κ) (peer : PeerHandle) :
    Option SocketAddress :=
  (server.toNode.roster.link? peer).map Link.address

def entriesOf (server : Server ChatPacket (Station Interface) κ) : RawEvent → List Entry
  | .connect peer =>
    match server.users.acquire peer with
    | (.ok _, _) => [.admitted peer (server.place? peer)]
    | (.error _, _) => []
  | .disconnect peer =>
    match server.users.user? peer with
    | some _ => [.released peer]
    | none => []
  | .receive peer _ _ data =>
    let user := server.users.user? peer
    (handleMessage server.registry peer user data).outbox.flatMap (Entry.ofOutgoing peer)

def entriesOfAll : Server ChatPacket (Station Interface) κ → List RawEvent → List Entry
  | _, [] => []
  | server, event :: rest => server.entriesOf event ++ (server.handle event).entriesOfAll rest

def entriesOfPoll (server : Server ChatPacket (Station Interface) κ) : List Entry :=
  match Node.poll server.toNode with
  | .ok events node => entriesOfAll { server with toNode := node } events
  | .error _ _ => []

theorem entriesOfPoll_of_join {server : Server ChatPacket (Station Interface) κ}
    {node : Node ChatPacket (Station Interface) κ} {peer : PeerHandle} {user : UserId}
    {users : UserTable} (received : Node.poll server.toNode = .ok [.connect peer] node)
    (seated : server.users.acquire peer = (.ok user, users)) :
    server.entriesOfPoll =
      [.admitted peer (Server.place? { server with toNode := node } peer)] := by
  rw [entriesOfPoll, received]
  simp only [entriesOfAll, entriesOf, seated, List.append_nil]

def entriesOfKick (server : Server ChatPacket (Station Interface) κ) (user : UserId) :
    List Entry :=
  match server.users.peer user with
  | .ok peer => [.released peer]
  | .error _ => []

def entriesOfSendTo (server : Server ChatPacket (Station Interface) κ) (user : UserId)
    (packet : ChatPacket) : List Entry :=
  match server.users.peer user with
  | .ok peer => Entry.ofSend peer packet
  | .error _ => []

/-- A call of a server with the entries that it makes, whether it succeeds or fails. -/
inductive Works : Server ChatPacket (Station Interface) κ → List Entry →
    Server ChatPacket (Station Interface) κ → Prop
  | poll {server : Server ChatPacket (Station Interface) κ} :
      Works server server.entriesOfPoll (attempt poll server)
  | kick {server : Server ChatPacket (Station Interface) κ} (user : UserId) :
      Works server (server.entriesOfKick user) (attempt (kick user) server)
  | sendTo {server : Server ChatPacket (Station Interface) κ} (user : UserId)
      (packet : ChatPacket) :
      Works server (server.entriesOfSendTo user packet) (attempt (sendTo user packet) server)
  | sendToPeer {server : Server ChatPacket (Station Interface) κ} (peer : PeerHandle)
      (packet : ChatPacket) :
      Works server (Entry.ofSend peer packet) (attempt (sendToPeer peer packet) server)
  | broadcast {server : Server ChatPacket (Station Interface) κ} (packet : ChatPacket) :
      Works server (Entry.ofBroadcast packet) (attempt (broadcast packet) server)

end Server

end Courier

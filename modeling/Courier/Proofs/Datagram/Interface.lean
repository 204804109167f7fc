import Courier.Proofs.Datagram.Tables

namespace Courier.Datagram

/-- A network as one host has it, with everything at the other side of it left open. What a name
stands for, how a bind ends, and how the next sends end is given; what has arrived is taken in its
order; and what has been sent is kept. -/
structure Interface where
  names : String → Option SocketAddress := fun _ => none
  binding : SocketAddress → Except String SocketAddress := .ok
  faults : List (Option String) := []
  inbox : List Receipt := []
  sent : List (SocketAddress × Bytes) := []

namespace Interface

def bind (address : SocketAddress) : EStateM String Interface SocketAddress := fun network =>
  match network.binding address with
  | .ok socket => .ok socket network
  | .error reason => .error reason network

/-- What has arrived for a socket is lost with it. -/
def close (network : Interface) : Interface :=
  { network with inbox := [] }

def write (network : Interface) (destination : SocketAddress) (bytes : Bytes) : Interface :=
  { network with
    faults := network.faults.tail
    sent := network.sent ++ [(destination, bytes)] }

def skip (network : Interface) : Interface :=
  { network with faults := network.faults.tail }

def send (destination : SocketAddress) (bytes : Bytes) : EStateM String Interface Unit :=
  fun network =>
    match network.faults.head?.join with
    | none => .ok () (network.write destination bytes)
    | some reason => .error reason network.skip

def receive : StateM Interface Receipt := fun network =>
  match network.inbox with
  | [] => (.nothing, network)
  | item :: rest => (item, { network with inbox := rest })

instance : Network Interface where
  resolve? := names
  bind := bind
  close _ := close
  send _ := send
  receive _ _ := receive
  backlog network _ := network.inbox.length

def lettersTo (network : Interface) (address : SocketAddress) : List Bytes :=
  (network.sent.filter (·.1 = address)).map (·.2)

/-- The datagram, if it is one from this address. -/
def letterOf? (address : SocketAddress) : Receipt → Option Bytes
  | .datagram source bytes => if source = address then some bytes else none
  | _ => none

def lettersFrom (network : Interface) (address : SocketAddress) : List Bytes :=
  network.inbox.filterMap (letterOf? address)

@[simp] theorem inbox_write (network : Interface) (destination : SocketAddress) (bytes : Bytes) :
    (network.write destination bytes).inbox = network.inbox := rfl

@[simp] theorem inbox_skip (network : Interface) : network.skip.inbox = network.inbox := rfl

@[simp] theorem sent_write (network : Interface) (destination : SocketAddress) (bytes : Bytes) :
    (network.write destination bytes).sent = network.sent ++ [(destination, bytes)] := rfl

theorem lettersTo_write (network : Interface) (destination address : SocketAddress)
    (bytes : Bytes) :
    (network.write destination bytes).lettersTo address =
      if destination = address then network.lettersTo address ++ [bytes]
      else network.lettersTo address := by
  unfold lettersTo
  rw [sent_write, List.filter_append, List.map_append]
  split
  · next same => simp [same]
  · next other => simp [other]

end Interface

def Frame.Short (frame : Frame) : Prop :=
  frame.encode.length ≤ maxDatagram

namespace Frame

theorem short_connect (channels : UInt8) : (connect channels).Short := by
  change 2 ≤ maxDatagram
  decide

theorem short_accept (channels : UInt8) : (accept channels).Short := by
  change 2 ≤ maxDatagram
  decide

theorem short_disconnect : disconnect.Short := by
  change 1 ≤ maxDatagram
  decide

theorem short_data (channel : UInt8) (flags : SendFlags) {payload : Bytes}
    (fits : payload.length ≤ maxPayload) : (data channel flags payload).Short := by
  rw [Short, length_encode_data]
  have room : headerLength + maxPayload = maxDatagram := by decide
  omega

end Frame

def Interface.Legible (network : Interface) : Prop :=
  ∀ letter ∈ network.sent, ∃ frame : Frame, frame.encode = letter.2 ∧ frame.Short

theorem Interface.Legible.write {network : Interface} (legible : network.Legible)
    (destination : SocketAddress) {frame : Frame} (short : frame.Short) :
    (network.write destination frame.encode).Legible := by
  intro letter mem
  rw [sent_write, List.mem_append, List.mem_singleton] at mem
  rcases mem with before | rfl
  · exact legible letter before
  · exact ⟨frame, rfl, short⟩

namespace Host

theorem short_of_react_eq_answer {host : Host} {source : SocketAddress} {frame reply : Frame}
    (reacted : host.react source frame = .answer reply) : reply.Short := by
  unfold react at reacted
  split at reacted
  · unfold reactToStranger at reacted
    repeat' split at reacted
    all_goals cases reacted
    exact Frame.short_disconnect
  · unfold reactToPeer at reacted
    repeat' split at reacted
    all_goals cases reacted
    exact Frame.short_accept _

end Host

namespace Host

/-- A host faces an address if it has a peer there. -/
def facing? (host : Host) (address : SocketAddress) : Option (PeerHandle × Link) := do
  let peer ← host.peerAt? address
  let link ← host.link? peer
  return (peer, link)

def Faces (host : Host) (address : SocketAddress) : Prop :=
  ∀ ⦃peer link⦄, host.link? peer = some link → link.address = address →
    host.peerAt? address = some peer

variable {host : Host} {address : SocketAddress} {next : Nat}

theorem facing?_eq_some_iff (sound : host.Sound next) (faces : host.Faces address)
    {peer : PeerHandle} {link : Link} :
    host.facing? address = some (peer, link) ↔
      host.link? peer = some link ∧ link.address = address := by
  simp only [facing?, Option.bind_eq_bind, Option.bind_eq_some_iff, Option.pure_def,
    Option.some.injEq, Prod.mk.injEq]
  constructor
  · rintro ⟨other, found, other', linked, rfl, rfl⟩
    obtain ⟨same, linked', there⟩ := sound.linked found
    cases linked.symm.trans linked'
    exact ⟨linked, there⟩
  · rintro ⟨linked, there⟩
    exact ⟨peer, faces linked there, link, linked, rfl, rfl⟩

theorem peerAt?_of_facing? (sound : host.Sound next) (faces : host.Faces address)
    {peer : PeerHandle} {link : Link} (facing : host.facing? address = some (peer, link)) :
    host.peerAt? address = some peer := by
  obtain ⟨linked, there⟩ := (facing?_eq_some_iff sound faces).mp facing
  exact faces linked there

theorem facing?_ne_of_peerAt? (sound : host.Sound next) (faces : host.Faces address)
    {source : SocketAddress} {peer : PeerHandle} (known : host.peerAt? source = some peer)
    (elsewhere : source ≠ address) (link : Link) : host.facing? address ≠ some (peer, link) := by
  intro facing
  obtain ⟨linked, here⟩ := (facing?_eq_some_iff sound faces).mp facing
  obtain ⟨other, linked', there⟩ := sound.linked known
  cases linked.symm.trans linked'
  exact elsewhere (there.symm.trans here)

theorem facing?_eq_none_iff (sound : host.Sound next) :
    host.facing? address = none ↔ host.peerAt? address = none := by
  constructor
  · intro nobody
    cases found : host.peerAt? address with
    | none => rfl
    | some peer =>
        obtain ⟨link, linked, -⟩ := sound.linked found
        simp [facing?, found, linked] at nobody
  · intro unknown
    simp [facing?, unknown]

namespace Faces

theorem insert (faces : host.Faces address) (peer : PeerHandle) {link : Link}
    (new : link.address = address → host.peerAt? address = none) :
    (host.insert peer link).Faces address := by
  intro other found linked there
  rw [link?_insert] at linked
  rw [peerAt?_insert]
  split at linked
  · next same =>
    cases linked
    rw [if_pos there, same]
  · have known := faces linked there
    have elsewhere : link.address ≠ address := fun same => by
      rw [new same] at known
      cases known
    rw [if_neg elsewhere, known]

theorem remove (faces : host.Faces address) (peer : PeerHandle) :
    (host.remove peer).Faces address := by
  cases removed : host.link? peer with
  | none => rwa [remove_of_link?_eq_none removed]
  | some old =>
      intro other link linked there
      rw [link?_remove] at linked
      rw [peerAt?_remove removed]
      split at linked
      · cases linked
      · next distinct =>
        have known := faces linked there
        have elsewhere : old.address ≠ address := fun same =>
          distinct (Option.some.inj ((faces removed same).symm.trans known))
        rw [if_neg elsewhere, known]

theorem establish (faces : host.Faces address) {peer : PeerHandle} {link : Link}
    (linked : host.link? peer = some link) (granted : UInt8) :
    (host.establish peer link granted).Faces address := by
  intro other found linked' there
  rw [peerAt?_establish]
  rw [link?_establish] at linked'
  split at linked'
  · next same =>
    cases linked'
    exact same ▸ faces linked there
  · exact faces linked' there

end Faces

theorem fst_facing?_ne {peer : PeerHandle}
    (others : ∀ link, host.facing? address ≠ some (peer, link)) :
    (host.facing? address).map (·.1) ≠ some peer := by
  intro same
  obtain ⟨⟨known, link⟩, facing, rfl⟩ := Option.map_eq_some_iff.mp same
  exact others link facing

theorem facing?_of_peerAt? {peer : PeerHandle} {link : Link}
    (known : host.peerAt? address = some peer) (linked : host.link? peer = some link) :
    host.facing? address = some (peer, link) := by
  simp [facing?, known, linked]

theorem facing?_insert (sound : host.Sound next) (link : Link) :
    (host.insert ⟨next⟩ link).facing? address =
      if link.address = address then some (⟨next⟩, link) else host.facing? address := by
  split
  · next there =>
    exact facing?_of_peerAt? (by rw [peerAt?_insert, if_pos there])
      (by rw [link?_insert, if_pos rfl])
  · next elsewhere =>
    have same : (host.insert ⟨next⟩ link).peerAt? address = host.peerAt? address := by
      rw [peerAt?_insert, if_neg elsewhere]
    cases known : host.peerAt? address with
    | none => simp [facing?, same, known]
    | some peer =>
        obtain ⟨old, linked, -⟩ := sound.linked known
        have older : PeerHandle.mk next ≠ peer := by
          rintro rfl
          rw [sound.fresh] at linked
          cases linked
        rw [facing?_of_peerAt? known linked]
        exact facing?_of_peerAt? (same.trans known) (by rw [link?_insert, if_neg older, linked])

theorem facing?_remove (sound : host.Sound next) (faces : host.Faces address)
    (peer : PeerHandle) :
    (host.remove peer).facing? address =
      if (host.facing? address).map (·.1) = some peer then none else host.facing? address := by
  cases removed : host.link? peer with
  | none =>
      rw [remove_of_link?_eq_none removed]
      split
      · next same =>
        obtain ⟨⟨other, link⟩, facing, rfl⟩ := Option.map_eq_some_iff.mp same
        have linked := ((facing?_eq_some_iff sound faces).mp facing).1
        rw [removed] at linked
        cases linked
      · rfl
  | some old =>
      cases known : host.peerAt? address with
      | none => simp [facing?, peerAt?_remove removed, known]
      | some other =>
          obtain ⟨link, linked, there⟩ := sound.linked known
          rw [facing?_of_peerAt? known linked, Option.map_some]
          by_cases same : other = peer
          · subst same
            cases removed.symm.trans linked
            rw [if_pos rfl]
            simp [facing?, peerAt?_remove removed, there]
          · have elsewhere : old.address ≠ address := fun here =>
              same (Option.some.inj (known.symm.trans (faces removed here)))
            rw [if_neg (fun equal => same (Option.some.inj equal))]
            apply facing?_of_peerAt?
            · rw [peerAt?_remove removed, if_neg elsewhere, known]
            · rw [link?_remove, if_neg (Ne.symm same), linked]

theorem facing?_establish {peer : PeerHandle} {link : Link}
    (linked : host.link? peer = some link) (granted : UInt8) :
    (host.establish peer link granted).facing? address =
      if (host.facing? address).map (·.1) = some peer then
        some (peer,
          { link with state := .connected, channels := negotiate granted link.channels })
      else host.facing? address := by
  cases known : host.peerAt? address with
  | none => simp [facing?, known]
  | some other =>
      by_cases same : peer = other
      · subst same
        simp [facing?, known, linked]
      · cases found : host.link? other <;> simp [facing?, known, same, Ne.symm same, found]

end Host

end Courier.Datagram

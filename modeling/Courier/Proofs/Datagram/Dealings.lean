import Courier.Proofs.Datagram.Interface

namespace Courier.Datagram

/-- What a host has to do with one address: the link to it, and the frames that went there. Only
frames from the address itself and calls of the host change that. -/
structure Dealings where
  facing : Option (PeerHandle × Link) := none
  wrote : List Frame := []

/-- What comes of a frame from the address, at a host of this role that offers so many channels. -/
inductive Heard (role : Role) (limit : UInt8) (address : SocketAddress) :
    Frame → Dealings → List RawEvent → Dealings → Prop
  | admitted {wrote : List Frame} (peer : PeerHandle) (requested : UInt8)
      (serving : role = .server) :
      Heard role limit address (.connect requested) ⟨none, wrote⟩ [.connect peer]
        ⟨some (peer,
            { address, channels := negotiate requested limit, state := .connected }),
          wrote ++ [.accept (negotiate requested limit)]⟩
  | refused {wrote : List Frame} (requested : UInt8) (serving : role = .server) :
      Heard role limit address (.connect requested) ⟨none, wrote⟩ []
        ⟨none, wrote ++ [.disconnect]⟩
  | unanswered {dealings : Dealings} (requested : UInt8) :
      Heard role limit address (.connect requested) dealings [] dealings
  | again {peer : PeerHandle} {link : Link} {wrote : List Frame} (requested : UInt8) :
      Heard role limit address (.connect requested) ⟨some (peer, link), wrote⟩ []
        ⟨some (peer, link), wrote ++ [.accept link.channels]⟩
  | stray {frame : Frame} {wrote : List Frame}
      (other : ∀ requested, frame ≠ .connect requested) :
      Heard role limit address frame ⟨none, wrote⟩ [] ⟨none, wrote⟩
  | established {peer : PeerHandle} {link : Link} {wrote : List Frame} (granted : UInt8)
      (waiting : link.state = .connecting) :
      Heard role limit address (.accept granted) ⟨some (peer, link), wrote⟩ [.connect peer]
        ⟨some (peer,
            { link with state := .connected, channels := negotiate granted link.channels }),
          wrote⟩
  | settled {peer : PeerHandle} {link : Link} {wrote : List Frame} (granted : UInt8)
      (connected : link.state = .connected) :
      Heard role limit address (.accept granted) ⟨some (peer, link), wrote⟩ []
        ⟨some (peer, link), wrote⟩
  | left {peer : PeerHandle} {link : Link} {wrote : List Frame} :
      Heard role limit address .disconnect ⟨some (peer, link), wrote⟩ [.disconnect peer]
        ⟨none, wrote⟩
  | received {peer : PeerHandle} {link : Link} {wrote : List Frame} {channel : UInt8}
      (flags : SendFlags) (data : Bytes) (connected : link.state = .connected)
      (offered : channel < link.channels) :
      Heard role limit address (.data channel flags data) ⟨some (peer, link), wrote⟩
        [.receive peer channel flags data] ⟨some (peer, link), wrote⟩
  | dropped {peer : PeerHandle} {link : Link} {wrote : List Frame} {channel : UInt8}
      (flags : SendFlags) (data : Bytes)
      (closed : ¬ (link.state = .connected ∧ channel < link.channels)) :
      Heard role limit address (.data channel flags data) ⟨some (peer, link), wrote⟩ []
        ⟨some (peer, link), wrote⟩

/-- What one datagram after the other brings. What is from elsewhere concerns other peers, of which
a client has none. -/
inductive Hears (role : Role) (limit : UInt8) (address : SocketAddress) :
    List Frame → Dealings → List RawEvent → Dealings → Prop
  | done {dealings : Dealings} : Hears role limit address [] dealings [] dealings
  | heard {frame : Frame} {frames : List Frame} {before middle after : Dealings}
      {events later : List RawEvent} (heard : Heard role limit address frame before events middle)
      (rest : Hears role limit address frames middle later after) :
      Hears role limit address (frame :: frames) before (events ++ later) after
  | elsewhere {frames : List Frame} {before after : Dealings} {events later : List RawEvent}
      (others : ∀ event ∈ events, ∀ link, before.facing ≠ some (event.peer, link))
      (quiet : role = .client → events = [])
      (rest : Hears role limit address frames before later after) :
      Hears role limit address frames before (events ++ later) after

/-- What a call does that neither connects nor polls. -/
inductive Acted : Dealings → Dealings → Prop
  | kept {dealings : Dealings} : Acted dealings dealings
  | said {peer : PeerHandle} {link : Link} {wrote : List Frame} {channel : UInt8}
      (flags : SendFlags) (data : Bytes) (connected : link.state = .connected)
      (offered : channel < link.channels) :
      Acted ⟨some (peer, link), wrote⟩
        ⟨some (peer, link), wrote ++ [.data channel flags data]⟩
  | left {facing : Option (PeerHandle × Link)} {wrote : List Frame} :
      Acted ⟨facing, wrote⟩ ⟨none, wrote⟩
  | parted {peer : PeerHandle} {link : Link} {wrote : List Frame} :
      Acted ⟨some (peer, link), wrote⟩ ⟨none, wrote ++ [.disconnect]⟩

theorem Acted.facing {before after : Dealings} (acted : Acted before after) :
    after.facing = before.facing ∨ after.facing = none := by
  cases acted with
  | kept => exact .inl rfl
  | said => exact .inl rfl
  | left => exact .inr rfl
  | parted => exact .inr rfl

theorem Acted.facing_of_acts {before after : Dealings}
    (acts : Relation.ReflTransGen Acted before after) :
    after.facing = before.facing ∨ after.facing = none := by
  induction acts with
  | refl => exact .inl rfl
  | tail _ last ih =>
      rcases last.facing with same | nobody
      · rwa [same]
      · exact .inr nobody

/-- A host of a known role and number of channels, that finds every link to the address. A client
has no others. -/
structure Host.Attends (host : Host) (role : Role) (limit : UInt8) (address : SocketAddress)
    (next : Nat) : Prop where
  role_eq : host.role = role
  channels_eq : host.channels = limit
  sound : host.Sound next
  faces : host.Faces address
  confined : role = .client → ∀ {peer link}, host.link? peer = some link → link.address = address

namespace Host.Attends

variable {host : Host} {role : Role} {limit : UInt8} {address : SocketAddress} {next : Nat}

theorem mono {later : Nat} (attends : host.Attends role limit address next) (le : next ≤ later) :
    host.Attends role limit address later :=
  { attends with sound := attends.sound.mono le }

theorem withSocket (attends : host.Attends role limit address next) (socket : SocketAddress) :
    Attends { host with socket } role limit address next where
  role_eq := attends.role_eq
  channels_eq := attends.channels_eq
  sound := attends.sound.withSocket socket
  faces := attends.faces
  confined := attends.confined

theorem insert (attends : host.Attends role limit address next) (link : Link)
    (new : link.address = address → host.peerAt? address = none)
    (own : role = .client → link.address = address) :
    (host.insert ⟨next⟩ link).Attends role limit address (next + 1) where
  role_eq := attends.role_eq
  channels_eq := attends.channels_eq
  sound := attends.sound.insert link
  faces := attends.faces.insert ⟨next⟩ new
  confined client {peer found} linked := by
    rw [link?_insert] at linked
    split at linked
    · cases linked
      exact own client
    · exact attends.confined client linked

theorem remove (attends : host.Attends role limit address next) (peer : PeerHandle) :
    (host.remove peer).Attends role limit address next where
  role_eq := by
    unfold Host.remove
    split <;> exact attends.role_eq
  channels_eq := by
    unfold Host.remove
    split <;> exact attends.channels_eq
  sound := attends.sound.remove peer
  faces := attends.faces.remove peer
  confined client {other link} linked := by
    rw [link?_remove] at linked
    split at linked
    · cases linked
    · exact attends.confined client linked

theorem establish (attends : host.Attends role limit address next) {peer : PeerHandle}
    {link : Link} (linked : host.link? peer = some link) (granted : UInt8) :
    (host.establish peer link granted).Attends role limit address next where
  role_eq := attends.role_eq
  channels_eq := attends.channels_eq
  sound := attends.sound.establish linked granted
  faces := attends.faces.establish linked granted
  confined client {other changed} found := by
    rw [link?_establish] at found
    split at found
    · cases found
      exact (attends.confined client linked :)
    · exact attends.confined client found

/-- Only a server admits anyone. -/
theorem welcome (attends : host.Attends role limit address next) {source : SocketAddress}
    (requested : UInt8) (stranger : host.peerAt? source = none) (serving : host.role = .server) :
    (host.insert ⟨next⟩
        { address := source, channels := negotiate requested host.channels,
          state := .connected }).Attends role limit address (next + 1) := by
  refine attends.insert _ (fun same => same ▸ stranger) (fun client => ?_)
  rw [attends.role_eq, client] at serving
  cases serving

/-- A new link to the address is the one that is faced, until it goes. -/
theorem facing?_admitted (attends : host.Attends role limit address next)
    (nobody : host.facing? address = none) (link : Link) (there : link.address = address) :
    (host.insert ⟨next⟩ link).facing? address = some (⟨next⟩, link) ∧
      ((host.insert ⟨next⟩ link).remove ⟨next⟩).facing? address = none := by
  have inserted := attends.insert link
    (fun _ => (facing?_eq_none_iff attends.sound).mp nobody) (fun _ => there)
  have stays : (host.insert ⟨next⟩ link).facing? address = some (⟨next⟩, link) := by
    rw [facing?_insert attends.sound, if_pos there]
  refine ⟨stays, ?_⟩
  rw [facing?_remove inserted.sound inserted.faces, stays, Option.map_some, if_pos rfl]

/-- A new link to another address is not faced, and nothing is different once it has gone. -/
theorem facing?_admitted_elsewhere (attends : host.Attends role limit address next) (link : Link)
    (elsewhere : link.address ≠ address) :
    (∀ found, host.facing? address ≠ some (⟨next⟩, found)) ∧
      (host.insert ⟨next⟩ link).facing? address = host.facing? address ∧
      ((host.insert ⟨next⟩ link).remove ⟨next⟩).facing? address = host.facing? address := by
  have new (found : Link) : host.facing? address ≠ some (⟨next⟩, found) := by
    intro facing
    have linked := ((facing?_eq_some_iff attends.sound attends.faces).mp facing).1
    exact Nat.lt_irrefl _ (attends.sound.handle_lt linked)
  have added : (host.insert ⟨next⟩ link).facing? address = host.facing? address := by
    rw [facing?_insert attends.sound, if_neg elsewhere]
  refine ⟨new, added, ?_⟩
  rw [facing?_remove (attends.sound.insert link)
      (attends.faces.insert ⟨next⟩ fun same => absurd same elsewhere), added,
    if_neg (fst_facing?_ne new)]

end Host.Attends

namespace Roster

def Attends (roster : Roster) (role : Role) (limit : UInt8) (address : SocketAddress) : Prop :=
  ∀ ⦃host⦄, roster.host = some host → host.Attends role limit address roster.nextPeer

variable {role : Role} {limit : UInt8} {address : SocketAddress}

@[simp] theorem attends_some (host : Host) (next : Nat) :
    Attends ⟨some host, next⟩ role limit address ↔ host.Attends role limit address next := by
  simp [Attends]

namespace Attends

variable {before after : Roster} {events : List RawEvent}

theorem applied {source : SocketAddress} (attends : before.Attends role limit address)
    (applied : Applied source before events after) : after.Attends role limit address := by
  cases applied with
  | ignored => exact attends
  | admitted requested stranger serving =>
      rw [attends_some] at attends ⊢
      exact attends.welcome requested stranger serving
  | turnedAway requested stranger serving =>
      rw [attends_some] at attends ⊢
      exact (attends.welcome requested stranger serving).remove _
  | established granted known linked waiting =>
      rw [attends_some] at attends ⊢
      exact attends.establish linked granted
  | departed =>
      rw [attends_some] at attends ⊢
      exact attends.remove _
  | received => exact attends

end Attends

end Roster

namespace Station

variable {role : Role} {limit : UInt8} {address : SocketAddress}

def wrote (station : Station Interface) (address : SocketAddress) : List Frame :=
  (station.process.network.lettersTo address).filterMap Frame.decode?

def dealings (station : Station Interface) (address : SocketAddress) : Dealings where
  facing := station.endpoint.host.bind (·.facing? address)
  wrote := station.wrote address

/-- A datagram as a host reads it. -/
def frameOf? (address : SocketAddress) (receipt : Receipt) : Option Frame :=
  (Interface.letterOf? address receipt).bind fun bytes => Frame.decode? (bytes.take maxDatagram)

theorem frameOf?_of_short {frame : Frame} (short : frame.Short) (source : SocketAddress) :
    frameOf? source (.datagram source frame.encode) = some frame := by
  rw [frameOf?, Interface.letterOf?, if_pos rfl, Option.bind_some,
    List.take_of_length_le short, Frame.decode?_encode]

theorem frameOf?_of_elsewhere {source address : SocketAddress} (elsewhere : source ≠ address)
    (bytes : Bytes) : frameOf? address (.datagram source bytes) = none := by
  rw [frameOf?, Interface.letterOf?, if_neg elsewhere]
  rfl

/-- What is received is the first of what has arrived, if anything has. -/
theorem inbox_of_receive {socket : SocketAddress} {wait : Nat} {station arrived : Station Interface}
    {receipt : Receipt} (received : receive socket wait station = (receipt, arrived)) :
    (receipt = .nothing ∧ arrived = station) ∨
      ∃ rest, station.process.network.inbox = receipt :: rest ∧
        arrived = station.setNetwork { station.process.network with inbox := rest } := by
  simp only [receive, Network.receive, Interface.receive] at received
  cases waiting : station.process.network.inbox with
  | nil =>
      rw [waiting] at received
      cases received
      exact .inl ⟨rfl, rfl⟩
  | cons item rest =>
      rw [waiting] at received
      cases received
      exact .inr ⟨rest, rfl, rfl⟩

def written (station : Station Interface) (destination : SocketAddress) (frame : Frame) :
    Station Interface :=
  station.setNetwork (station.process.network.write destination frame.encode)

def unwritten (station : Station Interface) : Station Interface :=
  station.setNetwork station.process.network.skip

theorem sendFrame_eq (socket destination : SocketAddress) (frame : Frame)
    (station : Station Interface) :
    sendFrame socket destination frame station =
      match station.process.network.faults.head?.join with
      | none => .ok () (station.written destination frame)
      | some reason => .error (.sendFailed reason) station.unwritten := by
  simp only [sendFrame, Network.send, Interface.send]
  cases station.process.network.faults.head?.join <;> rfl

theorem attempt_sendFrame_cases (socket destination : SocketAddress) (frame : Frame)
    (station : Station Interface) :
    attempt (sendFrame socket destination frame) station = station.written destination frame ∨
      attempt (sendFrame socket destination frame) station = station.unwritten := by
  rw [attempt, sendFrame_eq]
  cases station.process.network.faults.head?.join with
  | none => exact .inl rfl
  | some reason => exact .inr rfl

theorem answer_written_cases (socket destination : SocketAddress) (frame : Frame)
    (station : Station Interface) :
    answer socket destination frame station = (true, station.written destination frame) ∨
      answer socket destination frame station = (false, station.unwritten) := by
  rw [answer, sendFrame_eq]
  cases station.process.network.faults.head?.join with
  | none => exact .inl rfl
  | some reason => exact .inr rfl

@[simp] theorem endpoint_written (station : Station Interface) (destination : SocketAddress)
    (frame : Frame) : (station.written destination frame).endpoint = station.endpoint := rfl

@[simp] theorem inbox_written (station : Station Interface) (destination : SocketAddress)
    (frame : Frame) : (station.written destination frame).process.network.inbox =
      station.process.network.inbox := rfl

@[simp] theorem inbox_unwritten (station : Station Interface) :
    station.unwritten.process.network.inbox = station.process.network.inbox := rfl

theorem inbox_attempt_sendFrame (socket destination : SocketAddress) (frame : Frame)
    (station : Station Interface) :
    (attempt (sendFrame socket destination frame) station).process.network.inbox =
      station.process.network.inbox := by
  rcases attempt_sendFrame_cases socket destination frame station with sent | failed
  · rw [sent, inbox_written]
  · rw [failed, inbox_unwritten]

theorem attempt_send_cases (peer : PeerHandle) (channel : UInt8) (data : Bytes) (flags : SendFlags)
    (station : Station Interface) :
    let after := attempt (send peer channel data flags) station
    after = station ∨ ∃ host link, station.endpoint.host = some host ∧
      host.link? peer = some link ∧ link.state = .connected ∧ channel < link.channels ∧
      data.length ≤ maxPayload ∧
      after = attempt (sendFrame host.socket link.address (.data channel flags data)) station := by
  rcases send_cases peer channel data flags station with
    ⟨error, refused⟩ | ⟨host, link, hosting, found, offered, fits, sent⟩
  · exact .inl (by rw [attempt, refused])
  · obtain ⟨linked, connected⟩ := Host.of_connectedLink?_eq_some found
    exact .inr ⟨host, link, hosting, linked, connected, offered, fits, attempt_congr sent⟩

/-- To leave a peer that there is is to tell it; otherwise it is to do nothing. -/
theorem disconnectPeer_cases (peer : PeerHandle) (station : Station Interface) :
    let after := attempt (disconnectPeer peer) station
    after = station ∨ ∃ host link, station.endpoint.host = some host ∧
      host.link? peer = some link ∧
      after = attempt (sendFrame host.socket link.address .disconnect)
        (station.setHost (some (host.remove peer))) := by
  simp only [attempt, disconnectPeer_eq]
  cases station.endpoint.host with
  | none => exact .inl rfl
  | some host =>
      dsimp only
      cases linked : host.link? peer with
      | none => exact .inl rfl
      | some link => exact .inr ⟨host, link, rfl, linked, rfl⟩

theorem inbox_send (peer : PeerHandle) (channel : UInt8) (data : Bytes) (flags : SendFlags)
    (station : Station Interface) :
    (attempt (send peer channel data flags) station).process.network.inbox =
      station.process.network.inbox := by
  rcases attempt_send_cases peer channel data flags station with
    same | ⟨host, link, -, -, -, -, -, sent⟩
  · rw [same]
  · rw [sent, inbox_attempt_sendFrame]

theorem inbox_disconnectPeer (peer : PeerHandle) (station : Station Interface) :
    (attempt (disconnectPeer peer) station).process.network.inbox =
      station.process.network.inbox := by
  rcases disconnectPeer_cases peer station with same | ⟨host, link, -, -, left⟩
  · rw [same]
  · rw [left, inbox_attempt_sendFrame]
    rfl

@[simp] theorem wrote_setHost (station : Station Interface) (host : Option Host)
    (address : SocketAddress) : (station.setHost host).wrote address = station.wrote address := rfl

theorem wrote_written (station : Station Interface) (destination address : SocketAddress)
    (frame : Frame) :
    (station.written destination frame).wrote address =
      if destination = address then station.wrote address ++ [frame]
      else station.wrote address := by
  change List.filterMap _ (Interface.lettersTo (Interface.write _ _ _) address) = _
  rw [Interface.lettersTo_write]
  split
  · rw [List.filterMap_append, List.filterMap_cons_some (Frame.decode?_encode frame)]
    rfl
  · rfl

theorem dealings_of_host {station : Station Interface} {host : Host}
    (hosting : station.endpoint.host = some host) (address : SocketAddress) :
    station.dealings address = ⟨host.facing? address, station.wrote address⟩ := by
  rw [dealings, hosting]
  rfl

@[simp] theorem dealings_setHost (station : Station Interface) (host : Host)
    (address : SocketAddress) :
    (station.setHost (some host)).dealings address =
      ⟨host.facing? address, station.wrote address⟩ := rfl

@[simp] theorem dealings_unwritten (station : Station Interface) (address : SocketAddress) :
    station.unwritten.dealings address = station.dealings address := rfl

theorem dealings_written (station : Station Interface) (destination address : SocketAddress)
    (frame : Frame) :
    (station.written destination frame).dealings address =
      if destination = address then
        { station.dealings address with wrote := station.wrote address ++ [frame] }
      else station.dealings address := by
  rw [dealings, wrote_written, endpoint_written]
  split <;> rfl

theorem handle_of_ignore {host : Host} {source : SocketAddress} {frame : Frame}
    (reacted : host.react source frame = .ignore) (station : Station Interface) :
    handle host source frame station = ([], station) := by
  simp only [handle, reacted]
  rfl

theorem handle_of_report {host after : Host} {source : SocketAddress} {frame : Frame}
    {event : RawEvent} (reacted : host.react source frame = .report after event)
    (station : Station Interface) :
    handle host source frame station = ([event], station.setHost (some after)) := by
  simp only [handle, reacted]
  rfl

theorem handle_of_answer {host : Host} {source : SocketAddress} {frame reply : Frame}
    (reacted : host.react source frame = .answer reply) (station : Station Interface) :
    handle host source frame station = ([], station.written source reply) ∨
      handle host source frame station = ([], station.unwritten) := by
  simp only [handle, reacted, Bind.bind, StateT.bind]
  rcases answer_written_cases host.socket source reply station with sent | failed
  · rw [sent]
    exact .inl rfl
  · rw [failed]
    exact .inr rfl

/-- The link of a peer that could not be told does not stay. -/
theorem handle_of_accept {host : Host} {source : SocketAddress} {frame : Frame}
    {channels : UInt8} (reacted : host.react source frame = .accept channels)
    (station : Station Interface) :
    let peer : PeerHandle := ⟨station.process.nextPeer⟩
    let admitted := host.insert peer { address := source, channels, state := .connected }
    handle host source frame station =
        ([.connect peer],
          ((newPeer station).2.written source (.accept channels)).setHost (some admitted)) ∨
      handle host source frame station =
        ([], (newPeer station).2.unwritten.setHost (some (admitted.remove peer))) := by
  simp only [handle, reacted, accept, Bind.bind, StateT.bind]
  rcases answer_written_cases host.socket source (.accept channels) (newPeer station).2 with
    sent | failed
  · simp only [newPeer] at sent ⊢
    rw [sent]
    exact .inl rfl
  · simp only [newPeer] at failed ⊢
    rw [failed]
    exact .inr rfl

theorem react_of_facing {host : Host} {next : Nat} (sound : host.Sound next)
    (faces : host.Faces address) {peer : PeerHandle} {link : Link}
    (facing : host.facing? address = some (peer, link)) (frame : Frame) :
    host.react address frame = host.reactToPeer peer frame := by
  rw [Host.react, Host.peerAt?_of_facing? sound faces facing]

theorem react_of_stranger {host : Host} {next : Nat} (sound : host.Sound next)
    (nobody : host.facing? address = none) (frame : Frame) :
    host.react address frame = host.reactToStranger frame := by
  rw [Host.react, (Host.facing?_eq_none_iff sound).mp nobody]

theorem handle_heard_of_stranger {host : Host} {station : Station Interface}
    (hosting : station.endpoint.host = some host)
    (attends : host.Attends role limit address station.process.nextPeer)
    (nobody : host.facing? address = none) (frame : Frame) :
    Heard role limit address frame ⟨none, station.wrote address⟩
      (handle host address frame station).1
      ((handle host address frame station).2.dealings address) := by
  have reacted := react_of_stranger attends.sound nobody frame
  have unchanged : station.dealings address = ⟨none, station.wrote address⟩ := by
    rw [dealings_of_host hosting, nobody]
  by_cases request : ∃ requested, frame = .connect requested
  · obtain ⟨requested, rfl⟩ := request
    cases acting : host.role with
    | client =>
        simp only [Host.reactToStranger, acting] at reacted
        rw [handle_of_ignore reacted, unchanged]
        exact .unanswered requested
    | server =>
        have serving : role = .server := attends.role_eq.symm.trans acting
        simp only [Host.reactToStranger, acting] at reacted
        split at reacted
        · rcases handle_of_answer reacted station with sent | failed
          · rw [sent, dealings_written, if_pos rfl, unchanged]
            exact .refused requested serving
          · rw [failed, dealings_unwritten, unchanged]
            exact .unanswered requested
        · rw [attends.channels_eq] at reacted
          obtain ⟨stays, goes⟩ := attends.facing?_admitted nobody
            { address, channels := negotiate requested limit, state := .connected } rfl
          rcases handle_of_accept reacted station with sent | failed
          · rw [sent, dealings_setHost, stays, wrote_written, if_pos rfl]
            exact .admitted _ requested serving
          · rw [failed, dealings_setHost, goes]
            exact .unanswered requested
  · have other (requested : UInt8) : frame ≠ .connect requested :=
      fun same => request ⟨requested, same⟩
    have ignored : host.reactToStranger frame = .ignore := by
      cases frame with
      | connect requested => exact absurd rfl (other requested)
      | _ => rfl
    rw [ignored] at reacted
    rw [handle_of_ignore reacted, unchanged]
    exact .stray other

theorem handle_heard_of_facing {host : Host} {station : Station Interface}
    (hosting : station.endpoint.host = some host)
    (attends : host.Attends role limit address station.process.nextPeer) {peer : PeerHandle}
    {link : Link} (facing : host.facing? address = some (peer, link)) (frame : Frame) :
    Heard role limit address frame ⟨some (peer, link), station.wrote address⟩
      (handle host address frame station).1
      ((handle host address frame station).2.dealings address) := by
  have reacted := react_of_facing attends.sound attends.faces facing frame
  obtain ⟨linked, there⟩ := (Host.facing?_eq_some_iff attends.sound attends.faces).mp facing
  have unchanged : station.dealings address = ⟨some (peer, link), station.wrote address⟩ := by
    rw [dealings_of_host hosting, facing]
  cases frame with
  | connect requested =>
      simp only [Host.reactToPeer, linked, Option.elim_some] at reacted
      rcases handle_of_answer reacted station with sent | failed
      · rw [sent, dealings_written, if_pos rfl, unchanged]
        exact .again requested
      · rw [failed, dealings_unwritten, unchanged]
        exact .unanswered requested
  | accept granted =>
      simp only [Host.reactToPeer, linked] at reacted
      cases state : link.state with
      | connecting =>
          rw [if_pos state] at reacted
          rw [handle_of_report reacted, dealings_setHost, Host.facing?_establish linked, facing,
            Option.map_some, if_pos rfl]
          exact .established granted state
      | connected =>
          rw [if_neg (by simp [state])] at reacted
          rw [handle_of_ignore reacted, unchanged]
          exact .settled granted state
  | disconnect =>
      rw [handle_of_report reacted, dealings_setHost,
        Host.facing?_remove attends.sound attends.faces, facing, Option.map_some, if_pos rfl]
      exact .left
  | data channel flags data =>
      by_cases offered : link.state = .connected ∧ channel < link.channels
      · have found : host.connectedLink? peer = some link := by
          simp [Host.connectedLink?, linked, offered.1]
        simp only [Host.reactToPeer, found, if_pos offered.2] at reacted
        rw [handle_of_report reacted, dealings_setHost, facing]
        exact .received flags data offered.1 offered.2
      · have ignored : host.reactToPeer peer (.data channel flags data) = .ignore := by
          simp only [Host.reactToPeer]
          split
          · next found =>
            obtain ⟨linked', connected⟩ := Host.of_connectedLink?_eq_some found
            cases linked.symm.trans linked'
            exact if_neg fun below => offered ⟨connected, below⟩
          · rfl
        rw [ignored] at reacted
        rw [handle_of_ignore reacted, unchanged]
        exact .dropped flags data offered

theorem handle_heard {host : Host} {station : Station Interface}
    (hosting : station.endpoint.host = some host)
    (attends : host.Attends role limit address station.process.nextPeer) (frame : Frame) :
    Heard role limit address frame (station.dealings address)
      (handle host address frame station).1
      ((handle host address frame station).2.dealings address) := by
  rw [dealings_of_host hosting]
  cases facing : host.facing? address with
  | none => exact handle_heard_of_stranger hosting attends facing frame
  | some known => exact handle_heard_of_facing hosting attends facing frame

theorem facing?_of_report {host after : Host} {next : Nat}
    (attends : host.Attends role limit address next) {source : SocketAddress}
    (elsewhere : source ≠ address) {frame : Frame} {event : RawEvent}
    (reacted : host.react source frame = .report after event) :
    after.facing? address = host.facing? address ∧
      (∀ link, host.facing? address ≠ some (event.peer, link)) ∧ role ≠ .client := by
  obtain ⟨peer, known, report⟩ := Host.of_react_eq_report reacted
  have others := Host.facing?_ne_of_peerAt? attends.sound attends.faces known elsewhere
  have other := Host.fst_facing?_ne others
  have server : role ≠ .client := by
    intro client
    obtain ⟨link, linked, there⟩ := attends.sound.linked known
    exact elsewhere (there.symm.trans (attends.confined client linked))
  rcases report with ⟨link, granted, linked, waiting, rfl, rfl⟩ | ⟨rfl, rfl⟩ |
    ⟨link, channel, flags, payload, linked, offered, rfl, rfl⟩
  · rw [Host.facing?_establish linked, if_neg other]
    exact ⟨rfl, others, server⟩
  · rw [Host.facing?_remove attends.sound attends.faces, if_neg other]
    exact ⟨rfl, others, server⟩
  · exact ⟨rfl, others, server⟩

theorem handle_elsewhere {host : Host} {station : Station Interface}
    (hosting : station.endpoint.host = some host)
    (attends : host.Attends role limit address station.process.nextPeer) {source : SocketAddress}
    (elsewhere : source ≠ address) (frame : Frame) :
    (handle host source frame station).2.dealings address = station.dealings address ∧
      (∀ event ∈ (handle host source frame station).1, ∀ link,
        (station.dealings address).facing ≠ some (event.peer, link)) ∧
      (role = .client → (handle host source frame station).1 = []) := by
  have unchanged := dealings_of_host hosting address
  cases reacted : host.react source frame with
  | ignore =>
      rw [handle_of_ignore reacted]
      exact ⟨rfl, by simp, fun _ => rfl⟩
  | answer reply =>
      rcases handle_of_answer reacted station with sent | failed
      · rw [sent, dealings_written, if_neg elsewhere]
        exact ⟨rfl, by simp, fun _ => rfl⟩
      · rw [failed]
        exact ⟨rfl, by simp, fun _ => rfl⟩
  | accept channels =>
      obtain ⟨requested, -, rfl, -, serving, -⟩ := Host.of_react_eq_accept reacted
      have server : role ≠ .client := by
        rw [← attends.role_eq, serving]
        simp
      obtain ⟨new, stays, goes⟩ := attends.facing?_admitted_elsewhere
        { address := source, channels := negotiate requested host.channels, state := .connected }
        elsewhere
      rw [unchanged]
      rcases handle_of_accept reacted station with sent | failed
      · rw [sent, dealings_setHost, stays, wrote_written, if_neg elsewhere]
        exact ⟨rfl, by simpa [RawEvent.peer] using new, fun client => absurd client server⟩
      · rw [failed, dealings_setHost, goes]
        exact ⟨rfl, by simp, fun _ => rfl⟩
  | report after event =>
      obtain ⟨same, others, server⟩ := facing?_of_report attends elsewhere reacted
      rw [handle_of_report reacted, dealings_setHost, unchanged, same]
      exact ⟨rfl, by simpa using others, fun client => absurd client server⟩

theorem host_handle {host : Host} {station : Station Interface}
    (hosting : station.endpoint.host = some host) (source : SocketAddress) (frame : Frame) :
    ∃ after, (handle host source frame station).2.endpoint =
      { station.endpoint with host := some after } := by
  cases reacted : host.react source frame with
  | ignore =>
      rw [handle_of_ignore reacted]
      exact ⟨host, by rw [← hosting]⟩
  | answer reply =>
      rcases handle_of_answer reacted station with sent | failed
      · rw [sent]
        exact ⟨host, by rw [← hosting]; rfl⟩
      · rw [failed]
        exact ⟨host, by rw [← hosting]; rfl⟩
  | accept channels =>
      rcases handle_of_accept reacted station with sent | failed
      · rw [sent]
        exact ⟨_, rfl⟩
      · rw [failed]
        exact ⟨_, rfl⟩
  | report after event =>
      rw [handle_of_report reacted]
      exact ⟨after, rfl⟩

/-- At most one frame goes out, and that can be read. -/
theorem network_handle (host : Host) (source : SocketAddress) (frame : Frame)
    (station : Station Interface) :
    let network := station.process.network
    let after := (handle host source frame station).2.process.network
    after = network ∨ after = network.skip ∨
      ∃ reply : Frame, reply.Short ∧ after = network.write source reply.encode := by
  cases reacted : host.react source frame with
  | ignore =>
      rw [handle_of_ignore reacted]
      exact .inl rfl
  | answer reply =>
      rcases handle_of_answer reacted station with sent | failed
      · rw [sent]
        exact .inr (.inr ⟨reply, Host.short_of_react_eq_answer reacted, rfl⟩)
      · rw [failed]
        exact .inr (.inl rfl)
  | accept channels =>
      rcases handle_of_accept reacted station with sent | failed
      · rw [sent]
        exact .inr (.inr ⟨.accept channels, Frame.short_accept channels, rfl⟩)
      · rw [failed]
        exact .inr (.inl rfl)
  | report after event =>
      rw [handle_of_report reacted]
      exact .inl rfl

theorem inbox_handle (host : Host) (source : SocketAddress) (frame : Frame)
    (station : Station Interface) :
    (handle host source frame station).2.process.network.inbox =
      station.process.network.inbox := by
  rcases network_handle host source frame station with same | skipped | ⟨reply, -, sent⟩
  · rw [same]
  · rw [skipped, Interface.inbox_skip]
  · rw [sent, Interface.inbox_write]

end Station

end Courier.Datagram

import Courier.Datagram.Endpoint

namespace Courier.Datagram

/-- What a station knows of its peers: the host with its two tables, and the next peer handle. The
network is left out, so that sending and receiving change nothing here. -/
structure Roster where
  host : Option Host
  nextPeer : Nat

namespace Roster

def link? (roster : Roster) (peer : PeerHandle) : Option Link :=
  roster.host.bind fun host => host.link? peer

@[simp] theorem link?_none (next : Nat) (peer : PeerHandle) :
    (Roster.mk none next).link? peer = none := rfl

@[simp] theorem link?_some (host : Host) (next : Nat) (peer : PeerHandle) :
    (Roster.mk (some host) next).link? peer = host.link? peer := rfl

/-- A link is forgotten, if there is a host. -/
def remove (roster : Roster) (peer : PeerHandle) : Roster :=
  { roster with host := roster.host.map (·.remove peer) }

@[simp] theorem link?_removed (roster : Roster) (peer other : PeerHandle) :
    (roster.remove peer).link? other = if peer = other then none else roster.link? other := by
  cases hosting : roster.host with
  | none => simp [remove, link?, hosting]
  | some host => simp [remove, link?, hosting]

theorem link?_foldl_remove (roster : Roster) (peers : List PeerHandle) (other : PeerHandle) :
    (peers.foldl remove roster).link? other =
      if other ∈ peers then none else roster.link? other := by
  induction peers generalizing roster with
  | nil => simp
  | cons peer rest ih =>
      rw [List.foldl_cons, ih, link?_removed]
      by_cases later : other ∈ rest
      · simp [later]
      · by_cases same : peer = other
        · simp [same]
        · simp [same, later, Ne.symm same]

theorem nextPeer_foldl_remove (roster : Roster) (peers : List PeerHandle) :
    (peers.foldl remove roster).nextPeer = roster.nextPeer := by
  induction peers generalizing roster with
  | nil => rfl
  | cons peer rest ih => exact ih (roster.remove peer)

end Roster

namespace Host

theorem of_connectedLink?_eq_some {host : Host} {peer : PeerHandle} {link : Link}
    (found : host.connectedLink? peer = some link) :
    host.link? peer = some link ∧ link.state = .connected := by
  obtain ⟨linked, connected⟩ := Option.filter_eq_some_iff.mp found
  exact ⟨linked, by simpa using connected⟩

theorem of_react_eq_accept {host : Host} {source : SocketAddress} {frame : Frame}
    {channels : UInt8} (reacted : host.react source frame = .accept channels) :
    ∃ requested, frame = .connect requested ∧ negotiate requested host.channels = channels ∧
      host.peerAt? source = none ∧ host.role = .server ∧ host.isFull = false := by
  unfold react at reacted
  split at reacted
  · next stranger =>
    unfold reactToStranger at reacted
    split at reacted
    · next requested =>
      split at reacted
      · cases reacted
      · next serving =>
        split at reacted
        · cases reacted
        · next room =>
          cases reacted
          exact ⟨requested, rfl, rfl, stranger, serving, by simpa using room⟩
    · cases reacted
  · unfold reactToPeer at reacted
    repeat' split at reacted
    all_goals cases reacted

theorem of_react_eq_report {host after : Host} {source : SocketAddress} {frame : Frame}
    {event : RawEvent} (reacted : host.react source frame = .report after event) :
    ∃ peer, host.peerAt? source = some peer ∧
      ((∃ link granted, host.link? peer = some link ∧ link.state = .connecting ∧
          host.establish peer link granted = after ∧ .connect peer = event) ∨
        (host.remove peer = after ∧ .disconnect peer = event) ∨
        (∃ link channel flags payload, host.connectedLink? peer = some link ∧
          channel < link.channels ∧ host = after ∧
          .receive peer channel flags payload = event)) := by
  unfold react at reacted
  split at reacted
  · unfold reactToStranger at reacted
    repeat' split at reacted
    all_goals cases reacted
  · next peer known =>
    refine ⟨peer, known, ?_⟩
    unfold reactToPeer at reacted
    cases frame with
    | connect requested => cases reacted
    | accept granted =>
        dsimp only at reacted
        split at reacted
        · next link linked =>
          split at reacted
          · next waiting =>
            cases reacted
            exact .inl ⟨link, granted, linked, waiting, rfl, rfl⟩
          · cases reacted
        · cases reacted
    | disconnect =>
        cases reacted
        exact .inr (.inl ⟨rfl, rfl⟩)
    | data channel flags payload =>
        dsimp only at reacted
        split at reacted
        · next link linked =>
          split at reacted
          · next offered =>
            cases reacted
            exact .inr (.inr ⟨link, channel, flags, payload, linked, offered, rfl, rfl⟩)
          · cases reacted
        · cases reacted

end Host

/-- What one datagram may do to the tables, and the event it is reported by. A new link stays only
if the peer could be told of it. -/
inductive Applied (source : SocketAddress) : Roster → List RawEvent → Roster → Prop
  | ignored {roster : Roster} : Applied source roster [] roster
  | admitted {host : Host} {next : Nat} (requested : UInt8)
      (stranger : host.peerAt? source = none) (serving : host.role = .server)
      (room : host.isFull = false) :
      Applied source ⟨some host, next⟩ [.connect ⟨next⟩]
        ⟨some (host.insert ⟨next⟩
          { address := source, channels := negotiate requested host.channels,
            state := .connected }), next + 1⟩
  | turnedAway {host : Host} {next : Nat} (requested : UInt8)
      (stranger : host.peerAt? source = none) (serving : host.role = .server)
      (room : host.isFull = false) :
      Applied source ⟨some host, next⟩ []
        ⟨some ((host.insert ⟨next⟩
          { address := source, channels := negotiate requested host.channels,
            state := .connected }).remove ⟨next⟩), next + 1⟩
  | established {host : Host} {next : Nat} {peer : PeerHandle} {link : Link} (granted : UInt8)
      (known : host.peerAt? source = some peer) (linked : host.link? peer = some link)
      (waiting : link.state = .connecting) :
      Applied source ⟨some host, next⟩ [.connect peer]
        ⟨some (host.establish peer link granted), next⟩
  | departed {host : Host} {next : Nat} {peer : PeerHandle}
      (known : host.peerAt? source = some peer) :
      Applied source ⟨some host, next⟩ [.disconnect peer] ⟨some (host.remove peer), next⟩
  | received {host : Host} {next : Nat} {peer : PeerHandle} {link : Link} {channel : UInt8}
      (flags : SendFlags) (payload : Bytes) (known : host.peerAt? source = some peer)
      (linked : host.connectedLink? peer = some link) (offered : channel < link.channels) :
      Applied source ⟨some host, next⟩ [.receive peer channel flags payload] ⟨some host, next⟩

/-- A poll applies its datagrams one after the other. -/
inductive Drained : Roster → List RawEvent → Roster → Prop
  | done {roster : Roster} : Drained roster [] roster
  | more {source : SocketAddress} {before middle after : Roster} {events later : List RawEvent}
      (applied : Applied source before events middle) (rest : Drained middle later after) :
      Drained before (events ++ later) after

namespace Station

variable {ν : Type}

def roster (station : Station ν) : Roster :=
  { host := station.endpoint.host, nextPeer := station.process.nextPeer }

@[simp] theorem roster_setNetwork (station : Station ν) (network : ν) :
    (station.setNetwork network).roster = station.roster := rfl

theorem roster_of_host {station : Station ν} {host : Option Host}
    (hosting : station.endpoint.host = host) :
    station.roster = ⟨host, station.process.nextPeer⟩ := by
  rw [roster, hosting]

variable [Network ν]

theorem sendFrame_cases (socket destination : SocketAddress) (frame : Frame)
    (station : Station ν) :
    ∃ network, sendFrame socket destination frame station = .ok () (station.setNetwork network) ∨
      ∃ reason, sendFrame socket destination frame station =
        .error (.sendFailed reason) (station.setNetwork network) := by
  unfold sendFrame
  split
  · exact ⟨_, .inl rfl⟩
  · exact ⟨_, .inr ⟨_, rfl⟩⟩

theorem attempt_sendFrame (socket destination : SocketAddress) (frame : Frame)
    (station : Station ν) :
    attempt (sendFrame socket destination frame) station =
      station.setNetwork
        (attempt (Network.send socket destination frame.encode) station.process.network) := by
  simp only [attempt, sendFrame]
  cases Network.send socket destination frame.encode station.process.network <;> rfl

theorem roster_attempt_sendFrame (socket destination : SocketAddress) (frame : Frame)
    (station : Station ν) :
    (attempt (sendFrame socket destination frame) station).roster = station.roster := by
  rw [attempt_sendFrame, roster_setNetwork]

theorem answer_cases (socket source : SocketAddress) (frame : Frame) (station : Station ν) :
    ∃ told network, answer socket source frame station = (told, station.setNetwork network) := by
  obtain ⟨network, sent | ⟨reason, failed⟩⟩ := sendFrame_cases socket source frame station
  · exact ⟨true, network, by simp only [answer, sent]⟩
  · exact ⟨false, network, by simp only [answer, failed]⟩

@[simp] theorem roster_receive (socket : SocketAddress) (wait : Nat) (station : Station ν) :
    (receive socket wait station).2.roster = station.roster := rfl

theorem accept_applied {host : Host} {source : SocketAddress} {station : Station ν}
    (hosting : station.endpoint.host = some host) (requested : UInt8)
    (stranger : host.peerAt? source = none) (serving : host.role = .server)
    (room : host.isFull = false) :
    Applied source station.roster
      (accept host source (negotiate requested host.channels) station).1
      (accept host source (negotiate requested host.channels) station).2.roster := by
  obtain ⟨told, network, answered⟩ := answer_cases host.socket source
    (.accept (negotiate requested host.channels)) (newPeer station).2
  rw [roster_of_host hosting]
  simp only [newPeer] at answered
  simp only [accept, newPeer, Bind.bind, StateT.bind, answered]
  cases told with
  | true => exact .admitted requested stranger serving room
  | false => exact .turnedAway requested stranger serving room

theorem handle_applied {host : Host} {station : Station ν}
    (hosting : station.endpoint.host = some host) (source : SocketAddress) (frame : Frame) :
    Applied source station.roster (handle host source frame station).1
      (handle host source frame station).2.roster := by
  cases reacted : host.react source frame with
  | ignore =>
      simp only [handle, reacted]
      exact .ignored
  | answer reply =>
      obtain ⟨told, network, answered⟩ := answer_cases host.socket source reply station
      simp only [handle, reacted, Bind.bind, StateT.bind, answered]
      exact .ignored
  | accept channels =>
      obtain ⟨requested, -, rfl, stranger, serving, room⟩ := Host.of_react_eq_accept reacted
      simp only [handle, reacted]
      exact accept_applied hosting requested stranger serving room
  | report after event =>
      rw [roster_of_host hosting]
      simp only [handle, reacted]
      obtain ⟨peer, known, report⟩ := Host.of_react_eq_report reacted
      rcases report with ⟨link, granted, linked, waiting, rfl, rfl⟩ | ⟨rfl, rfl⟩ |
        ⟨link, channel, flags, payload, linked, offered, rfl, rfl⟩
      · exact .established granted known linked waiting
      · exact .departed known
      · exact .received flags payload known linked offered

theorem handleDatagram_eq (source : SocketAddress) (bytes : Bytes) (station : Station ν) :
    handleDatagram source bytes station =
      match station.endpoint.host, Frame.decode? (bytes.take station.endpoint.room) with
      | some host, some frame => handle host source frame station
      | _, _ => ([], station) := by
  simp only [handleDatagram, Bind.bind, StateT.bind, get, getThe, MonadStateOf.get, StateT.get,
    Pure.pure]
  cases station.endpoint.host with
  | none => rfl
  | some host => cases Frame.decode? (bytes.take station.endpoint.room) <;> rfl

/-- A datagram that is no frame, or that finds no host, is ignored. -/
theorem handleDatagram_applied (source : SocketAddress) (bytes : Bytes) (station : Station ν) :
    Applied source station.roster (handleDatagram source bytes station).1
      (handleDatagram source bytes station).2.roster := by
  rw [handleDatagram_eq]
  split
  · next host frame hosting decoded => exact handle_applied hosting source frame
  · exact .ignored

end Station

end Courier.Datagram

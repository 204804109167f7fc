import Courier.Proofs.Datagram.Attending

namespace Courier.Datagram

/-- A network on which nothing fails: every frame goes out, and nothing but datagrams arrives. -/
structure Interface.Calm (network : Interface) : Prop where
  faultless : network.faults = []
  arrived : ∀ item ∈ network.inbox, ∃ source bytes, item = .datagram source bytes

namespace Interface.Calm

variable {network : Interface}

theorem write (calm : network.Calm) (destination : SocketAddress) (bytes : Bytes) :
    (network.write destination bytes).Calm where
  faultless := by
    change network.faults.tail = []
    rw [calm.faultless, List.tail_nil]
  arrived := calm.arrived

theorem skip (calm : network.Calm) : network.skip.Calm where
  faultless := by
    change network.faults.tail = []
    rw [calm.faultless, List.tail_nil]
  arrived := calm.arrived

theorem close (calm : network.Calm) : network.close.Calm :=
  ⟨calm.faultless, nofun⟩

theorem rest (calm : network.Calm) {item : Receipt} {rest : List Receipt}
    (arrived : network.inbox = item :: rest) : Calm { network with inbox := rest } :=
  ⟨calm.faultless, fun other mem => calm.arrived other (arrived ▸ List.mem_cons_of_mem _ mem)⟩

theorem arrive (calm : network.Calm) (source : SocketAddress) (bytes : Bytes) :
    Calm { network with inbox := network.inbox ++ [.datagram source bytes] } := by
  refine ⟨calm.faultless, fun item mem => ?_⟩
  rcases List.mem_append.mp mem with before | now
  · exact calm.arrived item before
  · exact ⟨source, bytes, List.mem_singleton.mp now⟩

end Interface.Calm

namespace Station

def Calm (station : Station Interface) : Prop :=
  station.process.network.Calm

variable {station : Station Interface}

theorem sendFrame_of_calm (calm : station.Calm) (socket destination : SocketAddress)
    (frame : Frame) :
    sendFrame socket destination frame station = .ok () (station.written destination frame) := by
  rw [sendFrame_eq, calm.faultless]
  rfl

theorem send_of_vacant (vacant : station.endpoint.host = none) (peer : PeerHandle)
    (channel : UInt8) (data : Bytes) (flags : SendFlags) :
    attempt (send peer channel data flags) station = station := by
  have failed : send peer channel data flags station = .error .noHost station := by
    simp only [send, Bind.bind, EStateM.bind, theHost_eq, vacant]
  rw [attempt, failed]

theorem send_of_calm (calm : station.Calm) {host : Host}
    (hosting : station.endpoint.host = some host) (peer : PeerHandle) (channel : UInt8)
    (data : Bytes) (flags : SendFlags) :
    attempt (send peer channel data flags) station =
      match host.connectedLink? peer with
      | none => station
      | some link =>
        if channel < link.channels ∧ data.length ≤ maxPayload then
          station.written link.address (.data channel flags data)
        else station := by
  have sending := send_eq hosting peer channel data flags
  rw [attempt, sending]
  cases host.connectedLink? peer with
  | none => rfl
  | some link =>
      dsimp only
      by_cases closed : link.channels ≤ channel
      · rw [if_pos closed, if_neg fun fits => UInt8.not_le.mpr fits.1 closed]
      · by_cases long : maxPayload < data.length
        · rw [if_neg closed, if_pos long, if_neg fun fits => Nat.not_lt.mpr fits.2 long]
        · rw [if_neg closed, if_neg long,
            if_pos ⟨UInt8.not_le.mp closed, Nat.not_lt.mp long⟩, sendFrame_of_calm calm]

theorem disconnectPeer_of_calm (calm : station.Calm) {host : Host}
    (hosting : station.endpoint.host = some host) (peer : PeerHandle) :
    attempt (disconnectPeer peer) station =
      match host.link? peer with
      | none => station
      | some link =>
        (station.setHost (some (host.remove peer))).written link.address .disconnect := by
  have left := disconnectPeer_eq peer station
  simp only [hosting] at left
  rw [attempt, left]
  cases host.link? peer with
  | none => rfl
  | some link =>
      dsimp only
      have still : (station.setHost (some (host.remove peer))).Calm := calm
      rw [sendFrame_of_calm still]

theorem disconnectPeer_of_vacant (vacant : station.endpoint.host = none) (peer : PeerHandle) :
    attempt (disconnectPeer peer) station = station := by
  have left := disconnectPeer_eq peer station
  simp only [vacant] at left
  rw [attempt, left]

namespace Calm

theorem written (calm : station.Calm) (destination : SocketAddress) (frame : Frame) :
    (station.written destination frame).Calm :=
  calm.write destination frame.encode

theorem send (calm : station.Calm) (peer : PeerHandle) (channel : UInt8) (data : Bytes)
    (flags : SendFlags) : (attempt (send peer channel data flags) station).Calm := by
  cases hosting : station.endpoint.host with
  | none => rwa [send_of_vacant hosting]
  | some host =>
      rw [send_of_calm calm hosting]
      repeat' split
      · exact calm
      · exact calm.written _ _
      · exact calm

theorem disconnectPeer (calm : station.Calm) (peer : PeerHandle) :
    (attempt (disconnectPeer peer) station).Calm := by
  cases hosting : station.endpoint.host with
  | none => rwa [disconnectPeer_of_vacant hosting]
  | some host =>
      rw [disconnectPeer_of_calm calm hosting]
      split
      · exact calm
      · have still : (station.setHost (some (host.remove peer))).Calm := calm
        exact still.written _ .disconnect

theorem disconnectAll (calm : station.Calm) (peers : List PeerHandle) :
    (disconnectAll peers station).2.Calm := by
  induction peers generalizing station with
  | nil => exact calm
  | cons peer rest ih =>
      rw [snd_disconnectAll_cons]
      exact ih (calm.disconnectPeer peer)

theorem disconnect (calm : station.Calm) : (attempt disconnect station).Calm := by
  cases hosting : station.endpoint.host with
  | none => rwa [disconnect_of_vacant hosting]
  | some host =>
      rw [disconnect_of_host hosting]
      exact calm.disconnectAll host.links.keys

theorem stop (calm : station.Calm) : station.stop.Calm := by
  unfold Station.stop closeHost
  split
  · exact calm
  · exact calm.close

theorem start (calm : station.Calm) : station.start.Calm := by
  unfold Station.start
  split <;> exact calm

theorem handleDatagram (calm : station.Calm) (source : SocketAddress) (bytes : Bytes) :
    (handleDatagram source bytes station).2.Calm := by
  rw [handleDatagram_eq]
  split
  · next host frame hosting decoded =>
    rw [Calm]
    rcases network_handle host source frame station with same | skipped | ⟨reply, -, sent⟩
    · rw [same]
      exact calm
    · rw [skipped]
      exact calm.skip
    · rw [sent]
      exact calm.write source reply.encode
  · exact calm

theorem received (calm : station.Calm) {socket : SocketAddress} {wait : Nat} {receipt : Receipt}
    {arrived : Station Interface}
    (received : receive socket wait station = (receipt, arrived)) :
    arrived.Calm ∧
      (receipt = .nothing ∨ ∃ source bytes, receipt = .datagram source bytes) := by
  rcases inbox_of_receive received with ⟨rfl, rfl⟩ | ⟨rest, waiting, rfl⟩
  · exact ⟨calm, .inl rfl⟩
  · exact ⟨Interface.Calm.rest calm waiting,
      .inr (calm.arrived receipt (waiting ▸ List.mem_cons_self))⟩

/-- Nothing ends a batch early. -/
theorem gathered {socket : SocketAddress} {bound wait : Nat} {batch : Batch}
    {after : Station Interface} (gathers : Gathers socket bound wait station batch after)
    (calm : station.Calm) : after.Calm ∧ batch.failure = none := by
  induction gathers with
  | enough => exact ⟨calm, rfl⟩
  | nothing received => exact ⟨(calm.received received).1, rfl⟩
  | failed received | reset received =>
      obtain ⟨-, none | ⟨source, bytes, read⟩⟩ := calm.received received
      · cases none
      · cases read
  | datagram received rest ih =>
      exact ih ((calm.received received).1.handleDatagram _ _)

theorem takeBatch (calm : station.Calm) (timeout : Nat) :
    (takeBatch timeout station).2.Calm := by
  unfold Station.takeBatch
  split
  · exact calm
  · exact (gathered (gathers_gather ..) calm).1

end Calm

/-- As long as there is a host, a poll succeeds. -/
theorem poll_of_calm (calm : station.Calm) (hosted : station.endpoint.host.isSome)
    (timeout : Nat) :
    poll timeout station =
      .ok (takeBatch timeout station).1.events (takeBatch timeout station).2 := by
  have ended : (takeBatch timeout station).1.failure = none := by
    unfold takeBatch
    split
    · next vacant =>
      rw [vacant] at hosted
      cases hosted
    · exact (Calm.gathered (gathers_gather ..) calm).2
  rw [poll_eq_answer, Batch.answer, ended]

theorem takeBatch_of_poll {timeout : Nat} {after : Station Interface} {events : List RawEvent}
    (polled : poll timeout station = .ok events after) :
    (takeBatch timeout station).1.events = events ∧ (takeBatch timeout station).2 = after := by
  rw [poll_eq_answer, Batch.answer] at polled
  split at polled
  · cases polled
    exact ⟨rfl, rfl⟩
  · cases polled

theorem eq_of_poll_eq_error (calm : station.Calm) {timeout : Nat} {after : Station Interface}
    {error : TransportError} (failed : poll timeout station = .error error after) :
    after = station := by
  cases hosting : station.endpoint.host with
  | none =>
      rw [poll_of_vacant hosting] at failed
      cases failed
      rfl
  | some host =>
      rw [poll_of_calm calm (by rw [hosting]; rfl)] at failed
      cases failed

theorem calm_run (call : TransportCall) (usual : call.Usual) :
    Preserves Calm (call.run : EStateM TransportError (Station Interface) call.Answer) := by
  intro station calm
  rcases usual with plain | ⟨timeout, rfl⟩
  · cases call with
    | start => exact calm.start
    | stop => exact calm.stop
    | disconnect => exact calm.disconnect
    | disconnectPeer peer => exact calm.disconnectPeer peer
    | send peer channel data flags => exact calm.send peer channel data flags
    | createServer => exact plain.elim
    | createClient => exact plain.elim
    | connect => exact plain.elim
    | poll => exact plain.elim
  · change Calm (station.meet (.call (.poll timeout)))
    rw [meet_poll]
    exact calm.takeBatch timeout

end Station

namespace Dealings

def say (dealings : Dealings) (peer : PeerHandle) (channel : UInt8) (flags : SendFlags)
    (data : Bytes) : Dealings :=
  match dealings.facing with
  | none => dealings
  | some (known, link) =>
    if known = peer ∧ link.state = .connected ∧ channel < link.channels ∧
        data.length ≤ maxPayload then
      { dealings with wrote := dealings.wrote ++ [.data channel flags data] }
    else dealings

def part (dealings : Dealings) (peer : PeerHandle) : Dealings :=
  match dealings.facing with
  | none => dealings
  | some (known, _) =>
    if known = peer then ⟨none, dealings.wrote ++ [.disconnect]⟩ else dealings

variable {dealings : Dealings} {peer other : PeerHandle} {link : Link}

@[simp] theorem facing_say (dealings : Dealings) (peer : PeerHandle) (channel : UInt8)
    (flags : SendFlags) (data : Bytes) :
    (dealings.say peer channel flags data).facing = dealings.facing := by
  rw [say]
  split
  · rfl
  · split <;> rfl

theorem say_of_facing (facing : dealings.facing = some (peer, link))
    (connected : link.state = .connected) {channel : UInt8} (offered : channel < link.channels)
    {data : Bytes} (short : data.length ≤ maxPayload) (flags : SendFlags) :
    dealings.say peer channel flags data =
      ⟨some (peer, link), dealings.wrote ++ [.data channel flags data]⟩ := by
  rw [say, facing]
  exact if_pos ⟨rfl, connected, offered, short⟩

theorem say_eq_self {channel : UInt8} {flags : SendFlags} {data : Bytes}
    (silent : ∀ link, dealings.facing = some (peer, link) →
      ¬ (link.state = .connected ∧ channel < link.channels ∧ data.length ≤ maxPayload)) :
    dealings.say peer channel flags data = dealings := by
  rw [say]
  split
  · rfl
  · next known link facing =>
    rw [if_neg]
    rintro ⟨rfl, fits⟩
    exact silent link facing fits

theorem part_of_facing (facing : dealings.facing = some (peer, link)) :
    dealings.part peer = ⟨none, dealings.wrote ++ [.disconnect]⟩ := by
  rw [part, facing]
  exact if_pos rfl

theorem of_facing_part (facing : (dealings.part peer).facing = some (other, link)) :
    dealings.facing = some (other, link) := by
  rw [part] at facing
  split at facing
  · exact facing
  · split at facing
    · cases facing
    · exact facing

theorem part_eq_self (other : ∀ link, dealings.facing ≠ some (peer, link)) :
    dealings.part peer = dealings := by
  rw [part]
  split
  · rfl
  · next known link facing =>
    rw [if_neg]
    rintro rfl
    exact other link facing

end Dealings

namespace Station

variable {role : Role} {limit : UInt8} {address : SocketAddress} {station : Station Interface}

theorem facing_of_vacant (vacant : station.endpoint.host = none) (address : SocketAddress) :
    (station.dealings address).facing = none := by
  rw [dealings, vacant]
  rfl

namespace Attending

theorem facing_eq_some_iff (attending : station.Attending role limit address) {host : Host}
    (hosting : station.endpoint.host = some host) (peer : PeerHandle) (link : Link) :
    (station.dealings address).facing = some (peer, link) ↔
      host.link? peer = some link ∧ link.address = address := by
  have attends := attending.host hosting
  rw [dealings_of_host hosting]
  exact Host.facing?_eq_some_iff attends.sound attends.faces

theorem facing_iff (attending : station.Attending role limit address) (peer : PeerHandle)
    (link : Link) :
    (station.dealings address).facing = some (peer, link) ↔
      station.roster.link? peer = some link ∧ link.address = address := by
  cases hosting : station.endpoint.host with
  | none => simp [facing_of_vacant hosting, roster_of_host hosting]
  | some host =>
      rw [attending.facing_eq_some_iff hosting, roster_of_host hosting, Roster.link?_some]

theorem dealings_send (attending : station.Attending role limit address) (calm : station.Calm)
    (peer : PeerHandle) (channel : UInt8) (data : Bytes) (flags : SendFlags) :
    (attempt (Station.send peer channel data flags) station).dealings address =
      (station.dealings address).say peer channel flags data := by
  cases hosting : station.endpoint.host with
  | none =>
      rw [send_of_vacant hosting, Dealings.say, facing_of_vacant hosting]
  | some host =>
      have facing := attending.facing_eq_some_iff hosting peer
      rw [send_of_calm calm hosting]
      cases found : host.connectedLink? peer with
      | none =>
          refine (Dealings.say_eq_self fun link faced fits => ?_).symm
          have linked := ((facing link).mp faced).1
          simp [Host.connectedLink?, linked, fits.1] at found
      | some link =>
          obtain ⟨linked, connected⟩ := Host.of_connectedLink?_eq_some found
          dsimp only
          by_cases fits : channel < link.channels ∧ data.length ≤ maxPayload
          · rw [if_pos fits, dealings_written]
            by_cases there : link.address = address
            · have faced := (facing link).mpr ⟨linked, there⟩
              rw [if_pos there, Dealings.say_of_facing faced connected fits.1 fits.2, ← faced]
              rfl
            · rw [if_neg there]
              refine (Dealings.say_eq_self fun other faced _ => ?_).symm
              obtain ⟨linked', here⟩ := (facing other).mp faced
              cases linked.symm.trans linked'
              exact there here
          · rw [if_neg fits]
            refine (Dealings.say_eq_self fun other faced fits' => ?_).symm
            cases linked.symm.trans ((facing other).mp faced).1
            exact fits fits'.2

theorem dealings_disconnectPeer (attending : station.Attending role limit address)
    (calm : station.Calm) (peer : PeerHandle) :
    (attempt (Station.disconnectPeer peer) station).dealings address =
      (station.dealings address).part peer := by
  cases hosting : station.endpoint.host with
  | none =>
      rw [disconnectPeer_of_vacant hosting, Dealings.part, facing_of_vacant hosting]
  | some host =>
      have facing := attending.facing_eq_some_iff hosting peer
      rw [disconnectPeer_of_calm calm hosting]
      cases linked : host.link? peer with
      | none =>
          refine (Dealings.part_eq_self fun link faced => ?_).symm
          rw [((facing link).mp faced).1] at linked
          cases linked
      | some link =>
          obtain ⟨-, removed⟩ := attending.removed hosting linked
          dsimp only
          rw [dealings_written, wrote_setHost, removed]
          by_cases there : link.address = address
          · rw [if_pos there, if_pos there,
              Dealings.part_of_facing ((facing link).mpr ⟨linked, there⟩)]
            rfl
          · rw [if_neg there, if_neg there]
            refine (Dealings.part_eq_self fun other faced => ?_).symm
            obtain ⟨linked', here⟩ := (facing other).mp faced
            cases linked.symm.trans linked'
            exact there here

end Attending

/-- A station that attends an address on a network on which nothing fails. -/
structure Steady (role : Role) (limit : UInt8) (address : SocketAddress)
    (station : Station Interface) : Prop where
  attending : station.Attending role limit address
  calm : station.Calm

theorem steady_run (call : TransportCall) (usual : call.Usual) :
    Preserves (Steady role limit address)
      (call.run : EStateM TransportError (Station Interface) call.Answer) := by
  intro station steady
  refine ⟨?_, calm_run call usual steady.calm⟩
  rcases usual with plain | ⟨timeout, rfl⟩
  · exact (steady.attending.plain plain).1
  · change (station.meet (.call (.poll timeout))).Attending role limit address
    rw [meet_poll]
    exact (steady.attending.taken timeout).1

end Station

end Courier.Datagram

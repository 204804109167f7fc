import Courier.Proofs.Datagram.History

namespace Courier.Datagram

/-! Room for a datagram. An endpoint has none before its first start, and enough for every datagram
from then on. Only starting and stopping touch that, so that there is room wherever there is a
host. -/

/-- A frame to the address, or nothing at all, is all that is sent. -/
def SentTo {ν : Type} [Network ν] (socket destination : SocketAddress) (before after : ν) : Prop :=
  after = before ∨
    ∃ frame : Frame, after = attempt (Network.send socket destination frame.encode) before

theorem Roster.isSome_host_foldl_remove (roster : Roster) (peers : List PeerHandle) :
    (peers.foldl remove roster).host.isSome = roster.host.isSome := by
  induction peers generalizing roster with
  | nil => rfl
  | cons peer rest ih =>
      rw [List.foldl_cons, ih, remove, Option.isSome_map]

theorem Applied.isSome_host {source : SocketAddress} {before after : Roster}
    {events : List RawEvent} (applied : Applied source before events after) :
    after.host.isSome = before.host.isSome := by
  cases applied <;> rfl

theorem Drained.isSome_host {before after : Roster} {events : List RawEvent}
    (drained : Drained before events after) : after.host.isSome = before.host.isSome := by
  induction drained with
  | done => rfl
  | more applied rest ih => exact ih.trans applied.isSome_host

namespace Station

variable {ν : Type}

/-- Whether the endpoint is started, and the room it has. -/
def gear (station : Station ν) : Bool × Nat :=
  (station.endpoint.started, station.endpoint.room)

/-- There is no room for anything, or for every datagram, so that no datagram is taken for a shorter
one. -/
def HasRoom (station : Station ν) : Prop :=
  station.endpoint.room = 0 ∨ station.endpoint.room = maxDatagram

structure Equipped (station : Station ν) : Prop where
  of_started : station.endpoint.started = true → station.endpoint.room = maxDatagram
  of_host : station.endpoint.host.isSome = true → station.endpoint.room = maxDatagram

theorem HasRoom.of_gear_eq {before after : Station ν} (first : before.HasRoom)
    (same : after.gear = before.gear) : after.HasRoom := by
  have room : after.endpoint.room = before.endpoint.room := congrArg Prod.snd same
  rwa [HasRoom, room]

/-- A host is there from before, or it has been made after the start. -/
theorem Equipped.of_gear_eq {before after : Station ν} (first : before.Equipped)
    (same : after.gear = before.gear)
    (hosted : after.endpoint.host.isSome = true →
      before.endpoint.host.isSome = true ∨ before.endpoint.started = true) :
    after.Equipped := by
  have started : after.endpoint.started = before.endpoint.started := congrArg Prod.fst same
  have room : after.endpoint.room = before.endpoint.room := congrArg Prod.snd same
  refine ⟨fun ready => ?_, fun hosting => ?_⟩
  · rw [room]
    exact first.of_started (started ▸ ready)
  · rw [room]
    exact (hosted hosting).elim first.of_host first.of_started

theorem hasRoom_start {station : Station ν} (first : station.HasRoom) : station.start.HasRoom := by
  unfold start
  split
  · exact first
  · exact .inr rfl

theorem equipped_start {station : Station ν} (first : station.Equipped) :
    station.start.Equipped := by
  unfold start
  split
  · exact first
  · exact ⟨fun _ => rfl, fun _ => rfl⟩

theorem hosted_or_started_of_checked {station : Station ν}
    {create : Unit → EStateM TransportError (Station ν) Unit}
    (hosted : (attempt (checkCanCreate >>= create) station).endpoint.host.isSome = true) :
    station.endpoint.host.isSome = true ∨ station.endpoint.started = true := by
  cases ready : station.endpoint.started with
  | true => exact .inr rfl
  | false =>
      have refused : checkCanCreate station = .error .notStarted station := by
        simp [checkCanCreate_eq, ready]
      simp only [attempt, Bind.bind, EStateM.bind, refused] at hosted
      exact .inl hosted

theorem keeps_gear_theHost : Keeps gear (theHost : EStateM TransportError (Station ν) Host) :=
  Keeps.get.bind fun _ => by
    split
    · exact Keeps.pure _
    · exact Keeps.throw _

variable [Network ν]

theorem hasRoom_stop {station : Station ν} (first : station.HasRoom) : station.stop.HasRoom := by
  unfold stop closeHost
  split <;> exact first

theorem equipped_stop {station : Station ν} (first : station.Equipped) :
    station.stop.Equipped := by
  unfold stop closeHost
  split
  · exact ⟨fun started => (nomatch started), first.of_host⟩
  · exact ⟨fun started => (nomatch started), fun hosting => (nomatch hosting)⟩

theorem keeps_gear_resolve (name : String) (port : UInt16) :
    Keeps gear (resolve name port : EStateM TransportError (Station ν) SocketAddress) :=
  Keeps.get.bind fun _ => by
    split
    · exact Keeps.pure _
    · exact Keeps.throw _

theorem keeps_gear_sendFrame (socket destination : SocketAddress) (frame : Frame) :
    Keeps gear (sendFrame socket destination frame : EStateM TransportError (Station ν) Unit) := by
  intro station
  rw [attempt_sendFrame]
  rfl

theorem keeps_gear_reachable (host : Host) (address : SocketAddress) :
    Keeps gear (reachable host address : EStateM TransportError (Station ν) Host) := by
  intro station
  rcases reachable_cases host address station with ⟨error, network, failed⟩ | ⟨-, same⟩ |
    ⟨-, socket, network, moved⟩
  · rw [attempt, failed]
    rfl
  · rw [attempt, same]
  · rw [attempt, moved]
    rfl

theorem keeps_gear_connect (name : String) (port : UInt16) (channels : UInt8) :
    Keeps gear (connect name port channels : EStateM TransportError (Station ν) PeerHandle) := by
  refine keeps_gear_theHost.bind fun _ => (keeps_gear_resolve name port).bind fun address =>
    keeps_gear_theHost.bind fun known => ?_
  split
  · exact Keeps.throw _
  · refine (keeps_gear_reachable known address).bind fun ready => ?_
    refine Keeps.bind (Keeps.always fun _ => rfl) fun peer => ?_
    refine Keeps.bind (Keeps.modify fun _ => rfl) fun _ => ?_
    exact (keeps_gear_sendFrame ready.socket address _).bind fun _ => Keeps.pure peer

theorem keeps_gear_disconnectPeer (peer : PeerHandle) :
    Keeps gear (disconnectPeer peer : EStateM TransportError (Station ν) Unit) := by
  intro station
  have left := disconnectPeer_eq peer station
  split at left
  · rw [attempt, left]
  · split at left
    · rw [attempt, left]
    · rw [attempt_congr left]
      exact keeps_gear_sendFrame _ _ _ _

theorem keeps_gear_disconnect :
    Keeps gear (disconnect : EStateM TransportError (Station ν) Unit) := by
  have left (peers : List PeerHandle) (station : Station ν) :
      (disconnectAll peers station).2.gear = station.gear := by
    induction peers generalizing station with
    | nil => rfl
    | cons peer rest ih =>
        rw [snd_disconnectAll_cons, ih]
        exact keeps_gear_disconnectPeer peer station
  intro station
  cases hosting : station.endpoint.host with
  | none => rw [disconnect_of_vacant hosting]
  | some host =>
      rw [disconnect_of_host hosting]
      exact left host.links.keys station

theorem keeps_gear_send (peer : PeerHandle) (channel : UInt8) (data : Bytes) (flags : SendFlags) :
    Keeps gear (send peer channel data flags : EStateM TransportError (Station ν) Unit) := by
  intro station
  rcases send_cases peer channel data flags station with
    ⟨error, refused⟩ | ⟨host, link, -, -, -, -, sent⟩
  · rw [attempt, refused]
  · rw [attempt_congr sent]
    exact keeps_gear_sendFrame _ _ _ _

theorem keeps_gear_createServer (name : String) (port : UInt16) (channels : UInt8)
    (maxPeers : Nat) :
    Keeps gear
      (createServer name port channels maxPeers : EStateM TransportError (Station ν) Unit) := by
  intro station
  rcases createServer_cases name port channels maxPeers station with
    ⟨error, network, failed⟩ | ⟨-, socket, network, made⟩
  · rw [attempt, failed]
    rfl
  · rw [attempt, made]
    rfl

theorem keeps_gear_createClient (channels : UInt8) :
    Keeps gear (createClient channels : EStateM TransportError (Station ν) Unit) := by
  intro station
  rcases createClient_cases channels station with
    ⟨error, network, failed⟩ | ⟨-, socket, network, made⟩
  · rw [attempt, failed]
    rfl
  · rw [attempt, made]
    rfl

theorem snd_answer (socket source : SocketAddress) (frame : Frame) (station : Station ν) :
    (answer socket source frame station).2 =
      station.setNetwork
        (attempt (Network.send socket source frame.encode) station.process.network) := by
  simp only [answer, sendFrame, attempt]
  cases Network.send socket source frame.encode station.process.network <;> rfl

/-- A frame is answered by one frame at most, and with the gear there is. -/
theorem handle_leaves (host : Host) (source : SocketAddress) (frame : Frame)
    (station : Station ν) :
    let after := (handle host source frame station).2
    after.gear = station.gear ∧
      SentTo host.socket source station.process.network after.process.network := by
  have told (reply : Frame) (station : Station ν) :
      ∃ sent, answer host.socket source reply station = (sent, station.setNetwork
        (attempt (Network.send host.socket source reply.encode) station.process.network)) :=
    ⟨_, Prod.ext rfl (snd_answer host.socket source reply station)⟩
  cases reacted : host.react source frame with
  | ignore =>
      simp only [handle, reacted]
      exact ⟨rfl, .inl rfl⟩
  | answer reply =>
      obtain ⟨sent, answered⟩ := told reply station
      simp only [handle, reacted, Bind.bind, StateT.bind, answered]
      exact ⟨rfl, .inr ⟨reply, rfl⟩⟩
  | accept channels =>
      obtain ⟨sent, answered⟩ := told (.accept channels) (newPeer station).2
      simp only [newPeer] at answered
      simp only [handle, reacted, accept, newPeer, Bind.bind, StateT.bind, answered]
      cases sent with
      | true => exact ⟨rfl, .inr ⟨.accept channels, rfl⟩⟩
      | false => exact ⟨rfl, .inr ⟨.accept channels, rfl⟩⟩
  | report after event =>
      simp only [handle, reacted]
      exact ⟨rfl, .inl rfl⟩

theorem handleDatagram_leaves {station : Station ν} {host : Host}
    (hosting : station.endpoint.host = some host) (source : SocketAddress) (bytes : Bytes) :
    let after := (handleDatagram source bytes station).2
    after.gear = station.gear ∧
      SentTo host.socket source station.process.network after.process.network := by
  rw [handleDatagram_eq, hosting]
  cases Frame.decode? (bytes.take station.endpoint.room) with
  | none => exact ⟨rfl, .inl rfl⟩
  | some frame => exact handle_leaves host source frame station

theorem gear_handleDatagram (source : SocketAddress) (bytes : Bytes) (station : Station ν) :
    (handleDatagram source bytes station).2.gear = station.gear := by
  cases hosting : station.endpoint.host with
  | none => rw [handleDatagram_eq, hosting]
  | some host => exact (handleDatagram_leaves hosting source bytes).1

theorem gear_of_receive {socket : SocketAddress} {wait : Nat} {station arrived : Station ν}
    {receipt : Receipt} (received : receive socket wait station = (receipt, arrived)) :
    arrived.gear = station.gear := by
  rw [receive] at received
  cases received
  rfl

theorem Gathers.gear_eq {socket : SocketAddress} {limit wait : Nat} {station after : Station ν}
    {batch : Batch} (gathers : Gathers socket limit wait station batch after) :
    after.gear = station.gear := by
  induction gathers with
  | enough => rfl
  | nothing received | failed received => exact gear_of_receive received
  | reset received rest ih => exact ih.trans (gear_of_receive received)
  | datagram received rest ih =>
      exact ih.trans ((gear_handleDatagram _ _ _).trans (gear_of_receive received))

theorem gear_takeBatch (timeout : Nat) (station : Station ν) :
    (takeBatch timeout station).2.gear = station.gear := by
  unfold takeBatch
  split
  · rfl
  · exact (gathers_gather ..).gear_eq

theorem gear_meet {occurrence : Occurrence ν} (starting : occurrence ≠ .call .start)
    (stopping : occurrence ≠ .call .stop) (station : Station ν) :
    (station.meet occurrence).gear = station.gear := by
  cases occurrence with
  | elsewhere network handles => rfl
  | call call =>
      cases call with
      | start => exact absurd rfl starting
      | stop => exact absurd rfl stopping
      | createServer name port channels maxPeers =>
          exact keeps_gear_createServer name port channels maxPeers station
      | createClient channels => exact keeps_gear_createClient channels station
      | connect name port channels => exact keeps_gear_connect name port channels station
      | disconnect => exact keeps_gear_disconnect station
      | disconnectPeer peer => exact keeps_gear_disconnectPeer peer station
      | poll timeout =>
          rw [meet_poll]
          exact gear_takeBatch timeout station
      | send peer channel data flags => exact keeps_gear_send peer channel data flags station

theorem hasRoom_meet {station : Station ν} (first : station.HasRoom)
    (occurrence : Occurrence ν) : (station.meet occurrence).HasRoom := by
  by_cases starting : occurrence = .call .start
  · subst starting
    exact hasRoom_start first
  · by_cases stopping : occurrence = .call .stop
    · subst stopping
      exact hasRoom_stop first
    · exact first.of_gear_eq (gear_meet starting stopping station)

/-- Where there is a host there has been one before, or the endpoint was started. -/
theorem hosted_or_started {station : Station ν} {occurrence : Occurrence ν}
    (hosted : (station.meet occurrence).roster.host.isSome = true) :
    station.endpoint.host.isSome = true ∨ station.endpoint.started = true := by
  cases occurrence with
  | elsewhere network handles => exact .inl hosted
  | call call =>
      cases call with
      | start =>
          change station.start.roster.host.isSome = true at hosted
          rw [roster_start] at hosted
          exact .inl hosted
      | stop =>
          change station.stop.roster.host.isSome = true at hosted
          rw [roster_stop] at hosted
          cases hosted
      | createServer name port channels maxPeers =>
          exact hosted_or_started_of_checked hosted
      | createClient channels => exact hosted_or_started_of_checked hosted
      | connect name port channels =>
          change (attempt (connect name port channels) station).roster.host.isSome = true at hosted
          rcases roster_connect_cases name port channels station with same |
            ⟨known, address, socket, link, hosting, -⟩
          · rw [same] at hosted
            exact .inl hosted
          · exact .inl (Option.isSome_of_eq_some hosting)
      | disconnect =>
          change (attempt disconnect station).roster.host.isSome = true at hosted
          obtain ⟨peers, left⟩ := roster_disconnect station
          rw [left, Roster.isSome_host_foldl_remove] at hosted
          exact .inl hosted
      | disconnectPeer peer =>
          change (attempt (disconnectPeer peer) station).roster.host.isSome = true at hosted
          rw [roster_disconnectPeer, Roster.remove, Option.isSome_map] at hosted
          exact .inl hosted
      | poll timeout =>
          rw [meet_poll, (takeBatch_drained timeout station).isSome_host] at hosted
          exact .inl hosted
      | send peer channel data flags =>
          change (attempt (send peer channel data flags) station).roster.host.isSome = true
            at hosted
          rw [roster_send] at hosted
          exact .inl hosted

theorem equipped_meet {station : Station ν} (first : station.Equipped)
    (occurrence : Occurrence ν) : (station.meet occurrence).Equipped := by
  by_cases starting : occurrence = .call .start
  · subst starting
    exact equipped_start first
  · by_cases stopping : occurrence = .call .stop
    · subst stopping
      exact equipped_stop first
    · exact first.of_gear_eq (gear_meet starting stopping station) hosted_or_started

end Station

end Courier.Datagram

import Courier.Proofs.Datagram.Admission
import Courier.Proofs.Datagram.Interface
import Courier.Proofs.Datagram.Isolation

namespace Courier.Datagram

/-! How payloads are carried. A payload that fits goes out in one datagram, and whoever takes that
datagram in reports it as it was, if the sender is heard: its address has to stand for a connected
link that has the channel. -/

namespace Host

/-- The peer that the address stands for, if its link is connected and has the channel. -/
def hearer? (host : Host) (source : SocketAddress) (channel : UInt8) : Option PeerHandle :=
  (host.peerAt? source).filter fun peer =>
    (host.connectedLink? peer).any fun link => channel < link.channels

/-- A link of the address is connected, and has the channel. -/
def Holds (host : Host) (address : SocketAddress) (channel : UInt8) : Prop :=
  ∃ peer link, host.connectedLink? peer = some link ∧ link.address = address ∧
    channel < link.channels

variable {host : Host} {source : SocketAddress} {channel : UInt8} {peer : PeerHandle}

theorem hearer?_eq_some_iff :
    host.hearer? source channel = some peer ↔ host.peerAt? source = some peer ∧
      ∃ link, host.connectedLink? peer = some link ∧ channel < link.channels := by
  simp [hearer?, Option.filter_eq_some_iff, Option.any_eq_true]

theorem Sound.holds_of_hearer? {next : Nat} (sound : host.Sound next)
    (heard : host.hearer? source channel = some peer) : host.Holds source channel := by
  obtain ⟨known, link, connected, offered⟩ := hearer?_eq_some_iff.mp heard
  obtain ⟨found, linked, same⟩ := sound.linked known
  cases linked.symm.trans (of_connectedLink?_eq_some connected).1
  exact ⟨peer, link, connected, same, offered⟩

/-- Where the tables are inverse to each other, every connected link is heard. -/
theorem Inverse.exists_hearer? (inverse : host.Inverse) (holds : host.Holds source channel) :
    ∃ peer, host.hearer? source channel = some peer := by
  obtain ⟨peer, link, connected, same, offered⟩ := holds
  have linked := (of_connectedLink?_eq_some connected).1
  exact ⟨peer, hearer?_eq_some_iff.mpr ⟨(inverse _ _).mpr ⟨link, linked, same⟩, link, connected,
    offered⟩⟩

theorem react_data (host : Host) (source : SocketAddress) (channel : UInt8) (flags : SendFlags)
    (payload : Bytes) :
    host.react source (.data channel flags payload) =
      match host.hearer? source channel with
      | some peer => .report host (.receive peer channel flags payload)
      | none => .ignore := by
  unfold react hearer?
  cases host.peerAt? source with
  | none => rfl
  | some peer =>
      cases connected : host.connectedLink? peer with
      | none => simp [reactToPeer, connected, Option.filter]
      | some link =>
          by_cases offered : channel < link.channels
          · simp [reactToPeer, connected, offered, Option.filter]
          · simp [reactToPeer, connected, offered, Option.filter]

end Host

/-- A datagram that is taken from a socket: where it is from, and the station when it is taken. -/
structure TakenDatagram (ν : Type) where
  source : SocketAddress
  bytes : Bytes
  moment : Station ν

namespace Station

variable {ν : Type} [Network ν]

theorem send_of_connected {station : Station ν} {host : Host} {peer : PeerHandle} {link : Link}
    (hosting : station.endpoint.host = some host)
    (connected : host.connectedLink? peer = some link) {channel : UInt8} {data : Bytes}
    (offered : channel < link.channels) (fits : data.length ≤ maxPayload) (flags : SendFlags) :
    send peer channel data flags station =
      sendFrame host.socket link.address (.data channel flags data) station := by
  rw [send_eq hosting, connected]
  dsimp only
  rw [if_neg (UInt8.not_le.mpr offered), if_neg (Nat.not_lt.mpr fits)]

theorem sendFrame_eq_ok_iff (socket destination : SocketAddress) (frame : Frame)
    (station : Station ν) :
    (∃ after, sendFrame socket destination frame station = .ok () after) ↔
      Sendable socket destination frame station.process.network := by
  simp only [sendFrame, Sendable]
  cases Network.send socket destination frame.encode station.process.network <;> simp

/-- The datagrams that a poll takes from its socket, in the order in which they have arrived. -/
def takenFrom (socket : SocketAddress) : (limit wait : Nat) → Station ν → List (TakenDatagram ν)
  | 0, _, _ => []
  | limit + 1, wait, station =>
    match receive socket wait station with
    | (.nothing, _) | (.failed _, _) => []
    | (.reset, arrived) => takenFrom socket limit 0 arrived
    | (.datagram source bytes, arrived) =>
      ⟨source, bytes, arrived⟩ :: takenFrom socket limit 0 (handleDatagram source bytes arrived).2

def taken (timeout : Nat) (station : Station ν) : List (TakenDatagram ν) :=
  match station.endpoint.host with
  | none => []
  | some host =>
    takenFrom host.socket (2 * Network.backlog station.process.network host.socket + 1) timeout
      station

end Station

def TakenDatagram.reports {ν : Type} [Network ν] (datagram : TakenDatagram ν) : List RawEvent :=
  (Station.handleDatagram datagram.source datagram.bytes datagram.moment).1

namespace Station

variable {ν : Type} [Network ν]

theorem Gathers.events_eq {socket : SocketAddress} {limit wait : Nat} {station after : Station ν}
    {batch : Batch} (gathers : Gathers socket limit wait station batch after) :
    batch.events = (takenFrom socket limit wait station).flatMap TakenDatagram.reports := by
  induction gathers with
  | enough => rfl
  | nothing received | failed received =>
      simp only [takenFrom, received]
      rfl
  | reset received rest ih =>
      simp only [takenFrom, received]
      exact ih
  | datagram received rest ih =>
      simp only [takenFrom, received, List.flatMap_cons, ← ih]
      rfl

theorem events_takeBatch (timeout : Nat) (station : Station ν) :
    (takeBatch timeout station).1.events =
      (taken timeout station).flatMap TakenDatagram.reports := by
  rw [takeBatch, taken]
  cases station.endpoint.host with
  | none => rfl
  | some host => exact (gathers_gather host.socket _ timeout station).events_eq

/-- What receiving and handling keep true is true whenever a datagram is taken. -/
theorem moment_of_mem_takings {holds : Station ν → Prop}
    (took : ∀ socket wait station, holds station → holds (receive socket wait station).2)
    (heard : ∀ source bytes station, holds station → holds (handleDatagram source bytes station).2)
    {socket : SocketAddress} {limit wait : Nat} {station : Station ν} (first : holds station)
    {datagram : TakenDatagram ν} (mem : datagram ∈ takenFrom socket limit wait station) :
    holds datagram.moment := by
  induction limit generalizing wait station with
  | zero => cases mem
  | succ limit ih =>
      have next := took socket wait station first
      cases received : receive socket wait station with
      | mk receipt arrived =>
          rw [received] at next
          cases receipt with
          | nothing | failed =>
              simp only [takenFrom, received] at mem
              cases mem
          | reset =>
              simp only [takenFrom, received] at mem
              exact ih next mem
          | datagram source bytes =>
              simp only [takenFrom, received] at mem
              cases mem with
              | head => exact next
              | tail _ later => exact ih (heard source bytes arrived next) later

theorem moment_of_mem_taken {holds : Station ν → Prop}
    (took : ∀ socket wait station, holds station → holds (receive socket wait station).2)
    (heard : ∀ source bytes station, holds station → holds (handleDatagram source bytes station).2)
    {timeout : Nat} {station : Station ν} (first : holds station) {datagram : TakenDatagram ν}
    (mem : datagram ∈ taken timeout station) : holds datagram.moment := by
  rw [taken] at mem
  cases hosting : station.endpoint.host with
  | none =>
      rw [hosting] at mem
      cases mem
  | some host =>
      rw [hosting] at mem
      exact moment_of_mem_takings took heard first mem

/-- A payload is reported as it was, to whoever hears its sender. -/
theorem Equipped.fst_handleDatagram_data {station : Station ν} (equipped : station.Equipped)
    {host : Host} (hosting : station.endpoint.host = some host) (source : SocketAddress)
    (channel : UInt8) (flags : SendFlags) {payload : Bytes} (fits : payload.length ≤ maxPayload) :
    (handleDatagram source (Frame.data channel flags payload).encode station).1 =
      (host.hearer? source channel).toList.map fun peer =>
        .receive peer channel flags payload := by
  rw [equipped.handleDatagram_eq_handle hosting source (Frame.short_data channel flags fits)
    (Frame.decode?_encode _)]
  have reacted := host.react_data source channel flags payload
  cases heard : host.hearer? source channel with
  | none =>
      rw [heard] at reacted
      simp only [handle, reacted]
      rfl
  | some peer =>
      rw [heard] at reacted
      simp only [handle, reacted]
      rfl

/-- No request to connect makes a second link for an address. -/
def NeverRedials (station : Station ν) (history : List (Occurrence ν)) : Prop :=
  ∀ earlier name port channels,
    earlier ++ [.call (.connect name port channels)] <+: history →
      ¬ (station.after earlier).Redials name port

/-- A datagram is taken by a host, whose tables are inverse to each other if nothing was redialled.
-/
theorem host_of_mem_taken {process : Process ν} {past : List (Occurrence ν)} {timeout : Nat}
    {datagram : TakenDatagram ν}
    (mem : datagram ∈ taken timeout (({ process } : Station ν).after past)) :
    ∃ host, datagram.moment.endpoint.host = some host ∧ datagram.moment.Equipped ∧
      host.Sound datagram.moment.process.nextPeer ∧
      (NeverRedials { process } past → host.Inverse) := by
  let holds (moment : Station ν) : Prop :=
    Reached process moment ∧ moment.roster.host.isSome ∧
      (NeverRedials { process } past → moment.roster.Inverse)
  have first : holds (({ process } : Station ν).after past) := by
    refine ⟨.after .fresh past, ?_, fun new => ?_⟩
    · cases hosting : (({ process } : Station ν).after past).endpoint.host with
      | none => simp [taken, hosting] at mem
      | some host => exact Option.isSome_of_eq_some hosting
    · have vacant : ({ process } : Station ν).roster.Sound := Roster.sound_none process.nextPeer
      exact inverse_after vacant (Roster.inverse_none process.nextPeer) new
  have heard (source : SocketAddress) (bytes : Bytes) (moment : Station ν)
      (before : holds moment) : holds (handleDatagram source bytes moment).2 := by
    obtain ⟨reached, hosted, inverse⟩ := before
    have applied := handleDatagram_applied source bytes moment
    exact ⟨reached.heard source bytes, applied.isSome_host ▸ hosted,
      fun new => (inverse new).applied reached.sound applied⟩
  have took (socket : SocketAddress) (wait : Nat) (moment : Station ν) (before : holds moment) :
      holds (receive socket wait moment).2 :=
    ⟨before.1.took socket wait, before.2⟩
  obtain ⟨reached, hosted, inverse⟩ := moment_of_mem_taken took heard first mem
  obtain ⟨host, hosting⟩ := Option.isSome_iff_exists.mp hosted
  exact ⟨host, hosting, reached.equipped, reached.sound hosting, fun new => inverse new hosting⟩

/-- A payload that fits goes out in one datagram and changes nothing else; one that does not fit, or
has no connected link with its channel to go by, is refused and nothing goes out. A poll that takes
the datagram reports it in its turn as it was sent, exactly if the address it is from stands for a
connected link that has the channel. Every connected link is stood for, unless the station has
redialled. -/
theorem carried_of_history (process : Process ν) (past : List (Occurrence ν)) :
    let station := ({ process } : Station ν).after past
    (∀ peer channel data flags,
      (∀ host link, station.endpoint.host = some host → host.connectedLink? peer = some link →
        channel < link.channels → data.length ≤ maxPayload →
          let frame := Frame.data channel flags data
          frame.encode.length ≤ maxDatagram ∧
            attempt (send peer channel data flags) station =
              station.setNetwork (attempt (Network.send host.socket link.address frame.encode)
                station.process.network) ∧
            ((∃ after, send peer channel data flags station = .ok () after) ↔
              Sendable host.socket link.address frame station.process.network)) ∧
      ((¬ ∃ host link, station.endpoint.host = some host ∧
          host.connectedLink? peer = some link ∧ channel < link.channels ∧
            data.length ≤ maxPayload) →
        ∃ error, send peer channel data flags station = .error error station)) ∧
    ∀ timeout,
      let batch := (takeBatch timeout station).1
      poll timeout station = batch.answer (takeBatch timeout station).2 ∧
        batch.events = (taken timeout station).flatMap TakenDatagram.reports ∧
        ∀ datagram ∈ taken timeout station, ∃ host, datagram.moment.endpoint.host = some host ∧
          ∀ channel flags payload, payload.length ≤ maxPayload →
            datagram.bytes = (Frame.data channel flags payload).encode →
              datagram.reports = (host.hearer? datagram.source channel).toList.map (fun peer =>
                  .receive peer channel flags payload) ∧
                (∀ peer, host.hearer? datagram.source channel = some peer →
                  host.Holds datagram.source channel) ∧
                (NeverRedials { process } past → host.Holds datagram.source channel →
                  ∃ peer, host.hearer? datagram.source channel = some peer) := by
  intro station
  refine ⟨fun peer channel data flags => ⟨?_, fun unready => ?_⟩, fun timeout => ?_⟩
  · intro host link hosting connected offered fits frame
    have sends := send_of_connected hosting connected offered fits flags
    refine ⟨Frame.short_data channel flags fits, ?_, ?_⟩
    · rw [attempt_congr sends, attempt_sendFrame]
    · rw [sends, sendFrame_eq_ok_iff]
  · rcases send_cases peer channel data flags station with
      refused | ⟨host, link, hosting, connected, offered, fits, -⟩
    · exact refused
    · exact absurd ⟨host, link, hosting, connected, offered, fits⟩ unready
  · intro batch
    refine ⟨poll_eq_answer timeout station, events_takeBatch timeout station,
      fun datagram mem => ?_⟩
    obtain ⟨host, hosting, equipped, sound, inverse⟩ := host_of_mem_taken mem
    refine ⟨host, hosting, fun channel flags payload fits bytes => ⟨?_, ?_, ?_⟩⟩
    · rw [TakenDatagram.reports, bytes]
      exact equipped.fst_handleDatagram_data hosting datagram.source channel flags fits
    · exact fun peer => sound.holds_of_hearer?
    · exact fun new => (inverse new).exists_hearer?

/-- A server that asks the guest again after the guest has accepted, and then a word of the
guest. -/
def redialled : List (Occurrence Loopback) :=
  let socket : SocketAddress := { ip := .v4 0x7f000001, port := 9000 }
  let waiting (frame : Frame) : Occurrence Loopback :=
    .elsewhere { queues := .ofList [(socket, [Receipt.datagram guest frame.encode])] } 0
  [.call .start, .call (.createServer "127.0.0.1" 9000 1 4),
    .call (.connect "127.0.0.1" 4000 1), waiting (.accept 1), .call (.poll 0),
    .call (.connect "127.0.0.1" 4000 1), waiting (.data 0 .reliable [0x68, 0x69])]

/-- The guest is linked, connected and has the channel, and what the guest has said is taken and not
reported. -/
theorem unheard_of_redialled :
    let station := ({ process := { network := {} } } : Station Loopback).after redialled
    ∃ host datagram after, station.endpoint.host = some host ∧ host.Holds guest 0 ∧
      taken 0 station = [datagram] ∧ datagram.source = guest ∧
      datagram.bytes = (Frame.data 0 .reliable [0x68, 0x69]).encode ∧
      poll 0 station = .ok [] after := by
  intro station
  have linked : station.endpoint.host.bind (·.connectedLink? ⟨1⟩) =
      some { address := guest, channels := 1, state := .connected } := by
    decide +kernel
  have waiting : (taken 0 station).map (fun datagram => (datagram.source, datagram.bytes)) =
      [(guest, (Frame.data 0 .reliable [0x68, 0x69]).encode)] := by
    decide +kernel
  have silent : (takeBatch 0 station).1.events = [] := by decide +kernel
  have ended : (takeBatch 0 station).1.failure = none := by decide +kernel
  obtain ⟨host, hosting, connected⟩ := Option.bind_eq_some_iff.mp linked
  obtain ⟨datagram, single, same⟩ := List.map_eq_singleton_iff.mp waiting
  obtain ⟨source, bytes⟩ := Prod.mk.inj same
  refine ⟨host, datagram, (takeBatch 0 station).2, hosting, ⟨⟨1⟩, _, connected, rfl, by decide⟩,
    single, source, bytes, ?_⟩
  rw [poll_eq_answer, Batch.answer, ended, silent]

end Station

end Courier.Datagram

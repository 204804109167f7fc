import Courier.Loopback
import Courier.Proofs.Datagram.Tables

namespace Courier

/-- What makes a host, or is done through the one there is. -/
def TransportCall.UsesHost : TransportCall → Prop
  | .createServer .. | .createClient _ | .connect .. | .send .. => True
  | _ => False

namespace Datagram

/-- With room for one peer at most, one link is enough. -/
theorem Host.isFull_insert {host : Host} (single : host.maxPeers ≤ 1) (peer : PeerHandle)
    (link : Link) : (host.insert peer link).isFull = true := by
  have there : (host.links.insert peer link).isEmpty = false := Std.TreeMap.isEmpty_insert
  rw [Std.TreeMap.isEmpty_eq_size_eq_zero, beq_eq_false_iff_ne] at there
  have limit : host.maxPeers ≤ (host.links.insert peer link).size :=
    Nat.le_trans single (Nat.one_le_iff_ne_zero.mpr there)
  exact decide_eq_true limit

namespace Station

variable {ν : Type} [Network ν]

/-! Failing. What makes a host or uses it leaves the endpoint as it was if it fails, up to where a
request to connect has made its link: a request that cannot be sent leaves the link behind, and a
client with a link has no room for another. -/

theorem sendFrame_error {socket destination : SocketAddress} {frame : Frame}
    {station after : Station ν} {error : TransportError}
    (failed : sendFrame socket destination frame station = .error error after) :
    after.endpoint = station.endpoint ∧ ∃ reason, error = .sendFailed reason := by
  obtain ⟨network, sent | ⟨reason, unsent⟩⟩ := sendFrame_cases socket destination frame station
  · rw [sent] at failed
    cases failed
  · rw [unsent] at failed
    cases failed
    exact ⟨rfl, reason, rfl⟩

theorem bind_error {address : SocketAddress} {station after : Station ν} {error : TransportError}
    (failed : bind address station = .error error after) :
    after.endpoint = station.endpoint ∧ ∃ reason, error = .bindFailed reason := by
  obtain ⟨network, ⟨socket, bound⟩ | ⟨reason, unbound⟩⟩ := bind_cases address station
  · rw [bound] at failed
    cases failed
  · rw [unbound] at failed
    cases failed
    exact ⟨rfl, reason, rfl⟩

theorem reachable_error {host : Host} {address : SocketAddress} {station after : Station ν}
    {error : TransportError} (failed : reachable host address station = .error error after) :
    after.endpoint = station.endpoint ∧
      (error = .addressFamily host.socket address ∨ ∃ reason, error = .bindFailed reason) := by
  by_cases same : host.socket.family = address.family
  · rw [reachable_of_family same] at failed
    cases failed
  · cases role : host.role with
    | server =>
        simp only [reachable, if_neg same, role] at failed
        cases failed
        exact ⟨rfl, .inl rfl⟩
    | client =>
        simp only [reachable, if_neg same, role, Bind.bind, EStateM.bind] at failed
        split at failed
        · cases failed
        · next unbound =>
          cases failed
          obtain ⟨kept, reason⟩ := bind_error unbound
          exact ⟨kept, .inr reason⟩

/-- What a request to connect fails with, and the endpoint that it leaves. -/
inductive Unconnected (station : Station ν) (target : String) : TransportError → Endpoint → Prop
  | vacant (vacant : station.endpoint.host = none) :
      Unconnected station target .noHost station.endpoint
  | unresolved {known : Host} (hosting : station.endpoint.host = some known)
      (unresolved : Network.resolve? station.process.network target = none) :
      Unconnected station target (.addressResolution target) station.endpoint
  | full {known : Host} {address : SocketAddress} (hosting : station.endpoint.host = some known)
      (resolved : Network.resolve? station.process.network target = some address)
      (full : known.isFull = true) :
      Unconnected station target .noAvailablePeers station.endpoint
  | unreachable {known : Host} {address : SocketAddress} {error : TransportError}
      (hosting : station.endpoint.host = some known) (room : known.isFull = false)
      (kind : error = .addressFamily known.socket address ∨ ∃ reason, error = .bindFailed reason) :
      Unconnected station target error station.endpoint
  | unsent {known : Host} {socket : SocketAddress} {link : Link} (reason : String)
      (hosting : station.endpoint.host = some known) (room : known.isFull = false)
      (sender : socket = known.socket ∨ known.role = .client)
      (waiting : link.state = .connecting) :
      Unconnected station target (.sendFailed reason)
        { station.endpoint with
          host := some ({ known with socket }.insert ⟨station.process.nextPeer⟩ link) }

/-- A request to connect is turned down before anything has changed, or it gets to where its link
is made. -/
theorem connect_cases (name : String) (port : UInt16) (channels : UInt8) (station : Station ν) :
    (∃ error after, connect name port channels station = .error error after ∧
        station.Unconnected s!"{name}:{port}" error after.endpoint) ∨
      ∃ known address ready moved, station.endpoint.host = some known ∧
        Network.resolve? station.process.network s!"{name}:{port}" = some address ∧
        known.isFull = false ∧ reachable known address station = .ok ready moved := by
  cases hosting : station.endpoint.host with
  | none =>
      refine .inl ⟨.noHost, station, ?_, .vacant hosting⟩
      simp only [connect, Bind.bind, EStateM.bind, theHost_eq, hosting]
  | some known =>
      cases resolved : Network.resolve? station.process.network s!"{name}:{port}" with
      | none =>
          refine .inl ⟨_, station, ?_, .unresolved hosting resolved⟩
          simp only [connect, Bind.bind, EStateM.bind, theHost_eq, resolve_eq, hosting, resolved]
      | some address =>
          cases room : known.isFull with
          | true =>
              refine .inl ⟨_, station, ?_, .full hosting resolved room⟩
              simp only [connect, Bind.bind, EStateM.bind, theHost_eq, resolve_eq, hosting,
                resolved, room, if_true]
              rfl
          | false =>
              cases reached : reachable known address station with
              | error error stopped =>
                  obtain ⟨kept, kind⟩ := reachable_error reached
                  refine .inl ⟨error, stopped, ?_, kept.symm ▸ .unreachable hosting room kind⟩
                  simp only [connect, Bind.bind, EStateM.bind, theHost_eq, resolve_eq, hosting,
                    resolved, room, Bool.false_eq_true, if_false, reached]
              | ok ready moved => exact .inr ⟨known, address, ready, moved, rfl, rfl, room, reached⟩

/-- The host that a request to connect goes out from is the one there was, but maybe for the socket
of a client. -/
theorem reachable_ok {host ready : Host} {address : SocketAddress} {station moved : Station ν}
    (reached : reachable host address station = .ok ready moved) :
    ∃ socket, (socket = host.socket ∨ host.role = .client) ∧ ready = { host with socket } ∧
      (∀ last, (moved.setHost last).endpoint = (station.setHost last).endpoint) ∧
      moved.process.nextPeer = station.process.nextPeer := by
  rcases reachable_cases host address station with ⟨error, network, failed⟩ |
    ⟨-, same⟩ | ⟨client, socket, network, rebound⟩
  · cases reached.symm.trans failed
  · cases reached.symm.trans same
    exact ⟨host.socket, .inl rfl, rfl, fun _ => rfl, rfl⟩
  · cases reached.symm.trans rebound
    exact ⟨socket, .inr client, rfl, fun _ => rfl, rfl⟩

theorem connect_error {name : String} {port : UInt16} {channels : UInt8}
    {station after : Station ν} {error : TransportError}
    (failed : connect name port channels station = .error error after) :
    station.Unconnected s!"{name}:{port}" error after.endpoint := by
  rcases connect_cases name port channels station with ⟨reason, stopped, refused, unconnected⟩ |
    ⟨known, address, ready, moved, hosting, resolved, room, reached⟩
  · cases failed.symm.trans refused
    exact unconnected
  · rw [connect_of_reachable hosting resolved room reached channels] at failed
    obtain ⟨kept, reason, rfl⟩ := sendFrame_error (of_bind_pure_eq_error failed)
    obtain ⟨socket, sender, rfl, endpoint, next⟩ := reachable_ok reached
    rw [kept.trans (endpoint _), next]
    exact .unsent reason hosting room sender rfl

/-- A request to connect that has gone out has made its link. -/
theorem roster_of_connect {name : String} {port : UInt16} {channels : UInt8}
    {station after : Station ν} {peer : PeerHandle}
    (connected : connect name port channels station = .ok peer after) :
    ∃ known socket link, station.endpoint.host = some known ∧
      peer = ⟨station.process.nextPeer⟩ ∧ link.state = .connecting ∧
      after.roster =
        ⟨some ({ known with socket }.insert peer link), station.process.nextPeer + 1⟩ := by
  rcases connect_cases name port channels station with ⟨reason, stopped, refused, -⟩ |
    ⟨known, address, ready, moved, hosting, resolved, room, reached⟩
  · cases connected.symm.trans refused
  · have made := roster_connect_of_reachable hosting resolved room reached channels
    rw [attempt, connected] at made
    rw [connect_of_reachable hosting resolved room reached channels] at connected
    obtain ⟨_, sent, -, given⟩ := of_bind_eq_ok connected
    cases given
    obtain ⟨socket, -, rfl, -, next⟩ := reachable_ok reached
    rw [next] at made ⊢
    exact ⟨known, socket, _, hosting, rfl, rfl, made⟩

theorem connect_of_full {name : String} {port : UInt16} {station : Station ν} {known : Host}
    {address : SocketAddress} (hosting : station.endpoint.host = some known)
    (resolved : Network.resolve? station.process.network s!"{name}:{port}" = some address)
    (full : known.isFull = true) (channels : UInt8) :
    connect name port channels station = .error .noAvailablePeers station := by
  simp only [connect, Bind.bind, EStateM.bind, theHost_eq, resolve_eq, hosting, resolved, full,
    if_true]
  rfl

/-- There is no peer available for a request exactly if the host is full, and the name stands for
an address. -/
theorem connect_eq_noAvailablePeers_iff {station : Station ν} {known : Host}
    (hosting : station.endpoint.host = some known) (name : String) (port : UInt16)
    (channels : UInt8) :
    (∃ after, connect name port channels station = .error .noAvailablePeers after) ↔
      (Network.resolve? station.process.network s!"{name}:{port}").isSome ∧
        known.isFull = true := by
  constructor
  · rintro ⟨after, failed⟩
    have stopped := connect_error failed
    generalize after.endpoint = left at stopped
    cases stopped with
    | full there resolved full =>
        rw [hosting] at there
        cases there
        exact ⟨Option.isSome_of_eq_some resolved, full⟩
    | unreachable _ _ kind => rcases kind with family | ⟨reason, unbound⟩ <;> contradiction
  · rintro ⟨resolved, full⟩
    obtain ⟨address, resolved⟩ := Option.isSome_iff_exists.mp resolved
    exact ⟨station, connect_of_full hosting resolved full channels⟩

theorem unsent_of_sendFailed {name : String} {port : UInt16} {channels : UInt8} {reason : String}
    {station after : Station ν}
    (failed : connect name port channels station = .error (.sendFailed reason) after) :
    ∃ known socket link, station.endpoint.host = some known ∧ known.isFull = false ∧
      (socket = known.socket ∨ known.role = .client) ∧ link.state = .connecting ∧
      after.endpoint = { station.endpoint with
        host := some ({ known with socket }.insert ⟨station.process.nextPeer⟩ link) } := by
  have stopped := connect_error failed
  generalize after.endpoint = left at stopped ⊢
  cases stopped with
  | unreachable _ _ kind => rcases kind with family | ⟨reason, unbound⟩ <;> contradiction
  | unsent _ hosting room sender waiting => exact ⟨_, _, _, hosting, room, sender, waiting, rfl⟩

theorem endpoint_ne_of_sendFailed {name : String} {port : UInt16} {channels : UInt8}
    {reason : String} {station after : Station ν} (sound : station.roster.Sound)
    (failed : connect name port channels station = .error (.sendFailed reason) after) :
    after.endpoint ≠ station.endpoint := by
  intro kept
  obtain ⟨known, socket, link, hosting, -, -, -, left⟩ := unsent_of_sendFailed failed
  have same := congrArg Endpoint.host (kept.symm.trans left)
  rw [hosting] at same
  have linked : known.link? ⟨station.process.nextPeer⟩ = some link := by
    rw [Option.some.inj same, Host.link?_insert, if_pos rfl]
  exact Nat.lt_irrefl _ ((sound hosting).handle_lt linked)

/-- A failing operation leaves the endpoint as it was, but for a request to connect that cannot be
sent. -/
theorem endpoint_kept_or_unsent (call : TransportCall) (uses : call.UsesHost)
    {station after : Station ν} {error : TransportError}
    (failed : call.run station = .error error after) :
    after.endpoint = station.endpoint ∨
      (∃ name port channels, call = .connect name port channels) ∧
        ∃ reason, error = .sendFailed reason := by
  cases call with
  | createServer name port channels maxPeers =>
      rcases createServer_cases name port channels maxPeers station with
        ⟨reason, network, stopped⟩ | ⟨-, socket, network, made⟩
      · cases stopped.symm.trans failed
        exact .inl rfl
      · cases made.symm.trans failed
  | createClient channels =>
      rcases createClient_cases channels station with
        ⟨reason, network, stopped⟩ | ⟨-, socket, network, made⟩
      · cases stopped.symm.trans failed
        exact .inl rfl
      · cases made.symm.trans failed
  | connect name port channels =>
      have stopped := connect_error failed
      generalize after.endpoint = left at stopped ⊢
      cases stopped with
      | unsent reason => exact .inr ⟨⟨name, port, channels, rfl⟩, reason, rfl⟩
      | _ => exact .inl rfl
  | send peer channel data flags =>
      apply Or.inl
      change send peer channel data flags station = .error error after at failed
      rcases send_cases peer channel data flags station with
        ⟨reason, refused⟩ | ⟨host, link, -, -, -, -, sent⟩
      · rw [refused] at failed
        cases failed
        rfl
      · exact (sendFrame_error (sent ▸ failed)).1
  | start | stop | disconnect | disconnectPeer | poll => exact uses.elim

/-- The host of a client whose request has failed is full if it was before, or if the request could
not be sent. -/
theorem isFull_of_connect_error {name : String} {port : UInt16} {channels : UInt8}
    {station after : Station ν} {error : TransportError} {client : Host}
    (hosting : station.endpoint.host = some client) (single : client.maxPeers ≤ 1)
    (failed : connect name port channels station = .error error after) :
    ∃ left, after.endpoint.host = some left ∧
      (left.isFull = true ↔ client.isFull = true ∨ ∃ reason, error = .sendFailed reason) := by
  by_cases unsent : ∃ reason, error = .sendFailed reason
  · obtain ⟨reason, rfl⟩ := unsent
    obtain ⟨known, socket, link, there, -, -, -, left⟩ := unsent_of_sendFailed failed
    obtain rfl : client = known := Option.some.inj (hosting.symm.trans there)
    have full : (Host.insert { client with socket } ⟨station.process.nextPeer⟩ link).isFull =
        true := Host.isFull_insert single _ link
    exact ⟨_, congrArg Endpoint.host left, iff_of_true full (.inr ⟨reason, rfl⟩)⟩
  · have kept := (endpoint_kept_or_unsent (.connect name port channels) trivial
      failed).resolve_right fun both => unsent both.2
    exact ⟨client, (congrArg Endpoint.host kept).trans hosting, (or_iff_left unsent).symm⟩

/-- What makes a host or uses it leaves the endpoint as it was when it fails, exactly if it is no
request to connect that could not be sent. Such a request leaves a connecting link under a handle
that nobody has been given, and maybe a client with a new socket. A client that could not connect
is told the next time that no peer is available exactly if its only peer was there before, or is
such a leftover. -/
theorem endpoint_kept_iff_of_history (process : Process ν) (history : List (Occurrence ν)) :
    let station := ({ process } : Station ν).after history
    (∀ (call : TransportCall) (error : TransportError) (after : Station ν), call.UsesHost →
        call.run station = .error error after →
        (after.endpoint = station.endpoint ↔
          ¬ ((∃ name port channels, call = .connect name port channels) ∧
            ∃ reason, error = .sendFailed reason))) ∧
      (∀ name port channels reason after,
        connect name port channels station = .error (.sendFailed reason) after →
        ∃ known socket link, station.endpoint.host = some known ∧ known.isFull = false ∧
          (socket = known.socket ∨ known.role = .client) ∧ link.state = .connecting ∧
          after.endpoint = { station.endpoint with
            host := some ({ known with socket }.insert ⟨station.process.nextPeer⟩ link) }) ∧
      ∀ client, station.endpoint.host = some client → client.role = .client →
        ∀ name port channels error after,
          connect name port channels station = .error error after →
          ∀ again port channels,
            (∃ later, connect again port channels after = .error .noAvailablePeers later) ↔
              (Network.resolve? after.process.network s!"{again}:{port}").isSome ∧
                (client.isFull = true ∨ ∃ reason, error = .sendFailed reason) := by
  intro station
  have sound : station.roster.Sound := sound_of_history process history
  refine ⟨?_, ?_, ?_⟩
  · intro call error after uses failed
    constructor
    · rintro kept ⟨⟨name, port, channels, rfl⟩, reason, rfl⟩
      exact endpoint_ne_of_sendFailed sound failed kept
    · exact (endpoint_kept_or_unsent call uses failed).resolve_right
  · intro name port channels reason after failed
    exact unsent_of_sendFailed failed
  · intro client hosting role name port channels error after failed again port' channels'
    have single : client.maxPeers = 1 := (sound hosting).single role
    obtain ⟨left, hosted, full⟩ := isFull_of_connect_error hosting (Nat.le_of_eq single) failed
    rw [connect_eq_noAvailablePeers_iff hosted, full]

/-- A client with a network that cannot reach the server. -/
def stranded : List (Occurrence Loopback) :=
  [.call .start, .call (.createClient 1),
    .elsewhere { unreachable := [{ ip := .v4 0x7f000001, port := 9000 }] } 0]

/-- Its request fails, and from then on it has no room for another. -/
theorem endpoint_not_kept_of_stranded :
    let station := ({ process := { network := {} } } : Station Loopback).after stranded
    station.endpoint.peerCount = 0 ∧ ∃ reason after,
      connect "127.0.0.1" 9000 1 station = .error (.sendFailed reason) after ∧
      after.endpoint.peerCount = 1 ∧
      ∃ later, connect "127.0.0.1" 9000 1 after = .error .noAvailablePeers later := by
  intro station
  have told : (match connect "127.0.0.1" 9000 1 station with
      | .ok _ _ => none
      | .error error _ => some error) =
        some (.sendFailed "Network is unreachable (os error 101)") := by
    decide +kernel
  have left : let after := attempt (connect "127.0.0.1" 9000 1) station
      after.endpoint.peerCount = 1 ∧ (∃ known ∈ after.endpoint.host, known.isFull = true) ∧
        (Network.resolve? after.process.network "127.0.0.1:9000").isSome := by
    decide +kernel
  refine ⟨by decide +kernel, "Network is unreachable (os error 101)", ?_⟩
  rw [attempt] at left
  cases ran : connect "127.0.0.1" 9000 1 station with
  | ok peer after =>
      rw [ran] at told
      cases told
  | error error after =>
      rw [ran] at told left
      cases told
      obtain ⟨count, ⟨known, hosting, full⟩, resolved⟩ := left
      exact ⟨after, rfl, count,
        (connect_eq_noAvailablePeers_iff hosting "127.0.0.1" 9000 1).mpr ⟨resolved, full⟩⟩

end Station

end Datagram

end Courier

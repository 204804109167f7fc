import Courier.Proofs.Datagram.Attending

namespace Courier.Datagram.Station

/-! How a station comes to attend an address: a host that was just made has nothing to do with it
yet, and a client has from when it dials. -/

theorem bind_interface (address : SocketAddress) (station : Station Interface) :
    (∃ socket, bind address station = .ok socket station) ∨
      ∃ reason, bind address station = .error (.bindFailed reason) station := by
  simp only [bind, Network.bind, Interface.bind]
  cases station.process.network.binding address with
  | ok socket => exact .inl ⟨socket, rfl⟩
  | error reason => exact .inr ⟨reason, rfl⟩

theorem createServer_interface (name : String) (port : UInt16) (channels : UInt8)
    (maxPeers : Nat) (station : Station Interface) :
    (∃ error, createServer name port channels maxPeers station = .error error station) ∨
      ∃ socket, createServer name port channels maxPeers station =
        .ok () (station.setHost (some { role := .server, socket, channels, maxPeers })) := by
  simp only [createServer, Bind.bind, EStateM.bind]
  rcases checkCanCreate_cases station with ⟨error, refused⟩ | ⟨vacant, allowed⟩
  · simp only [refused]
    exact .inl ⟨error, rfl⟩
  · simp only [allowed, resolve_eq]
    cases Network.resolve? station.process.network s!"{name}:{port}" with
    | none => exact .inl ⟨_, rfl⟩
    | some address =>
        rcases bind_interface address station with ⟨socket, bound⟩ | ⟨reason, failed⟩
        · simp only [bound]
          exact .inr ⟨socket, rfl⟩
        · simp only [failed]
          exact .inl ⟨_, rfl⟩

theorem createClient_interface (channels : UInt8) (station : Station Interface) :
    (∃ error, createClient channels station = .error error station) ∨
      ∃ socket, createClient channels station =
        .ok () (station.setHost (some { role := .client, socket, channels, maxPeers := 1 })) := by
  simp only [createClient, Bind.bind, EStateM.bind]
  rcases checkCanCreate_cases station with ⟨error, refused⟩ | ⟨vacant, allowed⟩
  · simp only [refused]
    exact .inl ⟨error, rfl⟩
  · rcases bind_interface (.wildcard .v4) station with ⟨socket, bound⟩ | ⟨reason, failed⟩
    · simp only [allowed, bound]
      exact .inr ⟨socket, rfl⟩
    · simp only [allowed, failed]
      exact .inl ⟨_, rfl⟩

/-- A new host on a network to which nothing has been sent. -/
theorem attending_of_new (role : Role) (socket : SocketAddress) (channels : UInt8)
    (maxPeers : Nat) (single : role = .client → maxPeers = 1) (station : Station Interface)
    (room : station.endpoint.room = maxDatagram) (silent : station.process.network.sent = [])
    (address : SocketAddress) :
    let opened := station.setHost (some { role, socket, channels, maxPeers })
    opened.Attending role channels address ∧ opened.dealings address = {} := by
  refine ⟨⟨?_, fun _ _ => room, ?_⟩, ?_⟩
  · rintro _ ⟨⟩
    exact {
      role_eq := rfl
      channels_eq := rfl
      sound := .empty role socket channels maxPeers _ single
      faces := fun peer link linked => by simp [Host.link?] at linked
      confined := fun _ peer link linked => by simp [Host.link?] at linked }
  · intro letter mem
    change letter ∈ station.process.network.sent at mem
    rw [silent] at mem
    cases mem
  · rw [dealings_setHost, wrote, Interface.lettersTo, silent]
    simp [Host.facing?, Host.peerAt?]

theorem reachable_interface {host : Host} {station : Station Interface}
    (hosting : station.endpoint.host = some host) (address : SocketAddress) :
    (∃ error, reachable host address station = .error error station) ∨
      ∃ socket network, reachable host address station = .ok { host with socket }
          ((station.setNetwork network).setHost (some { host with socket })) ∧
        network.sent = station.process.network.sent ∧
        network.faults = station.process.network.faults ∧
        (network.inbox = station.process.network.inbox ∨ network.inbox = []) := by
  by_cases same : host.socket.family = address.family
  · refine .inr ⟨host.socket, station.process.network, ?_, rfl, rfl, .inl rfl⟩
    rw [reachable_of_family same]
    have still : (station.setNetwork station.process.network).setHost (some host) = station := by
      rw [← hosting]
      rfl
    exact congrArg _ still.symm
  · cases role : host.role with
    | server =>
        refine .inl ⟨.addressFamily host.socket address, ?_⟩
        simp only [reachable, if_neg same, role]
        rfl
    | client =>
        rcases bind_interface (.wildcard address.family) station with
          ⟨socket, bound⟩ | ⟨reason, failed⟩
        · refine .inr ⟨socket, station.process.network.close, ?_, rfl, rfl, .inr rfl⟩
          simp only [reachable, if_neg same, role, Bind.bind, EStateM.bind, bound]
          rfl
        · refine .inl ⟨.bindFailed reason, ?_⟩
          simp only [reachable, if_neg same, role, Bind.bind, EStateM.bind, failed]

/-- A client that asks for an address has its link before the request goes out. -/
theorem Attending.dial {limit : UInt8} {address : SocketAddress} {station : Station Interface}
    (attending : station.Attending .client limit address) {host : Host}
    (hosting : station.endpoint.host = some host) {name : String} {port : UInt16}
    (named : station.process.network.names s!"{name}:{port}" = some address)
    (requested : UInt8) :
    (∃ error, connect name port requested station = .error error station) ∨
      ∃ socket peer, ∃ dialled : Station Interface,
        let channels := negotiate requested limit
        connect name port requested station =
            (do Station.sendFrame socket address (.connect channels); return peer :
              EStateM TransportError (Station Interface) PeerHandle) dialled ∧
          dialled.Attending .client limit address ∧
          dialled.dealings address =
            ⟨some (peer, { address, channels, state := .connecting }), station.wrote address⟩ ∧
          dialled.process.network.faults = station.process.network.faults ∧
          (dialled.process.network.inbox = station.process.network.inbox ∨
            dialled.process.network.inbox = []) := by
  have attends := attending.host hosting
  obtain rfl : host.channels = limit := attends.channels_eq
  cases room : host.isFull with
  | true =>
      refine .inl ⟨.noAvailablePeers, ?_⟩
      simp only [connect, Bind.bind, EStateM.bind, theHost_eq, resolve_eq, hosting,
        Network.resolve?, named, room, if_true]
      rfl
  | false =>
      have unknown := attends.sound.peerAt?_of_client attends.role_eq room address
      rcases reachable_interface hosting address with ⟨error, unreached⟩ |
        ⟨socket, network, reached, sent, faults, inbox⟩
      · refine .inl ⟨error, ?_⟩
        simp only [connect, Bind.bind, EStateM.bind, theHost_eq, resolve_eq, hosting,
          Network.resolve?, named, room, Bool.false_eq_true, if_false, unreached]
      · have asking := connect_of_reachable hosting named room reached requested
        let link : Link :=
          { address, channels := negotiate requested host.channels, state := .connecting }
        have there : link.address = address := rfl
        have ready := attends.withSocket socket
        have dialled := ready.insert link (fun _ => unknown) (fun _ => there)
        refine .inr ⟨socket, ⟨station.process.nextPeer⟩, _, asking, ⟨?_, ?_, ?_⟩, ?_, faults,
          inbox⟩
        · rintro _ ⟨⟩
          exact dialled
        · exact fun _ _ => attending.room_eq host hosting
        · intro letter mem
          exact attending.legible letter (sent ▸ mem)
        · have same : Interface.lettersTo network address =
              station.process.network.lettersTo address := by
            rw [Interface.lettersTo, sent]
            rfl
          have facing := (Host.facing?_insert ready.sound link).trans (if_pos there)
          rw [dealings_setHost]
          exact congrArg₂ Dealings.mk facing (congrArg (List.filterMap Frame.decode?) same)

end Courier.Datagram.Station

import Courier.Proofs.Datagram.Batch

namespace Courier.Datagram

namespace Station

variable {ν : Type}

/-! Each operation in one piece: when it fails, and what it leaves. Failing leaves the tables as
they are, up to where a link has been made or forgotten. -/

theorem theHost_eq (station : Station ν) :
    theHost station =
      match station.endpoint.host with
      | some host => .ok host station
      | none => .error .noHost station := by
  simp only [theHost, Bind.bind, EStateM.bind, get_eq]
  cases station.endpoint.host <;> rfl

theorem checkCanCreate_eq (station : Station ν) :
    checkCanCreate station =
      if !station.endpoint.started then .error .notStarted station
      else if station.endpoint.host.isSome then .error .hostAlreadyExists station
      else .ok () station := by
  simp only [checkCanCreate, Bind.bind, EStateM.bind, get_eq]
  split
  · rfl
  · split <;> rfl

theorem checkCanCreate_cases (station : Station ν) :
    (∃ error, checkCanCreate station = .error error station) ∨
      station.endpoint.host = none ∧ checkCanCreate station = .ok () station := by
  rw [checkCanCreate_eq]
  split
  · exact .inl ⟨_, rfl⟩
  · split
    · exact .inl ⟨_, rfl⟩
    · next vacant => exact .inr ⟨by simpa using vacant, rfl⟩

@[simp] theorem roster_start (station : Station ν) : station.start.roster = station.roster := by
  unfold start
  split <;> rfl

variable [Network ν]

theorem resolve_eq (name : String) (port : UInt16) (station : Station ν) :
    resolve name port station =
      match Network.resolve? station.process.network s!"{name}:{port}" with
      | some address => .ok address station
      | none => .error (.addressResolution s!"{name}:{port}") station := by
  simp only [resolve, Bind.bind, EStateM.bind, get_eq]
  cases Network.resolve? station.process.network s!"{name}:{port}" <;> rfl

theorem bind_cases (address : SocketAddress) (station : Station ν) :
    ∃ network, (∃ socket, bind address station = .ok socket (station.setNetwork network)) ∨
      ∃ reason, bind address station =
        .error (.bindFailed reason) (station.setNetwork network) := by
  unfold bind
  split
  · exact ⟨_, .inl ⟨_, rfl⟩⟩
  · exact ⟨_, .inr ⟨_, rfl⟩⟩

@[simp] theorem roster_stop (station : Station ν) :
    station.stop.roster = ⟨none, station.process.nextPeer⟩ := by
  unfold stop closeHost
  split
  · next vacant =>
    rw [← roster_of_host vacant]
    rfl
  · rfl

theorem createServer_cases (name : String) (port : UInt16) (channels : UInt8) (maxPeers : Nat)
    (station : Station ν) :
    (∃ error network, createServer name port channels maxPeers station =
        .error error (station.setNetwork network)) ∨
      station.endpoint.host = none ∧ ∃ socket network,
        createServer name port channels maxPeers station =
          .ok () ((station.setNetwork network).setHost
            (some { role := .server, socket, channels, maxPeers })) := by
  simp only [createServer, Bind.bind, EStateM.bind]
  rcases checkCanCreate_cases station with ⟨error, refused⟩ | ⟨vacant, allowed⟩
  · simp only [refused]
    exact .inl ⟨error, station.process.network, rfl⟩
  · simp only [allowed, resolve_eq]
    cases Network.resolve? station.process.network s!"{name}:{port}" with
    | none => exact .inl ⟨_, station.process.network, rfl⟩
    | some address =>
        obtain ⟨network, ⟨socket, bound⟩ | ⟨reason, failed⟩⟩ := bind_cases address station
        · simp only [bound]
          exact .inr ⟨vacant, socket, network, rfl⟩
        · simp only [failed]
          exact .inl ⟨_, network, rfl⟩

theorem createClient_cases (channels : UInt8) (station : Station ν) :
    (∃ error network, createClient channels station =
        .error error (station.setNetwork network)) ∨
      station.endpoint.host = none ∧ ∃ socket network, createClient channels station =
        .ok () ((station.setNetwork network).setHost
          (some { role := .client, socket, channels, maxPeers := 1 })) := by
  simp only [createClient, Bind.bind, EStateM.bind]
  rcases checkCanCreate_cases station with ⟨error, refused⟩ | ⟨vacant, allowed⟩
  · simp only [refused]
    exact .inl ⟨error, station.process.network, rfl⟩
  · obtain ⟨network, ⟨socket, bound⟩ | ⟨reason, failed⟩⟩ := bind_cases (.wildcard .v4) station
    · simp only [allowed, bound]
      exact .inr ⟨vacant, socket, network, rfl⟩
    · simp only [allowed, failed]
      exact .inl ⟨_, network, rfl⟩

theorem reachable_of_family {host : Host} {address : SocketAddress}
    (same : host.socket.family = address.family) (station : Station ν) :
    reachable host address station = .ok host station := by
  simp only [reachable, if_pos same]
  rfl

theorem reachable_cases (host : Host) (address : SocketAddress) (station : Station ν) :
    (∃ error network, reachable host address station =
        .error error (station.setNetwork network)) ∨
      (host.socket.family = address.family ∧ reachable host address station = .ok host station) ∨
      host.role = .client ∧ ∃ socket network, reachable host address station =
        .ok { host with socket }
          ((station.setNetwork network).setHost (some { host with socket })) := by
  by_cases same : host.socket.family = address.family
  · exact .inr (.inl ⟨same, reachable_of_family same station⟩)
  · cases role : host.role with
    | server =>
        refine .inl ⟨.addressFamily host.socket address, station.process.network, ?_⟩
        simp only [reachable, if_neg same, role]
        rfl
    | client =>
        obtain ⟨network, ⟨socket, bound⟩ | ⟨reason, failed⟩⟩ :=
          bind_cases (.wildcard address.family) station
        · refine .inr (.inr ⟨rfl, socket, Network.close host.socket network, ?_⟩)
          simp only [reachable, if_neg same, role, Bind.bind, EStateM.bind, bound]
          rfl
        · refine .inl ⟨.bindFailed reason, network, ?_⟩
          simp only [reachable, if_neg same, role, Bind.bind, EStateM.bind, failed]

/-- The request goes out after the link is made, and may fail. -/
theorem connect_of_reachable {known ready : Host} {name : String} {port : UInt16}
    {address : SocketAddress} {station moved : Station ν}
    (hosting : station.endpoint.host = some known)
    (resolved : Network.resolve? station.process.network s!"{name}:{port}" = some address)
    (room : known.isFull = false)
    (reached : reachable known address station = .ok ready moved) (channels : UInt8) :
    let granted := negotiate channels ready.channels
    let peer : PeerHandle := ⟨moved.process.nextPeer⟩
    connect name port channels station =
      (do sendFrame ready.socket address (.connect granted); return peer :
        EStateM TransportError (Station ν) PeerHandle)
      ((newPeer moved).2.setHost
        (some (ready.insert peer { address, channels := granted, state := .connecting }))) := by
  simp only [connect, Bind.bind, EStateM.bind, theHost_eq, resolve_eq, hosting, resolved, room,
    Bool.false_eq_true, if_false, reached, always, newPeer, modify_eq]

theorem roster_connect_of_reachable {known ready : Host} {name : String} {port : UInt16}
    {address : SocketAddress} {station moved : Station ν}
    (hosting : station.endpoint.host = some known)
    (resolved : Network.resolve? station.process.network s!"{name}:{port}" = some address)
    (room : known.isFull = false)
    (reached : reachable known address station = .ok ready moved) (channels : UInt8) :
    (attempt (connect name port channels) station).roster =
      ⟨some (ready.insert ⟨moved.process.nextPeer⟩
        { address, channels := negotiate channels ready.channels, state := .connecting }),
        moved.process.nextPeer + 1⟩ := by
  rw [attempt_congr (connect_of_reachable hosting resolved room reached channels),
    attempt_bind_pure, roster_attempt_sendFrame]
  rfl

/-- A request to connect changes nothing, or it makes a link: from the socket of the host, or from
a new one of a client. -/
theorem roster_connect_cases (name : String) (port : UInt16) (channels : UInt8)
    (station : Station ν) :
    (attempt (connect name port channels) station).roster = station.roster ∨
      ∃ known address socket link, station.endpoint.host = some known ∧
        Network.resolve? station.process.network s!"{name}:{port}" = some address ∧
        known.isFull = false ∧
        (known.socket.family = address.family ∧ known.socket = socket ∨
          known.role = .client) ∧
        link.address = address ∧ link.channels = negotiate channels known.channels ∧
        link.state = .connecting ∧
        (attempt (connect name port channels) station).roster =
          ⟨some ({ known with socket }.insert ⟨station.process.nextPeer⟩ link),
            station.process.nextPeer + 1⟩ := by
  cases hosting : station.endpoint.host with
  | none =>
      apply Or.inl
      simp only [attempt, connect, Bind.bind, EStateM.bind, theHost_eq, hosting]
  | some known =>
      cases resolved : Network.resolve? station.process.network s!"{name}:{port}" with
      | none =>
          apply Or.inl
          simp only [attempt, connect, Bind.bind, EStateM.bind, theHost_eq, resolve_eq, hosting,
            resolved]
      | some address =>
          cases room : known.isFull with
          | true =>
              apply Or.inl
              simp only [attempt, connect, Bind.bind, EStateM.bind, theHost_eq, resolve_eq,
                hosting, resolved, room, if_true]
              rfl
          | false =>
              rcases reachable_cases known address station with ⟨error, network, unreached⟩ |
                ⟨same, reached⟩ | ⟨client, socket, network, reached⟩
              · apply Or.inl
                simp only [attempt, connect, Bind.bind, EStateM.bind, theHost_eq, resolve_eq,
                  hosting, resolved, room, Bool.false_eq_true, if_false, unreached]
                rfl
              · exact .inr ⟨known, address, known.socket, _, rfl, rfl, room, .inl ⟨same, rfl⟩,
                  rfl, rfl, rfl, roster_connect_of_reachable hosting resolved room reached channels⟩
              · exact .inr ⟨known, address, socket, _, rfl, rfl, room, .inr client, rfl, rfl, rfl,
                  roster_connect_of_reachable hosting resolved room reached channels⟩

theorem disconnectPeer_eq (peer : PeerHandle) (station : Station ν) :
    disconnectPeer peer station =
      match station.endpoint.host with
      | none => .ok () station
      | some host =>
        match host.link? peer with
        | none => .ok () station
        | some link =>
          sendFrame host.socket link.address .disconnect
            (station.setHost (some (host.remove peer))) := by
  simp only [disconnectPeer, Bind.bind, EStateM.bind, get_eq]
  cases station.endpoint.host with
  | none => rfl
  | some host =>
      dsimp only
      cases host.link? peer <;> rfl

theorem roster_disconnectPeer (peer : PeerHandle) (station : Station ν) :
    (attempt (disconnectPeer peer) station).roster = station.roster.remove peer := by
  have left := disconnectPeer_eq peer station
  cases hosting : station.endpoint.host with
  | none =>
      rw [hosting] at left
      rw [attempt, left, roster_of_host hosting]
      rfl
  | some host =>
      rw [hosting] at left
      dsimp only at left
      rw [roster_of_host hosting, Roster.remove, Option.map_some]
      cases linked : host.link? peer with
      | none =>
          rw [linked] at left
          rw [attempt, left, Host.remove_of_link?_eq_none linked]
          exact roster_of_host hosting
      | some link =>
          rw [linked] at left
          dsimp only at left
          rw [attempt_congr left, roster_attempt_sendFrame]
          rfl

theorem snd_disconnectAll_cons (peer : PeerHandle) (rest : List PeerHandle)
    (station : Station ν) :
    (disconnectAll (peer :: rest) station).2 =
      (disconnectAll rest (attempt (disconnectPeer peer) station)).2 := by
  simp only [disconnectAll, attempt]
  cases disconnectPeer peer station <;> rfl

theorem roster_disconnectAll (peers : List PeerHandle) (station : Station ν) :
    (disconnectAll peers station).2.roster = peers.foldl Roster.remove station.roster := by
  induction peers generalizing station with
  | nil => rfl
  | cons peer rest ih =>
      rw [snd_disconnectAll_cons, ih, roster_disconnectPeer, List.foldl_cons]

theorem attempt_disconnectInOrder (peers : List PeerHandle) (station : Station ν) :
    attempt (disconnectInOrder peers) station = (disconnectAll peers station).2 := by
  simp only [attempt, disconnectInOrder, Bind.bind, EStateM.bind, always]
  cases disconnectAll peers station with
  | mk failure silent => cases failure <;> rfl

theorem disconnect_eq_inOrder {station : Station ν} {host : Host}
    (hosting : station.endpoint.host = some host) :
    disconnect station = disconnectInOrder host.links.keys station := by
  simp only [disconnect, Bind.bind, EStateM.bind, get_eq, hosting]

theorem disconnect_of_host {station : Station ν} {host : Host}
    (hosting : station.endpoint.host = some host) :
    attempt disconnect station = (disconnectAll host.links.keys station).2 := by
  rw [attempt_congr (disconnect_eq_inOrder hosting), attempt_disconnectInOrder]

theorem roster_disconnect_of_host {station : Station ν} {host : Host}
    (hosting : station.endpoint.host = some host) :
    (attempt disconnect station).roster = host.links.keys.foldl Roster.remove station.roster := by
  rw [disconnect_of_host hosting, roster_disconnectAll]

theorem disconnect_of_vacant {station : Station ν} (vacant : station.endpoint.host = none) :
    attempt disconnect station = station := by
  simp only [attempt, disconnect, Bind.bind, EStateM.bind, get_eq, vacant]
  rfl

theorem roster_disconnect (station : Station ν) :
    ∃ peers : List PeerHandle,
      (attempt disconnect station).roster = peers.foldl Roster.remove station.roster := by
  cases hosting : station.endpoint.host with
  | none => exact ⟨[], congrArg roster (disconnect_of_vacant hosting)⟩
  | some host => exact ⟨host.links.keys, roster_disconnect_of_host hosting⟩

/-- Nobody is left. -/
theorem link?_disconnect (station : Station ν) (peer : PeerHandle) :
    (attempt disconnect station).roster.link? peer = none := by
  cases hosting : station.endpoint.host with
  | none => rw [disconnect_of_vacant hosting, roster_of_host hosting, Roster.link?_none]
  | some host =>
      rw [roster_disconnect_of_host hosting, Roster.link?_foldl_remove, roster_of_host hosting,
        Roster.link?_some]
      split
      · rfl
      · next absent =>
        rw [Std.TreeMap.mem_keys] at absent
        exact Std.TreeMap.getElem?_eq_none absent

theorem send_eq {host : Host} {station : Station ν} (hosting : station.endpoint.host = some host)
    (peer : PeerHandle) (channel : UInt8) (data : Bytes) (flags : SendFlags) :
    send peer channel data flags station =
      match host.connectedLink? peer with
      | none => .error (.unknownPeer peer) station
      | some link =>
        if link.channels ≤ channel then .error (.invalidChannel channel link.channels) station
        else if maxPayload < data.length then
          .error (.payloadTooLarge data.length maxPayload) station
        else sendFrame host.socket link.address (.data channel flags data) station := by
  simp only [send, Bind.bind, EStateM.bind, theHost_eq, hosting]
  cases host.connectedLink? peer with
  | none => rfl
  | some link =>
      dsimp only
      split
      · rfl
      · split <;> rfl

/-- To send is to write one frame on a connected link that has the channel, or to do nothing. -/
theorem send_cases (peer : PeerHandle) (channel : UInt8) (data : Bytes) (flags : SendFlags)
    (station : Station ν) :
    (∃ error, send peer channel data flags station = .error error station) ∨
      ∃ host link, station.endpoint.host = some host ∧ host.connectedLink? peer = some link ∧
        channel < link.channels ∧ data.length ≤ maxPayload ∧
        send peer channel data flags station =
          sendFrame host.socket link.address (.data channel flags data) station := by
  cases hosting : station.endpoint.host with
  | none =>
      refine .inl ⟨.noHost, ?_⟩
      simp only [send, Bind.bind, EStateM.bind, theHost_eq, hosting]
  | some host =>
      rw [send_eq hosting]
      cases found : host.connectedLink? peer with
      | none => exact .inl ⟨_, rfl⟩
      | some link =>
          dsimp only
          by_cases closed : link.channels ≤ channel
          · exact .inl ⟨_, if_pos closed⟩
          · rw [if_neg closed]
            by_cases long : maxPayload < data.length
            · exact .inl ⟨_, if_pos long⟩
            · exact .inr ⟨host, link, rfl, found, UInt8.not_le.mp closed, Nat.not_lt.mp long,
                if_neg long⟩

theorem roster_send (peer : PeerHandle) (channel : UInt8) (data : Bytes) (flags : SendFlags)
    (station : Station ν) :
    (attempt (send peer channel data flags) station).roster = station.roster := by
  rcases send_cases peer channel data flags station with
    ⟨error, refused⟩ | ⟨host, link, -, -, -, -, sent⟩
  · rw [attempt, refused]
  · rw [attempt_congr sent, roster_attempt_sendFrame]

end Station

end Courier.Datagram

import Courier.Proofs.Datagram.Dealings

namespace Courier

/-- The calls that neither make a host or a link nor poll. -/
def TransportCall.Plain : TransportCall → Prop
  | .start | .stop | .disconnect | .disconnectPeer _ | .send .. => True
  | _ => False

/-- The calls that a server or a client makes once it is there. -/
def TransportCall.Usual (call : TransportCall) : Prop :=
  call.Plain ∨ ∃ timeout, call = .poll timeout

namespace Datagram

/-! A station that deals with an address as a host of one role, all the time: what it hears and what
it does of itself changes its dealings as told, and whatever it sends can be read. -/

namespace Station

structure Attending (role : Role) (limit : UInt8) (address : SocketAddress)
    (station : Station Interface) : Prop where
  attends : station.roster.Attends role limit address
  room_eq : ∀ host, station.endpoint.host = some host → station.endpoint.room = maxDatagram
  legible : station.process.network.Legible

namespace Attending

variable {role : Role} {limit : UInt8} {address : SocketAddress} {station : Station Interface}

theorem host (attending : station.Attending role limit address) {host : Host}
    (hosting : station.endpoint.host = some host) :
    host.Attends role limit address station.process.nextPeer :=
  attending.attends hosting

/-- What changes neither what is hosted nor what is sent. -/
theorem setNetwork (attending : station.Attending role limit address) {network : Interface}
    (same : network.sent = station.process.network.sent) :
    (station.setNetwork network).Attending role limit address where
  attends := attending.attends
  room_eq := attending.room_eq
  legible := by
    intro letter mem
    exact attending.legible letter (same ▸ mem)

theorem unwritten (attending : station.Attending role limit address) :
    station.unwritten.Attending role limit address :=
  attending.setNetwork rfl

theorem written (attending : station.Attending role limit address)
    (destination : SocketAddress) {frame : Frame} (short : frame.Short) :
    (station.written destination frame).Attending role limit address where
  attends := attending.attends
  room_eq := attending.room_eq
  legible := attending.legible.write destination short

theorem sendFrame (attending : station.Attending role limit address)
    (socket destination : SocketAddress) {frame : Frame} (short : frame.Short) :
    (attempt (Station.sendFrame socket destination frame) station).Attending role limit
      address := by
  rcases attempt_sendFrame_cases socket destination frame station with sent | failed
  · rw [sent]
    exact attending.written destination short
  · rw [failed]
    exact attending.unwritten

theorem handle {host : Host} (hosting : station.endpoint.host = some host)
    (attending : station.Attending role limit address) (source : SocketAddress) (frame : Frame) :
    (handle host source frame station).2.Attending role limit address := by
  have attends := attending.attends.applied (handle_applied hosting source frame)
  obtain ⟨after, hosted⟩ := host_handle hosting source frame
  refine ⟨attends, fun _ _ => ?_, ?_⟩
  · rw [hosted]
    exact attending.room_eq host hosting
  · rcases network_handle host source frame station with same | skipped | ⟨reply, short, sent⟩
    · rw [same]
      exact attending.legible
    · rw [skipped]
      exact attending.legible
    · rw [sent]
      exact attending.legible.write source short

theorem heard_datagram (attending : station.Attending role limit address)
    (hosted : station.endpoint.host.isSome) (source : SocketAddress) (bytes : Bytes) :
    let handled := handleDatagram source bytes station
    handled.2.Attending role limit address ∧ handled.2.endpoint.host.isSome ∧
      handled.2.process.network.inbox = station.process.network.inbox ∧
      ∀ {frames later after}, Hears role limit address frames (handled.2.dealings address) later
          after →
        Hears role limit address ((frameOf? address (.datagram source bytes)).toList ++ frames)
          (station.dealings address) (handled.1 ++ later) after := by
  obtain ⟨host, hosting⟩ := Option.isSome_iff_exists.mp hosted
  have read : frameOf? address (.datagram source bytes) =
      if source = address then Frame.decode? (bytes.take maxDatagram) else none := by
    rw [frameOf?, Interface.letterOf?]
    split <;> rfl
  rw [handleDatagram_eq, hosting, attending.room_eq host hosting, read]
  cases decoded : Frame.decode? (bytes.take maxDatagram) with
  | none =>
      rw [ite_self]
      exact ⟨attending, hosted, rfl, fun rest => rest⟩
  | some frame =>
      obtain ⟨after, same⟩ := host_handle hosting source frame
      refine ⟨attending.handle hosting source frame, by rw [same]; rfl,
        inbox_handle host source frame station, fun rest => ?_⟩
      by_cases here : source = address
      · subst here
        rw [if_pos rfl]
        exact .heard (handle_heard hosting (attending.host hosting) frame) rest
      · rw [if_neg here]
        obtain ⟨unchanged, others, quiet⟩ :=
          handle_elsewhere hosting (attending.host hosting) here frame
        exact .elsewhere others quiet (unchanged ▸ rest)

theorem received (attending : station.Attending role limit address) {socket : SocketAddress}
    {wait : Nat} {receipt : Receipt} {arrived : Station Interface}
    (received : receive socket wait station = (receipt, arrived)) :
    arrived.Attending role limit address ∧ arrived.endpoint = station.endpoint ∧
      arrived.dealings address = station.dealings address ∧ ∃ taken,
        station.process.network.inbox = taken ++ arrived.process.network.inbox ∧
        taken.filterMap (frameOf? address) = (frameOf? address receipt).toList := by
  rcases inbox_of_receive received with ⟨rfl, rfl⟩ | ⟨rest, waiting, rfl⟩
  · exact ⟨attending, rfl, rfl, [], rfl, rfl⟩
  · refine ⟨attending.setNetwork rfl, rfl, rfl, [receipt], waiting, ?_⟩
    rw [List.filterMap_cons]
    cases frameOf? address receipt <;> rfl

theorem gathered {socket : SocketAddress} {bound wait : Nat} {batch : Batch}
    {after : Station Interface} (gathers : Gathers socket bound wait station batch after)
    (attending : station.Attending role limit address) (hosted : station.endpoint.host.isSome) :
    after.Attending role limit address ∧ ∃ taken,
      station.process.network.inbox = taken ++ after.process.network.inbox ∧
      Hears role limit address (taken.filterMap (frameOf? address)) (station.dealings address)
        batch.events (after.dealings address) := by
  induction gathers with
  | enough => exact ⟨attending, [], rfl, .done⟩
  | nothing received | failed received =>
      obtain ⟨ended, -, same, taken, split, read⟩ := attending.received received
      refine ⟨ended, taken, split, ?_⟩
      rw [read, same]
      exact .done
  | reset received rest ih =>
      obtain ⟨next, still, same, taken, split, read⟩ := attending.received received
      obtain ⟨ended, more, later, hears⟩ := ih next (still ▸ hosted)
      refine ⟨ended, taken ++ more, by rw [split, later, List.append_assoc], ?_⟩
      rw [List.filterMap_append, read, ← same]
      exact hears
  | @datagram limit wait source bytes station arrived after batch received rest ih =>
      obtain ⟨next, still, same, taken, split, read⟩ := attending.received received
      obtain ⟨handled, hosted, unread, first⟩ :=
        next.heard_datagram (still ▸ hosted) source bytes
      obtain ⟨ended, more, later, hears⟩ := ih handled hosted
      refine ⟨ended, taken ++ more, by rw [split, ← unread, later, List.append_assoc], ?_⟩
      rw [List.filterMap_append, read, ← same]
      exact first hears

theorem taken (attending : station.Attending role limit address) (timeout : Nat) :
    let batch := takeBatch timeout station
    batch.2.Attending role limit address ∧ ∃ taken,
      station.process.network.inbox = taken ++ batch.2.process.network.inbox ∧
      Hears role limit address (taken.filterMap (frameOf? address)) (station.dealings address)
        batch.1.events (batch.2.dealings address) := by
  unfold takeBatch
  cases hosting : station.endpoint.host with
  | none => exact ⟨attending, [], rfl, .done⟩
  | some host => exact gathered (gathers_gather ..) attending (by rw [hosting]; rfl)

theorem handleDatagram_of_short (attending : station.Attending role limit address) {host : Host}
    (hosting : station.endpoint.host = some host) (source : SocketAddress) {frame : Frame}
    (short : frame.Short) :
    handleDatagram source frame.encode station = Station.handle host source frame station := by
  rw [handleDatagram_eq, hosting, attending.room_eq host hosting, List.take_of_length_le short,
    Frame.decode?_encode]

theorem unmoved_of_connect (attending : station.Attending role limit address) {host : Host}
    (hosting : station.endpoint.host = some host) {peer : PeerHandle} {link : Link}
    (linked : host.link? peer = some link) (there : link.address = address) (channels : UInt8) :
    let handled := handleDatagram address (Frame.encode (.connect channels)) station
    handled.1 = [] ∧ handled.2.roster = station.roster := by
  have attends := attending.host hosting
  have facing := (Host.facing?_eq_some_iff attends.sound attends.faces).mpr ⟨linked, there⟩
  have reacted := react_of_facing attends.sound attends.faces facing (.connect channels)
  rw [attending.handleDatagram_of_short hosting address (Frame.short_connect channels)]
  rcases handle_of_answer reacted station with sent | failed
  · rw [sent]
    exact ⟨rfl, rfl⟩
  · rw [failed]
    exact ⟨rfl, rfl⟩

theorem unmoved_of_accept (attending : station.Attending role limit address) {host : Host}
    (hosting : station.endpoint.host = some host) {peer : PeerHandle} {link : Link}
    (linked : host.link? peer = some link) (there : link.address = address)
    (connected : link.state = .connected) (channels : UInt8) :
    handleDatagram address (Frame.encode (.accept channels)) station = ([], station) := by
  have attends := attending.host hosting
  have facing := (Host.facing?_eq_some_iff attends.sound attends.faces).mpr ⟨linked, there⟩
  have reacted := react_of_facing attends.sound attends.faces facing (.accept channels)
  simp only [Host.reactToPeer, linked, connected, reduceCtorEq, if_false] at reacted
  rw [attending.handleDatagram_of_short hosting address (Frame.short_accept channels),
    handle_of_ignore reacted]

theorem received_of_offered (attending : station.Attending role limit address) {host : Host}
    (hosting : station.endpoint.host = some host) {peer : PeerHandle} {link : Link}
    (linked : host.link? peer = some link) (there : link.address = address)
    (connected : link.state = .connected) {channel : UInt8} (offered : channel < link.channels)
    {flags : SendFlags} {data : Bytes} (short : (Frame.data channel flags data).Short) :
    (handleDatagram address (Frame.encode (.data channel flags data)) station).1 =
      [.receive peer channel flags data] := by
  have attends := attending.host hosting
  have facing := (Host.facing?_eq_some_iff attends.sound attends.faces).mpr ⟨linked, there⟩
  have reacted := react_of_facing attends.sound attends.faces facing (.data channel flags data)
  have found : host.connectedLink? peer = some link := by
    simp [Host.connectedLink?, linked, connected]
  simp only [Host.reactToPeer, found, if_pos offered] at reacted
  rw [attending.handleDatagram_of_short hosting address short, handle_of_report reacted]

theorem send (attending : station.Attending role limit address) (peer : PeerHandle)
    (channel : UInt8) (data : Bytes) (flags : SendFlags) :
    let after := attempt (send peer channel data flags) station
    after.Attending role limit address ∧
      after.process.network.inbox = station.process.network.inbox ∧
      Acted (station.dealings address) (after.dealings address) := by
  rcases attempt_send_cases peer channel data flags station with
    same | ⟨host, link, hosting, linked, connected, offered, fits, sending⟩
  · rw [same]
    exact ⟨attending, rfl, .kept⟩
  · have attends := attending.host hosting
    rw [sending]
    refine ⟨attending.sendFrame host.socket link.address (Frame.short_data channel flags fits),
      inbox_attempt_sendFrame _ _ _ station, ?_⟩
    rcases attempt_sendFrame_cases host.socket link.address (.data channel flags data)
      station with sent | failed
    · rw [sent, dealings_written, dealings_of_host hosting]
      split
      · next there =>
        rw [(Host.facing?_eq_some_iff attends.sound attends.faces).mpr ⟨linked, there⟩]
        exact .said flags data connected offered
      · exact .kept
    · rw [failed]
      exact .kept

/-- To leave a peer is to leave the address if that is the address of the peer. -/
theorem removed {host : Host} (hosting : station.endpoint.host = some host)
    (attending : station.Attending role limit address) {peer : PeerHandle} {link : Link}
    (linked : host.link? peer = some link) :
    (station.setHost (some (host.remove peer))).Attending role limit address ∧
      (station.setHost (some (host.remove peer))).dealings address =
        if link.address = address then ⟨none, station.wrote address⟩
        else station.dealings address := by
  have attends := attending.host hosting
  refine ⟨⟨?_, fun _ _ => attending.room_eq host hosting, attending.legible⟩, ?_⟩
  · rintro _ ⟨⟩
    exact attends.remove peer
  · rw [dealings_setHost, Host.facing?_remove attends.sound attends.faces,
      dealings_of_host hosting]
    by_cases there : link.address = address
    · rw [(Host.facing?_eq_some_iff attends.sound attends.faces).mpr ⟨linked, there⟩,
        Option.map_some, if_pos rfl, if_pos there]
    · have others (found : Link) : host.facing? address ≠ some (peer, found) := by
        intro facing
        obtain ⟨linked', here⟩ := (Host.facing?_eq_some_iff attends.sound attends.faces).mp facing
        cases linked.symm.trans linked'
        exact there here
      rw [if_neg (Host.fst_facing?_ne others), if_neg there]

theorem disconnectPeer (attending : station.Attending role limit address) (peer : PeerHandle) :
    let after := attempt (disconnectPeer peer) station
    after.Attending role limit address ∧
      after.process.network.inbox = station.process.network.inbox ∧
      Acted (station.dealings address) (after.dealings address) := by
  rcases disconnectPeer_cases peer station with same | ⟨host, link, hosting, linked, left⟩
  · rw [same]
    exact ⟨attending, rfl, .kept⟩
  · have attends := attending.host hosting
    obtain ⟨gone, dealings⟩ := attending.removed hosting linked
    rw [left]
    refine ⟨gone.sendFrame host.socket link.address Frame.short_disconnect,
      inbox_attempt_sendFrame _ _ _ _, ?_⟩
    rcases attempt_sendFrame_cases host.socket link.address .disconnect
      (station.setHost (some (host.remove peer))) with sent | failed
    · rw [sent, dealings_written, dealings, wrote_setHost, dealings_of_host hosting]
      split
      · next there =>
        rw [(Host.facing?_eq_some_iff attends.sound attends.faces).mpr ⟨linked, there⟩]
        exact .parted
      · exact .kept
    · rw [failed, dealings_unwritten, dealings]
      split
      · exact .left
      · exact .kept

theorem disconnectAll (attending : station.Attending role limit address)
    (peers : List PeerHandle) :
    let after := (disconnectAll peers station).2
    after.Attending role limit address ∧
      after.process.network.inbox = station.process.network.inbox ∧
      Relation.ReflTransGen Acted (station.dealings address) (after.dealings address) := by
  induction peers generalizing station with
  | nil => exact ⟨attending, rfl, .refl⟩
  | cons peer rest ih =>
      obtain ⟨middle, same, first⟩ := attending.disconnectPeer peer
      obtain ⟨ended, inbox, later⟩ := ih middle
      rw [snd_disconnectAll_cons]
      exact ⟨ended, inbox.trans same, .head first later⟩

theorem disconnect (attending : station.Attending role limit address) :
    let after := attempt disconnect station
    after.Attending role limit address ∧
      after.process.network.inbox = station.process.network.inbox ∧
      Relation.ReflTransGen Acted (station.dealings address) (after.dealings address) := by
  cases hosting : station.endpoint.host with
  | none =>
      rw [disconnect_of_vacant hosting]
      exact ⟨attending, rfl, .refl⟩
  | some host =>
      rw [disconnect_of_host hosting]
      exact attending.disconnectAll host.links.keys

theorem stop (attending : station.Attending role limit address) :
    station.stop.Attending role limit address ∧
      Acted (station.dealings address) (station.stop.dealings address) := by
  cases hosting : station.endpoint.host with
  | none =>
      simp only [Station.stop, closeHost, hosting]
      exact ⟨⟨nofun, nofun, attending.legible⟩, .left⟩
  | some host =>
      simp only [Station.stop, closeHost, hosting]
      exact ⟨⟨nofun, nofun, attending.legible⟩, .left⟩

theorem start (attending : station.Attending role limit address) :
    station.start.Attending role limit address ∧
      station.start.dealings address = station.dealings address := by
  unfold Station.start
  split
  · exact ⟨attending, rfl⟩
  · exact ⟨⟨attending.attends, fun _ _ => rfl, attending.legible⟩, rfl⟩

theorem inbox_stop (station : Station Interface) :
    station.stop.process.network.inbox = station.process.network.inbox ∨
      station.stop.process.network.inbox = [] := by
  unfold Station.stop closeHost
  split
  · exact .inl rfl
  · exact .inr rfl

/-- The calls that are left do what calls do to the dealings, and no more than lose what has
arrived. -/
theorem plain (attending : station.Attending role limit address) {call : TransportCall}
    (plain : call.Plain) :
    let after := station.meet (.call call)
    after.Attending role limit address ∧
      (after.process.network.inbox = station.process.network.inbox ∨
        after.process.network.inbox = []) ∧
      Relation.ReflTransGen Acted (station.dealings address) (after.dealings address) := by
  cases call with
  | start =>
      obtain ⟨started, same⟩ := attending.start
      change station.start.Attending role limit address ∧ _ ∧
        Relation.ReflTransGen Acted _ (station.start.dealings address)
      rw [same]
      refine ⟨started, .inl ?_, .refl⟩
      change station.start.process.network.inbox = _
      unfold Station.start
      split <;> rfl
  | stop =>
      obtain ⟨stopped, acted⟩ := attending.stop
      exact ⟨stopped, inbox_stop station, .single acted⟩
  | disconnect =>
      obtain ⟨left, same, acted⟩ := attending.disconnect
      exact ⟨left, .inl same, acted⟩
  | disconnectPeer peer =>
      obtain ⟨left, same, acted⟩ := attending.disconnectPeer peer
      exact ⟨left, .inl same, .single acted⟩
  | send peer channel data flags =>
      obtain ⟨sent, same, acted⟩ := attending.send peer channel data flags
      exact ⟨sent, .inl same, .single acted⟩
  | createServer => exact plain.elim
  | createClient => exact plain.elim
  | connect => exact plain.elim
  | poll => exact plain.elim

end Attending

end Station

end Datagram

end Courier

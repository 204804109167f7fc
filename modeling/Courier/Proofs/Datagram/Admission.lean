import Courier.Proofs.Datagram.Isolation

namespace Courier.Datagram

/-! Who is let in. A host never has more links than it may have. A server makes a link for a
stranger exactly if it has room and the stranger can be told; otherwise all is as it was, whether
the stranger is turned away or not heard of again. Whoever has a link already is told so once more,
room or no room. -/

namespace Host

def Bounded (host : Host) : Prop :=
  host.links.size ≤ host.maxPeers

theorem isFull_eq_false_iff (host : Host) :
    host.isFull = false ↔ host.links.size < host.maxPeers := by
  simp [isFull]

theorem Bounded.insert {host : Host} (room : host.isFull = false) (peer : PeerHandle)
    (link : Link) : (host.insert peer link).Bounded := by
  have below := (isFull_eq_false_iff host).mp room
  have grown : (host.links.insert peer link).size ≤ host.links.size + 1 :=
    Std.TreeMap.size_insert_le
  exact Nat.le_trans grown below

theorem Bounded.remove {host : Host} (bounded : host.Bounded) (peer : PeerHandle) :
    (host.remove peer).Bounded := by
  unfold Host.remove
  split
  · exact bounded
  · have shrunk : (host.links.erase peer).size ≤ host.links.size := Std.TreeMap.size_erase_le
    exact Nat.le_trans shrunk bounded

theorem Bounded.establish {host : Host} (bounded : host.Bounded) {peer : PeerHandle} {link : Link}
    (linked : host.link? peer = some link) (granted : UInt8) :
    (host.establish peer link granted).Bounded := by
  have there : host.links.contains peer = true := by
    rw [Std.TreeMap.contains_eq_isSome_getElem?]
    exact Option.isSome_of_eq_some linked
  have same : (host.establish peer link granted).links.size = host.links.size :=
    Std.TreeMap.size_insert.trans (if_pos there)
  exact Nat.le_trans (Nat.le_of_eq same) bounded

theorem abiding_bounded : Abiding Bounded where
  opened _ _ _ maxPeers _ := Nat.zero_le maxPeers
  insert peer _ room _ := .insert room peer _
  remove peer bounded := bounded.remove peer
  establish granted bounded linked := bounded.establish linked granted
  withSocket _ bounded := bounded

/-- What a host is made with. -/
def settings (host : Host) : Role × SocketAddress × UInt8 × Nat :=
  (host.role, host.socket, host.channels, host.maxPeers)

theorem settings_remove (host : Host) (peer : PeerHandle) :
    (host.remove peer).settings = host.settings := by
  unfold Host.remove
  split <;> rfl

/-- The tables are the same, entry by entry. -/
structure Unchanged (before after : Host) : Prop where
  settings : after.settings = before.settings
  links : ∀ peer, after.link? peer = before.link? peer
  addresses : ∀ address, after.peerAt? address = before.peerAt? address

/-- There is one link more, under a handle that had none and for an address that stood for none. -/
structure Gains (before : Host) (peer : PeerHandle) (link : Link) (after : Host) : Prop where
  settings : after.settings = before.settings
  unlinked : before.link? peer = none
  unknown : before.peerAt? link.address = none
  links : ∀ other, after.link? other = if peer = other then some link else before.link? other
  addresses : ∀ address,
    after.peerAt? address = if link.address = address then some peer else before.peerAt? address

variable {host : Host} {peer : PeerHandle} {link : Link}

theorem gains_insert (fresh : host.link? peer = none)
    (stranger : host.peerAt? link.address = none) :
    host.Gains peer link (host.insert peer link) where
  settings := rfl
  unlinked := fresh
  unknown := stranger
  links other := link?_insert host peer other link
  addresses address := peerAt?_insert host peer link address

theorem Unchanged.refl (host : Host) : host.Unchanged host :=
  ⟨rfl, fun _ => rfl, fun _ => rfl⟩

theorem Unchanged.no_new_link {after : Host} (same : host.Unchanged after) :
    ¬ ∃ other link, host.link? other = none ∧ after.link? other = some link := by
  rintro ⟨other, link, absent, linked⟩
  rw [same.links, absent] at linked
  cases linked

theorem Gains.new_link {after : Host} (gains : host.Gains peer link after) :
    ∃ other link, host.link? other = none ∧ after.link? other = some link :=
  ⟨peer, link, gains.unlinked, (gains.links peer).trans (if_pos rfl)⟩

/-- Taking a new link back undoes it. -/
theorem Gains.unchanged_remove {after : Host} (gains : host.Gains peer link after) :
    host.Unchanged (after.remove peer) where
  settings := (settings_remove after peer).trans gains.settings
  links other := by
    rw [link?_remove, gains.links]
    split
    · next same => rw [← same, gains.unlinked]
    · rfl
  addresses address := by
    have known : after.link? peer = some link := by rw [gains.links, if_pos rfl]
    rw [peerAt?_remove known, gains.addresses]
    split
    · next same => rw [← same, gains.unknown]
    · rfl

end Host

/-- The network takes the frame, as it is now. -/
def Sendable {ν : Type} [Network ν] (socket destination : SocketAddress) (frame : Frame)
    (network : ν) : Prop :=
  ∃ after, Network.send socket destination frame.encode network = .ok () after

instance {ν : Type} [Network ν] (socket destination : SocketAddress) (frame : Frame)
    (network : ν) : Decidable (Sendable socket destination frame network) :=
  match sent : Network.send socket destination frame.encode network with
  | .ok _ after => isTrue ⟨after, sent⟩
  | .error _ _ => isFalse fun ⟨_, told⟩ => by rw [sent] at told; cases told

namespace Station

variable {ν : Type} [Network ν]

theorem fst_answer_iff (socket source : SocketAddress) (frame : Frame) (station : Station ν) :
    (answer socket source frame station).1 = true ↔
      Sendable socket source frame station.process.network := by
  simp only [answer, sendFrame, Sendable]
  cases Network.send socket source frame.encode station.process.network <;> simp

theorem answer_eq_of_sendable {socket source : SocketAddress} {frame : Frame}
    {station : Station ν} (sendable : Sendable socket source frame station.process.network) :
    answer socket source frame station = (true, station.setNetwork
      (attempt (Network.send socket source frame.encode) station.process.network)) :=
  Prod.ext ((fst_answer_iff socket source frame station).mpr sendable)
    (snd_answer socket source frame station)

theorem answer_eq_of_not_sendable {socket source : SocketAddress} {frame : Frame}
    {station : Station ν} (unsent : ¬ Sendable socket source frame station.process.network) :
    answer socket source frame station = (false, station.setNetwork
      (attempt (Network.send socket source frame.encode) station.process.network)) :=
  Prod.ext (Bool.eq_false_iff.mpr fun sent =>
      unsent ((fst_answer_iff socket source frame station).mp sent))
    (snd_answer socket source frame station)

/-- A datagram that there is room for is read as it is. -/
theorem Equipped.handleDatagram_eq_handle {station : Station ν} (equipped : station.Equipped)
    {host : Host} (hosting : station.endpoint.host = some host) (source : SocketAddress)
    {bytes : Bytes} (short : bytes.length ≤ maxDatagram) {frame : Frame}
    (read : Frame.decode? bytes = some frame) :
    handleDatagram source bytes station = handle host source frame station := by
  have room := equipped.of_host (Option.isSome_of_eq_some hosting)
  rw [handleDatagram_eq, hosting, room, List.take_of_length_le short, read]

theorem handle_connect_of_stranger {host : Host} {source : SocketAddress}
    (serving : host.role = .server) (stranger : host.peerAt? source = none) (requested : UInt8)
    (station : Station ν) :
    handle host source (.connect requested) station =
      if host.isFull then ([], (answer host.socket source .disconnect station).2)
      else accept host source (negotiate requested host.channels) station := by
  have reacted : host.react source (.connect requested) =
      if host.isFull then .answer .disconnect
      else .accept (negotiate requested host.channels) := by
    simp only [Host.react, stranger, Host.reactToStranger, serving]
  cases full : host.isFull with
  | true =>
      simp only [full, if_true] at reacted
      simp only [handle, reacted]
      rfl
  | false =>
      simp only [full, Bool.false_eq_true, if_false] at reacted
      simp only [handle, reacted]
      rfl

/-- The answer to a peer that is there repeats what it has been granted. -/
theorem handle_connect_of_known {host : Host} {source : SocketAddress} {peer : PeerHandle}
    {link : Link} (known : host.peerAt? source = some peer) (linked : host.link? peer = some link)
    (requested : UInt8) (station : Station ν) :
    handle host source (.connect requested) station =
      ([], (answer host.socket source (.accept link.channels) station).2) := by
  have reacted : host.react source (.connect requested) = .answer (.accept link.channels) := by
    simp only [Host.react, known, Host.reactToPeer, linked, Option.elim_some]
  simp only [handle, reacted]
  rfl

theorem accept_of_sendable {host : Host} {source : SocketAddress} {channels : UInt8}
    {station : Station ν}
    (told : Sendable host.socket source (.accept channels) station.process.network) :
    let peer : PeerHandle := ⟨station.process.nextPeer⟩
    accept host source channels station =
      ([.connect peer],
        { station with
          process :=
            { network := attempt (Network.send host.socket source (Frame.accept channels).encode)
                station.process.network
              nextPeer := station.process.nextPeer + 1 } }.setHost
          (some (host.insert peer { address := source, channels, state := .connected }))) := by
  have sendable : Sendable host.socket source (.accept channels)
      (newPeer station).2.process.network := told
  have answered := answer_eq_of_sendable sendable
  simp only [newPeer] at answered
  simp only [accept, newPeer, Bind.bind, StateT.bind, answered]
  rfl

theorem accept_of_not_sendable {host : Host} {source : SocketAddress} {channels : UInt8}
    {station : Station ν}
    (untold : ¬ Sendable host.socket source (.accept channels) station.process.network) :
    let peer : PeerHandle := ⟨station.process.nextPeer⟩
    accept host source channels station =
      ([],
        { station with
          process :=
            { network := attempt (Network.send host.socket source (Frame.accept channels).encode)
                station.process.network
              nextPeer := station.process.nextPeer + 1 } }.setHost
          (some ((host.insert peer
            { address := source, channels, state := .connected }).remove peer))) := by
  have unsendable : ¬ Sendable host.socket source (.accept channels)
      (newPeer station).2.process.network := untold
  have answered := answer_eq_of_not_sendable unsendable
  simp only [newPeer] at answered
  simp only [accept, newPeer, Bind.bind, StateT.bind, answered]
  rfl

/-- A stranger who is told gets a link, and one who cannot be told leaves nothing. -/
theorem accept_cases {host : Host} {source : SocketAddress} {station : Station ν}
    (sound : host.Sound station.process.nextPeer) (stranger : host.peerAt? source = none)
    (channels : UInt8) :
    let accepted := accept host source channels station
    let peer : PeerHandle := ⟨station.process.nextPeer⟩
    let told := Sendable host.socket source (.accept channels) station.process.network
    ∃ after, accepted.2.endpoint = { station.endpoint with host := some after } ∧
      accepted.2.process =
        { network := attempt (Network.send host.socket source (Frame.accept channels).encode)
            station.process.network
          nextPeer := station.process.nextPeer + 1 } ∧
      (told ∧ accepted.1 = [.connect peer] ∧
          host.Gains peer { address := source, channels, state := .connected } after ∨
        ¬ told ∧ accepted.1 = [] ∧ host.Unchanged after) := by
  intro accepted peer told
  let link : Link := { address := source, channels, state := .connected }
  have gains : host.Gains peer link (host.insert peer link) :=
    Host.gains_insert sound.fresh stranger
  by_cases sent : told
  · have ran : accepted = _ := accept_of_sendable sent
    rw [ran]
    exact ⟨_, rfl, rfl, .inl ⟨sent, rfl, gains⟩⟩
  · have ran : accepted = _ := accept_of_not_sendable sent
    rw [ran]
    exact ⟨_, rfl, rfl, .inr ⟨sent, rfl, gains.unchanged_remove⟩⟩

/-- A request to connect is short enough to be read as it is. -/
theorem Equipped.handleDatagram_connect {station : Station ν} (equipped : station.Equipped)
    {host : Host} (hosting : station.endpoint.host = some host) (source : SocketAddress)
    {bytes : Bytes} {requested : UInt8}
    (read : Frame.decode? bytes = some (.connect requested)) :
    handleDatagram source bytes station = handle host source (.connect requested) station := by
  refine equipped.handleDatagram_eq_handle hosting source ?_ read
  rw [← (Frame.decode?_eq_some_iff _ _).mp read]
  simp [Frame.encode, maxDatagram]

/-- The limit is kept, which is one link for a client, and no handle is given twice. A stranger who
asks a server to connect gets a link exactly if there is room and the stranger can be told: one
more link then, under a new handle, with the channels that have been agreed on, and one event. A
stranger there is no room for is told so, and nothing else happens; of one who cannot be told
nothing is left. One who has a link is told of it again, room or no room. -/
theorem admission_of_reached {process : Process ν} {station : Station ν}
    (reached : Reached process station) {host : Host}
    (hosting : station.endpoint.host = some host) :
    host.links.size ≤ host.maxPeers ∧ (host.role = .client → host.maxPeers = 1) ∧
      (∀ peer link, host.link? peer = some link → peer.number < station.process.nextPeer) ∧
      ∀ (source : SocketAddress) (bytes : Bytes) (requested : UInt8),
        Frame.decode? bytes = some (.connect requested) →
        let handled := handleDatagram source bytes station
        let granted := negotiate requested host.channels
        let peer : PeerHandle := ⟨station.process.nextPeer⟩
        let tried (frame : Frame) : ν :=
          attempt (Network.send host.socket source frame.encode) station.process.network
        let told := Sendable host.socket source (.accept granted) station.process.network
        (host.role = .server → host.peerAt? source = none →
          ((∃ other link, host.link? other = none ∧ handled.2.roster.link? other = some link) ↔
              host.links.size < host.maxPeers ∧ told) ∧
            (host.maxPeers ≤ host.links.size →
              handled = ([], station.setNetwork (tried .disconnect))) ∧
            (host.links.size < host.maxPeers → ∃ after,
              handled.2.endpoint = { station.endpoint with host := some after } ∧
              handled.2.process =
                { network := tried (.accept granted), nextPeer := station.process.nextPeer + 1 } ∧
              (told → handled.1 = [.connect peer] ∧
                host.Gains peer { address := source, channels := granted, state := .connected }
                  after) ∧
              (¬ told → handled.1 = [] ∧ host.Unchanged after))) ∧
        ∀ known, host.peerAt? source = some known → ∃ link,
          host.link? known = some link ∧ link.address = source ∧
          handled = ([], station.setNetwork (tried (.accept link.channels))) := by
  have sound : host.Sound station.process.nextPeer := reached.sound hosting
  refine ⟨reached.abides Host.abiding_bounded hosting, sound.single,
    fun peer link linked => sound.handle_lt linked, ?_⟩
  intro source bytes requested read handled granted peer tried told
  have heard : handled = handle host source (.connect requested) station :=
    reached.equipped.handleDatagram_connect hosting source read
  refine ⟨fun serving stranger => ?_, fun known there => ?_⟩
  · rw [handle_connect_of_stranger serving stranger] at heard
    have gained_iff {after : Host} (hosted : handled.2.endpoint.host = some after) :
        (∃ other link, host.link? other = none ∧ handled.2.roster.link? other = some link) ↔
          ∃ other link, host.link? other = none ∧ after.link? other = some link := by
      rw [roster_of_host hosted]
      rfl
    cases full : host.isFull with
    | true =>
        rw [full, if_pos rfl, snd_answer] at heard
        have crowded : host.maxPeers ≤ host.links.size := by simpa [Host.isFull] using full
        have hosted : handled.2.endpoint.host = some host := by rw [heard]; exact hosting
        refine ⟨(gained_iff hosted).trans (iff_of_false (Host.Unchanged.refl host).no_new_link ?_),
          fun _ => heard, fun room => absurd room (Nat.not_lt.mpr crowded)⟩
        exact fun room => Nat.not_lt.mpr crowded room.1
    | false =>
        rw [full, if_neg Bool.false_ne_true] at heard
        have room := (Host.isFull_eq_false_iff host).mp full
        obtain ⟨after, endpoint, process, outcome⟩ := accept_cases sound stranger granted
        rw [← heard] at endpoint process outcome
        have hosted : handled.2.endpoint.host = some after := congrArg Endpoint.host endpoint
        have not_crowded : ¬ host.maxPeers ≤ host.links.size := Nat.not_le.mpr room
        rcases outcome with ⟨sent, events, gains⟩ | ⟨unsent, events, same⟩
        · refine ⟨(gained_iff hosted).trans (iff_of_true gains.new_link ⟨room, sent⟩),
            fun crowded => absurd crowded not_crowded, fun _ => ⟨after, endpoint, process, ?_⟩⟩
          exact ⟨fun _ => ⟨events, gains⟩, fun unsent => absurd sent unsent⟩
        · refine ⟨(gained_iff hosted).trans (iff_of_false same.no_new_link fun both => ?_),
            fun crowded => absurd crowded not_crowded, fun _ => ⟨after, endpoint, process, ?_⟩⟩
          · exact unsent both.2
          · exact ⟨fun sent => absurd sent unsent, fun _ => ⟨events, same⟩⟩
  · obtain ⟨link, linked, same⟩ := sound.linked there
    rw [handle_connect_of_known there linked, snd_answer] at heard
    exact ⟨link, linked, same, heard⟩

/-- A server for one, that has admitted a guest. -/
def crowded : Station Loopback :=
  let station : Station Loopback := { process := { network := {} } }
  let serving := station.after [.call .start, .call (.createServer "127.0.0.1" 9000 1 1)]
  (handleDatagram guest (Frame.connect 1).encode serving).2

/-- A server with room lets a stranger in; a full one does not, and still answers its guest. -/
theorem admission_of_reached_visited_crowded :
    (Reached { network := {} } visited ∧ ∃ host, visited.endpoint.host = some host ∧
        host.links.size < host.maxPeers ∧
        (handleDatagram stranger (Frame.connect 1).encode visited).1 = [.connect ⟨2⟩]) ∧
      Reached { network := {} } crowded ∧ ∃ host, crowded.endpoint.host = some host ∧
        host.maxPeers ≤ host.links.size ∧
        handleDatagram stranger (Frame.connect 1).encode crowded =
          ([], crowded.setNetwork (attempt
            (Network.send host.socket stranger Frame.disconnect.encode)
            crowded.process.network)) ∧
        handleDatagram guest (Frame.connect 1).encode crowded =
          ([], crowded.setNetwork (attempt
            (Network.send host.socket guest (Frame.accept 1).encode)
            crowded.process.network)) := by
  have read : Frame.decode? (Frame.connect 1).encode = some (.connect 1) := by decide
  have next : visited.process.nextPeer = 2 := by decide +kernel
  have open_door : ∃ host ∈ visited.endpoint.host,
      host.role = .server ∧ host.channels = 1 ∧ host.peerAt? stranger = none ∧
      host.links.size < host.maxPeers ∧
      Sendable host.socket stranger (.accept 1) visited.process.network := by
    decide +kernel
  have closed_door : ∃ host ∈ crowded.endpoint.host,
      host.role = .server ∧ host.peerAt? stranger = none ∧ host.maxPeers ≤ host.links.size ∧
      host.peerAt? guest = some ⟨1⟩ ∧
      host.link? ⟨1⟩ = some { address := guest, channels := 1, state := .connected } := by
    decide +kernel
  constructor
  · have reached : Reached { network := {} } visited := .heard (Reached.fresh.after _) guest _
    obtain ⟨host, hosting, serving, channels, unknown, room, told⟩ := open_door
    have asked := (admission_of_reached reached hosting).2.2.2 stranger _ 1 read
    obtain ⟨-, -, admitted⟩ := asked.1 serving unknown
    obtain ⟨after, -, -, told_of, -⟩ := admitted room
    rw [channels, next] at told_of
    exact ⟨reached, host, hosting, room, (told_of told).1⟩
  · have reached : Reached { network := {} } crowded := .heard (Reached.fresh.after _) guest _
    obtain ⟨host, hosting, serving, unknown, full, known, linked⟩ := closed_door
    have reading := (admission_of_reached reached hosting).2.2.2
    obtain ⟨-, refused, -⟩ := (reading stranger _ 1 read).1 serving unknown
    obtain ⟨link, own, -, answered⟩ := (reading guest _ 1 read).2 ⟨1⟩ known
    rw [linked] at own
    cases own
    exact ⟨reached, host, hosting, full, refused full, answered⟩

end Station

end Courier.Datagram

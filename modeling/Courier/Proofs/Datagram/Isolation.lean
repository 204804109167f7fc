import Courier.Proofs.Datagram.Abiding
import Courier.Proofs.Datagram.Frames
import Courier.Proofs.Datagram.Links
import Courier.Proofs.Datagram.Room

namespace Courier.Datagram

/-! One address at a time. A datagram changes the tables where they are about its source, tells of
links of its source, and is answered to its source. What its source has not been admitted for is
lost. -/

namespace Host

/-- The tables are the same but for one address. -/
structure SameBut (source : SocketAddress) (before after : Host) : Prop where
  links : ∀ peer link, link.address ≠ source →
    (after.link? peer = some link ↔ before.link? peer = some link)
  addresses : ∀ address, address ≠ source → after.peerAt? address = before.peerAt? address

namespace SameBut

variable {source : SocketAddress} {before middle after host : Host} {peer : PeerHandle}
  {link : Link}

theorem refl (source : SocketAddress) (host : Host) : SameBut source host host where
  links _ _ _ := Iff.rfl
  addresses _ _ := rfl

theorem trans (first : SameBut source before middle) (second : SameBut source middle after) :
    SameBut source before after where
  links peer link other := (second.links peer link other).trans (first.links peer link other)
  addresses address other := (second.addresses address other).trans (first.addresses address other)

/-- A new link has a handle of its own, and takes no link's place. -/
theorem insert (fresh : host.link? peer = none) (own : link.address = source) :
    SameBut source host (host.insert peer link) where
  links other held elsewhere := by
    rw [link?_insert]
    split
    · next same =>
      subst same
      refine iff_of_false ?_ (by simp [fresh])
      rintro ⟨⟩
      exact elsewhere own
    · rfl
  addresses address elsewhere := by
    rw [peerAt?_insert, if_neg]
    rintro rfl
    exact elsewhere own

theorem remove (linked : host.link? peer = some link) (own : link.address = source) :
    SameBut source host (host.remove peer) where
  links other held elsewhere := by
    rw [link?_remove]
    split
    · next same =>
      subst same
      refine iff_of_false (by simp) ?_
      rw [linked]
      rintro ⟨⟩
      exact elsewhere own
    · rfl
  addresses address elsewhere := by
    rw [peerAt?_remove linked, if_neg]
    rintro rfl
    exact elsewhere own

theorem insert_remove (fresh : host.link? peer = none) (own : link.address = source) :
    SameBut source host ((host.insert peer link).remove peer) :=
  (insert fresh own).trans (remove (by rw [link?_insert, if_pos rfl]) own)

theorem establish (linked : host.link? peer = some link) (own : link.address = source)
    (granted : UInt8) : SameBut source host (host.establish peer link granted) where
  links other held elsewhere := by
    rw [link?_establish]
    split
    · next same =>
      subst same
      rw [linked]
      refine iff_of_false ?_ ?_
      · rintro ⟨⟩
        exact elsewhere own
      · rintro ⟨⟩
        exact elsewhere own
    · rfl
  addresses address _ := peerAt?_establish host peer link granted address

end SameBut

/-- The link that an event tells of, in the tables after it, or before it if the link is gone. -/
def linkOf? (before after : Host) : RawEvent → Option Link
  | .connect peer => after.link? peer
  | .disconnect peer => before.link? peer
  | .receive peer .. => after.link? peer

theorem react_of_stranger {host : Host} {source : SocketAddress} {frame : Frame}
    (stranger : host.peerAt? source = none)
    (uninvited : ∀ channels, frame = .connect channels → host.role = .client) :
    host.react source frame = .ignore := by
  rw [react, stranger]
  cases frame with
  | connect channels => simp only [reactToStranger, uninvited channels rfl]
  | accept | disconnect | data => rfl

end Host

/-- What a datagram does to the tables is about its source, and so is what it is reported by. -/
theorem Applied.isolated {source : SocketAddress} {before after : Roster}
    {events : List RawEvent} (sound : before.Sound)
    (applied : Applied source before events after) {host : Host}
    (hosting : before.host = some host) :
    ∃ later, after.host = some later ∧ host.SameBut source later ∧
      ∀ event ∈ events, ∃ link, host.linkOf? later event = some link ∧ link.address = source := by
  cases applied with
  | ignored => exact ⟨host, hosting, .refl source host, by simp⟩
  | admitted requested stranger =>
      cases hosting
      rw [Roster.sound_some] at sound
      refine ⟨_, rfl, .insert sound.fresh rfl, ?_⟩
      simp [Host.linkOf?]
  | turnedAway requested stranger =>
      cases hosting
      rw [Roster.sound_some] at sound
      exact ⟨_, rfl, .insert_remove sound.fresh rfl, by simp⟩
  | @established _ _ peer link granted known linked =>
      cases hosting
      rw [Roster.sound_some] at sound
      obtain ⟨own, found, same⟩ := sound.linked known
      obtain rfl : link = own := Option.some.inj (linked.symm.trans found)
      refine ⟨_, rfl, .establish linked same granted, ?_⟩
      simpa [Host.linkOf?] using same
  | departed known =>
      cases hosting
      rw [Roster.sound_some] at sound
      obtain ⟨link, linked, same⟩ := sound.linked known
      refine ⟨_, rfl, .remove linked same, ?_⟩
      simpa [Host.linkOf?, linked] using same
  | received flags payload known linked =>
      cases hosting
      rw [Roster.sound_some] at sound
      obtain ⟨link, found, same⟩ := sound.linked known
      refine ⟨_, rfl, .refl source _, ?_⟩
      simpa [Host.linkOf?, found] using same

namespace Station

variable {ν : Type} [Network ν]

/-- What a new endpoint of a process can get to: by what happens to it, and in the middle of a
poll, which takes a datagram and handles it. -/
inductive Reached (process : Process ν) : Station ν → Prop
  | fresh : Reached process { process }
  | met {station : Station ν} (reached : Reached process station) (occurrence : Occurrence ν) :
      Reached process (station.meet occurrence)
  | took {station : Station ν} (reached : Reached process station) (socket : SocketAddress)
      (wait : Nat) : Reached process (receive socket wait station).2
  | heard {station : Station ν} (reached : Reached process station) (source : SocketAddress)
      (bytes : Bytes) : Reached process (handleDatagram source bytes station).2

namespace Reached

variable {process : Process ν} {station : Station ν}

theorem after (reached : Reached process station) (history : List (Occurrence ν)) :
    Reached process (station.after history) := by
  induction history generalizing station with
  | nil => exact reached
  | cons occurrence rest ih => exact ih (reached.met occurrence)

theorem sound (reached : Reached process station) : station.roster.Sound := by
  induction reached with
  | fresh => exact Roster.sound_none process.nextPeer
  | met _ occurrence ih => exact sound_meet ih occurrence
  | took _ socket wait ih => exact ih
  | @heard station _ source bytes ih =>
      exact ih.applied (station.handleDatagram_applied source bytes)

theorem hasRoom (reached : Reached process station) : station.HasRoom := by
  induction reached with
  | fresh => exact .inl rfl
  | met _ occurrence ih => exact hasRoom_meet ih occurrence
  | took _ socket wait ih => exact ih
  | heard _ source bytes ih => exact ih.of_gear_eq (gear_handleDatagram source bytes _)

theorem equipped (reached : Reached process station) : station.Equipped := by
  induction reached with
  | fresh => exact ⟨fun started => (nomatch started), fun hosting => (nomatch hosting)⟩
  | met _ occurrence ih => exact equipped_meet ih occurrence
  | took _ socket wait ih => exact ⟨ih.of_started, ih.of_host⟩
  | @heard station _ source bytes ih =>
      refine ih.of_gear_eq (gear_handleDatagram source bytes station) fun hosting => .inl ?_
      exact (station.handleDatagram_applied source bytes).isSome_host ▸ hosting

theorem abides {holds : Host → Prop} (abiding : Host.Abiding holds)
    (reached : Reached process station) : station.roster.Abides holds := by
  induction reached with
  | fresh => exact Roster.abides_none holds process.nextPeer
  | met _ occurrence ih => exact abides_meet abiding ih occurrence
  | took _ socket wait ih => exact ih
  | @heard station _ source bytes ih =>
      exact ih.applied abiding (station.handleDatagram_applied source bytes)

end Reached

omit [Network ν] in
/-- Cutting a datagram does not make it a request to connect. -/
theorem HasRoom.decode?_of_take {station : Station ν} (hasRoom : station.HasRoom) {bytes : Bytes}
    {channels : UInt8}
    (read : Frame.decode? (bytes.take station.endpoint.room) = some (.connect channels)) :
    Frame.decode? bytes = some (.connect channels) := by
  rcases hasRoom with empty | full
  · rw [empty] at read
    cases read
  · rw [full] at read
    have written := congrArg List.length ((Frame.decode?_eq_some_iff _ _).mp read)
    rw [List.length_take] at written
    have short : bytes.length ≤ maxDatagram := by
      simp only [Frame.encode, List.length_cons, List.length_nil, maxDatagram] at written ⊢
      omega
    rwa [List.take_of_length_le short] at read

theorem handleDatagram_of_stranger {station : Station ν} {host : Host} (hasRoom : station.HasRoom)
    (hosting : station.endpoint.host = some host) {source : SocketAddress} {bytes : Bytes}
    (stranger : host.peerAt? source = none)
    (uninvited : ∀ channels, Frame.decode? bytes = some (.connect channels) →
      host.role = .client) :
    handleDatagram source bytes station = ([], station) := by
  rw [handleDatagram_eq, hosting]
  cases read : Frame.decode? (bytes.take station.endpoint.room) with
  | none => rfl
  | some frame =>
      have ignored : host.react source frame = .ignore := by
        refine Host.react_of_stranger stranger ?_
        rintro channels rfl
        exact uninvited channels (hasRoom.decode?_of_take read)
      simp only [handle, ignored]
      rfl

/-- Whatever bytes come from wherever: no link of another address changes, nor what another address
stands for; what is told is of a link of the source; what is sent goes to the source, and is one
frame at most. A source that stands for no link changes nothing, tells nothing and is sent nothing,
but by a request to connect to a server. -/
theorem isolated_of_reached {process : Process ν} {station : Station ν}
    (reached : Reached process station) {host : Host} (hosting : station.endpoint.host = some host)
    (source : SocketAddress) (bytes : Bytes) :
    let handled := handleDatagram source bytes station
    (∃ after, handled.2.endpoint.host = some after ∧
        (∀ peer link, link.address ≠ source →
          (after.link? peer = some link ↔ host.link? peer = some link)) ∧
        (∀ address, address ≠ source → after.peerAt? address = host.peerAt? address) ∧
        ∀ event ∈ handled.1, ∃ link,
          host.linkOf? after event = some link ∧ link.address = source) ∧
      SentTo host.socket source station.process.network handled.2.process.network ∧
      (host.peerAt? source = none →
        (∀ channels, Frame.decode? bytes = some (.connect channels) → host.role = .client) →
        handled = ([], station)) := by
  intro handled
  have applied := station.handleDatagram_applied source bytes
  obtain ⟨after, hosted, ⟨links, addresses⟩, told⟩ := applied.isolated reached.sound hosting
  refine ⟨⟨after, hosted, links, addresses, told⟩, (handleDatagram_leaves hosting source bytes).2,
    ?_⟩
  exact handleDatagram_of_stranger reached.hasRoom hosting

def guest : SocketAddress := { ip := .v4 0x7f000001, port := 4000 }

def stranger : SocketAddress := { ip := .v4 0x7f000001, port := 5000 }

/-- A server that has admitted a guest. -/
def visited : Station Loopback :=
  let station : Station Loopback := { process := { network := {} } }
  let serving := station.after [.call .start, .call (.createServer "127.0.0.1" 9000 1 4)]
  (handleDatagram guest (Frame.connect 1).encode serving).2

/-- A stranger's farewell is lost, and the guest's own is told of the guest's link. -/
theorem isolated_of_reached_visited :
    Reached { network := {} } visited ∧ ∃ host, visited.endpoint.host = some host ∧
      handleDatagram stranger Frame.disconnect.encode visited = ([], visited) ∧
      ∃ link, host.link? ⟨1⟩ = some link ∧ link.address = guest := by
  have reached : Reached { network := {} } visited := .heard (Reached.fresh.after _) guest _
  have hosted : visited.endpoint.host.isSome := by decide +kernel
  have unknown : visited.endpoint.host.bind (·.peerAt? stranger) = none := by decide +kernel
  have leaving : (handleDatagram guest Frame.disconnect.encode visited).1 = [.disconnect ⟨1⟩] := by
    decide +kernel
  obtain ⟨host, hosting⟩ := Option.isSome_iff_exists.mp hosted
  refine ⟨reached, host, hosting, ?_, ?_⟩
  · rw [hosting] at unknown
    exact (isolated_of_reached reached hosting stranger _).2.2 unknown (by rintro _ ⟨⟩)
  · obtain ⟨⟨after, -, -, -, told⟩, -⟩ :=
      isolated_of_reached reached hosting guest Frame.disconnect.encode
    exact told _ (by rw [leaving]; exact .head _)

end Station

end Courier.Datagram

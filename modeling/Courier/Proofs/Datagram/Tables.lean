import Courier.Loopback
import Courier.Proofs.Datagram.History

namespace Courier.Datagram

/-! The two tables of a host. Whatever happens, each address stands for a link of that address. The
other way round, a link can lose its address to a later one: exactly by a request to connect to an
address for which there is a link already. -/

namespace Host

@[simp] theorem peerAt?_establish (host : Host) (peer : PeerHandle) (link : Link)
    (granted : UInt8) (address : SocketAddress) :
    (host.establish peer link granted).peerAt? address = host.peerAt? address := rfl

@[simp] theorem link?_establish (host : Host) (peer other : PeerHandle) (link : Link)
    (granted : UInt8) :
    (host.establish peer link granted).link? other =
      if peer = other then
        some { link with state := .connected, channels := negotiate granted link.channels }
      else host.link? other := by
  simp [establish, link?, Std.TreeMap.getElem?_insert, Std.LawfulEqCmp.compare_eq_iff_eq]

theorem exists_link?_establish_iff {host : Host} {peer : PeerHandle} {link : Link}
    (linked : host.link? peer = some link) (granted : UInt8) (other : PeerHandle)
    (address : SocketAddress) :
    (∃ changed, (host.establish peer link granted).link? other = some changed ∧
        changed.address = address) ↔
      ∃ old, host.link? other = some old ∧ old.address = address := by
  by_cases same : peer = other
  · subst same
    simp [linked]
  · simp [same]

theorem peerAt?_eq_some_of_remove {host : Host} {peer other : PeerHandle}
    {address : SocketAddress} (found : (host.remove peer).peerAt? address = some other) :
    host.peerAt? address = some other := by
  cases linked : host.link? peer with
  | none => rwa [remove_of_link?_eq_none linked] at found
  | some link =>
      rw [peerAt?_remove linked] at found
      split at found
      · cases found
      · exact found

/-- Every link that is there has been given a handle, and every address that is there is the
address of a link. -/
structure Sound (host : Host) (next : Nat) : Prop where
  handle_lt : ∀ {peer link}, host.link? peer = some link → peer.number < next
  linked : ∀ {address peer}, host.peerAt? address = some peer →
    ∃ link, host.link? peer = some link ∧ link.address = address
  single : host.role = .client → host.maxPeers = 1

/-- The tables are inverse to each other. -/
def Inverse (host : Host) : Prop :=
  ∀ address peer, host.peerAt? address = some peer ↔
    ∃ link, host.link? peer = some link ∧ link.address = address

namespace Sound

theorem fresh {host : Host} {next : Nat} (sound : host.Sound next) :
    host.link? ⟨next⟩ = none := by
  cases linked : host.link? ⟨next⟩ with
  | none => rfl
  | some link => exact absurd (sound.handle_lt linked) (Nat.lt_irrefl next)

theorem empty (role : Role) (socket : SocketAddress) (channels : UInt8) (maxPeers next : Nat)
    (single : role = .client → maxPeers = 1) :
    Sound { role, socket, channels, maxPeers } next where
  handle_lt linked := by simp [link?] at linked
  linked found := by simp [peerAt?] at found
  single := single

theorem mono {host : Host} {next later : Nat} (sound : host.Sound next) (le : next ≤ later) :
    host.Sound later where
  handle_lt linked := Nat.lt_of_lt_of_le (sound.handle_lt linked) le
  linked := sound.linked
  single := sound.single

theorem withSocket {host : Host} {next : Nat} (sound : host.Sound next) (socket : SocketAddress) :
    Sound { host with socket } next where
  handle_lt := sound.handle_lt
  linked := sound.linked
  single := sound.single

theorem insert {host : Host} {next : Nat} (sound : host.Sound next) (link : Link) :
    (host.insert ⟨next⟩ link).Sound (next + 1) where
  handle_lt {peer other} linked := by
    rw [link?_insert] at linked
    split at linked
    · next same => exact same ▸ Nat.lt_succ_self next
    · exact Nat.lt_succ_of_lt (sound.handle_lt linked)
  linked {address peer} found := by
    rw [peerAt?_insert] at found
    split at found
    · next same =>
      cases found
      exact ⟨link, by simp, same⟩
    · obtain ⟨other, linked, same⟩ := sound.linked found
      have distinct : PeerHandle.mk next ≠ peer := by
        rintro rfl
        rw [sound.fresh] at linked
        cases linked
      exact ⟨other, by rw [link?_insert, if_neg distinct, linked], same⟩
  single := sound.single

theorem remove {host : Host} {next : Nat} (sound : host.Sound next) (peer : PeerHandle) :
    (host.remove peer).Sound next where
  handle_lt {other link} linked := by
    rw [link?_remove] at linked
    split at linked
    · cases linked
    · exact sound.handle_lt linked
  linked {address other} found := by
    obtain ⟨link, linked, same⟩ := sound.linked (peerAt?_eq_some_of_remove found)
    have distinct : peer ≠ other := by
      rintro rfl
      rw [peerAt?_remove linked, if_pos same] at found
      cases found
    exact ⟨link, by rw [link?_remove, if_neg distinct, linked], same⟩
  single := by
    unfold Host.remove
    split
    · exact sound.single
    · exact sound.single

theorem establish {host : Host} {next : Nat} (sound : host.Sound next) {peer : PeerHandle}
    {link : Link} (linked : host.link? peer = some link) (granted : UInt8) :
    (host.establish peer link granted).Sound next where
  handle_lt {other changed} found := by
    rw [link?_establish] at found
    split at found
    · next same => exact sound.handle_lt (same ▸ linked)
    · exact sound.handle_lt found
  linked {address other} found := by
    rw [peerAt?_establish] at found
    exact (exists_link?_establish_iff linked granted other address).mpr (sound.linked found)
  single := sound.single

/-- A client has one link at most, so that with room for another it has none. -/
theorem peerAt?_of_client {host : Host} {next : Nat} (sound : host.Sound next)
    (client : host.role = .client) (room : host.isFull = false) (address : SocketAddress) :
    host.peerAt? address = none := by
  have limit := sound.single client
  have empty : host.links.isEmpty := by
    rw [Std.TreeMap.isEmpty_eq_size_eq_zero]
    simp only [isFull, limit, decide_eq_false_iff_not, Nat.not_le] at room
    simpa using room
  cases found : host.peerAt? address with
  | none => rfl
  | some peer =>
      obtain ⟨link, linked, -⟩ := sound.linked found
      rw [link?, Std.TreeMap.getElem?_of_isEmpty empty] at linked
      cases linked

end Sound

namespace Inverse

theorem empty (role : Role) (socket : SocketAddress) (channels : UInt8) (maxPeers : Nat) :
    Inverse { role, socket, channels, maxPeers } := by
  intro address peer
  simp [peerAt?, link?]

/-- No two links share an address. -/
theorem peer_eq {host : Host} (inverse : host.Inverse) {first second : PeerHandle}
    {firstLink secondLink : Link} (firstLinked : host.link? first = some firstLink)
    (secondLinked : host.link? second = some secondLink)
    (same : firstLink.address = secondLink.address) : first = second := by
  have firstFound := (inverse _ _).mpr ⟨firstLink, firstLinked, rfl⟩
  have secondFound := (inverse _ _).mpr ⟨secondLink, secondLinked, same.symm⟩
  exact Option.some.inj (firstFound.symm.trans secondFound)

theorem insert {host : Host} (inverse : host.Inverse) {peer : PeerHandle} {link : Link}
    (fresh : host.link? peer = none) (new : host.peerAt? link.address = none) :
    (host.insert peer link).Inverse := by
  intro address other
  rw [peerAt?_insert, link?_insert]
  by_cases samePeer : peer = other
  · subst samePeer
    by_cases sameAddress : link.address = address
    · simp [sameAddress]
    · have absent : host.peerAt? address ≠ some peer := by
        intro found
        obtain ⟨old, linked, -⟩ := (inverse address peer).mp found
        rw [fresh] at linked
        cases linked
      simp [sameAddress, absent]
  · by_cases sameAddress : link.address = address
    · subst sameAddress
      have absent : ¬ ∃ old, host.link? other = some old ∧ old.address = link.address := by
        rw [← inverse, new]
        simp
      simpa [samePeer] using absent
    · simpa [samePeer, sameAddress] using inverse address other

theorem remove {host : Host} (inverse : host.Inverse) (peer : PeerHandle) :
    (host.remove peer).Inverse := by
  cases linked : host.link? peer with
  | none => rwa [remove_of_link?_eq_none linked]
  | some link =>
      have own : host.peerAt? link.address = some peer :=
        (inverse _ _).mpr ⟨link, linked, rfl⟩
      intro address other
      rw [peerAt?_remove linked, link?_remove]
      by_cases samePeer : peer = other
      · subst samePeer
        have found (elsewhere : link.address ≠ address) :
            host.peerAt? address ≠ some peer := by
          intro found
          obtain ⟨old, oldLinked, same⟩ := (inverse address peer).mp found
          rw [linked] at oldLinked
          cases oldLinked
          exact elsewhere same
        by_cases sameAddress : link.address = address
        · simp [sameAddress]
        · simp [sameAddress, found sameAddress]
      · by_cases sameAddress : link.address = address
        · subst sameAddress
          have absent : ¬ ∃ old, host.link? other = some old ∧ old.address = link.address := by
            rw [← inverse, own]
            simpa using samePeer
          simpa [samePeer] using absent
        · simpa [samePeer, sameAddress] using inverse address other

theorem establish {host : Host} (inverse : host.Inverse) {peer : PeerHandle} {link : Link}
    (linked : host.link? peer = some link) (granted : UInt8) :
    (host.establish peer link granted).Inverse := by
  intro address other
  rw [peerAt?_establish, exists_link?_establish_iff linked]
  exact inverse address other

end Inverse

end Host

namespace Roster

def Sound (roster : Roster) : Prop :=
  ∀ ⦃host⦄, roster.host = some host → host.Sound roster.nextPeer

def Inverse (roster : Roster) : Prop :=
  ∀ ⦃host⦄, roster.host = some host → host.Inverse

@[simp] theorem sound_some (host : Host) (next : Nat) :
    Sound ⟨some host, next⟩ ↔ host.Sound next := by
  simp [Sound]

@[simp] theorem inverse_some (host : Host) (next : Nat) :
    Inverse ⟨some host, next⟩ ↔ host.Inverse := by
  simp [Inverse]

theorem sound_none (next : Nat) : Sound ⟨none, next⟩ := by
  intro host hosting
  cases hosting

theorem inverse_none (next : Nat) : Inverse ⟨none, next⟩ := by
  intro host hosting
  cases hosting

theorem Sound.taken {roster : Roster} (sound : roster.Sound) {peer : PeerHandle} {link : Link}
    (linked : roster.link? peer = some link) : peer.number < roster.nextPeer := by
  obtain ⟨host, hosting, found⟩ := Option.bind_eq_some_iff.mp linked
  exact (sound hosting).handle_lt found

theorem Sound.remove {roster : Roster} (sound : roster.Sound) (peer : PeerHandle) :
    (roster.remove peer).Sound := by
  intro host hosting
  obtain ⟨old, present, rfl⟩ := Option.map_eq_some_iff.mp hosting
  exact (sound present).remove peer

theorem Inverse.remove {roster : Roster} (inverse : roster.Inverse) (peer : PeerHandle) :
    (roster.remove peer).Inverse := by
  intro host hosting
  obtain ⟨old, present, rfl⟩ := Option.map_eq_some_iff.mp hosting
  exact (inverse present).remove peer

theorem Sound.applied {source : SocketAddress} {before after : Roster} {events : List RawEvent}
    (sound : before.Sound) (applied : Applied source before events after) : after.Sound := by
  cases applied with
  | ignored => exact sound
  | admitted =>
      rw [sound_some] at sound ⊢
      exact sound.insert _
  | turnedAway =>
      rw [sound_some] at sound ⊢
      exact (sound.insert _).remove _
  | established granted known linked waiting =>
      rw [sound_some] at sound ⊢
      exact sound.establish linked granted
  | departed =>
      rw [sound_some] at sound ⊢
      exact sound.remove _
  | received => exact sound

theorem Inverse.applied {source : SocketAddress} {before after : Roster}
    {events : List RawEvent} (sound : before.Sound) (inverse : before.Inverse)
    (applied : Applied source before events after) : after.Inverse := by
  cases applied with
  | ignored => exact inverse
  | admitted requested stranger =>
      rw [inverse_some] at inverse ⊢
      exact inverse.insert ((sound_some _ _).mp sound).fresh stranger
  | turnedAway requested stranger =>
      rw [inverse_some] at inverse ⊢
      exact (inverse.insert ((sound_some _ _).mp sound).fresh stranger).remove _
  | established granted known linked waiting =>
      rw [inverse_some] at inverse ⊢
      exact inverse.establish linked granted
  | departed =>
      rw [inverse_some] at inverse ⊢
      exact inverse.remove _
  | received => exact inverse

theorem Sound.drained {before after : Roster} {events : List RawEvent} (sound : before.Sound)
    (drained : Drained before events after) : after.Sound := by
  induction drained with
  | done => exact sound
  | more applied rest ih => exact ih (sound.applied applied)

theorem Inverse.drained {before after : Roster} {events : List RawEvent} (sound : before.Sound)
    (inverse : before.Inverse) (drained : Drained before events after) : after.Inverse := by
  induction drained with
  | done => exact inverse
  | more applied rest ih => exact ih (sound.applied applied) (inverse.applied sound applied)

theorem Sound.moved {before after : Roster} (sound : before.Sound) (moved : Moved before after) :
    after.Sound := by
  cases moved with
  | closed => exact sound_none _
  | opened role socket channels maxPeers single =>
      rw [sound_some]
      exact .empty role socket channels maxPeers _ single
  | left peer => exact sound.remove peer
  | drained drained => exact sound.drained drained
  | elsewhere handles =>
      intro host hosting
      exact (sound hosting).mono (Nat.le_add_right _ handles)

theorem Inverse.moved {before after : Roster} (sound : before.Sound) (inverse : before.Inverse)
    (moved : Moved before after) : after.Inverse := by
  cases moved with
  | closed => exact inverse_none _
  | opened role socket channels maxPeers single =>
      rw [inverse_some]
      exact .empty role socket channels maxPeers
  | left peer => exact inverse.remove peer
  | drained drained => exact inverse.drained sound drained
  | elsewhere handles => exact inverse

theorem Sound.moves {before after : Roster} (sound : before.Sound) (moves : Moves before after) :
    after.Sound := by
  induction moves with
  | refl => exact sound
  | tail _ moved ih => exact ih.moved moved

theorem Inverse.moves {before after : Roster} (sound : before.Sound) (inverse : before.Inverse)
    (moves : Moves before after) : after.Inverse := by
  induction moves with
  | refl => exact inverse
  | tail moves moved ih => exact ih.moved (sound.moves moves) moved

theorem Sound.dialled {before after : Roster} (sound : before.Sound)
    (dialled : Dialled before after) : after.Sound := by
  cases dialled with
  | made =>
      rw [sound_some] at sound ⊢
      exact (sound.withSocket _).insert _

end Roster

namespace Station

variable {ν : Type} [Network ν]

theorem sound_meet {station : Station ν} (sound : station.roster.Sound)
    (occurrence : Occurrence ν) : (station.meet occurrence).roster.Sound := by
  rcases station.meet_cases occurrence with moves | dialled
  · exact sound.moves moves
  · exact sound.dialled dialled

theorem sound_after {station : Station ν} (sound : station.roster.Sound)
    (history : List (Occurrence ν)) : (station.after history).roster.Sound := by
  induction history generalizing station with
  | nil => exact sound
  | cons occurrence rest ih => exact ih (sound_meet sound occurrence)

theorem sound_of_history (process : Process ν) (history : List (Occurrence ν)) :
    (({ process } : Station ν).after history).roster.Sound := by
  have vacant : ({ process } : Station ν).roster.Sound := Roster.sound_none process.nextPeer
  exact sound_after vacant history

/-- A request to connect redials if it makes a link for an address that has one. -/
def Redials (station : Station ν) (name : String) (port : UInt16) : Prop :=
  ∃ known address peer link, station.endpoint.host = some known ∧
    Network.resolve? station.process.network s!"{name}:{port}" = some address ∧
    known.isFull = false ∧ known.socket.family = address.family ∧
    known.link? peer = some link ∧ link.address = address

theorem not_inverse_of_redials {station : Station ν} (sound : station.roster.Sound)
    {name : String} {port : UInt16} (redials : station.Redials name port) (channels : UInt8) :
    ¬ (station.meet (.call (.connect name port channels))).roster.Inverse := by
  obtain ⟨known, address, peer, link, hosting, resolved, room, family, linked, same⟩ := redials
  change ¬ (attempt (connect name port channels) station).roster.Inverse
  rw [roster_connect_of_reachable hosting resolved room (reachable_of_family family station),
    Roster.inverse_some]
  rw [roster_of_host hosting, Roster.sound_some] at sound
  intro inverse
  have older : peer ≠ ⟨station.process.nextPeer⟩ := by
    rintro rfl
    exact Nat.lt_irrefl _ (sound.handle_lt linked)
  have kept : (known.insert ⟨station.process.nextPeer⟩
      { address, channels := negotiate channels known.channels,
        state := .connecting }).link? peer = some link := by
    rw [Host.link?_insert, if_neg older.symm, linked]
  exact older (inverse.peer_eq kept (by rw [Host.link?_insert, if_pos rfl]) same)

theorem inverse_meet {station : Station ν} (sound : station.roster.Sound)
    (inverse : station.roster.Inverse) {occurrence : Occurrence ν}
    (new : ∀ name port channels, occurrence = .call (.connect name port channels) →
      ¬ station.Redials name port) :
    (station.meet occurrence).roster.Inverse := by
  by_cases request : ∃ name port channels, occurrence = .call (.connect name port channels)
  · obtain ⟨name, port, channels, rfl⟩ := request
    change (attempt (connect name port channels) station).roster.Inverse
    rcases roster_connect_cases name port channels station with same |
      ⟨known, address, socket, link, hosting, resolved, room, sender, target, -, -, made⟩
    · rw [same]
      exact inverse
    · rw [roster_of_host hosting, Roster.sound_some] at sound
      rw [roster_of_host hosting, Roster.inverse_some] at inverse
      have unknown : known.peerAt? link.address = none := by
        rcases sender with ⟨family, -⟩ | client
        · cases found : known.peerAt? link.address with
          | none => rfl
          | some peer =>
              obtain ⟨old, linked, same⟩ := sound.linked found
              exact absurd ⟨known, address, peer, old, hosting, resolved, room, family, linked,
                same.trans target⟩ (new name port channels rfl)
        · exact sound.peerAt?_of_client client room link.address
      have moved : Host.Inverse { known with socket } := inverse
      rw [made, Roster.inverse_some]
      exact moved.insert sound.fresh unknown
  · exact inverse.moves sound (meet_moves (fun name port channels same =>
      request ⟨name, port, channels, same⟩) station)

theorem inverse_after {station : Station ν} (sound : station.roster.Sound)
    (inverse : station.roster.Inverse) {history : List (Occurrence ν)}
    (new : ∀ past name port channels,
      past ++ [.call (.connect name port channels)] <+: history →
        ¬ (station.after past).Redials name port) :
    (station.after history).roster.Inverse := by
  induction history generalizing station with
  | nil => exact inverse
  | cons occurrence rest ih =>
      refine ih (sound_meet sound occurrence) (inverse_meet sound inverse ?_) ?_
      · rintro name port channels rfl
        exact new [] name port channels ⟨rest, rfl⟩
      · intro past name port channels early
        exact new (occurrence :: past) name port channels (List.prefix_cons_inj _ |>.mpr early)

/-- Every address stands for a link of that address, and every link is found under its address,
unless the station has redialled. -/
theorem inverse_iff_never_redials (process : Process ν) (history : List (Occurrence ν)) :
    let station : Station ν := { process }
    (∀ past host, past <+: history → (station.after past).endpoint.host = some host →
        ∀ address peer, host.peerAt? address = some peer →
          ∃ link, host.link? peer = some link ∧ link.address = address) ∧
      ((∀ past host, past <+: history → (station.after past).endpoint.host = some host →
          host.Inverse) ↔
        ∀ past name port channels,
          past ++ [.call (.connect name port channels)] <+: history →
            ¬ (station.after past).Redials name port) := by
  intro station
  have sound : station.roster.Sound := Roster.sound_none process.nextPeer
  have inverse : station.roster.Inverse := Roster.inverse_none process.nextPeer
  refine ⟨?_, ?_, ?_⟩
  · intro past host _ hosting address peer found
    exact (sound_of_history process past hosting).linked found
  · intro always past name port channels early redials
    apply not_inverse_of_redials (sound_of_history process past) redials channels
    intro host hosting
    apply always _ host early
    rw [after_append]
    exact hosting
  · intro new past host early hosting
    refine inverse_after sound inverse (fun first name port channels prior => ?_) hosting
    exact new first name port channels (prior.trans early)

/-- A server that asks the same address twice, and then leaves the second link. -/
def redialling : List (Occurrence Loopback) :=
  [.call .start, .call (.createServer "127.0.0.1" 9000 1 4),
    .call (.connect "127.0.0.1" 4000 1), .call (.connect "127.0.0.1" 4000 1),
    .call (.disconnectPeer ⟨2⟩)]

/-- The first link is still there, but its address stands for nothing. -/
theorem not_inverse_of_redialling :
    ¬ ∀ host, (({ process := { network := {} } } : Station Loopback).after
      redialling).endpoint.host = some host → host.Inverse := by
  intro always
  let roster := (({ process := { network := {} } } : Station Loopback).after redialling).roster
  let address : SocketAddress := { ip := .v4 0x7f000001, port := 4000 }
  have linked : roster.link? ⟨1⟩ = some { address, channels := 1, state := .connecting } := by
    decide
  have lost : roster.host.bind (·.peerAt? address) = none := by decide
  cases hosting : roster.host with
  | none => rw [Roster.link?, hosting] at linked; cases linked
  | some host =>
      rw [Roster.link?, hosting] at linked
      rw [hosting] at lost
      have found := (always host hosting address ⟨1⟩).mpr ⟨_, linked, rfl⟩
      exact absurd (lost.symm.trans found) (by simp)

end Station

end Courier.Datagram

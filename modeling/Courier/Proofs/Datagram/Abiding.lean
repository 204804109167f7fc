import Courier.Proofs.Datagram.History

namespace Courier.Datagram

theorem negotiate_le_limit (requested limit : UInt8) : negotiate requested limit ≤ limit := by
  unfold negotiate
  split
  · exact UInt8.le_refl limit
  · change (if requested ≤ limit then requested else limit) ≤ limit
    split
    · assumption
    · exact UInt8.le_refl limit

namespace Host

/-- What is true of a host for good: of a new host, and still when a link is made, established or
forgotten, and when a client takes a new socket. A link is made only where there is room for it, and
with no more channels than the host has. -/
structure Abiding (holds : Host → Prop) : Prop where
  opened : ∀ (role : Role) (socket : SocketAddress) (channels : UInt8) (maxPeers : Nat),
    (role = .client → maxPeers = 1) → holds { role, socket, channels, maxPeers }
  insert : ∀ {host : Host} {link : Link} (peer : PeerHandle), holds host → host.isFull = false →
    link.channels ≤ host.channels → holds (host.insert peer link)
  remove : ∀ {host : Host} (peer : PeerHandle), holds host → holds (host.remove peer)
  establish : ∀ {host : Host} {peer : PeerHandle} {link : Link} (granted : UInt8), holds host →
    host.link? peer = some link → holds (host.establish peer link granted)
  withSocket : ∀ {host : Host} (socket : SocketAddress), holds host → holds { host with socket }

end Host

namespace Roster

def Abides (holds : Host → Prop) (roster : Roster) : Prop :=
  ∀ ⦃host⦄, roster.host = some host → holds host

@[simp] theorem abides_some (holds : Host → Prop) (host : Host) (next : Nat) :
    Abides holds ⟨some host, next⟩ ↔ holds host := by
  simp [Abides]

theorem abides_none (holds : Host → Prop) (next : Nat) : Abides holds ⟨none, next⟩ := by
  intro host hosting
  cases hosting

variable {holds : Host → Prop} {before after : Roster} {events : List RawEvent}

namespace Abides

theorem applied (abiding : Host.Abiding holds) {source : SocketAddress}
    (first : before.Abides holds) (applied : Applied source before events after) :
    after.Abides holds := by
  cases applied with
  | ignored => exact first
  | admitted requested stranger serving room =>
      rw [abides_some] at first ⊢
      exact abiding.insert _ first room (negotiate_le_limit requested _)
  | turnedAway requested stranger serving room =>
      rw [abides_some] at first ⊢
      exact abiding.remove _ (abiding.insert _ first room (negotiate_le_limit requested _))
  | established granted known linked =>
      rw [abides_some] at first ⊢
      exact abiding.establish granted first linked
  | departed =>
      rw [abides_some] at first ⊢
      exact abiding.remove _ first
  | received => exact first

theorem drained (abiding : Host.Abiding holds) (first : before.Abides holds)
    (drained : Drained before events after) : after.Abides holds := by
  induction drained with
  | done => exact first
  | more applied rest ih => exact ih (first.applied abiding applied)

theorem moved (abiding : Host.Abiding holds) (first : before.Abides holds)
    (moved : Moved before after) : after.Abides holds := by
  cases moved with
  | closed => exact abides_none _ _
  | opened role socket channels maxPeers single =>
      rw [abides_some]
      exact abiding.opened role socket channels maxPeers single
  | left peer =>
      intro host hosting
      obtain ⟨old, present, rfl⟩ := Option.map_eq_some_iff.mp hosting
      exact abiding.remove peer (first present)
  | drained drained => exact first.drained abiding drained
  | elsewhere => exact first

theorem moves (abiding : Host.Abiding holds) (first : before.Abides holds)
    (moves : Moves before after) : after.Abides holds := by
  induction moves with
  | refl => exact first
  | tail _ moved ih => exact ih.moved abiding moved

end Abides

end Roster

theorem Station.abides_meet {ν : Type} [Network ν] {holds : Host → Prop}
    (abiding : Host.Abiding holds) {station : Station ν} (first : station.roster.Abides holds)
    (occurrence : Occurrence ν) : (station.meet occurrence).roster.Abides holds := by
  by_cases request : ∃ name port channels, occurrence = .call (.connect name port channels)
  · obtain ⟨name, port, channels, rfl⟩ := request
    change (attempt (connect name port channels) station).roster.Abides holds
    rcases roster_connect_cases name port channels station with same |
      ⟨known, address, socket, link, hosting, -, room, -, -, offered, -, made⟩
    · rwa [same]
    · rw [roster_of_host hosting, Roster.abides_some] at first
      rw [made, Roster.abides_some]
      exact abiding.insert _ (abiding.withSocket socket first) room
        (offered ▸ negotiate_le_limit channels known.channels)
  · exact first.moves abiding (meet_moves (fun name port channels same =>
      request ⟨name, port, channels, same⟩) station)

end Courier.Datagram

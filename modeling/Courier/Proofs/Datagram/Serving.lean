import Courier.Proofs.Datagram.Links

namespace Courier

/-- Whether the peer is there after the event, if it is known whether it was there before. -/
def RawEvent.presence (peer : PeerHandle) (present : Bool) : RawEvent → Bool
  | .connect other => if other = peer then true else present
  | .disconnect other => if other = peer then false else present
  | .receive .. => present

theorem RawEvent.presence_of_ne {event : RawEvent} {peer : PeerHandle}
    (others : event.IsOfLink → event.peer ≠ peer) (present : Bool) :
    event.presence peer present = present := by
  cases event with
  | receive => rfl
  | _ => exact if_neg (others trivial)

/-- A peer that is not there stays away as long as no event brings it. -/
theorem RawEvent.foldl_presence_false {events : List RawEvent} {peer : PeerHandle}
    (absent : .connect peer ∉ events) : events.foldl (presence peer) false = false := by
  induction events with
  | nil => rfl
  | cons event rest ih =>
      rw [List.mem_cons, not_or] at absent
      have same : event.presence peer false = false := by
        cases event with
        | connect other => exact if_neg fun equal => absent.1 (by rw [equal])
        | disconnect other => exact ite_self false
        | receive => rfl
      rw [List.foldl_cons, same, ih absent.2]

namespace Datagram

/-- A server that connects to nobody itself. Its links are connected from the first, it has no more
of them than it may, and its batches tell which of them are there. -/
structure Host.Serving (host : Host) (limit : Nat) : Prop where
  server : host.role = .server
  maxPeers_eq : host.maxPeers = limit
  size_le : host.links.size ≤ limit
  connected : ∀ {peer link}, host.link? peer = some link → link.state = .connected

namespace Host.Serving

theorem empty (socket : SocketAddress) (channels : UInt8) (maxPeers : Nat) :
    Serving { role := .server, socket, channels, maxPeers } maxPeers where
  server := rfl
  maxPeers_eq := rfl
  size_le := Nat.zero_le maxPeers
  connected linked := by simp [link?] at linked

variable {host : Host} {limit : Nat}

theorem insert (serving : host.Serving limit) (room : host.isFull = false) (peer : PeerHandle)
    {link : Link} (connected : link.state = .connected) :
    (host.insert peer link).Serving limit where
  server := serving.server
  maxPeers_eq := serving.maxPeers_eq
  size_le := by
    have below : host.links.size < limit := by
      rw [← serving.maxPeers_eq]
      simpa [isFull] using room
    have grown : (host.links.insert peer link).size ≤ host.links.size + 1 :=
      Std.TreeMap.size_insert_le
    exact Nat.le_trans grown below
  connected {other found} linked := by
    rw [link?_insert] at linked
    split at linked
    · cases linked
      exact connected
    · exact serving.connected linked

theorem remove (serving : host.Serving limit) (peer : PeerHandle) :
    (host.remove peer).Serving limit := by
  have connected : ∀ {other link}, (host.remove peer).link? other = some link →
      link.state = .connected := by
    intro other link linked
    rw [link?_remove] at linked
    split at linked
    · cases linked
    · exact serving.connected linked
  cases known : host.link? peer with
  | none => rwa [remove_of_link?_eq_none known]
  | some link =>
      refine ⟨?_, ?_, ?_, connected⟩
      · simpa [Host.remove, known] using serving.server
      · simpa [Host.remove, known] using serving.maxPeers_eq
      · have shrunk : (host.links.erase peer).size ≤ host.links.size :=
          Std.TreeMap.size_erase_le
        simpa [Host.remove, known] using Nat.le_trans shrunk serving.size_le

end Host.Serving

namespace Roster

def Serving (roster : Roster) (limit : Nat) : Prop :=
  ∀ ⦃host⦄, roster.host = some host → host.Serving limit

@[simp] theorem serving_some (host : Host) (next limit : Nat) :
    Serving ⟨some host, next⟩ limit ↔ host.Serving limit := by
  simp [Serving]

variable {before after : Roster} {limit : Nat} {events : List RawEvent}

namespace Serving

theorem remove (serving : before.Serving limit) (peer : PeerHandle) :
    (before.remove peer).Serving limit := by
  intro host hosting
  obtain ⟨old, present, rfl⟩ := Option.map_eq_some_iff.mp hosting
  exact (serving present).remove peer

theorem connected (serving : before.Serving limit) {peer : PeerHandle} {link : Link}
    (linked : before.link? peer = some link) : link.state = .connected := by
  obtain ⟨host, hosting, found⟩ := Option.bind_eq_some_iff.mp linked
  exact (serving hosting).connected found

theorem applied {source : SocketAddress} (serving : before.Serving limit)
    (applied : Applied source before events after) : after.Serving limit := by
  cases applied with
  | ignored => exact serving
  | admitted requested stranger server room =>
      rw [serving_some] at serving ⊢
      exact serving.insert room _ rfl
  | turnedAway requested stranger server room =>
      rw [serving_some] at serving ⊢
      exact (serving.insert room _ rfl).remove _
  | established granted known linked waiting =>
      rw [serving_some] at serving
      rw [serving.connected linked] at waiting
      cases waiting
  | departed =>
      rw [serving_some] at serving ⊢
      exact serving.remove _
  | received => exact serving

theorem drained (serving : before.Serving limit) (drained : Drained before events after) :
    after.Serving limit := by
  induction drained with
  | done => exact serving
  | more applied rest ih => exact ih (serving.applied applied)

end Serving

end Roster

theorem Applied.isSome_link? {source : SocketAddress} {before after : Roster}
    {events : List RawEvent} (sound : before.Sound)
    (applied : Applied source before events after) (peer : PeerHandle) :
    (after.link? peer).isSome =
      events.foldl (RawEvent.presence peer) (before.link? peer).isSome := by
  have single := applied.length_events_le
  rcases applied.link?_cases sound peer with
    ⟨same, others⟩ | ⟨link, told, linked, -⟩ | ⟨old, told, linked, unlinked⟩
  · rw [same]
    match events, single with
    | [], _ => rfl
    | [event], _ => exact (event.presence_of_ne (others event (by simp)) _).symm
  · simp [told, linked, RawEvent.presence]
  · simp [told, unlinked, RawEvent.presence]

theorem Drained.isSome_link? {before after : Roster} {events : List RawEvent}
    (sound : before.Sound) (drained : Drained before events after) (peer : PeerHandle) :
    (after.link? peer).isSome =
      events.foldl (RawEvent.presence peer) (before.link? peer).isSome := by
  induction drained with
  | done => rfl
  | more applied rest ih =>
      rw [List.foldl_append, ih (sound.applied applied), applied.isSome_link? sound]

theorem Drained.connects_once {before after : Roster} {events : List RawEvent}
    (sound : before.Sound) (drained : Drained before events after) :
    events.Pairwise fun first later => first.IsOfLink → first ≠ later := by
  induction drained with
  | done => exact .nil
  | @more source before middle after events later applied rest ih =>
      have single := applied.length_events_le
      refine List.pairwise_append.mpr ⟨?_, ih (sound.applied applied), ?_⟩
      · match events, single with
        | [], _ => exact .nil
        | [event], _ => exact List.pairwise_singleton _ _
      · rintro event mem other afterwards ofLink rfl
        have spent := Roster.spent_of_mem_applied sound applied mem ofLink
        exact spent.not_mem_of_drained (sound.applied applied) rest afterwards

end Datagram

end Courier

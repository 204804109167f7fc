import Courier.Proofs.Datagram.Abiding
import Courier.Proofs.Datagram.Links

namespace Courier.Datagram

/-! Channels. No link has more of them than its host, and a message is reported only on a channel
that its link has at that moment. -/

namespace Host

def Limited (host : Host) : Prop :=
  ∀ ⦃peer link⦄, host.link? peer = some link → link.channels ≤ host.channels

namespace Limited

variable {host : Host}

theorem empty (role : Role) (socket : SocketAddress) (channels : UInt8) (maxPeers : Nat) :
    Limited { role, socket, channels, maxPeers } := by
  intro peer link linked
  simp [link?] at linked

theorem insert (limited : host.Limited) (peer : PeerHandle) {link : Link}
    (below : link.channels ≤ host.channels) : (host.insert peer link).Limited := by
  intro other found linked
  rw [link?_insert] at linked
  split at linked
  · cases linked
    exact below
  · exact limited linked

theorem remove (limited : host.Limited) (peer : PeerHandle) : (host.remove peer).Limited := by
  have same : (host.remove peer).channels = host.channels := by
    unfold Host.remove
    split <;> rfl
  intro other found linked
  rw [link?_remove] at linked
  rw [same]
  split at linked
  · cases linked
  · exact limited linked

theorem establish (limited : host.Limited) {peer : PeerHandle} {link : Link}
    (linked : host.link? peer = some link) (granted : UInt8) :
    (host.establish peer link granted).Limited := by
  intro other found linked'
  rw [link?_establish] at linked'
  split at linked'
  · cases linked'
    exact UInt8.le_trans (negotiate_le_limit granted link.channels) (limited linked)
  · exact limited linked'

end Limited

theorem abiding_limited : Abiding Limited where
  opened role socket channels maxPeers _ := .empty role socket channels maxPeers
  insert peer limited _ below := limited.insert peer below
  remove peer limited := limited.remove peer
  establish granted limited linked := limited.establish linked granted
  withSocket _ limited := limited

end Host

namespace Roster

def Limited (roster : Roster) : Prop :=
  ∀ ⦃host⦄, roster.host = some host → host.Limited

@[simp] theorem limited_some (host : Host) (next : Nat) :
    Limited ⟨some host, next⟩ ↔ host.Limited := by
  simp [Limited]

theorem Limited.drained {before after : Roster} {events : List RawEvent}
    (limited : before.Limited) (drained : Drained before events after) : after.Limited :=
  Abides.drained Host.abiding_limited limited drained

end Roster

namespace Station

variable {ν : Type} [Network ν]

theorem limited_meet {station : Station ν} (limited : station.roster.Limited)
    (occurrence : Occurrence ν) : (station.meet occurrence).roster.Limited :=
  abides_meet Host.abiding_limited limited occurrence

/-- A message is taken from a connected link that has its channel. -/
theorem connectedLink?_of_heard {source : SocketAddress} {bytes : Bytes} {station : Station ν}
    {peer : PeerHandle} {channel : UInt8} {flags : SendFlags} {data : Bytes}
    (heard : (handleDatagram source bytes station).1 = [.receive peer channel flags data]) :
    ∃ host link, station.endpoint.host = some host ∧ host.connectedLink? peer = some link ∧
      channel < link.channels := by
  have applied := handleDatagram_applied source bytes station
  rw [heard] at applied
  generalize (handleDatagram source bytes station).2.roster = final at applied
  cases hosting : station.endpoint.host with
  | none =>
      rw [roster_of_host hosting] at applied
      cases applied
  | some host =>
      rw [roster_of_host hosting] at applied
      cases applied with
      | received flags payload known linked offered => exact ⟨host, _, rfl, linked, offered⟩

theorem length_handleDatagram_le (source : SocketAddress) (bytes : Bytes) (station : Station ν) :
    (handleDatagram source bytes station).1.length ≤ 1 :=
  (handleDatagram_applied source bytes station).length_events_le

/-- Of what a datagram has generated, which is one event at most, and what follows, an event is
the one that the datagram has generated or one that follows. -/
theorem split_of_handled {handled rest earlier later : List RawEvent} {event : RawEvent}
    (single : handled.length ≤ 1) (told : handled ++ rest = earlier ++ event :: later) :
    (earlier = [] ∧ handled = [event]) ∨
      ∃ between, earlier = handled ++ between ∧ rest = between ++ event :: later := by
  rcases handled with _ | ⟨first, _ | ⟨second, more⟩⟩
  · exact .inr ⟨earlier, rfl, told⟩
  · rcases earlier with _ | ⟨same, between⟩
    · cases told
      exact .inl ⟨rfl, rfl⟩
    · cases told
      exact .inr ⟨between, rfl, rfl⟩
  · simp at single

/-- Before the datagram of an event is taken, the batch holds the events before it. -/
theorem Gathers.told {socket : SocketAddress} {limit wait : Nat} {station after : Station ν}
    {batch : Batch} (gathers : Gathers socket limit wait station batch after)
    {earlier later : List RawEvent} {event : RawEvent}
    (told : batch.events = earlier ++ event :: later) :
    ∃ taken moment next source bytes arrived, taken < limit ∧
      Gathers socket taken wait station { events := earlier } moment ∧
      receive socket next moment = (.datagram source bytes, arrived) ∧
      (handleDatagram source bytes arrived).1 = [event] := by
  induction gathers generalizing earlier with
  | enough | nothing | failed => simp at told
  | reset received rest ih =>
      obtain ⟨taken, moment, next, source, bytes, arrived, fewer, stopped, facts⟩ := ih told
      exact ⟨taken + 1, moment, next, source, bytes, arrived, Nat.succ_lt_succ fewer,
        .reset received stopped, facts⟩
  | @datagram limit wait source bytes station arrived after batch received rest ih =>
      rcases split_of_handled (length_handleDatagram_le source bytes arrived) told with
        ⟨rfl, handled⟩ | ⟨between, rfl, follow⟩
      · exact ⟨0, station, wait, source, bytes, arrived, Nat.succ_pos limit, .enough, received,
          handled⟩
      · obtain ⟨taken, moment, next, source, bytes, arrived, fewer, stopped, facts⟩ := ih follow
        exact ⟨taken + 1, moment, next, source, bytes, arrived, Nat.succ_lt_succ fewer,
          .datagram received stopped, facts⟩

/-- At the moment at which a message is taken, its link is connected and has its channel. -/
theorem heard_of_drain {socket : SocketAddress} {limit wait : Nat} {station after : Station ν}
    {earlier later : List RawEvent} {peer : PeerHandle} {channel : UInt8} {flags : SendFlags}
    {data : Bytes}
    (drained : drain socket limit wait station =
      .ok (earlier ++ .receive peer channel flags data :: later) after) :
    ∃ taken moment host link, taken < limit ∧
      drain socket taken wait station = .ok earlier moment ∧
      moment.endpoint.host = some host ∧ host.connectedLink? peer = some link ∧
      channel < link.channels := by
  rw [drain_eq_answer, Batch.answer] at drained
  split at drained
  · injection drained with told
    obtain ⟨taken, moment, next, source, bytes, arrived, fewer, stopped, received, heard⟩ :=
      (gathers_gather socket limit wait station).told told
    obtain ⟨host, link, hosting, linked, offered⟩ := connectedLink?_of_heard heard
    -- The message is taken from the links as they were before it was received.
    have kept : arrived.endpoint = moment.endpoint :=
      (congrArg (·.2.endpoint) received).symm
    exact ⟨taken, moment, host, link, fewer, stopped.drain_eq_answer, kept ▸ hosting, linked,
      offered⟩
  · cases drained

end Station

end Courier.Datagram

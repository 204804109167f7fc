import Courier.Proofs.Datagram.Serving
import Courier.Proofs.Users.Consistent

namespace Courier.Server

open Datagram

/-! A batch changes the links before the server is told of any of its events. In between, the users
are behind the links by the events that are pending. -/

/-- What one event does to the tables of a server. -/
inductive Told : UserTable × Roster → RawEvent → UserTable × Roster → Prop
  | seated {users : UserTable} {roster : Roster} {peer : PeerHandle} {user : UserId}
      (new : users.user? peer = none) (least : users.free.min? = some user) :
      Told (users, roster) (.connect peer) (users.seat user peer, roster)
  | known {users : UserTable} {roster : Roster} {peer : PeerHandle} {user : UserId}
      (held : users.user? peer = some user) :
      Told (users, roster) (.connect peer) (users, roster)
  | refused {users : UserTable} {roster : Roster} {peer : PeerHandle}
      (new : users.user? peer = none) :
      Told (users, roster) (.connect peer) (users, roster.remove peer)
  | left {users : UserTable} {roster : Roster} {peer : PeerHandle} :
      Told (users, roster) (.disconnect peer) ((users.releasePeer peer).2, roster)
  | heard {users : UserTable} {roster : Roster} {peer : PeerHandle} {channel : UInt8}
      {flags : SendFlags} {data : Bytes} :
      Told (users, roster) (.receive peer channel flags data) (users, roster)

structure InStep (limit capacity : Nat) (pending : List RawEvent)
    (tables : UserTable × Roster) : Prop where
  consistent : tables.1.Consistent
  capacity_eq : tables.1.capacity = capacity
  sound : tables.2.Sound
  serving : tables.2.Serving limit
  once : pending.Pairwise fun first later => first.IsOfLink → first ≠ later
  present : ∀ peer, (tables.2.link? peer).isSome =
    pending.foldl (RawEvent.presence peer) (tables.1.user? peer).isSome

namespace InStep

variable {limit capacity : Nat} {users : UserTable} {roster after : Roster}
  {events pending : List RawEvent}

theorem started (socket : SocketAddress) (channels : UInt8) (maxPeers requested next : Nat) :
    InStep maxPeers (min requested UserTable.maxCapacity) []
      (.ofSize requested, ⟨some { role := .server, socket, channels, maxPeers }, next⟩) where
  consistent := .ofSize requested
  capacity_eq := UserTable.capacity_ofSize requested
  sound := by
    rw [Roster.sound_some]
    exact .empty .server socket channels maxPeers next (by simp)
  serving := by
    rw [Roster.serving_some]
    exact .empty socket channels maxPeers
  once := .nil
  present peer := by simp [Host.link?]

theorem drained (inStep : InStep limit capacity [] (users, roster))
    (drained : Drained roster events after) : InStep limit capacity events (users, after) where
  consistent := inStep.consistent
  capacity_eq := inStep.capacity_eq
  sound := inStep.sound.drained drained
  serving := inStep.serving.drained drained
  once := drained.connects_once inStep.sound
  present peer := by
    rw [drained.isSome_link? inStep.sound, inStep.present peer]
    rfl

theorem told {event : RawEvent} {before after : UserTable × Roster}
    (inStep : InStep limit capacity (event :: pending) before)
    (told : Told before event after) : InStep limit capacity pending after := by
  have once := (List.pairwise_cons.mp inStep.once).2
  cases told with
  | @seated users roster peer user new least =>
      have vacant := (inStep.consistent.min?_free_eq_some_iff.mp least).1
      refine ⟨inStep.consistent.seat vacant new, ?_, inStep.sound, inStep.serving, once, ?_⟩
      · rw [UserTable.capacity_seat]
        exact inStep.capacity_eq
      · intro other
        rw [inStep.present other, List.foldl_cons, RawEvent.presence, UserTable.user?_seat]
        by_cases same : peer = other <;> simp [same]
  | @known users roster peer user held =>
      refine ⟨inStep.consistent, inStep.capacity_eq, inStep.sound, inStep.serving, once, ?_⟩
      intro other
      rw [inStep.present other, List.foldl_cons, RawEvent.presence]
      by_cases same : peer = other
      · simp [← same, held]
      · simp [same]
  | @refused users roster peer new =>
      refine ⟨inStep.consistent, inStep.capacity_eq, inStep.sound.remove peer,
        inStep.serving.remove peer, once, ?_⟩
      intro other
      rw [Roster.link?_removed]
      by_cases same : peer = other
      · subst same
        -- A refused peer is not brought back by an event that is still pending.
        have absent : .connect peer ∉ pending := fun mem =>
          (List.pairwise_cons.mp inStep.once).1 _ mem trivial rfl
        rw [if_pos rfl, new]
        exact (RawEvent.foldl_presence_false absent).symm
      · rw [if_neg same, inStep.present other, List.foldl_cons, RawEvent.presence, if_neg same]
  | @left users roster peer =>
      refine ⟨inStep.consistent.releasePeer peer, ?_, inStep.sound, inStep.serving, once, ?_⟩
      · rw [UserTable.capacity_releasePeer]
        exact inStep.capacity_eq
      · intro other
        rw [inStep.present other, List.foldl_cons, RawEvent.presence,
          inStep.consistent.user?_releasePeer]
        by_cases same : peer = other <;> simp [same]
  | heard =>
      refine ⟨inStep.consistent, inStep.capacity_eq, inStep.sound, inStep.serving, once, ?_⟩
      exact inStep.present

theorem kicked {user : UserId} {peer : PeerHandle}
    (inStep : InStep limit capacity [] (users, roster)) (held : users.peer user = .ok peer) :
    InStep limit capacity [] ((users.release user).2, roster.remove peer) := by
  have own := inStep.consistent.peer_eq_ok_iff.mp held
  refine ⟨inStep.consistent.release user, ?_, inStep.sound.remove peer,
    inStep.serving.remove peer, .nil, ?_⟩
  · rw [UserTable.capacity_release]
    exact inStep.capacity_eq
  · intro other
    have present := inStep.present other
    rw [inStep.consistent.release_of_user? own, UserTable.user?_vacate, Roster.link?_removed]
    by_cases same : peer = other
    · simp [same]
    · simpa [same] using present

theorem closed (inStep : InStep limit capacity [] (users, roster)) (next : Nat) :
    InStep limit capacity [] (users.clear, ⟨none, next⟩) where
  consistent := inStep.consistent.clear
  capacity_eq := (UserTable.capacity_clear users).trans inStep.capacity_eq
  sound := Roster.sound_none next
  serving := by
    intro host hosting
    cases hosting
  once := .nil
  present peer := by simp

theorem elsewhere (inStep : InStep limit capacity [] (users, roster)) (handles : Nat) :
    InStep limit capacity [] (users, ⟨roster.host, roster.nextPeer + handles⟩) where
  consistent := inStep.consistent
  capacity_eq := inStep.capacity_eq
  sound := inStep.sound.moved (.elsewhere handles)
  serving := inStep.serving
  once := .nil
  present := inStep.present

theorem user?_isSome_iff {tables : UserTable × Roster}
    (inStep : InStep limit capacity [] tables) (peer : PeerHandle) :
    (∃ user, tables.1.user? peer = some user) ↔ ∃ link, tables.2.link? peer = some link := by
  rw [← Option.isSome_iff_exists, ← Option.isSome_iff_exists, inStep.present peer]
  rfl

/-- Every link has a user id of its own. -/
theorem size_links_le {tables : UserTable × Roster} (inStep : InStep limit capacity [] tables)
    {host : Host} (hosting : tables.2.host = some host) :
    host.links.size ≤ min limit capacity := by
  refine Nat.le_min.mpr ⟨(inStep.serving hosting).size_le, ?_⟩
  rw [← Std.TreeMap.length_keys, ← inStep.capacity_eq]
  apply inStep.consistent.length_le_capacity Std.TreeMap.nodup_keys
  intro peer mem
  rw [Std.TreeMap.mem_keys, Std.TreeMap.mem_iff_isSome_getElem?, Option.isSome_iff_exists] at mem
  rw [inStep.user?_isSome_iff, Roster.link?, hosting]
  exact mem

end InStep

end Courier.Server

import Courier.Catalog
import Courier.Loopback
import Courier.Proofs.Client.History
import Courier.Proofs.Datagram.Fleet
import Courier.Proofs.Datagram.Room

namespace Courier

open Datagram

/-! Leaving. A client that has left, or was sent away, has no link any more, and leaving again
changes nothing. Its host is closed by the first time it leaves, if it was not sent away before and
if the server could be told. -/

namespace Datagram.Roster

/-- If there is a host it is a client's, and has no link but under the handle. -/
def Alone (roster : Roster) (peer : PeerHandle) : Prop :=
  ∀ ⦃host⦄, roster.host = some host →
    host.role = .client ∧ ∀ other link, host.link? other = some link → other = peer

namespace Alone

variable {before after : Roster} {peer : PeerHandle} {events : List RawEvent}

theorem none (next : Nat) (peer : PeerHandle) : Alone ⟨none, next⟩ peer := by
  intro host hosting
  cases hosting

theorem unlinked (alone : before.Alone peer) (gone : before.link? peer = Option.none)
    (other : PeerHandle) : before.link? other = Option.none := by
  cases linked : before.link? other with
  | none => rfl
  | some link =>
      obtain ⟨host, hosting, found⟩ := Option.bind_eq_some_iff.mp linked
      obtain rfl : other = peer := (alone hosting).2 other link found
      exact absurd (linked.symm.trans gone) (by simp)

theorem remove (alone : before.Alone peer) (other : PeerHandle) :
    (before.remove other).Alone peer := by
  intro host hosting
  obtain ⟨old, present, rfl⟩ := Option.map_eq_some_iff.mp hosting
  obtain ⟨client, only⟩ := alone present
  refine ⟨?_, fun another link linked => ?_⟩
  · unfold Host.remove
    split <;> exact client
  · rw [Host.link?_remove] at linked
    split at linked
    · cases linked
    · exact only another link linked

theorem foldl_remove (alone : before.Alone peer) (peers : List PeerHandle) :
    (peers.foldl Roster.remove before).Alone peer := by
  induction peers generalizing before with
  | nil => exact alone
  | cons other rest ih => exact ih (alone.remove other)

/-- A client lets nobody in. -/
theorem applied {source : SocketAddress} (alone : before.Alone peer)
    (applied : Applied source before events after) : after.Alone peer := by
  cases applied with
  | ignored => exact alone
  | admitted requested stranger serving =>
      exact absurd ((alone rfl).1.symm.trans serving) (by simp)
  | turnedAway requested stranger serving =>
      exact absurd ((alone rfl).1.symm.trans serving) (by simp)
  | established granted known linked =>
      rintro _ ⟨⟩
      obtain ⟨client, only⟩ := alone rfl
      refine ⟨client, fun other link found => ?_⟩
      rw [Host.link?_establish] at found
      split at found
      · next same => exact same ▸ only _ _ linked
      · exact only other link found
  | departed => exact alone.remove _
  | received => exact alone

theorem drained (alone : before.Alone peer) (drained : Drained before events after) :
    after.Alone peer := by
  induction drained with
  | done => exact alone
  | more applied rest ih => exact ih (alone.applied applied)

end Alone

end Datagram.Roster

/-- Whoever is disconnected now has been so before, or has been told. -/
theorem ClientState.eq_or_mem_of_told {events : List RawEvent} {state : ClientState}
    (gone : events.foldl ClientState.told state = .disconnected) :
    state = .disconnected ∨ ∃ peer, .disconnect peer ∈ events := by
  induction events generalizing state with
  | nil => exact .inl gone
  | cons event rest ih =>
      rcases ih gone with before | ⟨peer, later⟩
      · cases event with
        | connect peer => cases before
        | disconnect peer => exact .inr ⟨peer, List.mem_cons_self⟩
        | receive peer channel flags data => exact .inl before
      · exact .inr ⟨peer, List.mem_cons_of_mem _ later⟩

namespace Client

/-- The only link is that of the server, and a client that is disconnected has none. -/
structure Solitary (server : PeerHandle) (standing : ClientState × Roster) : Prop where
  sound : standing.2.Sound
  taken : server.number < standing.2.nextPeer
  alone : standing.2.Alone server
  parted : standing.1 = .disconnected → standing.2.link? server = none

namespace Solitary

section

variable {server : PeerHandle} {before after : ClientState × Roster} {told : List RawEvent}

theorem unlinked (solitary : Solitary server before) (gone : before.1 = .disconnected)
    (peer : PeerHandle) : before.2.link? peer = none :=
  solitary.alone.unlinked (solitary.parted gone) peer

/-- Whatever a poll takes, of what is told at most the farewell of the server is needed. -/
theorem drained (solitary : Solitary server before) {state : ClientState} {roster : Roster}
    {events : List RawEvent} (drained : Drained before.2 events roster)
    (learned : state = .disconnected →
      before.1 = .disconnected ∨ .disconnect server ∈ events) :
    Solitary server (state, roster) where
  sound := solitary.sound.drained drained
  taken := Nat.lt_of_lt_of_le solitary.taken drained.nextPeer_le
  alone := solitary.alone.drained drained
  parted gone := by
    rcases learned gone with early | farewell
    · have gone : before.2.Gone server := ⟨solitary.taken, solitary.parted early⟩
      exact ((gone.settled.drained solitary.sound drained).gone gone).unlinked
    · have spent := Roster.spent_of_mem_drained solitary.sound drained farewell trivial
      exact spent.unlinked

theorem turn (solitary : Solitary server before) (turn : Turn server before told after) :
    Solitary server after := by
  cases turn with
  | told drained =>
      refine solitary.drained drained fun gone => ?_
      rcases ClientState.eq_or_mem_of_told gone with before | ⟨peer, mem⟩
      · exact .inl before
      · obtain ⟨taken, same⟩ := List.mem_filter.mp mem
        obtain rfl : peer = server := of_decide_eq_true same
        exact .inr taken
  | parted peers nobody =>
      obtain ⟨sound, taken, alone, -⟩ := solitary
      exact {
        sound := sound.moves (.foldl_remove _ peers)
        taken := by rwa [Roster.nextPeer_foldl_remove]
        alone := alone.foldl_remove peers
        parted := fun _ => nobody server }
  | closed =>
      exact {
        sound := Roster.sound_none _
        taken := solitary.taken
        alone := .none _ server
        parted := fun _ => rfl }
  | still handles =>
      obtain ⟨sound, taken, alone, parted⟩ := solitary
      exact {
        sound := sound.moved (.elsewhere handles)
        taken := Nat.lt_add_right handles taken
        alone := alone
        parted := parted }

end

variable {π ν κ : Type} [Network ν] [PacketType π]

theorem meet {client : Client π (Station ν) κ}
    (solitary : Solitary client.server client.standing) (input : ClientInput π ν) :
    Solitary (client.meet input).server (client.meet input).standing := by
  rw [server_meet]
  rcases client.turn_or_lost input with turn | ⟨-, state, lost, drained⟩
  · exact solitary.turn turn
  · exact solitary.drained drained fun gone => .inl (state.symm.trans gone)

theorem after {client : Client π (Station ν) κ}
    (solitary : Solitary client.server client.standing) (history : List (ClientInput π ν)) :
    Solitary (client.after history).server (client.after history).standing := by
  induction history generalizing client with
  | nil => exact solitary
  | cons input rest ih => exact ih (solitary.meet input)

omit [PacketType π] in
theorem of_connect {node fresh : Node π (Station ν) κ} {client : Client π (Station ν) κ}
    (connected : Client.connect node = .ok client fresh) :
    Solitary client.server client.standing := by
  obtain ⟨socket, channels, next, link, server, waiting, standing⟩ :=
    standing_of_connect connected
  rw [server, standing]
  refine ⟨?_, Nat.lt_succ_self next, ?_, fun gone => (nomatch gone)⟩
  · rw [Roster.sound_some]
    exact (Host.Sound.empty .client socket channels 1 next fun _ => rfl).insert link
  · rintro _ ⟨⟩
    refine ⟨rfl, fun other found linked => ?_⟩
    rw [Host.link?_insert] at linked
    split at linked
    · next same => exact same.symm
    · simp [Host.link?] at linked

end Solitary

variable {π ν κ : Type} [Network ν]

theorem vacant_disconnect_iff (client : Client π (Station ν) κ) :
    (attempt disconnect client).transport.endpoint.host = none ↔
      client.transport.endpoint.host = none ∨
        client.state ≠ .disconnected ∧
          ∃ after, Station.disconnect client.transport = .ok () after := by
  by_cases gone : client.state = .disconnected
  · rw [attempt, disconnect_of_disconnected gone]
    simp [gone]
  · cases ran : Station.disconnect client.transport with
    | ok value left =>
        rw [attempt, disconnect_of_ok gone ran]
        exact iff_of_true (congrArg Roster.host (Station.roster_stop left))
          (.inr ⟨gone, left, rfl⟩)
    | error error left =>
        obtain ⟨peers, removed⟩ := client.transport.roster_disconnect
        rw [attempt, ran] at removed
        have kept : left.endpoint.host.isSome = client.transport.endpoint.host.isSome :=
          (congrArg (fun roster => roster.host.isSome) removed).trans
            (Roster.isSome_host_foldl_remove _ peers)
        rw [attempt, disconnect_of_error gone ran]
        have vacant : left.endpoint.host = none ↔ client.transport.endpoint.host = none := by
          rw [← Option.not_isSome_iff_eq_none, kept, Option.not_isSome_iff_eq_none]
        exact vacant.trans (by simp)

variable [PacketType π]

/-- Whatever has happened to a client, and whatever comes of it when it leaves: it is disconnected
then, has no link, and leaving again changes nothing. There is no host any more exactly if there was
none before, or if the client had not left nor been sent away and nothing kept its farewell from
being sent. -/
theorem left_of_history {node fresh : Node π (Station ν) κ} {start : Client π (Station ν) κ}
    (connected : Client.connect node = .ok start fresh) (history : List (ClientInput π ν)) :
    let client := start.after history
    let left := attempt disconnect client
    left.state = .disconnected ∧ (∀ peer, left.toNode.roster.link? peer = none) ∧
      disconnect left = .ok () left ∧
      (left.transport.endpoint.host = none ↔
        client.transport.endpoint.host = none ∨
          client.state ≠ .disconnected ∧
            ∃ after, Station.disconnect client.transport = .ok () after) := by
  intro client left
  have solitary : Solitary left.server left.standing :=
    ((Solitary.of_connect connected).after history).meet .disconnect
  obtain ⟨-, gone, -⟩ := disconnect_cases client
  refine ⟨gone, solitary.unlinked gone, disconnect_of_disconnected gone,
    vacant_disconnect_iff client⟩

/-- A client on its own network. -/
def lonely : Node ChatPacket (Station Loopback) Unit where
  transport := { process := { network := {} } }
  config := { port := 9000 }

/-- The server refuses the client before it leaves. -/
def refused : List (ClientInput ChatPacket Loopback) :=
  let server : SocketAddress := { ip := .v4 0x7f000001, port := 9000 }
  let socket : SocketAddress := { SocketAddress.wildcard .v4 with port := 49152 }
  let farewell : Receipt := .datagram server Frame.disconnect.encode
  [.elsewhere { queues := .ofList [(socket, [farewell])] } 0, .poll]

/-- The server cannot be reached any more. -/
def muted : List (ClientInput ChatPacket Loopback) :=
  [.elsewhere { unreachable := [{ ip := .v4 0x7f000001, port := 9000 }] } 0]

/-- The client closes its host if it leaves at once, and keeps it if it is refused before. -/
theorem left_of_history_lonely :
    ∃ start fresh, Client.connect lonely = .ok start fresh ∧
      (attempt disconnect (start.after [])).transport.endpoint.host = none ∧
      (start.after refused).state = .disconnected ∧
      (attempt disconnect (start.after refused)).transport.endpoint.host ≠ none := by
  have ran : (match Client.connect lonely with
      | .ok start _ => decide (start.state = .connecting ∧
          (match Station.disconnect start.transport with
            | .ok _ _ => true
            | .error _ _ => false) = true ∧
          (start.after refused).state = .disconnected ∧
          (start.after refused).transport.endpoint.host.isSome)
      | .error _ _ => false) = true := by
    decide +kernel
  split at ran
  · next start fresh connected =>
    obtain ⟨waiting, told, sentAway, hosted⟩ := of_decide_eq_true ran
    obtain ⟨-, -, -, atOnce⟩ := left_of_history connected []
    obtain ⟨-, -, -, later⟩ := left_of_history connected refused
    refine ⟨start, fresh, connected, atOnce.mpr (.inr ⟨?_, ?_⟩), sentAway, fun closed => ?_⟩
    · change start.state ≠ .disconnected
      rw [waiting]
      decide
    · change ∃ after, Station.disconnect start.transport = .ok () after
      split at told
      · next value after left => exact ⟨after, left⟩
      · cases told
    · rcases later.mp closed with vacant | ⟨here, -⟩
      · rw [vacant] at hosted
        cases hosted
      · exact here sentAway
  · cases ran

/-- Either way the client keeps its host when it leaves, and leaving again does not close it. -/
theorem host_kept_of_refused_or_muted :
    ∃ start fresh, Client.connect lonely = .ok start fresh ∧
      ∀ history ∈ [refused, muted],
        let left := attempt disconnect (start.after history)
        left.state = .disconnected ∧ left.transport.endpoint.host.isSome ∧
          (attempt disconnect left).transport.endpoint.host.isSome := by
  have ran : (match Client.connect lonely with
      | .ok start _ => decide (∀ history ∈ [refused, muted],
        let left := attempt disconnect (start.after history)
        left.state = .disconnected ∧ left.transport.endpoint.host.isSome ∧
          (attempt disconnect left).transport.endpoint.host.isSome)
      | .error _ _ => false) = true := by
    decide +kernel
  split at ran
  · next start fresh connected => exact ⟨start, fresh, connected, of_decide_eq_true ran⟩
  · cases ran

end Client

end Courier

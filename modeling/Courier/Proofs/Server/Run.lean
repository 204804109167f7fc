import Courier.Catalog
import Courier.Loopback
import Courier.Proofs.Server.Calls
import Courier.Proofs.Server.InStep
import Courier.Proofs.Server.Tables

namespace Courier.Server

open Datagram

variable {π ν κ : Type} [Network ν]

theorem tables_kick {server : Server π (Station ν) κ} {user : UserId} {peer : PeerHandle}
    (held : server.users.peer user = .ok peer) :
    (attempt (kick user) server).tables =
      ((server.users.release user).2, server.toNode.roster.remove peer) := by
  rw [attempt_kick_of_peer_eq_ok held]
  exact tables_refuse { server with users := (server.users.release user).2 } peer

theorem kick_tables (user : UserId) (server : Server π (Station ν) κ) :
    (attempt (kick user) server).tables = server.tables ∨
      ∃ peer, server.users.peer user = .ok peer ∧
        (attempt (kick user) server).tables =
          ((server.users.release user).2, server.toNode.roster.remove peer) := by
  cases held : server.users.peer user with
  | error error => exact .inl (congrArg tables (attempt_kick_of_peer_eq_error held))
  | ok peer => exact .inr ⟨peer, rfl, tables_kick held⟩

theorem shutdown_tables (server : Server π (Station ν) κ) :
    server.shutdown.tables = server.tables ∨
      ∃ next, server.shutdown.tables = (server.users.clear, ⟨none, next⟩) := by
  unfold shutdown
  split
  · refine .inr ⟨(attempt (Node.call .disconnect) server.toNode).transport.process.nextPeer, ?_⟩
    exact congrArg (Prod.mk server.users.clear)
      ((Node.roster_call .stop _).trans (Station.roster_stop _))
  · exact .inl rfl

theorem inStep_of_build {node fresh : Node π (Station ν) κ} {built : Server π (Station ν) κ}
    (started : build node = .ok built fresh) :
    InStep node.config.maxPeers.toNat (min node.config.maxUsers.toNat UserTable.maxCapacity) []
      built.tables := by
  obtain ⟨rfl, -, ready, begun, created⟩ := of_build_eq_ok started
  obtain ⟨-, readyConfig, -⟩ := Node.of_call_eq_ok begun
  obtain ⟨-, freshConfig, -⟩ := Node.of_call_eq_ok created
  obtain ⟨socket, next, hosted⟩ := Node.roster_of_createServer created
  change InStep _ _ [] (fresh.config.userTable, fresh.roster)
  rw [hosted, freshConfig, readyConfig]
  exact .started socket _ _ _ next

variable [PacketType π]

theorem handle_told (server : Server π (Station ν) κ) (event : RawEvent) :
    Told server.tables event (server.handle event).tables := by
  cases event with
  | connect peer =>
      change Told _ _ (server.join peer).tables
      cases held : server.users.user? peer with
      | some user =>
          rw [join_of_known (UserTable.acquire_of_held held)]
          exact .known held
      | none =>
          cases least : server.users.free.min? with
          | some user =>
              rw [join_of_seated (UserTable.acquire_of_least held least)]
              exact .seated held least
          | none =>
              rw [join_of_exhausted (UserTable.acquire_of_full held least), tables_refuse]
              exact .refused held
  | disconnect peer => exact .left
  | receive peer channel flags data =>
      change Told _ _ (server.message peer data).tables
      rw [tables_message]
      exact .heard

theorem inStep_handleAll {limit capacity : Nat} {events : List RawEvent}
    {server : Server π (Station ν) κ} (inStep : InStep limit capacity events server.tables) :
    InStep limit capacity [] (server.handleAll events).tables := by
  induction events generalizing server with
  | nil => exact inStep
  | cons event rest ih => exact ih (inStep.told (server.handle_told event))

theorem of_poll_eq_ok {before after : Server π (Station ν) κ} {count : Nat}
    (polled : poll before = .ok count after) :
    ∃ events, ∃ middle : Server π (Station ν) κ, middle.users = before.users ∧
      Drained before.toNode.roster events middle.toNode.roster ∧
      middle.handleAll events = after := by
  obtain ⟨events, middle, drained, handled⟩ := of_bind_eq_ok polled
  cases handled
  unfold asNode at drained
  split at drained
  · next node received =>
    cases drained
    exact ⟨events, { before with toNode := node }, rfl, Node.drained_of_poll received, rfl⟩
  · cases drained

/-- A run of a server: its calls in any order, as long as its polls succeed, and what goes on
elsewhere between them. -/
inductive Step : Server π (Station ν) κ → Server π (Station ν) κ → Prop
  | poll {before after : Server π (Station ν) κ} {count : Nat}
      (polled : poll before = .ok count after) : Step before after
  | kick {before : Server π (Station ν) κ} (user : UserId) :
      Step before (attempt (kick user) before)
  | sendTo {before : Server π (Station ν) κ} (user : UserId) (packet : π) :
      Step before (attempt (sendTo user packet) before)
  | sendToPeer {before : Server π (Station ν) κ} (peer : PeerHandle) (packet : π) :
      Step before (attempt (sendToPeer peer packet) before)
  | broadcast {before : Server π (Station ν) κ} (packet : π) :
      Step before (attempt (broadcast packet) before)
  | shutdown {before : Server π (Station ν) κ} : Step before before.shutdown
  | elsewhere {before : Server π (Station ν) κ} (network : ν) (handles : Nat) :
      Step before (before.onNode fun node =>
        node.withTransport (node.transport.meet (.elsewhere network handles)))

abbrev Run : Server π (Station ν) κ → Server π (Station ν) κ → Prop :=
  Relation.ReflTransGen Step

theorem inStep_step {limit capacity : Nat} {before after : Server π (Station ν) κ}
    (inStep : InStep limit capacity [] before.tables) (step : Step before after) :
    InStep limit capacity [] after.tables := by
  cases step with
  | poll polled =>
      obtain ⟨events, middle, same, drained, rfl⟩ := of_poll_eq_ok polled
      have pending := inStep.drained drained
      rw [← same] at pending
      exact inStep_handleAll pending
  | kick user =>
      rcases kick_tables user before with same | ⟨peer, held, kicked⟩
      · rwa [same]
      · rw [kicked]
        exact inStep.kicked held
  | sendTo user packet => rwa [keeps_sendTo user packet before]
  | sendToPeer peer packet => rwa [keeps_sendToPeer peer packet before]
  | broadcast packet => rwa [keeps_broadcast packet before]
  | shutdown =>
      rcases shutdown_tables before with same | ⟨next, closed⟩
      · rwa [same]
      · rw [closed]
        exact inStep.closed next
  | elsewhere network handles => exact inStep.elsewhere handles

theorem inStep_of_run {limit capacity : Nat} {before after : Server π (Station ν) κ}
    (inStep : InStep limit capacity [] before.tables) (run : Run before after) :
    InStep limit capacity [] after.tables := by
  induction run with
  | refl => exact inStep
  | tail _ step ih => exact inStep_step ih step

/-- The peers that hold a user id are those with a link, each of them connected, and there are no
more of them than there may be peers and users. -/
theorem holders_eq_linked_of_run {node fresh : Node π (Station ν) κ}
    {built server : Server π (Station ν) κ} (started : build node = .ok built fresh)
    (run : Run built server) :
    (∀ peer, (∃ user, server.users.peer user = .ok peer) ↔
        ∃ link, server.toNode.roster.link? peer = some link) ∧
      (∀ peer user, server.users.peer user = .ok peer ↔ server.users.user? peer = some user) ∧
      (∀ peer link, server.toNode.roster.link? peer = some link → link.state = .connected) ∧
      server.transport.endpoint.peerCount ≤
        min node.config.maxPeers.toNat node.config.maxUsers.toNat := by
  have inStep := inStep_of_run (inStep_of_build started) run
  refine ⟨fun peer => ?_, fun peer user => inStep.consistent.peer_eq_ok_iff,
    fun peer link => inStep.serving.connected, ?_⟩
  · exact (exists_congr fun user => inStep.consistent.peer_eq_ok_iff).trans
      (inStep.user?_isSome_iff peer)
  · cases hosting : server.transport.endpoint.host with
    | none =>
        rw [Endpoint.peerCount, hosting]
        exact Nat.zero_le _
    | some host =>
        have bound := inStep.size_links_le hosting
        rw [Endpoint.peerCount, hosting]
        change host.links.size ≤ _
        omega

/-- A server with default settings, and its first visitor. -/
def door : Node ChatPacket (Station Loopback) Unit :=
  { transport := { process := { network := {} } } }

def visited (server : Server ChatPacket (Station Loopback) Unit) :
    Server ChatPacket (Station Loopback) Unit :=
  let source : SocketAddress := { ip := .v4 0x7f000001, port := 4000 }
  let socket : SocketAddress := { ip := .v4 0x7f000001, port := 8080 }
  let queue : List Receipt := [.datagram source (Frame.connect 1).encode]
  let network : Loopback := { queues := .ofList [(socket, queue)] }
  server.onNode fun node => node.withTransport (node.transport.meet (.elsewhere network 0))

theorem holders_eq_linked_of_visited :
    ∃ built fresh server, build door = .ok built fresh ∧ poll (visited built) = .ok 1 server ∧
      ((∃ user, server.users.peer user = .ok ⟨1⟩) ↔
        ∃ link, server.toNode.roster.link? ⟨1⟩ = some link) ∧
      server.transport.endpoint.peerCount ≤ 32 := by
  have ran : (match build door with
      | .ok built _ =>
        match Node.poll (visited built).toNode with
        | .ok events _ => decide (events = [.connect ⟨1⟩])
        | .error _ _ => false
      | .error _ _ => false) = true := by
    decide +kernel
  split at ran
  · next built fresh started =>
    split at ran
    · next events node received =>
      have polled := poll_of_receive received
      have single : events.length = 1 := congrArg List.length (of_decide_eq_true ran)
      rw [single] at polled
      have run : Run built _ :=
        .tail (.single (.elsewhere _ 0)) (.poll polled)
      obtain ⟨holders, -, -, bounded⟩ := holders_eq_linked_of_run started run
      exact ⟨built, fresh, _, started, polled, holders ⟨1⟩, bounded⟩
    · cases ran
  · cases ran

end Courier.Server

import Courier.Proofs.Datagram.Fleet
import Courier.Proofs.Datagram.Room
import Courier.Proofs.Server.Messages
import Courier.Proofs.Server.Run
import Courier.Proofs.Server.Sessions
import Courier.Proofs.Users.History

namespace Courier

open Datagram

/-- What happens to a server: its own calls, whatever comes of them, what the application does to
the table of users, which it shares, and what goes on elsewhere in its process. -/
inductive ServerInput (π ν : Type) where
  | poll
  | kick (user : UserId)
  | sendTo (user : UserId) (packet : π)
  | sendToPeer (peer : PeerHandle) (packet : π)
  | broadcast (packet : π)
  | shutdown
  | shared (call : UserTable.Call)
  | elsewhere (network : ν) (handles : Nat)

namespace Server

section

variable {π ν κ : Type} [Network ν] [PacketType π]

def meet (server : Server π (Station ν) κ) : ServerInput π ν → Server π (Station ν) κ
  | .poll => attempt poll server
  | .kick user => attempt (kick user) server
  | .sendTo user packet => attempt (sendTo user packet) server
  | .sendToPeer peer packet => attempt (sendToPeer peer packet) server
  | .broadcast packet => attempt (broadcast packet) server
  | .shutdown => server.shutdown
  | .shared call => { server with users := (server.users.perform call).2 }
  | .elsewhere network handles =>
    server.onNode fun node =>
      node.withTransport (node.transport.meet (.elsewhere network handles))

def after (server : Server π (Station ν) κ) (history : List (ServerInput π ν)) :
    Server π (Station ν) κ :=
  history.foldl meet server

/-- What an input tells a server: the events that a poll returns. -/
def hears (server : Server π (Station ν) κ) : ServerInput π ν → List RawEvent
  | .poll =>
    match Node.poll server.toNode with
    | .ok events _ => events
    | .error _ _ => []
  | _ => []

def heard (server : Server π (Station ν) κ) : List (ServerInput π ν) → List RawEvent
  | [] => []
  | input :: rest => server.hears input ++ (server.meet input).heard rest

end

/-- How a server stands: its users and its links, whether it is still running, and what its
callbacks have been run with. -/
structure Standing where
  users : UserTable
  roster : Roster
  running : Bool
  notices : List Notice

def standing {π ν κ : Type} (server : Server π (Station ν) κ) : Standing where
  users := server.users
  roster := server.toNode.roster
  running := server.running
  notices := server.toNode.notices

/-- The events of a batch are told one after the other. Each is noticed, if at all, as what it is
and as one of its peer. -/
inductive Handled : Standing → List RawEvent → Standing → Prop
  | done {standing : Standing} : Handled standing [] standing
  | more {standing after : Standing} {event : RawEvent} {later : List RawEvent} {users : UserTable}
      {roster : Roster} {notices : List Notice}
      (told : Told (standing.users, standing.roster) event (users, roster))
      (own : ∀ notice ∈ notices, notice.1 = event.kind ∧ notice.2.peer = event.peer)
      (rest : Handled
        { standing with users, roster, notices := standing.notices ++ notices } later after) :
      Handled standing (event :: later) after

/-- What an input makes of the standing of a server, and what the server is told then. A batch is
told, or lost with the poll that has taken it. -/
inductive Turned {π ν : Type} : ServerInput π ν → Standing → List RawEvent → Standing → Prop
  | polled {before after : Standing} {events told : List RawEvent} {roster : Roster}
      (drained : Drained before.roster events roster) (some : told.Sublist events)
      (handled : Handled { before with roster } told after) : Turned .poll before told after
  | kicked {before : Standing} {user : UserId} {peer : PeerHandle} {notices : List Notice}
      (held : before.users.peer user = .ok peer) (own : ∀ notice ∈ notices, notice.2.peer = peer) :
      Turned (.kick user) before []
        { before with
          users := (before.users.release user).2
          roster := before.roster.remove peer
          notices := before.notices ++ notices }
  | closed {before : Standing} :
      Turned .shutdown before []
        { before with
          users := before.users.clear
          roster := ⟨none, before.roster.nextPeer⟩
          running := false }
  | shared {before : Standing} (call : UserTable.Call) :
      Turned (.shared call) before [] { before with users := (before.users.perform call).2 }
  | still {before : Standing} (input : ServerInput π ν) (handles : Nat) :
      Turned input before []
        { before with roster := ⟨before.roster.host, before.roster.nextPeer + handles⟩ }

section

variable {π τ κ : Type}

theorem notices_fire (server : Server π τ κ) (kind : EventKind) (event : NetEvent) :
    ∃ notices, (server.fire kind event).toNode.notices = server.toNode.notices ++ notices ∧
      ∀ notice ∈ notices, notice.1 = kind ∧ notice.2.peer = event.peer := by
  refine ⟨_, server.toNode.notices_fire kind event, ?_⟩
  intro notice mem
  rw [List.mem_singleton.mp (List.mem_of_mem_filter mem)]
  exact ⟨rfl, rfl⟩

variable [Transport τ] [PacketType π]

theorem notices_handle (server : Server π τ κ) (event : RawEvent) :
    ∃ notices, (server.handle event).toNode.notices = server.toNode.notices ++ notices ∧
      ∀ notice ∈ notices, notice.1 = event.kind ∧ notice.2.peer = event.peer := by
  have none_more {after : Server π τ κ} (same : after.toNode.notices = server.toNode.notices) :
      ∃ notices, after.toNode.notices = server.toNode.notices ++ notices ∧
        ∀ notice ∈ notices, notice.1 = event.kind ∧ notice.2.peer = event.peer :=
    ⟨[], by rw [same, List.append_nil], by simp⟩
  cases event with
  | connect peer =>
      change ∃ notices, (server.join peer).toNode.notices = _ ∧ _
      unfold join
      split
      · next user users _ => exact notices_fire { server with users } _ _
      · exact none_more rfl
      · exact none_more (congrArg Prod.snd
          (Node.keeps_ledger_call (.disconnectPeer peer) server.toNode))
  | disconnect peer =>
      exact notices_fire { server with users := (server.users.releasePeer peer).2 } _ _
  | receive peer channel flags data =>
      have told : (server.message peer data).toNode.notices = _ :=
        congrArg (·.2.2) (server.ledger_message peer data)
      change ∃ notices, (server.message peer data).toNode.notices = _ ∧ _
      rw [told]
      exact notices_fire server _ _

omit [PacketType π] in
theorem shutdown_of_not_running {server : Server π τ κ} (ended : server.running = false) :
    server.shutdown = server := by
  rw [shutdown, if_neg (by simp [ended])]

omit [PacketType π] in
/-- The transport is left and stopped, in this order, whether or not leaving succeeds. -/
theorem shutdown_of_running {server : Server π τ κ} (running : server.running = true) :
    server.shutdown =
      { server.onNode fun node =>
          (node.record [.called .disconnect, .called .stop]).withTransport
            (Transport.stop (attempt Transport.disconnect node.transport)) with
        users := server.users.clear
        running := false } := by
  rw [shutdown, if_pos running]
  simp only [onNode, Node.attempt_call, Node.record, Node.withTransport, List.append_assoc]
  rfl

theorem running_handle (server : Server π τ κ) (event : RawEvent) :
    (server.handle event).running = server.running := by
  cases event with
  | connect peer =>
      change (server.join peer).running = _
      unfold join
      split <;> rfl
  | disconnect peer => rfl
  | receive peer channel flags data => exact running_message server peer data

end

section

variable {π ν κ : Type} [Network ν] [PacketType π]

theorem handled_handleAll (events : List RawEvent) (server : Server π (Station ν) κ) :
    Handled server.standing events (server.handleAll events).standing := by
  induction events generalizing server with
  | nil => exact .done
  | cons event rest ih =>
      obtain ⟨notices, noticed, own⟩ := server.notices_handle event
      have later := ih (server.handle event)
      have next : (server.handle event).standing =
          { server.standing with
            users := (server.handle event).users
            roster := (server.handle event).toNode.roster
            notices := server.toNode.notices ++ notices } := by
        simp only [standing, running_handle, noticed]
      rw [next] at later
      exact .more (server.handle_told event) own later

omit [Network ν] [PacketType π] in
theorem standing_of_ledger {server after : Server π (Station ν) κ}
    (tables : after.tables = server.tables) (running : after.running = server.running)
    (ledger : after.ledger = server.ledger) : after.standing = server.standing := by
  simp only [standing, Standing.mk.injEq]
  exact ⟨congrArg Prod.fst tables, congrArg Prod.snd tables, running, congrArg (·.2.2) ledger⟩

omit [PacketType π] in
theorem drained_of_poll_error {node after : Node π (Station ν) κ} {error : Error}
    (failed : Node.poll node = .error error after) :
    ∃ events, Drained node.roster events after.roster := by
  obtain ⟨reason, ran⟩ := Node.of_poll_eq_error failed
  exact Station.drained_of_poll_error ran

omit [PacketType π] in
theorem standing_polled (server : Server π (Station ν) κ) :
    { server with toNode := attempt Node.poll server.toNode }.standing =
      { server.standing with roster := (attempt Node.poll server.toNode).roster } := by
  have notices : (attempt Node.poll server.toNode).notices = server.toNode.notices :=
    congrArg Prod.snd (Node.keeps_ledger_poll server.toNode)
  simp only [standing, notices]

theorem turned_poll (server : Server π (Station ν) κ) :
    Turned (.poll : ServerInput π ν) server.standing (server.hears .poll)
      (attempt poll server).standing := by
  have polled := server.standing_polled
  cases ran : Node.poll server.toNode with
  | ok events node =>
      have told : server.hears .poll = events := by simp only [hears, ran]
      rw [attempt, ran] at polled
      rw [told, attempt, poll_of_receive ran]
      refine .polled (Node.drained_of_poll ran) (List.Sublist.refl events) ?_
      have handled := handled_handleAll events { server with toNode := node }
      rwa [polled] at handled
  | error error node =>
      have told : server.hears .poll = [] := by simp only [hears, ran]
      obtain ⟨events, drained⟩ := drained_of_poll_error ran
      rw [attempt, ran] at polled
      rw [told, attempt_poll_of_error ran, polled]
      exact .polled drained (List.nil_sublist events) .done

omit [PacketType π] in
theorem standing_refuse (server : Server π (Station ν) κ) (peer : PeerHandle) :
    (server.refuse peer).standing =
      { server.standing with roster := server.toNode.roster.remove peer } := by
  have tables := tables_refuse server peer
  have ledger := Node.keeps_ledger_call (.disconnectPeer peer) server.toNode
  simp only [standing, Standing.mk.injEq]
  exact ⟨rfl, congrArg Prod.snd tables, rfl, congrArg Prod.snd ledger⟩

omit [PacketType π] in
theorem turned_kick (server : Server π (Station ν) κ) (user : UserId) :
    Turned (.kick user : ServerInput π ν) server.standing []
      (attempt (kick user) server).standing := by
  cases held : server.users.peer user with
  | error error =>
      rw [attempt_kick_of_peer_eq_error held]
      exact .still _ 0
  | ok peer =>
      rw [attempt_kick_of_peer_eq_ok held]
      let left : Server π (Station ν) κ :=
        { server.refuse peer with users := (server.users.release user).2 }
      have gone : left.standing =
          { server.standing with
            users := (server.users.release user).2
            roster := server.toNode.roster.remove peer } :=
        standing_refuse { server with users := (server.users.release user).2 } peer
      obtain ⟨notices, noticed, own⟩ :=
        left.notices_fire .disconnect { peer, user := some user }
      have fired : (left.fire .disconnect { peer, user := some user }).standing =
          { left.standing with notices := left.standing.notices ++ notices } := by
        rw [standing, noticed]
        rfl
      rw [fired, gone]
      exact .kicked held fun notice mem => (own notice mem).2

omit [PacketType π] in
theorem nextPeer_disconnect (station : Station ν) :
    (attempt Station.disconnect station).process.nextPeer = station.process.nextPeer := by
  obtain ⟨peers, left⟩ := Station.roster_disconnect station
  have next := congrArg Roster.nextPeer left
  rwa [Roster.nextPeer_foldl_remove] at next

omit [PacketType π] in
theorem turned_shutdown (server : Server π (Station ν) κ) :
    Turned (.shutdown : ServerInput π ν) server.standing [] server.shutdown.standing := by
  cases running : server.running with
  | false =>
      rw [shutdown_of_not_running running]
      exact .still _ 0
  | true =>
      have closed : server.shutdown.standing =
          { server.standing with
            users := server.users.clear
            roster := ⟨none, server.transport.process.nextPeer⟩
            running := false } := by
        rw [shutdown_of_running running]
        simp only [standing, onNode, Node.roster, Node.withTransport, Standing.mk.injEq, true_and]
        constructor
        · rw [← nextPeer_disconnect server.transport]
          exact Station.roster_stop _
        · exact (server.toNode.notices_record _).trans (List.append_nil _)
      rw [closed]
      exact .closed

theorem turned_meet (server : Server π (Station ν) κ) (input : ServerInput π ν) :
    Turned input server.standing (server.hears input) (server.meet input).standing := by
  have still {after : Server π (Station ν) κ} (tables : after.tables = server.tables)
      (running : after.running = server.running) (ledger : after.ledger = server.ledger) :
      Turned input server.standing [] after.standing := by
    rw [standing_of_ledger tables running ledger]
    exact .still input 0
  cases input with
  | poll => exact server.turned_poll
  | kick user => exact server.turned_kick user
  | sendTo user packet =>
      exact still (keeps_sendTo user packet server)
        ((keeps_peerOf Server.running user).bind (fun _ => keeps_running_asNode _) server)
        (Node.ignoresSending_ledger.sendTo user packet server)
  | sendToPeer peer packet =>
      exact still (keeps_sendToPeer peer packet server) (keeps_running_asNode _ server)
        (Node.ignoresSending_ledger.sendToPeer peer packet server)
  | broadcast packet =>
      exact still (keeps_broadcast packet server)
        ((keeps_running_asNode _).bind (fun _ => Keeps.always fun _ => rfl) server)
        (Node.ignoresSending_ledger.broadcast packet server)
  | shutdown => exact server.turned_shutdown
  | shared call => exact .shared call
  | elsewhere network handles => exact .still _ handles

end

end Server

end Courier

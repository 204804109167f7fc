import Courier.Catalog
import Courier.Proofs.Server.Calls
import Courier.Proofs.Server.Sending
import Courier.Proofs.Users.Sessions
import Courier.Transport.Scripted
import Mathlib.Data.List.Permutation
import Mathlib.Logic.Relation

namespace Courier

def Act.notice? : Act κ → Option Notice
  | .ran kind _ event => some (kind, event)
  | _ => none

namespace Node

variable {π τ κ : Type}

def notices (node : Node π τ κ) : List Notice :=
  node.acts.filterMap Act.notice?

/-- The callbacks that are set, and what they have been run with so far. -/
def ledger (node : Node π τ κ) : EventHandlers κ × List Notice :=
  (node.handlers, node.notices)

theorem notices_record (node : Node π τ κ) (acts : List (Act κ)) :
    (node.record acts).notices = node.notices ++ acts.filterMap Act.notice? :=
  List.filterMap_append

/-- A callback that is set is run, and what there is to tell is lost where none is set. -/
theorem notices_fire (node : Node π τ κ) (kind : EventKind) (event : NetEvent) :
    (node.fire kind event).notices =
      node.notices ++ [(kind, event)].filter fun notice => node.handlers.contains notice.1 := by
  rw [fire, notices_record, EventHandlers.call]
  apply congrArg (node.notices ++ ·)
  cases set : node.handlers.callback? kind with
  | none => simp [EventHandlers.contains, set]
  | some callback => simp [EventHandlers.contains, set, Act.notice?]

theorem ledger_process [PacketType π] (node : Node π τ κ) (peer : PeerHandle)
    (user : Option UserId) (message : Bytes) :
    (node.process peer user message).2.ledger = node.ledger := by
  have silent (lines : List String) :
      (lines.map (.printed : String → Act κ)).filterMap Act.notice? = [] := by
    simp [Act.notice?]
  apply congrArg (Prod.mk node.handlers)
  rw [process, notices_record, silent, List.append_nil]

variable [Transport τ]

theorem keeps_ledger_call (call : TransportCall) :
    Keeps ledger (Node.call call : EStateM Error (Node π τ κ) call.Answer) := by
  intro node
  rw [attempt_call]
  apply congrArg (Prod.mk node.handlers)
  exact (node.notices_record [.called call]).trans (List.append_nil _)

theorem keeps_ledger_poll :
    Keeps ledger (Node.poll : EStateM Error (Node π τ κ) (List RawEvent)) :=
  keeps_poll keeps_ledger_call

theorem ignoresSending_ledger : IgnoresSending (ledger : Node π τ κ → _) where
  scratch _ _ := rfl
  send peer channel data flags := keeps_ledger_call (.send peer channel data flags)

end Node

namespace Server

variable {π τ κ : Type}

/-- The users of a server, its callbacks, and what they have been run with. -/
def ledger (server : Server π τ κ) : UserTable × EventHandlers κ × List Notice :=
  withUsers Node.ledger server

/-- However a message is answered, all that is noticed of it is that it has come. -/
theorem ledger_message [Transport τ] [PacketType π] (server : Server π τ κ) (peer : PeerHandle)
    (data : Bytes) :
    (server.message peer data).ledger =
      (server.fire .message { peer, user := server.users.user? peer, data }).ledger :=
  (Node.ignoresSending_ledger.deliver peer _ _).trans
    (congrArg (Prod.mk server.users) (Node.ledger_process _ peer _ data))

/-- The callbacks have been run with whatever there was to tell of the users, each as long as it is
set. -/
def Accounts (requested : Nat) (handlers : EventHandlers κ) (earlier : List Notice)
    (ledger : UserTable × EventHandlers κ × List Notice) : Prop :=
  ∃ told, (UserTable.ofSize requested).TellsAll told ledger.1 ∧
    ledger.2 = (handlers, earlier ++ told.filter fun notice => handlers.contains notice.1)

namespace Accounts

variable {requested : Nat} {handlers : EventHandlers κ} {earlier : List Notice}
  {server : Server π τ κ}

theorem consistent (accounts : Accounts requested handlers earlier server.ledger) :
    server.users.Consistent := by
  obtain ⟨told, all, -⟩ := accounts
  exact all.consistent (.ofSize requested)

theorem fire {kind : EventKind} {event : NetEvent} {users : UserTable}
    (accounts : Accounts requested handlers earlier server.ledger)
    (tells : server.users.Tells (kind, event) users) :
    Accounts requested handlers earlier ({ server with users }.fire kind event).ledger := by
  obtain ⟨told, all, same⟩ := accounts
  obtain ⟨sameHandlers, sameNotices⟩ := Prod.mk.inj same
  refine ⟨told ++ [(kind, event)], all.told tells, ?_⟩
  apply Prod.ext
  · exact sameHandlers
  · refine (server.toNode.notices_fire kind event).trans ?_
    rw [sameNotices, sameHandlers, List.filter_append, List.append_assoc]

theorem leave (accounts : Accounts requested handlers earlier server.ledger) (peer : PeerHandle) :
    Accounts requested handlers earlier (server.leave peer).ledger := by
  unfold Server.leave UserTable.releasePeer
  cases held : server.users.user? peer with
  | none => exact accounts.fire (.strangerLeft held)
  | some user =>
      dsimp only
      rw [accounts.consistent.release_of_user? held]
      exact accounts.fire (.left held)

variable [Transport τ]

theorem refuse (accounts : Accounts requested handlers earlier server.ledger)
    (peer : PeerHandle) : Accounts requested handlers earlier (server.refuse peer).ledger := by
  have same : (server.refuse peer).ledger = server.ledger :=
    congrArg (Prod.mk server.users) (Node.keeps_ledger_call (.disconnectPeer peer) server.toNode)
  rwa [same]

theorem join (accounts : Accounts requested handlers earlier server.ledger) (peer : PeerHandle) :
    Accounts requested handlers earlier (server.join peer).ledger := by
  cases held : server.users.user? peer with
  | some user => rwa [Server.join_of_known (UserTable.acquire_of_held held)]
  | none =>
      cases least : server.users.free.min? with
      | some user =>
          rw [Server.join_of_seated (UserTable.acquire_of_least held least)]
          exact accounts.fire (.joined held least)
      | none =>
          rw [Server.join_of_exhausted (UserTable.acquire_of_full held least)]
          exact accounts.refuse peer

theorem kick (accounts : Accounts requested handlers earlier server.ledger) (user : UserId) :
    Accounts requested handlers earlier (attempt (Server.kick user) server).ledger := by
  cases seated : server.users.peer user with
  | error error =>
      rw [attempt_kick_of_peer_eq_error seated]
      exact accounts
  | ok peer =>
      have held := accounts.consistent.peer_eq_ok_iff.mp seated
      rw [attempt_kick_of_peer_eq_ok seated, accounts.consistent.release_of_user? held]
      exact (accounts.refuse peer).fire (.left held)

variable [PacketType π]

theorem message (accounts : Accounts requested handlers earlier server.ledger)
    (peer : PeerHandle) (data : Bytes) :
    Accounts requested handlers earlier (server.message peer data).ledger := by
  have told : Accounts requested handlers earlier
      (server.fire .message { peer, user := server.users.user? peer, data }).ledger := by
    cases held : server.users.user? peer with
    | none => exact accounts.fire (.strangerHeard held)
    | some user => exact accounts.fire (.heard held)
  rwa [ledger_message]

theorem handleAll (accounts : Accounts requested handlers earlier server.ledger)
    (events : List RawEvent) :
    Accounts requested handlers earlier (server.handleAll events).ledger := by
  induction events generalizing server with
  | nil => exact accounts
  | cons event rest ih =>
      apply ih
      cases event with
      | connect peer => exact accounts.join peer
      | disconnect peer => exact accounts.leave peer
      | receive peer channel flags data => exact accounts.message peer data

theorem poll (accounts : Accounts requested handlers earlier server.ledger) :
    Accounts requested handlers earlier (attempt Server.poll server).ledger := by
  obtain ⟨events, polled⟩ := exists_attempt_poll_eq server
  rw [polled]
  apply handleAll
  have same := keeps_asNode Node.keeps_ledger_poll server
  rwa [ledger, same]

end Accounts

variable [Transport τ]

theorem accounts_of_build {node fresh : Node π τ κ} {built : Server π τ κ}
    (started : build node = .ok built fresh) :
    Accounts fresh.config.maxUsers.toNat node.handlers node.notices built.ledger := by
  obtain ⟨rfl, -, ready, begun, created⟩ := of_build_eq_ok started
  have same : fresh.ledger = node.ledger :=
    ((Node.keeps_ledger_call _).of_eq_ok created).trans ((Node.keeps_ledger_call _).of_eq_ok begun)
  exact ⟨[], .nil, same.trans (by simp [Node.ledger])⟩

variable [PacketType π]

/-- A turn of a server that is in use: a call of it, or something that happens to its transport
elsewhere. -/
inductive Turn : Server π τ κ → Server π τ κ → Prop
  | poll {before : Server π τ κ} : Turn before (attempt poll before)
  | kick {before : Server π τ κ} (user : UserId) : Turn before (attempt (kick user) before)
  | sendTo {before : Server π τ κ} (user : UserId) (packet : π) :
      Turn before (attempt (sendTo user packet) before)
  | sendToPeer {before : Server π τ κ} (peer : PeerHandle) (packet : π) :
      Turn before (attempt (sendToPeer peer packet) before)
  | broadcast {before : Server π τ κ} (packet : π) : Turn before (attempt (broadcast packet) before)
  | elsewhere {before : Server π τ κ} (transport : τ) :
      Turn before (before.onNode (·.withTransport transport))

abbrev Turns : Server π τ κ → Server π τ κ → Prop :=
  Relation.ReflTransGen Turn

theorem Accounts.turn {requested : Nat} {handlers : EventHandlers κ} {earlier : List Notice}
    {before after : Server π τ κ} (accounts : Accounts requested handlers earlier before.ledger)
    (turn : Turn before after) : Accounts requested handlers earlier after.ledger := by
  cases turn with
  | poll => exact accounts.poll
  | kick user => exact accounts.kick user
  | sendTo user packet => rwa [ledger, Node.ignoresSending_ledger.sendTo user packet before]
  | sendToPeer peer packet => rwa [ledger, Node.ignoresSending_ledger.sendToPeer peer packet before]
  | broadcast packet => rwa [ledger, Node.ignoresSending_ledger.broadcast packet before]
  | elsewhere transport => exact accounts

theorem Accounts.turns {requested : Nat} {handlers : EventHandlers κ} {earlier : List Notice}
    {before after : Server π τ κ} (accounts : Accounts requested handlers earlier before.ledger)
    (turns : Turns before after) : Accounts requested handlers earlier after.ledger := by
  induction turns with
  | refl => exact accounts
  | tail _ turn ih => exact ih.turn turn

/-- The callbacks that are set have been run with their part of a history in which every id has one
session after the other, everyone who connects gets the least id that is free, and what comes
without an id comes from a peer that has none. -/
theorem sessions_of_turns {node fresh : Node π τ κ} {built server : Server π τ κ}
    (started : build node = .ok built fresh) (turns : Turns built server) :
    ∃ told : List Notice,
      server.notices = node.notices ++
          told.filter (fun notice => node.handlers.contains notice.1) ∧
        (∀ user, Sessions (server.users.holder? user) (underUser user told)) ∧
        (∀ earlier event, earlier ++ [(.connect, event)] <+: told →
          ∃ user, event.user = some user ∧ Sessions none (underUser user earlier) ∧
            ∀ lower : UserId, lower.index < user.index →
              ∃ peer, Sessions (some peer) (underUser lower earlier)) ∧
        ∀ earlier kind event, earlier ++ [(kind, event)] <+: told → event.user = none →
          kind ≠ .connect ∧ ∀ user, ¬ Sessions (some event.peer) (underUser user earlier) := by
  have accounts :
      Accounts fresh.config.maxUsers.toNat node.handlers node.notices server.ledger := by
    induction turns with
    | refl => exact accounts_of_build started
    | tail _ turn ih => exact ih.turn turn
  obtain ⟨told, all, same⟩ := accounts
  exact ⟨told, congrArg Prod.snd same, all.sessions, fun _ _ => all.least_of_connect,
    fun _ _ _ => all.stranger_of_user_eq_none⟩

def batch : List RawEvent :=
  [.connect ⟨5⟩, .connect ⟨6⟩, .receive ⟨5⟩ 0 .none [], .disconnect ⟨5⟩, .connect ⟨7⟩]

def lobby : Node ChatPacket Scripted Unit :=
  { transport := { polls := [.ok batch] }
    config := { maxUsers := 2 }
    handlers := { onConnect := some (), onDisconnect := some (), onMessage := some () } }

def openLobby : Node ChatPacket Scripted Unit :=
  { lobby with acts := [.called .start, .called (.createServer "127.0.0.1" 8080 1 32)] }

def polledLobby : Node ChatPacket Scripted Unit :=
  { openLobby with transport := {}, acts := openLobby.acts ++ [.called (.poll 10)] }

theorem sessions_of_turns_lobby :
    build lobby = .ok (ofNode openLobby) openLobby ∧
      ∃ server, Turns (ofNode openLobby) server ∧
        underUser ⟨0⟩ server.notices =
          [(.connect, ⟨5⟩), (.message, ⟨5⟩), (.disconnect, ⟨5⟩), (.connect, ⟨7⟩)] ∧
        Sessions (server.users.holder? ⟨0⟩) (underUser ⟨0⟩ server.notices) := by
  have started : build lobby = .ok (ofNode openLobby) openLobby := rfl
  have received : Node.poll (ofNode openLobby).toNode = .ok batch polledLobby := rfl
  have turns : Turns (ofNode openLobby) (attempt poll (ofNode openLobby)) := .single .poll
  rw [attempt, poll_of_receive received] at turns
  obtain ⟨told, all, sessions, -, -⟩ := sessions_of_turns started turns
  have everything : told.filter (fun notice => lobby.handlers.contains notice.1) = told := by
    rw [List.filter_eq_self]
    rintro ⟨kind, event⟩ -
    cases kind <;> rfl
  have same := all.trans everything
  refine ⟨started, _, turns, ?_, same ▸ sessions ⟨0⟩⟩
  cbv

end Server

end Courier

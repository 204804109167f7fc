import Courier.Proofs.Client.Calls
import Courier.Proofs.Datagram.Course
import Courier.Proofs.Datagram.Failing
import Courier.Proofs.Server.Tables

namespace Courier

open Datagram

/-! What happens to a client: its own calls, whatever comes of them, and what goes on elsewhere in
its process. How it stands with its server is in its state and in its links: both change with what
the client is told, and when it leaves. -/

inductive ClientInput (π ν : Type) where
  | poll
  | send (packet : π)
  | sendBytes (data : Bytes)
  | disconnect
  | elsewhere (network : ν) (handles : Nat)

/-- What an event of the server makes of a client. -/
def ClientState.told : ClientState → RawEvent → ClientState
  | _, .connect _ => .connected
  | _, .disconnect _ => .disconnected
  | state, .receive .. => state

namespace Client

section

variable {π τ κ : Type} [Transport τ] [PacketType π]

theorem server_handleAll (events : List RawEvent) (client : Client π τ κ) :
    (events.foldl handle client).server = client.server := by
  have blind : Node.IgnoresSending fun _ : Node π τ κ => () :=
    ⟨fun _ _ => rfl, fun _ _ _ _ _ => rfl⟩
  exact congrArg Prod.fst (withServer_handleAll blind (fun _ _ => rfl) events client)

theorem state_handle {client : Client π τ κ} {event : RawEvent}
    (own : event.peer = client.server) :
    (client.handle event).state = client.state.told event := by
  unfold handle
  rw [if_pos own]
  cases event with
  | connect peer => rfl
  | disconnect peer => rfl
  | receive peer channel flags data => exact state_deliver _ _

/-- The state is what the events of the server make of it, one after the other. -/
theorem state_handleAll (events : List RawEvent) (client : Client π τ κ) :
    (events.foldl handle client).state =
      (about client.server events).foldl ClientState.told client.state := by
  induction events generalizing client with
  | nil => rfl
  | cons event rest ih =>
      have server : (client.handle event).server = client.server := server_handleAll [event] client
      rw [List.foldl_cons, ih, server]
      by_cases own : event.peer = client.server
      · have split : about client.server (event :: rest) = event :: about client.server rest := by
          simp [about, own]
        rw [split, List.foldl_cons, state_handle own]
      · have split : about client.server (event :: rest) = about client.server rest := by
          simp [about, own]
        rw [split, handle_of_other own]

end

/-- A client as far as its links go: its state, and the tables. -/
def standing {π ν κ : Type} (client : Client π (Station ν) κ) : ClientState × Roster :=
  (client.state, client.toNode.roster)

/-- What happens to the standing of a client, and what the client is told then. It is told of
what a poll has taken, and nothing when it leaves by itself. -/
inductive Turn (server : PeerHandle) :
    ClientState × Roster → List RawEvent → ClientState × Roster → Prop
  | told {state : ClientState} {before after : Roster} {events : List RawEvent}
      (drained : Drained before events after) :
      Turn server (state, before) (about server events)
        ((about server events).foldl ClientState.told state, after)
  | parted {state : ClientState} {before : Roster} (peers : List PeerHandle)
      (nobody : ∀ peer, (peers.foldl Roster.remove before).link? peer = none) :
      Turn server (state, before) [] (.disconnected, peers.foldl Roster.remove before)
  | closed {state : ClientState} {before : Roster} :
      Turn server (state, before) [] (.disconnected, ⟨none, before.nextPeer⟩)
  | still {state : ClientState} {before : Roster} (handles : Nat) :
      Turn server (state, before) [] (state, ⟨before.host, before.nextPeer + handles⟩)

variable {π ν κ : Type} [Network ν] [PacketType π]

omit [PacketType π] in
/-- A new client has one link, that waits for the server. -/
theorem standing_of_connect {node fresh : Node π (Station ν) κ} {client : Client π (Station ν) κ}
    (connected : connect node = .ok client fresh) :
    ∃ socket channels next link, client.server = ⟨next⟩ ∧ link.state = .connecting ∧
      client.standing = (.connecting,
        ⟨some (Host.insert { role := .client, socket, channels, maxPeers := 1 } ⟨next⟩ link),
          next + 1⟩) := by
  obtain ⟨-, -, -, connecting, started, made, -, created, dialled⟩ := begun_of_connect connected
  rcases Station.createClient_cases node.config.channels started with
    ⟨error, network, failed⟩ | ⟨-, socket, network, ran⟩
  · cases created.symm.trans failed
  · cases created.symm.trans ran
    obtain ⟨known, socket, link, hosting, server, waiting, roster⟩ :=
      Station.roster_of_connect dialled
    cases hosting
    rw [server] at roster
    exact ⟨socket, node.config.channels, _, link, server, waiting, Prod.ext connecting roster⟩

def meet (client : Client π (Station ν) κ) : ClientInput π ν → Client π (Station ν) κ
  | .poll => attempt poll client
  | .send packet => attempt (send packet) client
  | .sendBytes data => attempt (sendBytes data) client
  | .disconnect => attempt disconnect client
  | .elsewhere network handles =>
    client.onNode fun node =>
      node.withTransport (node.transport.meet (.elsewhere network handles))

def after (client : Client π (Station ν) κ) (history : List (ClientInput π ν)) :
    Client π (Station ν) κ :=
  history.foldl meet client

/-- What an input tells a client: of its server, whatever a poll returns. -/
def learns (client : Client π (Station ν) κ) : ClientInput π ν → List RawEvent
  | .poll =>
    match Node.poll client.toNode with
    | .ok events _ => about client.server events
    | .error _ _ => []
  | _ => []

def learned (client : Client π (Station ν) κ) : List (ClientInput π ν) → List RawEvent
  | [] => []
  | input :: rest => client.learns input ++ (client.meet input).learned rest

/-- A poll is answered as long as there is a host. -/
def Answers (client : Client π (Station ν) κ) : ClientInput π ν → Prop
  | .poll => client.transport.endpoint.host.isSome →
      ∃ count after, poll client = .ok count after
  | _ => True

instance (client : Client π (Station ν) κ) (input : ClientInput π ν) :
    Decidable (client.Answers input) :=
  match input with
  | .poll =>
    match ran : poll client with
    | .ok count after => isTrue fun _ => ⟨count, after, ran⟩
    | .error _ _ =>
      if hosted : client.transport.endpoint.host.isSome then
        isFalse fun answers => by
          obtain ⟨count, after, answered⟩ := answers hosted
          cases ran.symm.trans answered
      else isTrue fun there => absurd there hosted
  | .send _ | .sendBytes _ | .disconnect | .elsewhere _ _ => isTrue trivial

def Answered (client : Client π (Station ν) κ) : List (ClientInput π ν) → Prop
  | [] => True
  | input :: rest => client.Answers input ∧ (client.meet input).Answered rest

instance decidableAnswered (client : Client π (Station ν) κ) :
    (history : List (ClientInput π ν)) → Decidable (client.Answered history)
  | [] => isTrue trivial
  | input :: rest =>
    have := decidableAnswered (client.meet input) rest
    inferInstanceAs (Decidable (_ ∧ _))

theorem standing_handleAll (events : List RawEvent) (client : Client π (Station ν) κ) :
    (events.foldl handle client).standing =
      ((about client.server events).foldl ClientState.told client.state,
        client.toNode.roster) := by
  have kept := withServer_handleAll Node.ignoresSending_roster (fun _ _ => rfl) events client
  have roster : (events.foldl handle client).toNode.roster = client.toNode.roster :=
    congrArg Prod.snd kept
  exact Prod.ext (state_handleAll events client) roster

omit [PacketType π] in
theorem turn_disconnect (client : Client π (Station ν) κ) :
    Turn client.server client.standing [] (attempt disconnect client).standing := by
  obtain ⟨-, gone, ⟨-, same⟩ | ⟨-, outcome⟩⟩ := disconnect_cases client
  · rw [same]
    exact .still 0
  · obtain ⟨peers, removed⟩ := client.transport.roster_disconnect
    have left : (attempt disconnect client).standing =
        (.disconnected, (attempt disconnect client).transport.roster) := Prod.ext gone rfl
    rw [left]
    rcases outcome with parted | stopped
    · have parted : (attempt disconnect client).transport.roster =
          peers.foldl Roster.remove client.toNode.roster := parted ▸ removed
      have nobody := client.transport.link?_disconnect
      rw [removed] at nobody
      rw [parted]
      exact .parted peers nobody
    · have closed : (attempt disconnect client).transport.roster =
          ⟨none, client.toNode.roster.nextPeer⟩ := by
        -- Stopping leaves the handles as leaving the peers has left them.
        have next := congrArg Roster.nextPeer removed
        rw [Roster.nextPeer_foldl_remove] at next
        rw [stopped]
        exact (Station.roster_stop _).trans (congrArg (Roster.mk none) next)
      rw [closed]
      exact .closed

/-- What comes of an input, unless it is a poll that fails though there is a host: then what the
poll has taken is lost. -/
theorem turn_or_lost (client : Client π (Station ν) κ) (input : ClientInput π ν) :
    Turn client.server client.standing (client.learns input) (client.meet input).standing ∨
      ¬ client.Answers input ∧ (client.meet input).state = client.state ∧
        ∃ lost, Drained client.toNode.roster lost (client.meet input).toNode.roster := by
  have sent {after : Client π (Station ν) κ} (state : after.state = client.state)
      (roster : after.withServer Node.roster = client.withServer Node.roster) :
      Turn client.server client.standing [] after.standing := by
    have same : after.standing = client.standing := Prod.ext state (Prod.mk.inj roster).2
    rw [same]
    exact .still 0
  cases input with
  | send packet =>
      exact .inl (sent (keeps_state_send packet client)
        (Node.ignoresSending_roster.clientSend packet client))
  | sendBytes data =>
      exact .inl (sent (keeps_state_sendBytes data client)
        (Node.ignoresSending_roster.clientSendBytes data client))
  | disconnect => exact .inl (turn_disconnect client)
  | elsewhere network handles => exact .inl (.still handles)
  | poll =>
      rw [meet, learns]
      cases polled : Node.poll client.toNode with
      | ok events node =>
          rw [attempt_poll_of_receive polled, standing_handleAll]
          exact .inl (.told (Node.drained_of_poll polled))
      | error error node =>
          obtain ⟨reason, failed⟩ := Node.of_poll_eq_error polled
          rw [attempt_poll_of_error polled]
          cases hosting : client.transport.endpoint.host with
          | none =>
              have answered := Station.poll_of_vacant hosting client.pollTimeout
              injection answered.symm.trans failed with _ same
              have kept : node.roster = client.toNode.roster :=
                congrArg Station.roster same.symm
              exact .inl (sent rfl (congrArg (Prod.mk client.server) kept))
          | some host =>
              refine .inr ⟨fun answers => ?_, rfl, Station.drained_of_poll_error failed⟩
              obtain ⟨count, after, answered⟩ := answers (Option.isSome_of_eq_some hosting)
              cases answered.symm.trans (poll_of_error polled)

theorem server_meet (client : Client π (Station ν) κ) (input : ClientInput π ν) :
    (client.meet input).server = client.server := by
  cases input with
  | send packet =>
      exact congrArg Prod.fst (Node.ignoresSending_roster.clientSend packet client)
  | sendBytes data =>
      exact congrArg Prod.fst (Node.ignoresSending_roster.clientSendBytes data client)
  | disconnect => exact (disconnect_cases client).1
  | elsewhere network handles => rfl
  | poll =>
      rw [meet]
      cases polled : Node.poll client.toNode with
      | ok events node =>
          rw [attempt_poll_of_receive polled]
          exact server_handleAll events _
      | error error node => rw [attempt_poll_of_error polled]

theorem server_after (client : Client π (Station ν) κ) (history : List (ClientInput π ν)) :
    (client.after history).server = client.server := by
  induction history generalizing client with
  | nil => rfl
  | cons input rest ih => exact (ih _).trans (client.server_meet input)

end Client

end Courier

import Courier.Catalog
import Courier.Proofs.Client.History
import Courier.Proofs.Datagram.Fleet
import Courier.Proofs.Server.Sessions

namespace Courier

open Datagram

/-! The life of a client, whose state is that of its link: it goes from connecting to connected and
from either to disconnected, never back, and its callbacks tell of the same course. -/

/-- What a callback of a client is told of an event. -/
def RawEvent.notice : RawEvent → Notice
  | .connect peer => (.connect, { peer, user := none })
  | .disconnect peer => (.disconnect, { peer, user := none })
  | .receive peer _ _ data => (.message, { peer, user := none, data })

namespace ClientState

def ofLink? : Option Link → ClientState
  | none => .disconnected
  | some link =>
    match link.state with
    | .connecting => .connecting
    | .connected => .connected

theorem ofLink?_eq_connected_iff (link? : Option Link) :
    ofLink? link? = .connected ↔ ∃ link, link? = some link ∧ link.state = .connected := by
  cases link? with
  | none => simp [ofLink?]
  | some link => cases state : link.state <;> simp [ofLink?, state]

inductive Onward : ClientState → ClientState → Prop
  | stays {state : ClientState} : Onward state state
  | accepted : Onward .connecting .connected
  | refused : Onward .connecting .disconnected
  | left : Onward .connected .disconnected

namespace Onward

theorem trans {first second third : ClientState} (before : Onward first second)
    (after : Onward second third) : Onward first third := by
  cases before with
  | stays => exact after
  | accepted =>
      cases after with
      | stays => exact .accepted
      | left => exact .refused
  | refused =>
      cases after
      exact .refused
  | left =>
      cases after
      exact .left

theorem disconnected (state : ClientState) : Onward state .disconnected := by
  cases state with
  | connecting => exact .refused
  | connected => exact .left
  | disconnected => exact .stays

end Onward

theorem foldl_told_of_quiet {peer : PeerHandle} {events : List RawEvent}
    (quiet : ∀ event ∈ events, event.IsOfLink → event.peer ≠ peer) (state : ClientState) :
    (about peer events).foldl told state = state := by
  induction events with
  | nil => rfl
  | cons event rest ih =>
      have later := ih fun event mem => quiet event (List.mem_cons_of_mem _ mem)
      have first := quiet event List.mem_cons_self
      rw [about, List.filter_cons]
      split
      · next own =>
        cases event with
        | receive => exact later
        | _ => exact absurd (of_decide_eq_true own) (first trivial)
      · exact later

end ClientState

namespace Datagram

open ClientState (ofLink? Onward)

variable {source : SocketAddress} {before after : Roster} {events : List RawEvent}

theorem Applied.ofLink?_eq (sound : before.Sound) (applied : Applied source before events after)
    (peer : PeerHandle) :
    ofLink? (after.link? peer) =
      (about peer events).foldl ClientState.told (ofLink? (before.link? peer)) := by
  rcases applied.link?_cases sound peer with
    ⟨same, quiet⟩ | ⟨new, rfl, linked, connected, -⟩ | ⟨old, rfl, linked, unlinked⟩
  · rw [same, ClientState.foldl_told_of_quiet quiet]
  · rw [linked, about_singleton, RawEvent.peer, if_pos rfl]
    simp [ofLink?, connected, ClientState.told]
  · rw [unlinked, about_singleton, RawEvent.peer, if_pos rfl]
    rfl

/-- A link that is no more is not made again. -/
theorem Applied.onward (sound : before.Sound) (applied : Applied source before events after)
    {peer : PeerHandle} (taken : peer.number < before.nextPeer) :
    Onward (ofLink? (before.link? peer)) (ofLink? (after.link? peer)) := by
  rcases applied.link?_cases sound peer with
    ⟨same, -⟩ | ⟨new, -, linked, connected, -, fresh | ⟨old, was, waiting⟩⟩ |
      ⟨old, -, was, unlinked⟩
  · rw [same]
    exact .stays
  · rw [fresh] at taken
    exact absurd taken (Nat.lt_irrefl _)
  · rw [linked, was]
    simp only [ofLink?, connected, waiting]
    exact .accepted
  · rw [unlinked]
    exact .disconnected _

theorem Drained.ofLink?_eq (sound : before.Sound) (drained : Drained before events after)
    (peer : PeerHandle) :
    ofLink? (after.link? peer) =
      (about peer events).foldl ClientState.told (ofLink? (before.link? peer)) := by
  induction drained with
  | done => rfl
  | more applied rest ih =>
      rw [ih (sound.applied applied), applied.ofLink?_eq sound, about_append, List.foldl_append]

theorem Drained.onward (sound : before.Sound) (drained : Drained before events after)
    {peer : PeerHandle} (taken : peer.number < before.nextPeer) :
    Onward (ofLink? (before.link? peer)) (ofLink? (after.link? peer)) := by
  induction drained with
  | done => exact .stays
  | more applied rest ih =>
      have later := Nat.lt_of_lt_of_le taken applied.nextPeer_le
      exact (applied.onward sound taken).trans (ih (sound.applied applied) later)

/-- Every event of a batch is that of one datagram. -/
theorem Drained.split {earlier later : List RawEvent} {event : RawEvent}
    (drained : Drained before (earlier ++ event :: later) after) :
    ∃ source middle next, Drained before earlier middle ∧ Applied source middle [event] next ∧
      Drained next later after := by
  generalize whole : earlier ++ event :: later = events at drained
  induction drained generalizing earlier with
  | done => simp at whole
  | @more source before between after told events applied rest ih =>
      have single := applied.length_events_le
      match told, single with
      | [], _ =>
          obtain ⟨source, middle, next, first, second, third⟩ := ih whole
          exact ⟨source, middle, next, .more applied first, second, third⟩
      | [only], _ =>
          cases earlier with
          | nil =>
              cases whole
              exact ⟨source, before, between, .done, applied, rest⟩
          | cons head earlier =>
              cases whole
              obtain ⟨source, middle, next, first, second, third⟩ := ih rfl
              exact ⟨source, middle, next, .more applied first, second, third⟩

end Datagram

namespace Client

section

variable {π τ κ : Type} [Transport τ] [PacketType π]

/-- The callbacks that are set have been run with their part of what the client was told. -/
def Tells (told : List RawEvent) (before after : EventHandlers κ × List Notice) : Prop :=
  after = (before.1, before.2 ++
    (told.map RawEvent.notice).filter fun notice => before.1.contains notice.1)

theorem Tells.of_eq {before after : EventHandlers κ × List Notice} (same : after = before) :
    Tells [] before after := by
  simp [Tells, same]

theorem Tells.trans {earlier later : List RawEvent}
    {before middle after : EventHandlers κ × List Notice} (first : Tells earlier before middle)
    (second : Tells later middle after) : Tells (earlier ++ later) before after := by
  obtain rfl := first
  simpa [Tells, List.append_assoc] using second

theorem tells_handle {client : Client π τ κ} {event : RawEvent}
    (own : event.peer = client.server) :
    Tells [event] client.ledger (client.handle event).ledger := by
  have fired (kind : EventKind) (data : Bytes) (client : Client π τ κ) :
      (client.fire kind data).ledger = (client.handlers, client.notices ++
        [(kind, { peer := client.server, user := none, data })].filter fun notice =>
          client.handlers.contains notice.1) :=
    Prod.ext rfl (client.toNode.notices_fire kind _)
  unfold handle
  rw [if_pos own]
  cases event with
  | connect peer =>
      obtain rfl : peer = client.server := own
      exact fired .connect [] { client with state := .connected }
  | disconnect peer =>
      obtain rfl : peer = client.server := own
      exact fired .disconnect [] { client with state := .disconnected }
  | receive peer channel flags data =>
      obtain rfl : peer = client.server := own
      let context := (client.fire .message data).process client.server none data
      have delivered := Node.ignoresSending_ledger.clientDeliver context.1
        { client.fire .message data with toNode := context.2 }
      have processed := Node.ledger_process (client.fire .message data).toNode client.server none
        data
      exact (Prod.mk.inj delivered).2.trans (processed.trans (fired .message data client))

theorem tells_handleAll (events : List RawEvent) (client : Client π τ κ) :
    Tells (about client.server events) client.ledger (events.foldl handle client).ledger := by
  induction events generalizing client with
  | nil => exact .of_eq rfl
  | cons event rest ih =>
      have server : (client.handle event).server = client.server := server_handleAll [event] client
      have later := ih (client.handle event)
      rw [server] at later
      rw [about, List.filter_cons]
      split
      · next own => exact (tells_handle (of_decide_eq_true own)).trans later
      · next other =>
        rw [handle_of_other (by simpa using other)] at later
        rwa [List.foldl_cons, handle_of_other (by simpa using other)]

end

variable {π ν κ : Type} [Network ν]

theorem toNode_of_connect {node fresh : Node π (Station ν) κ} {client : Client π (Station ν) κ}
    (connected : Client.connect node = .ok client fresh) : client.toNode = fresh := by
  obtain ⟨_, _, -, connected⟩ := of_bind_eq_ok connected
  obtain ⟨_, _, -, connected⟩ := of_bind_eq_ok connected
  obtain ⟨_, _, -, connected⟩ := of_bind_eq_ok connected
  obtain ⟨_, _, -, connected⟩ := of_bind_eq_ok connected
  obtain ⟨_, _, -, connected⟩ := of_bind_eq_ok connected
  obtain ⟨_, _, read, made⟩ := of_bind_eq_ok connected
  cases read
  cases made
  rfl

theorem ledger_of_connect {node fresh : Node π (Station ν) κ} {client : Client π (Station ν) κ}
    (connected : Client.connect node = .ok client fresh) : client.ledger = node.ledger := by
  have checked : Keeps Node.ledger (Node.check : EStateM Error (Node π (Station ν) κ) Unit) := by
    intro node
    simp only [attempt, Node.check]
    cases node.config.validate <;> rfl
  have kept : Keeps Node.ledger
      (Client.connect : EStateM Error (Node π (Station ν) κ) (Client π (Station ν) κ)) :=
    checked.bind fun _ => (Node.keeps_ledger_call _).bind fun _ => Keeps.get.bind fun _ =>
      (Node.keeps_ledger_call _).bind fun _ => (Node.keeps_ledger_call _).bind fun _ =>
        Keeps.get.bind fun _ => Keeps.pure _
  rw [toNode_of_connect connected]
  exact kept.of_eq_ok connected

variable [PacketType π]

theorem tells_meet (client : Client π (Station ν) κ) (input : ClientInput π ν) :
    Tells (client.learns input) client.ledger (client.meet input).ledger := by
  cases input with
  | send packet =>
      exact .of_eq (Prod.mk.inj (Node.ignoresSending_ledger.clientSend packet client)).2
  | sendBytes data =>
      exact .of_eq (Prod.mk.inj (Node.ignoresSending_ledger.clientSendBytes data client)).2
  | disconnect =>
      exact .of_eq (Prod.mk.inj (keeps_disconnect Node.keeps_ledger_call client)).2
  | elsewhere network handles => exact .of_eq rfl
  | poll =>
      have kept := Node.keeps_ledger_poll client.toNode
      rw [meet, learns]
      cases polled : Node.poll client.toNode with
      | ok events node =>
          rw [attempt, polled] at kept
          rw [attempt_poll_of_receive polled]
          have told := tells_handleAll events { client with toNode := node }
          rwa [kept] at told
      | error error node =>
          rw [attempt, polled] at kept
          rw [attempt_poll_of_error polled]
          exact .of_eq kept

theorem tells_after (client : Client π (Station ν) κ) (history : List (ClientInput π ν)) :
    Tells (client.learned history) client.ledger (client.after history).ledger := by
  induction history generalizing client with
  | nil => exact .of_eq rfl
  | cons input rest ih => exact (client.tells_meet input).trans (ih (client.meet input))

/-- The state of a client is that of its link, and what it was told is all that has come of the
link. -/
structure AgreesWithLink (server : PeerHandle) (told : List RawEvent)
    (standing : ClientState × Roster) : Prop where
  sound : standing.2.Sound
  taken : server.number < standing.2.nextPeer
  state : standing.1 = .ofLink? (standing.2.link? server)
  reached : standing.2.Reached server told

namespace AgreesWithLink

section

variable {server : PeerHandle} {before last : ClientState × Roster} {told more : List RawEvent}

theorem faded (agrees : AgreesWithLink server told before) {roster : Roster} {state : ClientState}
    (sound : roster.Sound) (fades : before.2.Fades roster server)
    (same : state = .ofLink? (roster.link? server)) :
    AgreesWithLink server (told ++ []) (state, roster) where
  sound := sound
  taken := Nat.lt_of_lt_of_le agrees.taken fades.nextPeer_le
  state := same
  reached := (List.append_nil told).symm ▸ agrees.reached.fades agrees.sound fades

theorem turn (agrees : AgreesWithLink server told before) (turn : Turn server before more last) :
    AgreesWithLink server (told ++ more) last := by
  have sound := agrees.sound
  cases turn with
  | told drained =>
      exact {
        sound := sound.drained drained
        taken := Nat.lt_of_lt_of_le agrees.taken drained.nextPeer_le
        state := by
          rw [drained.ofLink?_eq sound, ← agrees.state]
        reached := agrees.reached.drained sound drained }
  | parted peers nobody =>
      refine agrees.faded (sound.moves (.foldl_remove _ peers)) ⟨?_, .inr (nobody server)⟩ ?_
      · rw [Roster.nextPeer_foldl_remove]
      · rw [nobody server]
        rfl
  | closed => exact agrees.faded (Roster.sound_none _) ⟨Nat.le_refl _, .inr rfl⟩ rfl
  | still handles =>
      exact agrees.faded (sound.moved (.elsewhere handles)) ⟨Nat.le_add_right _ _, .inl rfl⟩
        agrees.state

theorem onward (agrees : AgreesWithLink server told before) (turn : Turn server before more last) :
    ClientState.Onward before.1 last.1 := by
  cases turn with
  | told drained =>
      have onward := drained.onward agrees.sound agrees.taken
      rwa [drained.ofLink?_eq agrees.sound, ← agrees.state] at onward
  | parted | closed => exact .disconnected _
  | still => exact .stays

end

variable {π ν κ : Type} [Network ν] [PacketType π] {client : Client π (Station ν) κ}
  {told : List RawEvent}

theorem turn_of_answers {input : ClientInput π ν} (answers : client.Answers input) :
    Turn client.server client.standing (client.learns input) (client.meet input).standing :=
  (client.turn_or_lost input).resolve_right fun lost => lost.1 answers

theorem after (agrees : AgreesWithLink client.server told client.standing)
    {history : List (ClientInput π ν)}
    (answered : client.Answered history) :
    AgreesWithLink (client.after history).server (told ++ client.learned history)
      (client.after history).standing := by
  induction history generalizing client told with
  | nil => exact (List.append_nil told).symm ▸ agrees
  | cons input rest ih =>
      have next := agrees.turn (turn_of_answers answered.1)
      rw [← server_meet client input] at next
      rw [learned, ← List.append_assoc]
      exact ih next answered.2

omit [PacketType π] in
theorem of_connect {node fresh : Node π (Station ν) κ}
    (connected : Client.connect node = .ok client fresh) :
    AgreesWithLink client.server [] client.standing := by
  obtain ⟨socket, channels, next, link, server, waiting, standing⟩ :=
    standing_of_connect connected
  have linked : (Host.insert { role := .client, socket, channels, maxPeers := 1 } ⟨next⟩ link).link?
      ⟨next⟩ = some link := by
    rw [Host.link?_insert, if_pos rfl]
  rw [server, standing]
  refine ⟨?_, Nat.lt_succ_self next, ?_, .waiting linked waiting⟩
  · rw [Roster.sound_some]
    exact (Host.Sound.empty .client socket channels 1 next fun _ => rfl).insert link
  · rw [Roster.link?_some, linked]
    simp only [ClientState.ofLink?, waiting]

/-- Within a poll too, from one event to the next. -/
theorem onward_of_event (agrees : AgreesWithLink client.server told client.standing)
    {events earlier : List RawEvent} {event : RawEvent} {node : Node π (Station ν) κ}
    (polled : Node.poll client.toNode = .ok events node)
    (early : earlier ++ [event] <+: events) :
    let moment := earlier.foldl handle { client with toNode := node }
    ClientState.Onward moment.state (moment.handle event).state := by
  intro moment
  obtain ⟨later, rfl⟩ := early
  have drained := Node.drained_of_poll polled
  rw [List.append_assoc] at drained
  obtain ⟨source, middle, next, first, second, -⟩ := drained.split
  have sound := agrees.sound
  have onward := second.onward (sound.drained first)
    (Nat.lt_of_lt_of_le agrees.taken first.nextPeer_le)
  have server : moment.server = client.server := server_handleAll earlier _
  have before : moment.state = .ofLink? (middle.link? client.server) := by
    rw [first.ofLink?_eq sound, ← agrees.state]
    exact state_handleAll earlier _
  have after : (moment.handle event).state = .ofLink? (next.link? client.server) := by
    rw [second.ofLink?_eq (sound.drained first), ← before, ← server]
    exact state_handleAll [event] moment
  rwa [before, after]

end AgreesWithLink

variable {π ν κ : Type} [Network ν] [PacketType π]

/-- Whatever happens to a client, as long as its polls are answered while it has a host: its
callbacks tell of one course of its server; it is connected exactly if its link is; it sends nothing
unless it is connected; and from call to call, and from event to event, it only moves onward. -/
theorem lifecycle_of_history {node fresh : Node π (Station ν) κ} {start : Client π (Station ν) κ}
    (connected : Client.connect node = .ok start fresh) {history : List (ClientInput π ν)}
    (answered : start.Answered history) :
    let now := start.after history
    let told := start.learned history
    start.state = .connecting ∧ now.server = start.server ∧
      told.map RawEvent.kind ∈ RawEvent.courses.matches' ∧
      now.notices = node.notices ++
        (told.map RawEvent.notice).filter (fun notice => node.handlers.contains notice.1) ∧
      (now.isConnected = true ↔
        ∃ link, now.toNode.roster.link? now.server = some link ∧ link.state = .connected) ∧
      (now.isConnected = false →
        (∀ packet, send packet now = .error .notConnected now) ∧
          ∀ data, sendBytes data now = .error .notConnected now) ∧
      (∀ input, now.Answers input → ClientState.Onward now.state (now.meet input).state) ∧
      ∀ events taken, Node.poll now.toNode = .ok events taken →
        ∀ earlier event, earlier ++ [event] <+: events →
          let moment := earlier.foldl handle { now with toNode := taken }
          ClientState.Onward moment.state (moment.handle event).state := by
  intro now told
  have agrees : AgreesWithLink now.server told now.standing :=
    (AgreesWithLink.of_connect connected).after answered
  have tells : Tells told start.ledger now.ledger := start.tells_after history
  rw [ledger_of_connect connected] at tells
  obtain ⟨-, -, -, waiting, -⟩ := begun_of_connect connected
  refine ⟨waiting, start.server_after history, agrees.reached.course.mem_courses,
    congrArg Prod.snd tells, ?_, fun apart => ?_, fun input answers => ?_, ?_⟩
  · have state : now.state = .ofLink? (now.toNode.roster.link? now.server) := agrees.state
    rw [isConnected, decide_eq_true_iff, state, ClientState.ofLink?_eq_connected_iff]
  · have apart : now.state ≠ .connected := of_decide_eq_false apart
    exact ⟨send_of_not_connected apart, sendBytes_of_not_connected apart⟩
  · exact agrees.onward (AgreesWithLink.turn_of_answers answers)
  · intro events taken polled earlier event early
    exact agrees.onward_of_event polled early

/-- A client all of whose callbacks are set. -/
def eager : Node ChatPacket (Station Loopback) Unit where
  transport := { process := { network := {} } }
  config := { port := 9000 }
  handlers := { onConnect := some (), onDisconnect := some (), onMessage := some () }

/-- The server lets the client in and says something, all at once; then the client leaves. -/
def welcomed : List (ClientInput ChatPacket Loopback) :=
  let server : SocketAddress := { ip := .v4 0x7f000001, port := 9000 }
  let socket : SocketAddress := { SocketAddress.wildcard .v4 with port := 49152 }
  let arrived (frame : Frame) : Receipt := .datagram server frame.encode
  let queue : List Receipt := [arrived (.accept 1), arrived (.data 0 .reliable [1, 2])]
  [.elsewhere { queues := .ofList [(socket, queue)] } 0, .poll, .disconnect, .poll]

theorem lifecycle_of_history_welcomed :
    ∃ start fresh, Client.connect eager = .ok start fresh ∧ start.Answered welcomed ∧
      let now := start.after welcomed
      now.notices.map Prod.fst = [.connect, .message] ∧
      now.notices.map Prod.fst ∈ RawEvent.courses.matches' ∧
      now.state = .disconnected ∧ sendBytes [1] now = .error .notConnected now := by
  have ran : (match Client.connect eager with
      | .ok start _ => decide (start.Answered welcomed ∧
          (start.learned welcomed).map RawEvent.kind = [.connect, .message] ∧
          (start.after welcomed).notices.map Prod.fst = [.connect, .message] ∧
          (start.after welcomed).state = .disconnected)
      | .error _ _ => false) = true := by
    decide +kernel
  split at ran
  · next start fresh connected =>
    obtain ⟨answered, learned, notices, left⟩ := of_decide_eq_true ran
    obtain ⟨-, -, course, -, -, silent, -, -⟩ := lifecycle_of_history connected answered
    rw [learned] at course
    have apart : (start.after welcomed).isConnected = false := by
      rw [isConnected, left]
      rfl
    exact ⟨start, fresh, connected, answered, notices, notices.symm ▸ course, left,
      (silent apart).2 [1]⟩
  · cases ran

end Client

end Courier

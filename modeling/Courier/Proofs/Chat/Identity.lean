import Courier.Proofs.Advances
import Courier.Proofs.Chat.Responses
import Courier.Proofs.Server.Answers
import Courier.Transport.Scripted

namespace Courier

/-! In whose name a server answers. Whatever a peer sends, it is relayed under the id that the peer
holds, and nobody is welcomed but the peer itself. -/

namespace ChatPacket

theorem eq_of_wireForm {packet other : ChatPacket} {form : Bytes}
    (first : wireForm packet = .ok form) (second : wireForm other = .ok form) : packet = other := by
  have known (member : ChatPacket) (mem : member ∈ [packet, other]) :
      (registryOf [packet, other]).contains (PacketType.id member) :=
    (contains_registryOf _ _).mpr (List.mem_map_of_mem mem)
  have begins : (registryOf [packet, other]).Begins packet form form :=
    ⟨known packet (by simp), first, List.prefix_refl form⟩
  have others : (registryOf [packet, other]).Begins other form form :=
    ⟨known other (by simp), second, List.prefix_refl form⟩
  exact (begins.unique grammatical (catalog_registryOf _) others).1

end ChatPacket

/-- Bytes that are sent to a peer in answer to a message. A client reads a packet from them, and
nothing else. A chat line is relayed in the name of the user that has sent it, a welcome is the
origin's own, and who is no user gets no more than its pings back. -/
structure Attributed (origin : PeerHandle) (user : Option UserId) (message : Bytes)
    (recipient : PeerHandle) (form : Bytes) : Prop where
  readable : ∃ packet : ChatPacket, wireForm packet = .ok form ∧ packet.Readable
  relayed : ∀ sender text, wireForm (ChatPacket.chatRelay sender text) = .ok form →
    user = some sender ∧
      ∃ rest, decodePacket ChatPacket.serverRegistry (.ofBytes message) = .ok (.chat text) rest
  welcomed : ∀ guest, wireForm (ChatPacket.welcome guest) = .ok form →
    recipient = origin ∧ user = some guest ∧
      ∃ rest, decodePacket ChatPacket.serverRegistry (.ofBytes message) = .ok .hello rest
  strange : user = none →
    recipient = origin ∧ ∃ nonce, wireForm (ChatPacket.pong nonce) = .ok form

namespace Server

variable {τ κ : Type} {server : Server ChatPacket τ κ} {origin recipient : PeerHandle}
  {user : Option UserId} {message form : Bytes} {rest : Reader} {packet : ChatPacket}
  {outgoing : Outgoing ChatPacket}

theorem attributed_of_answer?
    (decoded : decodePacket ChatPacket.serverRegistry (.ofBytes message) = .ok packet rest)
    (answered : packet.answer? user = some outgoing)
    (written : wireForm outgoing.packet = .ok form)
    (mem : recipient ∈ server.recipients origin outgoing) :
    Attributed origin user message recipient form := by
  have fits := (ChatPacket.known_of_decodePacket
    (ChatPacket.catalog_registryOf ChatPacket.forServer) decoded).2
  have readable : ∃ packet : ChatPacket, wireForm packet = .ok form ∧ packet.Readable :=
    ⟨_, written, ChatPacket.readable_of_answer? fits answered⟩
  cases packet with
  | hello =>
      obtain ⟨user, rfl, rfl⟩ := Option.map_eq_some_iff.mp answered
      obtain rfl := List.mem_singleton.mp mem
      refine ⟨readable, fun sender text other => ?_, fun guest other => ?_, nofun⟩
      · cases ChatPacket.eq_of_wireForm written other
      · cases ChatPacket.eq_of_wireForm written other
        exact ⟨rfl, rfl, rest, decoded⟩
  | ping nonce =>
      cases answered
      obtain rfl := List.mem_singleton.mp mem
      refine ⟨readable, fun sender text other => ?_, fun guest other => ?_,
        fun _ => ⟨rfl, nonce, written⟩⟩
      · cases ChatPacket.eq_of_wireForm written other
      · cases ChatPacket.eq_of_wireForm written other
  | chat text =>
      obtain ⟨user, rfl, rfl⟩ := Option.map_eq_some_iff.mp answered
      refine ⟨readable, fun sender text other => ?_, fun guest other => ?_, nofun⟩
      · cases ChatPacket.eq_of_wireForm written other
        exact ⟨rfl, rest, decoded⟩
      · cases ChatPacket.eq_of_wireForm written other
  | welcome | pong | chatRelay => cases answered

variable [Transport τ]

theorem attributed_of_message (registered : server.registry = ChatPacket.serverRegistry)
    (origin : PeerHandle) (message : Bytes) :
    ∃ sends : List (PeerHandle × Bytes),
      (server.message origin message).calls =
          server.calls ++ sends.map (fun send => Node.sendOf server.config send.2 send.1) ∧
        ∀ recipient form, (recipient, form) ∈ sends →
          Attributed origin (server.users.user? origin) message recipient form := by
  have nothing {answers : List TransportCall} (none : answers = []) :
      ∃ sends : List (PeerHandle × Bytes),
        server.calls ++ answers =
            server.calls ++ sends.map (fun send => Node.sendOf server.config send.2 send.1) ∧
          ∀ recipient form, (recipient, form) ∈ sends →
            Attributed origin (server.users.user? origin) message recipient form :=
    ⟨[], by rw [none]; rfl, by simp⟩
  rw [calls_message, registered, ChatPacket.outbox_handleMessage]
  split
  · next packet rest decoded =>
    cases answered : packet.answer? (server.users.user? origin) with
    | none => exact nothing rfl
    | some outgoing =>
        rw [Option.toList_some, List.flatMap_singleton, sendsOf]
        cases written : wireForm outgoing.packet with
        | error error => exact nothing rfl
        | ok form =>
            refine ⟨(server.recipients origin outgoing).map (·, form), ?_, ?_⟩
            · rw [List.map_map]
              rfl
            · intro recipient other sent
              obtain ⟨there, mem, same⟩ := List.mem_map.mp sent
              cases same
              exact attributed_of_answer? decoded answered written mem
  · exact nothing rfl

/-- Whatever a server has been through, and whatever it is sent: what it sends in answer to a
message is in the name of the user that the origin is at that moment. -/
theorem attributed_of_advances {node fresh : Node ChatPacket τ κ}
    {built now : Server ChatPacket τ κ} (started : build node = .ok built fresh)
    (registered : node.registry = ChatPacket.serverRegistry) (advances : Advances built now)
    (origin : PeerHandle) (channel : UInt8) (flags : SendFlags) (message : Bytes) :
    ∃ sends : List (PeerHandle × Bytes),
      (now.handle (.receive origin channel flags message)).calls =
          now.calls ++ sends.map (fun send => Node.sendOf node.config send.2 send.1) ∧
        ∀ recipient form, (recipient, form) ∈ sends →
          Attributed origin (now.users.user? origin) message recipient form := by
  obtain ⟨-, config, registry, -⟩ := begun_of_build started
  obtain ⟨sameConfig, sameRegistry⟩ := settings_of_advances advances
  rw [← config, ← sameConfig]
  exact attributed_of_message (sameRegistry.trans (registry.trans registered)) origin message

def hall : Node ChatPacket Scripted Unit :=
  { transport := {}, config := { maxUsers := 2 }, registry := ChatPacket.serverRegistry }

def openHall : Node ChatPacket Scripted Unit :=
  { hall with acts := [.called .start, .called (.createServer "127.0.0.1" 8080 1 32)] }

def joined : Server ChatPacket Scripted Unit :=
  (ofNode openHall).handle (.connect ⟨5⟩)

theorem attributed_of_advances_joined :
    build hall = .ok (ofNode openHall) openHall ∧ Advances (ofNode openHall) joined ∧
      ∃ sends : List (PeerHandle × Bytes),
        sends.length = 1 ∧ ∀ recipient form, (recipient, form) ∈ sends → ∀ sender text,
          wireForm (ChatPacket.chatRelay sender text) = .ok form → sender = ⟨0⟩ := by
  have started : build hall = .ok (ofNode openHall) openHall := rfl
  have advances : Advances (ofNode openHall) joined := .single (.strode (.handled _))
  have users : joined.users = (UserTable.ofSize 2).seat ⟨0⟩ ⟨5⟩ := by
    have seated := acquire_of_build started (by decide) ⟨5⟩
    change (join _ _).users = _
    simp only [join, seated]
    rfl
  have held : joined.users.user? ⟨5⟩ = some ⟨0⟩ := by
    rw [users, UserTable.user?_seat, if_pos rfl]
  obtain ⟨sends, calls, attributed⟩ :=
    attributed_of_advances started rfl advances ⟨5⟩ 0 .none ChatPacket.chatLine
  refine ⟨started, advances, sends, ?_, ?_⟩
  · have queued : (handleMessage ChatPacket.serverRegistry ⟨5⟩ (some ⟨0⟩)
        ChatPacket.chatLine).outbox = [.broadcast (.chatRelay ⟨0⟩ "hi")] := rfl
    have single : joined.activePeers = [⟨5⟩] := by
      rw [activePeers, users]
      rfl
    change (joined.message _ _).calls = _ at calls
    rw [calls_message, held, (settings_of_advances advances).2] at calls
    have sent := List.append_cancel_left calls
    change (List.flatMap _ (handleMessage ChatPacket.serverRegistry _ _ _).outbox) = _ at sent
    rw [queued, List.flatMap_singleton, sendsOf] at sent
    change (joined.activePeers.map _) = _ at sent
    rw [single] at sent
    exact (List.length_map _).symm.trans (congrArg List.length sent).symm
  · intro recipient form mem sender text written
    have named := ((attributed recipient form mem).relayed sender text written).1
    rw [held] at named
    cases named
    rfl

end Server

end Courier

import Courier.Datagram.Frame
import Courier.Proofs.Packet.Catalog
import Courier.Proofs.Server.Tables

namespace Courier

/-! A relay tells everyone what one user has said. It is known by its packet, and by the bytes that
are sent for it. -/

abbrev Relay : Type := UserId × String

/-- The line that is printed for it. -/
def shown (relay : Relay) : String :=
  s!"[{relay.1}] {relay.2}"

/-- The relay that a line is printed for. The first bracket that closes ends the user, since there
is none among the digits. -/
def relayOf? (line : String) : Option Relay :=
  match line.toList with
  | '[' :: 'U' :: '-' :: letters =>
    match letters.dropWhile Char.isDigit with
    | ']' :: ' ' :: text =>
      some (.ofIndex (Nat.ofDigitChars 10 (letters.takeWhile Char.isDigit) 0), .ofList text)
    | _ => none
  | _ => none

theorem relayOf?_shown (relay : Relay) : relayOf? (shown relay) = some relay := by
  obtain ⟨user, text⟩ := relay
  have digits : ∀ c ∈ Nat.toDigits 10 user.index, c.isDigit := fun _ mem =>
    Nat.isDigit_of_mem_toDigits (by decide) (by decide) mem
  have letters : (shown (user, text)).toList =
      '[' :: 'U' :: '-' :: (Nat.toDigits 10 user.index ++ ']' :: ' ' :: text.toList) := by
    simp [shown, toString, UserId.index]
  rw [relayOf?, letters]
  simp only [List.dropWhile_append_of_pos digits, List.takeWhile_append_of_pos digits]
  simp [Nat.ofDigitChars_toDigits]

/-- The other lines that a client prints begin with a star. -/
theorem relayOf?_of_star {front : String} (star : front.toList.head? = some '*') (rest : String) :
    relayOf? (front ++ rest) = none := by
  obtain ⟨letters, front⟩ := List.head?_eq_some_iff.mp star
  rw [relayOf?, String.toList_append, front]
  rfl

namespace ChatPacket

def relay? : ChatPacket → Option Relay
  | .chatRelay sender text => some (sender, text)
  | _ => none

def relayIn? (registry : PacketRegistry ChatPacket) (message : Bytes) : Option Relay :=
  match decodePacket registry (.ofBytes message) with
  | .ok packet _ => packet.relay?
  | .error _ _ => none

/-- A relay whose text is too long is sent to nobody. -/
def sendable? (packet : ChatPacket) : Option Relay :=
  match wireForm packet with
  | .ok _ => packet.relay?
  | .error _ => none

theorem sendable?_of_wireForm {packet : ChatPacket} {form : Bytes}
    (written : wireForm packet = .ok form) : packet.sendable? = packet.relay? := by
  rw [sendable?, written]

theorem sendable?_of_error {packet : ChatPacket} {error : ProtocolError}
    (failed : wireForm packet = .error error) : packet.sendable? = none := by
  rw [sendable?, failed]

theorem sendable?_of_relay?_eq_none {packet : ChatPacket} (other : packet.relay? = none) :
    packet.sendable? = none := by
  rw [sendable?, other]
  split <;> rfl

/-- What a client reads is what was written, as far as it is a relay. -/
theorem relayIn?_of_wireForm {packet : ChatPacket} {form : Bytes}
    (written : wireForm packet = .ok form) : relayIn? clientRegistry form = packet.relay? := by
  have catalog : clientRegistry.Catalog := catalog_registryOf forClient
  have accepts := decodePacket_eq_ok_iff grammatical catalog (.ofBytes form)
  rw [relayIn?]
  cases decoded : decodePacket clientRegistry (.ofBytes form) with
  | ok other after =>
      obtain ⟨otherForm, begins, -⟩ := (accepts after other).mp decoded
      obtain ⟨fields, -, tagged⟩ := (wireForm_eq_ok_iff grammatical _ _).mp written
      obtain ⟨otherFields, -, rfl⟩ := (wireForm_eq_ok_iff grammatical _ _).mp begins.2.1
      have front : (PacketType.id other).byte :: otherFields <+: form := begins.2.2
      have same : PacketType.id other = PacketType.id packet := by
        rw [← tagged, List.cons_prefix_cons] at front
        exact congrArg PacketId.mk front.1
      have own : clientRegistry.Begins packet form form :=
        ⟨same ▸ begins.1, written, List.prefix_refl form⟩
      rw [(begins.unique grammatical catalog own).1]
  | error error after =>
      cases packet with
      | chatRelay sender text =>
          have registered : clientRegistry.contains ⟨0x21⟩ := by decide +kernel
          have begins : clientRegistry.Begins (chatRelay sender text) form form :=
            ⟨registered, written, List.prefix_refl form⟩
          have read := (accepts _ _).mpr ⟨form, begins, rfl⟩
          rw [decoded] at read
          cases read
      | _ => rfl

theorem length_le_of_wireForm {packet : ChatPacket} {form : Bytes}
    (written : wireForm packet = .ok form) : form.length ≤ Datagram.maxPayload := by
  have bound : 1 + (2 + (8 + maxTextLength)) ≤ Datagram.maxPayload := by decide
  obtain ⟨fields, writes, rfl⟩ := (wireForm_eq_ok_iff grammatical _ _).mp written
  obtain ⟨fits, rfl⟩ := (writes_iff packet fields).mp writes
  have prefixed (text : String) (short : text.utf8ByteSize ≤ maxTextLength) :
      (Writer.lengthPrefixed (Bytes.ofText text)).length ≤ 8 + maxTextLength := by
    rw [Writer.lengthPrefixed, List.length_append, LittleEndian.length_encode,
      Bytes.length_ofText]
    omega
  have sized (type : FixedType) (value : type.Value) := FixedType.length_encode type value
  rw [List.length_cons]
  cases packet with
  | hello => exact Nat.le_trans (by decide) bound
  | welcome user =>
      rw [fields, sized .userId user]
      exact Nat.le_trans (by decide) bound
  | ping nonce =>
      rw [fields, sized (.number .u64) nonce.toBitVec]
      exact Nat.le_trans (by decide) bound
  | pong nonce =>
      rw [fields, sized (.number .u64) nonce.toBitVec]
      exact Nat.le_trans (by decide) bound
  | chat text =>
      have short := prefixed text fits
      rw [fields]
      omega
  | chatRelay sender text =>
      have short := prefixed text fits
      have width : FixedType.size .userId = 2 := rfl
      rw [fields, List.length_append, sized .userId sender, width]
      omega

variable {registry : PacketRegistry ChatPacket} {peer : PeerHandle} {user : Option UserId}
  {message : Bytes}

/-- Of all packets, only a relay is printed as one. -/
theorem relays_process (packet : ChatPacket) (context : PacketContext ChatPacket) :
    (packet.process context).2.printed.filterMap relayOf? =
      context.printed.filterMap relayOf? ++ packet.relay?.toList := by
  obtain ⟨peer, user, outbox, printed⟩ := context
  have unseen := (List.append_nil (printed.filterMap relayOf?)).symm
  have printing {line : String} {relay : Option Relay} (reads : relayOf? line = relay) :
      (printed ++ [line]).filterMap relayOf? = printed.filterMap relayOf? ++ relay.toList := by
    rw [List.filterMap_append, ← reads, List.filterMap_cons]
    cases relayOf? line <;> rfl
  cases packet with
  | hello => cases user <;> exact unseen
  | ping nonce => exact unseen
  | chat text => cases user <;> exact unseen
  | welcome user => exact printing (relayOf?_of_star rfl (toString user))
  | pong nonce => exact printing (relayOf?_of_star rfl (toString nonce))
  | chatRelay sender text => exact printing (relayOf?_shown (sender, text))

theorem relays_handleMessage (registry : PacketRegistry ChatPacket) (peer : PeerHandle)
    (user : Option UserId) (message : Bytes) :
    (handleMessage registry peer user message).printed.filterMap relayOf? =
      (relayIn? registry message).toList := by
  rw [handleMessage_eq, relayIn?]
  cases decodePacket registry (.ofBytes message) with
  | ok packet rest => exact relays_process packet { peer, user }
  | error error rest => rfl

/-- Only a ping is answered to everyone who sends it. A greeting and a chat line need a user id. -/
def answer? (user : Option UserId) : ChatPacket → Option (Outgoing ChatPacket)
  | .hello => user.map fun user => .reply (.welcome user)
  | .ping nonce => some (.reply (.pong nonce))
  | .chat text => user.map fun user => .broadcast (.chatRelay user text)
  | .welcome _ | .pong _ | .chatRelay .. => none

theorem outbox_process (packet : ChatPacket) (context : PacketContext ChatPacket) :
    (packet.process context).2.outbox =
      context.outbox ++ (packet.answer? context.user).toList := by
  obtain ⟨peer, user, outbox, printed⟩ := context
  have unanswered := (List.append_nil outbox).symm
  cases packet with
  | hello =>
      cases user with
      | none => exact unanswered
      | some user => rfl
  | ping nonce => rfl
  | chat text =>
      cases user with
      | none => exact unanswered
      | some user => rfl
  | welcome | pong | chatRelay => exact unanswered

/-- What a message is answered with is known from the packet that it is read as. -/
theorem outbox_handleMessage (registry : PacketRegistry ChatPacket) (peer : PeerHandle)
    (user : Option UserId) (message : Bytes) :
    (handleMessage registry peer user message).outbox =
      match decodePacket registry (.ofBytes message) with
      | .ok packet _ => (packet.answer? user).toList
      | .error _ _ => [] := by
  rw [handleMessage_eq]
  cases decodePacket registry (.ofBytes message) with
  | ok packet rest => exact outbox_process packet { peer, user }
  | error error rest => rfl

/-- Nobody is answered with a relay. -/
theorem relay?_of_reply {packet : ChatPacket}
    (queued : .reply packet ∈ (handleMessage registry peer user message).outbox) :
    packet.relay? = none := by
  rw [outbox_handleMessage] at queued
  split at queued
  · next received rest decoded =>
    have answered := Option.mem_toList.mp queued
    cases received with
    | hello =>
        obtain ⟨user, -, ⟨⟩⟩ := Option.map_eq_some_iff.mp answered
        rfl
    | ping nonce =>
        cases answered
        rfl
    | chat text => obtain ⟨user, -, ⟨⟩⟩ := Option.map_eq_some_iff.mp answered
    | welcome | pong | chatRelay => cases answered
  · cases queued

end ChatPacket

namespace Datagram

def Frame.relay? : Frame → Option Relay
  | .data _ _ payload => ChatPacket.relayIn? ChatPacket.clientRegistry payload
  | _ => none

def relaysIn (frames : List Frame) : List Relay :=
  frames.filterMap Frame.relay?

@[simp] theorem relaysIn_append (earlier later : List Frame) :
    relaysIn (earlier ++ later) = relaysIn earlier ++ relaysIn later :=
  List.filterMap_append

theorem relaysIn_data {packet : ChatPacket} {form : Bytes} (written : wireForm packet = .ok form)
    (channel : UInt8) (flags : SendFlags) :
    relaysIn [.data channel flags form] = packet.relay?.toList := by
  rw [relaysIn, ← ChatPacket.relayIn?_of_wireForm written, List.filterMap_cons, Frame.relay?]
  cases ChatPacket.relayIn? ChatPacket.clientRegistry form <;> rfl

end Datagram

end Courier

import Courier.Catalog
import Courier.Proofs.Packet.Grammar

namespace Courier

theorem Parses.lift {read : EStateM StreamError Reader α} {form : α → Bytes → Prop}
    (parses : Parses read form) :
    Parses (liftM read : EStateM ProtocolError Reader α) form :=
  parses.adaptExcept ProtocolError.stream

theorem Bytes.length_ofText (text : String) : (Bytes.ofText text).length = text.utf8ByteSize := by
  rfl

theorem PacketRegistry.contains_registerFirst {π : Type} (registry : PacketRegistry π)
    (entry : PacketId × π) (id : PacketId) :
    (registry.registerFirst entry).contains id ↔ registry.contains id ∨ entry.1 = id := by
  unfold registerFirst
  split
  · next extended registered =>
    rw [contains_eq_isSome, contains_eq_isSome, create?_of_register registered]
    by_cases same : entry.1 = id <;> simp [same]
  · next error refused =>
    rw [register] at refused
    split at refused
    · next held =>
      refine ⟨.inl, ?_⟩
      rintro (known | rfl)
      · exact known
      · exact held
    · cases refused

namespace ChatPacket

/-- A text that is carried is not too long. -/
def Fits : ChatPacket → Prop
  | .chat text | .chatRelay _ text => text.utf8ByteSize ≤ maxTextLength
  | _ => True

def fields : ChatPacket → Bytes
  | .hello => []
  | .welcome user => FixedType.encode .userId user
  | .ping nonce | .pong nonce => FixedType.encode (.number .u64) nonce.toBitVec
  | .chat text => Writer.lengthPrefixed (Bytes.ofText text)
  | .chatRelay sender text =>
    FixedType.encode .userId sender ++ Writer.lengthPrefixed (Bytes.ofText text)

theorem checkText_of_le {m : Type → Type} [Monad m] [MonadExcept ProtocolError m] {text : String}
    (short : text.utf8ByteSize ≤ maxTextLength) : (checkText text : m Unit) = pure () :=
  if_pos short

theorem checkText_of_not_le (m : Type → Type) [Monad m] [MonadExcept ProtocolError m]
    {text : String} (long : ¬ text.utf8ByteSize ≤ maxTextLength) :
    ∃ reason, (checkText text : m Unit) = throw (.invalidMessage reason) :=
  ⟨_, if_neg long⟩

theorem serialize_of_fits {packet : ChatPacket} (fits : packet.Fits) (writer : Writer) :
    packet.serialize writer = .ok () (writer.append packet.fields) := by
  cases packet with
  | hello =>
      rw [fields, Writer.append, List.append_nil]
      rfl
  | welcome user => rfl
  | ping nonce => rfl
  | pong nonce => rfl
  | chat text =>
      rw [serialize, checkText_of_le fits]
      rfl
  | chatRelay sender text =>
      rw [serialize, checkText_of_le fits, fields, Writer.append, ← List.append_assoc]
      rfl

theorem short_of_checkText {text : String} {next : Unit → EStateM ProtocolError Writer Unit}
    {writer written : Writer} (ran : (checkText text >>= next) writer = .ok () written) :
    text.utf8ByteSize ≤ maxTextLength := by
  by_cases short : text.utf8ByteSize ≤ maxTextLength
  · exact short
  · obtain ⟨reason, refused⟩ := checkText_of_not_le (EStateM ProtocolError Writer) short
    rw [refused] at ran
    cases ran

theorem fits_of_serialize {packet : ChatPacket} {writer written : Writer}
    (serialized : packet.serialize writer = .ok () written) : packet.Fits := by
  cases packet with
  | chat text => exact short_of_checkText serialized
  | chatRelay sender text => exact short_of_checkText serialized
  | _ => trivial

theorem writes_iff (packet : ChatPacket) (bytes : Bytes) :
    Writes packet bytes ↔ packet.Fits ∧ packet.fields = bytes := by
  constructor
  · intro writes
    have fits := fits_of_serialize (writes {})
    have same : Writes packet packet.fields := serialize_of_fits fits
    exact ⟨fits, same.bytes_eq writes⟩
  · rintro ⟨fits, rfl⟩
    exact serialize_of_fits fits

theorem parses_checkText (text : String) :
    Parses (checkText text : EStateM ProtocolError Reader Unit) fun _ bytes =>
      text.utf8ByteSize ≤ maxTextLength ∧ bytes = [] := by
  by_cases short : text.utf8ByteSize ≤ maxTextLength
  · rw [checkText_of_le short]
    exact (Parses.pure ()).congr fun _ bytes => by simp [short]
  · obtain ⟨reason, refused⟩ := checkText_of_not_le (EStateM ProtocolError Reader) short
    rw [refused]
    exact (Parses.throw _).congr fun _ bytes => by simp [short]

theorem parses_readChatText :
    Parses readChatText fun text bytes =>
      text.utf8ByteSize ≤ maxTextLength ∧ Writer.lengthPrefixed (Bytes.ofText text) = bytes := by
  have parses := Reader.parses_readText.lift.bind fun text =>
    (parses_checkText text).bind fun _ => Parses.pure text
  apply parses.congr
  intro text bytes
  constructor
  · rintro ⟨_, _, _, ⟨-, rfl⟩, ⟨_, _, _, ⟨short, rfl⟩, ⟨rfl, rfl⟩, rfl⟩, rfl⟩
    exact ⟨short, by simp⟩
  · rintro ⟨short, rfl⟩
    have bound : (Bytes.ofText text).length < UInt64.size := by
      rw [Bytes.length_ofText]
      exact Nat.lt_of_le_of_lt short (by decide)
    exact ⟨text, _, [], ⟨bound, rfl⟩, ⟨(), [], [], ⟨short, rfl⟩, ⟨rfl, rfl⟩, rfl⟩, by simp⟩

theorem parses_readNonce :
    Parses readNonce fun nonce bytes => FixedType.encode (.number .u64) nonce.toBitVec = bytes := by
  apply ((Reader.parses_read (.number .u64)).lift.map UInt64.ofBitVec).congr
  intro nonce bytes
  constructor
  · rintro ⟨bits, written, rfl⟩
    exact written
  · intro written
    exact ⟨nonce.toBitVec, written, rfl⟩

theorem parses_deserialize (prototype : ChatPacket) :
    Parses prototype.deserialize fun packet bytes =>
      packet.id = prototype.id ∧ Writes packet bytes := by
  cases prototype with
  | hello =>
      apply (Parses.pure ChatPacket.hello).congr
      intro packet bytes
      rw [writes_iff]
      cases packet <;> simp [id, Fits, fields, eq_comm]
  | welcome user =>
      apply ((Reader.parses_read .userId).lift.map ChatPacket.welcome).congr
      intro packet bytes
      rw [writes_iff]
      cases packet <;> simp [id, Fits, fields]
  | ping nonce =>
      apply (parses_readNonce.map ChatPacket.ping).congr
      intro packet bytes
      rw [writes_iff]
      cases packet <;> simp [id, Fits, fields]
  | pong nonce =>
      apply (parses_readNonce.map ChatPacket.pong).congr
      intro packet bytes
      rw [writes_iff]
      cases packet <;> simp [id, Fits, fields]
  | chat text =>
      apply (parses_readChatText.map ChatPacket.chat).congr
      intro packet bytes
      rw [writes_iff]
      cases packet <;> simp [id, Fits, fields]
  | chatRelay sender text =>
      apply ((Reader.parses_read .userId).lift.bind fun sender =>
        parses_readChatText.map (ChatPacket.chatRelay sender)).congr
      intro packet bytes
      rw [writes_iff]
      constructor
      · rintro ⟨sender, _, _, rfl, ⟨text, ⟨short, rfl⟩, rfl⟩, rfl⟩
        exact ⟨rfl, short, rfl⟩
      · rintro ⟨same, short, rfl⟩
        cases packet with
        | chatRelay sender text => exact ⟨sender, _, _, rfl, ⟨text, ⟨short, rfl⟩, rfl⟩, rfl⟩
        | _ => simp [id] at same

theorem grammatical : Grammatical ChatPacket where
  writes serialized := ⟨_, (writes_iff _ _).mpr ⟨fits_of_serialize serialized, rfl⟩⟩
  reads := parses_deserialize

theorem catalog_registryOf (packets : List ChatPacket) : (registryOf packets).Catalog := by
  have extended (registry : PacketRegistry ChatPacket) (catalog : registry.Catalog) :
      ((packets.map fun packet => (packet.id, packet)).foldl PacketRegistry.registerFirst
        registry).Catalog := by
    induction packets generalizing registry with
    | nil => exact catalog
    | cons packet rest ih => exact ih _ (catalog.registerFirst packet)
  exact extended .empty .empty

theorem contains_registryOf (packets : List ChatPacket) (id : PacketId) :
    (registryOf packets).contains id ↔ id ∈ packets.map ChatPacket.id := by
  have extended (registry : PacketRegistry ChatPacket) :
      ((packets.map fun packet => (packet.id, packet)).foldl PacketRegistry.registerFirst
          registry).contains id ↔
        registry.contains id ∨ id ∈ packets.map ChatPacket.id := by
    induction packets generalizing registry with
    | nil => simp
    | cons packet rest ih =>
        rw [List.map_cons, List.foldl_cons, ih, PacketRegistry.contains_registerFirst,
          List.map_cons, List.mem_cons, or_assoc, eq_comm (a := id)]
  rw [registryOf, PacketRegistry.ofList, extended, PacketRegistry.contains_eq_isSome,
    PacketRegistry.create?_empty]
  simp

/-- A packet is decoded exactly where its form stands in front, and it is the only one there. Where
none stands, it is told why. -/
theorem decodePacket_iff_begins {registry : PacketRegistry ChatPacket}
    (catalog : registry.Catalog) (reader : Reader) :
    (∀ packet after, decodePacket registry reader = .ok packet after ↔
        ∃ form, registry.Begins packet form reader.rest ∧ reader.advance form.length = after) ∧
      (∀ first second firstForm secondForm, registry.Begins first firstForm reader.rest →
        registry.Begins second secondForm reader.rest → first = second) ∧
      ((∀ packet form, ¬ registry.Begins packet form reader.rest) →
        ∃ error after, decodePacket registry reader = .error error after ∧
          match reader.rest with
          | [] => error = .stream (.outOfBounds reader.position 1 0)
          | byte :: _ =>
            if registry.contains ⟨byte⟩ then ∃ reason, error = .malformed ⟨byte⟩ reason
            else error = .unknownPacket ⟨byte⟩) := by
  have accepts := decodePacket_eq_ok_iff grammatical catalog reader
  refine ⟨fun packet after => accepts after packet, ?_, ?_⟩
  · intro first second firstForm secondForm one other
    exact (one.unique grammatical catalog other).1
  · intro nothing
    cases decoded : decodePacket registry reader with
    | ok packet after =>
        obtain ⟨form, begins, -⟩ := (accepts after packet).mp decoded
        exact absurd begins (nothing packet form)
    | error error after => exact ⟨error, after, rfl, decodePacket_error decoded⟩

theorem decodePacket_iff_begins_ping :
    serverRegistry.Catalog ∧
      decodePacket serverRegistry (.ofBytes [0x10, 7, 0, 0, 0, 0, 0, 0, 0, 0xff]) =
        .ok (.ping 7) { bytes := [0x10, 7, 0, 0, 0, 0, 0, 0, 0, 0xff], position := 9 } := by
  have catalog : serverRegistry.Catalog := catalog_registryOf forServer
  refine ⟨catalog, ((decodePacket_iff_begins catalog _).1 _ _).mpr
    ⟨[0x10, 7, 0, 0, 0, 0, 0, 0, 0], ⟨by decide +kernel, rfl, ?_⟩, rfl⟩⟩
  exact ⟨[0xff], rfl⟩

end ChatPacket

end Courier

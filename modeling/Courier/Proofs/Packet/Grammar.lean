import Courier.Packet.Dispatch
import Courier.Proofs.Stream.Parses

namespace Courier

variable {π : Type} [PacketType π]

/-! The grammar of a family of packets. The id byte decides what the fields are read by, and
whether anything has been read before does not matter to a writer. -/

/-- The fields of a packet are written as these bytes, whatever is written before them. -/
def Writes (packet : π) (bytes : Bytes) : Prop :=
  ∀ writer, PacketType.serialize packet writer = .ok () (writer.append bytes)

/-- Packets that are read back by what their ids stand for, from what they are written as. -/
structure Grammatical (π : Type) [PacketType π] : Prop where
  writes : ∀ {packet : π} {writer written : Writer},
    PacketType.serialize packet writer = .ok () written → ∃ bytes, Writes packet bytes
  reads : ∀ prototype : π, Parses (PacketType.deserialize prototype) fun packet bytes =>
    PacketType.id packet = PacketType.id prototype ∧ Writes packet bytes

theorem Writes.bytes_eq {packet : π} {first second : Bytes} (one : Writes packet first)
    (other : Writes packet second) : first = second := by
  have same := (one {}).symm.trans (other {})
  injection same with _ written
  exact congrArg Writer.bytes written

theorem encodePacket_eq_ok_iff (family : Grammatical π) (packet : π) (writer written : Writer) :
    encodePacket packet writer = .ok () written ↔
      ∃ fields, Writes packet fields ∧
        writer.append ((PacketType.id packet).byte :: fields) = written := by
  have tagged (fields : Bytes) :
      (writer.write .packetId (PacketType.id packet)).append fields =
        writer.append ((PacketType.id packet).byte :: fields) := by
    simp [Writer.append, FixedType.encode]
  rw [encodePacket]
  constructor
  · intro ran
    split at ran
    · next after serialized =>
      cases ran
      obtain ⟨fields, writes⟩ := family.writes serialized
      rw [writes] at serialized
      cases serialized
      exact ⟨fields, writes, (tagged fields).symm⟩
    · cases ran
  · rintro ⟨fields, writes, rfl⟩
    simp only [writes _, tagged]

theorem wireForm_eq_ok_iff (family : Grammatical π) (packet : π) (form : Bytes) :
    wireForm packet = .ok form ↔
      ∃ fields, Writes packet fields ∧ (PacketType.id packet).byte :: fields = form := by
  have encoded := encodePacket_eq_ok_iff family packet {}
  rw [wireForm]
  constructor
  · intro ran
    split at ran
    · next written serialized =>
      cases ran
      obtain ⟨fields, writes, rfl⟩ := (encoded written).mp serialized
      exact ⟨fields, writes, rfl⟩
    · cases ran
  · rintro ⟨fields, writes, rfl⟩
    simp only [(encoded _).mpr ⟨fields, writes, rfl⟩]
    rfl

theorem Reader.read_packetId (reader : Reader) :
    Reader.read .packetId reader =
      match reader.rest with
      | [] => .error (.outOfBounds reader.position 1 0) reader
      | byte :: _ => .ok ⟨byte⟩ (reader.advance 1) := by
  cases standing : reader.rest with
  | nil =>
      have empty : reader.remaining = 0 := by rw [← length_rest, standing, List.length_nil]
      simp [Reader.read, FixedType.size, peek, empty]
  | cons byte tail =>
      have begins : [byte] <+: reader.rest := by
        rw [standing]
        exact List.prefix_append [byte] tail
      exact (parses_read .packetId reader ⟨byte⟩ _).mpr ⟨[byte], rfl, begins, rfl⟩

theorem decodePacket_eq (registry : PacketRegistry π) (reader : Reader) :
    decodePacket registry reader =
      match reader.rest with
      | [] => .error (.stream (.outOfBounds reader.position 1 0)) reader
      | byte :: _ =>
        match registry.create? ⟨byte⟩ with
        | none => .error (.unknownPacket ⟨byte⟩) (reader.advance 1)
        | some prototype => readFields ⟨byte⟩ prototype (reader.advance 1) := by
  have tag : (liftM (Reader.read .packetId) : EStateM ProtocolError Reader PacketId) reader =
      match reader.rest with
      | [] => .error (.stream (.outOfBounds reader.position 1 0)) reader
      | byte :: _ => .ok ⟨byte⟩ (reader.advance 1) := by
    change (Reader.read .packetId).adaptExcept ProtocolError.stream reader = _
    rw [EStateM.adaptExcept, Reader.read_packetId]
    cases reader.rest <;> rfl
  simp only [decodePacket, decodeTagged, Bind.bind, EStateM.bind, tag]
  cases reader.rest with
  | nil => rfl
  | cons byte tail =>
      dsimp only
      cases registry.create? ⟨byte⟩ with
      | none => rfl
      | some prototype =>
          dsimp only [EStateM.bind]
          cases readFields ⟨byte⟩ prototype (reader.advance 1) <;> rfl

theorem malformed_of_readFields {id : PacketId} {prototype : π} {reader after : Reader}
    {error : ProtocolError} (failed : readFields id prototype reader = .error error after) :
    ∃ reason, error = .malformed id reason := by
  rw [readFields, EStateM.adaptExcept] at failed
  split at failed
  · cases failed
    exact ⟨_, rfl⟩
  · cases failed

/-- A registered packet stands at the front of the bytes, in this form. -/
def PacketRegistry.Begins (registry : PacketRegistry π) (packet : π) (form rest : Bytes) : Prop :=
  registry.contains (PacketType.id packet) ∧ wireForm packet = .ok form ∧ form <+: rest

/-- Every packet is registered under its own id. -/
def PacketRegistry.Catalog (registry : PacketRegistry π) : Prop :=
  ∀ id prototype, registry.create? id = some prototype → PacketType.id prototype = id

namespace PacketRegistry.Catalog

theorem empty : (PacketRegistry.empty : PacketRegistry π).Catalog := by
  intro id prototype registered
  rw [create?_empty] at registered
  cases registered

theorem registerFirst {registry : PacketRegistry π} (catalog : registry.Catalog) (packet : π) :
    (registry.registerFirst (PacketType.id packet, packet)).Catalog := by
  unfold PacketRegistry.registerFirst
  split
  · next extended registered =>
    intro id prototype found
    rw [create?_of_register registered] at found
    split at found
    · next same =>
      cases found
      exact same
    · exact catalog id prototype found
  · exact catalog

end PacketRegistry.Catalog

theorem decodePacket_eq_ok_iff (family : Grammatical π) {registry : PacketRegistry π}
    (catalog : registry.Catalog) (reader after : Reader) (packet : π) :
    decodePacket registry reader = .ok packet after ↔
      ∃ form, registry.Begins packet form reader.rest ∧ reader.advance form.length = after := by
  rw [decodePacket_eq]
  constructor
  · intro ran
    cases standing : reader.rest with
    | nil =>
        rw [standing] at ran
        cases ran
    | cons byte tail =>
        rw [standing] at ran
        dsimp only at ran
        cases registered : registry.create? ⟨byte⟩ with
        | none =>
            rw [registered] at ran
            cases ran
        | some prototype =>
            rw [registered] at ran
            obtain ⟨fields, ⟨own, writes⟩, begins, rfl⟩ :=
              ((family.reads prototype).adaptExcept _ _ packet after).mp ran
            rw [Reader.rest_advance, standing] at begins
            have tag : PacketType.id packet = ⟨byte⟩ := own.trans (catalog _ _ registered)
            refine ⟨byte :: fields, ⟨?_, ?_, ?_⟩, ?_⟩
            · rw [PacketRegistry.contains_eq_isSome, tag, registered]
              rfl
            · exact (wireForm_eq_ok_iff family _ _).mpr ⟨fields, writes, by rw [tag]⟩
            · exact List.cons_prefix_cons.mpr ⟨rfl, begins⟩
            · rw [Reader.advance_advance, List.length_cons, Nat.add_comm]
  · rintro ⟨form, ⟨contains, wire, begins⟩, rfl⟩
    obtain ⟨fields, writes, rfl⟩ := (wireForm_eq_ok_iff family _ _).mp wire
    rw [PacketRegistry.contains_eq_isSome, Option.isSome_iff_exists] at contains
    obtain ⟨prototype, registered⟩ := contains
    obtain ⟨tail, standing⟩ := begins
    rw [← standing]
    dsimp only [List.cons_append]
    rw [registered]
    refine ((family.reads prototype).adaptExcept _ _ packet _).mpr
      ⟨fields, ⟨(catalog _ _ registered).symm, writes⟩, ?_, ?_⟩
    · rw [Reader.rest_advance, ← standing]
      exact List.prefix_append fields tail
    · rw [Reader.advance_advance, List.length_cons, Nat.add_comm]

/-- At most one packet stands at the front. -/
theorem PacketRegistry.Begins.unique (family : Grammatical π) {registry : PacketRegistry π}
    (catalog : registry.Catalog) {rest firstForm secondForm : Bytes} {first second : π}
    (one : registry.Begins first firstForm rest) (other : registry.Begins second secondForm rest) :
    first = second ∧ firstForm = secondForm := by
  have decoded (packet : π) (form : Bytes) (begins : registry.Begins packet form rest) :=
    (decodePacket_eq_ok_iff family catalog (.ofBytes rest) _ packet).mpr ⟨form, begins, rfl⟩
  have same := (decoded first firstForm one).symm.trans (decoded second secondForm other)
  injection same with packets _
  subst packets
  exact ⟨rfl, Except.ok.inj (one.2.1.symm.trans other.2.1)⟩

/-- What is said of bytes at whose front no packet stands. -/
theorem decodePacket_error {registry : PacketRegistry π} {reader after : Reader}
    {error : ProtocolError} (failed : decodePacket registry reader = .error error after) :
    match reader.rest with
    | [] => error = .stream (.outOfBounds reader.position 1 0)
    | byte :: _ =>
      if registry.contains ⟨byte⟩ then ∃ reason, error = .malformed ⟨byte⟩ reason
      else error = .unknownPacket ⟨byte⟩ := by
  rw [decodePacket_eq] at failed
  cases standing : reader.rest with
  | nil =>
      rw [standing] at failed
      cases failed
      rfl
  | cons byte tail =>
      rw [standing] at failed
      dsimp only at failed ⊢
      rw [PacketRegistry.contains_eq_isSome]
      cases registered : registry.create? ⟨byte⟩ with
      | none =>
          rw [registered] at failed
          cases failed
          simp
      | some prototype =>
          rw [registered] at failed
          simpa using malformed_of_readFields failed

theorem exists_dispatch_eq (registry : PacketRegistry π) (context : PacketContext π)
    (reader : Reader) :
    ∃ id, dispatch registry context reader =
      match decodePacket registry reader with
      | .ok packet rest => .ok (id, PacketType.process packet context) rest
      | .error error rest => .error error rest := by
  simp only [dispatch, decodePacket, Bind.bind, EStateM.bind]
  cases decodeTagged registry reader with
  | ok tagged rest => exact ⟨tagged.1, rfl⟩
  | error error rest => exact ⟨⟨0⟩, rfl⟩

theorem handleMessage_eq (registry : PacketRegistry π) (peer : PeerHandle)
    (user : Option UserId) (message : Bytes) :
    handleMessage registry peer user message =
      match decodePacket registry (.ofBytes message) with
      | .ok packet _ => (PacketType.process packet { peer, user }).2
      | .error _ _ => { peer, user } := by
  obtain ⟨id, dispatched⟩ := exists_dispatch_eq registry { peer, user } (.ofBytes message)
  simp only [handleMessage, dispatched]
  cases decodePacket registry (.ofBytes message) <;> rfl

end Courier

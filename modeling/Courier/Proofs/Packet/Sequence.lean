import Courier.Packet.Sample
import Courier.Proofs.Packet.Catalog

namespace Courier

/-! Packets that are encoded one after the other in one writer. One that is refused leaves nothing
behind, so that the forms of the others stand there side by side, and each of them shows where it
ends. -/

/-- An action that keeps what is in a writer and adds to it, whether it succeeds or fails. -/
def Extends (action : EStateM ProtocolError Writer α) : Prop :=
  ∀ writer, ∃ bytes, attempt action writer = writer.append bytes

/-- An action that does nothing with a writer but add to it: it does not even look at what is there.
It may fail when bytes have been added. -/
def OnlyAppends (action : EStateM ProtocolError Writer α) : Prop :=
  ∃ bytes, (∃ value, ∀ writer, action writer = .ok value (writer.append bytes)) ∨
    ∃ error, ∀ writer, action writer = .error error (writer.append bytes)

theorem Writer.append_nil (writer : Writer) : writer.append [] = writer := by
  rw [append, List.append_nil]

theorem Writer.append_append (writer : Writer) (first second : Bytes) :
    (writer.append first).append second = writer.append (first ++ second) := by
  rw [append, append, append, List.append_assoc]

theorem Writer.truncate_append_append (writer : Writer) (first second : Bytes) :
    ((writer.append first).append second).truncate writer.length = writer := by
  rw [append_append, truncate_append]

namespace OnlyAppends

theorem pure (value : α) : OnlyAppends (pure value) :=
  ⟨[], .inl ⟨value, fun writer => congrArg (EStateM.Result.ok value) writer.append_nil.symm⟩⟩

theorem throw (error : ProtocolError) :
    OnlyAppends (throw error : EStateM ProtocolError Writer α) :=
  ⟨[], .inr ⟨error, fun writer => congrArg (EStateM.Result.error error) writer.append_nil.symm⟩⟩

theorem write (type : FixedType) (value : type.Value) :
    OnlyAppends (modify (·.write type value)) :=
  ⟨type.encode value, .inl ⟨⟨⟩, fun _ => rfl⟩⟩

theorem writeText (text : String) : OnlyAppends (modify (·.writeText text)) :=
  ⟨Writer.lengthPrefixed (Bytes.ofText text), .inl ⟨⟨⟩, fun _ => rfl⟩⟩

theorem bind {action : EStateM ProtocolError Writer α} {next : α → EStateM ProtocolError Writer β}
    (appends : OnlyAppends action) (later : ∀ value, OnlyAppends (next value)) :
    OnlyAppends (action >>= next) := by
  obtain ⟨first, ⟨value, acted⟩ | ⟨error, failed⟩⟩ := appends
  · obtain ⟨second, ⟨result, continued⟩ | ⟨error, failed⟩⟩ := later value
    · refine ⟨first ++ second, .inl ⟨result, fun writer => ?_⟩⟩
      simp only [Bind.bind, EStateM.bind, acted, continued, Writer.append_append]
    · refine ⟨first ++ second, .inr ⟨error, fun writer => ?_⟩⟩
      simp only [Bind.bind, EStateM.bind, acted, failed, Writer.append_append]
  · refine ⟨first, .inr ⟨error, fun writer => ?_⟩⟩
    simp only [Bind.bind, EStateM.bind, failed]

end OnlyAppends

namespace ChatPacket

theorem onlyAppends_checkText (text : String) :
    OnlyAppends (checkText text : EStateM ProtocolError Writer Unit) := by
  by_cases short : text.utf8ByteSize ≤ maxTextLength
  · rw [checkText_of_le short]
    exact .pure ()
  · obtain ⟨reason, refused⟩ := checkText_of_not_le (EStateM ProtocolError Writer) short
    rw [refused]
    exact .throw _

theorem onlyAppends_serialize (packet : ChatPacket) : OnlyAppends packet.serialize := by
  cases packet with
  | hello => exact .pure ()
  | welcome user => exact .write .userId user
  | ping nonce => exact .write (.number .u64) nonce.toBitVec
  | pong nonce => exact .write (.number .u64) nonce.toBitVec
  | chat text => exact (onlyAppends_checkText text).bind fun _ => .writeText text
  | chatRelay sender text =>
      exact (onlyAppends_checkText text).bind fun _ =>
        (OnlyAppends.write .userId sender).bind fun _ => .writeText text

end ChatPacket

variable {π : Type} [PacketType π]

theorem eq_of_encodePacket_eq_error {packet : π} (kept : Extends (PacketType.serialize packet))
    {writer after : Writer} {error : ProtocolError}
    (failed : encodePacket packet writer = .error error after) : after = writer := by
  obtain ⟨bytes, added⟩ := kept (writer.write .packetId (PacketType.id packet))
  rw [encodePacket] at failed
  split at failed
  · cases failed
  · next written serialized =>
    have left : attempt (PacketType.serialize packet)
        (writer.write .packetId (PacketType.id packet)) = written := by
      rw [attempt, serialized]
    cases failed
    rw [← left, added]
    exact writer.truncate_append_append _ bytes

theorem encodePacket_of_writes {packet : π} {fields : Bytes} (writes : Writes packet fields)
    (writer : Writer) :
    encodePacket packet writer =
      .ok () (writer.append ((PacketType.id packet).byte :: fields)) := by
  rw [encodePacket, writes]
  exact congrArg (EStateM.Result.ok ()) (writer.append_append _ fields)

theorem encodePacket_of_refuses {packet : π} {error : ProtocolError} {bytes : Bytes}
    (refuses : ∀ writer, PacketType.serialize packet writer = .error error (writer.append bytes))
    (writer : Writer) : encodePacket packet writer = .error error writer := by
  rw [encodePacket, refuses]
  exact congrArg (EStateM.Result.error error) (writer.truncate_append_append _ bytes)

theorem wireForm_of_writes {packet : π} {fields : Bytes} (writes : Writes packet fields) :
    wireForm packet = .ok ((PacketType.id packet).byte :: fields) := by
  rw [wireForm, encodePacket_of_writes writes]
  rfl

/-- A packet comes to the same in every writer: to its form on its own, or to the same refusal. -/
theorem encodePacket_eq_wireForm {packet : π}
    (appends : OnlyAppends (PacketType.serialize packet)) (writer : Writer) :
    encodePacket packet writer =
      match wireForm packet with
      | .ok form => .ok () (writer.append form)
      | .error error => .error error writer := by
  obtain ⟨bytes, ⟨⟨⟩, writes⟩ | ⟨error, refuses⟩⟩ := appends
  · rw [encodePacket_of_writes writes, wireForm_of_writes writes]
  · have alone : wireForm packet = .error error := by
      rw [wireForm, encodePacket_of_refuses refuses]
    rw [encodePacket_of_refuses refuses, alone]

/-- Packets are encoded in turn. Those that fail are passed over, and it is told which succeed. -/
def encodeAll : List π → Writer → List π × Writer
  | [], writer => ([], writer)
  | packet :: rest, writer =>
    match encodePacket packet writer with
    | .ok _ written =>
      let (encoded, last) := encodeAll rest written
      (packet :: encoded, last)
    | .error _ left => encodeAll rest left

/-- So many packets are decoded, each from where the one before it ends. -/
def decodeAll (registry : PacketRegistry π) : Nat → EStateM ProtocolError Reader (List π)
  | 0 => return []
  | count + 1 => do
    let packet ← decodePacket registry
    return packet :: (← decodeAll registry count)

theorem encodeAll_of_appends {packets : List π}
    (appends : ∀ packet ∈ packets, OnlyAppends (PacketType.serialize packet)) (writer : Writer) :
    (encodeAll packets writer).1 = packets.filter (fun packet => (wireForm packet).isOk) ∧
      ∃ forms : List Bytes, (encodeAll packets writer).1.map wireForm = forms.map .ok ∧
        (encodeAll packets writer).2 = writer.append forms.flatten := by
  induction packets generalizing writer with
  | nil => exact ⟨rfl, [], rfl, writer.append_nil.symm⟩
  | cons packet rest ih =>
      obtain ⟨first, others⟩ := List.forall_mem_cons.mp appends
      have encoded := encodePacket_eq_wireForm first writer
      cases written : wireForm packet with
      | error error =>
          rw [written] at encoded
          have passed : encodeAll (packet :: rest) writer = encodeAll rest writer := by
            simp only [encodeAll, encoded]
          rw [passed, List.filter_cons_of_neg (by rw [written]; exact Bool.false_ne_true)]
          exact ih others writer
      | ok form =>
          rw [written] at encoded
          have kept : encodeAll (packet :: rest) writer =
              (packet :: (encodeAll rest (writer.append form)).1,
                (encodeAll rest (writer.append form)).2) := by
            simp only [encodeAll, encoded]
          obtain ⟨succeeding, forms, same, last⟩ := ih others (writer.append form)
          rw [kept, List.filter_cons_of_pos (by rw [written]; rfl)]
          refine ⟨congrArg (packet :: ·) succeeding, form :: forms, ?_, ?_⟩
          · rw [List.map_cons, List.map_cons, written, same]
          · rw [last, Writer.append_append, List.flatten_cons]

/-- Packets are told apart by nothing but their forms. -/
theorem decodeAll_of_stands (family : Grammatical π) {registry : PacketRegistry π}
    (catalog : registry.Catalog) {packets : List π} {forms : List Bytes}
    (written : packets.map wireForm = forms.map .ok)
    (known : ∀ packet ∈ packets, registry.contains (PacketType.id packet)) {reader : Reader}
    (stands : forms.flatten <+: reader.rest) :
    decodeAll registry packets.length reader =
      .ok packets (reader.advance forms.flatten.length) := by
  induction packets generalizing forms reader with
  | nil =>
      cases forms with
      | nil => rfl
      | cons form forms => cases written
  | cons packet packets ih =>
      cases forms with
      | nil => cases written
      | cons form forms =>
          injection written with own others
          obtain ⟨first, rest⟩ := List.forall_mem_cons.mp known
          rw [List.flatten_cons, append_prefix_iff] at stands
          have decoded := (decodePacket_eq_ok_iff family catalog reader _ packet).mpr
            ⟨form, ⟨first, own, stands.1⟩, rfl⟩
          have goesOn : forms.flatten <+: (reader.advance form.length).rest := by
            rw [Reader.rest_advance]
            exact stands.2
          have later := ih others rest goesOn
          rw [List.length_cons, List.flatten_cons, List.length_append, ← Reader.advance_advance]
          simp only [decodeAll, Bind.bind, EStateM.bind, decoded, later]
          rfl

theorem decodePacket_at_end (registry : PacketRegistry π) (bytes : Bytes) :
    decodePacket registry ⟨bytes, bytes.length⟩ =
      .error (.stream (.outOfBounds bytes.length 1 0)) ⟨bytes, bytes.length⟩ := by
  have nothing : Reader.rest ⟨bytes, bytes.length⟩ = [] := List.drop_length
  rw [decodePacket_eq, nothing]

namespace ChatPacket

instance : DecidablePred Fits
  | .chat text | .chatRelay _ text =>
      inferInstanceAs (Decidable (text.utf8ByteSize ≤ maxTextLength))
  | .hello | .welcome _ | .ping _ | .pong _ => inferInstanceAs (Decidable True)

theorem isOk_wireForm (packet : ChatPacket) : (wireForm packet).isOk = decide packet.Fits := by
  by_cases fits : packet.Fits
  · rw [wireForm_of_writes ((writes_iff packet _).mpr ⟨fits, rfl⟩), decide_eq_true fits]
    rfl
  · rw [decide_eq_false fits]
    cases written : wireForm packet with
    | error error => rfl
    | ok form =>
        obtain ⟨fields, writes, -⟩ := (wireForm_eq_ok_iff grammatical _ _).mp written
        exact absurd ((writes_iff packet fields).mp writes).1 fits

end ChatPacket

/-- Packets that are encoded in turn leave in the writer, behind what was there, the forms of those
that succeed, and a packet that fails leaves nothing. Chat packets are read back from there, one
after the other, up to the last byte. -/
theorem decodeAll_encodeAll (writer : Writer) :
    (∀ (packet : π) before error after, Extends (PacketType.serialize packet) →
        encodePacket packet before = .error error after → after = before) ∧
      (∀ packets : List π, (∀ packet ∈ packets, OnlyAppends (PacketType.serialize packet)) →
        (∀ packet ∈ packets, ∀ before, encodePacket packet before =
          match wireForm packet with
          | .ok form => .ok () (before.append form)
          | .error error => .error error before) ∧
        (∀ packet ∈ packets, ∀ fields, Writes packet fields →
          wireForm packet = .ok ((PacketType.id packet).byte :: fields)) ∧
        (encodeAll packets writer).1 = packets.filter (fun packet => (wireForm packet).isOk) ∧
        ∃ forms : List Bytes, (encodeAll packets writer).1.map wireForm = forms.map .ok ∧
          (encodeAll packets writer).2 = writer.append forms.flatten) ∧
      (∀ packet : ChatPacket, OnlyAppends packet.serialize) ∧
      ∀ (registry : PacketRegistry ChatPacket) (packets : List ChatPacket), registry.Catalog →
        (∀ packet ∈ packets, packet.Fits → registry.contains packet.id) →
        let encoded := (encodeAll packets writer).1
        let last := (encodeAll packets writer).2
        encoded = packets.filter (fun packet => packet.Fits) ∧
          decodeAll registry encoded.length ⟨last.bytes, writer.length⟩ =
            .ok encoded ⟨last.bytes, last.length⟩ ∧
          decodePacket registry ⟨last.bytes, last.length⟩ =
            .error (.stream (.outOfBounds last.length 1 0)) ⟨last.bytes, last.length⟩ := by
  refine ⟨fun _ _ _ _ kept failed => eq_of_encodePacket_eq_error kept failed, ?_,
    ChatPacket.onlyAppends_serialize, ?_⟩
  · intro packets appends
    exact ⟨fun packet mem => encodePacket_eq_wireForm (appends packet mem),
      fun packet _ fields => wireForm_of_writes, encodeAll_of_appends appends writer⟩
  · intro registry packets catalog known
    obtain ⟨succeeding, forms, written, last⟩ := encodeAll_of_appends
      (fun packet (_ : packet ∈ packets) => ChatPacket.onlyAppends_serialize packet) writer
    have fitting : (encodeAll packets writer).1 = packets.filter (fun packet => packet.Fits) := by
      rw [succeeding]
      exact List.filter_congr fun packet _ => packet.isOk_wireForm
    have registered : ∀ packet ∈ (encodeAll packets writer).1,
        registry.contains (PacketType.id packet) := by
      intro packet mem
      rw [fitting, List.mem_filter] at mem
      exact known packet mem.1 (of_decide_eq_true mem.2)
    have bytes : (encodeAll packets writer).2.bytes = writer.bytes ++ forms.flatten :=
      congrArg Writer.bytes last
    have stands : Reader.rest ⟨(encodeAll packets writer).2.bytes, writer.length⟩ =
        forms.flatten := by
      rw [Reader.rest, bytes, Writer.length, List.drop_left]
    refine ⟨fitting, ?_, decodePacket_at_end registry _⟩
    rw [decodeAll_of_stands ChatPacket.grammatical catalog written registered
      (stands ▸ List.prefix_refl _), Reader.advance, Writer.length, Writer.length, bytes,
      List.length_append]

theorem SamplePacket.onlyAppends_serialize (packet : SamplePacket) :
    OnlyAppends packet.serialize := by
  cases packet with
  | say count text =>
      refine (OnlyAppends.write (.number .u32) count).bind fun _ => ?_
      split
      · exact (OnlyAppends.throw _).bind fun _ => .writeText text
      · exact .writeText text
  | note text => exact .writeText text
  | knock times => exact .write (.number .u8) times.toBitVec
  | grid flag glyph cells lamps =>
      exact (OnlyAppends.write .bool flag).bind fun _ =>
        (OnlyAppends.write .char glyph).bind fun _ =>
          (OnlyAppends.write cellsType cells).bind fun _ => .write lampsType lamps

def samples : List SamplePacket :=
  [.knock 3, .say 1 "seventeen letters", .knock 5]

def chats : List ChatPacket :=
  [.hello, .chat (String.ofList (List.replicate 513 'a')), .ping 7]

/-- All packets of the catalog, on either side. -/
def everything : PacketRegistry ChatPacket :=
  ChatPacket.registryOf (ChatPacket.forServer ++ ChatPacket.forClient)

theorem everything_contains (packet : ChatPacket) : everything.contains packet.id := by
  rw [everything, ChatPacket.contains_registryOf]
  cases packet <;> simp [ChatPacket.forServer, ChatPacket.forClient, ChatPacket.id]

theorem decodeAll_encodeAll_mixed :
    (∀ packet ∈ samples, OnlyAppends (PacketType.serialize packet)) ∧
      encodeAll samples ⟨[0xff]⟩ = ([.knock 3, .knock 5], ⟨[0xff, 0x40, 3, 0x40, 5]⟩) ∧
      decodeAll everything 2 ⟨[0xff, 0x05, 0x10, 7, 0, 0, 0, 0, 0, 0, 0], 1⟩ =
        .ok [.hello, .ping 7] ⟨[0xff, 0x05, 0x10, 7, 0, 0, 0, 0, 0, 0, 0], 11⟩ := by
  have appends (packet : SamplePacket) (_ : packet ∈ samples) := packet.onlyAppends_serialize
  obtain ⟨-, composed, -, delimited⟩ := @decodeAll_encodeAll SamplePacket _ ⟨[0xff]⟩
  obtain ⟨-, -, succeeding, forms, same, last⟩ := composed samples appends
  have catalog : everything.Catalog := ChatPacket.catalog_registryOf _
  have delimited := delimited everything chats catalog fun packet _ _ => everything_contains packet
  have kept : (encodeAll samples ⟨[0xff]⟩).1 = [.knock 3, .knock 5] := by
    rw [succeeding]
    decide +kernel
  have written : forms = [[0x40, 3], [0x40, 5]] := by
    apply (List.map_inj_right fun _ _ => Except.ok.inj).mp
    rw [← same, kept]
    rfl
  have chatted : encodeAll chats ⟨[0xff]⟩ =
      ([.hello, .ping 7], ⟨[0xff, 0x05, 0x10, 7, 0, 0, 0, 0, 0, 0, 0]⟩) := by
    decide +kernel
  refine ⟨appends, Prod.ext kept (last.trans (by rw [written]; rfl)), ?_⟩
  have decoded := delimited.2.1
  rw [chatted] at decoded
  exact decoded

end Courier

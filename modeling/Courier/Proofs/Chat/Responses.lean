import Courier.Proofs.Chat.Relays
import Courier.Proofs.Datagram.Interface
import Courier.Proofs.Datagram.Links

namespace Courier

/-! What a chat packet is answered with. Whatever a client sends, a server queues one answer at
most, and it is one that fits into a datagram and that the client can read. A client answers
nothing. -/

namespace ChatPacket

theorem length_outbox_le (registry : PacketRegistry ChatPacket) (peer : PeerHandle)
    (user : Option UserId) (message : Bytes) :
    (handleMessage registry peer user message).outbox.length ≤ 1 := by
  rw [outbox_handleMessage]
  split
  · exact Option.length_toList_le
  · exact Nat.zero_le 1

theorem known_of_decodePacket {registry : PacketRegistry ChatPacket} (catalog : registry.Catalog)
    {reader rest : Reader} {packet : ChatPacket}
    (decoded : decodePacket registry reader = .ok packet rest) :
    registry.contains packet.id ∧ packet.Fits := by
  obtain ⟨form, ⟨known, written, -⟩, -⟩ :=
    (decodePacket_eq_ok_iff grammatical catalog reader rest packet).mp decoded
  obtain ⟨fields, writes, -⟩ := (wireForm_eq_ok_iff grammatical packet form).mp written
  exact ⟨known, ((writes_iff packet fields).mp writes).1⟩

/-- A packet of the client's is not answered. -/
theorem answer?_of_client {packet : ChatPacket} (known : clientRegistry.contains packet.id)
    (user : Option UserId) : packet.answer? user = none := by
  rw [clientRegistry, contains_registryOf] at known
  cases packet with
  | hello | ping | chat => simp [forClient, ChatPacket.id] at known
  | welcome | pong | chatRelay => rfl

/-- A packet that fits into a datagram, and that a client reads as it is, to the last byte. -/
def Readable (packet : ChatPacket) : Prop :=
  ∃ form, wireForm packet = .ok form ∧ form.length ≤ Datagram.maxPayload ∧
    decodePacket clientRegistry (.ofBytes form) = .ok packet ⟨form, form.length⟩

theorem readable_of_fits {packet : ChatPacket} (known : clientRegistry.contains packet.id)
    (fits : packet.Fits) : packet.Readable := by
  have written := (wireForm_eq_ok_iff grammatical packet _).mpr
    ⟨packet.fields, (writes_iff packet _).mpr ⟨fits, rfl⟩, rfl⟩
  refine ⟨_, written, length_le_of_wireForm written, ?_⟩
  refine (decodePacket_eq_ok_iff grammatical (catalog_registryOf forClient) _ _ packet).mpr
    ⟨_, ⟨known, written, List.prefix_refl _⟩, ?_⟩
  rw [Reader.advance, Reader.ofBytes, Nat.zero_add]

theorem readable_of_answer? {packet : ChatPacket} (fits : packet.Fits) {user : Option UserId}
    {outgoing : Outgoing ChatPacket} (answered : packet.answer? user = some outgoing) :
    outgoing.packet.Readable := by
  have known (packet : ChatPacket) (mem : packet.id ∈ forClient.map ChatPacket.id) :=
    (contains_registryOf forClient packet.id).mpr mem
  cases packet with
  | hello =>
      obtain ⟨user, -, rfl⟩ := Option.map_eq_some_iff.mp answered
      exact readable_of_fits (known _ (by simp [forClient, ChatPacket.id, Outgoing.packet])) trivial
  | ping nonce =>
      cases answered
      exact readable_of_fits (known _ (by simp [forClient, ChatPacket.id, Outgoing.packet])) trivial
  | chat text =>
      obtain ⟨user, -, rfl⟩ := Option.map_eq_some_iff.mp answered
      exact readable_of_fits (known _ (by simp [forClient, ChatPacket.id, Outgoing.packet])) fits
  | welcome | pong | chatRelay => cases answered

/-- What a server queues for an event, by the ids that its peers hold. -/
def queuedFor (users : PeerHandle → Option UserId) : RawEvent → List (Outgoing ChatPacket)
  | .receive peer _ _ data => (handleMessage serverRegistry peer (users peer) data).outbox
  | .connect _ | .disconnect _ => []

theorem length_queuedFor_le (users : PeerHandle → Option UserId) (event : RawEvent) :
    (queuedFor users event).length ≤ 1 := by
  cases event with
  | receive peer channel flags data => exact length_outbox_le serverRegistry peer (users peer) data
  | connect | disconnect => exact Nat.zero_le 1

theorem outbox_of_client (peer : PeerHandle) (user : Option UserId) (message : Bytes) :
    (handleMessage clientRegistry peer user message).outbox = [] := by
  rw [outbox_handleMessage]
  split
  · next packet rest decoded =>
    have known := (known_of_decodePacket (catalog_registryOf forClient) decoded).1
    rw [answer?_of_client known]
    rfl
  · rfl

theorem of_dispatch_eq_ok {registry : PacketRegistry ChatPacket} (catalog : registry.Catalog)
    {context after : PacketContext ChatPacket} {reader rest : Reader} {id : PacketId}
    {result : ProcessResult}
    (dispatched : dispatch registry context reader = .ok (id, result, after) rest) :
    ∃ packet : ChatPacket, decodePacket registry reader = .ok packet rest ∧
      registry.contains packet.id ∧ packet.Fits ∧
      after.outbox = context.outbox ++ (packet.answer? context.user).toList := by
  obtain ⟨tag, same⟩ := exists_dispatch_eq registry context reader
  rw [same] at dispatched
  split at dispatched
  · next packet left decoded =>
    injection dispatched with processed left
    subst left
    obtain ⟨known, fits⟩ := known_of_decodePacket catalog decoded
    refine ⟨packet, decoded, known, fits, ?_⟩
    rw [← outbox_process]
    exact congrArg (fun answer => answer.2.2.outbox) processed.symm
  · cases dispatched

/-- Whatever a server reads, it queues the answer to it and nothing else, and a client can read
that. A client queues nothing. So a datagram leads to one packet at most, which leads to none. -/
theorem answers_of_dispatch {ν : Type} [Datagram.Network ν] (context : PacketContext ChatPacket)
    (reader : Reader) :
    (∀ id result after rest,
        dispatch serverRegistry context reader = .ok (id, result, after) rest →
        ∃ packet, decodePacket serverRegistry reader = .ok packet rest ∧
          after.outbox = context.outbox ++ (packet.answer? context.user).toList ∧
          ∀ outgoing, packet.answer? context.user = some outgoing → outgoing.packet.Readable) ∧
      (∀ packet rest, decodePacket serverRegistry reader = .ok packet rest →
        ∃ id result after,
          dispatch serverRegistry context reader = .ok (id, result, after) rest) ∧
      (∀ id result after rest,
        dispatch clientRegistry context reader = .ok (id, result, after) rest →
        after.outbox = context.outbox) ∧
      (∀ peer user message, (handleMessage clientRegistry peer user message).outbox = []) ∧
      ∀ (station : Datagram.Station ν) source datagram users,
        ((station.handleDatagram source datagram).1.flatMap (queuedFor users)).length ≤ 1 := by
  refine ⟨?_, ?_, ?_, outbox_of_client, ?_⟩
  · intro id result after rest dispatched
    obtain ⟨packet, decoded, -, fits, queued⟩ :=
      of_dispatch_eq_ok (catalog_registryOf forServer) dispatched
    exact ⟨packet, decoded, queued, fun outgoing => readable_of_answer? fits⟩
  · intro packet rest decoded
    obtain ⟨id, same⟩ := exists_dispatch_eq serverRegistry context reader
    rw [decoded] at same
    exact ⟨id, _, _, same⟩
  · intro id result after rest dispatched
    obtain ⟨packet, -, known, -, queued⟩ :=
      of_dispatch_eq_ok (catalog_registryOf forClient) dispatched
    rw [queued, answer?_of_client known]
    exact List.append_nil _
  · intro station source datagram users
    have single := (station.handleDatagram_applied source datagram).length_events_le
    match (station.handleDatagram source datagram).1, single with
    | [], _ => exact Nat.zero_le 1
    | [event], _ =>
      rw [List.flatMap_singleton]
      exact length_queuedFor_le users event

/-- A chat line of a peer that holds an id. -/
def chatLine : Bytes :=
  [0x20, 2, 0, 0, 0, 0, 0, 0, 0, 0x68, 0x69]

theorem answers_of_dispatch_chat :
    ∃ id result after rest,
      dispatch serverRegistry { peer := ⟨5⟩, user := some ⟨3⟩ } (.ofBytes chatLine) =
          .ok (id, result, after) rest ∧
        after.outbox = [.broadcast (.chatRelay ⟨3⟩ "hi")] ∧ Readable (.chatRelay ⟨3⟩ "hi") := by
  have decoded : decodePacket serverRegistry (.ofBytes chatLine) =
      .ok (.chat "hi") ⟨chatLine, 11⟩ := by
    rfl
  obtain ⟨answers, dispatches, -⟩ := @answers_of_dispatch Datagram.Interface _
    { peer := ⟨5⟩, user := some ⟨3⟩ } (.ofBytes chatLine)
  obtain ⟨id, result, after, dispatched⟩ := dispatches _ _ decoded
  obtain ⟨packet, read, queued, readable⟩ := answers _ _ _ _ dispatched
  obtain rfl : packet = .chat "hi" := by
    rw [decoded] at read
    cases read
    rfl
  exact ⟨id, result, after, _, dispatched, queued, readable _ rfl⟩

end ChatPacket

end Courier

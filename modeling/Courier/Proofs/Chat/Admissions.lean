import Courier.Proofs.Chat.Chronicle
import Courier.Proofs.Datagram.Calm
import Courier.Proofs.Server.Run

namespace Courier

open Datagram

/-! The admissions and releases of a chronicle are those of the user table. -/

def Admitted (peer : PeerHandle) (chronicle : List Entry) : Prop :=
  ∃ place, .admitted peer place ∈ chronicle

theorem admitted_append (peer : PeerHandle) (earlier later : List Entry) :
    Admitted peer (earlier ++ later) ↔ Admitted peer earlier ∨ Admitted peer later := by
  simp only [Admitted, List.mem_append, exists_or]

theorem admitted_singleton (peer other : PeerHandle) (place : Option SocketAddress) :
    Admitted peer [.admitted other place] ↔ other = peer := by
  simp [Admitted, eq_comm]

namespace Entry

/-- Nobody comes and nobody goes: there are relays at most. -/
def Quiet (entries : List Entry) : Prop :=
  ∀ entry ∈ entries, (∃ relay, entry = .relayed relay) ∨ ∃ peer relay, entry = .told peer relay

theorem quiet_nil : Quiet [] := nofun

theorem quiet_ofSend (peer : PeerHandle) (packet : ChatPacket) : Quiet (ofSend peer packet) :=
  fun _ mem => .inr ⟨peer, told_of_mem_ofSend mem⟩

theorem quiet_ofBroadcast (packet : ChatPacket) : Quiet (ofBroadcast packet) :=
  fun _ mem => .inl (relayed_of_mem_ofBroadcast mem)

theorem quiet_ofOutgoing (peer : PeerHandle) (outbox : List (Outgoing ChatPacket)) :
    Quiet (outbox.flatMap (ofOutgoing peer)) := by
  intro entry mem
  obtain ⟨outgoing, -, mem⟩ := List.mem_flatMap.mp mem
  cases outgoing with
  | reply packet => exact quiet_ofSend peer packet entry mem
  | broadcast packet => exact quiet_ofBroadcast packet entry mem

theorem Quiet.not_admitted {entries : List Entry} (quiet : Quiet entries) (peer : PeerHandle) :
    ¬ Admitted peer entries := by
  rintro ⟨place, mem⟩
  rcases quiet _ mem with ⟨relay, ⟨⟩⟩ | ⟨other, relay, ⟨⟩⟩

theorem Quiet.not_released {entries : List Entry} (quiet : Quiet entries) (peer : PeerHandle) :
    .released peer ∉ entries := by
  intro mem
  rcases quiet _ mem with ⟨relay, ⟨⟩⟩ | ⟨other, relay, ⟨⟩⟩

end Entry

namespace Server

/-- On a network on which nothing fails, a poll that fails has changed nothing. -/
theorem tables_of_poll_error {κ : Type} {server : Server ChatPacket (Station Interface) κ}
    {node : Node ChatPacket (Station Interface) κ} {error : Error}
    (calm : server.transport.Calm) (failed : Node.poll server.toNode = .error error node) :
    tables { server with toNode := node } = server.tables := by
  obtain ⟨reason, failed⟩ := Node.of_poll_eq_error failed
  have same := Station.eq_of_poll_eq_error calm failed
  exact congrArg (fun station : Station Interface => (server.users, station.roster)) same

/-- Who is admitted holds an id until it is released, and is never admitted again. In the middle of
a batch there are pending events of those who are still to come. -/
structure Recorded (pending : List RawEvent) (chronicle : List Entry)
    (tables : UserTable × Roster) : Prop where
  held_iff : ∀ peer, (∃ user, tables.1.user? peer = some user) ↔
    Admitted peer chronicle ∧ .released peer ∉ chronicle
  came : ∀ peer, .released peer ∈ chronicle → Admitted peer chronicle
  new : ∀ peer, Admitted peer chronicle → .connect peer ∉ pending
  settled : ∀ peer, Admitted peer chronicle ∨ .connect peer ∈ pending → tables.2.Settled peer

namespace Recorded

variable {users after : UserTable} {roster left : Roster} {pending rest events : List RawEvent}
  {chronicle entries : List Entry} {peer : PeerHandle} {user : UserId} {limit capacity : Nat}

theorem started (nobody : ∀ peer, users.user? peer = none) : Recorded [] [] (users, roster) where
  held_iff peer := by simp [nobody, Admitted]
  came := nofun
  new := nofun
  settled := by simp [Admitted]

theorem others (recorded : Recorded pending chronicle (users, roster))
    (quiet : Entry.Quiet entries) (same : ∀ peer, after.user? peer = users.user? peer)
    (kept : ∀ peer, roster.Settled peer → left.Settled peer) (fewer : rest ⊆ pending) :
    Recorded rest (chronicle ++ entries) (after, left) := by
  have admitted (peer : PeerHandle) :
      Admitted peer (chronicle ++ entries) ↔ Admitted peer chronicle := by
    rw [admitted_append, or_iff_left (quiet.not_admitted peer)]
  have released (peer : PeerHandle) :
      .released peer ∈ chronicle ++ entries ↔ .released peer ∈ chronicle := by
    rw [List.mem_append, or_iff_left (quiet.not_released peer)]
  refine ⟨fun peer => ?_, fun peer => ?_, fun peer => ?_, fun peer => ?_⟩
  · rw [same, admitted, released]
    exact recorded.held_iff peer
  · rw [admitted, released]
    exact recorded.came peer
  · rw [admitted]
    exact fun came mem => recorded.new peer came (fewer mem)
  · rw [admitted]
    exact fun known => kept peer (recorded.settled peer (known.imp_right fun mem => fewer mem))

/-- Who comes has not been there before. -/
theorem seat (recorded : Recorded (.connect peer :: pending) chronicle (users, roster))
    (once : .connect peer ∉ pending) (user : UserId) (place : Option SocketAddress) :
    Recorded pending (chronicle ++ [.admitted peer place]) (users.seat user peer, roster) := by
  have strange : ¬ Admitted peer chronicle :=
    fun came => recorded.new peer came List.mem_cons_self
  have admitted (other : PeerHandle) : Admitted other (chronicle ++ [.admitted peer place]) ↔
      Admitted other chronicle ∨ peer = other := by
    rw [admitted_append, admitted_singleton]
  have released (other : PeerHandle) :
      .released other ∈ chronicle ++ [Entry.admitted peer place] ↔
        .released other ∈ chronicle := by
    simp
  refine ⟨fun other => ?_, fun other => ?_, fun other => ?_, fun other => ?_⟩
  · rw [admitted, released, UserTable.user?_seat]
    by_cases same : peer = other
    · subst same
      simpa using fun gone => strange (recorded.came peer gone)
    · simpa [same] using recorded.held_iff other
  · rw [admitted, released]
    exact fun gone => .inl (recorded.came other gone)
  · rw [admitted]
    rintro (came | rfl)
    · exact fun mem => recorded.new other came (List.mem_cons_of_mem _ mem)
    · exact once
  · rw [admitted]
    rintro ((came | rfl) | mem)
    · exact recorded.settled other (.inl came)
    · exact recorded.settled peer (.inr List.mem_cons_self)
    · exact recorded.settled other (.inr (List.mem_cons_of_mem _ mem))

theorem release (recorded : Recorded pending chronicle (users, roster))
    (held : users.user? peer = some user)
    (gone : ∀ other, after.user? other = if peer = other then none else users.user? other)
    (kept : ∀ peer, roster.Settled peer → left.Settled peer) (fewer : rest ⊆ pending) :
    Recorded rest (chronicle ++ [.released peer]) (after, left) := by
  have here : Admitted peer chronicle := ((recorded.held_iff peer).mp ⟨user, held⟩).1
  have admitted (other : PeerHandle) :
      Admitted other (chronicle ++ [.released peer]) ↔ Admitted other chronicle := by
    simp [Admitted]
  have released (other : PeerHandle) : .released other ∈ chronicle ++ [Entry.released peer] ↔
      .released other ∈ chronicle ∨ peer = other := by
    simp [eq_comm]
  refine ⟨fun other => ?_, fun other => ?_, fun other => ?_, fun other => ?_⟩
  · rw [admitted, released, gone]
    by_cases same : peer = other
    · simp [same]
    · simpa [same] using recorded.held_iff other
  · rw [admitted, released]
    rintro (before | rfl)
    · exact recorded.came other before
    · exact here
  · rw [admitted]
    exact fun came mem => recorded.new other came (fewer mem)
  · rw [admitted]
    exact fun known => kept other (recorded.settled other (known.imp_right fun mem => fewer mem))

/-- The peers of a batch are new, and settled by its end. -/
theorem drained (recorded : Recorded [] chronicle (users, roster)) (sound : roster.Sound)
    (drained : Drained roster events left) : Recorded events chronicle (users, left) where
  held_iff := recorded.held_iff
  came := recorded.came
  new peer came := by
    have spent : roster.Spent (.connect peer) := recorded.settled peer (.inl came)
    exact spent.not_mem_of_drained sound drained
  settled peer := by
    rintro (came | mem)
    · have settled : roster.Settled peer := recorded.settled peer (.inl came)
      exact (settled.drained sound drained).settled settled
    · exact Roster.spent_of_mem_drained sound drained mem trivial

/-- A stay is over once the peer has lost its id. -/
theorem held_iff_of_stay {address : SocketAddress} {stay : Stay}
    (recorded : Recorded [] chronicle (users, roster))
    (stays : stay? address chronicle = some stay) :
    (∃ user, users.user? stay.peer = some user) ↔ .released stay.peer ∉ chronicle := by
  obtain ⟨later, split⟩ := Stay.split stays
  have admitted : Admitted stay.peer chronicle := by
    rw [split]
    exact ⟨_, List.mem_append_right _ List.mem_cons_self⟩
  exact (recorded.held_iff stay.peer).trans (and_iff_right admitted)

theorem elsewhere (recorded : Recorded [] chronicle (users, roster)) (sound : roster.Sound)
    (handles : Nat) : Recorded [] chronicle (users, ⟨roster.host, roster.nextPeer + handles⟩) := by
  have moved : Moved roster ⟨roster.host, roster.nextPeer + handles⟩ := .elsewhere handles
  have same := recorded.others Entry.quiet_nil (fun _ => rfl)
    (fun _ settled => (settled.moved sound moved).settled settled) (List.Subset.refl _)
  rwa [List.append_nil] at same

variable {κ : Type} {server done : Server ChatPacket (Station Interface) κ}

theorem handle {event : RawEvent} (inStep : InStep limit capacity (event :: pending) server.tables)
    (recorded : Recorded (event :: pending) chronicle server.tables) :
    Recorded pending (chronicle ++ server.entriesOf event) (server.handle event).tables := by
  have fewer : pending ⊆ event :: pending := List.subset_cons_self event pending
  cases event with
  | connect peer =>
      change Recorded _ _ (server.join peer).tables
      cases held : server.users.user? peer with
      | some user =>
          have known := UserTable.acquire_of_held held
          rw [join_of_known known]
          simp only [entriesOf, known]
          exact recorded.others Entry.quiet_nil (fun _ => rfl) (fun _ => id) fewer
      | none =>
          cases least : server.users.free.min? with
          | some user =>
              have seated := UserTable.acquire_of_least held least
              rw [join_of_seated seated]
              simp only [entriesOf, seated]
              have once : .connect peer ∉ pending := fun mem =>
                (List.pairwise_cons.mp inStep.once).1 _ mem trivial rfl
              exact recorded.seat once user _
          | none =>
              have exhausted := UserTable.acquire_of_full held least
              rw [join_of_exhausted exhausted, tables_refuse]
              simp only [entriesOf, exhausted]
              exact recorded.others Entry.quiet_nil (fun _ => rfl)
                (fun _ settled => settled.remove inStep.sound peer) fewer
  | disconnect peer =>
      have gone := inStep.consistent.user?_releasePeer peer
      change Recorded _ _ ((server.users.releasePeer peer).2, server.toNode.roster)
      rw [entriesOf]
      split
      · next user held => exact recorded.release held gone (fun _ => id) fewer
      · next absent =>
        refine recorded.others Entry.quiet_nil (fun other => (gone other).trans ?_) (fun _ => id)
          fewer
        split
        · next same => rw [← same, absent]
        · rfl
  | receive peer channel flags data =>
      change Recorded _ _ (server.message peer data).tables
      rw [tables_message]
      exact recorded.others (Entry.quiet_ofOutgoing peer _) (fun _ => rfl) (fun _ => id) fewer

theorem handleAll (inStep : InStep limit capacity events server.tables)
    (recorded : Recorded events chronicle server.tables) :
    Recorded [] (chronicle ++ server.entriesOfAll events) (server.handleAll events).tables := by
  induction events generalizing server chronicle with
  | nil =>
      rw [entriesOfAll, List.append_nil]
      exact recorded
  | cons event rest ih =>
      rw [entriesOfAll, ← List.append_assoc]
      exact ih (inStep.told (server.handle_told event)) (recorded.handle inStep)

theorem works (recorded : Recorded [] chronicle server.tables)
    (inStep : InStep limit capacity [] server.tables) (calm : server.transport.Calm)
    (works : Works server entries done) : Recorded [] (chronicle ++ entries) done.tables := by
  have quietly (quiet : Entry.Quiet entries) (same : done.tables = server.tables) :
      Recorded [] (chronicle ++ entries) done.tables := by
    rw [same]
    exact recorded.others quiet (fun _ => rfl) (fun _ => id) (List.Subset.refl _)
  cases works with
  | poll =>
      rw [entriesOfPoll]
      cases polled : Node.poll server.toNode with
      | ok events node =>
          have drained := Node.drained_of_poll polled
          have pending : InStep limit capacity events (tables { server with toNode := node }) :=
            inStep.drained drained
          have coming : Recorded events chronicle (tables { server with toNode := node }) :=
            recorded.drained inStep.sound drained
          rw [attempt, poll_of_receive polled]
          exact coming.handleAll pending
      | error error node =>
          rw [attempt_poll_of_error polled, tables_of_poll_error calm polled, List.append_nil]
          exact recorded
  | kick user =>
      rw [entriesOfKick]
      cases seated : server.users.peer user with
      | error error =>
          rw [attempt_kick_of_peer_eq_error seated, List.append_nil]
          exact recorded
      | ok peer =>
          have consistent : server.users.Consistent := inStep.consistent
          have held := consistent.peer_eq_ok_iff.mp seated
          have gone (other : PeerHandle) : (server.users.release user).2.user? other =
              if peer = other then none else server.users.user? other := by
            rw [consistent.release_of_user? held]
            exact UserTable.user?_vacate _ _ _ _
          rw [tables_kick seated]
          exact recorded.release held gone (fun _ settled => settled.remove inStep.sound peer)
            (List.Subset.refl _)
  | sendTo user packet =>
      refine quietly ?_ (keeps_sendTo user packet server)
      rw [entriesOfSendTo]
      split
      · exact Entry.quiet_ofSend _ packet
      · exact Entry.quiet_nil
  | sendToPeer peer packet =>
      exact quietly (Entry.quiet_ofSend peer packet) (keeps_sendToPeer peer packet server)
  | broadcast packet =>
      exact quietly (Entry.quiet_ofBroadcast packet) (keeps_broadcast packet server)

end Recorded

end Server

end Courier

import Courier.Proofs.Chat.Admissions
import Courier.Proofs.Chat.Standing
import Courier.Proofs.Datagram.Letters
import Courier.Proofs.Peering

namespace Courier

open Datagram

namespace Node

variable {π κ : Type}

def inbox (node : Node π (Station Interface) κ) : List Receipt :=
  node.transport.process.network.inbox

theorem ignoresSending_inbox :
    IgnoresSending (inbox : Node π (Station Interface) κ → List Receipt) where
  scratch _ _ := rfl
  send peer channel data flags node :=
    (congrArg (fun station : Station Interface => station.process.network.inbox)
      (transport_call (.send peer channel data flags) node)).trans
        (Station.inbox_send peer channel data flags node.transport)

end Node

namespace Server

variable {κ : Type}

theorem inbox_refuse (server : Server ChatPacket (Station Interface) κ) (peer : PeerHandle) :
    (server.refuse peer).inbox = server.inbox :=
  (congrArg (fun station : Station Interface => station.process.network.inbox)
    (transport_refuse server peer)).trans (Station.inbox_disconnectPeer peer server.transport)

theorem inbox_kick (server : Server ChatPacket (Station Interface) κ) (user : UserId) :
    (attempt (kick user) server).inbox = server.inbox := by
  cases seated : server.users.peer user with
  | error error => rw [attempt_kick_of_peer_eq_error seated]
  | ok peer =>
      rw [attempt_kick_of_peer_eq_ok seated]
      exact inbox_refuse server peer

theorem inbox_handle (server : Server ChatPacket (Station Interface) κ) (event : RawEvent) :
    (server.handle event).inbox = server.inbox := by
  cases event with
  | connect peer =>
      change (server.join peer).inbox = server.inbox
      unfold join
      split
      · rfl
      · rfl
      · exact inbox_refuse server peer
  | disconnect peer => rfl
  | receive peer channel flags data =>
      exact congrArg Prod.snd (Node.ignoresSending_inbox.deliver peer _ _)

theorem inbox_handleAll (server : Server ChatPacket (Station Interface) κ)
    (events : List RawEvent) : (server.handleAll events).inbox = server.inbox := by
  induction events generalizing server with
  | nil => rfl
  | cons event rest ih => exact (ih _).trans (inbox_handle server event)

end Server

theorem Server.Works.stride {κ : Type} {entries : List Entry}
    {server after : Server ChatPacket (Station Interface) κ} (works : Works server entries after) :
    Stride server after := by
  cases works with
  | poll => exact .poll
  | kick user => exact .kick user
  | sendTo user packet => exact .sendTo user packet
  | sendToPeer peer packet => exact .sendToPeer peer packet
  | broadcast packet => exact .broadcast packet

theorem Server.inStep_of_works {κ : Type} {peers capacity : Nat} {entries : List Entry}
    {server after : Server ChatPacket (Station Interface) κ} (works : Works server entries after)
    (calm : server.transport.Calm) (inStep : InStep peers capacity [] server.tables) :
    InStep peers capacity [] after.tables := by
  cases works with
  | poll =>
      cases polled : Node.poll server.toNode with
      | ok events node =>
          have ran := poll_of_receive polled
          rw [attempt, ran]
          exact inStep_step inStep (.poll ran)
      | error error node =>
          rwa [attempt_poll_of_error polled, tables_of_poll_error calm polled]
  | kick user => exact inStep_step inStep (.kick user)
  | sendTo user packet => exact inStep_step inStep (.sendTo user packet)
  | sendToPeer peer packet => exact inStep_step inStep (.sendToPeer peer packet)
  | broadcast packet => exact inStep_step inStep (.broadcast packet)

/-- A server and one of its clients, also in the middle of a batch. A client whose link is there has
no event pending that would end it. -/
structure Standing (channel : UInt8) (users : UserTable) (pending : List RawEvent)
    (seen : List Frame) (dealings : Dealings) (attendance : Attendance) : Prop where
  footing : Footing channel users pending seen dealings attendance
  staying : ∀ {peer link}, dealings.facing = some (peer, link) → .disconnect peer ∉ pending

namespace Server

variable {κ : Type} {limit : UInt8} {address : SocketAddress} {config : Config}
  {registry : PacketRegistry ChatPacket} {peers capacity : Nat}
  {server after : Server ChatPacket (Station Interface) κ} {pending : List RawEvent}
  {seen : List Frame} {attendance : Attendance}

def Stands (address : SocketAddress) (channel : UInt8) (pending : List RawEvent)
    (seen : List Frame) (attendance : Attendance)
    (server : Server ChatPacket (Station Interface) κ) : Prop :=
  Standing channel server.users pending seen (server.transport.dealings address) attendance

/-- A server that keeps the address in mind, on a network on which nothing fails. -/
abbrev Attends (limit : UInt8) (address : SocketAddress) (config : Config)
    (registry : PacketRegistry ChatPacket) (server : Server ChatPacket (Station Interface) κ) :
    Prop :=
  server.Having (Node.Steady .server limit address config registry)

namespace Stands

theorem sendToPeer (attends : server.Attends limit address config registry)
    (stands : server.Stands address config.sendChannel pending seen attendance)
    {peer : PeerHandle} {packet : ChatPacket}
    (early : .connect peer ∈ pending → packet.relay? = none) :
    (attempt (Server.sendToPeer peer packet) server).Stands address config.sendChannel pending
      seen (attendance.afterAll address (Entry.ofSend peer packet)) := by
  have users : (attempt (Server.sendToPeer peer packet) server).users = server.users :=
    congrArg Prod.fst (keeps_sendToPeer peer packet server)
  rw [Stands, users, dealings_sendToPeer attends]
  refine ⟨stands.footing.tell early, fun {known link} facing => ?_⟩
  rw [Dealings.facing_tell] at facing
  exact stands.staying facing

theorem broadcast (attends : server.Attends limit address config registry)
    (consistent : server.users.Consistent)
    (stands : server.Stands address config.sendChannel pending seen attendance)
    (packet : ChatPacket) :
    (attempt (Server.broadcast packet) server).Stands address config.sendChannel pending seen
      (attendance.afterAll address (Entry.ofBroadcast packet)) := by
  have users : (attempt (Server.broadcast packet) server).users = server.users :=
    congrArg Prod.fst (keeps_broadcast packet server)
  rw [Stands, users, dealings_broadcast attends]
  refine ⟨stands.footing.tellAll (nodup_activePeers consistent) (mem_activePeers_iff consistent)
    packet, fun {known link} facing => ?_⟩
  rw [Dealings.facing_tellAll] at facing
  exact stands.staying facing

theorem deliver (attends : server.Attends limit address config registry)
    (consistent : server.users.Consistent)
    (stands : server.Stands address config.sendChannel pending seen attendance)
    (peer : PeerHandle) {outgoing : Outgoing ChatPacket}
    (plain : ∀ packet, outgoing = .reply packet → packet.relay? = none) :
    (Server.deliver peer outgoing server).Stands address config.sendChannel pending seen
      (attendance.afterAll address (Entry.ofOutgoing peer outgoing)) := by
  cases outgoing with
  | reply packet => exact stands.sendToPeer attends fun _ => plain packet rfl
  | broadcast packet => exact stands.broadcast attends consistent packet

theorem users_deliver (server : Server ChatPacket (Station Interface) κ) (peer : PeerHandle)
    (outgoing : Outgoing ChatPacket) : (Server.deliver peer outgoing server).users = server.users :=
  congrArg Prod.fst (Node.ignoresSending_roster.deliver peer [outgoing] server)

theorem deliverAll (attends : server.Attends limit address config registry)
    (consistent : server.users.Consistent)
    (stands : server.Stands address config.sendChannel pending seen attendance)
    (peer : PeerHandle) {outbox : List (Outgoing ChatPacket)}
    (plain : ∀ packet, .reply packet ∈ outbox → packet.relay? = none) :
    (outbox.foldl (fun server outgoing => Server.deliver peer outgoing server) server).Stands
      address config.sendChannel pending seen
      (attendance.afterAll address (outbox.flatMap (Entry.ofOutgoing peer))) := by
  induction outbox generalizing server attendance with
  | nil => exact stands
  | cons outgoing rest ih =>
      rw [List.foldl_cons, List.flatMap_cons, Attendance.afterAll_append]
      refine ih (having_deliver (Node.lasting_steady ..) peer outgoing attends) ?_ ?_ ?_
      · rwa [users_deliver]
      · refine stands.deliver attends consistent peer fun packet same => plain packet ?_
        rw [same]
        exact List.mem_cons_self
      · exact fun packet mem => plain packet (List.mem_cons_of_mem _ mem)

theorem message (attends : server.Attends limit address config registry)
    (consistent : server.users.Consistent) {peer : PeerHandle} {channel : UInt8}
    {flags : SendFlags} {data : Bytes}
    (stands : server.Stands address config.sendChannel (.receive peer channel flags data :: pending)
      seen attendance) :
    (server.message peer data).Stands address config.sendChannel pending seen
      (attendance.afterAll address
        (server.entriesOf (.receive peer channel flags data))) := by
  have footing : Footing config.sendChannel server.users pending seen
      (server.transport.dealings address) (attendance.afterAll address []) := by
    refine stands.footing.others (fun {known link} facing => ⟨fun _ coming => ?_, rfl, ?_⟩) nofun
    · exact (List.mem_cons.mp coming).resolve_left nofun
    · exact ⟨nofun, rfl⟩
  let user := server.users.user? peer
  let told := server.fire .message { peer, user, data }
  let begun : Server ChatPacket (Station Interface) κ :=
    { told with toNode := (told.toNode.process peer user data).2 }
  have ready : begun.Attends limit address config registry :=
    (Node.lasting_steady ..).record _ (having_fire (Node.lasting_steady ..) _ _ attends)
  have standing : begun.Stands address config.sendChannel pending seen attendance :=
    ⟨footing, fun facing mem => stands.staying facing (List.mem_cons_of_mem _ mem)⟩
  exact standing.deliverAll ready consistent peer fun packet => ChatPacket.relay?_of_reply

theorem leave (consistent : server.users.Consistent) {peer : PeerHandle}
    (stands : server.Stands address config.sendChannel (.disconnect peer :: pending) seen
      attendance) :
    (server.leave peer).Stands address config.sendChannel pending seen
      (attendance.afterAll address (server.entriesOf (.disconnect peer))) := by
  have entries (entry : Entry) (mem : entry ∈ server.entriesOf (.disconnect peer)) :
      entry = .released peer := by
    rw [entriesOf] at mem
    split at mem
    · exact List.mem_singleton.mp mem
    · cases mem
  refine ⟨stands.footing.others (fun {known link} facing => ?_) fun other mem => ?_,
    fun facing mem => stands.staying facing (List.mem_cons_of_mem _ mem)⟩
  · have different : peer ≠ known := by
      rintro rfl
      exact stands.staying facing List.mem_cons_self
    refine ⟨fun _ coming => (List.mem_cons.mp coming).resolve_left (by simp), ?_, ?_, ?_⟩
    · exact (consistent.user?_releasePeer peer known).trans (if_neg different)
    · intro mem
      cases entries _ mem
      exact different rfl
    · rw [List.filterMap_eq_nil_iff]
      intro entry mem
      rw [entries entry mem]
      rfl
  · cases entries _ mem

theorem join (attends : server.Attends limit address config registry) {peer : PeerHandle}
    (stands : server.Stands address config.sendChannel (.connect peer :: pending) seen
      attendance) :
    (server.join peer).Stands address config.sendChannel pending seen
      (attendance.afterAll address (server.entriesOf (.connect peer))) := by
  have attending := attends.1.attending
  have stays {known : PeerHandle} {link : Link}
      (facing : (server.transport.dealings address).facing = some (known, link)) :
      .disconnect known ∉ pending :=
    fun mem => stands.staying facing (List.mem_cons_of_mem _ mem)
  cases held : server.users.user? peer with
  | some user =>
      have known := UserTable.acquire_of_held held
      rw [join_of_known known]
      simp only [entriesOf, known]
      refine ⟨stands.footing.others (fun {known link} facing => ⟨fun new coming => ?_, rfl, ?_⟩)
        fun _ => List.not_mem_nil, stays⟩
      · refine (List.mem_cons.mp coming).resolve_left ?_
        rintro ⟨⟩
        rw [held] at new
        cases new
      · exact ⟨List.not_mem_nil, rfl⟩
  | none =>
      cases least : server.users.free.min? with
      | some user =>
          have seated := UserTable.acquire_of_least held least
          rw [join_of_seated seated]
          simp only [entriesOf, seated]
          refine ⟨stands.footing.seat held ?_, stays⟩
          simp only [attending.facing_iff]
          exact Option.map_eq_some_iff
      | none =>
          have exhausted := UserTable.acquire_of_full held least
          rw [join_of_exhausted exhausted, Stands, dealings_refuse attends]
          simp only [entriesOf, exhausted]
          refine ⟨stands.footing.sendAway peer (fun _ other => ⟨fun _ coming => ?_, rfl, ?_⟩)
              fun _ => List.not_mem_nil,
            fun facing => stays (Dealings.of_facing_part facing)⟩
          · refine (List.mem_cons.mp coming).resolve_left ?_
            rintro ⟨⟩
            exact other rfl
          · exact ⟨List.not_mem_nil, rfl⟩

theorem handle (attends : server.Attends limit address config registry)
    (consistent : server.users.Consistent) {event : RawEvent}
    (stands : server.Stands address config.sendChannel (event :: pending) seen attendance) :
    (server.handle event).Stands address config.sendChannel pending seen
      (attendance.afterAll address (server.entriesOf event)) := by
  cases event with
  | connect peer => exact stands.join attends
  | disconnect peer => exact stands.leave consistent
  | receive peer channel flags data => exact stands.message attends consistent

theorem handleAll {events : List RawEvent}
    (attends : server.Attends limit address config registry)
    (inStep : InStep peers capacity events server.tables)
    (stands : server.Stands address config.sendChannel events seen attendance) :
    (server.handleAll events).Stands address config.sendChannel [] seen
      (attendance.afterAll address (server.entriesOfAll events)) := by
  induction events generalizing server attendance with
  | nil => exact stands
  | cons event rest ih =>
      rw [entriesOfAll, Attendance.afterAll_append]
      exact ih (having_handle (Node.lasting_steady ..) event attends)
        (inStep.told (server.handle_told event)) (stands.handle attends inStep.consistent)

theorem drained (attends : server.Attends limit address config registry)
    (inStep : InStep peers capacity [] server.tables)
    (stands : server.Stands address config.sendChannel [] seen attendance)
    {events : List RawEvent} {node : Node ChatPacket (Station Interface) κ}
    (polled : Node.poll server.toNode = .ok events node)
    (once : ∀ requested,
      .connect requested ∉ (seen ++ server.transport.incoming address).tail)
    (offered : ∀ requested, .connect requested ∈ server.transport.incoming address →
      config.sendChannel < negotiate requested limit) :
    ∃ taken, server.transport.incoming address = taken ++ node.transport.incoming address ∧
      Stands address config.sendChannel events (seen ++ taken) attendance
        { server with toNode := node } := by
  have drained := Node.drained_of_poll polled
  obtain ⟨told, left⟩ := Station.takeBatch_of_poll (Node.of_poll_eq_ok polled)
  obtain ⟨attending, taken, split, hears⟩ := attends.1.attending.taken server.pollTimeout
  rw [told, left] at hears
  rw [left] at attending split
  have arrived : server.transport.incoming address =
      taken.filterMap (Station.frameOf? address) ++ node.transport.incoming address := by
    rw [Station.incoming, split, List.filterMap_append]
    rfl
  rw [arrived] at once offered
  have early (requested : UInt8) :
      .connect requested ∉ (seen ++ taken.filterMap (Station.frameOf? address)).tail := by
    intro mem
    refine once requested ?_
    rw [← List.append_assoc]
    exact (List.prefix_append _ _).sublist.tail.subset mem
  refine ⟨_, arrived, stands.footing.hears hears early
    (fun requested mem => offered requested (List.mem_append_left _ mem)) ?_, ?_⟩
  · -- A peer that held an id would have had its link before the batch.
    intro peer connects
    by_contra held
    obtain ⟨user, held⟩ := Option.ne_none_iff_exists'.mp held
    obtain ⟨link, linked⟩ := (inStep.user?_isSome_iff peer).mp ⟨user, held⟩
    have settled : server.toNode.roster.Settled peer :=
      ⟨inStep.sound.taken linked, fun found => inStep.serving.connected found⟩
    have spent : server.toNode.roster.Spent (.connect peer) := settled
    exact spent.not_mem_of_drained inStep.sound drained connects
  · -- A peer that has left has no link after the batch.
    intro peer link facing leaves
    have gone : node.roster.Gone peer :=
      Roster.spent_of_mem_drained inStep.sound drained leaves trivial
    have linked : node.roster.link? peer = some link :=
      ((attending.facing_iff peer link).mp facing).1
    rw [gone.unlinked] at linked
    cases linked

theorem kick (attends : server.Attends limit address config registry)
    (consistent : server.users.Consistent)
    (stands : server.Stands address config.sendChannel [] seen attendance) (user : UserId) :
    (attempt (Server.kick user) server).Stands address config.sendChannel [] seen
      (attendance.afterAll address (server.entriesOfKick user)) := by
  rw [entriesOfKick]
  cases seated : server.users.peer user with
  | error error =>
      rw [attempt_kick_of_peer_eq_error seated]
      exact stands
  | ok peer =>
      have held := consistent.peer_eq_ok_iff.mp seated
      rw [attempt_kick_of_peer_eq_ok seated, consistent.release_of_user? held]
      change Standing _ (server.users.vacate user peer) _ _
        ((server.refuse peer).transport.dealings address) _
      rw [dealings_refuse attends]
      refine ⟨stands.footing.sendAway peer
        (fun _ other => ⟨fun _ coming => coming, ?_, ?_, rfl⟩) (by simp), fun _ => List.not_mem_nil⟩
      · rw [UserTable.user?_vacate, if_neg (Ne.symm other)]
      · simpa using other

theorem sendTo (attends : server.Attends limit address config registry)
    (stands : server.Stands address config.sendChannel [] seen attendance) (user : UserId)
    (packet : ChatPacket) :
    (attempt (Server.sendTo user packet) server).Stands address config.sendChannel [] seen
      (attendance.afterAll address (server.entriesOfSendTo user packet)) := by
  rw [entriesOfSendTo]
  cases seated : server.users.peer user with
  | error error =>
      rw [attempt, sendTo_of_peer_eq_error seated]
      exact stands
  | ok peer =>
      rw [attempt_congr (sendTo_of_peer_eq_ok seated packet)]
      exact stands.sendToPeer attends fun mem => absurd mem List.not_mem_nil

/-- Whatever a server is asked to do, it takes what has arrived from the client in its order, or
leaves it where it is. -/
theorem works {entries : List Entry} (works : Works server entries after)
    (attends : server.Attends limit address config registry)
    (inStep : InStep peers capacity [] server.tables)
    (stands : server.Stands address config.sendChannel [] seen attendance)
    (once : ∀ requested,
      .connect requested ∉ (seen ++ server.transport.incoming address).tail)
    (offered : ∀ requested, .connect requested ∈ server.transport.incoming address →
      config.sendChannel < negotiate requested limit) :
    ∃ taken, server.transport.incoming address = taken ++ after.transport.incoming address ∧
      after.Stands address config.sendChannel [] (seen ++ taken)
        (attendance.afterAll address entries) := by
  have quiet (same : after.inbox = server.inbox)
      (standing : after.Stands address config.sendChannel [] seen
        (attendance.afterAll address entries)) :
      ∃ taken, server.transport.incoming address = taken ++ after.transport.incoming address ∧
        after.Stands address config.sendChannel [] (seen ++ taken)
          (attendance.afterAll address entries) := by
    refine ⟨[], congrArg (List.filterMap (Station.frameOf? address)) same.symm, ?_⟩
    rwa [List.append_nil]
  cases works with
  | poll =>
      rw [entriesOfPoll]
      cases polled : Node.poll server.toNode with
      | ok events node =>
          obtain ⟨taken, arrived, standing⟩ :=
            stands.drained attends inStep polled once offered
          have next := ((Node.lasting_steady ..).poll).of_eq_ok attends polled
          have pending := inStep.drained (Node.drained_of_poll polled)
          rw [attempt, poll_of_receive polled]
          refine ⟨taken, arrived.trans ?_, standing.handleAll next pending⟩
          have same := inbox_handleAll { server with toNode := node } events
          exact congrArg (taken ++ List.filterMap (Station.frameOf? address) ·) same.symm
      | error error node =>
          obtain ⟨reason, failed⟩ := Node.of_poll_eq_error polled
          have same := Station.eq_of_poll_eq_error attends.1.calm failed
          rw [attempt_poll_of_error polled]
          refine ⟨[], ?_, ?_⟩
          · rw [same, List.nil_append]
          · rw [Stands, same, List.append_nil]
            exact stands
  | kick user => exact quiet (inbox_kick server user) (stands.kick attends inStep.consistent user)
  | sendTo user packet =>
      exact quiet (congrArg Prod.snd (Node.ignoresSending_inbox.sendTo user packet server))
        (stands.sendTo attends user packet)
  | sendToPeer peer packet =>
      exact quiet (congrArg Prod.snd (Node.ignoresSending_inbox.sendToPeer peer packet server))
        (stands.sendToPeer attends fun coming => absurd coming List.not_mem_nil)
  | broadcast packet =>
      exact quiet (congrArg Prod.snd (Node.ignoresSending_inbox.broadcast packet server))
        (stands.broadcast attends inStep.consistent packet)

end Stands

end Server

end Courier

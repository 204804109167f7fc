import Courier.Proofs.Datagram.Farewells
import Courier.Proofs.Peering
import Courier.Proofs.Server.Orderly

namespace Courier

open Datagram

/-- Where no peer has an id, all ids are free. -/
theorem UserTable.Consistent.vacant_of_seatless {table : UserTable} (consistent : table.Consistent)
    (nobody : ∀ peer, table.user? peer = none) :
    table.entries = [] ∧ ∀ user, user ∈ table.free ↔ user.index < table.capacity := by
  have unheld (user : UserId) (peer : PeerHandle) : table.slot? user ≠ some (some peer) := by
    intro held
    cases (nobody peer).symm.trans ((consistent.user?_eq_some_iff peer user).mpr held)
  constructor
  · rw [List.eq_nil_iff_forall_not_mem]
    rintro ⟨user, peer⟩ mem
    exact unheld user peer ((mem_entries consistent.capacity_le user peer).mp mem)
  · intro user
    rw [consistent.mem_free_iff, ← exists_slot?_iff, Option.exists]
    constructor
    · exact .inl
    · rintro (vacant | ⟨peer, held⟩)
      · exact vacant
      · exact absurd held (unheld user peer)

namespace Server

variable {π ν κ : Type} [Network ν]

/-! The end of a server: what it does to the network, and that it is final. -/

theorem transport_shutdown {server : Server π (Station ν) κ} (running : server.running = true) :
    server.shutdown.transport = (attempt Station.disconnect server.transport).stop := by
  rw [shutdown_of_running running]
  rfl

/-- A farewell to each link, and then the socket is closed. -/
theorem network_shutdown {server : Server π (Station ν) κ} {host : Host}
    (running : server.running = true) (hosting : server.transport.endpoint.host = some host) :
    server.shutdown.transport.process.network =
      Network.close host.socket
        (sendFarewells host.socket host.addresses server.transport.process.network) := by
  rw [transport_shutdown running, attempt_congr (Station.disconnect_eq_inOrder hosting),
    Station.stop_disconnectInOrder Std.TreeMap.nodup_keys hosting, host.addressesOf_keys]
  rfl

/-- In which order the links are told shows in the network alone. -/
theorem stop_inOrder {server : Server π (Station ν) κ} {host : Host}
    (running : server.running = true) (hosting : server.transport.endpoint.host = some host)
    {order : List PeerHandle} (distinct : order.Nodup) :
    (attempt (Station.disconnectInOrder order) server.transport).stop =
      server.shutdown.transport.setNetwork (Network.close host.socket
        (sendFarewells host.socket (host.addressesOf order) server.transport.process.network)) := by
  rw [transport_shutdown running, attempt_congr (Station.disconnect_eq_inOrder hosting),
    Station.stop_disconnectInOrder distinct hosting,
    Station.stop_disconnectInOrder Std.TreeMap.nodup_keys hosting]
  rfl

theorem host_shutdown {server : Server π (Station ν) κ} {capacity : Nat}
    (orderly : server.standing.Orderly capacity) :
    server.shutdown.running = false ∧ server.shutdown.toNode.roster.host = none := by
  cases running : server.running with
  | false =>
      rw [shutdown_of_not_running running]
      refine ⟨running, ?_⟩
      have hosted : server.toNode.roster.host.isSome = server.running := orderly.hosted
      rw [running] at hosted
      simpa using hosted
  | true =>
      rw [shutdown_of_running running]
      exact ⟨rfl, congrArg Roster.host (Station.roster_stop _)⟩

theorem notices_shutdown (server : Server π (Station ν) κ) :
    server.shutdown.toNode.notices = server.toNode.notices := by
  cases running : server.running with
  | false => rw [shutdown_of_not_running running]
  | true =>
      rw [shutdown_of_running running]
      exact (server.toNode.notices_record _).trans (List.append_nil _)

omit [Network ν] in
theorem Turned.finished {input : ServerInput π ν} {before after : Standing} {told : List RawEvent}
    (turned : Turned input before told after) (finished : before.running = false) :
    after.running = false := by
  cases turned with
  | polled drained some handled => exact handled.running_eq.trans finished
  | closed => rfl
  | _ => exact finished

variable [PacketType π]

theorem running_after {server : Server π (Station ν) κ} (finished : server.running = false)
    (history : List (ServerInput π ν)) : (server.after history).running = false := by
  induction history generalizing server with
  | nil => exact finished
  | cons input rest ih => exact ih ((server.turned_meet input).finished finished)

omit [PacketType π] in
/-- Nobody is left, if the server was still running or nobody but the server gives out ids. -/
theorem seatless_shutdown {server : Server π (Station ν) κ}
    (left : server.running = true ∨ server.standing.Vacated) (peer : PeerHandle) :
    server.shutdown.users.user? peer = none := by
  cases running : server.running with
  | false =>
      rw [shutdown_of_not_running running]
      rcases left with on | vacated
      · cases running.symm.trans on
      · exact vacated running peer
  | true =>
      rw [shutdown_of_running running]
      exact UserTable.user?_clear _ peer

/-- However many of the farewells fail, every link is sent one, and then there is no link, no host
and no user, and nothing that can be done brings a server back that has ended. Leaving as such
empties both tables of a host, and succeeds exactly if all farewells could be sent. All of this is
so in whichever order the links are told. -/
theorem shutdown_of_history {node fresh : Node π (Station ν) κ} {built : Server π (Station ν) κ}
    (started : build node = .ok built fresh) (history : List (ServerInput π ν)) :
    let server := built.after history
    let ended := server.shutdown
    (ended.running = false ∧ ended.transport.endpoint.host = none ∧
        (∀ peer, ended.toNode.roster.link? peer = none) ∧
        ended.toNode.notices = server.toNode.notices) ∧
      ((server.running = true ∨ ∀ call, .shared call ∉ history) →
        ended.users.entries = [] ∧ (∀ peer, ended.users.user? peer = none) ∧
          ∀ user, user ∈ ended.users.free ↔ user.index < node.config.maxUsers.toNat) ∧
      (server.running = true →
        ∃ host, server.transport.endpoint.host = some host ∧ host.addresses.Nodup ∧
          ended.transport.process.network =
            Network.close host.socket
              (sendFarewells host.socket host.addresses server.transport.process.network) ∧
          ended.acts = server.acts ++ [.called .disconnect, .called .stop] ∧
          ∀ order : List PeerHandle, order.Perm host.links.keys →
            (host.addressesOf order).Perm host.addresses ∧
              (attempt (Station.disconnectInOrder order) server.transport).stop =
                ended.transport.setNetwork (Network.close host.socket
                  (sendFarewells host.socket (host.addressesOf order)
                    server.transport.process.network))) ∧
      (server.running = false → ended = server) ∧
      (∀ later, (ended.after later).shutdown = ended.after later) ∧
      ∀ (process : Process ν) (past : List (Occurrence ν)),
        let station := Station.after { process } past
        (station.endpoint.host = none → Station.disconnect station = .ok () station) ∧
          ∀ host, station.endpoint.host = some host →
            Station.disconnect station = Station.disconnectInOrder host.links.keys station ∧
            host.addressesOf host.links.keys = host.addresses ∧
            ∀ order : List PeerHandle, order.Perm host.links.keys →
              let told := host.addressesOf order
              told.Perm host.addresses ∧
                ((∃ after, Station.disconnectInOrder order station = .ok () after) ↔
                  TakesFarewells host.socket told station.process.network) ∧
                (∀ error after, Station.disconnectInOrder order station = .error error after →
                  ∃ reason, firstUnsent? host.socket told station.process.network =
                      some reason ∧
                    error = .sendFailed reason) ∧
                ∃ emptied : Host, emptied.links.isEmpty ∧ emptied.byAddress.isEmpty ∧
                  emptied.settings = host.settings ∧
                  attempt (Station.disconnectInOrder order) station =
                    (station.setHost (some emptied)).setNetwork
                      (sendFarewells host.socket told station.process.network) := by
  intro server ended
  have orderly : server.standing.Orderly node.config.maxUsers.toNat :=
    orderly_after (orderly_of_build started) history
  have last : ended.standing.Orderly node.config.maxUsers.toNat :=
    orderly.turned server.turned_shutdown
  obtain ⟨finished, vacant⟩ := host_shutdown orderly
  refine ⟨⟨finished, vacant, ?_, notices_shutdown server⟩, ?_, ?_, shutdown_of_not_running, ?_, ?_⟩
  · intro peer
    rw [Roster.link?, vacant]
    rfl
  · intro left
    have nobody := seatless_shutdown (left.imp_right (vacated_of_build started))
    obtain ⟨empty, free⟩ := last.consistent.vacant_of_seatless nobody
    refine ⟨empty, nobody, fun user => ?_⟩
    rw [← last.capacity_eq]
    exact free user
  · intro running
    have hosted : server.toNode.roster.host.isSome := orderly.hosted.trans running
    obtain ⟨host, hosting⟩ := Option.isSome_iff_exists.mp hosted
    refine ⟨host, hosting, (orderly.inverse hosting).nodup_addresses,
      network_shutdown running hosting, ?_, fun order all =>
        ⟨Host.addressesOf_perm all, stop_inOrder running hosting (Host.nodup_of_perm all)⟩⟩
    change server.shutdown.acts = _
    rw [shutdown_of_running running]
    rfl
  · intro later
    exact shutdown_of_not_running (running_after finished later)
  · intro process past station
    refine ⟨Station.disconnect_eq_of_vacant, fun host hosting =>
      ⟨Station.disconnect_eq_inOrder hosting, host.addressesOf_keys, fun order all => ?_⟩⟩
    have sound := Station.sound_of_history process past hosting
    have distinct := Host.nodup_of_perm all
    exact ⟨Host.addressesOf_perm all, Station.disconnectInOrder_eq_ok_iff distinct hosting,
      fun error after failed => Station.of_disconnectInOrder_eq_error distinct hosting failed,
      _, Host.isEmpty_links_of_perm all, sound.isEmpty_byAddress_of_perm all,
      Host.settings_foldl_remove order host, Station.attempt_disconnectInOrder_eq distinct hosting⟩

def foyer : Node ChatPacket (Station Loopback) Unit :=
  { door with handlers := { onDisconnect := some () } }

def visitor : SocketAddress :=
  { ip := .v4 0x7f000001, port := 4000 }

/-- These datagrams come from the visitor. -/
def arrival (frames : List Frame) : Loopback :=
  let socket : SocketAddress := { ip := .v4 0x7f000001, port := 8080 }
  { queues := .ofList [(socket, frames.map fun frame => Receipt.datagram visitor frame.encode)] }

def vanished : List (ServerInput ChatPacket Loopback) :=
  [.elsewhere (arrival [.connect 1]) 0, .poll, .elsewhere { unreachable := [visitor] } 0]

/-- What is to be seen of the server once the visitor is out of reach. -/
structure Vanished (server : Server ChatPacket (Station Loopback) Unit) : Prop where
  running : server.running = true
  onDisconnect : server.handlers.onDisconnect = some ()
  seated : server.users.user? ⟨1⟩ = some ⟨0⟩
  linked : ∀ host, server.transport.endpoint.host = some host → host.addresses = [visitor]
  unsent : ∀ host, server.transport.endpoint.host = some host →
    ¬ TakesFarewells host.socket [visitor] server.transport.process.network

theorem exists_vanished :
    ∃ built fresh, build foyer = .ok built fresh ∧ Vanished (built.after vanished) := by
  have ran : (match build foyer with
      | .ok built _ =>
        match Node.poll (built.after (vanished.take 1)).toNode with
        | .ok events node =>
          decide (events = [.connect ⟨1⟩] ∧ built.running = true ∧
            node.handlers.onDisconnect = some () ∧
            ∀ host ∈ node.transport.endpoint.host, host.addresses = [visitor] ∧
              firstUnsent? host.socket [visitor] { ({} : Loopback) with unreachable := [visitor] }
                ≠ none)
        | .error _ _ => false
      | .error _ _ => false) = true := by
    decide +kernel
  split at ran
  · next built fresh started =>
    split at ran
    · next events node received =>
      obtain ⟨rfl, running, onDisconnect, there⟩ := of_decide_eq_true ran
      have polled := attempt_poll_of_join received (acquire_of_build started (by decide) ⟨1⟩)
      have after : built.after vanished =
          (attempt poll (built.after (vanished.take 1))).meet
            (.elsewhere { unreachable := [visitor] } 0) := rfl
      refine ⟨built, fresh, started, ?_⟩
      rw [after, polled]
      exact {
        running := running
        onDisconnect := onDisconnect
        seated := (UserTable.user?_seat _ _ _ _).trans (if_pos rfl)
        linked host hosting := (there host hosting).1
        unsent host hosting all :=
          (there host hosting).2 ((firstUnsent?_eq_none_iff _ _ _).mpr all) }
    · cases ran
  · cases ran

/-- The farewell fails, and the visitor is gone all the same. -/
theorem shutdown_of_history_vanished :
    ∃ built fresh host, build foyer = .ok built fresh ∧
      (built.after vanished).users.user? ⟨1⟩ = some ⟨0⟩ ∧
      (built.after vanished).transport.endpoint.host = some host ∧ host.addresses = [visitor] ∧
      ¬ TakesFarewells host.socket [visitor] (built.after vanished).transport.process.network ∧
      (built.after vanished).shutdown.transport.process.network =
        Network.close host.socket
          (sendFarewells host.socket [visitor] (built.after vanished).transport.process.network) ∧
      (built.after vanished).shutdown.users.entries = [] ∧
      (built.after vanished).shutdown.transport.endpoint.host = none := by
  obtain ⟨built, fresh, started, before⟩ := exists_vanished
  obtain ⟨⟨-, vacant, -⟩, emptied, told, -⟩ := shutdown_of_history started vanished
  obtain ⟨host, hosting, -, network, -⟩ := told before.running
  rw [before.linked host hosting] at network
  exact ⟨built, fresh, host, started, before.seated, hosting, before.linked host hosting,
    before.unsent host hosting, network, (emptied (.inl before.running)).1, vacant⟩

end Server

end Courier

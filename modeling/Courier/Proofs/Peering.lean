import Courier.Catalog
import Courier.Proofs.Datagram.Handshake
import Courier.Proofs.Lasting
import Courier.Proofs.Refusals
import Courier.Proofs.Users.Consistent

namespace Courier

open Datagram

/-! What a server and a client do: their calls, and each part of a call on its own, so that what a
server is in the middle of a poll or of a broadcast is among what it comes to be. -/

section

variable {π τ κ : Type} [PacketType π] [Transport τ]

inductive Server.Stride : Server π τ κ → Server π τ κ → Prop
  | poll {server : Server π τ κ} : Stride server (attempt poll server)
  | kick {server : Server π τ κ} (user : UserId) : Stride server (attempt (kick user) server)
  | sendTo {server : Server π τ κ} (user : UserId) (packet : π) :
      Stride server (attempt (sendTo user packet) server)
  | sendToPeer {server : Server π τ κ} (peer : PeerHandle) (packet : π) :
      Stride server (attempt (sendToPeer peer packet) server)
  | broadcast {server : Server π τ κ} (packet : π) :
      Stride server (attempt (broadcast packet) server)
  | shutdown {server : Server π τ κ} : Stride server server.shutdown
  | drained {server : Server π τ κ} : Stride server (attempt (asNode Node.poll) server)
  | handled {server : Server π τ κ} (event : RawEvent) : Stride server (server.handle event)
  | recorded {server : Server π τ κ} (acts : List (Act κ)) :
      Stride server (server.onNode (·.record acts))
  | delivered {server : Server π τ κ} (origin : PeerHandle) (outgoing : Outgoing π) :
      Stride server (deliver origin outgoing server)
  | encoded {server : Server π τ κ} (packet : π) :
      Stride server (attempt (asNode (Node.encode packet)) server)
  | sent {server : Server π τ κ} (peer : PeerHandle) (data : Bytes) :
      Stride server (attempt (asNode (Node.sendBytes peer data)) server)

inductive Client.Stride : Client π τ κ → Client π τ κ → Prop
  | poll {client : Client π τ κ} : Stride client (attempt poll client)
  | send {client : Client π τ κ} (packet : π) : Stride client (attempt (send packet) client)
  | sendBytes {client : Client π τ κ} (data : Bytes) :
      Stride client (attempt (sendBytes data) client)
  | disconnect {client : Client π τ κ} : Stride client (attempt disconnect client)
  | drained {client : Client π τ κ} : Stride client (attempt (asNode Node.poll) client)
  | handled {client : Client π τ κ} (event : RawEvent) : Stride client (client.handle event)
  | recorded {client : Client π τ κ} (acts : List (Act κ)) :
      Stride client (client.onNode (·.record acts))
  | delivered {client : Client π τ κ} (outgoing : Outgoing π) :
      Stride client (client.deliver outgoing)

variable {holds : Node π τ κ → Prop} (lasting : Node.Lasting holds)

include lasting

theorem Server.Having.stride {server after : Server π τ κ} (first : server.Having holds)
    (stride : Stride server after) : after.Having holds := by
  cases stride with
  | poll => exact preserves_poll lasting first
  | kick user => exact preserves_kick lasting user first
  | sendTo user packet => exact preserves_sendTo lasting user packet first
  | sendToPeer peer packet => exact preserves_sendToPeer lasting peer packet first
  | broadcast packet => exact preserves_broadcast lasting packet first
  | shutdown => exact having_shutdown lasting first
  | drained => exact preserves_asNode lasting.poll first
  | handled event => exact having_handle lasting event first
  | recorded acts => exact lasting.record acts first
  | delivered origin outgoing => exact having_deliver lasting origin outgoing first
  | encoded packet => exact preserves_asNode (lasting.encode packet) first
  | sent peer data => exact preserves_asNode (lasting.sendBytes peer data) first

theorem Client.Having.stride {client after : Client π τ κ} (first : client.Having holds)
    (stride : Stride client after) : after.Having holds := by
  cases stride with
  | poll => exact preserves_poll lasting first
  | send packet => exact preserves_send lasting packet first
  | sendBytes data => exact preserves_sendBytes lasting data first
  | disconnect => exact preserves_disconnect lasting first
  | drained => exact preserves_asNode lasting.poll first
  | handled event => exact having_handle lasting event first
  | recorded acts => exact lasting.record acts first
  | delivered outgoing => exact having_deliver lasting outgoing first

end

/-- A server and a client, and a network that loses, repeats, delays and reorders what they send to
each other. -/
structure Peering (π κ : Type) where
  server : Server π (Station Interface) κ
  client : Client π (Station Interface) κ

namespace Peering

variable {π κ : Type}

def station (peering : Peering π κ) : Role → Station Interface
  | .server => peering.server.transport
  | .client => peering.client.transport

def onStation (role : Role) (change : Station Interface → Station Interface)
    (peering : Peering π κ) : Peering π κ :=
  match role with
  | .server =>
    { peering with
      server := peering.server.onNode fun node => node.withTransport (change node.transport) }
  | .client =>
    { peering with
      client := peering.client.onNode fun node => node.withTransport (change node.transport) }

inductive Step [PacketType π] (address : Role → SocketAddress) :
    Peering π κ → Peering π κ → Prop
  | served {peering : Peering π κ} {server : Server π (Station Interface) κ}
      (stride : peering.server.Stride server) : Step address peering { peering with server }
  | asked {peering : Peering π κ} {client : Client π (Station Interface) κ}
      (stride : peering.client.Stride client) : Step address peering { peering with client }
  | arrived {peering : Peering π κ} (role : Role) {bytes : Bytes}
      (sent : bytes ∈ (peering.station role.other).process.network.lettersTo (address role)) :
      Step address peering
        (peering.onStation role (·.arrive (.datagram (address role.other) bytes)))
  | strayed {peering : Peering π κ} (role : Role) {item : Receipt}
      (stray : Interface.letterOf? (address role.other) item = none) :
      Step address peering (peering.onStation role (·.arrive item))
  | shifted {peering : Peering π κ} (role : Role) (names : String → Option SocketAddress)
      (binding : SocketAddress → Except String SocketAddress) (faults : List (Option String))
      (handles : Nat) :
      Step address peering (peering.onStation role (·.shift names binding faults handles))

/-- The node of a process that has nothing to do with the address. -/
def Untouched (address : SocketAddress) (node : Node π (Station Interface) κ) : Prop :=
  node.transport.endpoint = {} ∧ Station.Unacquainted address node.transport.process

/-- The server has been built, and the client has asked for its address. -/
inductive Begins (address : Role → SocketAddress) : Peering π κ → Prop
  | begins {gate fresh door ready : Node π (Station Interface) κ}
      {server : Server π (Station Interface) κ} {client : Client π (Station Interface) κ}
      (quiet : Untouched (address .client) gate) (silent : Untouched (address .server) door)
      (named : door.transport.process.network.names s!"{door.config.host}:{door.config.port}" =
        some (address .server))
      (built : Server.build gate = .ok server fresh)
      (connected : Client.connect door = .ok client ready) : Begins address ⟨server, client⟩

end Peering

theorem Config.channels_ne_zero_of_validate {config : Config} (valid : config.validate = .ok ()) :
    config.channels ≠ 0 := by
  cases flaw : config.flaw? with
  | some flaw' => simp [validate, flaw] at valid
  | none => exact ((flaw?_eq_none_iff config).mp flaw).2.1

theorem Server.begun_of_build {π τ κ : Type} [Transport τ] {node fresh : Node π τ κ}
    {server : Server π τ κ} (built : build node = .ok server fresh) :
    node.config.validate = .ok () ∧ server.config = node.config ∧
      server.registry = node.registry ∧
      ∃ started : τ, Transport.start node.transport = .ok () started ∧
        Transport.createServer node.config.host node.config.port node.config.channels
          node.config.maxPeers.toNat started = .ok () server.transport := by
  obtain ⟨rfl, valid, ready, begun, created⟩ := of_build_eq_ok built
  obtain ⟨startRan, readyConfig, readyRegistry⟩ := Node.of_call_eq_ok begun
  obtain ⟨createRan, freshConfig, freshRegistry⟩ := Node.of_call_eq_ok created
  rw [readyConfig] at createRan freshConfig
  exact ⟨valid, freshConfig, freshRegistry.trans readyRegistry, _, startRan, createRan⟩

theorem Server.attempt_poll_of_join {π τ κ : Type} [Transport τ] [PacketType π]
    {server : Server π τ κ} {node : Node π τ κ} {peer : PeerHandle} {user : UserId}
    {users : UserTable} (received : Node.poll server.toNode = .ok [.connect peer] node)
    (seated : server.users.acquire peer = (.ok user, users)) :
    attempt poll server =
      Server.fire { node with users, running := server.running } .connect
        { peer, user := some user } := by
  rw [attempt, poll_of_receive received]
  exact join_of_seated seated

theorem Server.users_of_build {π τ κ : Type} [Transport τ] {node fresh : Node π τ κ}
    {server : Server π τ κ} (built : build node = .ok server fresh) :
    server.users = .ofSize node.config.maxUsers.toNat := by
  obtain ⟨rfl, -, ready, begun, created⟩ := of_build_eq_ok built
  obtain ⟨-, readyConfig, -⟩ := Node.of_call_eq_ok begun
  obtain ⟨-, freshConfig, -⟩ := Node.of_call_eq_ok created
  change fresh.config.userTable = _
  rw [freshConfig, readyConfig]
  rfl

theorem Server.acquire_of_build {π τ κ : Type} [Transport τ] {node fresh : Node π τ κ}
    {server : Server π τ κ} (built : build node = .ok server fresh)
    (room : 0 < node.config.maxUsers.toNat) (peer : PeerHandle) :
    server.users.acquire peer =
      (.ok ⟨0⟩, (UserTable.ofSize node.config.maxUsers.toNat).seat ⟨0⟩ peer) := by
  rw [users_of_build built]
  exact UserTable.acquire_ofSize room peer

namespace Peering

variable {π κ : Type} {address : Role → SocketAddress} {start : Peering π κ}

theorem Begins.channels_ne_zero (begins : start.Begins address) :
    start.server.config.channels ≠ 0 ∧ start.client.config.channels ≠ 0 := by
  obtain ⟨-, -, -, built, connected⟩ := begins
  obtain ⟨gateValid, serverConfig, -⟩ := Server.begun_of_build built
  obtain ⟨doorValid, clientConfig, -⟩ := Client.begun_of_connect connected
  dsimp only
  rw [serverConfig, clientConfig]
  exact ⟨Config.channels_ne_zero_of_validate gateValid,
    Config.channels_ne_zero_of_validate doorValid⟩

theorem eq_of_idle {station : Station Interface} (idle : station.endpoint = {}) :
    station = { process := station.process } := by
  rw [← idle]

theorem opened_of_build {place : SocketAddress} {gate fresh : Node π (Station Interface) κ}
    {server : Server π (Station Interface) κ} (quiet : Untouched place gate)
    (built : Server.build gate = .ok server fresh) :
    server.transport.Opened server.config.channels place := by
  obtain ⟨idle, unacquainted⟩ := quiet
  obtain ⟨-, config, -, started, startRan, createRan⟩ := Server.begun_of_build built
  rw [eq_of_idle idle] at startRan
  cases startRan
  rw [config]
  exact ⟨_, _, _, _, unacquainted, createRan⟩

theorem asking_of_connect {home : SocketAddress} {door ready : Node π (Station Interface) κ}
    {client : Client π (Station Interface) κ} (silent : Untouched home door)
    (named : door.transport.process.network.names s!"{door.config.host}:{door.config.port}" =
      some home)
    (connected : Client.connect door = .ok client ready) :
    client.transport.Asking client.config.channels client.config.channels home := by
  obtain ⟨idle, unacquainted⟩ := silent
  obtain ⟨-, config, -, -, started, made, startRan, createRan, askRan⟩ :=
    Client.begun_of_connect connected
  rw [eq_of_idle idle] at startRan
  cases startRan
  rw [config]
  refine ⟨_, _, _, made, unacquainted, named, createRan, ?_⟩
  rw [Station.meet_connect]
  change attempt (Transport.connect _ _ _) made = _
  rw [attempt, askRan]

theorem Begins.opened (begins : start.Begins address) :
    start.server.transport.Opened start.server.config.channels (address .client) := by
  obtain ⟨quiet, -, -, built, -⟩ := begins
  exact opened_of_build quiet built

theorem Begins.asking (begins : start.Begins address) :
    start.client.transport.Asking start.client.config.channels start.client.config.channels
      (address .server) := by
  obtain ⟨-, silent, named, -, connected⟩ := begins
  exact asking_of_connect silent named connected

/-- What they keep to all the time. -/
def Keeps (agreement : Agreement) (role : Role) (address : SocketAddress) (config : Config)
    (registry : PacketRegistry π) (node : Node π (Station Interface) κ) : Prop :=
  agreement.Party role config.channels address node.transport ∧ node.config = config ∧
    node.registry = registry

theorem lasting_keeps (agreement : Agreement) (role : Role) (address : SocketAddress)
    (config : Config) (registry : PacketRegistry π) :
    Node.Lasting (Keeps agreement role address config registry :
      Node π (Station Interface) κ → Prop) := by
  refine Node.lasting_transport ?_ config registry
  rintro call (plain | ⟨timeout, rfl⟩) station party
  · exact party.call plain
  · exact party.poll timeout

structure Agrees (agreement : Agreement) (address : Role → SocketAddress)
    (start now : Peering π κ) : Prop where
  server : now.server.Having
    (Keeps agreement .server (address .client) start.server.config start.server.registry)
  client : now.client.Having
    (Keeps agreement .client (address .server) start.client.config start.client.registry)

variable {agreement : Agreement} {now after : Peering π κ}

theorem Agrees.onStation (agrees : Agrees agreement address start now) (role : Role)
    {change : Station Interface → Station Interface}
    (kept : ∀ {limit station}, agreement.Party role limit (address role.other) station →
      agreement.Party role limit (address role.other) (change station)) :
    Agrees agreement address start (now.onStation role change) := by
  obtain ⟨⟨serving, serverSame⟩, asking, clientSame⟩ := agrees
  cases role with
  | server => exact ⟨⟨kept serving, serverSame⟩, asking, clientSame⟩
  | client => exact ⟨⟨serving, serverSame⟩, kept asking, clientSame⟩

/-- Whatever one of them has sent is in keeping with the agreement. -/
theorem Agrees.speaks_of_letter (agrees : Agrees agreement address start now) (role : Role)
    {bytes : Bytes}
    (sent : bytes ∈ (now.station role).process.network.lettersTo (address role.other))
    (source : SocketAddress) :
    ∀ frame, Station.frameOf? source (.datagram source bytes) = some frame →
      agreement.Speaks role frame := by
  cases role with
  | server => exact agrees.server.1.speaks_of_letter sent source
  | client => exact agrees.client.1.speaks_of_letter sent source

variable [PacketType π]

theorem Agrees.step (agrees : Agrees agreement address start now) (step : Step address now after) :
    Agrees agreement address start after := by
  cases step with
  | served stride =>
      exact ⟨agrees.server.stride (lasting_keeps _ _ _ _ _) stride, agrees.client⟩
  | asked stride =>
      exact ⟨agrees.server, agrees.client.stride (lasting_keeps _ _ _ _ _) stride⟩
  | arrived role sent =>
      have speaks := agrees.speaks_of_letter role.other
        (by rwa [Role.other_other]) (address role.other)
      exact agrees.onStation role fun party => party.arrive speaks
  | strayed role stray =>
      refine agrees.onStation role fun party => party.arrive fun frame read => ?_
      rw [Station.frameOf?, stray] at read
      cases read
  | shifted role names binding faults handles =>
      exact agrees.onStation role fun party => party.shift names binding faults handles

theorem Agrees.run (agrees : Agrees agreement address start start)
    (run : Relation.ReflTransGen (Step address) start now) :
    Agrees agreement address start now := by
  induction run with
  | refl => exact agrees
  | tail _ last ih => exact ih.step last

/-- Once both have shaken hands there are as many channels as the one of them has that has fewer.
What is sent on a channel that only the other one lacks is refused, whatever sends it: a send to a
user or to a peer, each send of a broadcast, and a send of the client. All else goes through. -/
theorem refused_iff_of_run {address : Role → SocketAddress} {start now : Peering π κ}
    (begins : start.Begins address) (run : Relation.ReflTransGen (Step address) start now) :
    let granted := min start.client.config.channels start.server.config.channels
    (∀ peer link, now.server.toNode.roster.link? peer = some link →
        link.address = address .client →
        let here := granted ≤ start.server.config.sendChannel
        link.channels = granted ∧
          (∀ packet, Refused (Server.sendToPeer peer packet) now.server ↔
            Encodable packet ∧ here) ∧
          (∀ user, now.server.users.peer user = .ok peer → ∀ packet,
            Refused (Server.sendTo user packet) now.server ↔ Encodable packet ∧ here) ∧
          ∀ data, Refused (Node.sendBytes peer data) now.server.toNode ↔ here) ∧
      ∀ link, now.client.toNode.roster.link? now.client.server = some link →
        link.state = .connected →
        let here := granted ≤ start.client.config.sendChannel
        link.channels = granted ∧
          (∀ packet, Refused (Client.send packet) now.client ↔
            now.client.state = .connected ∧ Encodable packet ∧ here) ∧
          ∀ data, Refused (Client.sendBytes data) now.client ↔
            now.client.state = .connected ∧ here := by
  intro granted
  obtain ⟨serves, offers⟩ := begins.channels_ne_zero
  let agreement : Agreement :=
    { limit := start.server.config.channels
      asked := start.client.config.channels
      limit_ne_zero := serves
      asked_ne_zero := offers }
  have asked : agreement.asked =
      negotiate start.client.config.channels start.client.config.channels := by
    rw [negotiate, if_neg offers]
    exact (if_pos (UInt8.le_refl _)).symm
  have server : agreement.Party .server start.server.config.channels (address .client)
      start.server.transport := .opened begins.opened
  have client := (Agreement.Party.asking asked begins.asking).1
  obtain ⟨⟨serving, serverConfig, -⟩, asking, clientConfig, -⟩ :=
    Agrees.run ⟨⟨server, rfl, rfl⟩, client, rfl, rfl⟩ run
  refine ⟨fun peer link linked there => ?_, fun link linked connected => ?_⟩
  · obtain ⟨host, hosting, found⟩ := Option.bind_eq_some_iff.mp linked
    obtain ⟨connected, channels⟩ := serving.fits hosting found there
    intro here
    have same : link.channels ≤ now.server.config.sendChannel ↔ here := by
      rw [channels, serverConfig]
      rfl
    refine ⟨channels, fun packet => ?_, fun user held packet => ?_, fun data => ?_⟩
    · rw [Server.refused_sendToPeer_iff linked connected packet, same]
    · rw [Server.refused_sendTo_iff held linked connected packet, same]
    · rw [Node.refused_sendBytes_iff linked connected data, same]
  · obtain ⟨host, hosting, found⟩ := Option.bind_eq_some_iff.mp linked
    have there := (asking.attending.host hosting).confined rfl found
    have channels := (asking.fits hosting found there).channels_eq connected
    intro here
    have same : link.channels ≤ now.client.config.sendChannel ↔ here := by
      rw [channels, clientConfig]
      rfl
    refine ⟨channels, fun packet => ?_, fun data => ?_⟩
    · rw [Client.refused_send_iff linked connected packet, same]
    · rw [Client.refused_sendBytes_iff linked connected data, same]

def gate : Node ChatPacket (Station Interface) Unit where
  transport := { process := Role.server.process }
  config := { port := 9000 }

def door : Node ChatPacket (Station Interface) Unit where
  transport := { process := Role.client.process }
  config := { port := 9000, channels := 4, sendChannel := 3 }

def asked (start : Peering ChatPacket Unit) : Peering ChatPacket Unit :=
  start.onStation .server (·.arrive (.datagram Role.client.address (Frame.connect 4).encode))

def granted (start : Peering ChatPacket Unit) : Peering ChatPacket Unit :=
  let served := { start.asked with server := attempt Server.poll start.asked.server }
  served.onStation .client (·.arrive (.datagram Role.server.address (Frame.accept 1).encode))

def shaken (start : Peering ChatPacket Unit) : Peering ChatPacket Unit :=
  { start.granted with client := attempt Client.poll start.granted.client }

theorem run_shaken {start : Peering ChatPacket Unit}
    (asks : (Frame.connect 4).encode ∈
      start.client.transport.process.network.lettersTo Role.server.address)
    (grants : (Frame.accept 1).encode ∈
      (attempt Server.poll start.asked.server).transport.process.network.lettersTo
        Role.client.address) :
    Relation.ReflTransGen (Step Role.address) start start.shaken :=
  (Relation.ReflTransGen.single (.arrived .server asks)).tail (.served .poll)
    |>.tail (.arrived .client grants) |>.tail (.asked .poll)

/-- What is to be seen of both once they have shaken hands. -/
structure Shaken (server : Server ChatPacket (Station Interface) Unit)
    (client : Client ChatPacket (Station Interface) Unit) : Prop where
  start : Begins Role.address ⟨server, client⟩
  configs : server.config = gate.config ∧ client.config = door.config
  run : Relation.ReflTransGen (Step Role.address) ⟨server, client⟩ (shaken ⟨server, client⟩)
  admitted : (shaken ⟨server, client⟩).server.toNode.roster.link? ⟨1⟩ =
    some { address := Role.client.address, channels := 1, state := .connected }
  connected : (shaken ⟨server, client⟩).client.state = .connected
  linked : (shaken ⟨server, client⟩).client.toNode.roster.link?
      (shaken ⟨server, client⟩).client.server =
    some { address := Role.server.address, channels := 1, state := .connected }
  channel : (shaken ⟨server, client⟩).client.config.sendChannel = 3

theorem exists_shaken : ∃ server client, Shaken server client := by
  have ran : (match Server.build gate, Client.connect door with
      | .ok server _, .ok client _ =>
        let start : Peering ChatPacket Unit := ⟨server, client⟩
        match Node.poll start.asked.server.toNode with
        | .ok events node =>
          decide (events = [.connect ⟨1⟩] ∧
            (Frame.connect 4).encode ∈
              start.client.transport.process.network.lettersTo Role.server.address ∧
            (Frame.accept 1).encode ∈
              node.transport.process.network.lettersTo Role.client.address ∧
            node.roster.link? ⟨1⟩ =
              some { address := Role.client.address, channels := 1, state := .connected } ∧
            start.shaken.client.state = .connected ∧
            start.shaken.client.toNode.roster.link? start.shaken.client.server =
              some { address := Role.server.address, channels := 1, state := .connected } ∧
            start.shaken.client.config.sendChannel = 3)
        | _ => false
      | _, _ => false) = true := by
    decide +kernel
  split at ran
  · next server fresh client ready built connected =>
    dsimp only at ran
    split at ran
    · next events node received =>
      obtain ⟨rfl, asks, grants, admitted, joined, linked, channel⟩ := of_decide_eq_true ran
      obtain ⟨-, serverConfig, -⟩ := Server.begun_of_build built
      obtain ⟨-, clientConfig, -⟩ := Client.begun_of_connect connected
      have polled :=
        Server.attempt_poll_of_join received (Server.acquire_of_build built (by decide) ⟨1⟩)
      refine ⟨server, client, ⟨.begins ⟨rfl, rfl, rfl⟩ ⟨rfl, rfl, rfl⟩ rfl built connected,
        ⟨serverConfig, clientConfig⟩, run_shaken asks ?_, ?_, joined, linked, channel⟩⟩
      · rwa [polled]
      · change Roster.link? (Station.roster (attempt Server.poll _).transport) _ = _
        rwa [polled]
    · cases ran
  · cases ran

theorem refused_iff_of_run_shaken :
    ∃ start now : Peering ChatPacket Unit, start.Begins Role.address ∧
      Relation.ReflTransGen (Step Role.address) start now ∧
      ¬ Refused (Server.sendToPeer ⟨1⟩ .hello) now.server ∧
      Refused (Client.sendBytes []) now.client := by
  obtain ⟨server, client, shaken⟩ := exists_shaken
  obtain ⟨served, asking⟩ := refused_iff_of_run shaken.start shaken.run
  obtain ⟨-, toPeer, -, -⟩ := served ⟨1⟩ _ shaken.admitted rfl
  obtain ⟨-, -, bytes⟩ := asking _ shaken.linked rfl
  dsimp only at toPeer bytes
  rw [shaken.configs.1, shaken.configs.2] at toPeer bytes
  refine ⟨_, _, shaken.start, shaken.run, fun refused => ?_,
    (bytes []).mpr ⟨shaken.connected, by decide⟩⟩
  exact absurd ((toPeer .hello).mp refused).2 (by decide)

/-- Both configurations are valid, both have shaken hands, and the client cannot send. -/
theorem refused_of_shaken :
    ∃ start now : Peering ChatPacket Unit, start.Begins Role.address ∧
      start.server.config.validate = .ok () ∧ start.client.config.validate = .ok () ∧
      Relation.ReflTransGen (Step Role.address) start now ∧
      (∃ link, now.server.toNode.roster.link? ⟨1⟩ = some link ∧
        link.address = Role.client.address ∧ link.state = .connected) ∧
      now.client.state = .connected ∧ Refused (Client.send .hello) now.client := by
  obtain ⟨server, client, shaken⟩ := exists_shaken
  have encodable : Encodable ChatPacket.hello := ⟨[0x05], rfl⟩
  refine ⟨_, _, shaken.start, ?_, ?_, shaken.run, ⟨_, shaken.admitted, rfl, rfl⟩,
    shaken.connected, ?_⟩
  · rw [shaken.configs.1]
    decide +kernel
  · rw [shaken.configs.2]
    decide +kernel
  · rw [Client.refused_send_iff shaken.linked rfl, shaken.channel]
    exact ⟨shaken.connected, encodable, by decide⟩

end Peering

end Courier

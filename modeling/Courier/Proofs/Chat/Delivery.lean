import Courier.Proofs.Chat.Correspondence

namespace Courier

open Datagram

section

variable {κ : Type} {home place : SocketAddress}
  {gate fresh : Node ChatPacket (Station Interface) κ}
  {server : Server ChatPacket (Station Interface) κ}

theorem Server.strange_of_build (untouched : Peering.Untouched place gate)
    (calm : gate.transport.Calm) (built : Server.build gate = .ok server fresh) :
    server.Attends server.config.channels place server.config server.registry ∧
      server.transport.incoming place = [] ∧ server.transport.dealings place = {} := by
  obtain ⟨idle, unacquainted⟩ := untouched
  obtain ⟨-, config, -, started, startRan, createRan⟩ := Server.begun_of_build built
  rw [Peering.eq_of_idle idle] at startRan
  cases startRan
  obtain ⟨steady, nothing, strange⟩ :=
    Station.opened_of_createServer unacquainted calm createRan
  rw [← config] at steady
  exact ⟨⟨steady, rfl, rfl⟩, nothing, strange⟩

theorem Correspondence.begun (untouched : Peering.Untouched place gate)
    (calm : gate.transport.Calm) (built : Server.build gate = .ok server fresh) :
    Correspondence home place server.config server.registry server [] none 0 0 := by
  obtain ⟨-, nothing, strange⟩ := Server.strange_of_build untouched calm built
  have opened := Peering.opened_of_build untouched built
  refine ⟨fun agreement limit _ => ⟨?_, rfl, rfl⟩, ⟨[], ⟨?_, ?_⟩, ?_⟩, Nat.zero_le _,
    Nat.zero_le _, nofun⟩
  · rw [← limit] at opened ⊢
    exact .opened opened
  · rw [strange]
    exact .unknown
  · rw [strange]
    rintro _ _ ⟨⟩
  · rw [nothing]
    rfl

end

/-- A server and any number of clients, each of them at an address of its own. So many of the
letters that each client has written have arrived, and so many of those to it. -/
structure Conversation (ι κ : Type) where
  server : Server ChatPacket (Station Interface) κ
  client : ι → Option (Client ChatPacket (Station Interface) κ)
  up : ι → Nat
  down : ι → Nat
  chronicle : List Entry

namespace Conversation

variable {ι κ : Type}

/-- A process that has not done anything yet, on a network on which nothing fails. -/
structure Fresh (node : Node ChatPacket (Station Interface) κ) : Prop where
  idle : node.transport.endpoint = {}
  silent : node.transport.process.network.sent = []
  unread : node.transport.process.network.inbox = []
  faultless : node.transport.process.network.faults = []
  unspoken : node.acts = []

theorem Fresh.untouched {node : Node ChatPacket (Station Interface) κ} (fresh : Fresh node)
    (address : SocketAddress) : Peering.Untouched address node :=
  ⟨fresh.idle, fresh.silent, by rw [Interface.lettersFrom, fresh.unread, List.filterMap_nil]⟩

theorem Fresh.calm {node : Node ChatPacket (Station Interface) κ} (fresh : Fresh node) :
    node.transport.Calm :=
  ⟨fresh.faultless, by rw [fresh.unread]; nofun⟩

/-- The server has been built, and no client is there. -/
inductive Begins : Conversation ι κ → Prop
  | begins {gate ready : Node ChatPacket (Station Interface) κ}
      {server : Server ChatPacket (Station Interface) κ} (fresh : Fresh gate)
      (built : Server.build gate = .ok server ready) :
      Begins { server, client := fun _ => none, up := fun _ => 0, down := fun _ => 0,
               chronicle := [] }

/-- A client after it has done something, or after something has happened to it. -/
def withClient [DecidableEq ι] (now : Conversation ι κ) (i : ι)
    (client : Client ChatPacket (Station Interface) κ) (down : Nat) : Conversation ι κ :=
  { now with
    client := Function.update now.client i (some client)
    down := Function.update now.down i down }

/-- The server or a client does something, or the next letter arrives. Other letters may come in
from elsewhere at any time. -/
inductive Step [DecidableEq ι] (home : SocketAddress) (place : ι → SocketAddress) :
    Conversation ι κ → Conversation ι κ → Prop
  | served {now : Conversation ι κ} {entries : List Entry}
      {server : Server ChatPacket (Station Interface) κ}
      (works : Server.Works now.server entries server) :
      Step home place now { now with server, chronicle := now.chronicle ++ entries }
  | connected {now : Conversation ι κ} (i : ι) {door ready : Node ChatPacket (Station Interface) κ}
      {client : Client ChatPacket (Station Interface) κ} (absent : now.client i = none)
      (fresh : Fresh door) (known : door.registry = ChatPacket.clientRegistry)
      (named : door.transport.process.network.names s!"{door.config.host}:{door.config.port}" =
        some home)
      (granted : now.server.config.sendChannel <
        min door.config.channels now.server.config.channels)
      (connects : Client.connect door = .ok client ready) :
      Step home place now (now.withClient i client (now.down i))
  | asked {now : Conversation ι κ} (i : ι)
      {client later : Client ChatPacket (Station Interface) κ}
      (here : now.client i = some client) (works : Client.Works client later) :
      Step home place now (now.withClient i later (now.down i))
  | arrivedUp {now : Conversation ι κ} (i : ι)
      {client : Client ChatPacket (Station Interface) κ} {bytes : Bytes}
      (here : now.client i = some client)
      (next : (client.transport.process.network.lettersTo home)[now.up i]? = some bytes) :
      Step home place now
        { now with
          server := now.server.onStation (·.arrive (.datagram (place i) bytes))
          up := Function.update now.up i (now.up i + 1) }
  | arrivedDown {now : Conversation ι κ} (i : ι)
      {client : Client ChatPacket (Station Interface) κ} {bytes : Bytes}
      (here : now.client i = some client)
      (next : (now.server.transport.process.network.lettersTo (place i))[now.down i]? =
        some bytes) :
      Step home place now
        (now.withClient i (client.onStation (·.arrive (.datagram home bytes))) (now.down i + 1))
  | strayedUp {now : Conversation ι κ} {source : SocketAddress}
      (elsewhere : ∀ i, source ≠ place i) (bytes : Bytes) :
      Step home place now
        { now with server := now.server.onStation (·.arrive (.datagram source bytes)) }
  | strayedDown {now : Conversation ι κ} (i : ι)
      {client : Client ChatPacket (Station Interface) κ} (here : now.client i = some client)
      {source : SocketAddress} (elsewhere : source ≠ home) (bytes : Bytes) :
      Step home place now
        (now.withClient i (client.onStation (·.arrive (.datagram source bytes))) (now.down i))
  | shiftedUp {now : Conversation ι κ} (names : String → Option SocketAddress)
      (binding : SocketAddress → Except String SocketAddress) (handles : Nat) :
      Step home place now
        { now with server := now.server.onStation (·.shift names binding [] handles) }
  | shiftedDown {now : Conversation ι κ} (i : ι)
      {client : Client ChatPacket (Station Interface) κ} (here : now.client i = some client)
      (names : String → Option SocketAddress)
      (binding : SocketAddress → Except String SocketAddress) (handles : Nat) :
      Step home place now
        (now.withClient i (client.onStation (·.shift names binding [] handles)) (now.down i))

/-- What is true of each client all the time. -/
structure Sound (home place : SocketAddress) (config : Config)
    (registry : PacketRegistry ChatPacket) (i : ι) (now : Conversation ι κ) : Prop where
  serves : config.channels ≠ 0
  attends : now.server.Attends config.channels place config registry
  inStep : ∃ peers capacity, Server.InStep peers capacity [] now.server.tables
  recorded : Server.Recorded [] now.chronicle now.server.tables
  corresponds : Correspondence home place config registry now.server now.chronicle
    (now.client i) (now.up i) (now.down i)

theorem Begins.sound {start : Conversation ι κ} (begins : start.Begins)
    (home place : SocketAddress) (i : ι) :
    Sound home place start.server.config start.server.registry i start := by
  obtain ⟨fresh, built⟩ := begins
  have untouched := fresh.untouched place
  obtain ⟨valid, config, -⟩ := Server.begun_of_build built
  obtain ⟨attends, -⟩ := Server.strange_of_build untouched fresh.calm built
  refine ⟨?_, attends, ⟨_, _, Server.inStep_of_build built⟩, .started fun peer => ?_,
    .begun untouched fresh.calm built⟩
  · rw [config]
    exact Config.channels_ne_zero_of_validate valid
  · rw [Server.users_of_build built]
    exact UserTable.user?_ofSize _ peer

variable [DecidableEq ι] {home : SocketAddress} {place : ι → SocketAddress} {config : Config}
  {registry : PacketRegistry ChatPacket} {now after : Conversation ι κ} {i : ι}

/-- What another client does is nothing to a client. -/
theorem Sound.withClient {j : ι} {client : Client ChatPacket (Station Interface) κ} {down : Nat}
    (sound : Sound home (place i) config registry i now)
    (own : i = j → Correspondence home (place i) config registry now.server now.chronicle
      (some client) (now.up i) down) :
    Sound home (place i) config registry i (now.withClient j client down) := by
  refine ⟨sound.serves, sound.attends, sound.inStep, sound.recorded, ?_⟩
  dsimp only [Conversation.withClient]
  by_cases same : i = j
  · subst same
    rw [Function.update_self, Function.update_self]
    exact own rfl
  · rw [Function.update_of_ne same, Function.update_of_ne same]
    exact sound.corresponds

theorem Sound.step (distinct : Function.Injective place) (step : Step home place now after)
    (sound : Sound home (place i) config registry i now) :
    Sound home (place i) config registry i after := by
  have ⟨serves, attends, ⟨peers, capacity, inStep⟩, recorded, corresponds⟩ := sound
  cases step with
  | served works =>
      exact ⟨serves, attends.stride (Node.lasting_steady ..) works.stride,
        ⟨peers, capacity, Server.inStep_of_works works attends.1.calm inStep⟩,
        recorded.works inStep attends.1.calm works, corresponds.served works attends inStep⟩
  | connected j absent fresh known named granted connects =>
      refine sound.withClient ?_
      rintro rfl
      rw [absent] at corresponds
      have sameConfig : now.server.config = config := attends.2.1
      rw [sameConfig] at granted
      exact corresponds.connected serves (fresh.untouched home) fresh.calm known named granted
        fresh.unspoken connects
  | asked j here works =>
      refine sound.withClient ?_
      rintro rfl
      rw [here] at corresponds
      exact corresponds.asked works
  | arrivedUp j here next =>
      refine ⟨serves, ⟨attends.1.arrive _ _, attends.2⟩, ⟨peers, capacity, inStep⟩, recorded, ?_⟩
      dsimp only
      by_cases own : i = j
      · subst own
        rw [here] at corresponds
        rw [Function.update_self, here]
        exact corresponds.arrived_up next
      · rw [Function.update_of_ne own]
        exact corresponds.strayed_up (distinct.ne (Ne.symm own)) _
  | arrivedDown j here next =>
      refine sound.withClient ?_
      rintro rfl
      rw [here] at corresponds
      exact corresponds.arrived_down next
  | strayedUp elsewhere bytes =>
      exact ⟨serves, ⟨attends.1.arrive _ _, attends.2⟩, ⟨peers, capacity, inStep⟩, recorded,
        corresponds.strayed_up (elsewhere i) bytes⟩
  | strayedDown j here elsewhere bytes =>
      refine sound.withClient ?_
      rintro rfl
      rw [here] at corresponds
      exact corresponds.strayed_down elsewhere bytes
  | shiftedUp names binding handles =>
      exact ⟨serves, ⟨attends.1.shift names binding handles, attends.2⟩,
        ⟨peers, capacity, Server.inStep_step inStep (.elsewhere _ handles)⟩,
        recorded.elsewhere inStep.sound handles, corresponds.shifted_up names binding handles⟩
  | shiftedDown j here names binding handles =>
      refine sound.withClient ?_
      rintro rfl
      rw [here] at corresponds
      exact corresponds.shifted_down names binding handles

theorem Sound.run (distinct : Function.Injective place)
    (run : Relation.ReflTransGen (Step home place) now after)
    (sound : Sound home (place i) config registry i now) :
    Sound home (place i) config registry i after := by
  induction run with
  | refl => exact sound
  | tail _ step ih => exact ih.step distinct step

/-- Where one has come into a sequence later than the other, both see the same from then on. -/
theorem same_order {sequence earlier later : List Relay} {first second : Nat}
    (one : earlier <+: sequence.drop first) (other : later <+: sequence.drop second)
    (le : first ≤ second) :
    earlier.drop (second - first) <+: later ∨ later <+: earlier.drop (second - first) := by
  have shared := one.drop (second - first)
  rw [List.drop_drop, Nat.add_sub_cancel' le] at shared
  exact List.prefix_or_prefix_of_prefix shared other

/-- What a client has processed. -/
def heard (now : Conversation ι κ) (i : ι) : List Relay :=
  processed (now.client i)

/-- The relays that the server has written to a client. -/
def written (place : ι → SocketAddress) (now : Conversation ι κ) (i : ι) : List Relay :=
  relaysIn (now.server.transport.wrote (place i))

/-- A client that is still linked, to which all has arrived, and which has read it. -/
structure CaughtUp (home : SocketAddress) (place : ι → SocketAddress) (now : Conversation ι κ)
    (i : ι) (client : Client ChatPacket (Station Interface) κ) : Prop where
  here : now.client i = some client
  linked : (client.transport.dealings home).facing ≠ none
  unread : client.transport.incoming home = []
  arrived : now.down i = (now.server.transport.wrote (place i)).length

/-- The relays that a client processes are the first ones of what the server relays to it, from its
admission to its release, which is as long as it holds its id: no gap, no duplicate, in their order.
The server has written all of them as long as it has the link, and a client that has caught up has
processed all that is written. A client that is told nothing alone sees a segment of all that is
broadcast, and any two of them see what they share in one order. -/
theorem heard_of_run (distinct : Function.Injective place) {start : Conversation ι κ}
    (begins : start.Begins) (run : Relation.ReflTransGen (Step home place) start now) :
    (∀ i, now.heard i <+: now.written place i ∧
        ∀ client, CaughtUp home place now i client → now.heard i = now.written place i) ∧
      (∀ i, stay? (place i) now.chronicle = none → now.written place i = [] ∧ now.heard i = []) ∧
      (∀ i stay, stay? (place i) now.chronicle = some stay →
        now.heard i <+: stay.relays ∧ now.written place i <+: stay.relays ∧
          ((now.server.transport.dealings (place i)).facing ≠ none →
            now.written place i = stay.relays) ∧
          ((∃ user, now.server.users.user? stay.peer = some user) ↔
            .released stay.peer ∉ now.chronicle) ∧
          (stay.Shared → now.heard i <+: broadcasts stay.during ∧
            broadcasts stay.during <+: (broadcasts now.chronicle).drop stay.missed)) ∧
      ∀ i j stay other, stay? (place i) now.chronicle = some stay →
        stay? (place j) now.chronicle = some other → stay.Shared → other.Shared →
        stay.missed ≤ other.missed →
          let since := (now.heard i).drop (other.missed - stay.missed)
          since <+: now.heard j ∨ now.heard j <+: since := by
  have sound (i : ι) := (begins.sound home (place i) i).run distinct run
  have corresponds (i : ι) := (sound i).corresponds
  have heard (i : ι) : now.heard i <+: now.written place i := (corresponds i).processed_written
  have written (i : ι) {stay : Option Stay} (stays : stay? (place i) now.chronicle = stay) :
      now.written place i <+: stay.elim [] Stay.relays ∧
        ((now.server.transport.dealings (place i)).facing ≠ none →
          now.written place i = stay.elim [] Stay.relays) := by
    have relayed := (corresponds i).written
    rwa [relays_attendance, stays] at relayed
  have segment (i : ι) {stay : Stay} (stays : stay? (place i) now.chronicle = some stay)
      (shared : stay.Shared) : now.heard i <+: broadcasts stay.during := by
    rw [← Stay.relays_eq_broadcasts shared]
    exact (heard i).trans (written i stays).1
  refine ⟨fun i => ⟨heard i, fun client caught => ?_⟩, fun i never => ?_, fun i stay stays =>
    ⟨(heard i).trans (written i stays).1, (written i stays).1, (written i stays).2,
      (sound i).recorded.held_iff_of_stay stays, fun shared =>
        ⟨segment i stays shared, Stay.broadcasts_during stays⟩⟩,
    fun i j stay other stays comes shared shared' le => ?_⟩
  · have corresponds := corresponds i
    rw [caught.here] at corresponds
    have all := corresponds.processed_all caught.linked caught.unread caught.arrived
    rwa [← caught.here] at all
  · have nothing := List.prefix_nil.mp (written i never).1
    exact ⟨nothing, List.prefix_nil.mp (nothing ▸ heard i)⟩
  · exact same_order ((segment i stays shared).trans (Stay.broadcasts_during stays))
      ((segment j comes shared').trans (Stay.broadcasts_during comes)) le

def hall : Node ChatPacket (Station Interface) Unit where
  transport := { process := Role.server.process }
  config := { port := 9000 }
  registry := ChatPacket.serverRegistry

def visitor : Node ChatPacket (Station Interface) Unit where
  transport := { process := Role.client.process }
  config := { port := 9000 }
  registry := ChatPacket.clientRegistry

def seated (server : Server ChatPacket (Station Interface) Unit)
    (node : Node ChatPacket (Station Interface) Unit) :
    Server ChatPacket (Station Interface) Unit :=
  Server.fire
    { node with users := (UserTable.ofSize 32).seat ⟨0⟩ ⟨1⟩, running := server.running }
    .connect { peer := ⟨1⟩, user := some ⟨0⟩ }

def asking (server : Server ChatPacket (Station Interface) Unit) :
    Server ChatPacket (Station Interface) Unit :=
  server.onStation (·.arrive (.datagram Role.client.address (Frame.connect 1).encode))

def getting (client : Client ChatPacket (Station Interface) Unit) (frame : Frame) :
    Client ChatPacket (Station Interface) Unit :=
  client.onStation (·.arrive (.datagram Role.server.address frame.encode))

def telling (text : String) : ChatPacket := .chatRelay ⟨7⟩ text

def told (text : String) : Frame :=
  match wireForm (telling text) with
  | .ok form => .data 0 .reliable form
  | .error _ => .disconnect

def single (server : Server ChatPacket (Station Interface) Unit)
    (client : Option (Client ChatPacket (Station Interface) Unit)) (up down : Nat)
    (chronicle : List Entry) : Conversation Unit Unit :=
  { server, client := fun _ => client, up := fun _ => up, down := fun _ => down, chronicle }

abbrev Reaches : Conversation Unit Unit → Conversation Unit Unit → Prop :=
  Relation.ReflTransGen (Step Role.server.address fun _ => Role.client.address)

def hearing (client : Client ChatPacket (Station Interface) Unit) (text : String) :
    Client ChatPacket (Station Interface) Unit :=
  attempt Client.poll (getting client (told text))

theorem reaches_hearing {server : Server ChatPacket (Station Interface) Unit}
    {client : Client ChatPacket (Station Interface) Unit} {down : Nat} {text : String}
    {chronicle : List Entry}
    (next : (server.transport.process.network.lettersTo Role.client.address)[down]? =
      some (told text).encode) :
    Reaches (single server (some client) 1 down chronicle)
      (single server (some (hearing client text)) 1 (down + 1) chronicle) :=
  (Relation.ReflTransGen.single (.arrivedDown () rfl next)).tail (.asked () rfl .poll)

def sharing (server : Server ChatPacket (Station Interface) Unit) :
    Server ChatPacket (Station Interface) Unit :=
  attempt (Server.broadcast (telling "hi")) server

def whispering (server : Server ChatPacket (Station Interface) Unit) :
    Server ChatPacket (Station Interface) Unit :=
  attempt (Server.sendToPeer ⟨1⟩ (telling "psst")) (sharing server)

/-- What is to be seen once the client is admitted: each packet that it is sent is its next letter,
and it prints what is in it. -/
structure Hearing (server : Server ChatPacket (Station Interface) Unit)
    (client : Client ChatPacket (Station Interface) Unit) : Prop where
  shares : ((sharing server).transport.process.network.lettersTo Role.client.address)[1]? =
    some (told "hi").encode
  hears : (hearing client "hi").printed = [(⟨7⟩, "hi")].map shown
  linked : ((hearing client "hi").transport.dealings Role.server.address).facing ≠ none
  unread : (hearing client "hi").transport.incoming Role.server.address = []
  arrived : 2 = ((sharing server).transport.wrote Role.client.address).length
  tells : ((whispering server).transport.process.network.lettersTo Role.client.address)[2]? =
    some (told "psst").encode
  overhears : (hearing (hearing client "hi") "psst").printed =
    [(⟨7⟩, "hi"), (⟨7⟩, "psst")].map shown

/-- What is to be seen while the client comes in. -/
structure Entering (server : Server ChatPacket (Station Interface) Unit)
    (client : Client ChatPacket (Station Interface) Unit)
    (node : Node ChatPacket (Station Interface) Unit) : Prop where
  polled : Node.poll (asking server).toNode = .ok [.connect ⟨1⟩] node
  place : (seated server node).place? ⟨1⟩ = some Role.client.address
  asks : (client.transport.process.network.lettersTo Role.server.address)[0]? =
    some (Frame.connect 1).encode
  grants : ((seated server node).transport.process.network.lettersTo Role.client.address)[0]? =
    some (Frame.accept 1).encode
  hearing : Hearing (seated server node) (attempt Client.poll (getting client (.accept 1)))

theorem exists_entering : ∃ server fresh client ready node,
    Server.build hall = .ok server fresh ∧ Client.connect visitor = .ok client ready ∧
      Entering server client node := by
  have ran : (match Server.build hall, Client.connect visitor with
      | .ok server _, .ok client _ =>
        match Node.poll (asking server).toNode with
        | .ok events node =>
          let joined := seated server node
          let here := attempt Client.poll (getting client (.accept 1))
          let heard := hearing here "hi"
          decide (events = [.connect ⟨1⟩] ∧ joined.place? ⟨1⟩ = some Role.client.address ∧
            (client.transport.process.network.lettersTo Role.server.address)[0]? =
              some (Frame.connect 1).encode ∧
            (joined.transport.process.network.lettersTo Role.client.address)[0]? =
              some (Frame.accept 1).encode ∧
            ((sharing joined).transport.process.network.lettersTo Role.client.address)[1]? =
              some (told "hi").encode ∧
            heard.printed = [(⟨7⟩, "hi")].map shown ∧
            (heard.transport.dealings Role.server.address).facing ≠ none ∧
            heard.transport.incoming Role.server.address = [] ∧
            2 = ((sharing joined).transport.wrote Role.client.address).length ∧
            ((whispering joined).transport.process.network.lettersTo Role.client.address)[2]? =
              some (told "psst").encode ∧
            (hearing heard "psst").printed = [(⟨7⟩, "hi"), (⟨7⟩, "psst")].map shown)
        | _ => false
      | _, _ => false) = true := by
    decide +kernel
  split at ran
  · next server fresh client ready built connected =>
    dsimp only at ran
    split at ran
    · next events node polled =>
      obtain ⟨rfl, place, asks, grants, hearing⟩ := of_decide_eq_true ran
      obtain ⟨shares, hears, linked, unread, arrived, tells, overhears⟩ := hearing
      exact ⟨server, fresh, client, ready, node, built, connected, polled, place, asks, grants,
        shares, hears, linked, unread, arrived, tells, overhears⟩
    · cases ran
  · cases ran

theorem exists_hearing : ∃ start server client, Begins start ∧
    Reaches start (single server (some client) 1 1 [.admitted ⟨1⟩ (some Role.client.address)]) ∧
    Hearing server client := by
  obtain ⟨server, fresh, client, ready, node, built, connected, entering⟩ := exists_entering
  have config : server.config = hall.config := (Server.begun_of_build built).2.1
  have acquired : (asking server).users.acquire ⟨1⟩ =
      (.ok ⟨0⟩, (UserTable.ofSize 32).seat ⟨0⟩ ⟨1⟩) :=
    Server.acquire_of_build built (by decide) ⟨1⟩
  have joins : attempt Server.poll (asking server) = seated server node :=
    Server.attempt_poll_of_join entering.polled acquired
  have admits : (asking server).entriesOfPoll = [.admitted ⟨1⟩ (some Role.client.address)] :=
    (Server.entriesOfPoll_of_join entering.polled acquired).trans
      (congrArg (fun place => [Entry.admitted ⟨1⟩ place]) entering.place)
  have asked : Reaches (single server none 0 0 [])
      (single (asking server) (some client) 1 0 []) := by
    refine (Relation.ReflTransGen.single (.connected () rfl ⟨rfl, rfl, rfl, rfl, rfl⟩ rfl rfl ?_
      connected)).tail (.arrivedUp () rfl entering.asks)
    change server.config.sendChannel < min visitor.config.channels server.config.channels
    rw [config]
    decide
  have admitted : Reaches (single (asking server) (some client) 1 0 [])
      (single (seated server node) (some client) 1 0
        [.admitted ⟨1⟩ (some Role.client.address)]) := by
    rw [← joins, ← admits]
    exact .single (.served .poll)
  exact ⟨_, _, _, .begins ⟨rfl, rfl, rfl, rfl, rfl⟩ built, (asked.trans admitted).trans
    ((Relation.ReflTransGen.single (.arrivedDown () rfl entering.grants)).tail
      (.asked () rfl .poll)), entering.hearing⟩

/-- The client processes a broadcast, and then a relay that is for it alone. -/
theorem exists_heard : ∃ start shared now : Conversation Unit Unit, start.Begins ∧
    Reaches start shared ∧ Reaches start now ∧
    shared.heard () = [(⟨7⟩, "hi")] ∧
    (∃ client, CaughtUp Role.server.address (fun _ => Role.client.address) shared () client) ∧
    shared.chronicle =
      [.admitted ⟨1⟩ (some Role.client.address), .relayed (⟨7⟩, "hi")] ∧
    now.heard () = [(⟨7⟩, "hi"), (⟨7⟩, "psst")] ∧
    now.chronicle = [.admitted ⟨1⟩ (some Role.client.address), .relayed (⟨7⟩, "hi"),
      .told ⟨1⟩ (⟨7⟩, "psst")] := by
  obtain ⟨start, server, client, begins, reaches, hearing⟩ := exists_hearing
  let entries : List Entry := [.admitted ⟨1⟩ (some Role.client.address)]
  have relayed : Reaches (single server (some client) 1 1 entries)
      (single (sharing server) (some client) 1 1 (entries ++ Entry.ofBroadcast (telling "hi"))) :=
    .single (.served (.broadcast (telling "hi")))
  have hears := (reaches.trans relayed).trans (reaches_hearing hearing.shares)
  refine ⟨_, _, _, begins, hears,
    (hears.tail (.served (.sendToPeer ⟨1⟩ (telling "psst")))).trans
      (reaches_hearing hearing.tells), Node.relays_of_shown hearing.hears,
    ⟨_, rfl, hearing.linked, hearing.unread, hearing.arrived⟩, ?_,
    Node.relays_of_shown hearing.overhears, ?_⟩
  all_goals
    dsimp only [single]
    decide +kernel

theorem heard_of_run_shared : ∃ start now : Conversation Unit Unit, ∃ stay, start.Begins ∧
    Reaches start now ∧ stay? Role.client.address now.chronicle = some stay ∧ stay.Shared ∧
    now.heard () = [(⟨7⟩, "hi")] ∧
    now.written (fun _ => Role.client.address) () = [(⟨7⟩, "hi")] ∧
    now.heard () <+: broadcasts stay.during := by
  obtain ⟨start, now, -, begins, reaches, -, heard, ⟨client, caughtUp⟩, chronicle, -⟩ :=
    exists_heard
  have distinct : Function.Injective fun _ : Unit => Role.client.address := fun _ _ _ => rfl
  have stays : stay? Role.client.address now.chronicle =
      some ⟨[], ⟨1⟩, [.relayed (⟨7⟩, "hi")]⟩ := by
    rw [chronicle]
    rfl
  have shared : Stay.Shared ⟨[], ⟨1⟩, [.relayed (⟨7⟩, "hi")]⟩ := by
    intro relay mem
    cases List.mem_singleton.mp mem
  obtain ⟨hears, -, segment, -⟩ := heard_of_run distinct begins reaches
  obtain ⟨-, -, -, -, among⟩ := segment () _ stays
  exact ⟨start, now, _, begins, reaches, stays, shared, heard,
    ((hears ()).2 client caughtUp).symm.trans heard, (among shared).1⟩

/-- What a client is told alone is not broadcast. -/
theorem not_broadcast_of_told : ∃ start now : Conversation Unit Unit, start.Begins ∧
    Reaches start now ∧
    ¬ ∀ stay, stay? Role.client.address now.chronicle = some stay →
      now.heard () <+: broadcasts stay.during := by
  obtain ⟨start, -, now, begins, -, reaches, -, -, -, heard, chronicle⟩ := exists_heard
  refine ⟨start, now, begins, reaches, fun among => ?_⟩
  rw [heard, chronicle] at among
  exact absurd (among _ rfl) (by decide)

end Conversation

end Courier

import Courier.Proofs.Chat.Listening

namespace Courier

open Datagram

/-! A server and one of its clients, and the letters that they write to each other. Of these, some
have been read, others have arrived, and the rest is on its way: so many are not any more. -/

section

variable {κ : Type}

def Server.onStation (change : Station Interface → Station Interface)
    (server : Server ChatPacket (Station Interface) κ) :
    Server ChatPacket (Station Interface) κ :=
  server.onNode fun node => node.withTransport (change node.transport)

def Client.onStation (change : Station Interface → Station Interface)
    (client : Client ChatPacket (Station Interface) κ) :
    Client ChatPacket (Station Interface) κ :=
  client.onNode fun node => node.withTransport (change node.transport)

theorem Server.transport_onStation (change : Station Interface → Station Interface)
    (server : Server ChatPacket (Station Interface) κ) :
    (server.onStation change).transport = change server.transport := rfl

theorem Client.transport_onStation (change : Station Interface → Station Interface)
    (client : Client ChatPacket (Station Interface) κ) :
    (client.onStation change).transport = change client.transport := rfl

/-- What a client has written to the server, if it is there. -/
def said (home : SocketAddress) (client : Option (Client ChatPacket (Station Interface) κ)) :
    List Frame :=
  client.elim [] fun client => client.transport.wrote home

theorem said_some (home : SocketAddress) (client : Client ChatPacket (Station Interface) κ) :
    said home (some client) = client.transport.wrote home := rfl

/-- What a client has processed, if it is there. -/
def processed (client : Option (Client ChatPacket (Station Interface) κ)) : List Relay :=
  client.elim [] fun client => client.relays

/-- A client that has asked the server for a link once, and reads what the server writes to it. -/
structure Client.Attached (home : SocketAddress) (config : Config) (letters : List Frame)
    (down : Nat) (client : Client ChatPacket (Station Interface) κ) : Prop where
  keeps : ∃ agreement : Agreement, agreement.limit = config.channels ∧
    agreement.asked = client.config.channels ∧ config.sendChannel < agreement.granted ∧
    client.Having (Peering.Keeps agreement .client home client.config ChatPacket.clientRegistry)
  calm : client.transport.Calm
  once : ∃ first rest, client.transport.wrote home = first :: rest ∧
    ∀ requested, .connect requested ∉ rest
  listens : client.Listens home letters (letters.drop down)

structure Correspondence (home place : SocketAddress) (config : Config)
    (registry : PacketRegistry ChatPacket) (server : Server ChatPacket (Station Interface) κ)
    (chronicle : List Entry) (client : Option (Client ChatPacket (Station Interface) κ))
    (up down : Nat) : Prop where
  keeps : ∀ agreement : Agreement, agreement.limit = config.channels →
    (∀ own, client = some own → agreement.asked = own.config.channels) →
    server.Having (Peering.Keeps agreement .server place config registry)
  stands : ∃ seen, server.Stands place config.sendChannel [] seen (attendance place chronicle) ∧
    seen ++ (server.transport.incoming place ++ (said home client).drop up) = said home client
  up_le : up ≤ (said home client).length
  down_le : down ≤ (server.transport.wrote place).length
  present : ∀ own, client = some own →
    own.Attached home config (server.transport.wrote place) down

end

namespace Correspondence

variable {κ : Type} {home place : SocketAddress} {config : Config}
  {registry : PacketRegistry ChatPacket} {server after : Server ChatPacket (Station Interface) κ}
  {chronicle : List Entry} {client : Option (Client ChatPacket (Station Interface) κ)}
  {own later : Client ChatPacket (Station Interface) κ} {up down peers capacity : Nat}

/-- What has been written to a client is relayed to it, and as long as it is linked all that is
relayed to it has been written. -/
theorem written
    (corresponds : Correspondence home place config registry server chronicle client up down) :
    relaysIn (server.transport.wrote place) <+: (attendance place chronicle).relays ∧
      ((server.transport.dealings place).facing ≠ none →
        relaysIn (server.transport.wrote place) = (attendance place chronicle).relays) := by
  obtain ⟨seen, stands, -⟩ := corresponds.stands
  exact ⟨stands.footing.got, stands.footing.all⟩

/-- What a client has processed has been written to it. -/
theorem processed_written
    (corresponds : Correspondence home place config registry server chronicle client up down) :
    processed client <+: relaysIn (server.transport.wrote place) := by
  cases client with
  | none => exact List.nil_prefix
  | some own => exact Listening.got (corresponds.present own rfl).listens

/-- Once all has arrived and has been read, it is all that has been written. -/
theorem processed_all
    (corresponds : Correspondence home place config registry server chronicle (some own) up down)
    (linked : (own.transport.dealings home).facing ≠ none)
    (unread : own.transport.incoming home = [])
    (arrived : down = (server.transport.wrote place).length) :
    processed (some own) = relaysIn (server.transport.wrote place) := by
  have listens := (corresponds.present own rfl).listens
  rw [Client.Listens, unread, arrived, List.drop_length] at listens
  exact Listening.all listens linked

theorem greeted
    (corresponds : Correspondence home place config registry server chronicle client up down)
    (wrote : server.transport.wrote place ≠ []) :
    Greeted (server.transport.wrote place) := by
  obtain ⟨seen, stands, -⟩ := corresponds.stands
  exact stands.footing.greeted wrote

/-- A client asks for a link with its first letter, and never again. -/
theorem once
    (corresponds : Correspondence home place config registry server chronicle client up down)
    (requested : UInt8) : .connect requested ∉ (said home client).tail := by
  cases client with
  | none => exact List.not_mem_nil
  | some own =>
      obtain ⟨first, rest, wrote, quiet⟩ := (corresponds.present own rfl).once
      rw [said, Option.elim_some, wrote]
      exact quiet requested

/-- It is granted channels on which the server can send. -/
theorem offered
    (corresponds : Correspondence home place config registry server chronicle client up down)
    {requested : UInt8} (mem : .connect requested ∈ said home client) :
    config.sendChannel < negotiate requested config.channels := by
  cases client with
  | none => cases mem
  | some own =>
      obtain ⟨agreement, limit, -, granted, party, -⟩ := (corresponds.present own rfl).keeps
      obtain rfl : requested = agreement.asked := party.kept.speaks _ mem
      rwa [← limit, agreement.negotiate_asked]

theorem served {entries : List Entry}
    (corresponds : Correspondence home place config registry server chronicle client up down)
    (works : Server.Works server entries after)
    (attends : server.Attends config.channels place config registry)
    (inStep : Server.InStep peers capacity [] server.tables) :
    Correspondence home place config registry after (chronicle ++ entries) client up down := by
  obtain ⟨seen, stands, split⟩ := corresponds.stands
  have incoming : seen ++ server.transport.incoming place <+: said home client :=
    ⟨_, (List.append_assoc ..).trans split⟩
  obtain ⟨taken, arrived, standing⟩ := stands.works works attends inStep
    (fun requested mem => corresponds.once requested (incoming.sublist.tail.subset mem))
    (fun requested mem =>
      corresponds.offered (incoming.subset (List.mem_append_right _ mem)))
  have since := Server.Having.stride
    (Node.lasting_transport Station.since_run config registry) ⟨attends.1.since, attends.2⟩
    works.stride
  obtain ⟨more, wrote, -⟩ := since.1.follows
  have wrote : after.transport.wrote place = server.transport.wrote place ++ more := wrote
  refine ⟨fun agreement limit asked => ?_, ⟨seen ++ taken, ?_, ?_⟩, corresponds.up_le, ?_,
    fun own here => ?_⟩
  · exact (corresponds.keeps agreement limit asked).stride (Peering.lasting_keeps ..) works.stride
  · rwa [attendance_append]
  · refine Eq.trans ?_ split
    rw [arrived]
    simp only [List.append_assoc]
  · rw [wrote, List.length_append]
    exact Nat.le_trans corresponds.down_le (Nat.le_add_right _ _)
  · have attached := corresponds.present own here
    refine ⟨attached.keeps, attached.calm, attached.once, ?_⟩
    have listens := Listening.written attached.listens more
    rw [List.append_assoc, ← List.drop_append_of_le_length corresponds.down_le, ← wrote]
      at listens
    exact listens

theorem asked
    (corresponds : Correspondence home place config registry server chronicle (some own) up down)
    (works : Client.Works own later) :
    Correspondence home place config registry server chronicle (some later) up down := by
  obtain ⟨⟨agreement, limit, requested, granted, having⟩, calm, ⟨first, rest, wrote, quiet⟩,
    listens⟩ := corresponds.present own rfl
  obtain ⟨seen, stands, split⟩ := corresponds.stands
  have kept := having.stride (Peering.lasting_keeps ..) works.stride
  have config' : later.config = own.config := kept.2.1
  have steady : own.transport.Steady .client own.config.channels home :=
    ⟨having.1.attending, calm⟩
  obtain ⟨⟨after, follows⟩, -⟩ := Client.Having.stride
    (Node.lasting_transport Station.since_run own.config ChatPacket.clientRegistry)
    ⟨steady.since, rfl, having.2.2⟩ works.stride
  obtain ⟨written, wrote', quiet'⟩ := follows
  have wrote' : later.transport.wrote home = own.transport.wrote home ++ written := wrote'
  refine ⟨fun agreement limit asked => corresponds.keeps agreement limit ?_, ⟨seen, stands, ?_⟩,
    ?_, corresponds.down_le, ?_⟩
  · rintro _ ⟨⟩
    rw [asked later rfl, config']
  · have within : up ≤ (own.transport.wrote home).length := corresponds.up_le
    rw [said_some] at split
    rw [said_some, wrote', List.drop_append_of_le_length within, ← List.append_assoc _ _ written,
      ← List.append_assoc seen, split]
  · rw [said_some, wrote', List.length_append]
    exact Nat.le_trans corresponds.up_le (Nat.le_add_right _ _)
  · rintro _ ⟨⟩
    refine ⟨⟨agreement, limit, ?_, granted, ?_⟩, after.calm, ⟨first, rest ++ written, ?_, ?_⟩,
      listens.works works having calm corresponds.greeted⟩
    · rw [requested, config']
    · rwa [config']
    · rw [wrote', wrote]
      rfl
    · intro channels mem
      rcases List.mem_append.mp mem with earlier | now
      · exact quiet channels earlier
      · exact quiet' channels now

/-- Before a client is there, it has written nothing and has been written nothing. -/
theorem silent
    (corresponds : Correspondence home place config registry server chronicle none up down) :
    up = 0 ∧ down = 0 ∧ server.transport.incoming place = [] ∧
      server.transport.dealings place = {} ∧
      server.Stands place config.sendChannel [] [] (attendance place chronicle) := by
  obtain ⟨seen, stands, split⟩ := corresponds.stands
  obtain ⟨rfl, unread⟩ := List.append_eq_nil_iff.mp split
  obtain ⟨strange, -⟩ := stands.footing.eq_of_unseen
  have unwritten : server.transport.wrote place = [] := congrArg Dealings.wrote strange
  have down_le := corresponds.down_le
  rw [unwritten] at down_le
  exact ⟨Nat.le_zero.mp corresponds.up_le, Nat.le_zero.mp down_le,
    (List.append_eq_nil_iff.mp unread).1, strange, stands⟩

theorem connected {door ready : Node ChatPacket (Station Interface) κ}
    (corresponds : Correspondence home place config registry server chronicle none up down)
    (serves : config.channels ≠ 0) (untouched : Peering.Untouched home door)
    (calm : door.transport.Calm) (known : door.registry = ChatPacket.clientRegistry)
    (named : door.transport.process.network.names s!"{door.config.host}:{door.config.port}" =
      some home)
    (granted : config.sendChannel < min door.config.channels config.channels)
    (unspoken : door.acts = [])
    (connects : Client.connect door = .ok own ready) :
    Correspondence home place config registry server chronicle (some own) up down := by
  obtain ⟨rfl, rfl, nothing, strange, stands⟩ := corresponds.silent
  have asking := Peering.asking_of_connect untouched named connects
  obtain ⟨valid, sameConfig, sameRegistry, -, started, made, startRan, createRan, askRan⟩ :=
    Client.begun_of_connect connects
  obtain ⟨idle, unacquainted⟩ := untouched
  rw [Peering.eq_of_idle idle] at startRan
  cases startRan
  obtain ⟨calm', unheard, begun⟩ :=
    Station.asked_of_connect unacquainted calm named createRan askRan
  have offers : own.config.channels ≠ 0 := by
    rw [sameConfig]
    exact Config.channels_ne_zero_of_validate valid
  let agreement : Agreement :=
    { limit := config.channels, asked := own.config.channels, limit_ne_zero := serves,
      asked_ne_zero := offers }
  have asks : agreement.asked = negotiate own.config.channels own.config.channels := by
    rw [negotiate, if_neg offers]
    exact (if_pos (UInt8.le_refl _)).symm
  have party := (Agreement.Party.asking asks asking).1
  have unwritten : server.transport.wrote place = [] := congrArg Dealings.wrote strange
  have unprocessed : own.relays = [] := by
    rw [Client.relays_connect connects, Node.relays, Node.printed, unspoken]
    rfl
  refine ⟨fun agreement limit _ => corresponds.keeps agreement limit (by rintro _ ⟨⟩),
    ⟨[], stands, ?_⟩, Nat.zero_le _, Nat.zero_le _, ?_⟩
  · rw [nothing]
    rfl
  · rintro _ ⟨⟩
    refine ⟨⟨agreement, rfl, rfl, ?_, party, rfl, sameRegistry.trans known⟩, calm',
      ⟨_, [], congrArg Dealings.wrote begun, fun _ => List.not_mem_nil⟩, ?_⟩
    · change config.sendChannel < min own.config.channels config.channels
      rwa [sameConfig]
    · rw [Client.Listens, begun, unheard, unwritten, unprocessed]
      exact .waiting rfl rfl

theorem arrived_up {bytes : Bytes}
    (corresponds : Correspondence home place config registry server chronicle (some own) up down)
    (next : (own.transport.process.network.lettersTo home)[up]? = some bytes) :
    Correspondence home place config registry
      (server.onStation (·.arrive (.datagram place bytes))) chronicle (some own) (up + 1) down := by
  obtain ⟨⟨agreed, limit, requested, granted, party, same⟩, calm, once, listens⟩ :=
    corresponds.present own rfl
  obtain ⟨seen, stands, split⟩ := corresponds.stands
  obtain ⟨frame, wrote, rfl, short⟩ := Station.getElem?_wrote party.attending.legible next
  have speaks := party.speaks_of_letter (List.mem_of_getElem? next) place
  refine ⟨fun agreement limit' asked => ?_, ⟨seen, stands, ?_⟩,
    (List.getElem?_eq_some_iff.mp wrote).1, corresponds.down_le,
    corresponds.present⟩
  · obtain ⟨serving, kept⟩ := corresponds.keeps agreement limit' asked
    obtain rfl : agreed = agreement := Agreement.ext (limit.trans limit'.symm)
      (requested.trans (asked own rfl).symm)
    exact ⟨serving.arrive speaks, kept⟩
  · refine Eq.trans ?_ split
    have unread : (said home (some own)).drop up =
        frame :: (said home (some own)).drop (up + 1) := by
      rw [List.drop_eq_getElem?_toList_append]
      exact congrArg (Option.toList · ++ _) wrote
    have taken := Station.incoming_arrive server.transport place (.datagram place frame.encode)
    rw [Station.frameOf?_of_short short] at taken
    rw [Server.transport_onStation, taken, unread, List.append_assoc]
    rfl

theorem arrived_down {bytes : Bytes}
    (corresponds : Correspondence home place config registry server chronicle (some own) up down)
    (next : (server.transport.process.network.lettersTo place)[down]? = some bytes) :
    Correspondence home place config registry server chronicle
      (some (own.onStation (·.arrive (.datagram home bytes)))) up (down + 1) := by
  obtain ⟨⟨agreement, limit, requested, granted, party, same⟩, calm, once, listens⟩ :=
    corresponds.present own rfl
  have asked : ∀ other, some own = some other → agreement.asked = other.config.channels := by
    rintro _ ⟨⟩
    exact requested
  obtain ⟨serving, -⟩ := corresponds.keeps agreement limit asked
  obtain ⟨frame, wrote, rfl, short⟩ := Station.getElem?_wrote serving.attending.legible next
  have speaks := serving.speaks_of_letter (List.mem_of_getElem? next) home
  refine ⟨fun agreement limit asked => corresponds.keeps agreement limit ?_, corresponds.stands,
    corresponds.up_le, (List.getElem?_eq_some_iff.mp wrote).1, ?_⟩
  · rintro _ ⟨⟩
    exact (asked _ rfl :)
  · rintro _ ⟨⟩
    refine ⟨⟨agreement, limit, requested, granted, party.arrive speaks, same⟩,
      calm.arrive home frame.encode, once, ?_⟩
    have unread : (server.transport.wrote place).drop down =
        frame :: (server.transport.wrote place).drop (down + 1) := by
      rw [List.drop_eq_getElem?_toList_append, wrote]
      rfl
    have taken := Station.incoming_arrive own.transport home (.datagram home frame.encode)
    rw [Station.frameOf?_of_short short] at taken
    rw [Client.Listens, unread] at listens
    rw [Client.Listens, Client.transport_onStation, taken, List.append_assoc]
    exact listens

theorem server_elsewhere
    (corresponds : Correspondence home place config registry server chronicle client up down)
    {change : Station Interface → Station Interface}
    (party : ∀ {agreement : Agreement},
      agreement.Party .server config.channels place server.transport →
        agreement.Party .server config.channels place (change server.transport))
    (dealings : (change server.transport).dealings place = server.transport.dealings place)
    (incoming : (change server.transport).incoming place = server.transport.incoming place) :
    Correspondence home place config registry (server.onStation change) chronicle client up
      down := by
  obtain ⟨seen, stands, split⟩ := corresponds.stands
  have wrote : (change server.transport).wrote place = server.transport.wrote place :=
    congrArg Dealings.wrote dealings
  refine ⟨fun agreement limit asked => ?_, ⟨seen, ?_, ?_⟩, corresponds.up_le, ?_,
    fun own here => ?_⟩
  · obtain ⟨serving, same⟩ := corresponds.keeps agreement limit asked
    exact ⟨party serving, same⟩
  · rw [Server.Stands, Server.transport_onStation, dealings]
    exact stands
  · rwa [Server.transport_onStation, incoming]
  · rw [Server.transport_onStation, wrote]
    exact corresponds.down_le
  · rw [Server.transport_onStation, wrote]
    exact corresponds.present own here

theorem client_elsewhere
    (corresponds : Correspondence home place config registry server chronicle (some own) up down)
    {change : Station Interface → Station Interface}
    (party : ∀ {agreement : Agreement} {limit : UInt8},
      agreement.Party .client limit home own.transport →
        agreement.Party .client limit home (change own.transport))
    (calm : own.transport.Calm → (change own.transport).Calm)
    (dealings : (change own.transport).dealings home = own.transport.dealings home)
    (incoming : (change own.transport).incoming home = own.transport.incoming home) :
    Correspondence home place config registry server chronicle (some (own.onStation change)) up
      down := by
  obtain ⟨⟨agreement, limit, requested, granted, keeping, same⟩, quiet, once, listens⟩ :=
    corresponds.present own rfl
  have wrote : said home (some (own.onStation change)) = said home (some own) :=
    congrArg Dealings.wrote dealings
  refine ⟨fun agreement limit asked => corresponds.keeps agreement limit ?_, ?_, ?_,
    corresponds.down_le, ?_⟩
  · rintro _ ⟨⟩
    exact (asked _ rfl :)
  · rw [wrote]
    exact corresponds.stands
  · rw [wrote]
    exact corresponds.up_le
  · rintro _ ⟨⟩
    refine ⟨⟨agreement, limit, requested, granted, party keeping, same⟩, calm quiet, ?_, ?_⟩
    · obtain ⟨first, rest, before, single⟩ := once
      exact ⟨first, rest, wrote.trans before, single⟩
    · rw [Client.Listens, Client.transport_onStation, incoming, dealings]
      exact listens

theorem strayed_up {source : SocketAddress} (elsewhere : source ≠ place)
    (corresponds : Correspondence home place config registry server chronicle client up down)
    (bytes : Bytes) :
    Correspondence home place config registry
      (server.onStation (·.arrive (.datagram source bytes))) chronicle client up down := by
  have stray := Station.frameOf?_of_elsewhere elsewhere bytes
  refine corresponds.server_elsewhere (fun serving => serving.arrive fun frame read => ?_) rfl ?_
  · rw [stray] at read
    cases read
  · rw [Station.incoming_arrive, stray]
    exact List.append_nil _

theorem strayed_down {source : SocketAddress} (elsewhere : source ≠ home)
    (corresponds : Correspondence home place config registry server chronicle (some own) up down)
    (bytes : Bytes) :
    Correspondence home place config registry server chronicle
      (some (own.onStation (·.arrive (.datagram source bytes)))) up down := by
  have stray := Station.frameOf?_of_elsewhere elsewhere bytes
  refine corresponds.client_elsewhere (fun party => party.arrive fun frame read => ?_)
    (·.arrive source bytes) rfl ?_
  · rw [stray] at read
    cases read
  · rw [Station.incoming_arrive, stray]
    exact List.append_nil _

theorem shifted_up
    (corresponds : Correspondence home place config registry server chronicle client up down)
    (names : String → Option SocketAddress)
    (binding : SocketAddress → Except String SocketAddress) (handles : Nat) :
    Correspondence home place config registry
      (server.onStation (·.shift names binding [] handles)) chronicle client up down :=
  corresponds.server_elsewhere (·.shift names binding [] handles) rfl rfl

theorem shifted_down
    (corresponds : Correspondence home place config registry server chronicle (some own) up down)
    (names : String → Option SocketAddress)
    (binding : SocketAddress → Except String SocketAddress) (handles : Nat) :
    Correspondence home place config registry server chronicle
      (some (own.onStation (·.shift names binding [] handles))) up down :=
  corresponds.client_elsewhere (·.shift names binding [] handles)
    (·.shift names binding handles) rfl rfl

end Correspondence

end Courier

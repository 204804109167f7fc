import Courier.Proofs.Datagram.Course
import Courier.Proofs.Datagram.Opening
import Mathlib.Logic.Function.Basic

namespace Courier.Datagram

def Role.other : Role → Role
  | .server => .client
  | .client => .server

@[simp] theorem Role.other_other (role : Role) : role.other.other = role := by
  cases role <;> rfl

/-- What a server and a client agree on. The client asks for a number of channels, and is granted no
more of them than the server has. -/
@[ext]
structure Agreement where
  limit : UInt8
  asked : UInt8
  limit_ne_zero : limit ≠ 0
  asked_ne_zero : asked ≠ 0

theorem negotiate_ne_zero (requested : UInt8) {limit : UInt8} (some : limit ≠ 0) :
    negotiate requested limit ≠ 0 := by
  unfold negotiate
  split
  · exact some
  · next asked =>
    change (if requested ≤ limit then requested else limit) ≠ 0
    split
    · exact asked
    · exact some

namespace Agreement

variable (agreement : Agreement)

def granted : UInt8 :=
  min agreement.asked agreement.limit

theorem negotiate_asked : negotiate agreement.asked agreement.limit = agreement.granted :=
  if_neg agreement.asked_ne_zero

/-- The client has asked for no less. -/
theorem negotiate_granted : negotiate agreement.granted agreement.asked = agreement.granted := by
  have some : agreement.granted ≠ 0 := by
    rw [← negotiate_asked]
    exact negotiate_ne_zero _ agreement.limit_ne_zero
  have below : agreement.granted ≤ agreement.asked := by
    change (if agreement.asked ≤ agreement.limit then agreement.asked else agreement.limit) ≤ _
    split
    · exact UInt8.le_refl _
    · next more => exact UInt8.le_of_lt (UInt8.not_le.mp more)
  rw [negotiate, if_neg some]
  exact if_pos below

/-- What each of the two writes. -/
def Speaks : Role → Frame → Prop
  | .client, .connect channels => channels = agreement.asked
  | .server, .accept channels => channels = agreement.granted
  | _, .disconnect => True
  | _, .data channel _ _ => channel < agreement.granted
  | _, _ => False

/-- The link that each of the two has to the other. -/
def Fits : Role → Link → Prop
  | .server, link => link.state = .connected ∧ link.channels = agreement.granted
  | .client, link =>
    link.state = .connecting ∧ link.channels = agreement.asked ∨
      link.state = .connected ∧ link.channels = agreement.granted

theorem Fits.channels_eq {agreement : Agreement} {role : Role} {link : Link}
    (fits : agreement.Fits role link) (connected : link.state = .connected) :
    link.channels = agreement.granted := by
  cases role with
  | server => exact fits.2
  | client =>
      rcases fits with ⟨waiting, -⟩ | ⟨-, same⟩
      · rw [connected] at waiting
        cases waiting
      · exact same

structure Kept (role : Role) (dealings : Dealings) : Prop where
  fits : ∀ {peer link}, dealings.facing = some (peer, link) → agreement.Fits role link
  speaks : ∀ frame ∈ dealings.wrote, agreement.Speaks role frame

variable {agreement} {role : Role} {limit : UInt8} {address : SocketAddress}

namespace Kept

theorem write {facing facing' : Option (PeerHandle × Link)} {wrote : List Frame} {frame : Frame}
    (before : agreement.Kept role ⟨facing, wrote⟩) (speaks : agreement.Speaks role frame)
    (fits : ∀ {peer link}, facing' = some (peer, link) → agreement.Fits role link) :
    agreement.Kept role ⟨facing', wrote ++ [frame]⟩ where
  fits := fits
  speaks other mem := by
    rcases List.mem_append.mp mem with earlier | last
    · exact before.speaks other earlier
    · rwa [List.mem_singleton.mp last]

theorem heard (limited : role = .server → limit = agreement.limit) {frame : Frame}
    {before after : Dealings} {events : List RawEvent} (kept : agreement.Kept role before)
    (speaks : agreement.Speaks role.other frame)
    (heard : Heard role limit address frame before events after) : agreement.Kept role after := by
  cases heard with
  | admitted peer requested serving =>
      subst serving
      obtain rfl : requested = agreement.asked := speaks
      rw [limited rfl, negotiate_asked]
      refine kept.write rfl ?_
      rintro _ _ ⟨⟩
      exact ⟨rfl, rfl⟩
  | refused requested serving =>
      subst serving
      exact kept.write trivial nofun
  | unanswered => exact kept
  | @again peer link wrote requested =>
      cases role with
      | client => exact speaks.elim
      | server => exact kept.write (kept.fits rfl).2 kept.fits
  | stray => exact kept
  | @established peer link wrote granted waiting =>
      have fits := kept.fits rfl
      cases role with
      | server =>
          rw [fits.1] at waiting
          cases waiting
      | client =>
          obtain rfl : granted = agreement.granted := speaks
          refine ⟨?_, kept.speaks⟩
          rintro _ _ ⟨⟩
          rcases fits with ⟨-, asked⟩ | ⟨connected, -⟩
          · exact .inr ⟨rfl, by rw [asked, negotiate_granted]⟩
          · rw [connected] at waiting
            cases waiting
  | settled => exact kept
  | left => exact ⟨nofun, kept.speaks⟩
  | received => exact kept
  | dropped => exact kept

theorem hears (limited : role = .server → limit = agreement.limit) {frames : List Frame}
    {before after : Dealings} {events : List RawEvent} (kept : agreement.Kept role before)
    (speaks : ∀ frame ∈ frames, agreement.Speaks role.other frame)
    (hears : Hears role limit address frames before events after) :
    agreement.Kept role after := by
  induction hears with
  | done => exact kept
  | heard first rest ih =>
      have next := kept.heard limited (speaks _ List.mem_cons_self) first
      exact ih next fun frame mem => speaks frame (List.mem_cons_of_mem _ mem)
  | elsewhere others quiet rest ih => exact ih kept speaks

theorem acted {before after : Dealings} (kept : agreement.Kept role before)
    (acted : Acted before after) : agreement.Kept role after := by
  cases acted with
  | kept => exact kept
  | said flags data connected offered =>
      rw [(kept.fits rfl).channels_eq connected] at offered
      refine kept.write ?_ kept.fits
      cases role <;> exact offered
  | left => exact ⟨nofun, kept.speaks⟩
  | parted =>
      refine kept.write ?_ nofun
      cases role <;> trivial

theorem acts {before after : Dealings} (kept : agreement.Kept role before)
    (acts : Relation.ReflTransGen Acted before after) : agreement.Kept role after := by
  induction acts with
  | refl => exact kept
  | tail _ last ih => exact ih.acted last

end Kept

end Agreement

namespace Station

/-- An item arrives. -/
def arrive (station : Station Interface) (item : Receipt) : Station Interface :=
  station.setNetwork
    { station.process.network with inbox := station.process.network.inbox ++ [item] }

/-- The network answers in other ways from now on, and handles are given out elsewhere. -/
def shift (station : Station Interface) (names : String → Option SocketAddress)
    (binding : SocketAddress → Except String SocketAddress) (faults : List (Option String))
    (handles : Nat) : Station Interface :=
  station.meet (.elsewhere { station.process.network with names, binding, faults } handles)

theorem Attending.shift {role : Role} {limit : UInt8} {address : SocketAddress}
    {station : Station Interface} (attending : station.Attending role limit address)
    (names : String → Option SocketAddress)
    (binding : SocketAddress → Except String SocketAddress) (faults : List (Option String))
    (handles : Nat) :
    (station.shift names binding faults handles).Attending role limit address where
  attends _ hosting := (attending.attends hosting).mono (Nat.le_add_right _ handles)
  room_eq := attending.room_eq
  legible := attending.legible

end Station

/-- One of the two, as long as it keeps to the agreement and hears nothing else. -/
structure Agreement.Party (agreement : Agreement) (role : Role) (limit : UInt8)
    (address : SocketAddress) (station : Station Interface) : Prop where
  limited : role = .server → limit = agreement.limit
  attending : station.Attending role limit address
  kept : agreement.Kept role (station.dealings address)
  hears : ∀ frame ∈ station.process.network.inbox.filterMap (Station.frameOf? address),
    agreement.Speaks role.other frame

namespace Agreement.Party

variable {agreement : Agreement} {role : Role} {limit : UInt8} {address : SocketAddress}
  {station : Station Interface}

theorem call (party : agreement.Party role limit address station) {call : TransportCall}
    (plain : call.Plain) : agreement.Party role limit address (station.meet (.call call)) := by
  obtain ⟨attending, inbox, acts⟩ := party.attending.plain plain
  refine ⟨party.limited, attending, party.kept.acts acts, ?_⟩
  rcases inbox with same | lost
  · rw [same]
    exact party.hears
  · rw [lost]
    simp

theorem poll (party : agreement.Party role limit address station) (timeout : Nat) :
    agreement.Party role limit address (station.meet (.call (.poll timeout))) := by
  obtain ⟨attending, taken, split, hears⟩ := party.attending.taken timeout
  have heard := party.hears
  rw [split, List.filterMap_append] at heard
  rw [Station.meet_poll]
  refine ⟨party.limited, attending, ?_, fun frame mem => heard frame (List.mem_append_right _ mem)⟩
  exact party.kept.hears party.limited
    (fun frame mem => heard frame (List.mem_append_left _ mem)) hears

theorem arrive (party : agreement.Party role limit address station) {item : Receipt}
    (speaks : ∀ frame, Station.frameOf? address item = some frame →
      agreement.Speaks role.other frame) :
    agreement.Party role limit address (station.arrive item) where
  limited := party.limited
  attending := party.attending.setNetwork rfl
  kept := party.kept
  hears frame mem := by
    change frame ∈ (station.process.network.inbox ++ [item]).filterMap _ at mem
    rw [List.filterMap_append, List.mem_append] at mem
    rcases mem with before | now
    · exact party.hears frame before
    · obtain ⟨_, last, read⟩ := List.mem_filterMap.mp now
      cases List.mem_singleton.mp last
      exact speaks frame read

theorem shift (party : agreement.Party role limit address station)
    (names : String → Option SocketAddress)
    (binding : SocketAddress → Except String SocketAddress) (faults : List (Option String))
    (handles : Nat) :
    agreement.Party role limit address (station.shift names binding faults handles) where
  limited := party.limited
  attending := party.attending.shift names binding faults handles
  kept := party.kept
  hears := party.hears

/-- Whatever one of them has sent, the other reads as it was written. -/
theorem speaks_of_letter (party : agreement.Party role limit address station) {bytes : Bytes}
    (sent : bytes ∈ station.process.network.lettersTo address) (source : SocketAddress) :
    ∀ frame, Station.frameOf? source (.datagram source bytes) = some frame →
      agreement.Speaks role frame := by
  obtain ⟨⟨_, _⟩, mem, rfl⟩ := List.mem_map.mp sent
  obtain ⟨written, there⟩ := List.mem_filter.mp mem
  obtain ⟨frame, rfl, short⟩ := party.attending.legible _ written
  intro other read
  cases (Station.frameOf?_of_short short source).symm.trans read
  exact party.kept.speaks frame (List.mem_filterMap.mpr ⟨_, sent, Frame.decode?_encode frame⟩)

theorem data_of_letter (party : agreement.Party role limit address station) {channel : UInt8}
    {flags : SendFlags} {data : Bytes}
    (sent : (Frame.data channel flags data).encode ∈ station.process.network.lettersTo address) :
    channel < agreement.granted ∧ (Frame.data channel flags data).Short := by
  have speaks := party.kept.speaks _
    (List.mem_filterMap.mpr ⟨_, sent, Frame.decode?_encode (.data channel flags data)⟩)
  obtain ⟨⟨_, _⟩, mem, same⟩ := List.mem_map.mp sent
  obtain ⟨frame, written, short⟩ := party.attending.legible _ (List.mem_filter.mp mem).1
  refine ⟨by cases role <;> exact speaks, ?_⟩
  rwa [Frame.Short, written, same] at short

theorem fits (party : agreement.Party role limit address station) {host : Host}
    {peer : PeerHandle} {link : Link} (hosting : station.endpoint.host = some host)
    (linked : host.link? peer = some link) (there : link.address = address) :
    agreement.Fits role link := by
  have attends := party.attending.host hosting
  apply party.kept.fits
  rw [Station.dealings_of_host hosting]
  exact (Host.facing?_eq_some_iff attends.sound attends.faces).mpr ⟨linked, there⟩

end Agreement.Party

/-- Both of them, and the network between them: whatever one has sent may arrive at the other, at
any time and any number of times. Nothing else arrives from its address. -/
abbrev Pair : Type := Role → Station Interface

/-- A run of both, with what each of them has reported. -/
inductive Pair.Run (address : Role → SocketAddress) (start : Pair) :
    (Role → List RawEvent) → Pair → Prop
  | start : Run address start (fun _ => []) start
  | call {told : Role → List RawEvent} {pair : Pair} (run : Run address start told pair)
      (role : Role) {call : TransportCall} (plain : call.Plain) :
      Run address start told (Function.update pair role ((pair role).meet (.call call)))
  | poll {told : Role → List RawEvent} {pair : Pair} (run : Run address start told pair)
      (role : Role) (timeout : Nat) :
      Run address start
        (Function.update told role (told role ++ (pair role).reports (.call (.poll timeout))))
        (Function.update pair role ((pair role).meet (.call (.poll timeout))))
  | arrived {told : Role → List RawEvent} {pair : Pair} (run : Run address start told pair)
      (role : Role) {bytes : Bytes}
      (sent : bytes ∈ (pair role.other).process.network.lettersTo (address role)) :
      Run address start told (Function.update pair role
        ((pair role).arrive (.datagram (address role.other) bytes)))
  | strayed {told : Role → List RawEvent} {pair : Pair} (run : Run address start told pair)
      (role : Role) {item : Receipt}
      (stray : Interface.letterOf? (address role.other) item = none) :
      Run address start told (Function.update pair role ((pair role).arrive item))
  | shifted {told : Role → List RawEvent} {pair : Pair} (run : Run address start told pair)
      (role : Role) (names : String → Option SocketAddress)
      (binding : SocketAddress → Except String SocketAddress) (faults : List (Option String))
      (handles : Nat) :
      Run address start told (Function.update pair role
        ((pair role).shift names binding faults handles))

namespace Pair

variable {agreement : Agreement} {address : Role → SocketAddress} {limit : Role → UInt8}
  {start pair : Pair} {told : Role → List RawEvent}

def Agrees (agreement : Agreement) (address : Role → SocketAddress) (limit : Role → UInt8)
    (pair : Pair) : Prop :=
  ∀ role, agreement.Party role (limit role) (address role.other) (pair role)

theorem Agrees.of_parties {own served : UInt8}
    (server : agreement.Party .server served (address .client) (pair .server))
    (client : agreement.Party .client own (address .server) (pair .client)) :
    Agrees agreement address (fun role => if role = .server then served else own) pair := by
  intro role
  cases role with
  | server => exact server
  | client => exact client

theorem Agrees.update (agrees : Agrees agreement address limit pair) {role : Role}
    {station : Station Interface}
    (party : agreement.Party role (limit role) (address role.other) station) :
    Agrees agreement address limit (Function.update pair role station) := by
  intro other
  by_cases same : other = role
  · subst same
    rwa [Function.update_self]
  · rw [Function.update_of_ne same]
    exact agrees other

theorem Agrees.run (agrees : Agrees agreement address limit start)
    (run : Run address start told pair) : Agrees agreement address limit pair := by
  induction run with
  | start => exact agrees
  | call _ role plain ih => exact ih.update ((ih role).call plain)
  | poll _ role timeout ih => exact ih.update ((ih role).poll timeout)
  | @arrived _ pair _ role bytes sent ih =>
      have other := ih role.other
      rw [Role.other_other] at other
      exact ih.update ((ih role).arrive (other.speaks_of_letter sent _))
  | strayed _ role stray ih =>
      refine ih.update ((ih role).arrive fun frame read => ?_)
      rw [Station.frameOf?, stray] at read
      cases read
  | shifted _ role names binding faults handles ih =>
      exact ih.update ((ih role).shift names binding faults handles)

/-- A client reports at most one connect, since it has only one link. -/
def connects (told : List RawEvent) : Nat :=
  told.countP (·.kind = .connect)

@[simp] theorem connects_append (earlier later : List RawEvent) :
    connects (earlier ++ later) = connects earlier + connects later :=
  List.countP_append

structure Once (dealings : Dealings) (told : List RawEvent) : Prop where
  connects_le : connects told ≤ 1
  waiting : ∀ {peer link}, dealings.facing = some (peer, link) → link.state = .connecting →
    connects told = 0

theorem Once.heard {limit : UInt8} {address : SocketAddress} {frame : Frame}
    {before after : Dealings} {events told : List RawEvent} (once : Once before told)
    (heard : Heard .client limit address frame before events after) :
    Once after (told ++ events) := by
  cases heard with
  | admitted peer requested serving => cases serving
  | refused requested serving => cases serving
  | unanswered => simpa using once
  | again => simpa using ⟨once.connects_le, once.waiting⟩
  | stray => simpa using once
  | established granted waiting =>
      have none := once.waiting rfl waiting
      refine ⟨?_, ?_⟩
      · rw [connects_append, none]
        exact Nat.le_refl 1
      · rintro _ _ ⟨⟩ ⟨⟩
  | settled => simpa using once
  | left =>
      refine ⟨?_, nofun⟩
      rw [connects_append]
      exact once.connects_le
  | received =>
      refine ⟨?_, fun facing waiting => ?_⟩
      · rw [connects_append]
        exact once.connects_le
      · rw [connects_append, once.waiting facing waiting]
        rfl
  | dropped => simpa using once

theorem Once.hears {limit : UInt8} {address : SocketAddress} {frames : List Frame}
    {before after : Dealings} {events told : List RawEvent} (once : Once before told)
    (hears : Hears .client limit address frames before events after) :
    Once after (told ++ events) := by
  induction hears generalizing told with
  | done => rwa [List.append_nil]
  | heard first rest ih =>
      rw [← List.append_assoc]
      exact ih (once.heard first)
  | elsewhere others quiet rest ih =>
      rw [quiet rfl, List.nil_append]
      exact ih once

theorem Once.acted {before after : Dealings} {told : List RawEvent} (once : Once before told)
    (acted : Acted before after) : Once after told := by
  cases acted with
  | kept => exact once
  | said => exact ⟨once.connects_le, once.waiting⟩
  | left => exact ⟨once.connects_le, nofun⟩
  | parted => exact ⟨once.connects_le, nofun⟩

theorem Once.acts {before after : Dealings} {told : List RawEvent} (once : Once before told)
    (acts : Relation.ReflTransGen Acted before after) : Once after told := by
  induction acts with
  | refl => exact once
  | tail _ last ih => exact ih.acted last

/-- A poll that fails loses what it has heard, which is no more to be told. -/
theorem Once.poll {limit : UInt8} {address : SocketAddress} {station : Station Interface}
    {told : List RawEvent} (attending : station.Attending .client limit address)
    (once : Once (station.dealings address) told) (timeout : Nat) :
    Once ((station.meet (.call (.poll timeout))).dealings address)
      (told ++ station.reports (.call (.poll timeout))) := by
  obtain ⟨-, taken, -, hears⟩ := attending.taken timeout
  have next := once.hears hears
  rw [Station.meet_poll, Station.reports_poll, Batch.told]
  cases (Station.takeBatch timeout station).1.failure with
  | none => exact next
  | some error =>
      rw [List.append_nil]
      have fewer : connects told ≤
          connects (told ++ (Station.takeBatch timeout station).1.events) := by
        rw [connects_append]
        exact Nat.le_add_right _ _
      exact ⟨once.connects_le, fun facing waiting =>
        Nat.le_zero.mp (next.waiting facing waiting ▸ fewer)⟩

theorem Once.update {role : Role} {station : Station Interface} {address : SocketAddress}
    {events : List RawEvent} (once : Once ((pair .client).dealings address) events)
    (same : station.dealings address = (pair role).dealings address) :
    Once ((Function.update pair role station .client).dealings address) events := by
  cases role with
  | server => rwa [Function.update_of_ne (by decide)]
  | client => rwa [Function.update_self, same]

theorem Once.run (agrees : Agrees agreement address limit start)
    (once : Once ((start .client).dealings (address .server)) [])
    (run : Run address start told pair) :
    Once ((pair .client).dealings (address .server)) (told .client) := by
  induction run with
  | start => exact once
  | call earlier role plain ih =>
      cases role with
      | server =>
          rw [Function.update_of_ne (by decide)]
          exact ih
      | client =>
          obtain ⟨-, -, acts⟩ := (agrees.run earlier .client).attending.plain plain
          rw [Function.update_self]
          exact ih.acts acts
  | poll earlier role timeout ih =>
      cases role with
      | server =>
          rw [Function.update_of_ne (by decide), Function.update_of_ne (by decide)]
          exact ih
      | client =>
          rw [Function.update_self, Function.update_self]
          exact ih.poll (agrees.run earlier .client).attending timeout
  | arrived _ _ _ ih | strayed _ _ _ ih | shifted _ _ _ _ _ _ ih => exact ih.update rfl

end Pair

namespace Station

/-- A process whose network has nothing from the address and has sent nothing. -/
def Unacquainted (address : SocketAddress) (process : Process Interface) : Prop :=
  process.network.sent = [] ∧ process.network.lettersFrom address = []

def Opened (limit : UInt8) (address : SocketAddress) (server : Station Interface) : Prop :=
  ∃ process name port maxPeers, Unacquainted address process ∧
    createServer name port limit maxPeers ({ process } : Station Interface).start = .ok () server

def Asking (limit requested : UInt8) (address : SocketAddress) (client : Station Interface) :
    Prop :=
  ∃ (process : Process Interface) (name : String) (port : UInt16) (made : Station Interface),
    Unacquainted address process ∧ process.network.names s!"{name}:{port}" = some address ∧
      createClient limit ({ process } : Station Interface).start = .ok () made ∧
      made.meet (.call (.connect name port requested)) = client

theorem meet_connect (name : String) (port : UInt16) (channels : UInt8)
    (station : Station Interface) :
    station.meet (.call (.connect name port channels)) =
      attempt (connect name port channels) station := rfl

namespace Unacquainted

variable {address : SocketAddress} {process : Process Interface} {limit : UInt8}

theorem unheard (unacquainted : Unacquainted address process) {inbox : List Receipt}
    (within : ∀ item ∈ inbox, item ∈ process.network.inbox) :
    inbox.filterMap (frameOf? address) = [] := by
  have nothing := List.filterMap_eq_nil_iff.mp unacquainted.2
  rw [List.filterMap_eq_nil_iff]
  intro item mem
  rw [frameOf?, nothing item (within item mem)]
  rfl

theorem opened (unacquainted : Unacquainted address process) {name : String} {port : UInt16}
    {maxPeers : Nat} {server : Station Interface}
    (created : createServer name port limit maxPeers ({ process } : Station Interface).start =
      .ok () server) :
    server.Attending .server limit address ∧ server.dealings address = {} ∧
      server.process = process := by
  rcases createServer_interface name port limit maxPeers
    ({ process } : Station Interface).start with ⟨error, failed⟩ | ⟨socket, made⟩
  · rw [failed] at created
    cases created
  · rw [made] at created
    cases created
    obtain ⟨attending, dealings⟩ := attending_of_new .server socket limit maxPeers nofun
      ({ process } : Station Interface).start rfl unacquainted.1 address
    exact ⟨attending, dealings, rfl⟩

theorem made (unacquainted : Unacquainted address process) {client : Station Interface}
    (created : createClient limit ({ process } : Station Interface).start = .ok () client) :
    client.Attending .client limit address ∧ client.dealings address = {} ∧
      client.process = process ∧ ∃ host, client.endpoint.host = some host := by
  rcases createClient_interface limit ({ process } : Station Interface).start with
    ⟨error, failed⟩ | ⟨socket, opened⟩
  · rw [failed] at created
    cases created
  · rw [opened] at created
    cases created
    obtain ⟨attending, dealings⟩ := attending_of_new .client socket limit 1 (fun _ => rfl)
      ({ process } : Station Interface).start rfl unacquainted.1 address
    exact ⟨attending, dealings, rfl, _, rfl⟩

/-- A client that dials the address waits for its answer, and what has arrived is there or lost. -/
theorem dialled (unacquainted : Unacquainted address process) {client : Station Interface}
    (created : createClient limit ({ process } : Station Interface).start = .ok () client)
    {name : String} {port : UInt16}
    (named : process.network.names s!"{name}:{port}" = some address) (requested : UInt8) :
    (∃ error, connect name port requested client = .error error client) ∨
      ∃ socket peer, ∃ dialled : Station Interface,
        let channels := negotiate requested limit
        connect name port requested client =
            (do Station.sendFrame socket address (.connect channels); return peer :
              EStateM TransportError (Station Interface) PeerHandle) dialled ∧
          dialled.Attending .client limit address ∧
          dialled.dealings address =
            ⟨some (peer, { address, channels, state := .connecting }), []⟩ ∧
          dialled.process.network.faults = process.network.faults ∧
          ∀ item ∈ dialled.process.network.inbox, item ∈ process.network.inbox := by
  obtain ⟨attending, dealings, same, host, hosting⟩ := unacquainted.made created
  have silent : client.wrote address = [] := congrArg Dealings.wrote dealings
  rcases attending.dial hosting (same.symm ▸ named) requested with failed |
    ⟨socket, peer, dialled, asks, dialling, begun, faults, inbox⟩
  · exact .inl failed
  · rw [silent] at begun
    rw [same] at faults inbox
    refine .inr ⟨socket, peer, dialled, asks, dialling, begun, faults, fun item mem => ?_⟩
    rcases inbox with kept | lost
    · exact kept ▸ mem
    · rw [lost] at mem
      cases mem

end Unacquainted

end Station

namespace Agreement

variable {agreement : Agreement} {address : SocketAddress}

theorem Party.opened {server : Station Interface}
    (opened : server.Opened agreement.limit address) :
    agreement.Party .server agreement.limit address server := by
  obtain ⟨process, name, port, maxPeers, unacquainted, created⟩ := opened
  obtain ⟨attending, dealings, same⟩ := unacquainted.opened created
  refine ⟨fun _ => rfl, attending, ?_, ?_⟩
  · rw [dealings]
    exact ⟨nofun, nofun⟩
  · rw [same, unacquainted.unheard fun _ mem => mem]
    nofun

theorem Party.asking {client : Station Interface} {limit requested : UInt8}
    (asked : agreement.asked = negotiate requested limit)
    (asking : client.Asking limit requested address) :
    agreement.Party .client limit address client ∧ Pair.Once (client.dealings address) [] := by
  obtain ⟨process, name, port, made, unacquainted, named, created, rfl⟩ := asking
  rw [Station.meet_connect]
  rcases unacquainted.dialled created named requested with ⟨error, failed⟩ |
    ⟨source, peer, dialled, asks, dialling, begun, -, within⟩
  · obtain ⟨attending, dealings, same, -⟩ := unacquainted.made created
    rw [attempt, failed]
    refine ⟨⟨by rintro ⟨⟩, attending, ?_, ?_⟩, ?_⟩
    · rw [dealings]
      exact ⟨by rintro _ _ ⟨⟩, List.forall_mem_nil _⟩
    · rw [same, unacquainted.unheard fun _ mem => mem]
      exact List.forall_mem_nil _
    · rw [dealings]
      exact ⟨Nat.zero_le 1, by rintro _ _ ⟨⟩⟩
  · have before : agreement.Kept .client (dialled.dealings address) := by
      rw [begun]
      refine ⟨?_, List.forall_mem_nil _⟩
      rintro _ _ ⟨⟩
      exact .inl ⟨rfl, asked.symm⟩
    have hears : ∀ frame ∈ dialled.process.network.inbox.filterMap (Station.frameOf? address),
        agreement.Speaks Role.client.other frame := by
      rw [unacquainted.unheard within]
      exact List.forall_mem_nil _
    rw [attempt_congr asks, attempt_bind_pure]
    have attending := dialling.sendFrame source address
      (Frame.short_connect (negotiate requested limit))
    rcases Station.attempt_sendFrame_cases source address
      (.connect (negotiate requested limit)) dialled with sent | failed
    · rw [sent] at attending ⊢
      have after := (Station.dealings_written dialled address address
        (.connect (negotiate requested limit))).trans (if_pos rfl)
      refine ⟨⟨by rintro ⟨⟩, attending, ?_, hears⟩, ?_⟩
      · rw [after]
        exact before.write asked.symm before.fits
      · rw [after]
        exact ⟨Nat.zero_le 1, fun _ _ => rfl⟩
    · rw [failed] at attending ⊢
      exact ⟨⟨by rintro ⟨⟩, attending, before, hears⟩, ⟨Nat.zero_le 1, fun _ _ => rfl⟩⟩

end Agreement

/-- Both see the same number of channels, whatever the network loses, repeats, delays or puts out of
order: what the client asked for, as far as the server has it. The client reports at most one
connect; a connected link stays as it is when it is asked for or granted again; and what one of them
could send on a channel, a connected link of the other does not refuse for the channel. -/
theorem Pair.channels_of_run {address : Role → SocketAddress} {limit own requested : UInt8}
    (serves : limit ≠ 0) (offers : own ≠ 0) {start : Pair}
    (opened : (start .server).Opened limit (address .client))
    (asking : (start .client).Asking own requested (address .server))
    {told : Role → List RawEvent} {pair : Pair} (run : Run address start told pair) :
    let asked := negotiate requested own
    let granted := min asked limit
    (∀ host peer link, (pair .server).endpoint.host = some host → host.link? peer = some link →
        link.address = address .client → link.state = .connected ∧ link.channels = granted) ∧
      (∀ host peer link, (pair .client).endpoint.host = some host →
        host.link? peer = some link → link.address = address .server ∧
          (link.state = .connecting ∧ link.channels = asked ∨
            link.state = .connected ∧ link.channels = granted)) ∧
      connects (told .client) ≤ 1 ∧
      ∀ role host peer link, (pair role).endpoint.host = some host →
        host.link? peer = some link → link.address = address role.other →
        link.state = .connected →
          (∀ (frame : Frame) channels, frame = .connect channels ∨ frame = .accept channels →
            let handled :=
              Station.handleDatagram (address role.other) frame.encode (pair role)
            handled.1 = [] ∧ handled.2.roster = (pair role).roster) ∧
          ∀ bytes ∈ (pair role.other).process.network.lettersTo (address role),
            ∀ channel flags data, bytes = Frame.encode (.data channel flags data) →
              (Station.handleDatagram (address role.other) bytes (pair role)).1 =
                [.receive peer channel flags data] := by
  intro asked granted
  let agreement : Agreement :=
    { limit, asked, limit_ne_zero := serves, asked_ne_zero := negotiate_ne_zero requested offers }
  have client : agreement.Party .client own (address .server) (start .client) ∧
      Once ((start .client).dealings (address .server)) [] := Agreement.Party.asking rfl asking
  have server : agreement.Party .server limit (address .client) (start .server) :=
    Agreement.Party.opened opened
  have party := (Agrees.of_parties server client.1).run run
  have fits (role : Role) {host : Host} {peer : PeerHandle} {link : Link}
      (hosting : (pair role).endpoint.host = some host) (linked : host.link? peer = some link)
      (there : link.address = address role.other) : agreement.Fits role link :=
    (party role).fits hosting linked there
  refine ⟨?_, ?_, ?_, ?_⟩
  · intro host peer link hosting linked there
    exact fits .server hosting linked there
  · intro host peer link hosting linked
    have there := ((party .client).attending.host hosting).confined rfl linked
    exact ⟨there, fits .client hosting linked there⟩
  · exact (client.2.run (Agrees.of_parties server client.1) run).connects_le
  · intro role host peer link hosting linked there connected
    have same := (fits role hosting linked there).channels_eq connected
    have attending := (party role).attending
    refine ⟨?_, ?_⟩
    · rintro frame channels (rfl | rfl)
      · exact attending.unmoved_of_connect hosting linked there channels
      · rw [attending.unmoved_of_accept hosting linked there connected]
        exact ⟨rfl, rfl⟩
    · rintro bytes sent channel flags data rfl
      have other := party role.other
      rw [Role.other_other] at other
      obtain ⟨offered, short⟩ := other.data_of_letter sent
      exact attending.received_of_offered hosting linked there connected
        (same.symm ▸ offered) short

def Role.address : Role → SocketAddress
  | .server => { ip := .v4 0x7f000001, port := 9000 }
  | .client => { ip := .v4 0x7f000001, port := 4000 }

def Role.process (role : Role) : Process Interface where
  network := { names := fun _ => some (address .server), binding := fun _ => .ok role.address }

def Pair.calling : Pair := fun role =>
  let station := Station.start { process := role.process }
  match role with
  | .server => attempt (Station.createServer "127.0.0.1" 9000 2 4) station
  | .client =>
    (attempt (Station.createClient 3) station).meet (.call (.connect "127.0.0.1" 9000 0))

theorem Pair.channels_of_run_calling :
    (calling .server).Opened 2 (Role.address .client) ∧
      (calling .client).Asking 3 0 (Role.address .server) ∧
      ∃ told pair host link, Run Role.address calling told pair ∧ connects (told .client) = 1 ∧
        (pair .server).endpoint.host = some host ∧ host.link? ⟨1⟩ = some link ∧
        link.channels = 2 ∧
        (Station.handleDatagram (Role.address .client) (Frame.data 1 .reliable [104, 105]).encode
          (pair .server)).1 = [.receive ⟨1⟩ 1 .reliable [104, 105]] := by
  have opened : (calling .server).Opened 2 (Role.address .client) :=
    ⟨Role.process .server, "127.0.0.1", 9000, 4, ⟨rfl, rfl⟩, rfl⟩
  have asking : (calling .client).Asking 3 0 (Role.address .server) :=
    ⟨Role.process .client, "127.0.0.1", 9000, _, ⟨rfl, rfl⟩, rfl, rfl, rfl⟩
  have begun : Run Role.address calling (fun _ => []) calling := .start
  have hand {told : Role → List RawEvent} {pair : Pair} (run : Run Role.address calling told pair)
      (role : Role) (frame : Frame) (sent : frame.encode ∈
        (pair role.other).process.network.lettersTo (Role.address role)) :=
    run.arrived role sent
  have asked := hand begun .server (.connect 3) ?_
  have granted := hand (asked.poll .server 0) .client (.accept 2) ?_
  have said : (TransportCall.send ⟨1⟩ 1 [104, 105] .reliable).Plain := trivial
  have met {told : Role → List RawEvent} {pair : Pair} (run : Run Role.address calling told pair)
      (told_once : connects (told .client) = 1)
      (linked : ((pair .server).endpoint.host.bind (·.link? ⟨1⟩)).map
        (fun link => (link.address, link.state)) = some (Role.address .client, .connected))
      (sent : (Frame.data 1 .reliable [104, 105]).encode ∈
        (pair .client).process.network.lettersTo (Role.address .server)) :
      ∃ told pair host link, Run Role.address calling told pair ∧ connects (told .client) = 1 ∧
        (pair .server).endpoint.host = some host ∧ host.link? ⟨1⟩ = some link ∧
        link.channels = 2 ∧
        (Station.handleDatagram (Role.address .client) (Frame.data 1 .reliable [104, 105]).encode
          (pair .server)).1 = [.receive ⟨1⟩ 1 .reliable [104, 105]] := by
    obtain ⟨link, found, seen⟩ := Option.map_eq_some_iff.mp linked
    obtain ⟨host, hosting, linked⟩ := Option.bind_eq_some_iff.mp found
    obtain ⟨there, connected⟩ := Prod.mk.inj seen
    obtain ⟨server, -, -, settled⟩ :=
      channels_of_run (by decide) (by decide) opened asking run
    obtain ⟨-, data⟩ := settled .server host ⟨1⟩ link hosting linked there connected
    exact ⟨told, pair, host, link, run, told_once, hosting, linked,
      (server host ⟨1⟩ link hosting linked there).2, data _ sent 1 .reliable [104, 105] rfl⟩
  refine ⟨opened, asking, met ((granted.poll .client 0).call .client said) ?_ ?_ ?_⟩
  all_goals decide +kernel

end Courier.Datagram

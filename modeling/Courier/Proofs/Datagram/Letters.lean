import Courier.Proofs.Datagram.Calm
import Courier.Proofs.Datagram.Handshake

namespace Courier.Datagram

namespace Station

def incoming (station : Station Interface) (address : SocketAddress) : List Frame :=
  station.process.network.inbox.filterMap (frameOf? address)

theorem incoming_arrive (station : Station Interface) (address : SocketAddress) (item : Receipt) :
    (station.arrive item).incoming address =
      station.incoming address ++ (frameOf? address item).toList := by
  change (station.process.network.inbox ++ [item]).filterMap (frameOf? address) = _
  rw [List.filterMap_append, List.filterMap_cons]
  cases frameOf? address item <;> rfl

/-- The letters are the frames that were written, one by one. -/
theorem getElem?_decoded {letters : List Bytes}
    (readable : ∀ letter ∈ letters, ∃ frame : Frame, frame.encode = letter ∧ frame.Short)
    {count : Nat} {bytes : Bytes} (found : letters[count]? = some bytes) :
    ∃ frame : Frame, (letters.filterMap Frame.decode?)[count]? = some frame ∧
      frame.encode = bytes ∧ frame.Short := by
  induction letters generalizing count with
  | nil => cases found
  | cons letter rest ih =>
      obtain ⟨frame, rfl, short⟩ := readable letter List.mem_cons_self
      rw [List.filterMap_cons_some (Frame.decode?_encode frame)]
      cases count with
      | zero =>
          cases found
          exact ⟨frame, rfl, rfl, short⟩
      | succ count =>
          exact ih (fun letter mem => readable letter (List.mem_cons_of_mem _ mem)) found

theorem getElem?_wrote {station : Station Interface} (legible : station.process.network.Legible)
    {address : SocketAddress} {count : Nat} {bytes : Bytes}
    (sent : (station.process.network.lettersTo address)[count]? = some bytes) :
    ∃ frame : Frame, (station.wrote address)[count]? = some frame ∧ frame.encode = bytes ∧
      frame.Short := by
  refine getElem?_decoded (fun letter mem => ?_) sent
  obtain ⟨item, kept, rfl⟩ := List.mem_map.mp mem
  exact legible item (List.mem_filter.mp kept).1

end Station

/-- What has been written stays, and more is written after it. Only who dials asks for a link. -/
def Dealings.Follows (before after : Dealings) : Prop :=
  ∃ more, after.wrote = before.wrote ++ more ∧ ∀ requested, .connect requested ∉ more

namespace Dealings.Follows

variable {before middle after : Dealings} {role : Role} {limit : UInt8} {address : SocketAddress}
  {events : List RawEvent}

theorem same (same : after.wrote = before.wrote) : Follows before after :=
  ⟨[], by rw [same, List.append_nil], fun _ => List.not_mem_nil⟩

theorem trans (first : Follows before middle) (second : Follows middle after) :
    Follows before after := by
  obtain ⟨more, wrote, quiet⟩ := first
  obtain ⟨later, wrote', quiet'⟩ := second
  refine ⟨more ++ later, by rw [wrote', wrote, List.append_assoc], fun requested mem => ?_⟩
  rcases List.mem_append.mp mem with early | late
  · exact quiet requested early
  · exact quiet' requested late

theorem acted (acted : Acted before after) : Follows before after := by
  cases acted with
  | kept => exact .same rfl
  | said => exact ⟨_, rfl, by simp⟩
  | left => exact .same rfl
  | parted => exact ⟨_, rfl, by simp⟩

theorem acts (acts : Relation.ReflTransGen Acted before after) : Follows before after := by
  induction acts with
  | refl => exact .same rfl
  | tail _ last ih => exact ih.trans (.acted last)

theorem heard {frame : Frame} (heard : Heard role limit address frame before events after) :
    Follows before after := by
  cases heard with
  | admitted => exact ⟨_, rfl, by simp⟩
  | refused => exact ⟨_, rfl, by simp⟩
  | again => exact ⟨_, rfl, by simp⟩
  | _ => exact .same rfl

theorem hears {frames : List Frame} (hears : Hears role limit address frames before events after) :
    Follows before after := by
  induction hears with
  | done => exact .same rfl
  | heard first rest ih => exact (heard first).trans ih
  | elsewhere others quiet rest ih => exact ih

end Dealings.Follows

namespace Station

variable {role : Role} {limit : UInt8} {address : SocketAddress} {start station : Station Interface}

/-- A station that attends an address since a certain moment. -/
structure Since (role : Role) (limit : UInt8) (address : SocketAddress)
    (start station : Station Interface) : Prop where
  steady : station.Steady role limit address
  follows : (start.dealings address).Follows (station.dealings address)

theorem Steady.since (steady : station.Steady role limit address) :
    Since role limit address station station :=
  ⟨steady, .same rfl⟩

theorem since_run (call : TransportCall) (usual : call.Usual) :
    Preserves (Since role limit address start)
      (call.run : EStateM TransportError (Station Interface) call.Answer) := by
  intro station since
  refine ⟨steady_run call usual since.steady, since.follows.trans ?_⟩
  have attending := since.steady.attending
  rcases usual with plain | ⟨timeout, rfl⟩
  · exact .acts (attending.plain plain).2.2
  · obtain ⟨-, taken, -, hears⟩ := attending.taken timeout
    change Dealings.Follows _ ((station.meet (.call (.poll timeout))).dealings address)
    rw [meet_poll]
    exact .hears hears

theorem Calm.shift (calm : station.Calm) (names : String → Option SocketAddress)
    (binding : SocketAddress → Except String SocketAddress) (handles : Nat) :
    (station.shift names binding [] handles).Calm :=
  ⟨rfl, calm.arrived⟩

theorem Steady.arrive (steady : station.Steady role limit address) (source : SocketAddress)
    (bytes : Bytes) : (station.arrive (.datagram source bytes)).Steady role limit address :=
  ⟨steady.attending.setNetwork rfl, steady.calm.arrive source bytes⟩

theorem Steady.shift (steady : station.Steady role limit address)
    (names : String → Option SocketAddress)
    (binding : SocketAddress → Except String SocketAddress) (handles : Nat) :
    (station.shift names binding [] handles).Steady role limit address :=
  ⟨steady.attending.shift names binding [] handles, steady.calm.shift names binding handles⟩

theorem opened_of_createServer {process : Process Interface}
    (unacquainted : Unacquainted address process) (calm : process.network.Calm) {name : String}
    {port : UInt16} {maxPeers : Nat} {opened : Station Interface}
    (created : createServer name port limit maxPeers ({ process } : Station Interface).start =
      .ok () opened) :
    opened.Steady .server limit address ∧ opened.incoming address = [] ∧
      opened.dealings address = {} := by
  obtain ⟨attending, dealings, same⟩ := unacquainted.opened created
  refine ⟨⟨attending, ?_⟩, ?_, dealings⟩
  · rwa [Calm, same]
  · rw [incoming, same]
    exact unacquainted.unheard fun _ mem => mem

/-- A client that dials has asked for its link, and waits. -/
theorem asked_of_connect {process : Process Interface} (unacquainted : Unacquainted address process)
    (calm : process.network.Calm) {name : String} {port : UInt16}
    (named : process.network.names s!"{name}:{port}" = some address) {requested : UInt8}
    {made dialled : Station Interface} {peer : PeerHandle}
    (created : createClient limit ({ process } : Station Interface).start = .ok () made)
    (connected : connect name port requested made = .ok peer dialled) :
    let channels := negotiate requested limit
    dialled.Calm ∧ dialled.incoming address = [] ∧
      dialled.dealings address =
        ⟨some (peer, { address, channels, state := .connecting }), [.connect channels]⟩ := by
  rcases unacquainted.dialled created named requested with ⟨error, failed⟩ |
    ⟨socket, asked, asking, asks, -, begun, faults, within⟩
  · rw [failed] at connected
    cases connected
  · have calm' : asking.Calm :=
      ⟨faults.trans calm.faultless, fun item mem => calm.arrived item (within item mem)⟩
    simp only [Bind.bind, EStateM.bind] at asks
    rw [sendFrame_of_calm calm'] at asks
    cases connected.symm.trans asks
    refine ⟨calm'.written _ _, unacquainted.unheard within, ?_⟩
    have blank : asking.wrote address = [] := congrArg Dealings.wrote begun
    rw [dealings_written, if_pos rfl, begun, blank]
    rfl

end Station

end Courier.Datagram

import Courier.Proofs.Chat.Chronicle
import Courier.Proofs.Chat.Speech
import Courier.Proofs.Server.Run

namespace Courier

open Datagram

/-! Where a client stands with the server, by what the server has seen of it and has written to it.
-/

/-- A client is answered before anything is sent to it. -/
def Greeted (wrote : List Frame) : Prop :=
  ∃ first rest, wrote = first :: rest ∧ ∀ channel flags data, first ≠ .data channel flags data

theorem Greeted.append {wrote : List Frame} (greeted : Greeted wrote) (more : List Frame) :
    Greeted (wrote ++ more) := by
  obtain ⟨first, rest, rfl, answer⟩ := greeted
  exact ⟨first, rest ++ more, rfl, answer⟩

/-- A link to a client that has asked for it, on which the server can send. -/
structure Linked (channel : UInt8) (seen wrote : List Frame) (link : Link) : Prop where
  heard : seen ≠ []
  greeted : Greeted wrote
  connected : link.state = .connected
  offered : channel < link.channels

theorem Linked.append {channel : UInt8} {seen wrote : List Frame} {link : Link}
    (linked : Linked channel seen wrote link) (more : List Frame) :
    Linked channel seen (wrote ++ more) link :=
  { linked with greeted := linked.greeted.append more }

/-- A client that has a link is seated, or it waits for the pending event that will seat it. All
that is relayed in the meantime is written to it once it is seated, and nothing afterwards. -/
inductive Footing (channel : UInt8) (users : UserTable) (pending : List RawEvent) :
    List Frame → Dealings → Attendance → Prop
  | unknown : Footing channel users pending [] {} .absent
  | waiting {seen wrote : List Frame} {peer : PeerHandle} {link : Link}
      (linked : Linked channel seen wrote link) (new : users.user? peer = none)
      (coming : .connect peer ∈ pending) (silent : relaysIn wrote = []) :
      Footing channel users pending seen ⟨some (peer, link), wrote⟩ .absent
  | seated {seen wrote : List Frame} {peer : PeerHandle} {link : Link}
      (linked : Linked channel seen wrote link) (held : ∃ user, users.user? peer = some user) :
      Footing channel users pending seen ⟨some (peer, link), wrote⟩
        (.present peer (relaysIn wrote))
  | parted {seen wrote : List Frame} {attendance : Attendance} (heard : seen ≠ [])
      (greeted : wrote ≠ [] → Greeted wrote) (got : relaysIn wrote <+: attendance.relays) :
      Footing channel users pending seen ⟨none, wrote⟩ attendance

/-- A packet goes out on a link that has the channel, as far as it can be sent at all. -/
theorem Datagram.Dealings.tell_of_offered {link : Link} (connected : link.state = .connected)
    {channel : UInt8} (offered : channel < link.channels) (peer : PeerHandle)
    (packet : ChatPacket) (wrote : List Frame) :
    ∃ more, (⟨some (peer, link), wrote⟩ : Dealings).tell peer channel packet =
        ⟨some (peer, link), wrote ++ more⟩ ∧ relaysIn more = packet.sendable?.toList := by
  cases written : wireForm packet with
  | error error =>
      refine ⟨[], ?_, ?_⟩
      · rw [tell_of_error written, List.append_nil]
      · rw [ChatPacket.sendable?_of_error written]
        rfl
  | ok form =>
      have short := ChatPacket.length_le_of_wireForm written
      refine ⟨[.data channel .reliable form], ?_, ?_⟩
      · rw [tell, written]
        exact say_of_facing rfl connected offered short .reliable
      · rw [relaysIn_data written, ChatPacket.sendable?_of_wireForm written]

namespace Footing

variable {channel limit : UInt8} {address : SocketAddress} {users after : UserTable}
  {pending told : List RawEvent} {seen : List Frame} {dealings : Dealings}
  {attendance : Attendance}

theorem got (footing : Footing channel users pending seen dealings attendance) :
    relaysIn dealings.wrote <+: attendance.relays := by
  cases footing with
  | unknown => exact List.prefix_refl []
  | waiting linked new coming silent =>
      rw [silent]
      exact List.nil_prefix
  | seated => exact List.prefix_refl _
  | parted heard greeted got => exact got

theorem all (footing : Footing channel users pending seen dealings attendance)
    (linked : dealings.facing ≠ none) : relaysIn dealings.wrote = attendance.relays := by
  cases footing with
  | unknown => rfl
  | waiting _ _ _ silent => exact silent
  | seated => rfl
  | parted => exact absurd rfl linked

theorem greeted (footing : Footing channel users pending seen dealings attendance)
    (wrote : dealings.wrote ≠ []) : Greeted dealings.wrote := by
  cases footing with
  | unknown => exact absurd rfl wrote
  | waiting linked => exact linked.greeted
  | seated linked => exact linked.greeted
  | parted heard greeted => exact greeted wrote

theorem eq_of_unseen (footing : Footing channel users pending [] dealings attendance) :
    dealings = {} ∧ attendance = .absent := by
  cases footing with
  | unknown => exact ⟨rfl, rfl⟩
  | waiting linked => exact absurd rfl linked.heard
  | seated linked => exact absurd rfl linked.heard
  | parted heard => exact absurd rfl heard

theorem later (footing : Footing channel users pending seen dealings attendance)
    (events : List RawEvent) :
    Footing channel users (pending ++ events) seen dealings attendance := by
  cases footing with
  | unknown => exact .unknown
  | waiting linked new coming silent =>
      exact .waiting linked new (List.mem_append_left _ coming) silent
  | seated linked held => exact .seated linked held
  | parted heard greeted got => exact .parted heard greeted got

theorem heard {frame : Frame} {events : List RawEvent} {after : Dealings}
    (footing : Footing channel users pending seen dealings attendance)
    (heard : Heard .server limit address frame dealings events after)
    (once : seen ≠ [] → ∀ requested, frame ≠ .connect requested)
    (offered : ∀ requested, frame = .connect requested → channel < negotiate requested limit)
    (new : ∀ peer, .connect peer ∈ events → users.user? peer = none) :
    Footing channel users (pending ++ events) (seen ++ [frame]) after attendance := by
  have more : seen ++ [frame] ≠ [] := by simp
  cases footing with
  | unknown =>
      cases heard with
      | admitted peer requested =>
          have greeted : Greeted [.accept (negotiate requested limit)] := ⟨_, _, rfl, nofun⟩
          refine .waiting ⟨more, greeted, rfl, offered requested rfl⟩ (new peer ?_) ?_ rfl
          · exact List.mem_singleton_self _
          · exact List.mem_append_right _ (List.mem_singleton_self _)
      | refused requested => exact .parted more (fun _ => ⟨_, _, rfl, nofun⟩) (List.prefix_refl [])
      | unanswered => exact .parted more nofun (List.prefix_refl [])
      | stray => exact .parted more nofun (List.prefix_refl [])
  | @waiting _ wrote peer link linked unseated coming silent =>
      have still : Linked channel (seen ++ [frame]) wrote link := { linked with heard := more }
      have waits := later (.waiting still unseated coming silent)
      cases heard with
      | unanswered requested => exact absurd rfl (once linked.heard requested)
      | again requested => exact absurd rfl (once linked.heard requested)
      | established granted waiting =>
          rw [linked.connected] at waiting
          cases waiting
      | settled => exact waits _
      | left => exact .parted more (fun _ => linked.greeted) (silent ▸ List.nil_prefix)
      | received => exact waits _
      | dropped => exact waits _
  | @seated _ wrote peer link linked held =>
      have still : Linked channel (seen ++ [frame]) wrote link := { linked with heard := more }
      cases heard with
      | unanswered requested => exact absurd rfl (once linked.heard requested)
      | again requested => exact absurd rfl (once linked.heard requested)
      | established granted waiting =>
          rw [linked.connected] at waiting
          cases waiting
      | settled => exact .seated still held
      | left => exact .parted more (fun _ => linked.greeted) (List.prefix_refl _)
      | received => exact .seated still held
      | dropped => exact .seated still held
  | parted heardBefore greeted got =>
      cases heard with
      | admitted peer requested => exact absurd rfl (once heardBefore requested)
      | refused requested => exact absurd rfl (once heardBefore requested)
      | unanswered requested => exact absurd rfl (once heardBefore requested)
      | stray => exact .parted more greeted got

theorem hears {frames : List Frame} {events : List RawEvent} {after : Dealings}
    (footing : Footing channel users pending seen dealings attendance)
    (hears : Hears .server limit address frames dealings events after)
    (once : ∀ requested, .connect requested ∉ (seen ++ frames).tail)
    (offered : ∀ requested, .connect requested ∈ frames → channel < negotiate requested limit)
    (new : ∀ peer, .connect peer ∈ events → users.user? peer = none) :
    Footing channel users (pending ++ events) (seen ++ frames) after attendance := by
  induction hears generalizing pending seen with
  | done =>
      rw [List.append_nil, List.append_nil]
      exact footing
  | @heard frame frames _ _ _ events _ first rest ih =>
      have next := footing.heard first ?_ ?_ ?_
      · rw [List.append_cons seen, ← List.append_assoc]
        refine ih next ?_ ?_ ?_
        · rwa [List.append_cons seen] at once
        · exact fun requested mem => offered requested (List.mem_cons_of_mem _ mem)
        · exact fun peer mem => new peer (List.mem_append_right _ mem)
      · rintro seenBefore requested rfl
        rw [List.tail_append_of_ne_nil seenBefore] at once
        exact once requested (List.mem_append_right _ List.mem_cons_self)
      · rintro requested rfl
        exact offered requested List.mem_cons_self
      · exact fun peer mem => new peer (List.mem_append_left _ mem)
  | @elsewhere frames _ _ events _ others quiet rest ih =>
      rw [← List.append_assoc]
      exact ih (footing.later events) once offered
        fun peer mem => new peer (List.mem_append_right _ mem)

theorem tell (footing : Footing channel users pending seen dealings attendance)
    {peer : PeerHandle} {packet : ChatPacket}
    (early : .connect peer ∈ pending → packet.relay? = none) :
    Footing channel users pending seen (dealings.tell peer channel packet)
      (attendance.afterAll address (Entry.ofSend peer packet)) := by
  have absent : Attendance.absent.afterAll address (Entry.ofSend peer packet) = .absent := by
    refine Attendance.afterAll_absent fun other mem => ?_
    obtain ⟨relay, told⟩ := Entry.told_of_mem_ofSend mem
    cases told
  cases footing with
  | unknown =>
      rw [Dealings.tell_of_stranger rfl, absent]
      exact .unknown
  | @waiting _ wrote known link linked new coming silent =>
      rw [absent]
      by_cases same : peer = known
      · subst same
        obtain ⟨more, told, relays⟩ := Dealings.tell_of_offered linked.connected linked.offered
          peer packet wrote
        rw [ChatPacket.sendable?_of_relay?_eq_none (early coming)] at relays
        rw [told]
        refine .waiting (linked.append more) new coming ?_
        rw [relaysIn_append, silent, relays]
        rfl
      · rw [Dealings.tell_eq_self]
        · exact .waiting linked new coming silent
        · rintro other ⟨⟩
          exact same rfl
  | @seated _ wrote known link linked held =>
      have still : .released known ∉ Entry.ofSend peer packet := fun mem => by
        obtain ⟨relay, told⟩ := Entry.told_of_mem_ofSend mem
        cases told
      rw [Attendance.afterAll_present still]
      by_cases same : peer = known
      · subst same
        obtain ⟨more, told, relays⟩ := Dealings.tell_of_offered linked.connected linked.offered
          peer packet wrote
        rw [told, Entry.relaysTo_ofSend, ← relays, ← relaysIn_append]
        exact .seated (linked.append more) held
      · rw [Dealings.tell_eq_self, Entry.relaysTo_ofSend_of_ne same, List.append_nil]
        · exact .seated linked held
        · rintro other ⟨⟩
          exact same rfl
  | parted heard greeted got =>
      rw [Dealings.tell_of_stranger rfl]
      exact .parted heard greeted (got.trans (Attendance.relays_afterAll _ _))

theorem tellAll (footing : Footing channel users pending seen dealings attendance)
    {peers : List PeerHandle} (distinct : peers.Nodup)
    (members : ∀ peer, peer ∈ peers ↔ ∃ user, users.user? peer = some user)
    (packet : ChatPacket) :
    Footing channel users pending seen (dealings.tellAll peers channel packet)
      (attendance.afterAll address (Entry.ofBroadcast packet)) := by
  have absent : Attendance.absent.afterAll address (Entry.ofBroadcast packet) = .absent := by
    refine Attendance.afterAll_absent fun other mem => ?_
    obtain ⟨relay, told⟩ := Entry.relayed_of_mem_ofBroadcast mem
    cases told
  cases footing with
  | unknown =>
      rw [Dealings.tellAll_of_stranger rfl, absent]
      exact .unknown
  | @waiting _ wrote known link linked new coming silent =>
      rw [absent, Dealings.tellAll_eq_self]
      · exact .waiting linked new coming silent
      · rintro peer mem other ⟨⟩
        obtain ⟨user, held⟩ := (members known).mp mem
        rw [new] at held
        cases held
  | @seated _ wrote known link linked held =>
      have still : .released known ∉ Entry.ofBroadcast packet := fun mem => by
        obtain ⟨relay, told⟩ := Entry.relayed_of_mem_ofBroadcast mem
        cases told
      obtain ⟨more, told, relays⟩ := Dealings.tell_of_offered linked.connected linked.offered
        known packet wrote
      rw [Attendance.afterAll_present still,
        Dealings.tellAll_of_mem rfl distinct ((members known).mpr held), told,
        Entry.relaysTo_ofBroadcast, ← relays, ← relaysIn_append]
      exact .seated (linked.append more) held
  | parted heard greeted got =>
      rw [Dealings.tellAll_of_stranger rfl]
      exact .parted heard greeted (got.trans (Attendance.relays_afterAll _ _))

/-- What concerns other peers. -/
theorem others (footing : Footing channel users pending seen dealings attendance)
    {entries : List Entry}
    (apart : ∀ {peer link}, dealings.facing = some (peer, link) →
      (users.user? peer = none → .connect peer ∈ pending → .connect peer ∈ told) ∧
        after.user? peer = users.user? peer ∧ .released peer ∉ entries ∧
        entries.filterMap (Entry.relayTo? peer) = [])
    (elsewhere : ∀ peer, .admitted peer (some address) ∉ entries) :
    Footing channel after told seen dealings (attendance.afterAll address entries) := by
  cases footing with
  | unknown =>
      rw [Attendance.afterAll_absent elsewhere]
      exact .unknown
  | waiting linked new coming silent =>
      obtain ⟨still, same, -⟩ := apart rfl
      rw [Attendance.afterAll_absent elsewhere]
      exact .waiting linked (same.trans new) (still new coming) silent
  | seated linked held =>
      obtain ⟨-, same, still, nothing⟩ := apart rfl
      rw [Attendance.afterAll_present still, nothing, List.append_nil]
      exact .seated linked (same.symm ▸ held)
  | parted heard greeted got =>
      exact .parted heard greeted (got.trans (Attendance.relays_afterAll _ _))

/-- A client that is sent away is told nothing more. -/
theorem sendAway (footing : Footing channel users pending seen dealings attendance)
    (peer : PeerHandle) {entries : List Entry}
    (apart : ∀ {known link}, dealings.facing = some (known, link) → known ≠ peer →
      (users.user? known = none → .connect known ∈ pending → .connect known ∈ told) ∧
        after.user? known = users.user? known ∧ .released known ∉ entries ∧
        entries.filterMap (Entry.relayTo? known) = [])
    (elsewhere : ∀ known, .admitted known (some address) ∉ entries) :
    Footing channel after told seen (dealings.part peer) (attendance.afterAll address entries) := by
  by_cases faced : ∃ link, dealings.facing = some (peer, link)
  · obtain ⟨link, facing⟩ := faced
    have got : relaysIn (dealings.wrote ++ [.disconnect]) <+:
        (attendance.afterAll address entries).relays := by
      rw [relaysIn_append]
      exact (List.append_nil _).symm ▸ footing.got.trans (Attendance.relays_afterAll _ _)
    rw [Dealings.part_of_facing facing]
    cases footing with
    | unknown => cases facing
    | waiting linked => exact .parted linked.heard (fun _ => linked.greeted.append _) got
    | seated linked => exact .parted linked.heard (fun _ => linked.greeted.append _) got
    | parted => cases facing
  · rw [Dealings.part_eq_self fun link facing => faced ⟨link, facing⟩]
    refine footing.others (fun {known link} facing => apart facing ?_) elsewhere
    rintro rfl
    exact faced ⟨link, facing⟩

/-- A client that has waited is admitted under the address at which it is. -/
theorem seat {peer : PeerHandle} {user : UserId} {place : Option SocketAddress}
    (footing : Footing channel users (.connect peer :: pending) seen dealings attendance)
    (new : users.user? peer = none)
    (placed : place = some address ↔ ∃ link, dealings.facing = some (peer, link)) :
    Footing channel (users.seat user peer) pending seen dealings
      (attendance.afterAll address [.admitted peer place]) := by
  have elsewhere (absent : ∀ link, dealings.facing ≠ some (peer, link)) (other : PeerHandle) :
      .admitted other (some address) ∉ [Entry.admitted peer place] := by
    intro mem
    cases List.mem_singleton.mp mem
    obtain ⟨link, facing⟩ := placed.mp rfl
    exact absent link facing
  cases footing with
  | unknown =>
      rw [Attendance.afterAll_absent (elsewhere nofun)]
      exact .unknown
  | @waiting _ wrote known link linked unseated coming silent =>
      by_cases same : known = peer
      · subst same
        rw [placed.mpr ⟨link, rfl⟩, Attendance.afterAll_singleton, Attendance.after, if_pos rfl,
          ← silent]
        exact .seated linked ⟨user, by rw [UserTable.user?_seat, if_pos rfl]⟩
      · rw [Attendance.afterAll_absent (elsewhere ?_)]
        · refine .waiting linked ?_ ((List.mem_cons.mp coming).resolve_left ?_) silent
          · rw [UserTable.user?_seat, if_neg (Ne.symm same), unseated]
          · rintro ⟨⟩
            exact same rfl
        · rintro other ⟨⟩
          exact same rfl
  | @seated _ wrote known link linked held =>
      have different : peer ≠ known := by
        rintro rfl
        obtain ⟨user, held⟩ := held
        rw [new] at held
        cases held
      have nothing : [Entry.admitted peer place].filterMap (Entry.relayTo? known) = [] := rfl
      rw [Attendance.afterAll_present (by simp), nothing, List.append_nil]
      refine .seated linked ?_
      rwa [UserTable.user?_seat, if_neg different]
  | parted heard greeted got =>
      exact .parted heard greeted (got.trans (Attendance.relays_afterAll _ _))

end Footing

end Courier

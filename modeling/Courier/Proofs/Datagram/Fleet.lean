import Courier.Loopback
import Courier.Proofs.Datagram.Channels
import Courier.Proofs.Datagram.Course
import Courier.Proofs.Datagram.Reports
import Mathlib.Logic.Function.Basic

namespace Courier

/-- The call takes the link of the peer away. -/
def TransportCall.Leaves (peer : PeerHandle) : TransportCall → Prop
  | .disconnectPeer other => other = peer
  | .disconnect | .stop => True
  | _ => False

namespace Datagram

namespace Roster

variable {before after : Roster} {peer : PeerHandle} {events : List RawEvent}

theorem Gone.unnamed_of_applied {source : SocketAddress} (gone : before.Gone peer)
    (sound : before.Sound) (applied : Applied source before events after) :
    ∀ event ∈ events, event.peer ≠ peer := by
  rintro event mem rfl
  cases applied with
  | ignored => cases mem
  | turnedAway => cases mem
  | @admitted host next requested =>
      cases List.mem_singleton.mp mem
      exact Nat.lt_irrefl next gone.taken
  | established granted known linked waiting =>
      cases List.mem_singleton.mp mem
      exact absurd (gone.unlinked.symm.trans linked) (by simp)
  | departed known =>
      cases List.mem_singleton.mp mem
      obtain ⟨link, linked, -⟩ := ((sound_some _ _).mp sound).linked known
      exact absurd (gone.unlinked.symm.trans linked) (by simp)
  | received flags payload known linked =>
      cases List.mem_singleton.mp mem
      have found := (Host.of_connectedLink?_eq_some linked).1
      exact absurd (gone.unlinked.symm.trans found) (by simp)

theorem Gone.unnamed_of_drained (gone : before.Gone peer) (sound : before.Sound)
    (drained : Drained before events after) : ∀ event ∈ events, event.peer ≠ peer := by
  induction drained with
  | done => simp
  | more applied rest ih =>
      intro event mem
      rcases List.mem_append.mp mem with now | later
      · exact gone.unnamed_of_applied sound applied event now
      · have fades := gone.settled.applied sound applied
        exact ih (fades.gone gone) (sound.applied applied) event later

/-- A link is made under a new handle, or it is the one that was there. -/
def Follows (before after : Roster) (peer : PeerHandle) : Prop :=
  ∀ ⦃link⦄, after.link? peer = some link → before.nextPeer ≤ peer.number ∨
    ∃ old, before.link? peer = some old ∧ old.address = link.address

end Roster

theorem Applied.taken_of_mem {source : SocketAddress} {before after : Roster}
    {events : List RawEvent} (sound : before.Sound)
    (applied : Applied source before events after) {event : RawEvent} (mem : event ∈ events) :
    event.peer.number < after.nextPeer := by
  cases applied with
  | ignored => cases mem
  | turnedAway => cases mem
  | @admitted host next requested =>
      cases List.mem_singleton.mp mem
      exact Nat.lt_succ_self next
  | established granted known linked waiting =>
      cases List.mem_singleton.mp mem
      exact sound.taken linked
  | departed known =>
      cases List.mem_singleton.mp mem
      obtain ⟨link, linked, -⟩ := ((Roster.sound_some _ _).mp sound).linked known
      exact sound.taken linked
  | received flags payload known linked =>
      cases List.mem_singleton.mp mem
      exact sound.taken (Host.of_connectedLink?_eq_some linked).1

theorem Drained.nextPeer_le {before after : Roster} {events : List RawEvent}
    (drained : Drained before events after) : before.nextPeer ≤ after.nextPeer := by
  induction drained with
  | done => exact Nat.le_refl _
  | more applied rest ih => exact Nat.le_trans applied.nextPeer_le ih

theorem Drained.taken_of_mem {before after : Roster} {events : List RawEvent}
    (sound : before.Sound) (drained : Drained before events after) {event : RawEvent}
    (mem : event ∈ events) : event.peer.number < after.nextPeer := by
  induction drained with
  | done => cases mem
  | more applied rest ih =>
      rcases List.mem_append.mp mem with now | later
      · exact Nat.lt_of_lt_of_le (applied.taken_of_mem sound now) rest.nextPeer_le
      · exact ih (sound.applied applied) later

theorem Moves.nextPeer_le {before after : Roster} (moves : Moves before after) :
    before.nextPeer ≤ after.nextPeer := by
  induction moves with
  | refl => exact Nat.le_refl _
  | tail _ moved ih =>
      apply Nat.le_trans ih
      cases moved with
      | drained drained => exact drained.nextPeer_le
      | elsewhere handles => exact Nat.le_add_right _ handles
      | _ => exact Nat.le_refl _

theorem Dialled.nextPeer_le {before after : Roster} (dialled : Dialled before after) :
    before.nextPeer ≤ after.nextPeer := by
  cases dialled
  exact Nat.le_succ _

namespace Roster.Follows

variable {before middle after : Roster} {peer : PeerHandle} {events : List RawEvent}

theorem of_kept_or_gone
    (same : after.link? peer = before.link? peer ∨ after.link? peer = none) :
    Follows before after peer := by
  intro link linked
  rcases same with kept | gone
  · exact .inr ⟨link, kept ▸ linked, rfl⟩
  · rw [gone] at linked
    cases linked

theorem trans (first : Follows before middle peer) (later : before.nextPeer ≤ middle.nextPeer)
    (second : Follows middle after peer) : Follows before after peer := by
  intro link linked
  rcases second linked with fresh | ⟨between, found, same⟩
  · exact .inl (Nat.le_trans later fresh)
  · rcases first found with fresh | ⟨old, linked, before⟩
    · exact .inl fresh
    · exact .inr ⟨old, linked, before.trans same⟩

theorem inserted {known : Host} {next : Nat} (link : Link) (peer : PeerHandle) :
    Follows ⟨some known, next⟩ ⟨some (known.insert ⟨next⟩ link), next + 1⟩ peer := by
  intro found linked
  rw [link?_some, Host.link?_insert] at linked
  split at linked
  · next new => exact .inl (Nat.le_of_eq (congrArg PeerHandle.number new))
  · exact .inr ⟨found, linked, rfl⟩

theorem removed (roster : Roster) (other peer : PeerHandle) :
    Follows roster (roster.remove other) peer := by
  apply of_kept_or_gone
  rw [link?_removed]
  split
  · exact .inr rfl
  · exact .inl rfl

theorem applied {source : SocketAddress} (applied : Applied source before events after)
    (peer : PeerHandle) : Follows before after peer := by
  cases applied with
  | ignored => exact of_kept_or_gone (.inl rfl)
  | admitted => exact inserted _ peer
  | @turnedAway host next =>
      exact (inserted _ peer).trans (Nat.le_succ next) (removed ⟨some _, next + 1⟩ ⟨next⟩ peer)
  | @established host next other old granted known linked waiting =>
      intro link found
      rw [link?_some, Host.link?_establish] at found
      split at found
      · next same =>
        cases found
        exact .inr ⟨old, same ▸ linked, rfl⟩
      · exact .inr ⟨link, found, rfl⟩
  | @departed host next other => exact removed ⟨some host, next⟩ other peer
  | received => exact of_kept_or_gone (.inl rfl)

theorem drained (drained : Drained before events after) (peer : PeerHandle) :
    Follows before after peer := by
  induction drained with
  | done => exact of_kept_or_gone (.inl rfl)
  | more applied rest ih => exact (Follows.applied applied peer).trans applied.nextPeer_le ih

theorem moved (moved : Moved before after) (peer : PeerHandle) : Follows before after peer := by
  cases moved with
  | closed => exact of_kept_or_gone (.inr rfl)
  | opened role socket channels maxPeers => exact of_kept_or_gone (.inr (by simp [Host.link?]))
  | left other => exact removed before other peer
  | drained drained => exact Follows.drained drained peer
  | elsewhere handles => exact of_kept_or_gone (.inl rfl)

theorem moves (moves : Moves before after) (peer : PeerHandle) : Follows before after peer := by
  induction moves with
  | refl => exact of_kept_or_gone (.inl rfl)
  | tail earlier moved ih => exact ih.trans (Moves.nextPeer_le earlier) (.moved moved peer)

theorem dialled (dialled : Dialled before after) (peer : PeerHandle) :
    Follows before after peer := by
  cases dialled with
  | @made known next socket link => exact inserted link peer

end Roster.Follows

namespace Station

variable {ν : Type} [Network ν]

theorem follows_meet (station : Station ν) (occurrence : Occurrence ν) (peer : PeerHandle) :
    Roster.Follows station.roster (station.meet occurrence).roster peer := by
  rcases station.meet_cases occurrence with moves | dialled
  · exact .moves moves peer
  · exact .dialled dialled peer

theorem nextPeer_le_meet (station : Station ν) (occurrence : Occurrence ν) :
    station.process.nextPeer ≤ (station.meet occurrence).process.nextPeer := by
  rcases station.meet_cases occurrence with moves | dialled
  · exact moves.nextPeer_le
  · exact dialled.nextPeer_le

theorem gone_meet {station : Station ν} (sound : station.roster.Sound) {peer : PeerHandle}
    (gone : station.roster.Gone peer) (occurrence : Occurrence ν) :
    (station.meet occurrence).roster.Gone peer :=
  (fades_meet sound gone.settled occurrence).gone gone

theorem unnamed_of_gone {station : Station ν} (sound : station.roster.Sound) {peer : PeerHandle}
    (gone : station.roster.Gone peer) (occurrence : Occurrence ν) :
    ∀ event ∈ station.reports occurrence, event.peer ≠ peer := by
  intro event told
  obtain ⟨events, mem, drained⟩ := drained_of_mem_reports told
  exact gone.unnamed_of_drained sound drained event mem

theorem fades_meet_of_quiet (station : Station ν) {occurrence : Occurrence ν}
    (silent : ∀ timeout, occurrence ≠ .call (.poll timeout))
    (others : ∀ name port channels, occurrence ≠ .call (.connect name port channels))
    (peer : PeerHandle) : station.roster.Fades (station.meet occurrence).roster peer := by
  refine ⟨station.nextPeer_le_meet occurrence, ?_⟩
  cases occurrence with
  | elsewhere network handles => exact .inl rfl
  | call call =>
      cases call with
      | poll timeout => exact absurd rfl (silent timeout)
      | connect name port channels => exact absurd rfl (others name port channels)
      | start =>
          change station.start.roster.link? peer = _ ∨ _
          rw [roster_start]
          exact .inl rfl
      | stop =>
          change _ ∨ station.stop.roster.link? peer = none
          rw [roster_stop]
          exact .inr rfl
      | createServer name port channels maxPeers =>
          change (attempt (createServer name port channels maxPeers) station).roster.link? peer = _
            ∨ _
          rcases createServer_cases name port channels maxPeers station with
            ⟨error, network, failed⟩ | ⟨vacant, socket, network, made⟩
          · rw [attempt, failed]
            exact .inl rfl
          · rw [attempt, made, roster_of_host vacant]
            exact .inl (by simp [Roster.link?, roster, setHost, Host.link?])
      | createClient channels =>
          change (attempt (createClient channels) station).roster.link? peer = _ ∨ _
          rcases createClient_cases channels station with
            ⟨error, network, failed⟩ | ⟨vacant, socket, network, made⟩
          · rw [attempt, failed]
            exact .inl rfl
          · rw [attempt, made, roster_of_host vacant]
            exact .inl (by simp [Roster.link?, roster, setHost, Host.link?])
      | disconnect => exact .inr (link?_disconnect station peer)
      | disconnectPeer other =>
          change (attempt (disconnectPeer other) station).roster.link? peer = _ ∨
            (attempt (disconnectPeer other) station).roster.link? peer = _
          rw [roster_disconnectPeer, Roster.link?_removed]
          split
          · exact .inr rfl
          · exact .inl rfl
      | send other channel data flags =>
          change (attempt (send other channel data flags) station).roster.link? peer = _ ∨ _
          rw [roster_send]
          exact .inl rfl

theorem reached_meet {station : Station ν} (sound : station.roster.Sound) {peer : PeerHandle}
    {told : List RawEvent} (reached : station.roster.Reached peer told)
    {occurrence : Occurrence ν}
    (polled : ∀ timeout, occurrence = .call (.poll timeout) →
      ∃ events after, poll timeout station = .ok events after) :
    (station.meet occurrence).roster.Reached peer
      (told ++ about peer (station.reports occurrence)) := by
  by_cases polling : ∃ timeout, occurrence = .call (.poll timeout)
  · obtain ⟨timeout, rfl⟩ := polling
    obtain ⟨events, after, answered⟩ := polled timeout rfl
    have moved : station.meet (.call (.poll timeout)) = after := by
      change attempt (poll timeout) station = after
      rw [attempt, answered]
    have told : station.reports (.call (.poll timeout)) = events := by
      rw [reports, answered]
    rw [moved, told]
    exact reached.drained sound (drained_of_poll answered)
  · have silent (timeout : Nat) : occurrence ≠ .call (.poll timeout) :=
      fun same => polling ⟨timeout, same⟩
    have nothing : station.reports occurrence = [] := by
      unfold reports
      split
      · exact absurd rfl (silent _)
      · rfl
    rw [nothing, about, List.filter_nil, List.append_nil]
    by_cases request : ∃ name port channels, occurrence = .call (.connect name port channels)
    · obtain ⟨name, port, channels, rfl⟩ := request
      change (attempt (connect name port channels) station).roster.Reached peer told
      rcases roster_connect_cases name port channels station with same |
        ⟨known, address, socket, link, hosting, -, room, sender, -, -, waiting, made⟩
      · rwa [same]
      · rw [roster_of_host hosting] at reached sound
        rw [made]
        exact reached.dialled sound (.made room (sender.imp_left And.right) waiting)
    · exact reached.fades sound (station.fades_meet_of_quiet silent
        (fun name port channels same => request ⟨name, port, channels, same⟩) peer)

theorem gone_of_leaves {station : Station ν} {call : TransportCall} {peer : PeerHandle}
    (leaves : call.Leaves peer) (taken : peer.number < station.process.nextPeer) :
    (station.meet (.call call)).roster.Gone peer := by
  refine ⟨Nat.lt_of_lt_of_le taken (station.nextPeer_le_meet _), ?_⟩
  cases call with
  | stop =>
      change station.stop.roster.link? peer = none
      rw [roster_stop, Roster.link?_none]
  | disconnect => exact link?_disconnect station peer
  | disconnectPeer other =>
      change (attempt (disconnectPeer other) station).roster.link? peer = none
      rw [roster_disconnectPeer, Roster.link?_removed]
      exact if_pos leaves
  | _ => exact leaves.elim

theorem heard_of_poll {station after : Station ν} (limited : station.roster.Limited)
    {timeout : Nat} {earlier later : List RawEvent} {peer : PeerHandle} {channel : UInt8}
    {flags : SendFlags} {data : Bytes}
    (polled : poll timeout station =
      .ok (earlier ++ .receive peer channel flags data :: later) after) :
    ∃ socket taken moment host link, drain socket taken timeout station = .ok earlier moment ∧
      moment.endpoint.host = some host ∧ host.connectedLink? peer = some link ∧
      channel < link.channels ∧ link.channels ≤ host.channels := by
  obtain ⟨socket, limit, drains⟩ := drain_of_poll polled
  obtain ⟨taken, moment, host, link, -, stopped, hosted, linked, offered⟩ := heard_of_drain drains
  have kept := limited.drained (drained_of_drain stopped)
  rw [roster_of_host hosted, Roster.limited_some] at kept
  exact ⟨socket, taken, moment, host, link, stopped, hosted, linked, offered,
    kept (Host.of_connectedLink?_eq_some linked).1⟩

/-- What names a handle has a link under it, or gives it out. -/
theorem linked_of_named {station : Station ν} (sound : station.roster.Sound)
    {occurrence : Occurrence ν} {event : RawEvent} (told : event ∈ station.reports occurrence)
    (taken : event.peer.number < station.process.nextPeer) :
    ∃ link, station.roster.link? event.peer = some link := by
  cases unlinked : station.roster.link? event.peer with
  | some link => exact ⟨link, rfl⟩
  | none => exact absurd rfl (unnamed_of_gone sound ⟨taken, unlinked⟩ occurrence event told)

theorem taken_of_named {station : Station ν} (sound : station.roster.Sound)
    {occurrence : Occurrence ν} {event : RawEvent} (told : event ∈ station.reports occurrence) :
    event.peer.number < (station.meet occurrence).process.nextPeer := by
  obtain ⟨events, mem, drained⟩ := drained_of_mem_reports told
  exact drained.taken_of_mem sound mem

end Station

/-- All stations of a process: each has an endpoint of its own, and they share the network and the
peer handles. -/
structure Fleet (ι ν : Type) where
  endpoint : ι → Endpoint := fun _ => {}
  process : Process ν

/-- A call of one of the stations, or the network as it is from now on. -/
inductive FleetInput (ι ν : Type) where
  | call (caller : ι) (call : TransportCall)
  | network (network : ν)

namespace Fleet

variable {ι ν : Type} [DecidableEq ι] [Network ν]

def station (fleet : Fleet ι ν) (owner : ι) : Station ν :=
  { endpoint := fleet.endpoint owner, process := fleet.process }

def put (fleet : Fleet ι ν) (owner : ι) (station : Station ν) : Fleet ι ν :=
  { endpoint := Function.update fleet.endpoint owner station.endpoint
    process := station.process }

def meet (fleet : Fleet ι ν) : FleetInput ι ν → Fleet ι ν
  | .call caller call => fleet.put caller (attempt call.run (fleet.station caller))
  | .network network => { fleet with process := { fleet.process with network } }

def after (fleet : Fleet ι ν) (history : List (FleetInput ι ν)) : Fleet ι ν :=
  history.foldl meet fleet

/-- An input, as one of the stations has it. -/
def seen (fleet : Fleet ι ν) (owner : ι) : FleetInput ι ν → Occurrence ν
  | .call caller call =>
    if caller = owner then .call call
    else
      let next := (fleet.meet (.call caller call)).process
      .elsewhere next.network (next.nextPeer - fleet.process.nextPeer)
  | .network network => .elsewhere network 0

def reports (fleet : Fleet ι ν) (owner : ι) (input : FleetInput ι ν) : List RawEvent :=
  (fleet.station owner).reports (fleet.seen owner input)

def reported (fleet : Fleet ι ν) (owner : ι) : List (FleetInput ι ν) → List RawEvent
  | [] => []
  | input :: rest => fleet.reports owner input ++ (fleet.meet input).reported owner rest

/-- Some time the station has a link under the handle, or tells of it. -/
def Uses (fleet : Fleet ι ν) (owner : ι) (peer : PeerHandle) : List (FleetInput ι ν) → Prop
  | [] => ∃ link, (fleet.station owner).roster.link? peer = some link
  | input :: rest =>
    (∃ link, (fleet.station owner).roster.link? peer = some link) ∨
      (∃ event ∈ fleet.reports owner input, event.peer = peer) ∨
      (fleet.meet input).Uses owner peer rest

theorem uses_of_mem_reported {fleet : Fleet ι ν} {owner : ι} {history : List (FleetInput ι ν)}
    {event : RawEvent} (told : event ∈ fleet.reported owner history) :
    fleet.Uses owner event.peer history := by
  induction history generalizing fleet with
  | nil => cases told
  | cons input rest ih =>
      rcases List.mem_append.mp told with now | later
      · exact .inr (.inl ⟨event, now, rfl⟩)
      · exact .inr (.inr (ih later))

theorem station_meet (fleet : Fleet ι ν) (owner : ι) (input : FleetInput ι ν) :
    (fleet.meet input).station owner = (fleet.station owner).meet (fleet.seen owner input) := by
  cases input with
  | network network => rfl
  | call caller call =>
      by_cases own : caller = owner
      · subst own
        rw [seen, if_pos rfl]
        simp only [meet, put, station, Function.update_self]
        rfl
      · have later : fleet.process.nextPeer ≤
            (fleet.meet (.call caller call)).process.nextPeer :=
          (fleet.station caller).nextPeer_le_meet (.call call)
        rw [seen, if_neg own]
        simp only [Station.meet, station, Nat.add_sub_cancel' later]
        simp only [meet, put, Function.update_of_ne (Ne.symm own)]

def Sound (fleet : Fleet ι ν) : Prop :=
  ∀ owner, (fleet.station owner).roster.Sound

variable {fleet : Fleet ι ν} {owner : ι} {peer : PeerHandle}

omit [DecidableEq ι] [Network ν] in
theorem sound_start (process : Process ν) : Sound ({ process } : Fleet ι ν) :=
  fun _ => Roster.sound_none process.nextPeer

theorem Sound.meet (sound : fleet.Sound) (input : FleetInput ι ν) : (fleet.meet input).Sound := by
  intro owner
  rw [station_meet]
  exact Station.sound_meet (sound owner) _

theorem Sound.after (sound : fleet.Sound) (history : List (FleetInput ι ν)) :
    (fleet.after history).Sound := by
  induction history generalizing fleet with
  | nil => exact sound
  | cons input rest ih => exact ih (sound.meet input)

theorem limited_after (limited : (fleet.station owner).roster.Limited)
    (history : List (FleetInput ι ν)) : ((fleet.after history).station owner).roster.Limited := by
  induction history generalizing fleet with
  | nil => exact limited
  | cons input rest ih =>
      apply ih
      rw [station_meet]
      exact Station.limited_meet limited _

theorem gone_meet (sound : fleet.Sound) (gone : (fleet.station owner).roster.Gone peer)
    (input : FleetInput ι ν) : ((fleet.meet input).station owner).roster.Gone peer := by
  rw [station_meet]
  exact Station.gone_meet (sound owner) gone _

theorem gone_after (sound : fleet.Sound) (gone : (fleet.station owner).roster.Gone peer)
    (history : List (FleetInput ι ν)) :
    ((fleet.after history).station owner).roster.Gone peer := by
  induction history generalizing fleet with
  | nil => exact gone
  | cons input rest ih => exact ih (sound.meet input) (gone_meet sound gone input)

theorem unnamed_of_gone (sound : fleet.Sound) (gone : (fleet.station owner).roster.Gone peer)
    (history : List (FleetInput ι ν)) :
    ∀ event ∈ fleet.reported owner history, event.peer ≠ peer := by
  induction history generalizing fleet with
  | nil => simp [reported]
  | cons input rest ih =>
      intro event told
      rcases List.mem_append.mp told with now | later
      · exact Station.unnamed_of_gone (sound owner) gone _ event now
      · exact ih (sound.meet input) (gone_meet sound gone input) event later

theorem follows_after (fleet : Fleet ι ν) (owner : ι) (peer : PeerHandle)
    (history : List (FleetInput ι ν)) :
    Roster.Follows (fleet.station owner).roster ((fleet.after history).station owner).roster
      peer := by
  induction history generalizing fleet with
  | nil => exact .of_kept_or_gone (.inl rfl)
  | cons input rest ih =>
      have step : Roster.Follows (fleet.station owner).roster
          ((fleet.meet input).station owner).roster peer := by
        rw [station_meet]
        exact Station.follows_meet _ _ peer
      have later :
          fleet.process.nextPeer ≤ ((fleet.meet input).station owner).process.nextPeer := by
        rw [station_meet]
        exact (fleet.station owner).nextPeer_le_meet _
      exact step.trans later (ih (fleet.meet input))

/-- Every poll of the station is answered. -/
def Answered (fleet : Fleet ι ν) (owner : ι) : List (FleetInput ι ν) → Prop
  | [] => True
  | input :: rest =>
    (∀ timeout, input = .call owner (.poll timeout) →
      ∃ events after, Station.poll timeout (fleet.station owner) = .ok events after) ∧
      (fleet.meet input).Answered owner rest

theorem eq_call_of_seen {input : FleetInput ι ν} {call : TransportCall}
    (seen : fleet.seen owner input = .call call) : input = .call owner call := by
  cases input with
  | network network => cases seen
  | call caller own =>
      rw [Fleet.seen] at seen
      split at seen
      · next same =>
        cases seen
        rw [same]
      · cases seen

theorem reached_after {history : List (FleetInput ι ν)} (sound : fleet.Sound) {told : List RawEvent}
    (reached : (fleet.station owner).roster.Reached peer told)
    (answered : fleet.Answered owner history) :
    ((fleet.after history).station owner).roster.Reached peer
      (told ++ about peer (fleet.reported owner history)) := by
  induction history generalizing fleet told with
  | nil => rwa [reported, about, List.filter_nil, List.append_nil]
  | cons input rest ih =>
      have polled (timeout : Nat) (polls : fleet.seen owner input = .call (.poll timeout)) :
          ∃ events after, Station.poll timeout (fleet.station owner) = .ok events after :=
        answered.1 timeout (eq_call_of_seen polls)
      have next := Station.reached_meet (sound owner) reached polled
      rw [← station_meet] at next
      rw [reported, about_append, ← List.append_assoc]
      exact ih (sound.meet input) next answered.2

theorem not_uses_of_gone {history : List (FleetInput ι ν)} (sound : fleet.Sound)
    (gone : (fleet.station owner).roster.Gone peer) : ¬ fleet.Uses owner peer history := by
  have unlinked : ¬ ∃ link, (fleet.station owner).roster.link? peer = some link := by
    rintro ⟨link, linked⟩
    exact absurd (gone.unlinked.symm.trans linked) (by simp)
  induction history generalizing fleet with
  | nil => exact unlinked
  | cons input rest ih =>
      rintro (linked | ⟨event, told, named⟩ | later)
      · exact unlinked linked
      · exact Station.unnamed_of_gone (sound owner) gone _ event told named
      · have goes := gone_meet sound gone input
        refine ih (sound.meet input) goes ?_ later
        rintro ⟨link, linked⟩
        exact absurd (goes.unlinked.symm.trans linked) (by simp)

/-- No two stations have links under one handle. -/
def Apart (fleet : Fleet ι ν) : Prop :=
  ∀ ⦃first second peer link other⦄, (fleet.station first).roster.link? peer = some link →
    (fleet.station second).roster.link? peer = some other → first = second

/-- An input concerns the links of its caller only. -/
theorem link?_meet_of_other {input : FleetInput ι ν}
    (others : ∀ call, input ≠ .call owner call) (peer : PeerHandle) :
    ((fleet.meet input).station owner).roster.link? peer =
      (fleet.station owner).roster.link? peer := by
  rw [station_meet]
  cases input with
  | network network => rfl
  | call caller call =>
      have other : caller ≠ owner := fun same => others call (same ▸ rfl)
      rw [seen, if_neg other]
      rfl

theorem reports_of_other {input : FleetInput ι ν} (others : ∀ call, input ≠ .call owner call) :
    fleet.reports owner input = [] := by
  cases input with
  | network network => rfl
  | call caller call =>
      have other : caller ≠ owner := fun same => others call (same ▸ rfl)
      rw [reports, seen, if_neg other]
      rfl

omit [Network ν] in
/-- Of two stations one at least has nothing to do with an input. -/
theorem other_of_ne {first second : ι} (distinct : first ≠ second) (input : FleetInput ι ν) :
    (∀ call, input ≠ .call first call) ∨ ∀ call, input ≠ .call second call := by
  cases input with
  | network network => exact .inl fun call same => by cases same
  | call caller call =>
      by_cases own : caller = first
      · refine .inr fun call same => ?_
        cases same
        exact distinct own.symm
      · refine .inl fun call same => ?_
        cases same
        exact own rfl

/-- A link of one station under a handle that another had before, is no new link. -/
theorem linked_before {input : FleetInput ι ν} {link : Link}
    (linked : ((fleet.meet input).station owner).roster.link? peer = some link)
    (taken : peer.number < fleet.process.nextPeer) :
    ∃ old, (fleet.station owner).roster.link? peer = some old := by
  have follows := Station.follows_meet (fleet.station owner) (fleet.seen owner input) peer
  rw [← station_meet] at follows
  rcases follows linked with fresh | ⟨old, found, -⟩
  · exact absurd taken (Nat.not_lt.mpr fresh)
  · exact ⟨old, found⟩

theorem Apart.meet (sound : fleet.Sound) (apart : fleet.Apart) (input : FleetInput ι ν) :
    (fleet.meet input).Apart := by
  intro first second peer link other firstLinked secondLinked
  by_contra distinct
  rcases other_of_ne distinct input with others | others
  · rw [link?_meet_of_other others] at firstLinked
    obtain ⟨old, found⟩ := linked_before secondLinked ((sound first).taken firstLinked)
    exact distinct (apart firstLinked found)
  · rw [link?_meet_of_other others] at secondLinked
    obtain ⟨old, found⟩ := linked_before firstLinked ((sound second).taken secondLinked)
    exact distinct (apart found secondLinked)

omit [DecidableEq ι] [Network ν] in
/-- Of a handle that one station uses, no other has a link. -/
theorem gone_of_apart {other : ι} (sound : fleet.Sound) (apart : fleet.Apart) {link : Link}
    (linked : (fleet.station owner).roster.link? peer = some link) (distinct : owner ≠ other) :
    (fleet.station other).roster.Gone peer := by
  refine ⟨(sound owner).taken linked, ?_⟩
  cases found : (fleet.station other).roster.link? peer with
  | none => rfl
  | some second => exact absurd (apart linked found) distinct

theorem gone_of_named {other : ι} (sound : fleet.Sound) (apart : fleet.Apart)
    {input : FleetInput ι ν}
    {event : RawEvent} (told : event ∈ fleet.reports owner input) (distinct : owner ≠ other) :
    ((fleet.meet input).station other).roster.Gone event.peer := by
  have others : ∀ call, input ≠ .call other call := by
    rcases other_of_ne distinct input with none | others
    · rw [reports_of_other none] at told
      cases told
    · exact others
  refine ⟨?_, ?_⟩
  · have taken := Station.taken_of_named (sound owner) told
    rwa [← station_meet] at taken
  · rw [link?_meet_of_other others]
    cases found : (fleet.station other).roster.link? event.peer with
    | none => rfl
    | some second =>
        obtain ⟨link, linked⟩ :=
          Station.linked_of_named (sound owner) told ((sound other).taken found)
        exact absurd (apart linked found) distinct

/-- What one station uses now, another uses neither now nor later. -/
theorem not_uses_of_linked {other : ι} (sound : fleet.Sound) (apart : fleet.Apart) {link : Link}
    (linked : (fleet.station owner).roster.link? peer = some link) (distinct : owner ≠ other)
    (history : List (FleetInput ι ν)) : ¬ fleet.Uses other peer history :=
  not_uses_of_gone sound (gone_of_apart sound apart linked distinct)

theorem not_uses_of_named {other : ι} (sound : fleet.Sound) (apart : fleet.Apart)
    {input : FleetInput ι ν} {event : RawEvent} (told : event ∈ fleet.reports owner input)
    (distinct : owner ≠ other) (rest : List (FleetInput ι ν)) :
    ¬ fleet.Uses other event.peer (input :: rest) := by
  rintro (⟨second, found⟩ | ⟨also, second, -⟩ | later)
  · obtain ⟨link, linked⟩ :=
      Station.linked_of_named (sound owner) told ((sound other).taken found)
    exact distinct (apart linked found)
  · rcases other_of_ne distinct input with others | others
    · rw [reports_of_other others] at told
      cases told
    · rw [reports_of_other others] at second
      cases second
  · exact not_uses_of_gone (sound.meet input) (gone_of_named sound apart told distinct) later

theorem owner_eq_of_uses {history : List (FleetInput ι ν)} (sound : fleet.Sound)
    (apart : fleet.Apart)
    {first second : ι} (firstUses : fleet.Uses first peer history)
    (secondUses : fleet.Uses second peer history) : first = second := by
  by_contra distinct
  have distinct' : second ≠ first := Ne.symm distinct
  induction history generalizing fleet with
  | nil =>
      obtain ⟨link, linked⟩ := firstUses
      exact not_uses_of_linked sound apart linked distinct [] secondUses
  | cons input rest ih =>
      rcases firstUses with ⟨link, linked⟩ | ⟨event, told, rfl⟩ | firstLater
      · exact not_uses_of_linked sound apart linked distinct _ secondUses
      · exact not_uses_of_named sound apart told distinct rest secondUses
      · rcases secondUses with ⟨link, linked⟩ | ⟨event, told, rfl⟩ | secondLater
        · exact not_uses_of_linked sound apart linked distinct' (input :: rest)
            (.inr (.inr firstLater))
        · exact not_uses_of_named sound apart told distinct' rest (.inr (.inr firstLater))
        · exact ih (sound.meet input) (apart.meet sound input) firstLater secondLater

theorem gone_of_leaves {call : TransportCall} (leaves : call.Leaves peer)
    (taken : peer.number < fleet.process.nextPeer) :
    ((fleet.meet (.call owner call)).station owner).roster.Gone peer := by
  rw [station_meet, seen, if_pos rfl]
  exact Station.gone_of_leaves leaves taken

/-- The life of a handle. What is told of it follows the course of one link: when it has been left,
nothing more. A message comes on a channel that the link has at that moment, and no link has more
channels than its host. A handle without a link stays so, a link keeps its address, and no other
station ever uses the handle. -/
theorem handles_of_history (process : Process ν) (history : List (FleetInput ι ν)) (owner : ι)
    (peer : PeerHandle) :
    let start : Fleet ι ν := { process }
    let now := start.after history
    let station := now.station owner
    (start.Answered owner history →
        (about peer (start.reported owner history)).map RawEvent.kind ∈
          RawEvent.courses.matches') ∧
      (∀ call later, call.Leaves peer → peer.number < now.process.nextPeer →
        ∀ event ∈ (now.meet (.call owner call)).reported owner later, event.peer ≠ peer) ∧
      (∀ timeout earlier channel flags data later after,
        Station.poll timeout station =
            .ok (earlier ++ .receive peer channel flags data :: later) after →
          ∃ socket taken moment host link,
            Station.drain socket taken timeout station = .ok earlier moment ∧
            moment.endpoint.host = some host ∧ host.connectedLink? peer = some link ∧
            channel < link.channels ∧ link.channels ≤ host.channels) ∧
      (∀ host link, station.endpoint.host = some host → host.link? peer = some link →
        link.channels ≤ host.channels) ∧
      (peer.number < now.process.nextPeer → station.roster.link? peer = none → ∀ later,
        ((now.after later).station owner).roster.link? peer = none ∧
          ∀ event ∈ now.reported owner later, event.peer ≠ peer) ∧
      (∀ link later last, station.roster.link? peer = some link →
        ((now.after later).station owner).roster.link? peer = some last →
          last.address = link.address) ∧
      ∀ other, start.Uses owner peer history → start.Uses other peer history → owner = other := by
  intro start now station
  have sound : now.Sound := (sound_start process).after history
  have limited : station.roster.Limited := by
    apply limited_after
    intro host hosting
    cases hosting
  refine ⟨fun answered => ?_, fun call later leaves taken => ?_, ?_, ?_, ?_, ?_, ?_⟩
  · have reached := reached_after (sound_start process)
      (Roster.Reached.start process.nextPeer peer) answered
    exact reached.course.mem_courses
  · exact unnamed_of_gone (sound.meet _) (gone_of_leaves leaves taken) later
  · intro timeout earlier channel flags data later after polled
    exact Station.heard_of_poll limited polled
  · intro host link hosting linked
    exact limited hosting linked
  · intro taken unlinked later
    have gone : station.roster.Gone peer := ⟨taken, unlinked⟩
    exact ⟨(gone_after sound gone later).unlinked, unnamed_of_gone sound gone later⟩
  · intro link later last linked found
    rcases follows_after now owner peer later found with fresh | ⟨old, before, same⟩
    · exact absurd ((sound owner).taken linked) (Nat.not_lt.mpr fresh)
    · cases linked.symm.trans before
      exact same.symm
  · intro other uses othersUse
    have apart : start.Apart := by
      intro first second peer link other linked
      cases linked
    exact owner_eq_of_uses (sound_start process) apart uses othersUse

/-- A server and a station beside it. The first peer of the server has connected, and has something
to say. -/
def visited : List (FleetInput Bool Loopback) :=
  let source : SocketAddress := { ip := .v4 0x7f000001, port := 4000 }
  let socket : SocketAddress := { ip := .v4 0x7f000001, port := 9000 }
  let arriving (frame : Frame) : Loopback :=
    { queues := .ofList [(socket, [Receipt.datagram source frame.encode])] }
  [.call true .start, .call false .start, .call true (.createServer "127.0.0.1" 9000 2 4),
    .network (arriving (.connect 2)), .call true (.poll 0),
    .network (arriving (.data 1 .reliable [104, 105]))]

theorem handles_of_history_visited :
    let start : Fleet Bool Loopback := { process := { network := {} } }
    let now := start.after visited
    start.Answered true visited ∧ about ⟨1⟩ (start.reported true visited) = [.connect ⟨1⟩] ∧
      (about ⟨1⟩ (start.reported true visited)).map RawEvent.kind ∈
        RawEvent.courses.matches' ∧
      (∃ after, Station.poll 0 (now.station true) =
        .ok [.receive ⟨1⟩ 1 .reliable [104, 105]] after) ∧
      (∃ (host : Host) (link : Link), host.connectedLink? ⟨1⟩ = some link ∧ 1 < link.channels ∧
        link.channels ≤ host.channels) ∧
      (∀ later, ∀ event ∈ (now.meet (.call true .disconnect)).reported true later,
        event.peer ≠ ⟨1⟩) ∧
      ¬ start.Uses false ⟨1⟩ visited := by
  intro start now
  have answers (station : Station Loopback)
      (ended : (Station.takeBatch 0 station).1.failure = none) :
      Station.poll 0 station =
        .ok (Station.takeBatch 0 station).1.events (Station.takeBatch 0 station).2 := by
    rw [Station.poll_eq_answer, Batch.answer, ended]
  have answered : start.Answered true visited := by
    refine ⟨?_, ?_, ?_, ?_, ?_, ?_, trivial⟩ <;> rintro timeout ⟨⟩
    refine ⟨_, _, answers _ ?_⟩
    decide +kernel
  have told : start.reported true visited = [.connect ⟨1⟩] := by decide +kernel
  have heard : (Station.takeBatch 0 (now.station true)).1.events =
      [.receive ⟨1⟩ 1 .reliable [104, 105]] := by
    decide +kernel
  have polled : Station.poll 0 (now.station true) = .ok [.receive ⟨1⟩ 1 .reliable [104, 105]]
      (Station.takeBatch 0 (now.station true)).2 := by
    rw [← heard]
    exact answers _ (by decide +kernel)
  obtain ⟨course, left, message, -, -, -, single⟩ :=
    handles_of_history { network := ({} : Loopback) } visited true ⟨1⟩
  obtain ⟨-, -, -, host, link, -, -, found, offered, below⟩ :=
    message 0 [] 1 .reliable [104, 105] [] _ polled
  refine ⟨answered, ?_, course answered, ⟨_, polled⟩, ⟨host, link, found, offered, below⟩,
    fun later => left .disconnect later trivial ?_, fun othersUse => ?_⟩
  · rw [told]
    rfl
  · decide +kernel
  · have connected : .connect ⟨1⟩ ∈ start.reported true visited := by
      rw [told]
      exact List.mem_singleton_self _
    have uses : start.Uses true ⟨1⟩ visited := uses_of_mem_reported connected
    exact absurd (single false uses othersUse) (by decide)

end Fleet

end Datagram

end Courier

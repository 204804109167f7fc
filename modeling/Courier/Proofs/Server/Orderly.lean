import Courier.Proofs.Config.Effective
import Courier.Proofs.Server.History

namespace Courier

open Datagram

/-- Without a host nothing is told. -/
theorem Datagram.Drained.eq_nil_of_vacant {before after : Roster} {events : List RawEvent}
    (drained : Drained before events after) (vacant : before.host = none) : events = [] := by
  induction drained with
  | done => rfl
  | more applied rest ih =>
      cases applied with
      | ignored => exact ih vacant
      | _ => cases vacant

namespace Server

namespace Told

variable {before after : UserTable × Roster} {event : RawEvent}

theorem consistent (told : Told before event after) (consistent : before.1.Consistent) :
    after.1.Consistent := by
  cases told with
  | seated new least =>
      exact consistent.seat (consistent.min?_free_eq_some_iff.mp least).1 new
  | left => exact consistent.releasePeer _
  | _ => exact consistent

theorem capacity_eq (told : Told before event after) : after.1.capacity = before.1.capacity := by
  cases told with
  | seated new least => exact UserTable.capacity_seat _ _ _
  | left => exact UserTable.capacity_releasePeer _ _
  | _ => rfl

theorem user?_of_ne (told : Told before event after) (consistent : before.1.Consistent)
    {other : PeerHandle} (apart : event.peer ≠ other) :
    after.1.user? other = before.1.user? other := by
  cases told with
  | seated new least => exact (UserTable.user?_seat _ _ _ _).trans (if_neg apart)
  | left => exact (consistent.user?_releasePeer _ _).trans (if_neg apart)
  | _ => rfl

theorem roster_cases (told : Told before event after) :
    after.2 = before.2 ∨ after.2 = before.2.remove event.peer := by
  cases told with
  | refused new => exact .inr rfl
  | _ => exact .inl rfl

end Told

/-- What holds of a server at any time: its tables say the same, and it has a host as long as it is
running. -/
structure Standing.Orderly (capacity : Nat) (standing : Standing) : Prop where
  consistent : standing.users.Consistent
  capacity_eq : standing.users.capacity = capacity
  sound : standing.roster.Sound
  inverse : standing.roster.Inverse
  hosted : standing.roster.host.isSome = standing.running

namespace Standing.Orderly

variable {capacity : Nat} {before after : Standing}

theorem told {event : RawEvent} {users : UserTable} {roster : Roster}
    (orderly : before.Orderly capacity)
    (told : Told (before.users, before.roster) event (users, roster)) (notices : List Notice) :
    Orderly capacity { before with users, roster, notices } where
  consistent := told.consistent orderly.consistent
  capacity_eq := told.capacity_eq.trans orderly.capacity_eq
  sound := by
    rcases told.roster_cases with rfl | rfl
    · exact orderly.sound
    · exact orderly.sound.remove _
  inverse := by
    rcases told.roster_cases with rfl | rfl
    · exact orderly.inverse
    · exact orderly.inverse.remove _
  hosted := by
    rcases told.roster_cases with rfl | rfl
    · exact orderly.hosted
    · exact Option.isSome_map.trans orderly.hosted

theorem handled {events : List RawEvent} (orderly : before.Orderly capacity)
    (handled : Handled before events after) : after.Orderly capacity := by
  induction handled with
  | done => exact orderly
  | more told own rest ih => exact ih (orderly.told told _)

theorem drained {events : List RawEvent} {roster : Roster} (orderly : before.Orderly capacity)
    (drained : Drained before.roster events roster) :
    Orderly capacity { before with roster } where
  consistent := orderly.consistent
  capacity_eq := orderly.capacity_eq
  sound := orderly.sound.drained drained
  inverse := orderly.inverse.drained orderly.sound drained
  hosted := drained.isSome_host.trans orderly.hosted

theorem turned {π ν : Type} {input : ServerInput π ν} {told : List RawEvent}
    (orderly : before.Orderly capacity) (turned : Turned input before told after) :
    after.Orderly capacity := by
  cases turned with
  | polled drained _ handled => exact (orderly.drained drained).handled handled
  | kicked held own =>
      exact {
        consistent := orderly.consistent.release _
        capacity_eq := (UserTable.capacity_release _ _).trans orderly.capacity_eq
        sound := orderly.sound.remove _
        inverse := orderly.inverse.remove _
        hosted := Option.isSome_map.trans orderly.hosted }
  | closed =>
      exact {
        consistent := orderly.consistent.clear
        capacity_eq := (UserTable.capacity_clear _).trans orderly.capacity_eq
        sound := Roster.sound_none _
        inverse := Roster.inverse_none _
        hosted := rfl }
  | shared call =>
      exact {
        consistent := orderly.consistent.perform call
        capacity_eq := (UserTable.capacity_perform _ call).trans orderly.capacity_eq
        sound := orderly.sound
        inverse := orderly.inverse
        hosted := orderly.hosted }
  | still _ handles =>
      exact {
        consistent := orderly.consistent
        capacity_eq := orderly.capacity_eq
        sound := orderly.sound.moved (.elsewhere handles)
        inverse := orderly.inverse
        hosted := orderly.hosted }

end Standing.Orderly

theorem Handled.running_eq {before after : Standing} {events : List RawEvent}
    (handled : Handled before events after) : after.running = before.running := by
  induction handled with
  | done => rfl
  | more told own rest ih => exact ih

/-- A server that has ended has nobody, unless the application brings somebody in. -/
def Standing.Vacated (standing : Standing) : Prop :=
  standing.running = false → ∀ peer, standing.users.user? peer = none

theorem Standing.Vacated.turned {π ν : Type} {input : ServerInput π ν} {before after : Standing}
    {told : List RawEvent} {capacity : Nat} (vacated : before.Vacated)
    (orderly : before.Orderly capacity) (turned : Turned input before told after)
    (own : ∀ call, input ≠ .shared call) : after.Vacated := by
  intro ended
  cases turned with
  | polled drained some handled =>
      have finished : before.running = false := handled.running_eq.symm.trans ended
      have vacant : before.roster.host = none := by
        rw [← Option.not_isSome_iff_eq_none, orderly.hosted, finished]
        exact Bool.false_ne_true
      rw [drained.eq_nil_of_vacant vacant, List.sublist_nil] at some
      subst some
      cases handled
      exact vacated finished
  | kicked held own =>
      have there := orderly.consistent.peer_eq_ok_iff.mp held
      rw [vacated ended] at there
      cases there
  | closed => exact UserTable.user?_clear _
  | shared call => exact absurd rfl (own call)
  | still => exact vacated ended

end Server

namespace UserTable

theorem user?_release_cases (table : UserTable) (user : UserId) (peer : PeerHandle) :
    (table.release user).2.user? peer = table.user? peer ∨
      (table.release user).2.user? peer = none := by
  unfold release
  split
  · rw [user?_vacate]
    split
    · exact .inr rfl
    · exact .inl rfl
  · exact .inl rfl

theorem user?_acquire_of_ne (table : UserTable) {peer other : PeerHandle} (apart : peer ≠ other) :
    (table.acquire peer).2.user? other = table.user? other := by
  unfold acquire
  split
  · rfl
  · split
    · rfl
    · exact (user?_seat _ _ _ _).trans (if_neg apart)

theorem user?_releasePeer_cases (table : UserTable) (peer other : PeerHandle) :
    (table.releasePeer peer).2.user? other = table.user? other ∨
      (table.releasePeer peer).2.user? other = none := by
  unfold releasePeer
  split
  · exact .inl rfl
  · exact table.user?_release_cases _ other

theorem user?_perform_cases (table : UserTable) {call : Call} {peer : PeerHandle}
    (other : call ≠ .acquire peer) :
    (table.perform call).2.user? peer = table.user? peer ∨
      (table.perform call).2.user? peer = none := by
  cases call with
  | acquire third =>
      exact .inl (table.user?_acquire_of_ne fun same => other (congrArg Call.acquire same))
  | release user => exact table.user?_release_cases user peer
  | releasePeer third => exact table.user?_releasePeer_cases third peer
  | clear => exact .inr (user?_clear table peer)
  | _ => exact .inl rfl

end UserTable

namespace Server.Standing

/-- Ids are held under handles that have been given out, unless the application makes them up. -/
def Numbered (standing : Standing) (peer : PeerHandle) : Prop :=
  ∀ ⦃user⦄, standing.users.user? peer = some user → peer.number < standing.roster.nextPeer

namespace Numbered

variable {before after : Standing} {peer : PeerHandle} {capacity : Nat}

theorem of_cases {users : UserTable} {roster : Roster} {running : Bool} {notices : List Notice}
    (numbered : before.Numbered peer) (later : before.roster.nextPeer ≤ roster.nextPeer)
    (same : users.user? peer = before.users.user? peer ∨ users.user? peer = none) :
    Numbered { users, roster, running, notices } peer := by
  intro user held
  rcases same with kept | gone
  · exact Nat.lt_of_lt_of_le (numbered (kept ▸ held)) later
  · cases gone.symm.trans held

theorem handled {events : List RawEvent} (numbered : before.Numbered peer)
    (orderly : before.Orderly capacity)
    (taken : ∀ event ∈ events, event.peer.number < before.roster.nextPeer)
    (handled : Handled before events after) : after.Numbered peer := by
  induction handled with
  | done => exact numbered
  | @more standing after event later users roster notices told own rest ih =>
      have next : roster.nextPeer = standing.roster.nextPeer := by
        rcases told.roster_cases with rfl | rfl <;> rfl
      refine ih ?_ (orderly.told told _) ?_
      · by_cases same : event.peer = peer
        · intro user held
          have number := taken event List.mem_cons_self
          rw [same] at number
          exact Nat.lt_of_lt_of_eq number next.symm
        · exact numbered.of_cases (Nat.le_of_eq next.symm)
            (.inl (told.user?_of_ne orderly.consistent same))
      · intro event mem
        exact Nat.lt_of_lt_of_eq (taken event (List.mem_cons_of_mem _ mem)) next.symm

theorem turned {π ν : Type} {input : ServerInput π ν} {told : List RawEvent}
    (numbered : before.Numbered peer) (orderly : before.Orderly capacity)
    (turned : Turned input before told after) (other : input ≠ .shared (.acquire peer)) :
    after.Numbered peer := by
  cases turned with
  | polled drained some handled =>
      refine (numbered.of_cases drained.nextPeer_le (.inl rfl)).handled (orderly.drained drained) ?_
        handled
      intro event mem
      exact drained.taken_of_mem orderly.sound (some.subset mem)
  | kicked held own =>
      exact numbered.of_cases (Nat.le_refl _) (before.users.user?_release_cases _ peer)
  | closed => exact numbered.of_cases (Nat.le_refl _) (.inr (UserTable.user?_clear _ peer))
  | shared call =>
      refine numbered.of_cases (Nat.le_refl _) (before.users.user?_perform_cases ?_)
      exact fun same => other (congrArg ServerInput.shared same)
  | still _ handles => exact numbered.of_cases (Nat.le_add_right _ handles) (.inl rfl)

end Numbered

/-- A peer that is gone from the links and has no id stays so, and is not named again. -/
structure Parted (standing : Standing) (peer : PeerHandle) : Prop where
  gone : standing.roster.Gone peer
  seatless : standing.users.user? peer = none

/-- What has been noticed in between names others. -/
def Overlooked (peer : PeerHandle) (before after : Standing) : Prop :=
  ∃ notices, after.notices = before.notices ++ notices ∧ ∀ notice ∈ notices, notice.2.peer ≠ peer

theorem Overlooked.refl (peer : PeerHandle) (standing : Standing) :
    Overlooked peer standing standing :=
  ⟨[], (List.append_nil _).symm, by simp⟩

theorem Overlooked.trans {peer : PeerHandle} {before middle after : Standing}
    (first : Overlooked peer before middle) (second : Overlooked peer middle after) :
    Overlooked peer before after := by
  obtain ⟨earlier, one, fromOthers⟩ := first
  obtain ⟨later, two, others⟩ := second
  refine ⟨earlier ++ later, by rw [two, one, List.append_assoc], fun notice mem => ?_⟩
  exact (List.mem_append.mp mem).elim (fromOthers notice) (others notice)

namespace Parted

variable {before after : Standing} {peer : PeerHandle} {capacity : Nat}

theorem removed {roster : Roster} (gone : roster.Gone peer) (other : PeerHandle) :
    (roster.remove other).Gone peer where
  taken := gone.taken
  unlinked := by
    rw [Roster.link?_removed, gone.unlinked]
    exact ite_self none

theorem handled {events : List RawEvent} (parted : before.Parted peer)
    (orderly : before.Orderly capacity) (others : ∀ event ∈ events, event.peer ≠ peer)
    (handled : Handled before events after) : after.Parted peer ∧ Overlooked peer before after := by
  induction handled with
  | done => exact ⟨parted, .refl peer _⟩
  | @more standing after event later users roster notices told own rest ih =>
      have apart := others event List.mem_cons_self
      have gone : roster.Gone peer := by
        rcases told.roster_cases with rfl | rfl
        · exact parted.gone
        · exact removed parted.gone _
      have seatless : users.user? peer = none :=
        (told.user?_of_ne orderly.consistent apart).trans parted.seatless
      obtain ⟨still, overlooked⟩ := ih ⟨gone, seatless⟩ (orderly.told told _)
        fun event mem => others event (List.mem_cons_of_mem _ mem)
      refine ⟨still, Overlooked.trans ⟨notices, rfl, ?_⟩ overlooked⟩
      intro notice mem
      rw [(own notice mem).2]
      exact apart

theorem turned {π ν : Type} {input : ServerInput π ν} {told : List RawEvent}
    (parted : before.Parted peer) (orderly : before.Orderly capacity)
    (turned : Turned input before told after) (other : input ≠ .shared (.acquire peer)) :
    after.Parted peer ∧ Overlooked peer before after ∧ ∀ event ∈ told, event.peer ≠ peer := by
  have silent : ∀ event ∈ ([] : List RawEvent), event.peer ≠ peer := by simp
  have seatless {users : UserTable}
      (same : users.user? peer = before.users.user? peer ∨ users.user? peer = none) :
      users.user? peer = none :=
    same.elim (·.trans parted.seatless) id
  cases turned with
  | polled drained some handled =>
      have fades := parted.gone.settled.drained orderly.sound drained
      have others : ∀ event ∈ told, event.peer ≠ peer := fun event mem =>
        parted.gone.unnamed_of_drained orderly.sound drained event (some.subset mem)
      have away : Parted { before with roster := _ } peer :=
        ⟨fades.gone parted.gone, parted.seatless⟩
      obtain ⟨still, overlooked⟩ := away.handled (orderly.drained drained) others handled
      exact ⟨still, overlooked, others⟩
  | @kicked _ user third notices held own =>
      have apart : third ≠ peer := by
        rintro rfl
        have there := orderly.consistent.peer_eq_ok_iff.mp held
        cases parted.seatless.symm.trans there
      refine ⟨⟨removed parted.gone third,
        seatless (before.users.user?_release_cases user peer)⟩, ⟨notices, rfl, ?_⟩, silent⟩
      intro notice mem
      rw [own notice mem]
      exact apart
  | closed =>
      exact ⟨⟨⟨parted.gone.taken, rfl⟩, seatless (.inr (UserTable.user?_clear _ peer))⟩,
        .refl peer _, silent⟩
  | shared call =>
      refine ⟨⟨parted.gone, seatless (before.users.user?_perform_cases ?_)⟩, .refl peer _,
        silent⟩
      exact fun same => other (congrArg ServerInput.shared same)
  | still _ handles =>
      exact ⟨⟨⟨Nat.lt_of_lt_of_le parted.gone.taken (Nat.le_add_right _ handles),
        parted.gone.unlinked⟩, parted.seatless⟩, .refl peer _, silent⟩

end Parted

end Server.Standing

namespace Server

variable {π ν κ : Type} [Network ν]

theorem standing_of_build {node fresh : Node π (Station ν) κ} {built : Server π (Station ν) κ}
    (started : build node = .ok built fresh) :
    ∃ socket channels maxPeers next,
      built.standing.users = node.config.userTable ∧ node.config.Usable ∧
        built.standing.running = true ∧
        built.standing.roster = ⟨some { role := .server, socket, channels, maxPeers }, next⟩ := by
  obtain ⟨rfl, valid, ready, begun, created⟩ := of_build_eq_ok started
  have config : fresh.config = node.config :=
    (Node.of_call_eq_ok created).2.1.trans (Node.of_call_eq_ok begun).2.1
  obtain ⟨socket, next, hosted⟩ := Node.roster_of_createServer created
  refine ⟨socket, _, _, next, ?_, (Config.validate_eq_ok_iff _).mp valid, rfl, hosted⟩
  change fresh.config.userTable = _
  rw [config]

theorem orderly_of_build {node fresh : Node π (Station ν) κ} {built : Server π (Station ν) κ}
    (started : build node = .ok built fresh) :
    built.standing.Orderly node.config.maxUsers.toNat := by
  obtain ⟨socket, channels, maxPeers, next, users, usable, running, roster⟩ :=
    standing_of_build started
  refine ⟨?_, ?_, ?_, ?_, ?_⟩
  · rw [users]
    exact .ofSize _
  · rw [users]
    exact Config.capacity_userTable usable
  · rw [roster, Roster.sound_some]
    exact .empty .server socket channels maxPeers next (by simp)
  · rw [roster, Roster.inverse_some]
    exact .empty .server socket channels maxPeers
  · rw [roster, running]
    rfl

theorem seatless_of_build {node fresh : Node π (Station ν) κ} {built : Server π (Station ν) κ}
    (started : build node = .ok built fresh) (peer : PeerHandle) :
    built.standing.users.user? peer = none := by
  obtain ⟨-, -, -, -, users, -⟩ := standing_of_build started
  rw [users]
  exact UserTable.user?_ofSize _ peer

variable [PacketType π] {server : Server π (Station ν) κ} {capacity : Nat}

theorem orderly_after (orderly : server.standing.Orderly capacity)
    (history : List (ServerInput π ν)) :
    (server.after history).standing.Orderly capacity := by
  induction history generalizing server with
  | nil => exact orderly
  | cons input rest ih => exact ih (orderly.turned (server.turned_meet input))

theorem vacated_after (orderly : server.standing.Orderly capacity)
    (vacated : server.standing.Vacated) {history : List (ServerInput π ν)}
    (own : ∀ call, .shared call ∉ history) : (server.after history).standing.Vacated := by
  induction history generalizing server with
  | nil => exact vacated
  | cons input rest ih =>
      have turned := server.turned_meet input
      refine ih (orderly.turned turned) (vacated.turned orderly turned ?_) ?_
      · rintro call rfl
        exact own call List.mem_cons_self
      · exact fun call mem => own call (List.mem_cons_of_mem _ mem)

/-- It is running at first, so that nobody needs to have gone then. -/
theorem vacated_of_build {node fresh : Node π (Station ν) κ} {built : Server π (Station ν) κ}
    (started : build node = .ok built fresh) {history : List (ServerInput π ν)}
    (own : ∀ call, .shared call ∉ history) : (built.after history).standing.Vacated := by
  obtain ⟨-, -, -, -, -, -, running, -⟩ := standing_of_build started
  have vacated : built.standing.Vacated := fun ended => by cases running.symm.trans ended
  exact vacated_after (orderly_of_build started) vacated own

theorem numbered_after {peer : PeerHandle} (orderly : server.standing.Orderly capacity)
    (numbered : server.standing.Numbered peer) {history : List (ServerInput π ν)}
    (other : .shared (.acquire peer) ∉ history) :
    (server.after history).standing.Numbered peer := by
  induction history generalizing server with
  | nil => exact numbered
  | cons input rest ih =>
      obtain ⟨now, later⟩ := List.ne_and_not_mem_of_not_mem_cons other
      have turned := server.turned_meet input
      exact ih (orderly.turned turned) (numbered.turned orderly turned now.symm) later

theorem parted_after {peer : PeerHandle} (orderly : server.standing.Orderly capacity)
    (parted : server.standing.Parted peer) {history : List (ServerInput π ν)}
    (other : .shared (.acquire peer) ∉ history) :
    (server.after history).standing.Parted peer ∧
      Standing.Overlooked peer server.standing (server.after history).standing ∧
      ∀ event ∈ server.heard history, event.peer ≠ peer := by
  induction history generalizing server with
  | nil => exact ⟨parted, .refl peer _, by simp [heard]⟩
  | cons input rest ih =>
      obtain ⟨now, later⟩ := List.ne_and_not_mem_of_not_mem_cons other
      have turned := server.turned_meet input
      obtain ⟨away, overlooked, others⟩ := parted.turned orderly turned now.symm
      obtain ⟨still, since, unheard⟩ := ih (orderly.turned turned) away later
      refine ⟨still, overlooked.trans since, fun event mem => ?_⟩
      exact (List.mem_append.mp mem).elim (others event) (unheard event)

end Server

end Courier

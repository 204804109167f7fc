import Courier.Proofs.Datagram.Tables

namespace Courier

/-- Links come and go by events of their own. -/
def RawEvent.IsOfLink : RawEvent → Prop
  | .connect _ | .disconnect _ => True
  | .receive .. => False

namespace Datagram

/-! One handle at a time. Its link comes with a connect event, under a fresh handle or under one
that has waited for it, and goes with a disconnect event or without any. -/

theorem Applied.nextPeer_le {source : SocketAddress} {before after : Roster}
    {events : List RawEvent} (applied : Applied source before events after) :
    before.nextPeer ≤ after.nextPeer := by
  cases applied <;> simp

theorem Applied.length_events_le {source : SocketAddress} {before after : Roster}
    {events : List RawEvent} (applied : Applied source before events after) :
    events.length ≤ 1 := by
  cases applied <;> simp

theorem Applied.link?_cases {source : SocketAddress} {before after : Roster}
    {events : List RawEvent} (sound : before.Sound)
    (applied : Applied source before events after) (peer : PeerHandle) :
    (after.link? peer = before.link? peer ∧
        ∀ event ∈ events, event.IsOfLink → event.peer ≠ peer) ∨
      (∃ link, events = [.connect peer] ∧ after.link? peer = some link ∧
        link.state = .connected ∧ peer.number < after.nextPeer ∧
        (peer = ⟨before.nextPeer⟩ ∨
          ∃ old, before.link? peer = some old ∧ old.state = .connecting)) ∨
      (∃ old, events = [.disconnect peer] ∧ before.link? peer = some old ∧
        after.link? peer = none) := by
  cases applied with
  | ignored => exact .inl ⟨rfl, by simp⟩
  | @admitted host next requested =>
      by_cases new : PeerHandle.mk next = peer
      · subst new
        exact .inr (.inl ⟨_, rfl, by rw [Roster.link?_some, Host.link?_insert, if_pos rfl], rfl,
          Nat.lt_succ_self next, .inl rfl⟩)
      · refine .inl ⟨?_, by simpa [RawEvent.peer] using fun _ => new⟩
        rw [Roster.link?_some, Host.link?_insert, if_neg new, Roster.link?_some]
  | @turnedAway host next requested =>
      refine .inl ⟨?_, by simp⟩
      rw [Roster.sound_some] at sound
      rw [Roster.link?_some, Host.link?_remove, Host.link?_insert, Roster.link?_some]
      by_cases new : PeerHandle.mk next = peer
      · subst new
        rw [if_pos rfl, sound.fresh]
      · rw [if_neg new, if_neg new]
  | @established host next other link granted known linked waiting =>
      rw [Roster.sound_some] at sound
      by_cases same : other = peer
      · subst same
        exact .inr (.inl ⟨_, rfl, by rw [Roster.link?_some, Host.link?_establish, if_pos rfl], rfl,
          sound.handle_lt linked, .inr ⟨link, linked, waiting⟩⟩)
      · refine .inl ⟨?_, by simpa [RawEvent.peer] using fun _ => same⟩
        rw [Roster.link?_some, Host.link?_establish, if_neg same, Roster.link?_some]
  | @departed host next other known =>
      rw [Roster.sound_some] at sound
      by_cases same : other = peer
      · subst same
        obtain ⟨old, linked, -⟩ := sound.linked known
        exact .inr (.inr ⟨old, rfl, linked, by simp⟩)
      · refine .inl ⟨?_, by simpa [RawEvent.peer] using fun _ => same⟩
        rw [Roster.link?_some, Host.link?_remove, if_neg same, Roster.link?_some]
  | received => exact .inl ⟨rfl, by simp [RawEvent.IsOfLink]⟩

namespace Roster

/-- The handle is taken, and its link, if there still is one, waits for nothing. -/
structure Settled (roster : Roster) (peer : PeerHandle) : Prop where
  taken : peer.number < roster.nextPeer
  connected : ∀ {link}, roster.link? peer = some link → link.state = .connected

/-- The handle is taken, and its link is no more. -/
structure Gone (roster : Roster) (peer : PeerHandle) : Prop where
  taken : peer.number < roster.nextPeer
  unlinked : roster.link? peer = none

/-- Nothing happens to a link but that it goes. -/
structure Fades (before after : Roster) (peer : PeerHandle) : Prop where
  nextPeer_le : before.nextPeer ≤ after.nextPeer
  kept_or_gone : after.link? peer = before.link? peer ∨ after.link? peer = none

/-- The event has had its time: what it tells of has happened to the handle. -/
def Spent (roster : Roster) : RawEvent → Prop
  | .connect peer => roster.Settled peer
  | .disconnect peer => roster.Gone peer
  | .receive .. => False

variable {before middle after : Roster} {peer : PeerHandle} {event : RawEvent}
  {events : List RawEvent}

theorem Gone.settled {roster : Roster} (gone : roster.Gone peer) : roster.Settled peer where
  taken := gone.taken
  connected linked := by
    rw [gone.unlinked] at linked
    cases linked

theorem Spent.settled {roster : Roster} (spent : roster.Spent event) :
    roster.Settled event.peer := by
  cases event with
  | connect peer => exact spent
  | disconnect peer => exact Gone.settled spent
  | receive => exact spent.elim

namespace Fades

theorem refl (roster : Roster) (peer : PeerHandle) : Fades roster roster peer :=
  ⟨Nat.le_refl _, .inl rfl⟩

theorem trans (first : Fades before middle peer) (second : Fades middle after peer) :
    Fades before after peer where
  nextPeer_le := Nat.le_trans first.nextPeer_le second.nextPeer_le
  kept_or_gone := by
    rcases second.kept_or_gone with kept | gone
    · rw [kept]
      exact first.kept_or_gone
    · exact .inr gone

theorem settled (fades : Fades before after peer) (settled : before.Settled peer) :
    after.Settled peer := by
  refine ⟨Nat.lt_of_lt_of_le settled.taken fades.nextPeer_le, fun {link} linked => ?_⟩
  rcases fades.kept_or_gone with kept | gone
  · exact settled.connected (kept ▸ linked)
  · rw [gone] at linked
    cases linked

theorem gone (fades : Fades before after peer) (gone : before.Gone peer) : after.Gone peer := by
  refine ⟨Nat.lt_of_lt_of_le gone.taken fades.nextPeer_le, ?_⟩
  rcases fades.kept_or_gone with kept | unlinked
  · rw [kept, gone.unlinked]
  · exact unlinked

theorem spent (fades : Fades before after event.peer) (spent : before.Spent event) :
    after.Spent event := by
  cases event with
  | connect peer => exact fades.settled spent
  | disconnect peer => exact fades.gone spent
  | receive => exact spent

end Fades

namespace Settled

theorem applied {source : SocketAddress} (settled : before.Settled peer) (sound : before.Sound)
    (applied : Applied source before events after) : Fades before after peer := by
  refine ⟨applied.nextPeer_le, ?_⟩
  rcases applied.link?_cases sound peer with
    ⟨same, -⟩ | ⟨new, -, -, -, -, fresh | ⟨old, linked, waiting⟩⟩ | ⟨old, -, -, unlinked⟩
  · exact .inl same
  · have taken := settled.taken
    rw [fresh] at taken
    exact absurd taken (Nat.lt_irrefl _)
  · rw [settled.connected linked] at waiting
    cases waiting
  · exact .inr unlinked

theorem drained (settled : before.Settled peer) (sound : before.Sound)
    (drained : Drained before events after) : Fades before after peer := by
  induction drained with
  | done => exact .refl _ _
  | more applied rest ih =>
      have fades := settled.applied sound applied
      exact fades.trans (ih (fades.settled settled) (sound.applied applied))

theorem moved (settled : before.Settled peer) (sound : before.Sound)
    (moved : Moved before after) : Fades before after peer := by
  cases moved with
  | closed => exact ⟨Nat.le_refl _, .inr rfl⟩
  | opened role socket channels maxPeers => exact ⟨Nat.le_refl _, .inr (by simp [Host.link?])⟩
  | left other =>
      refine ⟨Nat.le_refl _, ?_⟩
      rw [link?_removed]
      split
      · exact .inr rfl
      · exact .inl rfl
  | drained drained => exact settled.drained sound drained
  | elsewhere handles => exact ⟨Nat.le_add_right _ handles, .inl rfl⟩

theorem remove (settled : before.Settled peer) (sound : before.Sound) (other : PeerHandle) :
    (before.remove other).Settled peer :=
  (settled.moved sound (.left other)).settled settled

theorem moves (settled : before.Settled peer) (sound : before.Sound)
    (moves : Moves before after) : Fades before after peer := by
  induction moves with
  | refl => exact .refl _ _
  | tail moves moved ih => exact ih.trans ((ih.settled settled).moved (sound.moves moves) moved)

theorem dialled (settled : before.Settled peer) (dialled : Dialled before after) :
    Fades before after peer := by
  cases dialled with
  | @made known next socket link =>
      refine ⟨Nat.le_succ next, .inl ?_⟩
      have older : PeerHandle.mk next ≠ peer := by
        rintro rfl
        exact Nat.lt_irrefl _ settled.taken
      rw [link?_some, Host.link?_insert, if_neg older]
      rfl

end Settled

theorem Spent.not_mem_of_applied {source : SocketAddress} (spent : before.Spent event)
    (sound : before.Sound) (applied : Applied source before events after) : event ∉ events := by
  intro mem
  rcases applied.link?_cases sound event.peer with
    ⟨-, others⟩ | ⟨new, told, -, -, -, fresh⟩ | ⟨old, told, linked, -⟩
  · cases event with
    | receive => exact spent
    | _ => exact others _ mem trivial rfl
  · rw [told, List.mem_singleton] at mem
    have settled := spent.settled
    rcases fresh with new | ⟨old, linked, waiting⟩
    · have taken := settled.taken
      rw [new] at taken
      exact Nat.lt_irrefl _ taken
    · rw [settled.connected linked] at waiting
      cases waiting
  · rw [told, List.mem_singleton] at mem
    rw [mem] at spent
    rw [Gone.unlinked spent] at linked
    cases linked

theorem spent_of_mem_applied {source : SocketAddress} (sound : before.Sound)
    (applied : Applied source before events after) (mem : event ∈ events)
    (ofLink : event.IsOfLink) : after.Spent event := by
  rcases applied.link?_cases sound event.peer with
    ⟨-, others⟩ | ⟨new, told, linked, connected, taken, -⟩ | ⟨old, told, linked, unlinked⟩
  · exact absurd rfl (others event mem ofLink)
  · rw [told, List.mem_singleton] at mem
    rw [mem]
    refine ⟨taken, fun found => ?_⟩
    rw [linked] at found
    cases found
    exact connected
  · rw [told, List.mem_singleton] at mem
    rw [mem]
    exact ⟨Nat.lt_of_lt_of_le (sound.taken linked) applied.nextPeer_le, unlinked⟩

theorem Spent.not_mem_of_drained (spent : before.Spent event) (sound : before.Sound)
    (drained : Drained before events after) : event ∉ events := by
  induction drained with
  | done => simp
  | more applied rest ih =>
      rw [List.mem_append, not_or]
      have fades := spent.settled.applied sound applied
      exact ⟨spent.not_mem_of_applied sound applied,
        ih (fades.spent spent) (sound.applied applied)⟩

theorem spent_of_mem_drained (sound : before.Sound) (drained : Drained before events after)
    (mem : event ∈ events) (ofLink : event.IsOfLink) : after.Spent event := by
  induction drained with
  | done => cases mem
  | more applied rest ih =>
      have later := sound.applied applied
      rcases List.mem_append.mp mem with now | afterwards
      · have spent := spent_of_mem_applied sound applied now ofLink
        exact (spent.settled.drained later rest).spent spent
      · exact ih later afterwards

end Roster

end Datagram

end Courier

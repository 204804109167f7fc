import Courier.Events
import Courier.Proofs.Datagram.Links
import Mathlib.Computability.RegularExpressions

namespace Courier

/-! What is told of one peer, from first to last. It may connect and is then heard any number of
times; it may leave, also without having connected. -/

namespace RawEvent

def kind : RawEvent → EventKind
  | .connect _ => .connect
  | .disconnect _ => .disconnect
  | .receive .. => .message

/-- The kinds of the events of one peer, as a language. -/
def courses : RegularExpression EventKind :=
  let heard := (RegularExpression.char EventKind.message).star
  (1 + .char .connect * heard) * (1 + .char .disconnect)

/-- The peer has connected and has not left. -/
inductive Session (peer : PeerHandle) : List RawEvent → Prop
  | opened : Session peer [.connect peer]
  | heard {events : List RawEvent} (session : Session peer events) (channel : UInt8)
      (flags : SendFlags) (data : Bytes) :
      Session peer (events ++ [.receive peer channel flags data])

inductive Course (peer : PeerHandle) : List RawEvent → Prop
  | silent : Course peer []
  | ongoing {events : List RawEvent} (session : Session peer events) : Course peer events
  | refused : Course peer [.disconnect peer]
  | closed {events : List RawEvent} (session : Session peer events) :
      Course peer (events ++ [.disconnect peer])

theorem Session.kinds {peer : PeerHandle} {events : List RawEvent}
    (session : Session peer events) :
    ∃ count, events.map kind = .connect :: List.replicate count .message := by
  induction session with
  | opened => exact ⟨0, rfl⟩
  | heard session channel flags data ih =>
      obtain ⟨count, kinds⟩ := ih
      refine ⟨count + 1, ?_⟩
      rw [List.map_append, kinds, List.replicate_succ']
      rfl

theorem mem_courses_of_kinds {opening closing : List EventKind}
    (start : opening = [] ∨
      ∃ count, opening = .connect :: List.replicate count .message)
    (finish : closing = [] ∨ closing = [.disconnect]) :
    opening ++ closing ∈ courses.matches' := by
  simp only [courses, RegularExpression.matches'_mul, RegularExpression.matches'_add,
    RegularExpression.matches'_epsilon, RegularExpression.matches'_char,
    RegularExpression.matches'_star]
  refine Language.append_mem_mul ?_ ?_
  · rcases start with rfl | ⟨count, rfl⟩
    · exact .inl rfl
    · have first : [EventKind.connect] ∈ ({[.connect]} : Language EventKind) := rfl
      refine .inr (Language.append_mem_mul first ?_)
      refine Language.mem_kstar.mpr ⟨List.replicate count [.message], ?_, ?_⟩
      · simp
      · intro word mem
        exact List.eq_of_mem_replicate mem
  · exact finish

theorem Course.mem_courses {peer : PeerHandle} {events : List RawEvent}
    (course : Course peer events) : events.map kind ∈ courses.matches' := by
  cases course with
  | silent => exact mem_courses_of_kinds (.inl rfl) (.inl rfl)
  | ongoing session =>
      rw [← List.append_nil (events.map kind)]
      exact mem_courses_of_kinds (.inr session.kinds) (.inl rfl)
  | refused => exact mem_courses_of_kinds (.inl rfl) (.inr rfl)
  | closed session =>
      rw [List.map_append]
      exact mem_courses_of_kinds (.inr session.kinds) (.inr rfl)

end RawEvent

namespace Datagram

/-- The events that name a peer, in their order. -/
def about (peer : PeerHandle) (events : List RawEvent) : List RawEvent :=
  events.filter (·.peer = peer)

@[simp] theorem about_append (peer : PeerHandle) (earlier later : List RawEvent) :
    about peer (earlier ++ later) = about peer earlier ++ about peer later :=
  List.filter_append earlier later

theorem about_singleton (peer : PeerHandle) (event : RawEvent) :
    about peer [event] = if event.peer = peer then [event] else [] := by
  simp [about, List.filter_cons]

namespace Roster

open RawEvent (Course Session)

/-- How far a handle has got, by what has been told of it: nothing as long as it is not given out
or its link is waiting. -/
inductive Reached (roster : Roster) (peer : PeerHandle) : List RawEvent → Prop
  | ahead (untaken : roster.nextPeer ≤ peer.number) (unlinked : roster.link? peer = none) :
      Reached roster peer []
  | waiting {link : Link} (linked : roster.link? peer = some link)
      (waiting : link.state = .connecting) : Reached roster peer []
  | connected {link : Link} {told : List RawEvent} (linked : roster.link? peer = some link)
      (connected : link.state = .connected) (session : Session peer told) :
      Reached roster peer told
  | gone {told : List RawEvent} (gone : roster.Gone peer) (course : Course peer told) :
      Reached roster peer told

namespace Reached

variable {before after : Roster} {peer : PeerHandle} {told events : List RawEvent}

theorem course {roster : Roster} (reached : roster.Reached peer told) : Course peer told := by
  cases reached with
  | ahead => exact .silent
  | waiting => exact .silent
  | connected linked connected session => exact .ongoing session
  | gone gone course => exact course

theorem start (next : Nat) (peer : PeerHandle) : Reached ⟨none, next⟩ peer [] := by
  by_cases untaken : next ≤ peer.number
  · exact .ahead untaken rfl
  · exact .gone ⟨Nat.lt_of_not_le untaken, rfl⟩ .silent

/-- Nothing is told when a link goes without an event. -/
theorem fades (sound : before.Sound) (reached : before.Reached peer told)
    (fades : Fades before after peer) : after.Reached peer told := by
  cases reached with
  | ahead untaken unlinked =>
      have none : after.link? peer = none := by
        rcases fades.kept_or_gone with kept | gone
        · rw [kept, unlinked]
        · exact gone
      by_cases still : after.nextPeer ≤ peer.number
      · exact .ahead still none
      · exact .gone ⟨Nat.lt_of_not_le still, none⟩ .silent
  | waiting linked waiting =>
      rcases fades.kept_or_gone with kept | gone
      · exact .waiting (kept.trans linked) waiting
      · exact .gone ⟨Nat.lt_of_lt_of_le (sound.taken linked) fades.nextPeer_le, gone⟩ .silent
  | connected linked connected session =>
      rcases fades.kept_or_gone with kept | gone
      · exact .connected (kept.trans linked) connected session
      · exact .gone ⟨Nat.lt_of_lt_of_le (sound.taken linked) fades.nextPeer_le, gone⟩
          (.ongoing session)
  | gone gone course => exact .gone (fades.gone gone) course

theorem eq_nil_of_untaken {roster : Roster} (sound : roster.Sound)
    (reached : roster.Reached peer told) (untaken : roster.nextPeer ≤ peer.number) :
    told = [] := by
  have unlinked {link : Link} : roster.link? peer ≠ some link := fun linked =>
    Nat.lt_irrefl _ (Nat.lt_of_lt_of_le (sound.taken linked) untaken)
  cases reached with
  | ahead => rfl
  | waiting => rfl
  | connected linked => exact absurd linked unlinked
  | gone gone => exact absurd gone.taken (Nat.not_lt.mpr untaken)

theorem eq_nil_of_waiting {roster : Roster} {link : Link} (reached : roster.Reached peer told)
    (linked : roster.link? peer = some link) (waiting : link.state = .connecting) :
    told = [] := by
  cases reached with
  | ahead => rfl
  | waiting => rfl
  | connected other connected =>
      rw [linked] at other
      cases other
      rw [waiting] at connected
      cases connected
  | gone gone =>
      rw [gone.unlinked] at linked
      cases linked

theorem session_of_connected {roster : Roster} {link : Link} (reached : roster.Reached peer told)
    (linked : roster.link? peer = some link) (connected : link.state = .connected) :
    Session peer told := by
  cases reached with
  | ahead untaken unlinked =>
      rw [unlinked] at linked
      cases linked
  | waiting other waiting =>
      rw [linked] at other
      cases other
      rw [connected] at waiting
      cases waiting
  | connected other connected session => exact session
  | gone gone =>
      rw [gone.unlinked] at linked
      cases linked

/-- A link that goes by its disconnect event ends the course. -/
theorem departed {roster : Roster} {link : Link} (reached : roster.Reached peer told)
    (linked : roster.link? peer = some link) : Course peer (told ++ [.disconnect peer]) := by
  cases state : link.state with
  | connecting =>
      rw [reached.eq_nil_of_waiting linked state]
      exact .refused
  | connected => exact .closed (reached.session_of_connected linked state)

theorem applied {source : SocketAddress} (sound : before.Sound)
    (reached : before.Reached peer told) (applied : Applied source before events after) :
    after.Reached peer (told ++ about peer events) := by
  have later : before.nextPeer ≤ after.nextPeer := applied.nextPeer_le
  cases applied with
  | ignored => rwa [about, List.filter_nil, List.append_nil]
  | @admitted host next requested =>
      by_cases new : PeerHandle.mk next = peer
      · subst new
        rw [reached.eq_nil_of_untaken sound (Nat.le_refl next), about_singleton, RawEvent.peer,
          if_pos rfl]
        exact .connected (by rw [link?_some, Host.link?_insert, if_pos rfl]) rfl .opened
      · rw [about_singleton, RawEvent.peer, if_neg new, List.append_nil]
        refine reached.fades sound ⟨later, .inl ?_⟩
        rw [link?_some, Host.link?_insert, if_neg new, link?_some]
  | @turnedAway host next requested =>
      rw [about, List.filter_nil, List.append_nil]
      refine reached.fades sound ⟨later, ?_⟩
      rw [link?_some, Host.link?_remove, Host.link?_insert, link?_some]
      split
      · exact .inr rfl
      · exact .inl rfl
  | @established host next other link granted known linked waiting =>
      by_cases same : other = peer
      · subst same
        rw [reached.eq_nil_of_waiting linked waiting, about_singleton, RawEvent.peer, if_pos rfl]
        exact .connected (by rw [link?_some, Host.link?_establish, if_pos rfl]) rfl .opened
      · rw [about_singleton, RawEvent.peer, if_neg same, List.append_nil]
        refine reached.fades sound ⟨later, .inl ?_⟩
        rw [link?_some, Host.link?_establish, if_neg same, link?_some]
  | @departed host next other known =>
      by_cases same : other = peer
      · subst same
        obtain ⟨link, linked, -⟩ := ((sound_some _ _).mp sound).linked known
        rw [about_singleton, RawEvent.peer, if_pos rfl]
        exact .gone ⟨sound.taken linked, by simp⟩ (reached.departed linked)
      · rw [about_singleton, RawEvent.peer, if_neg same, List.append_nil]
        refine reached.fades sound ⟨later, .inl ?_⟩
        rw [link?_some, Host.link?_remove, if_neg same, link?_some]
  | @received host next other link channel flags payload known linked offered =>
      by_cases same : other = peer
      · subst same
        obtain ⟨found, connected⟩ := Host.of_connectedLink?_eq_some linked
        rw [about_singleton, RawEvent.peer, if_pos rfl]
        exact .connected found connected
          ((reached.session_of_connected found connected).heard channel flags payload)
      · rwa [about_singleton, RawEvent.peer, if_neg same, List.append_nil]

theorem drained (sound : before.Sound) (reached : before.Reached peer told)
    (drained : Drained before events after) :
    after.Reached peer (told ++ about peer events) := by
  induction drained generalizing told with
  | done => rwa [about, List.filter_nil, List.append_nil]
  | more applied rest ih =>
      rw [about_append, ← List.append_assoc]
      exact ih (sound.applied applied) (reached.applied sound applied)

theorem dialled (sound : before.Sound) (reached : before.Reached peer told)
    (dialled : Dialled before after) : after.Reached peer told := by
  cases dialled with
  | @made known next socket link room sender waiting =>
      by_cases new : PeerHandle.mk next = peer
      · subst new
        rw [reached.eq_nil_of_untaken sound (Nat.le_refl next)]
        exact .waiting (by rw [link?_some, Host.link?_insert, if_pos rfl]) waiting
      · refine reached.fades sound ⟨Nat.le_succ next, .inl ?_⟩
        rw [link?_some, Host.link?_insert, if_neg new]
        rfl

end Reached

end Roster

end Datagram

end Courier

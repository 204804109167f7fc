import Courier.Events
import Courier.Proofs.Users.Consistent

namespace Courier

/-! What is told under one id is a sequence of sessions. A session belongs to one peer: it connects,
its messages follow, and it leaves before the next one connects. -/

/-- What a callback is run with, and for what kind of event. -/
abbrev Notice := EventKind × NetEvent

def underUser (user : UserId) (told : List Notice) : List (EventKind × PeerHandle) :=
  told.filterMap fun (kind, event) =>
    if event.user = some user then some (kind, event.peer) else none

/-- Sessions one after the other, and who holds the id after them. -/
inductive Sessions : Option PeerHandle → List (EventKind × PeerHandle) → Prop
  | nil : Sessions none []
  | joined {told : List (EventKind × PeerHandle)} (peer : PeerHandle)
      (before : Sessions none told) : Sessions (some peer) (told ++ [(.connect, peer)])
  | heard {told : List (EventKind × PeerHandle)} {peer : PeerHandle}
      (before : Sessions (some peer) told) : Sessions (some peer) (told ++ [(.message, peer)])
  | left {told : List (EventKind × PeerHandle)} {peer : PeerHandle}
      (before : Sessions (some peer) told) : Sessions none (told ++ [(.disconnect, peer)])

theorem Sessions.holder_eq {holder : Option PeerHandle} {told : List (EventKind × PeerHandle)}
    (sessions : Sessions holder told) :
    holder = told.getLast?.bind fun (kind, peer) =>
      if kind = .disconnect then none else some peer := by
  cases sessions <;> simp

theorem Sessions.unique {first second : Option PeerHandle} {told : List (EventKind × PeerHandle)}
    (one : Sessions first told) (other : Sessions second told) : first = second :=
  one.holder_eq.trans other.holder_eq.symm

theorem underUser_append_of_eq {event : NetEvent} {user : UserId} (own : event.user = some user)
    (told : List Notice) (kind : EventKind) :
    underUser user (told ++ [(kind, event)]) = underUser user told ++ [(kind, event.peer)] := by
  simp [underUser, own]

theorem underUser_append_of_ne {event : NetEvent} {user : UserId} (other : event.user ≠ some user)
    (told : List Notice) (kind : EventKind) :
    underUser user (told ++ [(kind, event)]) = underUser user told := by
  simp [underUser, other]

namespace UserTable

def holder? (users : UserTable) (user : UserId) : Option PeerHandle :=
  (users.peer user).toOption

theorem holder?_eq_join (users : UserTable) (user : UserId) :
    users.holder? user = (users.slot? user).join := by
  unfold holder? UserTable.peer slot?
  split <;> simp [*, Except.toOption]

theorem holder?_seat {users : UserTable} {user : UserId} (inside : user.index < users.capacity)
    (peer : PeerHandle) (other : UserId) :
    (users.seat user peer).holder? other =
      if user = other then some peer else users.holder? other := by
  rw [holder?_eq_join, slot?_seat inside, holder?_eq_join]
  split <;> rfl

theorem holder?_vacate {users : UserTable} {user : UserId} (inside : user.index < users.capacity)
    (peer : PeerHandle) (other : UserId) :
    (users.vacate user peer).holder? other =
      if user = other then none else users.holder? other := by
  rw [holder?_eq_join, slot?_vacate inside, holder?_eq_join]
  split <;> rfl

theorem holder?_ofSize (requested : Nat) (user : UserId) :
    (ofSize requested).holder? user = none := by
  rw [holder?_eq_join, slot?, ofSize, Array.getElem?_replicate]
  split <;> rfl

theorem Consistent.holder?_eq_some_iff {users : UserTable} (consistent : users.Consistent)
    (user : UserId) (peer : PeerHandle) :
    users.holder? user = some peer ↔ users.user? peer = some user := by
  rw [holder?_eq_join, Option.join_eq_some_iff, consistent.user?_eq_some_iff]

/-- One notice, and how the users change with it. -/
inductive Tells : UserTable → Notice → UserTable → Prop
  | joined {users : UserTable} {peer : PeerHandle} {user : UserId}
      (new : users.user? peer = none) (least : users.free.min? = some user) :
      Tells users (.connect, { peer, user := some user }) (users.seat user peer)
  | left {users : UserTable} {peer : PeerHandle} {user : UserId}
      (held : users.user? peer = some user) :
      Tells users (.disconnect, { peer, user := some user }) (users.vacate user peer)
  | heard {users : UserTable} {peer : PeerHandle} {user : UserId} {data : Bytes}
      (held : users.user? peer = some user) :
      Tells users (.message, { peer, user := some user, data }) users
  | strangerLeft {users : UserTable} {peer : PeerHandle} (absent : users.user? peer = none) :
      Tells users (.disconnect, { peer, user := none }) users
  | strangerHeard {users : UserTable} {peer : PeerHandle} {data : Bytes}
      (absent : users.user? peer = none) :
      Tells users (.message, { peer, user := none, data }) users

/-- One notice after the other. -/
inductive TellsAll (users : UserTable) : List Notice → UserTable → Prop
  | nil : TellsAll users [] users
  | told {told : List Notice} {notice : Notice} {before after : UserTable}
      (earlier : TellsAll users told before) (tells : Tells before notice after) :
      TellsAll users (told ++ [notice]) after

namespace Tells

variable {users after : UserTable} {notice : Notice} {told : List Notice}

theorem consistent (tells : Tells users notice after) (before : users.Consistent) :
    after.Consistent := by
  cases tells with
  | joined new least => exact before.seat (before.min?_free_eq_some_iff.mp least).1 new
  | left held => exact before.vacate ((before.user?_eq_some_iff _ _).mp held)
  | heard held => exact before
  | strangerLeft absent => exact before
  | strangerHeard absent => exact before

/-- A notice goes on with the sessions of its own id, and those of the others stay as they are. -/
theorem sessions (tells : Tells users notice after) (before : users.Consistent)
    (sessions : ∀ user, Sessions (users.holder? user) (underUser user told)) (user : UserId) :
    Sessions (after.holder? user) (underUser user (told ++ [notice])) := by
  have current := sessions user
  cases tells with
  | @joined peer own new least =>
      have vacant := (before.min?_free_eq_some_iff.mp least).1
      rw [holder?_seat (lt_capacity_of_slot? vacant)]
      by_cases same : own = user
      · subst same
        rw [holder?_eq_join, vacant] at current
        rw [if_pos rfl, underUser_append_of_eq rfl]
        exact current.joined peer
      · rw [if_neg same, underUser_append_of_ne fun equal => same (Option.some.inj equal)]
        exact current
  | @left peer own held =>
      have seated := (before.user?_eq_some_iff peer own).mp held
      rw [holder?_vacate (lt_capacity_of_slot? seated)]
      by_cases same : own = user
      · subst same
        rw [(before.holder?_eq_some_iff own peer).mpr held] at current
        rw [if_pos rfl, underUser_append_of_eq rfl]
        exact current.left
      · rw [if_neg same, underUser_append_of_ne fun equal => same (Option.some.inj equal)]
        exact current
  | @heard peer own data held =>
      by_cases same : own = user
      · subst same
        rw [(before.holder?_eq_some_iff own peer).mpr held] at current ⊢
        rw [underUser_append_of_eq rfl]
        exact current.heard
      · rw [underUser_append_of_ne fun equal => same (Option.some.inj equal)]
        exact current
  | strangerLeft absent =>
      rw [underUser_append_of_ne (Option.some_ne_none user).symm]
      exact current
  | strangerHeard absent =>
      rw [underUser_append_of_ne (Option.some_ne_none user).symm]
      exact current

end Tells

namespace TellsAll

variable {requested : Nat} {users after : UserTable} {told : List Notice}

theorem consistent (all : TellsAll users told after) (before : users.Consistent) :
    after.Consistent := by
  induction all with
  | nil => exact before
  | told _ tells ih => exact tells.consistent ih

theorem sessions (all : TellsAll (ofSize requested) told after) (user : UserId) :
    Sessions (after.holder? user) (underUser user told) := by
  induction all generalizing user with
  | nil =>
      rw [holder?_ofSize]
      exact .nil
  | told earlier tells ih => exact tells.sessions (earlier.consistent (.ofSize requested)) ih user

/-- The moment at which a notice was told. -/
theorem moment {earlier : List Notice} {notice : Notice} (all : TellsAll users told after)
    (begins : earlier ++ [notice] <+: told) :
    ∃ before next, TellsAll users earlier before ∧ Tells before notice next := by
  induction all with
  | nil => simp at begins
  | told all tells ih =>
      rcases List.prefix_concat_iff.mp begins with whole | begins
      · obtain ⟨rfl, same⟩ := List.append_inj' whole rfl
        cases same
        exact ⟨_, _, all, tells⟩
      · exact ih begins

/-- Whoever connects is told under the least id that nobody holds. -/
theorem least_of_connect {earlier : List Notice} {event : NetEvent}
    (all : TellsAll (ofSize requested) told after)
    (begins : earlier ++ [(.connect, event)] <+: told) :
    ∃ user, event.user = some user ∧ Sessions none (underUser user earlier) ∧
      ∀ lower : UserId, lower.index < user.index →
        ∃ peer, Sessions (some peer) (underUser lower earlier) := by
  obtain ⟨before, _, reached, tells⟩ := all.moment begins
  have consistent := reached.consistent (.ofSize requested)
  cases tells with
  | @joined peer user new least =>
      obtain ⟨vacant, lowest⟩ := consistent.min?_free_eq_some_iff.mp least
      refine ⟨user, rfl, ?_, ?_⟩
      · have current := reached.sessions user
        rwa [holder?_eq_join, vacant] at current
      · intro lower below
        obtain ⟨holder, found⟩ := (exists_slot?_iff before lower).mpr
          (Nat.lt_trans below (lt_capacity_of_slot? vacant))
        have current := reached.sessions lower
        rw [holder?_eq_join, found] at current
        cases holder with
        | none => exact absurd (lowest lower found) (Nat.not_le_of_lt below)
        | some peer => exact ⟨peer, current⟩

/-- What is told without an id is told of a peer that holds none. -/
theorem stranger_of_user_eq_none {earlier : List Notice} {kind : EventKind} {event : NetEvent}
    (all : TellsAll (ofSize requested) told after)
    (begins : earlier ++ [(kind, event)] <+: told) (noUser : event.user = none) :
    kind ≠ .connect ∧ ∀ user, ¬ Sessions (some event.peer) (underUser user earlier) := by
  obtain ⟨before, _, reached, tells⟩ := all.moment begins
  have consistent := reached.consistent (.ofSize requested)
  have stranger (absent : before.user? event.peer = none) (user : UserId) :
      ¬ Sessions (some event.peer) (underUser user earlier) := by
    intro held
    have holds := (reached.sessions user).unique held
    rw [consistent.holder?_eq_some_iff, absent] at holds
    cases holds
  cases tells with
  | joined new least => cases noUser
  | left held => cases noUser
  | heard held => cases noUser
  | strangerLeft absent => exact ⟨nofun, stranger absent⟩
  | strangerHeard absent => exact ⟨nofun, stranger absent⟩

end TellsAll

end UserTable

end Courier

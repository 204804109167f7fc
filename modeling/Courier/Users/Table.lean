import Std.Data.TreeSet
import Courier.Identity

namespace Courier

/-! The user table hands out the ids of a fixed pool, always the lowest one that is free. Slots
are indexed by id; the free ids and the id of each peer are kept beside them. -/

inductive SessionError where
  | exhausted (capacity : Nat)
  | alreadyAcquired (user : UserId)
  | outOfRange (user : UserId) (capacity : Nat)
  | vacant (user : UserId)
deriving DecidableEq, Repr

def SessionError.message : SessionError → String
  | .exhausted capacity => s!"all {capacity} user ids are in use"
  | .alreadyAcquired user => s!"peer already holds user id {user}"
  | .outOfRange user capacity => s!"user id {user} is outside the pool of {capacity}"
  | .vacant user => s!"user id {user} is not in use"

/-- A table is right as long as the slots, the free ids and the ids of the peers say the same. -/
structure UserTable where
  slots : Array (Option PeerHandle)
  free : Std.TreeSet UserId
  byPeer : Std.TreeMap PeerHandle UserId

namespace UserTable

def maxCapacity : Nat := 65536

def defaultSize : Nat := 32

def idsBelow (capacity : Nat) : List UserId :=
  (List.range capacity).map UserId.ofIndex

/-- The pool is never larger than `maxCapacity`, however many ids are requested. -/
def ofSize (requested : Nat) : UserTable :=
  let capacity := min requested maxCapacity
  { slots := Array.replicate capacity none
    free := (idsBelow capacity).foldl (·.insert ·) ∅
    byPeer := ∅ }

instance : Inhabited UserTable := ⟨ofSize defaultSize⟩

def capacity (table : UserTable) : Nat :=
  table.slots.size

def size (table : UserTable) : Nat :=
  table.byPeer.size

def isEmpty (table : UserTable) : Bool :=
  table.byPeer.isEmpty

def isFull (table : UserTable) : Bool :=
  table.free.isEmpty

def peer (table : UserTable) (user : UserId) : Except SessionError PeerHandle :=
  match table.slots[user.index]? with
  | some (some peer) => .ok peer
  | some none => .error (.vacant user)
  | none => .error (.outOfRange user table.capacity)

def user? (table : UserTable) (peer : PeerHandle) : Option UserId :=
  table.byPeer[peer]?

def entriesFrom (index : Nat) : List (Option PeerHandle) → List (UserId × PeerHandle)
  | [] => []
  | none :: rest => entriesFrom (index + 1) rest
  | some peer :: rest => (.ofIndex index, peer) :: entriesFrom (index + 1) rest

def entries (table : UserTable) : List (UserId × PeerHandle) :=
  entriesFrom 0 table.slots.toList

def activeUsers (table : UserTable) : List UserId :=
  table.entries.map (·.1)

/-- The peer takes the id; nothing is checked. -/
def seat (table : UserTable) (user : UserId) (peer : PeerHandle) : UserTable :=
  { slots := table.slots.setIfInBounds user.index (some peer)
    free := table.free.erase user
    byPeer := table.byPeer.insert peer user }

def acquire (table : UserTable) (peer : PeerHandle) : Except SessionError UserId × UserTable :=
  match table.user? peer with
  | some user => (.error (.alreadyAcquired user), table)
  | none =>
    match table.free.min? with
    | none => (.error (.exhausted table.capacity), table)
    | some user => (.ok user, table.seat user peer)

/-- The peer gives the id back; nothing is checked. -/
def vacate (table : UserTable) (user : UserId) (peer : PeerHandle) : UserTable :=
  { slots := table.slots.setIfInBounds user.index none
    free := table.free.insert user
    byPeer := table.byPeer.erase peer }

def release (table : UserTable) (user : UserId) : Option PeerHandle × UserTable :=
  match table.slots[user.index]? with
  | some (some peer) => (some peer, table.vacate user peer)
  | _ => (none, table)

def releasePeer (table : UserTable) (peer : PeerHandle) : Option UserId × UserTable :=
  match table.user? peer with
  | none => (none, table)
  | some user => (some user, (table.release user).2)

def clear (table : UserTable) : UserTable :=
  { slots := Array.replicate table.capacity none
    free := table.activeUsers.foldl (·.insert ·) table.free
    byPeer := ∅ }

def describe (table : UserTable) : String :=
  "UserTable \x7b capacity: " ++ toString table.capacity ++ ", active: " ++
    toString table.size ++ " \x7d"

@[simp] theorem user?_seat (table : UserTable) (user : UserId) (peer other : PeerHandle) :
    (table.seat user peer).user? other = if peer = other then some user else table.user? other := by
  simp [seat, user?, Std.TreeMap.getElem?_insert, Std.LawfulEqCmp.compare_eq_iff_eq]

@[simp] theorem user?_vacate (table : UserTable) (user : UserId) (peer other : PeerHandle) :
    (table.vacate user peer).user? other = if peer = other then none else table.user? other := by
  simp [vacate, user?, Std.TreeMap.getElem?_erase, Std.LawfulEqCmp.compare_eq_iff_eq]

@[simp] theorem user?_ofSize (requested : Nat) (peer : PeerHandle) :
    (ofSize requested).user? peer = none := by
  simp [ofSize, user?]

@[simp] theorem user?_clear (table : UserTable) (peer : PeerHandle) :
    table.clear.user? peer = none := by
  simp [clear, user?]

@[simp] theorem capacity_ofSize (requested : Nat) :
    (ofSize requested).capacity = min requested maxCapacity := by
  simp [ofSize, capacity]

@[simp] theorem capacity_seat (table : UserTable) (user : UserId) (peer : PeerHandle) :
    (table.seat user peer).capacity = table.capacity := by
  simp [seat, capacity]

@[simp] theorem capacity_vacate (table : UserTable) (user : UserId) (peer : PeerHandle) :
    (table.vacate user peer).capacity = table.capacity := by
  simp [vacate, capacity]

@[simp] theorem capacity_clear (table : UserTable) : table.clear.capacity = table.capacity := by
  simp [clear, capacity]

end UserTable

end Courier

import Courier.Users.Table
import Mathlib.Data.List.Perm.Subperm

namespace Courier

theorem UserId.index_inj {first second : UserId} (same : first.index = second.index) :
    first = second := by
  rw [← first.ofIndex_index, same, second.ofIndex_index]

namespace UserTable

theorem mem_foldl_insert (ids : List UserId) (free : Std.TreeSet UserId) (user : UserId) :
    user ∈ ids.foldl (·.insert ·) free ↔ user ∈ ids ∨ user ∈ free := by
  induction ids generalizing free with
  | nil => simp
  | cons first rest ih =>
      rw [List.foldl_cons, ih, Std.TreeSet.mem_insert, Std.LawfulEqCmp.compare_eq_iff_eq,
        List.mem_cons, or_left_comm, or_assoc, eq_comm]

theorem mem_idsBelow {capacity : Nat} (bound : capacity ≤ maxCapacity) (user : UserId) :
    user ∈ idsBelow capacity ↔ user.index < capacity := by
  simp only [idsBelow, List.mem_map, List.mem_range]
  constructor
  · rintro ⟨index, below, rfl⟩
    rwa [UserId.index_ofIndex (Nat.lt_of_lt_of_le below bound)]
  · intro below
    exact ⟨user.index, below, user.ofIndex_index⟩

theorem mem_entriesFrom (index : Nat) (slots : List (Option PeerHandle)) (user : UserId)
    (peer : PeerHandle) :
    (user, peer) ∈ entriesFrom index slots ↔
      ∃ offset, slots[offset]? = some (some peer) ∧ user = .ofIndex (index + offset) := by
  induction slots generalizing index with
  | nil => simp [entriesFrom]
  | cons slot rest ih =>
      have shifted (offset : Nat) : index + 1 + offset = index + (offset + 1) := by omega
      rw [← Nat.or_exists_add_one]
      cases slot with
      | none => simp [entriesFrom, ih, shifted]
      | some holder => simp [entriesFrom, ih, shifted, and_comm, eq_comm]

/-- What is in the slot of an id, if it is an id of the pool. -/
def slot? (table : UserTable) (user : UserId) : Option (Option PeerHandle) :=
  table.slots[user.index]?

theorem lt_capacity_of_slot? {table : UserTable} {user : UserId} {holder : Option PeerHandle}
    (found : table.slot? user = some holder) : user.index < table.capacity :=
  (Array.getElem?_eq_some_iff.mp found).1

theorem exists_slot?_iff (table : UserTable) (user : UserId) :
    (∃ holder, table.slot? user = some holder) ↔ user.index < table.capacity := by
  constructor
  · rintro ⟨holder, found⟩
    exact lt_capacity_of_slot? found
  · intro inside
    exact ⟨table.slots[user.index], Array.getElem?_eq_getElem inside⟩

theorem getElem?_setIfInBounds_index {slots : Array (Option PeerHandle)} {user : UserId}
    (inside : user.index < slots.size) (holder : Option PeerHandle) (other : UserId) :
    (slots.setIfInBounds user.index holder)[other.index]? =
      if user = other then some holder else slots[other.index]? := by
  rw [Array.getElem?_setIfInBounds]
  by_cases same : user = other
  · rw [if_pos (congrArg UserId.index same), if_pos same, if_pos inside]
  · rw [if_neg fun equal => same (UserId.index_inj equal), if_neg same]

theorem slot?_seat {table : UserTable} {user : UserId} (inside : user.index < table.capacity)
    (peer : PeerHandle) (other : UserId) :
    (table.seat user peer).slot? other =
      if user = other then some (some peer) else table.slot? other :=
  getElem?_setIfInBounds_index inside (some peer) other

theorem slot?_vacate {table : UserTable} {user : UserId} (inside : user.index < table.capacity)
    (peer : PeerHandle) (other : UserId) :
    (table.vacate user peer).slot? other =
      if user = other then some none else table.slot? other :=
  getElem?_setIfInBounds_index inside none other

theorem mem_free_seat (table : UserTable) (user : UserId) (peer : PeerHandle) (other : UserId) :
    other ∈ (table.seat user peer).free ↔ user ≠ other ∧ other ∈ table.free := by
  rw [seat, Std.TreeSet.mem_erase, Std.LawfulEqCmp.compare_eq_iff_eq.ne]

theorem mem_free_vacate (table : UserTable) (user : UserId) (peer : PeerHandle)
    (other : UserId) :
    other ∈ (table.vacate user peer).free ↔ user = other ∨ other ∈ table.free := by
  rw [vacate, Std.TreeSet.mem_insert, Std.LawfulEqCmp.compare_eq_iff_eq]

theorem mem_entries {table : UserTable} (bound : table.capacity ≤ maxCapacity) (user : UserId)
    (peer : PeerHandle) :
    (user, peer) ∈ table.entries ↔ table.slot? user = some (some peer) := by
  rw [entries, mem_entriesFrom]
  constructor
  · rintro ⟨offset, found, rfl⟩
    rw [Array.getElem?_toList] at found
    have below : offset < table.capacity := (Array.getElem?_eq_some_iff.mp found).1
    rwa [slot?, Nat.zero_add, UserId.index_ofIndex (Nat.lt_of_lt_of_le below bound)]
  · intro found
    exact ⟨user.index, by simpa [slot?] using found, by simp⟩

theorem mem_activeUsers {table : UserTable} (bound : table.capacity ≤ maxCapacity)
    (user : UserId) :
    user ∈ table.activeUsers ↔ ∃ peer, table.slot? user = some (some peer) := by
  simp only [activeUsers, List.mem_map, Prod.exists, exists_and_right, exists_eq_right,
    mem_entries bound]

theorem peer_eq_ok_iff (table : UserTable) (user : UserId) (peer : PeerHandle) :
    table.peer user = .ok peer ↔ table.slot? user = some (some peer) := by
  unfold UserTable.peer slot?
  split <;> simp [*]

section

variable {table : UserTable} {peer : PeerHandle} {user : UserId}

theorem acquire_of_held (held : table.user? peer = some user) :
    table.acquire peer = (.error (.alreadyAcquired user), table) := by
  simp only [acquire, held]

theorem acquire_of_full (new : table.user? peer = none) (full : table.free.min? = none) :
    table.acquire peer = (.error (.exhausted table.capacity), table) := by
  simp only [acquire, new, full]

theorem acquire_of_least (new : table.user? peer = none) (least : table.free.min? = some user) :
    table.acquire peer = (.ok user, table.seat user peer) := by
  simp only [acquire, new, least]

end

@[simp] theorem capacity_release (table : UserTable) (user : UserId) :
    (table.release user).2.capacity = table.capacity := by
  unfold release
  split
  · exact capacity_vacate table user _
  · rfl

@[simp] theorem capacity_releasePeer (table : UserTable) (peer : PeerHandle) :
    (table.releasePeer peer).2.capacity = table.capacity := by
  unfold releasePeer
  split
  · rfl
  · exact capacity_release table _

/-- The slots, the free ids and the ids of the peers say the same. -/
structure Consistent (table : UserTable) : Prop where
  capacity_le : table.capacity ≤ maxCapacity
  user?_eq_some_iff : ∀ peer user,
    table.user? peer = some user ↔ table.slot? user = some (some peer)
  mem_free_iff : ∀ user, user ∈ table.free ↔ table.slot? user = some none

namespace Consistent

theorem ofSize (requested : Nat) : (ofSize requested).Consistent where
  capacity_le := by
    rw [capacity_ofSize]
    exact Nat.min_le_right _ _
  user?_eq_some_iff peer user := by
    simp [UserTable.ofSize, user?, slot?, Array.getElem?_replicate]
  mem_free_iff user := by
    have bound : min requested maxCapacity ≤ maxCapacity := Nat.min_le_right _ _
    simp [UserTable.ofSize, slot?, Array.getElem?_replicate, mem_foldl_insert, mem_idsBelow bound]

variable {table : UserTable} {user : UserId} {peer : PeerHandle}

theorem seat (consistent : table.Consistent) (vacant : table.slot? user = some none)
    (new : table.user? peer = none) : (table.seat user peer).Consistent where
  capacity_le := by
    rw [capacity_seat]
    exact consistent.capacity_le
  user?_eq_some_iff other id := by
    rw [user?_seat, slot?_seat (lt_capacity_of_slot? vacant)]
    by_cases samePeer : peer = other
    · subst samePeer
      have elsewhere : table.slot? id ≠ some (some peer) := by
        rw [Ne, ← consistent.user?_eq_some_iff, new]
        simp
      by_cases sameUser : user = id
      · simp [sameUser]
      · simp [sameUser, elsewhere]
    · by_cases sameUser : user = id
      · subst sameUser
        have unheld : table.user? other ≠ some user := by
          rw [Ne, consistent.user?_eq_some_iff, vacant]
          simp
        simp [samePeer, unheld]
      · simp [samePeer, sameUser, consistent.user?_eq_some_iff]
  mem_free_iff id := by
    rw [mem_free_seat, slot?_seat (lt_capacity_of_slot? vacant), consistent.mem_free_iff]
    by_cases sameUser : user = id
    · simp [sameUser]
    · simp [sameUser]

theorem vacate (consistent : table.Consistent) (held : table.slot? user = some (some peer)) :
    (table.vacate user peer).Consistent where
  capacity_le := by
    rw [capacity_vacate]
    exact consistent.capacity_le
  user?_eq_some_iff other id := by
    have own := (consistent.user?_eq_some_iff peer user).mpr held
    rw [user?_vacate, slot?_vacate (lt_capacity_of_slot? held)]
    by_cases samePeer : peer = other
    · subst samePeer
      by_cases sameUser : user = id
      · simp [sameUser]
      · have elsewhere : table.slot? id ≠ some (some peer) := by
          rw [Ne, ← consistent.user?_eq_some_iff, own]
          simpa using sameUser
        simp [sameUser, elsewhere]
    · by_cases sameUser : user = id
      · subst sameUser
        have unheld : table.user? other ≠ some user := by
          rw [Ne, consistent.user?_eq_some_iff, held]
          simpa using samePeer
        simp [samePeer, unheld]
      · simp [samePeer, sameUser, consistent.user?_eq_some_iff]
  mem_free_iff id := by
    rw [mem_free_vacate, slot?_vacate (lt_capacity_of_slot? held), consistent.mem_free_iff]
    by_cases sameUser : user = id
    · simp [sameUser]
    · simp [sameUser]

theorem clear (consistent : table.Consistent) : table.clear.Consistent where
  capacity_le := by
    rw [capacity_clear]
    exact consistent.capacity_le
  user?_eq_some_iff other id := by
    simp [UserTable.clear, user?, slot?, Array.getElem?_replicate]
  mem_free_iff id := by
    have inside : table.slot? id = some none ∨ (∃ peer, table.slot? id = some (some peer)) ↔
        id.index < table.capacity := by
      rw [← exists_slot?_iff, Option.exists]
    rw [UserTable.clear, mem_foldl_insert, mem_activeUsers consistent.capacity_le,
      consistent.mem_free_iff, or_comm, inside]
    simp [slot?, Array.getElem?_replicate]

/-- The lowest free id is the lowest one whose slot is empty. -/
theorem min?_free_eq_some_iff (consistent : table.Consistent) :
    table.free.min? = some user ↔ table.slot? user = some none ∧
      ∀ other, table.slot? other = some none → user.index ≤ other.index := by
  rw [Std.TreeSet.min?_eq_some_iff_mem_and_forall, consistent.mem_free_iff]
  apply and_congr_right
  intro _
  apply forall_congr'
  intro other
  rw [consistent.mem_free_iff]
  exact imp_congr_right fun _ => Nat.isLE_compare

theorem acquire (consistent : table.Consistent) (peer : PeerHandle) :
    (table.acquire peer).2.Consistent := by
  unfold UserTable.acquire
  split
  · exact consistent
  · next new =>
    split
    · exact consistent
    · next user least =>
      exact consistent.seat (consistent.min?_free_eq_some_iff.mp least).1 new

theorem release (consistent : table.Consistent) (user : UserId) :
    (table.release user).2.Consistent := by
  unfold UserTable.release
  split
  · next held => exact consistent.vacate held
  · exact consistent

theorem releasePeer (consistent : table.Consistent) (peer : PeerHandle) :
    (table.releasePeer peer).2.Consistent := by
  unfold UserTable.releasePeer
  split
  · exact consistent
  · exact consistent.release _

theorem release_of_user? (consistent : table.Consistent) (held : table.user? peer = some user) :
    table.release user = (some peer, table.vacate user peer) := by
  have seated := (consistent.user?_eq_some_iff peer user).mp held
  rw [slot?] at seated
  simp only [UserTable.release, seated]

theorem user?_releasePeer (consistent : table.Consistent) (peer other : PeerHandle) :
    (table.releasePeer peer).2.user? other = if peer = other then none else table.user? other := by
  unfold UserTable.releasePeer
  split
  · next absent =>
    split
    · next same => rw [← same, absent]
    · rfl
  · next user held =>
    rw [consistent.release_of_user? held, user?_vacate]

theorem peer_eq_ok_iff (consistent : table.Consistent) :
    table.peer user = .ok peer ↔ table.user? peer = some user := by
  rw [UserTable.peer_eq_ok_iff, consistent.user?_eq_some_iff]

/-- No more peers hold an id than there are ids. -/
theorem length_le_capacity (consistent : table.Consistent) {peers : List PeerHandle}
    (distinct : peers.Nodup) (held : ∀ peer ∈ peers, ∃ user, table.user? peer = some user) :
    peers.length ≤ table.capacity := by
  have seated : peers ⊆ table.slots.toList.filterMap id := by
    intro peer mem
    obtain ⟨user, holds⟩ := held peer mem
    have found := (consistent.user?_eq_some_iff peer user).mp holds
    rw [slot?, ← Array.getElem?_toList] at found
    exact List.mem_filterMap.mpr ⟨some peer, List.mem_of_getElem? found, rfl⟩
  calc peers.length ≤ (table.slots.toList.filterMap id).length :=
        (distinct.subperm seated).length_le
    _ ≤ table.slots.toList.length := List.length_filterMap_le _ _
    _ = table.capacity := Array.length_toList

end Consistent

/-- The first peer of a server that has room for users gets an id. -/
theorem acquire_ofSize {requested : Nat} (room : 0 < requested) (peer : PeerHandle) :
    (ofSize requested).acquire peer = (.ok ⟨0⟩, (ofSize requested).seat ⟨0⟩ peer) := by
  have consistent := Consistent.ofSize requested
  have vacant : (ofSize requested).slot? ⟨0⟩ = some none := by
    have inside : 0 < min requested maxCapacity := Nat.lt_min.mpr ⟨room, by decide⟩
    rw [slot?, ofSize]
    exact (Array.getElem?_replicate ..).trans (if_pos inside)
  have least : (ofSize requested).free.min? = some ⟨0⟩ :=
    consistent.min?_free_eq_some_iff.mpr ⟨vacant, fun other _ => Nat.zero_le _⟩
  have new : (ofSize requested).user? peer = none := by
    simp [ofSize, user?]
  exact acquire_of_least new least

end UserTable

end Courier

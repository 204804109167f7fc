import Courier.Proofs.Users.Consistent
import Mathlib.Data.List.Nodup
import Mathlib.Data.Prod.Basic

namespace Courier.UserTable

/-- The calls of a user table as data. -/
inductive Call where
  | acquire (peer : PeerHandle)
  | release (user : UserId)
  | releasePeer (peer : PeerHandle)
  | clear
  | peer (user : UserId)
  | user? (peer : PeerHandle)
  | entries
  | activeUsers
  | size
  | isEmpty
  | isFull
deriving DecidableEq, Repr

inductive Answer where
  | acquired (result : Except SessionError UserId)
  | released (peer : Option PeerHandle)
  | releasedPeer (user : Option UserId)
  | cleared
  | peer (result : Except SessionError PeerHandle)
  | user? (user : Option UserId)
  | entries (entries : List (UserId × PeerHandle))
  | activeUsers (users : List UserId)
  | size (size : Nat)
  | isEmpty (empty : Bool)
  | isFull (full : Bool)
deriving DecidableEq

def perform (table : UserTable) : Call → Answer × UserTable
  | .acquire peer => (table.acquire peer).map .acquired id
  | .release user => (table.release user).map .released id
  | .releasePeer peer => (table.releasePeer peer).map .releasedPeer id
  | .clear => (.cleared, table.clear)
  | .peer user => (.peer (table.peer user), table)
  | .user? peer => (.user? (table.user? peer), table)
  | .entries => (.entries table.entries, table)
  | .activeUsers => (.activeUsers table.activeUsers, table)
  | .size => (.size table.size, table)
  | .isEmpty => (.isEmpty table.isEmpty, table)
  | .isFull => (.isFull table.isFull, table)

/-- What is answered to one call after the other. -/
def Call.answers (perform : σ → Call → Answer × σ) (state : σ) : List Call → List Answer
  | [] => []
  | call :: calls => (perform state call).1 :: answers perform (perform state call).2 calls

/-- An answer that tells that nothing was done: what was asked is refused, or there was nothing to
release, or it was only looked up. -/
def Answer.Idle : Answer → Prop
  | .acquired (.ok _) | .released (some _) | .releasedPeer (some _) | .cleared => False
  | _ => True

/-- A table after some calls. -/
def after (table : UserTable) (calls : List Call) : UserTable :=
  calls.foldl (fun table call => (table.perform call).2) table

abbrev Ascending (users : List UserId) : Prop :=
  users.Pairwise fun first second => first.index < second.index

theorem Ascending.nodup {users : List UserId} (ascending : Ascending users) : users.Nodup := by
  apply List.Pairwise.imp _ ascending
  rintro first _ below rfl
  exact Nat.lt_irrefl _ below

theorem index_of_mem_entriesFrom {index : Nat} {slots : List (Option PeerHandle)}
    {entry : UserId × PeerHandle} (bound : index + slots.length ≤ maxCapacity)
    (mem : entry ∈ entriesFrom index slots) : index ≤ entry.1.index := by
  obtain ⟨offset, found, same⟩ := (mem_entriesFrom index slots entry.1 entry.2).mp mem
  have inside : offset < slots.length := (List.getElem?_eq_some_iff.mp found).1
  have inPool : index + offset < maxCapacity := by omega
  rw [same, UserId.index_ofIndex inPool]
  exact Nat.le_add_right index offset

theorem ascending_entriesFrom (index : Nat) (slots : List (Option PeerHandle))
    (bound : index + slots.length ≤ maxCapacity) :
    Ascending ((entriesFrom index slots).map (·.1)) := by
  induction slots generalizing index with
  | nil => exact .nil
  | cons slot rest ih =>
      rw [List.length_cons] at bound
      have later := ih (index + 1) (by omega)
      cases slot with
      | none => exact later
      | some peer =>
          refine List.pairwise_cons.mpr ⟨?_, later⟩
          intro user mem
          obtain ⟨entry, entryMem, rfl⟩ := List.mem_map.mp mem
          have above := index_of_mem_entriesFrom (by omega) entryMem
          have inPool : index < maxCapacity := by omega
          rw [UserId.index_ofIndex inPool]
          omega

theorem ascending_idsBelow {capacity : Nat} (bound : capacity ≤ maxCapacity) :
    Ascending (idsBelow capacity) := by
  rw [Ascending, idsBelow, List.pairwise_map]
  apply List.Pairwise.imp_of_mem _ List.pairwise_lt_range
  intro first second firstMem secondMem below
  rw [List.mem_range] at firstMem secondMem
  rwa [UserId.index_ofIndex (Nat.lt_of_lt_of_le firstMem bound),
    UserId.index_ofIndex (Nat.lt_of_lt_of_le secondMem bound)]

namespace Consistent

variable {table : UserTable}

theorem ascending_activeUsers (consistent : table.Consistent) : Ascending table.activeUsers := by
  apply ascending_entriesFrom
  rw [Nat.zero_add, Array.length_toList]
  exact consistent.capacity_le

theorem length_entries (consistent : table.Consistent) : table.entries.length = table.size := by
  have nodup : (table.byPeer.toList.map Prod.swap).Nodup := by
    have keys := Std.TreeMap.nodup_keys (t := table.byPeer)
    rw [← Std.TreeMap.map_fst_toList_eq_keys] at keys
    exact (List.Nodup.of_map _ keys).map Prod.swap_injective
  have distinct : table.entries.Nodup := .of_map _ consistent.ascending_activeUsers.nodup
  have same : table.entries.Perm (table.byPeer.toList.map Prod.swap) := by
    rw [List.perm_ext_iff_of_nodup distinct nodup]
    rintro ⟨user, peer⟩
    rw [mem_entries consistent.capacity_le, ← consistent.user?_eq_some_iff, user?,
      ← Std.TreeMap.mem_toList_iff_getElem?_eq_some, List.mem_map]
    simp [Prod.exists]
  rw [same.length_eq, List.length_map, Std.TreeMap.length_toList]
  rfl

/-- An id is either in use or free. -/
theorem perm_idsBelow (consistent : table.Consistent) :
    (table.activeUsers ++ table.free.toList).Perm (idsBelow table.capacity) := by
  have freeNodup : table.free.toList.Nodup := by
    apply List.Pairwise.imp _ Std.TreeSet.distinct_toList
    intro first second distinct
    rwa [Std.LawfulEqCmp.compare_eq_iff_eq] at distinct
  have nodup : (table.activeUsers ++ table.free.toList).Nodup := by
    refine List.nodup_append.mpr ⟨consistent.ascending_activeUsers.nodup, freeNodup, ?_⟩
    rintro user active _ free rfl
    obtain ⟨peer, held⟩ := (mem_activeUsers consistent.capacity_le user).mp active
    rw [Std.TreeSet.mem_toList, consistent.mem_free_iff, held] at free
    cases free
  rw [List.perm_ext_iff_of_nodup nodup (ascending_idsBelow consistent.capacity_le).nodup]
  intro user
  rw [List.mem_append, mem_activeUsers consistent.capacity_le, Std.TreeSet.mem_toList,
    consistent.mem_free_iff, mem_idsBelow consistent.capacity_le, ← exists_slot?_iff,
    Option.exists, or_comm]

theorem size_add_size_free (consistent : table.Consistent) :
    table.size + table.free.size = table.capacity := by
  have lengths := consistent.perm_idsBelow.length_eq
  rwa [List.length_append, activeUsers, List.length_map, consistent.length_entries,
    Std.TreeSet.length_toList, idsBelow, List.length_map, List.length_range] at lengths

theorem isFull_iff (consistent : table.Consistent) :
    table.isFull ↔ ∀ holder ∈ table.slots, holder.isSome := by
  rw [isFull, Std.TreeSet.isEmpty_iff_forall_not_mem]
  constructor
  · intro noneFree holder mem
    obtain ⟨index, inside, rfl⟩ := Array.mem_iff_getElem.mp mem
    have free := noneFree (.ofIndex index)
    have own := UserId.index_ofIndex (Nat.lt_of_lt_of_le inside consistent.capacity_le)
    rw [consistent.mem_free_iff, slot?, own, Array.getElem?_eq_getElem inside] at free
    exact Option.isSome_iff_ne_none.mpr fun vacant => free (congrArg some vacant)
  · intro occupied user free
    have vacant := (consistent.mem_free_iff user).mp free
    have := occupied none (Array.mem_of_getElem? vacant)
    cases this

theorem perform (consistent : table.Consistent) (call : Call) :
    (table.perform call).2.Consistent := by
  cases call with
  | acquire peer => exact consistent.acquire peer
  | release user => exact consistent.release user
  | releasePeer peer => exact consistent.releasePeer peer
  | clear => exact consistent.clear
  | _ => exact consistent

theorem after (consistent : table.Consistent) (calls : List Call) :
    (table.after calls).Consistent := by
  induction calls generalizing table with
  | nil => exact consistent
  | cons call rest ih => exact ih (consistent.perform call)

end Consistent

@[simp] theorem capacity_acquire (table : UserTable) (peer : PeerHandle) :
    (table.acquire peer).2.capacity = table.capacity := by
  unfold acquire
  split
  · rfl
  · split
    · rfl
    · exact capacity_seat table _ peer

theorem capacity_perform (table : UserTable) (call : Call) :
    (table.perform call).2.capacity = table.capacity := by
  cases call with
  | acquire peer => exact capacity_acquire table peer
  | release user => exact capacity_release table user
  | releasePeer peer => exact capacity_releasePeer table peer
  | clear => exact capacity_clear table
  | _ => rfl

theorem capacity_after (table : UserTable) (calls : List Call) :
    (table.after calls).capacity = table.capacity := by
  induction calls generalizing table with
  | nil => rfl
  | cons call rest ih => exact (ih _).trans (capacity_perform table call)

/-- Whatever is called, the slots, the free ids and the ids of the peers go on saying the same, and
what is counted and listed is what the slots hold. -/
theorem consistent_of_calls (requested : Nat) (calls : List Call) :
    let table := (ofSize requested).after calls
    table.slots.size = min requested maxCapacity ∧
      (∀ (peer : PeerHandle) (user : UserId),
        table.byPeer[peer]? = some user ↔ table.slots[user.index]? = some (some peer)) ∧
      (∀ user, user ∈ table.free ↔ table.slots[user.index]? = some none) ∧
      table.size + table.free.size = table.capacity ∧
      (table.isFull ↔ ∀ holder ∈ table.slots, holder.isSome) ∧
      (∀ user peer,
        (user, peer) ∈ table.entries ↔ table.slots[user.index]? = some (some peer)) ∧
      Ascending (table.entries.map (·.1)) ∧
      (∀ user, user ∈ table.activeUsers ↔ ∃ peer, table.slots[user.index]? = some (some peer)) ∧
      Ascending table.activeUsers ∧
      ∀ index < table.slots.size, (UserId.ofIndex index).index = index := by
  intro table
  have consistent : table.Consistent := (Consistent.ofSize requested).after calls
  have size : table.slots.size = min requested maxCapacity :=
    (capacity_after _ calls).trans (capacity_ofSize requested)
  refine ⟨size, consistent.user?_eq_some_iff, consistent.mem_free_iff,
    consistent.size_add_size_free, consistent.isFull_iff, mem_entries consistent.capacity_le,
    consistent.ascending_activeUsers, mem_activeUsers consistent.capacity_le,
    consistent.ascending_activeUsers, ?_⟩
  intro index below
  exact UserId.index_ofIndex (Nat.lt_of_lt_of_le below consistent.capacity_le)

end Courier.UserTable

import Courier.Proofs.Users.History

namespace Courier

open UserTable (Call Answer)

/-- The plain allocator. It keeps nothing but the slots, and looks through them for everything. -/
structure Scan where
  slots : Array (Option PeerHandle)

namespace Scan

def ofSize (capacity : Nat) : Scan :=
  ⟨Array.replicate capacity none⟩

def userOf? (scan : Scan) (peer : PeerHandle) : Option UserId :=
  (scan.slots.findIdx? (· = some peer)).map .ofIndex

def leastVacant? (scan : Scan) : Option UserId :=
  (scan.slots.findIdx? (·.isNone)).map .ofIndex

def set (scan : Scan) (user : UserId) (holder : Option PeerHandle) : Scan :=
  ⟨scan.slots.setIfInBounds user.index holder⟩

def acquire (scan : Scan) (peer : PeerHandle) : Except SessionError UserId × Scan :=
  match scan.userOf? peer with
  | some user => (.error (.alreadyAcquired user), scan)
  | none =>
    match scan.leastVacant? with
    | some user => (.ok user, scan.set user (some peer))
    | none => (.error (.exhausted scan.slots.size), scan)

def peer (scan : Scan) (user : UserId) : Except SessionError PeerHandle :=
  match scan.slots[user.index]? with
  | none => .error (.outOfRange user scan.slots.size)
  | some none => .error (.vacant user)
  | some (some peer) => .ok peer

def release (scan : Scan) (user : UserId) : Option PeerHandle × Scan :=
  match scan.slots[user.index]? with
  | some (some peer) => (some peer, scan.set user none)
  | _ => (none, scan)

def releasePeer (scan : Scan) (peer : PeerHandle) : Option UserId × Scan :=
  match scan.userOf? peer with
  | some user => (some user, scan.set user none)
  | none => (none, scan)

def clear (scan : Scan) : Scan :=
  ofSize scan.slots.size

def entries (scan : Scan) : List (UserId × PeerHandle) :=
  scan.slots.toList.zipIdx.filterMap fun (holder, index) =>
    holder.map fun peer => (.ofIndex index, peer)

def perform (scan : Scan) : Call → Answer × Scan
  | .acquire peer => (scan.acquire peer).map .acquired id
  | .release user => (scan.release user).map .released id
  | .releasePeer peer => (scan.releasePeer peer).map .releasedPeer id
  | .clear => (.cleared, scan.clear)
  | .peer user => (.peer (scan.peer user), scan)
  | .user? peer => (.user? (scan.userOf? peer), scan)
  | .entries => (.entries scan.entries, scan)
  | .activeUsers => (.activeUsers (scan.entries.map (·.1)), scan)
  | .size => (.size (scan.slots.countP (·.isSome)), scan)
  | .isEmpty => (.isEmpty (scan.slots.all (·.isNone)), scan)
  | .isFull => (.isFull (scan.slots.all (·.isSome)), scan)

end Scan

namespace UserTable

/-- What a table is without its indexes. -/
def toScan (table : UserTable) : Scan :=
  ⟨table.slots⟩

/-! Looking up in the indexes of a consistent table finds what looking through its slots does. -/

theorem entriesFrom_eq_filterMap (index : Nat) (slots : List (Option PeerHandle)) :
    entriesFrom index slots = (slots.zipIdx index).filterMap fun (holder, index) =>
      holder.map fun peer => (.ofIndex index, peer) := by
  induction slots generalizing index with
  | nil => rfl
  | cons slot rest ih =>
      cases slot with
      | none => simp [entriesFrom, ih]
      | some peer => simp [entriesFrom, ih]

theorem length_entriesFrom (index : Nat) (slots : List (Option PeerHandle)) :
    (entriesFrom index slots).length = slots.countP (·.isSome) := by
  induction slots generalizing index with
  | nil => rfl
  | cons slot rest ih =>
      cases slot with
      | none => simp [entriesFrom, ih]
      | some peer => simp [entriesFrom, ih]

namespace Consistent

variable {table : UserTable}

theorem userOf?_toScan (consistent : table.Consistent) (peer : PeerHandle) :
    table.toScan.userOf? peer = table.user? peer := by
  rw [Scan.userOf?, toScan]
  cases found : table.slots.findIdx? (· = some peer) with
  | none =>
      have nowhere := Array.findIdx?_eq_none_iff.mp found
      refine (Option.eq_none_iff_forall_ne_some.mpr fun user held => ?_).symm
      have seated := (consistent.user?_eq_some_iff peer user).mp held
      simpa using nowhere _ (Array.mem_of_getElem? seated)
  | some index =>
      obtain ⟨inside, holds, -⟩ := Array.findIdx?_eq_some_iff_getElem.mp found
      have own := UserId.index_ofIndex (Nat.lt_of_lt_of_le inside consistent.capacity_le)
      refine ((consistent.user?_eq_some_iff peer (.ofIndex index)).mpr ?_).symm
      rw [slot?, own, Array.getElem?_eq_getElem inside]
      exact congrArg some (of_decide_eq_true holds)

theorem leastVacant?_toScan (consistent : table.Consistent) :
    table.toScan.leastVacant? = table.free.min? := by
  rw [Scan.leastVacant?, toScan]
  cases found : table.slots.findIdx? (·.isNone) with
  | none =>
      have occupied := Array.findIdx?_eq_none_iff.mp found
      refine (Std.TreeSet.min?_eq_none_iff.mpr (consistent.isFull_iff.mpr ?_)).symm
      intro holder mem
      simpa using occupied holder mem
  | some index =>
      obtain ⟨inside, vacant, before⟩ := Array.findIdx?_eq_some_iff_getElem.mp found
      have own := UserId.index_ofIndex (Nat.lt_of_lt_of_le inside consistent.capacity_le)
      refine (consistent.min?_free_eq_some_iff.mpr ⟨?_, ?_⟩).symm
      · rw [slot?, own, Array.getElem?_eq_getElem inside]
        exact congrArg some (Option.isNone_iff_eq_none.mp vacant)
      · intro other otherVacant
        obtain ⟨otherInside, none⟩ := Array.getElem?_eq_some_iff.mp otherVacant
        rw [own]
        by_contra below
        exact before other.index (Nat.lt_of_not_le below) (by rw [none]; rfl)

theorem acquire_toScan (consistent : table.Consistent) (peer : PeerHandle) :
    table.toScan.acquire peer = (table.acquire peer).map id toScan := by
  rw [Scan.acquire, UserTable.acquire, consistent.userOf?_toScan, consistent.leastVacant?_toScan]
  cases table.user? peer with
  | some user => rfl
  | none => cases table.free.min? <;> rfl

theorem release_toScan (table : UserTable) (user : UserId) :
    table.toScan.release user = (table.release user).map id toScan := by
  rw [Scan.release, UserTable.release, toScan]
  dsimp only
  cases table.slots[user.index]? with
  | none => rfl
  | some holder => cases holder <;> rfl

theorem releasePeer_toScan (consistent : table.Consistent) (peer : PeerHandle) :
    table.toScan.releasePeer peer = (table.releasePeer peer).map id toScan := by
  rw [Scan.releasePeer, UserTable.releasePeer, consistent.userOf?_toScan]
  cases held : table.user? peer with
  | none => rfl
  | some user =>
      dsimp only
      rw [consistent.release_of_user? held]
      rfl

theorem size_toScan (consistent : table.Consistent) :
    table.toScan.slots.countP (·.isSome) = table.size := by
  rw [← consistent.length_entries, UserTable.entries, length_entriesFrom, Array.countP_toList]
  rfl

theorem isEmpty_toScan (consistent : table.Consistent) :
    table.toScan.slots.all (·.isNone) = table.isEmpty := by
  rw [Bool.eq_iff_iff, UserTable.isEmpty, Std.TreeMap.isEmpty_eq_size_eq_zero, beq_iff_eq]
  change _ ↔ table.size = 0
  rw [← consistent.size_toScan, Array.countP_eq_zero, Array.all_eq_true_iff_forall_mem]
  simp

theorem isFull_toScan (consistent : table.Consistent) :
    table.toScan.slots.all (·.isSome) = table.isFull := by
  rw [Bool.eq_iff_iff, consistent.isFull_iff, Array.all_eq_true_iff_forall_mem]
  rfl

/-- Each call is answered alike, and leaves the same slots. -/
theorem perform_toScan (consistent : table.Consistent) (call : Call) :
    table.toScan.perform call = (table.perform call).map id toScan := by
  cases call with
  | acquire peer =>
      rw [Scan.perform, consistent.acquire_toScan]
      rfl
  | release user =>
      rw [Scan.perform, release_toScan]
      rfl
  | releasePeer peer =>
      rw [Scan.perform, consistent.releasePeer_toScan]
      rfl
  | clear => rfl
  | peer user =>
      rw [Scan.perform, UserTable.perform, Scan.peer, UserTable.peer, toScan]
      cases table.slots[user.index]? with
      | none => rfl
      | some holder => cases holder <;> rfl
  | user? peer =>
      rw [Scan.perform, consistent.userOf?_toScan]
      rfl
  | entries =>
      rw [Scan.perform, UserTable.perform, UserTable.entries, entriesFrom_eq_filterMap]
      rfl
  | activeUsers =>
      rw [Scan.perform, UserTable.perform, UserTable.activeUsers, UserTable.entries,
        entriesFrom_eq_filterMap]
      rfl
  | size =>
      rw [Scan.perform, consistent.size_toScan]
      rfl
  | isEmpty =>
      rw [Scan.perform, consistent.isEmpty_toScan]
      rfl
  | isFull =>
      rw [Scan.perform, consistent.isFull_toScan]
      rfl

theorem answers_toScan (consistent : table.Consistent) (calls : List Call) :
    Call.answers Scan.perform table.toScan calls = Call.answers UserTable.perform table calls := by
  induction calls generalizing table with
  | nil => rfl
  | cons call rest ih =>
      have later := ih (consistent.perform call)
      rw [Call.answers, Call.answers, consistent.perform_toScan]
      exact congrArg (List.cons _) later

end Consistent

theorem toScan_ofSize (requested : Nat) :
    (ofSize requested).toScan = .ofSize (min requested maxCapacity) := rfl

theorem perform_of_idle {table : UserTable} {call : Call} (idle : (table.perform call).1.Idle) :
    (table.perform call).2 = table := by
  cases call with
  | acquire peer =>
      rw [perform, acquire] at idle ⊢
      cases held : table.user? peer with
      | some user => rfl
      | none =>
          rw [held] at idle
          cases least : table.free.min? with
          | none => rfl
          | some user =>
              rw [least] at idle
              exact idle.elim
  | release user =>
      rw [perform, release] at idle ⊢
      split
      · next peer held =>
        rw [held] at idle
        exact idle.elim
      · rfl
  | releasePeer peer =>
      rw [perform, releasePeer] at idle ⊢
      cases held : table.user? peer with
      | none => rfl
      | some user =>
          rw [held] at idle
          exact idle.elim
  | clear => exact idle.elim
  | _ => rfl

/-- A table answers every call as the plain allocator does. What it answers later depends on nothing
but its slots, so a call that does nothing to them, or tells that it did nothing, leaves no trace.
-/
theorem answers_eq_scan (requested : Nat) (calls : List Call) :
    Call.answers perform (ofSize requested) calls =
        Call.answers Scan.perform (.ofSize (min requested maxCapacity)) calls ∧
      ∀ call later,
        let table := (ofSize requested).after calls
        (table.perform call).1.Idle ∨ (table.perform call).2.slots = table.slots →
          Call.answers perform (table.perform call).2 later = Call.answers perform table later := by
  refine ⟨?_, ?_⟩
  · rw [← toScan_ofSize, (Consistent.ofSize requested).answers_toScan]
  · intro call later table
    have consistent : table.Consistent := (Consistent.ofSize requested).after calls
    rintro (idle | same)
    · rw [perform_of_idle idle]
    · have sameScan : (table.perform call).2.toScan = table.toScan := congrArg Scan.mk same
      rw [← (consistent.perform call).answers_toScan, sameScan, consistent.answers_toScan]

/-- A pool of one id, and it is taken. -/
def crowded : UserTable :=
  (ofSize 1).after [.acquire ⟨7⟩]

theorem answers_eq_scan_of_crowded :
    (crowded.perform (.acquire ⟨9⟩)).1 = .acquired (.error (.exhausted 1)) ∧
      Call.answers perform (crowded.perform (.acquire ⟨9⟩)).2 [.releasePeer ⟨7⟩, .acquire ⟨9⟩] =
        [.releasedPeer (some ⟨0⟩), .acquired (.ok ⟨0⟩)] := by
  have first : Call.answers perform (ofSize 1) [.acquire ⟨7⟩, .acquire ⟨9⟩] =
      [.acquired (.ok ⟨0⟩), .acquired (.error (.exhausted 1))] :=
    (answers_eq_scan 1 _).1.trans (by decide +kernel)
  have second : Call.answers perform (ofSize 1) [.acquire ⟨7⟩, .releasePeer ⟨7⟩, .acquire ⟨9⟩] =
      [.acquired (.ok ⟨0⟩), .releasedPeer (some ⟨0⟩), .acquired (.ok ⟨0⟩)] :=
    (answers_eq_scan 1 _).1.trans (by decide +kernel)
  have refused : (crowded.perform (.acquire ⟨9⟩)).1 = .acquired (.error (.exhausted 1)) :=
    (List.cons.inj (List.cons.inj first).2).1
  have idle : (crowded.perform (.acquire ⟨9⟩)).1.Idle := by
    rw [refused]
    trivial
  have answered : Call.answers perform crowded [.releasePeer ⟨7⟩, .acquire ⟨9⟩] =
      [.releasedPeer (some ⟨0⟩), .acquired (.ok ⟨0⟩)] :=
    (List.cons.inj second).2
  have unchanged := (answers_eq_scan 1 [.acquire ⟨7⟩]).2 (.acquire ⟨9⟩)
    [.releasePeer ⟨7⟩, .acquire ⟨9⟩] (.inl idle)
  exact ⟨refused, unchanged.trans answered⟩

end UserTable

end Courier

import Mathlib.Data.List.Dedup
import Courier.Proofs.Packet.Catalog

namespace Courier

variable {φ π : Type}

/-! Registering is a history: ids may come again, and what was said of an id first stands. -/

/-- The first registration of each id. -/
def firsts : List (PacketId × φ) → List (PacketId × φ)
  | [] => []
  | entry :: rest => entry :: (firsts rest).filter (·.1 ≠ entry.1)

@[simp] theorem lookup_entry (entry : PacketId × φ) (rest : List (PacketId × φ)) (id : PacketId) :
    (entry :: rest).lookup id = if id = entry.1 then some entry.2 else rest.lookup id := by
  obtain ⟨key, factory⟩ := entry
  by_cases same : id = key
  · rw [if_pos same, same, List.lookup_cons_self]
  · rw [if_neg same, List.lookup_cons, beq_eq_false_iff_ne.mpr same]

theorem lookup_filter_ne {id other : PacketId} (apart : id ≠ other)
    (entries : List (PacketId × φ)) :
    (entries.filter (·.1 ≠ other)).lookup id = entries.lookup id := by
  induction entries with
  | nil => rfl
  | cons entry rest ih =>
      by_cases same : entry.1 = other
      · rw [List.filter_cons_of_neg (by simpa using same), ih, lookup_entry, same, if_neg apart]
      · rw [List.filter_cons_of_pos (by simpa using same), lookup_entry, lookup_entry, ih]

theorem lookup_firsts (entries : List (PacketId × φ)) (id : PacketId) :
    (firsts entries).lookup id = entries.lookup id := by
  induction entries with
  | nil => rfl
  | cons entry rest ih =>
      rw [firsts, lookup_entry, lookup_entry]
      by_cases same : id = entry.1
      · rw [if_pos same, if_pos same]
      · rw [if_neg same, if_neg same, lookup_filter_ne same, ih]

theorem nodup_firsts (entries : List (PacketId × φ)) : ((firsts entries).map Prod.fst).Nodup := by
  induction entries with
  | nil => exact List.nodup_nil
  | cons entry rest ih =>
      rw [firsts, List.map_cons, List.nodup_cons]
      constructor
      · simp
      · exact ih.sublist (List.filter_sublist.map Prod.fst)

/-- Where no id comes twice, one order is as good as another. -/
theorem lookup_perm {entries others : List (PacketId × φ)} (reordered : others.Perm entries)
    (distinct : (entries.map Prod.fst).Nodup) (id : PacketId) :
    others.lookup id = entries.lookup id := by
  induction reordered with
  | nil => rfl
  | cons entry _ ih =>
      rw [List.map_cons, List.nodup_cons] at distinct
      rw [lookup_entry, lookup_entry, ih distinct.2]
  | swap first second rest =>
      simp only [List.map_cons, List.nodup_cons, List.mem_cons, not_or] at distinct
      have apart : first.1 ≠ second.1 := distinct.1.1
      by_cases one : id = first.1
      · simp [one, apart]
      · simp [one]
  | trans _ other one two =>
      exact (one ((other.map Prod.fst).nodup_iff.mpr distinct)).trans (two distinct)

theorem isSome_lookup_iff (entries : List (PacketId × φ)) (id : PacketId) :
    (entries.lookup id).isSome ↔ id ∈ entries.map Prod.fst := by
  induction entries with
  | nil => simp
  | cons entry rest ih =>
      rw [lookup_entry, List.map_cons, List.mem_cons, ← ih]
      by_cases same : id = entry.1 <;> simp [same]

namespace PacketRegistry

theorem register_of_contains {registry : PacketRegistry φ} {id : PacketId}
    (known : registry.contains id) (factory : φ) :
    registry.register id factory = .error (.duplicateId id) :=
  if_pos known

theorem registerFirst_of_contains {registry : PacketRegistry φ} {id : PacketId}
    (known : registry.contains id) (factory : φ) :
    registry.registerFirst (id, factory) = registry := by
  rw [registerFirst, register_of_contains known]

theorem register_of_not_contains {registry : PacketRegistry φ} {id : PacketId}
    (unknown : ¬ registry.contains id) (factory : φ) :
    registry.register id factory = .ok (registry.registerFirst (id, factory)) := by
  simp only [registerFirst, register, if_neg unknown]

theorem create?_registerFirst (registry : PacketRegistry φ) (entry : PacketId × φ)
    (id : PacketId) :
    (registry.registerFirst entry).create? id =
      (registry.create? id).or (if id = entry.1 then some entry.2 else none) := by
  have held := contains_eq_isSome registry entry.1
  by_cases known : registry.contains entry.1
  · rw [registerFirst_of_contains known]
    by_cases same : id = entry.1
    · rw [same, Option.or_of_isSome (held ▸ known)]
    · rw [if_neg same, Option.or_none]
  · have vacant : registry.create? entry.1 = none := by
      rwa [held, Option.not_isSome_iff_eq_none] at known
    rw [create?_of_register (register_of_not_contains known entry.2)]
    by_cases same : id = entry.1
    · rw [same, vacant, if_pos rfl, Option.none_or]
    · rw [if_neg (Ne.symm same), if_neg same, Option.or_none]

theorem create?_ofList (entries : List (PacketId × φ)) (id : PacketId) :
    (ofList entries).create? id = entries.lookup id := by
  have extended (registry : PacketRegistry φ) :
      (entries.foldl registerFirst registry).create? id =
        (registry.create? id).or (entries.lookup id) := by
    induction entries generalizing registry with
    | nil => simp
    | cons entry rest ih =>
        rw [List.foldl_cons, ih, create?_registerFirst, Option.or_assoc, lookup_entry]
        by_cases same : id = entry.1 <;> simp [same]
  rw [ofList, extended, create?_empty, Option.none_or]

theorem contains_ofList (entries : List (PacketId × φ)) (id : PacketId) :
    (ofList entries).contains id ↔ id ∈ entries.map Prod.fst := by
  rw [contains_eq_isSome, create?_ofList, isSome_lookup_iff]

theorem ofList_concat (entries : List (PacketId × φ)) (entry : PacketId × φ) :
    ofList (entries ++ [entry]) = (ofList entries).registerFirst entry := by
  rw [ofList, List.foldl_concat, ofList]

theorem register_ofList (earlier : List (PacketId × φ)) (id : PacketId) (factory : φ) :
    (ofList earlier).register id factory =
      if id ∈ earlier.map Prod.fst then .error (.duplicateId id)
      else .ok (ofList (earlier ++ [(id, factory)])) := by
  have known := contains_ofList earlier id
  by_cases used : id ∈ earlier.map Prod.fst
  · rw [if_pos used, register_of_contains (known.mpr used)]
  · rw [if_neg used, register_of_not_contains (mt known.mp used), ofList_concat]

theorem ids_ascending (registry : PacketRegistry φ) :
    registry.ids.Pairwise fun one other => one.byte < other.byte := by
  apply registry.packets.ordered_keys.imp
  intro one other ordered
  rw [UInt8.lt_iff_toNat_lt]
  exact Nat.compare_eq_lt.mp ordered

theorem mem_ids_iff (registry : PacketRegistry φ) (id : PacketId) :
    id ∈ registry.ids ↔ registry.contains id := by
  exact registry.packets.mem_keys

theorem length_ids (registry : PacketRegistry φ) : registry.ids.length = registry.size :=
  registry.packets.length_keys

theorem create?_map (build : φ → π) (registry : PacketRegistry φ) (id : PacketId) :
    (registry.map build).create? id = (registry.create? id).map build := by
  simp [map, create?]

end PacketRegistry

section

variable [PacketType π] {registry other : PacketRegistry π}

theorem decodeTagged_congr (alike : ∀ id, registry.create? id = other.create? id) :
    decodeTagged registry = decodeTagged other := by
  simp only [decodeTagged, alike]

theorem decodePacket_congr (alike : ∀ id, registry.create? id = other.create? id) :
    decodePacket registry = decodePacket other := by
  rw [decodePacket, decodePacket, decodeTagged_congr alike]

theorem dispatch_congr (alike : ∀ id, registry.create? id = other.create? id)
    (context : PacketContext π) : dispatch registry context = dispatch other context := by
  rw [dispatch, dispatch, decodeTagged_congr alike]

end

/-- A registration counts exactly if its id is new, and is refused with nothing changed if it is
not. What an id builds is what its first registration builds, and messages are taken for the same
packets as if each id had been registered once only, in whatever order. -/
theorem first_registration_stands [PacketType π] (build : φ → π)
    (entries : List (PacketId × φ)) :
    (∀ (earlier : List (PacketId × φ)) (id : PacketId) (factory : φ),
        (id ∉ earlier.map Prod.fst →
          (PacketRegistry.ofList earlier).register id factory =
            .ok (.ofList (earlier ++ [(id, factory)]))) ∧
        (id ∈ earlier.map Prod.fst →
          (PacketRegistry.ofList earlier).register id factory = .error (.duplicateId id) ∧
            PacketRegistry.ofList (earlier ++ [(id, factory)]) = .ofList earlier)) ∧
      (∀ id, ((PacketRegistry.ofList entries).map build).create? id =
        (entries.lookup id).map build) ∧
      (∀ id, (PacketRegistry.ofList entries).contains id ↔ id ∈ entries.map Prod.fst) ∧
      (PacketRegistry.ofList entries).ids.Pairwise (fun one other => one.byte < other.byte) ∧
      (∀ id, id ∈ (PacketRegistry.ofList entries).ids ↔ id ∈ entries.map Prod.fst) ∧
      (PacketRegistry.ofList entries).size = (PacketRegistry.ofList entries).ids.length ∧
      ∀ others : List (PacketId × φ), others.Perm (firsts entries) →
        decodePacket ((PacketRegistry.ofList entries).map build) =
            decodePacket ((PacketRegistry.ofList others).map build) ∧
          ∀ context, dispatch ((PacketRegistry.ofList entries).map build) context =
            dispatch ((PacketRegistry.ofList others).map build) context := by
  refine ⟨?_, ?_, PacketRegistry.contains_ofList entries, PacketRegistry.ids_ascending _, ?_,
    (PacketRegistry.length_ids _).symm, ?_⟩
  · intro earlier id factory
    rw [PacketRegistry.register_ofList]
    constructor
    · intro fresh
      rw [if_neg fresh]
    · intro used
      have known := (PacketRegistry.contains_ofList earlier id).mpr used
      exact ⟨if_pos used, by
        rw [PacketRegistry.ofList_concat, PacketRegistry.registerFirst_of_contains known]⟩
  · intro id
    rw [PacketRegistry.create?_map, PacketRegistry.create?_ofList]
  · intro id
    rw [PacketRegistry.mem_ids_iff, PacketRegistry.contains_ofList]
  · intro others reordered
    have alike (id : PacketId) :
        ((PacketRegistry.ofList entries).map build).create? id =
          ((PacketRegistry.ofList others).map build).create? id := by
      rw [PacketRegistry.create?_map, PacketRegistry.create?_map, PacketRegistry.create?_ofList,
        PacketRegistry.create?_ofList, lookup_perm reordered (nodup_firsts entries),
        lookup_firsts]
    exact ⟨decodePacket_congr alike, dispatch_congr alike⟩

end Courier

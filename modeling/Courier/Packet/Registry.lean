import Courier.Packet.Basic

namespace Courier

/-- A registry maps packet ids to the packet built for a message with that id, before its fields
are read. The first registration of an id wins. -/
structure PacketRegistry (π : Type) where
  packets : Std.TreeMap PacketId π := {}

namespace PacketRegistry

def empty : PacketRegistry π := {}

def create? (registry : PacketRegistry π) (id : PacketId) : Option π :=
  registry.packets[id]?

def contains (registry : PacketRegistry π) (id : PacketId) : Bool :=
  registry.packets.contains id

def register (registry : PacketRegistry π) (id : PacketId) (packet : π) :
    Except ProtocolError (PacketRegistry π) :=
  if registry.contains id then .error (.duplicateId id)
  else .ok ⟨registry.packets.insert id packet⟩

def registerFirst (registry : PacketRegistry π) (entry : PacketId × π) : PacketRegistry π :=
  match registry.register entry.1 entry.2 with
  | .ok extended => extended
  | .error _ => registry

def ofList (entries : List (PacketId × π)) : PacketRegistry π :=
  entries.foldl registerFirst empty

def map (embed : π → ρ) (registry : PacketRegistry π) : PacketRegistry ρ :=
  ⟨registry.packets.map fun _ packet => embed packet⟩

def size (registry : PacketRegistry π) : Nat :=
  registry.packets.size

def isEmpty (registry : PacketRegistry π) : Bool :=
  registry.packets.isEmpty

def ids (registry : PacketRegistry π) : List PacketId :=
  registry.packets.keys

def describe (registry : PacketRegistry π) : String :=
  "PacketRegistry \x7b ids: [" ++ ", ".intercalate (registry.ids.map PacketId.describe) ++ "] \x7d"

@[simp] theorem create?_empty (id : PacketId) : (empty : PacketRegistry π).create? id = none := by
  simp [empty, create?]

theorem contains_eq_isSome (registry : PacketRegistry π) (id : PacketId) :
    registry.contains id = (registry.create? id).isSome := by
  simp [contains, create?]

theorem create?_of_register {registry extended : PacketRegistry π} {id : PacketId} {packet : π}
    (registered : registry.register id packet = .ok extended) (other : PacketId) :
    extended.create? other = if id = other then some packet else registry.create? other := by
  simp only [register] at registered
  split at registered
  · cases registered
  · cases registered
    simp [create?, Std.TreeMap.getElem?_insert, Std.LawfulEqCmp.compare_eq_iff_eq]

end PacketRegistry

end Courier

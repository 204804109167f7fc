import Courier.Packet.Basic

namespace Courier

/-! Two families of packets make one. A packet of either side acts as it would on its own, and
what it queues joins the common outbox. -/

def Outgoing.map (embed : π → ρ) : Outgoing π → Outgoing ρ
  | .reply packet => .reply (embed packet)
  | .broadcast packet => .broadcast (embed packet)

def PacketContext.within (embed : π → ρ) (act : StateM (PacketContext π) α) :
    StateM (PacketContext ρ) α := fun context =>
  let (value, inner) := act { peer := context.peer, user := context.user }
  (value, { context with
    outbox := context.outbox ++ inner.outbox.map (Outgoing.map embed)
    printed := context.printed ++ inner.printed })

instance [PacketType π] [PacketType ρ] : PacketType (π ⊕ ρ) where
  id
    | .inl packet => PacketType.id packet
    | .inr packet => PacketType.id packet
  serialize
    | .inl packet => PacketType.serialize packet
    | .inr packet => PacketType.serialize packet
  deserialize
    | .inl packet => do return .inl (← PacketType.deserialize packet)
    | .inr packet => do return .inr (← PacketType.deserialize packet)
  process
    | .inl packet => PacketContext.within .inl (PacketType.process packet)
    | .inr packet => PacketContext.within .inr (PacketType.process packet)
  describe
    | .inl packet => PacketType.describe packet
    | .inr packet => PacketType.describe packet

end Courier

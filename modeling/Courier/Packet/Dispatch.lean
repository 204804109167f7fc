import Courier.Packet.Registry

namespace Courier

variable {π : Type} [PacketType π]

/-- A packet is its id byte followed by its fields. The writer is left as it was when the packet
refuses. -/
def encodePacket (packet : π) : EStateM ProtocolError Writer Unit := fun writer =>
  match PacketType.serialize packet (writer.write .packetId (PacketType.id packet)) with
  | .ok _ written => .ok () written
  | .error error written => .error error (written.truncate writer.length)

/-- The bytes of a packet on their own. -/
def wireForm (packet : π) : Except ProtocolError Bytes :=
  match encodePacket packet {} with
  | .ok _ written => .ok written.bytes
  | .error error _ => .error error

/-- Whatever stops a packet from reading its fields makes it malformed. -/
def readFields (id : PacketId) (packet : π) : EStateM ProtocolError Reader π :=
  (PacketType.deserialize packet).adaptExcept fun error => .malformed id error.message

def decodeTagged (registry : PacketRegistry π) :
    EStateM ProtocolError Reader (PacketId × π) := do
  let id ← Reader.read .packetId
  match registry.create? id with
  | none => throw (.unknownPacket id)
  | some packet => return (id, ← readFields id packet)

def decodePacket (registry : PacketRegistry π) : EStateM ProtocolError Reader π := do
  let (_, packet) ← decodeTagged registry
  return packet

/-- Dispatching decodes a packet and lets it act in the context of its sender. -/
def dispatch (registry : PacketRegistry π) (context : PacketContext π) :
    EStateM ProtocolError Reader (PacketId × ProcessResult × PacketContext π) := do
  let (id, packet) ← decodeTagged registry
  return (id, (PacketType.process packet).run context)

/-- A received message is dispatched for its effects: the packets and lines it queues, in order. A
message that cannot be decoded has none. -/
def handleMessage (registry : PacketRegistry π) (peer : PeerHandle) (user : Option UserId)
    (message : Bytes) : PacketContext π :=
  let context : PacketContext π := { peer, user }
  match dispatch registry context (Reader.ofBytes message) with
  | .ok (_, _, after) _ => after
  | .error _ _ => context

end Courier

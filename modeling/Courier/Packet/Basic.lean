import Courier.Stream.Reader

namespace Courier

/-- What can go wrong between a packet and its bytes. -/
inductive ProtocolError where
  | stream (error : StreamError)
  | duplicateId (id : PacketId)
  | unknownPacket (id : PacketId)
  | malformed (id : PacketId) (reason : String)
  | invalidMessage (reason : String)
deriving DecidableEq, Repr

def ProtocolError.message : ProtocolError → String
  | .stream error => error.message
  | .duplicateId id => s!"packet id {id} is already registered"
  | .unknownPacket id => s!"no packet registered for id {id}"
  | .malformed id reason => s!"malformed packet {id}: {reason}"
  | .invalidMessage reason => s!"invalid message: {reason}"

instance : MonadLift (EStateM StreamError Reader) (EStateM ProtocolError Reader) where
  monadLift read := read.adaptExcept .stream

/-! Handling a packet ends in one of three ways. It cannot reach the network: it queues packets
for the peer the message came from or for everyone, and lines for the screen. -/

inductive ProcessResult where
  | success
  | failure
  | error (reason : String)
deriving DecidableEq, Repr

def ProcessResult.isSuccess : ProcessResult → Bool
  | .success => true
  | _ => false

inductive Outgoing (π : Type) where
  | reply (packet : π)
  | broadcast (packet : π)
deriving DecidableEq, Repr

def Outgoing.packet : Outgoing π → π
  | .reply packet => packet
  | .broadcast packet => packet

structure PacketContext (π : Type) where
  peer : PeerHandle
  user : Option UserId
  outbox : List (Outgoing π) := []
  printed : List String := []
deriving DecidableEq, Repr

namespace PacketContext

def queue (outgoing : Outgoing π) : StateM (PacketContext π) Unit :=
  modify fun context => { context with outbox := context.outbox ++ [outgoing] }

def reply (packet : π) : StateM (PacketContext π) Unit :=
  queue (.reply packet)

def broadcast (packet : π) : StateM (PacketContext π) Unit :=
  queue (.broadcast packet)

def print (line : String) : StateM (PacketContext π) Unit :=
  modify fun context => { context with printed := context.printed ++ [line] }

def takeOutbox : StateM (PacketContext π) (List (Outgoing π)) :=
  modifyGet fun context => (context.outbox, { context with outbox := [] })

end PacketContext

/-- A family of packets: each knows its id, writes its own fields, reads them back over whatever
values it holds, and acts when it is received. The id byte in front is not its concern. -/
class PacketType (π : Type) where
  id : π → PacketId
  serialize : π → EStateM ProtocolError Writer Unit
  deserialize : π → EStateM ProtocolError Reader π
  process : π → StateM (PacketContext π) ProcessResult
  describe : π → String

end Courier

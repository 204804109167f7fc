import Courier.Packet.Dispatch
import Courier.Text.Quoted

namespace Courier

/-! The chat catalog. A client says hello and is welcomed under its user id, pings and is ponged,
and chats to be relayed to everyone. A chat text is at most 512 bytes long, on both sides. -/

inductive ChatPacket where
  | hello
  | welcome (user : UserId)
  | ping (nonce : UInt64)
  | pong (nonce : UInt64)
  | chat (text : String)
  | chatRelay (sender : UserId) (text : String)
deriving DecidableEq, Repr

namespace ChatPacket

def maxTextLength : Nat := 512

def id : ChatPacket → PacketId
  | .hello => ⟨0x05⟩
  | .welcome _ => ⟨0x06⟩
  | .ping _ => ⟨0x10⟩
  | .pong _ => ⟨0x11⟩
  | .chat _ => ⟨0x20⟩
  | .chatRelay _ _ => ⟨0x21⟩

def checkText [Monad m] [MonadExcept ProtocolError m] (text : String) : m Unit :=
  let length := text.utf8ByteSize
  if length ≤ maxTextLength then
    pure ()
  else
    throw (.invalidMessage s!"chat text of {length} bytes exceeds {maxTextLength}")

def serialize : ChatPacket → EStateM ProtocolError Writer Unit
  | .hello => pure ()
  | .welcome user => modify (·.write .userId user)
  | .ping nonce | .pong nonce => modify (·.write (.number .u64) nonce.toBitVec)
  | .chat text => do
    checkText text
    modify (·.writeText text)
  | .chatRelay sender text => do
    checkText text
    modify (·.write .userId sender)
    modify (·.writeText text)

def readNonce : EStateM ProtocolError Reader UInt64 := do
  return UInt64.ofBitVec (← Reader.read (.number .u64))

def readChatText : EStateM ProtocolError Reader String := do
  let text ← Reader.readText
  checkText text
  return text

def deserialize : ChatPacket → EStateM ProtocolError Reader ChatPacket
  | .hello => pure .hello
  | .welcome _ => do return .welcome (← Reader.read .userId)
  | .ping _ => do return .ping (← readNonce)
  | .pong _ => do return .pong (← readNonce)
  | .chat _ => do return .chat (← readChatText)
  | .chatRelay _ _ => do
    let sender ← Reader.read .userId
    return .chatRelay sender (← readChatText)

/-- A greeting or a chat line from a peer without a user id is refused. -/
def asUser (act : UserId → StateM (PacketContext ChatPacket) Unit) :
    StateM (PacketContext ChatPacket) ProcessResult := do
  match (← get).user with
  | none => return .failure
  | some user =>
    act user
    return .success

def process : ChatPacket → StateM (PacketContext ChatPacket) ProcessResult
  | .hello => asUser fun user => PacketContext.reply (.welcome user)
  | .welcome user => do
    PacketContext.print s!"* joined as {user}"
    return .success
  | .ping nonce => do
    PacketContext.reply (.pong nonce)
    return .success
  | .pong nonce => do
    PacketContext.print s!"* pong {nonce}"
    return .success
  | .chat text => asUser fun user => PacketContext.broadcast (.chatRelay user text)
  | .chatRelay sender text => do
    PacketContext.print s!"[{sender}] {text}"
    return .success

def describe : ChatPacket → String
  | .hello => "Hello"
  | .welcome user => "Welcome \x7b user: " ++ user.describe ++ " \x7d"
  | .ping nonce => "Ping \x7b nonce: " ++ toString nonce ++ " \x7d"
  | .pong nonce => "Pong \x7b nonce: " ++ toString nonce ++ " \x7d"
  | .chat text => "Chat \x7b text: " ++ Text.quote text ++ " \x7d"
  | .chatRelay sender text =>
    "ChatRelay \x7b from: " ++ sender.describe ++ ", text: " ++ Text.quote text ++ " \x7d"

instance : PacketType ChatPacket where
  id := id
  serialize := serialize
  deserialize := deserialize
  process := process
  describe := describe

def forServer : List ChatPacket :=
  [.hello, .ping 0, .chat ""]

def forClient : List ChatPacket :=
  [.welcome ⟨0⟩, .pong 0, .chatRelay ⟨0⟩ ""]

def registryOf (packets : List ChatPacket) : PacketRegistry ChatPacket :=
  .ofList (packets.map fun packet => (packet.id, packet))

def serverRegistry : PacketRegistry ChatPacket :=
  registryOf forServer

def clientRegistry : PacketRegistry ChatPacket :=
  registryOf forClient

end ChatPacket

end Courier

import Courier.Packet.Basic
import Courier.Text.Quoted

namespace Courier

/-- Sample packets, for what the chat catalog has no use for: a text that is refused after the
number before it is written, a broadcast, a failure after packets are queued, and fields that are
arrays. -/
inductive SamplePacket where
  | say (count : BitVec 32) (text : String)
  | note (text : String)
  | knock (times : UInt8)
  | grid (flag : Bool) (glyph : Char) (cells : Vector (BitVec 16) 3) (lamps : Vector Bool 2)
deriving DecidableEq, Repr

namespace SamplePacket

def maxSaid : Nat := 16

def cellsType : FixedType := .array (.number .u16) 3

def lampsType : FixedType := .array .bool 2

def id : SamplePacket → PacketId
  | .say .. => ⟨0x07⟩
  | .note .. => ⟨0x30⟩
  | .knock .. => ⟨0x40⟩
  | .grid .. => ⟨0x50⟩

def serialize : SamplePacket → EStateM ProtocolError Writer Unit
  | .say count text => do
    modify (·.write (.number .u32) count)
    if maxSaid < text.utf8ByteSize then throw (.invalidMessage "text too long")
    modify (·.writeText text)
  | .note text => modify (·.writeText text)
  | .knock times => modify (·.write (.number .u8) times.toBitVec)
  | .grid flag glyph cells lamps => do
    modify (·.write .bool flag)
    modify (·.write .char glyph)
    modify (·.write cellsType cells)
    modify (·.write lampsType lamps)

def deserialize : SamplePacket → EStateM ProtocolError Reader SamplePacket
  | .say .. => do
    let count ← Reader.read (.number .u32)
    return .say count (← Reader.readText)
  | .note _ => do return .note (← Reader.readText)
  | .knock _ => do return .knock (UInt8.ofBitVec (← Reader.read (.number .u8)))
  | .grid .. => do
    let flag ← Reader.read .bool
    let glyph ← Reader.read .char
    let cells ← Reader.read cellsType
    return .grid flag glyph cells (← Reader.read lampsType)

def process : SamplePacket → StateM (PacketContext SamplePacket) ProcessResult
  | .say count text =>
    if count = 0 then return .failure
    else do
      PacketContext.reply (.say (count - 1) text)
      return .success
  | .knock 0 => return .error "knocked zero times"
  | .knock 1 => do
    PacketContext.reply (.knock 1)
    return .success
  | .knock 255 => do
    PacketContext.broadcast (.knock 2)
    PacketContext.reply (.say 1 "seventeen letters")
    PacketContext.reply (.knock 3)
    return .error "too many"
  | .knock times => do
    PacketContext.broadcast (.knock times)
    return .success
  | .note _ | .grid .. => return .success

def describeItems (items : List String) : String :=
  "[" ++ ", ".intercalate items ++ "]"

def describe : SamplePacket → String
  | .say count text =>
    "Say \x7b count: " ++ toString count.toNat ++ ", text: " ++ Text.quote text ++ " \x7d"
  | .note text => "Note \x7b text: " ++ Text.quote text ++ " \x7d"
  | .knock times => "Knock \x7b times: " ++ toString times ++ " \x7d"
  | .grid flag glyph cells lamps =>
    "Grid \x7b flag: " ++ toString flag ++ ", glyph: " ++ Text.quoteChar glyph ++ ", cells: " ++
      describeItems (cells.toList.map fun cell => toString cell.toNat) ++ ", lamps: " ++
      describeItems (lamps.toList.map toString) ++ " \x7d"

instance : PacketType SamplePacket where
  id := id
  serialize := serialize
  deserialize := deserialize
  process := process
  describe := describe

end SamplePacket

end Courier

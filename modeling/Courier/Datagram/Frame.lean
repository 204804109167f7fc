import Courier.Transport.Basic

namespace Courier.Datagram

/-! Every datagram is one frame: a kind byte and what the kind carries. The payload of a data
frame follows its channel and its flags, which are four bytes, least significant first. -/

inductive Frame where
  | connect (channels : UInt8)
  | accept (channels : UInt8)
  | disconnect
  | data (channel : UInt8) (flags : SendFlags) (payload : Bytes)
deriving DecidableEq, Repr

namespace Frame

def headerLength : Nat := 6

def encode : Frame → Bytes
  | .connect channels => [1, channels]
  | .accept channels => [2, channels]
  | .disconnect => [3]
  | .data channel flags payload =>
    4 :: channel :: (LittleEndian.encode 4 flags.bits.toNat ++ payload)

def decode? : Bytes → Option Frame
  | [1, channels] => some (.connect channels)
  | [2, channels] => some (.accept channels)
  | [3] => some .disconnect
  | 4 :: channel :: a :: b :: c :: d :: payload =>
    some (.data channel ⟨UInt32.ofNat (LittleEndian.decode [a, b, c, d])⟩ payload)
  | _ => none

theorem length_encode_data (channel : UInt8) (flags : SendFlags) (payload : Bytes) :
    (encode (.data channel flags payload)).length = headerLength + payload.length := by
  simp [encode, headerLength]
  omega

theorem decode?_encode_data (channel : UInt8) (flags : SendFlags) (payload : Bytes) :
    decode? (encode (.data channel flags payload)) = some (.data channel flags payload) := by
  have bound : flags.bits.toNat < 256 ^ 4 := by
    have := flags.bits.toNat_lt
    omega
  change some (data channel ⟨UInt32.ofNat (LittleEndian.decode
    (LittleEndian.encode 4 flags.bits.toNat))⟩ payload) = _
  rw [LittleEndian.decode_encode_of_lt bound, UInt32.ofNat_toNat]

theorem decode?_encode (frame : Frame) : decode? frame.encode = some frame := by
  cases frame with
  | data channel flags payload => exact decode?_encode_data channel flags payload
  | _ => rfl

end Frame

def maxDatagram : Nat := 65507

def maxPayload : Nat := maxDatagram - Frame.headerLength

end Courier.Datagram

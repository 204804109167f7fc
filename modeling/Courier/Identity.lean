import Std.Data.TreeMap
import Courier.Bytes

namespace Courier

/-! The small numbers that name things: packets on the wire, users in a pool, peers of a
transport. -/

structure PacketId where
  byte : UInt8
deriving DecidableEq, Repr

structure UserId where
  number : UInt16
deriving DecidableEq, Repr, Inhabited

structure PeerHandle where
  number : Nat
deriving DecidableEq, Repr

def UserId.index (user : UserId) : Nat :=
  user.number.toNat

def UserId.ofIndex (index : Nat) : UserId :=
  ⟨UInt16.ofNat index⟩

@[simp] theorem UserId.ofIndex_index (user : UserId) : UserId.ofIndex user.index = user := by
  simp [UserId.ofIndex, UserId.index]

theorem UserId.index_ofIndex {index : Nat} (bound : index < 65536) :
    (UserId.ofIndex index).index = index := by
  simp only [UserId.ofIndex, UserId.index, UInt16.toNat_ofNat']
  omega

theorem UserId.index_lt (user : UserId) : user.index < 65536 :=
  user.number.toNat_lt

def hexDigit (value : Nat) : Char :=
  Nat.digitChar value

def hexByte (byte : UInt8) : String :=
  String.ofList [hexDigit (byte.toNat / 16), hexDigit (byte.toNat % 16)]

instance : ToString PacketId where
  toString id := "0x" ++ hexByte id.byte

instance : ToString UserId where
  toString user := "U-" ++ toString user.number.toNat

instance : ToString PeerHandle where
  toString peer := "peer-" ++ toString peer.number

def PacketId.describe (id : PacketId) : String :=
  "PacketId(" ++ toString id.byte.toNat ++ ")"

def UserId.describe (user : UserId) : String :=
  "UserId(" ++ toString user.number.toNat ++ ")"

instance : Ord PacketId := ⟨compareOn fun id => id.byte.toNat⟩
instance : Ord UserId := ⟨compareOn fun user => user.number.toNat⟩
instance : Ord PeerHandle := ⟨compareOn fun peer => peer.number⟩

instance : Std.TransOrd PacketId :=
  inferInstanceAs (Std.TransCmp (compareOn fun id : PacketId => id.byte.toNat))

instance : Std.TransOrd UserId :=
  inferInstanceAs (Std.TransCmp (compareOn fun user : UserId => user.number.toNat))

instance : Std.TransOrd PeerHandle :=
  inferInstanceAs (Std.TransCmp (compareOn fun peer : PeerHandle => peer.number))

instance : Std.LawfulEqOrd PacketId where
  eq_of_compare {a b} same := by
    have numbers : a.byte.toNat = b.byte.toNat := Std.LawfulEqOrd.eq_of_compare same
    cases a
    cases b
    exact congrArg PacketId.mk (UInt8.toNat_inj.mp numbers)

instance : Std.LawfulEqOrd UserId where
  eq_of_compare {a b} same := by
    have numbers : a.number.toNat = b.number.toNat := Std.LawfulEqOrd.eq_of_compare same
    cases a
    cases b
    exact congrArg UserId.mk (UInt16.toNat_inj.mp numbers)

instance : Std.LawfulEqOrd PeerHandle where
  eq_of_compare {a b} same := by
    have numbers : a.number = b.number := Std.LawfulEqOrd.eq_of_compare same
    cases a
    cases b
    exact congrArg PeerHandle.mk numbers

end Courier

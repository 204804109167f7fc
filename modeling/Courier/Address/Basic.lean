import Std.Data.TreeMap

namespace Courier

/-! Socket addresses of both families. A version 6 address may name a zone, and has zone 0
otherwise. -/

inductive IpAddress where
  | v4 (number : UInt32)
  | v6 (number : BitVec 128)
deriving DecidableEq, Repr

structure SocketAddress where
  ip : IpAddress
  port : UInt16
  zone : UInt32 := 0
deriving DecidableEq, Repr

inductive IpFamily where
  | v4
  | v6
deriving DecidableEq, Repr

namespace IpAddress

def family : IpAddress → IpFamily
  | .v4 _ => .v4
  | .v6 _ => .v6

def unspecified : IpFamily → IpAddress
  | .v4 => .v4 0
  | .v6 => .v6 0

def loopback : IpFamily → IpAddress
  | .v4 => .v4 0x7f000001
  | .v6 => .v6 1

def isUnspecified (ip : IpAddress) : Bool :=
  ip = unspecified ip.family

def isLoopback : IpAddress → Bool
  | .v4 number => number.toNat / 0x1000000 = 127
  | .v6 number => number = 1

end IpAddress

namespace SocketAddress

def family (address : SocketAddress) : IpFamily :=
  address.ip.family

def wildcard (family : IpFamily) : SocketAddress :=
  { ip := .unspecified family, port := 0 }

def sortKey (address : SocketAddress) : List Nat :=
  match address.ip with
  | .v4 number => [4, number.toNat, address.port.toNat, address.zone.toNat]
  | .v6 number => [6, number.toNat, address.port.toNat, address.zone.toNat]

theorem sortKey_injective {a b : SocketAddress} (same : a.sortKey = b.sortKey) : a = b := by
  obtain ⟨firstIp, firstPort, firstZone⟩ := a
  obtain ⟨secondIp, secondPort, secondZone⟩ := b
  cases firstIp <;> cases secondIp <;> simp_all [sortKey, UInt32.toNat_inj, UInt16.toNat_inj]
  exact BitVec.eq_of_toNat_eq same.1

instance : Ord SocketAddress := ⟨compareOn sortKey⟩

instance : Std.TransOrd SocketAddress :=
  inferInstanceAs (Std.TransCmp (compareOn sortKey))

instance : Std.LawfulEqOrd SocketAddress where
  eq_of_compare {a b} same := by
    have keys : a.sortKey = b.sortKey := Std.LawfulEqOrd.eq_of_compare same
    exact sortKey_injective keys

end SocketAddress

end Courier

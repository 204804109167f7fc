import Courier.Address.Basic
import Courier.Text.Digits

namespace Courier

open Text

/-! The written form of addresses: `127.0.0.1:80`, `[::1]:80`. Reading takes an address from the
front of the text and leaves the rest. The last two of the eight groups of a version 6 address may
be written as a version 4 address, and one run of zero groups may be left out; writing leaves out
the first of the longest runs of two or more. -/

def takeNumber? (radix limit : Nat) (allowed : List Nat → Bool) (text : List Char) :
    Option (Nat × List Char) :=
  let (digits, rest) := takeDigits radix text
  let value := valueOfDigits radix digits
  if !digits.isEmpty && allowed digits && value < limit then some (value, rest) else none

def takeChar? (expected : Char) : List Char → Option (List Char)
  | [] => none
  | c :: rest => if c = expected then some rest else none

def takeOctet? : List Char → Option (Nat × List Char) :=
  takeNumber? 10 256 fun digits => digits.length ≤ 3 && (digits.length = 1 || digits.head? ≠ some 0)

def takePort? (text : List Char) : Option (UInt16 × List Char) := do
  let rest ← takeChar? ':' text
  let (port, rest) ← takeNumber? 10 65536 (fun _ => true) rest
  return (UInt16.ofNat port, rest)

def takeIpv4? (text : List Char) : Option (Nat × List Char) := do
  let (first, rest) ← takeOctet? text
  let (second, rest) ← takeOctet? (← takeChar? '.' rest)
  let (third, rest) ← takeOctet? (← takeChar? '.' rest)
  let (fourth, rest) ← takeOctet? (← takeChar? '.' rest)
  return (valueOfDigits 256 [first, second, third, fourth], rest)

def afterSeparator? (isFirst : Bool) (text : List Char) : Option (List Char) :=
  if isFirst then some text else takeChar? ':' text

def takeEmbedded? (isFirst : Bool) (text : List Char) : Option (Nat × List Char) := do
  takeIpv4? (← afterSeparator? isFirst text)

def takeGroup? (isFirst : Bool) (text : List Char) : Option (Nat × List Char) := do
  takeNumber? 16 65536 (fun digits => digits.length ≤ 4) (← afterSeparator? isFirst text)

structure Groups where
  groups : List Nat
  embedded : Bool
  rest : List Char

def takeGroups : (limit : Nat) → (isFirst : Bool) → List Char → Groups
  | 0, _, text => ⟨[], false, text⟩
  | limit + 1, isFirst, text =>
    match if limit = 0 then none else takeEmbedded? isFirst text with
    | some (number, rest) => ⟨[number / 65536, number % 65536], true, rest⟩
    | none =>
      match takeGroup? isFirst text with
      | none => ⟨[], false, text⟩
      | some (group, rest) =>
        let more := takeGroups limit false rest
        { more with groups := group :: more.groups }

def takeIpv6? (text : List Char) : Option (Nat × List Char) := do
  let head := takeGroups 8 true text
  if head.groups.length = 8 then
    return (valueOfDigits 65536 head.groups, head.rest)
  if head.embedded then
    none
  let rest ← takeChar? ':' (← takeChar? ':' head.rest)
  let tail := takeGroups (7 - head.groups.length) true rest
  let zeros := List.replicate (8 - head.groups.length - tail.groups.length) 0
  return (valueOfDigits 65536 (head.groups ++ zeros ++ tail.groups), tail.rest)

def takeZone? (text : List Char) : Option (UInt32 × List Char) :=
  match takeChar? '%' text with
  | none => some (0, text)
  | some rest => do
    let (zone, rest) ← takeNumber? 10 UInt32.size (fun _ => true) rest
    return (UInt32.ofNat zone, rest)

def whole? : Option (α × List Char) → Option α
  | some (value, []) => some value
  | _ => none

def IpAddress.parse? (text : List Char) : Option IpAddress :=
  match whole? (takeIpv4? text) with
  | some number => some (.v4 (UInt32.ofNat number))
  | none => (whole? (takeIpv6? text)).map fun number => .v6 (BitVec.ofNat 128 number)

def takeSocketAddress4? (text : List Char) : Option (SocketAddress × List Char) := do
  let (number, rest) ← takeIpv4? text
  let (port, rest) ← takePort? rest
  return ({ ip := .v4 (UInt32.ofNat number), port }, rest)

def takeSocketAddress6? (text : List Char) : Option (SocketAddress × List Char) := do
  let (number, rest) ← takeIpv6? (← takeChar? '[' text)
  let (zone, rest) ← takeZone? rest
  let (port, rest) ← takePort? (← takeChar? ']' rest)
  return ({ ip := .v6 (BitVec.ofNat 128 number), port, zone }, rest)

def SocketAddress.parse? (text : List Char) : Option SocketAddress :=
  (whole? (takeSocketAddress4? text)).or (whole? (takeSocketAddress6? text))

def digitsOfValue (radix count value : Nat) : List Nat :=
  match count with
  | 0 => []
  | count + 1 => digitsOfValue radix count (value / radix) ++ [value % radix]

def writeIpv4 (number : Nat) : String :=
  ".".intercalate ((digitsOfValue 256 4 number).map toString)

def zeroRun (groups : List Nat) : Nat :=
  (groups.takeWhile (· = 0)).length

def longestZeroRun : (start : Nat) → List Nat → Nat × Nat
  | _, [] => (0, 0)
  | start, group :: rest =>
    let here := zeroRun (group :: rest)
    let (later, length) := longestZeroRun (start + 1) rest
    if length ≤ here then (start, here) else (later, length)

def writeGroups (groups : List Nat) : String :=
  ":".intercalate (groups.map fun group => String.ofList (Nat.toDigits 16 group))

def writeIpv6 (number : Nat) : String :=
  if number / UInt32.size = 0xffff then
    "::ffff:" ++ writeIpv4 (number % UInt32.size)
  else
    let groups := digitsOfValue 65536 8 number
    let (start, length) := longestZeroRun 0 groups
    if length ≤ 1 then writeGroups groups
    else writeGroups (groups.take start) ++ "::" ++ writeGroups (groups.drop (start + length))

instance : ToString IpAddress where
  toString
    | .v4 number => writeIpv4 number.toNat
    | .v6 number => writeIpv6 number.toNat

instance : ToString SocketAddress where
  toString address :=
    let zone := if address.zone = 0 then "" else "%" ++ toString address.zone
    match address.ip with
    | .v4 _ => toString address.ip ++ ":" ++ toString address.port
    | .v6 _ => "[" ++ toString address.ip ++ zone ++ "]:" ++ toString address.port

end Courier

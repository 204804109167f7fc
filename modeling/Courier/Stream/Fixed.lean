import Courier.Identity
import Courier.Text.Digits

namespace Courier

/-! Fields of fixed width. A number is held as its bits and written least significant byte first;
a truth value and a character accept only some of the bit patterns of their width. -/

inductive NumberType where
  | u8 | u16 | u32 | u64 | u128 | usize
  | i8 | i16 | i32 | i64 | i128 | isize
  | f32 | f64
deriving DecidableEq, Repr

def NumberType.size : NumberType → Nat
  | .u8 | .i8 => 1
  | .u16 | .i16 => 2
  | .u32 | .i32 | .f32 => 4
  | .u64 | .i64 | .f64 | .usize | .isize => 8
  | .u128 | .i128 => 16

def NumberType.all : List NumberType :=
  [.u8, .u16, .u32, .u64, .u128, .usize, .i8, .i16, .i32, .i64, .i128, .isize, .f32, .f64]

def NumberType.name : NumberType → String
  | .u8 => "u8"
  | .u16 => "u16"
  | .u32 => "u32"
  | .u64 => "u64"
  | .u128 => "u128"
  | .usize => "usize"
  | .i8 => "i8"
  | .i16 => "i16"
  | .i32 => "i32"
  | .i64 => "i64"
  | .i128 => "i128"
  | .isize => "isize"
  | .f32 => "f32"
  | .f64 => "f64"

inductive FixedType where
  | number (type : NumberType)
  | bool
  | char
  | packetId
  | userId
  | array (item : FixedType) (length : Nat)
deriving DecidableEq, Repr

namespace FixedType

/-- Every value of a type takes the same number of bytes. -/
def size : FixedType → Nat
  | .number type => type.size
  | .bool => 1
  | .char => 4
  | .packetId => 1
  | .userId => 2
  | .array item length => item.size * length

def name : FixedType → String
  | .number type => type.name
  | .bool => "bool"
  | .char => "char"
  | .packetId => "PacketId"
  | .userId => "UserId"
  | .array item length => "[" ++ item.name ++ "; " ++ toString length ++ "]"

def scalars : List FixedType :=
  [.bool, .char, .packetId, .userId] ++ NumberType.all.map .number

def lengthOf? (part : String) : Option Nat :=
  match Text.takeDigits 10 part.toList with
  | (digits, [']']) => some (Text.valueOfDigits 10 digits)
  | _ => none

def ofName? (name : String) : Option FixedType := do
  let opened := name.toList.takeWhile (· = '[')
  match (String.ofList (name.toList.drop opened.length)).splitOn "; " with
  | [] => none
  | scalar :: lengths =>
    if lengths.length ≠ opened.length then none
    else (← lengths.mapM lengthOf?).foldl array <$> scalars.find? (·.name = scalar)

@[reducible] def Value : FixedType → Type
  | .number type => BitVec (8 * type.size)
  | .bool => Bool
  | .char => Char
  | .packetId => PacketId
  | .userId => UserId
  | .array item length => Vector item.Value length

def encode : (type : FixedType) → type.Value → Bytes
  | .number type, bits => LittleEndian.encode type.size bits.toNat
  | .bool, value => [if value then 1 else 0]
  | .char, value => LittleEndian.encode 4 value.toNat
  | .packetId, id => [id.byte]
  | .userId, user => LittleEndian.encode 2 user.index
  | .array item _, values => values.toList.flatMap item.encode

/-- Decoding is given exactly the bytes of one value. The items of an array are decoded one by one
from their own slices, and one bad item spoils the array. -/
def decodeItems? (size : Nat) (decode? : Bytes → Option α) :
    (length : Nat) → Bytes → Option (Vector α length)
  | 0, _ => some #v[]
  | length + 1, bytes => do
    let items ← decodeItems? size decode? length bytes
    let item ← decode? ((bytes.drop (size * length)).take size)
    return items.push item

def decodeBool? : Bytes → Option Bool
  | [0] => some false
  | [1] => some true
  | _ => none

def decodeChar? (bytes : Bytes) : Option Char :=
  let code := LittleEndian.decode bytes
  if code.isValidChar then some (Char.ofNat code) else none

def decode? : (type : FixedType) → Bytes → Option type.Value
  | .number type, bytes => some (BitVec.ofNat (8 * type.size) (LittleEndian.decode bytes))
  | .bool, bytes => decodeBool? bytes
  | .char, bytes => decodeChar? bytes
  | .packetId, bytes => some ⟨UInt8.ofNat (LittleEndian.decode bytes)⟩
  | .userId, bytes => some (UserId.ofIndex (LittleEndian.decode bytes))
  | .array item length, bytes => decodeItems? item.size item.decode? length bytes

theorem length_flatMap_of_forall {encode : α → Bytes} {size : Nat}
    (width : ∀ value, (encode value).length = size) (values : List α) :
    (values.flatMap encode).length = size * values.length := by
  induction values with
  | nil => rfl
  | cons value rest ih =>
    simp only [List.flatMap_cons, List.length_append, List.length_cons, width, ih, Nat.mul_succ]
    omega

@[simp] theorem length_encode : (type : FixedType) → (value : type.Value) →
    (type.encode value).length = type.size
  | .number type, value => by simp [encode, size]
  | .bool, value => rfl
  | .char, value => by simp [encode, size]
  | .packetId, value => rfl
  | .userId, value => by simp [encode, size]
  | .array item length, values => by
    simp [encode, size, length_flatMap_of_forall (length_encode item)]

theorem decodeItems?_encode {encode : α → Bytes} {decode? : Bytes → Option α} {size : Nat}
    (width : ∀ value, (encode value).length = size)
    (reads : ∀ value, decode? (encode value) = some value) :
    ∀ {length : Nat} (values : Vector α length) (rest : Bytes),
      decodeItems? size decode? length (values.toList.flatMap encode ++ rest) = some values
  | 0, values, rest => by
    simp [decodeItems?, Vector.eq_empty]
  | length + 1, values, rest => by
    obtain ⟨front, last, rfl⟩ : ∃ front last, values = Vector.push front last :=
      ⟨values.pop, values.back, by simp⟩
    have offset : (front.toList.flatMap encode).length = size * length := by
      simp [length_flatMap_of_forall width]
    rw [decodeItems?, Vector.toList_push, List.flatMap_append, List.append_assoc,
      decodeItems?_encode width reads front]
    have slice : ((front.toList.flatMap encode ++ (encode last ++ rest)).drop
        (size * length)).take size = encode last := by
      rw [← offset, List.drop_left, ← width last, List.take_left]
    simp [slice, reads]

theorem decode?_encode : (type : FixedType) → (value : type.Value) →
    type.decode? (type.encode value) = some value
  | .number type, value => by
    have bound : value.toNat < 256 ^ type.size := by
      have := value.isLt
      rwa [Nat.pow_mul] at this
    simp [decode?, encode, LittleEndian.decode_encode_of_lt bound]
  | .bool, value => by cases value <;> rfl
  | .char, value => by
    have valid : value.toNat.isValidChar := value.valid
    have bound : value.toNat < 256 ^ 4 := by
      simp only [Nat.isValidChar] at valid
      omega
    simp [decode?, decodeChar?, encode, LittleEndian.decode_encode_of_lt bound, valid]
  | .packetId, value => by
    simp [decode?, encode, LittleEndian.decode]
  | .userId, value => by
    have bound : value.index < 256 ^ 2 := value.index_lt
    simp [decode?, encode, LittleEndian.decode_encode_of_lt bound]
  | .array item length, values => by
    simpa [decode?, encode] using
      decodeItems?_encode (length_encode item) (decode?_encode item) values []

theorem encode_of_decodeItems? {encode : α → Bytes} {decode? : Bytes → Option α} {size : Nat}
    (writes : ∀ {bytes value}, bytes.length = size → decode? bytes = some value →
      encode value = bytes) :
    ∀ {length : Nat} {bytes : Bytes} {values : Vector α length}, size * length ≤ bytes.length →
      decodeItems? size decode? length bytes = some values →
      values.toList.flatMap encode = bytes.take (size * length)
  | 0, bytes, values, _, _ => by
    simp [Vector.eq_empty]
  | length + 1, bytes, values, enough, read => by
    simp only [decodeItems?, Option.bind_eq_bind, Option.bind_eq_some_iff, Option.pure_def,
      Option.some.injEq] at read
    obtain ⟨front, frontRead, last, lastRead, rfl⟩ := read
    have enoughFront : size * length ≤ bytes.length := by
      rw [Nat.mul_succ] at enough
      omega
    have frontWritten := encode_of_decodeItems? writes enoughFront frontRead
    have enoughLast : ((bytes.drop (size * length)).take size).length = size := by
      rw [Nat.mul_succ] at enough
      simp only [List.length_take, List.length_drop]
      omega
    have lastWritten := writes enoughLast lastRead
    rw [Vector.toList_push, List.flatMap_append, frontWritten, Nat.mul_succ, List.take_add]
    simp [lastWritten]

theorem encode_of_decode? : (type : FixedType) → {bytes : Bytes} → {value : type.Value} →
    bytes.length = type.size → type.decode? bytes = some value → type.encode value = bytes
  | .number type, bytes, value, width, read => by
    simp only [decode?, Option.some.injEq] at read
    subst read
    have bound : LittleEndian.decode bytes < 2 ^ (8 * type.size) := by
      have := LittleEndian.decode_lt bytes
      rw [width] at this
      rwa [Nat.pow_mul]
    have exact := LittleEndian.encode_decode bytes
    rw [width, size] at exact
    simpa [encode, Nat.mod_eq_of_lt bound] using exact
  | .bool, bytes, value, _, read => by
    simp only [decode?] at read
    unfold decodeBool? at read
    split at read <;> cases read <;> rfl
  | .char, bytes, value, width, read => by
    simp only [decode?, decodeChar?] at read
    split at read
    · rename_i valid
      cases read
      have exact := LittleEndian.encode_decode bytes
      rw [width, size] at exact
      have code : (Char.ofNat (LittleEndian.decode bytes)).toNat = LittleEndian.decode bytes := by
        rw [Char.ofNat, dif_pos valid]
        rfl
      simpa only [encode, code] using exact
    · cases read
  | .packetId, bytes, value, width, read => by
    simp only [decode?, Option.some.injEq] at read
    subst read
    obtain ⟨byte, rfl⟩ := List.length_eq_one_iff.mp width
    simp [encode, LittleEndian.decode]
  | .userId, bytes, value, width, read => by
    simp only [decode?, Option.some.injEq] at read
    subst read
    have bound := LittleEndian.decode_lt bytes
    have exact := LittleEndian.encode_decode bytes
    rw [width] at bound exact
    simpa [encode, size, UserId.index_ofIndex bound] using exact
  | .array item length, bytes, values, width, read => by
    have written := encode_of_decodeItems? (encode_of_decode? item) (by simp [width, size]) read
    have whole : item.size * length = bytes.length := by simp [width, size]
    simpa [encode, whole] using written

end FixedType

end Courier

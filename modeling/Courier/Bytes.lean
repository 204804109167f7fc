namespace Courier

abbrev Bytes := List UInt8

namespace LittleEndian

def encode : Nat → Nat → Bytes
  | 0, _ => []
  | width + 1, value => UInt8.ofNat value :: encode width (value / 256)

def decode : Bytes → Nat
  | [] => 0
  | byte :: rest => byte.toNat + 256 * decode rest

@[simp] theorem length_encode (width value : Nat) : (encode width value).length = width := by
  induction width generalizing value with
  | zero => rfl
  | succ width ih => simp [encode, ih]

theorem decode_encode (width value : Nat) :
    decode (encode width value) = value % Nat.pow 256 width := by
  induction width generalizing value with
  | zero => simp [encode, decode, Nat.mod_one]
  | succ width ih =>
    have grown : Nat.pow 256 (width + 1) = 256 * Nat.pow 256 width := Nat.mul_comm _ _
    rw [encode, decode, ih, grown, Nat.mod_mul]
    simp

theorem decode_encode_of_lt {width value : Nat} (bound : value < Nat.pow 256 width) :
    decode (encode width value) = value := by
  rw [decode_encode, Nat.mod_eq_of_lt bound]

theorem decode_lt (bytes : Bytes) : decode bytes < Nat.pow 256 bytes.length := by
  induction bytes with
  | nil => simp [decode]
  | cons byte rest ih =>
    have := byte.toNat_lt
    have grown : Nat.pow 256 (rest.length + 1) = 256 * Nat.pow 256 rest.length :=
      Nat.mul_comm _ _
    simp only [decode, List.length_cons]
    omega

theorem encode_decode (bytes : Bytes) : encode bytes.length (decode bytes) = bytes := by
  induction bytes with
  | nil => rfl
  | cons byte rest ih =>
    have bound := byte.toNat_lt
    have low : UInt8.ofNat (byte.toNat + 256 * decode rest) = byte := by
      apply UInt8.toNat_inj.mp
      simp only [UInt8.toNat_ofNat']
      omega
    have high : (byte.toNat + 256 * decode rest) / 256 = decode rest := by omega
    simp [encode, decode, low, high, ih]

end LittleEndian

def Bytes.ofText (text : String) : Bytes :=
  text.toUTF8.data.toList

def Bytes.toText? (bytes : Bytes) : Option String :=
  String.fromUTF8? ⟨bytes.toArray⟩

@[simp] theorem Bytes.toText?_ofText (text : String) :
    Bytes.toText? (Bytes.ofText text) = some text := by
  simp [Bytes.toText?, Bytes.ofText, String.fromUTF8?, String.fromUTF8, String.toUTF8,
    text.isValidUTF8]

theorem Bytes.ofText_of_toText? {bytes : Bytes} {text : String}
    (read : Bytes.toText? bytes = some text) : Bytes.ofText text = bytes := by
  simp only [Bytes.toText?, String.fromUTF8?] at read
  split at read
  · cases read
    simp [Bytes.ofText, String.fromUTF8, String.toUTF8]
  · cases read

end Courier

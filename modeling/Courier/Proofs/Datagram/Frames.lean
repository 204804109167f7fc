import Courier.Datagram.Frame

namespace Courier.Datagram.Frame

/-! Frames and the datagrams that are frames are one and the same. -/

/-- Bytes that are no frame: none at all, a kind that does not exist, a greeting that has not one
byte behind it, a farewell with anything behind it, and data whose header is not complete. -/
def Malformed : Bytes → Prop
  | [] => True
  | kind :: body =>
    kind ∉ [1, 2, 3, 4] ∨ kind ∈ [1, 2] ∧ body.length ≠ 1 ∨ kind = 3 ∧ body ≠ [] ∨
      kind = 4 ∧ body.length + 1 < headerLength

theorem decode?_of_unknown {kind : UInt8} (unknown : kind ∉ [1, 2, 3, 4]) (body : Bytes) :
    decode? (kind :: body) = none := by
  -- Only a kind that is a numeral reduces.
  obtain ⟨⟨⟨code, bound⟩⟩⟩ := kind
  match code with
  | 0 => rfl
  | 1 => exact absurd (.head _) unknown
  | 2 => exact absurd (.tail _ (.head _)) unknown
  | 3 => exact absurd (.tail _ (.tail _ (.head _))) unknown
  | 4 => exact absurd (.tail _ (.tail _ (.tail _ (.head _)))) unknown
  | _ + 5 => rfl

theorem decode?_greeting {kind : UInt8} (greeting : kind ∈ [1, 2]) {body : Bytes}
    (misfit : body.length ≠ 1) : decode? (kind :: body) = none := by
  simp only [List.mem_cons, List.not_mem_nil, or_false] at greeting
  match body with
  | [] => obtain rfl | rfl := greeting <;> rfl
  | [channels] => exact absurd rfl misfit
  | channels :: extra :: more => obtain rfl | rfl := greeting <;> rfl

theorem decode?_farewell {body : Bytes} (surplus : body ≠ []) : decode? (3 :: body) = none := by
  cases body with
  | nil => exact absurd rfl surplus
  | cons extra more => rfl

theorem decode?_header {body : Bytes} (short : body.length + 1 < headerLength) :
    decode? (4 :: body) = none := by
  match body with
  | [] | [_] | [_, _] | [_, _, _] | [_, _, _, _] => rfl
  | channel :: a :: b :: c :: d :: payload =>
    simp only [List.length_cons, headerLength] at short
    omega

theorem decode?_of_malformed {datagram : Bytes} (malformed : Malformed datagram) :
    decode? datagram = none := by
  cases datagram with
  | nil => rfl
  | cons kind body =>
      obtain unknown | ⟨greeting, misfit⟩ | ⟨rfl, surplus⟩ | ⟨rfl, short⟩ := malformed
      · exact decode?_of_unknown unknown body
      · exact decode?_greeting greeting misfit
      · exact decode?_farewell surplus
      · exact decode?_header short

theorem encode_decode_flags (a b c d : UInt8) :
    LittleEndian.encode 4 (UInt32.ofNat (LittleEndian.decode [a, b, c, d])).toNat =
      [a, b, c, d] := by
  have bound : LittleEndian.decode [a, b, c, d] < UInt32.size := by
    calc
      _ < Nat.pow 256 4 := LittleEndian.decode_lt [a, b, c, d]
      _ = UInt32.size := by decide
  rw [UInt32.toNat_ofNat_of_lt' bound]
  exact LittleEndian.encode_decode [a, b, c, d]

theorem exists_encode_of_not_malformed {datagram : Bytes} (sound : ¬ Malformed datagram) :
    ∃ frame : Frame, frame.encode = datagram := by
  cases datagram with
  | nil => exact absurd trivial sound
  | cons kind body =>
      simp only [Malformed, not_or, not_and, Decidable.not_not, Nat.not_lt] at sound
      obtain ⟨known, greeting, farewell, header⟩ := sound
      simp only [List.mem_cons, List.not_mem_nil, or_false] at known greeting
      obtain rfl | rfl | rfl | rfl := known
      · obtain ⟨channels, rfl⟩ := List.length_eq_one_iff.mp (greeting (.inl rfl))
        exact ⟨.connect channels, rfl⟩
      · obtain ⟨channels, rfl⟩ := List.length_eq_one_iff.mp (greeting (.inr rfl))
        exact ⟨.accept channels, rfl⟩
      · obtain rfl := farewell rfl
        exact ⟨.disconnect, rfl⟩
      · have enough := header rfl
        match body with
        | channel :: a :: b :: c :: d :: payload =>
          refine ⟨.data channel ⟨UInt32.ofNat (LittleEndian.decode [a, b, c, d])⟩ payload, ?_⟩
          rw [encode, encode_decode_flags]
          rfl
        | [] | [_] | [_, _] | [_, _, _] | [_, _, _, _] => simp [headerLength] at enough

theorem decode?_eq_none_iff_malformed (datagram : Bytes) :
    decode? datagram = none ↔ Malformed datagram := by
  constructor
  · intro refused
    apply Classical.byContradiction
    intro sound
    obtain ⟨frame, rfl⟩ := exists_encode_of_not_malformed sound
    rw [decode?_encode] at refused
    cases refused
  · exact decode?_of_malformed

theorem decode?_eq_some_iff (datagram : Bytes) (frame : Frame) :
    decode? datagram = some frame ↔ frame.encode = datagram := by
  constructor
  · intro read
    have sound : ¬ Malformed datagram := by
      rw [← decode?_eq_none_iff_malformed, read]
      exact Option.some_ne_none frame
    obtain ⟨sent, rfl⟩ := exists_encode_of_not_malformed sound
    rw [decode?_encode] at read
    cases read
    rfl
  · rintro rfl
    exact decode?_encode frame

/-- A datagram is read as the frame that is written so, whichever frame it is, and as no other. It
is refused exactly if no frame is written so, which is exactly if it is malformed. -/
theorem decode?_iff_encode (datagram : Bytes) :
    (∀ frame, decode? datagram = some frame ↔ frame.encode = datagram) ∧
      (decode? datagram = none ↔ ∀ frame : Frame, frame.encode ≠ datagram) ∧
      (decode? datagram = none ↔ Malformed datagram) := by
  refine ⟨decode?_eq_some_iff datagram, ?_, decode?_eq_none_iff_malformed datagram⟩
  rw [Option.eq_none_iff_forall_ne_some]
  exact forall_congr' fun frame => not_congr (decode?_eq_some_iff datagram frame)

end Courier.Datagram.Frame

import Courier.Proofs.Stream.Fields

namespace Courier

/-! How many bytes a value is read from. Bytes and text are counted: their length stands in front
of them. -/

def FieldType.Counted : FieldType → Prop
  | .fixed _ => False
  | .bytes | .text => True

def FieldType.width : (type : FieldType) → type.Value → Nat
  | .fixed type, _ => type.size
  | .bytes, value => 8 + value.length
  | .text, value => 8 + (Bytes.ofText value).length

theorem Writer.length_lengthPrefixed (bytes : Bytes) :
    (lengthPrefixed bytes).length = 8 + bytes.length := by
  rw [lengthPrefixed, List.length_append, LittleEndian.length_encode]

theorem Field.length_form (field : Field) :
    field.form.length = field.type.width field.value := by
  obtain ⟨type, value⟩ := field
  cases type with
  | fixed type => exact type.length_encode value
  | bytes => exact Writer.length_lengthPrefixed value
  | text => exact Writer.length_lengthPrefixed (Bytes.ofText value)

namespace Reader

theorem remaining_advance (reader : Reader) (count : Nat) :
    (reader.advance count).remaining = reader.remaining - count :=
  Nat.sub_add_eq reader.bytes.length reader.position count

theorem peek_of_lt {reader : Reader} {count : Nat} (short : reader.remaining < count) :
    reader.peek count = .error (.outOfBounds reader.position count reader.remaining) :=
  if_neg (Nat.not_le_of_lt short)

theorem peek_of_le {reader : Reader} {count : Nat} (enough : count ≤ reader.remaining) :
    reader.peek count = .ok (reader.rest.take count) :=
  if_pos enough

theorem read_of_lt (type : FixedType) {reader : Reader} (short : reader.remaining < type.size) :
    read type reader = .error (.outOfBounds reader.position type.size reader.remaining) reader := by
  rw [read, peek_of_lt short]

theorem read_of_le (type : FixedType) {reader : Reader} (enough : type.size ≤ reader.remaining) :
    read type reader =
      match type.decode? (reader.rest.take type.size) with
      | none => .error (.invalidValue type.name reader.position) reader
      | some value => .ok value (reader.advance type.size) := by
  cases decoded : type.decode? (reader.rest.take type.size) with
  | none => simp only [read, peek_of_le enough, decoded]
  | some value => simp only [read, peek_of_le enough, decoded]

/-- The length that the next eight bytes tell. -/
def announced (reader : Reader) : Nat :=
  LittleEndian.decode (reader.rest.take 8)

theorem announced_lt (reader : Reader) : reader.announced < UInt64.size := by
  have bound := LittleEndian.decode_lt (reader.rest.take 8)
  have short : (reader.rest.take 8).length ≤ 8 := List.length_take_le 8 reader.rest
  exact Nat.lt_of_lt_of_le bound (Nat.pow_le_pow_right (by decide) short)

theorem read_usize_of_le {reader : Reader} (enough : 8 ≤ reader.remaining) :
    ∃ count : (FixedType.number .usize).Value, count.toNat = reader.announced ∧
      read (.number .usize) reader = .ok count (reader.advance 8) :=
  ⟨BitVec.ofNat _ reader.announced,
    (BitVec.toNat_ofNat _ _).trans (Nat.mod_eq_of_lt reader.announced_lt),
    read_of_le (.number .usize) enough⟩

theorem readBytes_eq (reader : Reader) :
    readBytes reader =
      if reader.remaining < 8 then
        .error (.outOfBounds reader.position 8 reader.remaining) reader
      else if reader.remaining - 8 < reader.announced then
        .error (.outOfBounds (reader.position + 8) reader.announced (reader.remaining - 8)) reader
      else
        .ok ((reader.rest.drop 8).take reader.announced)
          (reader.advance (8 + reader.announced)) := by
  by_cases short : reader.remaining < 8
  · rw [if_pos short, readBytes, read_of_lt (.number .usize) short]
    rfl
  · have enough : 8 ≤ reader.remaining := Nat.le_of_not_lt short
    obtain ⟨count, told, counted⟩ := read_usize_of_le enough
    simp only [if_neg short, readBytes, counted, told]
    by_cases shortBody : reader.remaining - 8 < reader.announced
    · have lacking : (reader.advance 8).remaining < reader.announced := by
        rwa [remaining_advance]
      rw [if_pos shortBody, peek_of_lt lacking, remaining_advance]
      rfl
    · have there : reader.announced ≤ (reader.advance 8).remaining := by
        rw [remaining_advance]
        exact Nat.le_of_not_lt shortBody
      rw [if_neg shortBody, peek_of_le there, rest_advance, advance_advance]

theorem readText_of_error {reader after : Reader} {error : StreamError}
    (failed : readBytes reader = .error error after) : readText reader = .error error reader := by
  rw [readText, failed]

theorem readText_of_ok {reader after : Reader} {bytes : Bytes}
    (got : readBytes reader = .ok bytes after) :
    readText reader =
      match Bytes.toText? bytes with
      | none => .error (.invalidText reader.position) reader
      | some text => .ok text after := by
  cases decoded : Bytes.toText? bytes with
  | none => simp only [readText, got, decoded]
  | some text => simp only [readText, got, decoded]

theorem eq_of_read_eq_error {type : FixedType} {reader after : Reader} {error : StreamError}
    (failed : read type reader = .error error after) : after = reader := by
  by_cases short : reader.remaining < type.size
  · rw [read_of_lt type short] at failed
    cases failed
    rfl
  · rw [read_of_le type (Nat.le_of_not_lt short)] at failed
    split at failed
    · cases failed
      rfl
    · cases failed

theorem eq_of_readBytes_eq_error {reader after : Reader} {error : StreamError}
    (failed : readBytes reader = .error error after) : after = reader := by
  rw [readBytes_eq] at failed
  split at failed
  · cases failed
    rfl
  · split at failed
    · cases failed
      rfl
    · cases failed

theorem eq_of_readText_eq_error {reader after : Reader} {error : StreamError}
    (failed : readText reader = .error error after) : after = reader := by
  cases got : readBytes reader with
  | error cause left =>
      rw [readText_of_error got] at failed
      cases failed
      rfl
  | ok bytes left =>
      rw [readText_of_ok got] at failed
      split at failed
      · cases failed
        rfl
      · cases failed

theorem eq_of_take_eq_error {type : FieldType} {reader after : Reader} {error : StreamError}
    (failed : take type reader = .error error after) : after = reader := by
  cases type with
  | fixed type => exact eq_of_read_eq_error failed
  | bytes => exact eq_of_readBytes_eq_error failed
  | text => exact eq_of_readText_eq_error failed

theorem of_take_eq_ok {type : FieldType} {reader after : Reader} {value : type.Value}
    (taken : take type reader = .ok value after) :
    Field.form ⟨type, value⟩ <+: reader.rest ∧ after = reader.advance (type.width value) := by
  obtain ⟨_, ⟨-, rfl⟩, begins, rfl⟩ := (parses_take type reader value after).mp taken
  refine ⟨begins, ?_⟩
  rw [Field.length_form]

theorem width_le_of_take_eq_ok {type : FieldType} {reader after : Reader} {value : type.Value}
    (taken : take type reader = .ok value after) : type.width value ≤ reader.remaining := by
  have begins := (of_take_eq_ok taken).1.length_le
  rwa [Field.length_form, length_rest] at begins

/-- A read asks for the bytes of a value, or for those of a length and then for as many as the
length tells: at a position, so many, where so many are left. -/
inductive Demands (reader : Reader) : FieldType → (position requested available : Nat) → Prop where
  | value (type : FixedType) :
      reader.Demands (.fixed type) reader.position type.size reader.remaining
  | length {type : FieldType} (counted : type.Counted) :
      reader.Demands type reader.position 8 reader.remaining
  | body {type : FieldType} (counted : type.Counted) (told : 8 ≤ reader.remaining) :
      reader.Demands type (reader.position + 8) reader.announced (reader.remaining - 8)

theorem read_eq_outOfBounds_iff (type : FixedType) (reader : Reader)
    (position requested available : Nat) :
    read type reader = .error (.outOfBounds position requested available) reader ↔
      reader.Demands (.fixed type) position requested available ∧ available < requested := by
  by_cases short : reader.remaining < type.size
  · rw [read_of_lt type short]
    constructor
    · intro failed
      cases failed
      exact ⟨.value type, short⟩
    · rintro ⟨demand, -⟩
      cases demand with
      | value => rfl
      | length counted => exact counted.elim
      | body counted => exact counted.elim
  · rw [read_of_le type (Nat.le_of_not_lt short)]
    constructor
    · intro failed
      split at failed
      · cases failed
      · cases failed
    · rintro ⟨demand, lacking⟩
      cases demand with
      | value => exact absurd lacking short
      | length counted => exact counted.elim
      | body counted => exact counted.elim

theorem readBytes_eq_outOfBounds_iff (type : FieldType) (counted : type.Counted)
    (reader : Reader) (position requested available : Nat) :
    readBytes reader = .error (.outOfBounds position requested available) reader ↔
      reader.Demands type position requested available ∧ available < requested := by
  rw [readBytes_eq]
  by_cases short : reader.remaining < 8
  · rw [if_pos short]
    constructor
    · intro failed
      cases failed
      exact ⟨.length counted, short⟩
    · rintro ⟨demand, -⟩
      cases demand with
      | value => exact counted.elim
      | length => rfl
      | body _ told => exact absurd short (Nat.not_lt_of_le told)
  · have told : 8 ≤ reader.remaining := Nat.le_of_not_lt short
    rw [if_neg short]
    constructor
    · intro failed
      split at failed
      · next shortBody =>
        cases failed
        exact ⟨.body counted told, shortBody⟩
      · cases failed
    · rintro ⟨demand, lacking⟩
      cases demand with
      | value => exact counted.elim
      | length => exact absurd lacking short
      | body => rw [if_pos lacking]

theorem readText_eq_outOfBounds_iff (reader : Reader) (position requested available : Nat) :
    readText reader = .error (.outOfBounds position requested available) reader ↔
      readBytes reader = .error (.outOfBounds position requested available) reader := by
  cases got : readBytes reader with
  | error error after =>
      cases eq_of_readBytes_eq_error got
      rw [readText_of_error got]
      constructor
      · intro failed
        cases failed
        rfl
      · intro failed
        cases failed
        rfl
  | ok bytes after =>
      rw [readText_of_ok got]
      constructor
      · intro failed
        split at failed
        · cases failed
        · cases failed
      · intro failed
        cases failed

theorem take_eq_outOfBounds_iff (type : FieldType) (reader : Reader)
    (position requested available : Nat) :
    take type reader = .error (.outOfBounds position requested available) reader ↔
      reader.Demands type position requested available ∧ available < requested := by
  cases type with
  | fixed type => exact read_eq_outOfBounds_iff type reader position requested available
  | bytes =>
      exact readBytes_eq_outOfBounds_iff .bytes trivial reader position requested available
  | text =>
      change readText reader = _ ↔ _
      rw [readText_eq_outOfBounds_iff]
      exact readBytes_eq_outOfBounds_iff .text trivial reader position requested available

end Reader

end Courier

import Courier.Proofs.Stream.Bounds

namespace Courier

/-! Arithmetic as a machine does it. A number that is no word, a difference below zero and a slice
that is not inside its bytes are faults. -/

def word? (number : Nat) : Option Nat :=
  if number < UInt64.size then some number else none

def difference? (whole part : Nat) : Option Nat :=
  if part ≤ whole then some (whole - part) else none

def Bytes.slice? (bytes : Bytes) (start stop : Nat) : Option Bytes :=
  if start ≤ stop ∧ stop ≤ bytes.length then some ((bytes.drop start).take (stop - start)) else none

theorem word?_of_lt {number : Nat} (bound : number < UInt64.size) : word? number = some number :=
  if_pos bound

theorem difference?_of_le {whole part : Nat} (inside : part ≤ whole) :
    difference? whole part = some (whole - part) :=
  if_pos inside

theorem Bytes.slice?_add {bytes : Bytes} {start count : Nat}
    (inside : start + count ≤ bytes.length) :
    bytes.slice? start (start + count) = some ((bytes.drop start).take count) := by
  rw [slice?, if_pos ⟨Nat.le_add_right start count, inside⟩, Nat.add_sub_cancel_left]

namespace FixedType

/-- Decoding that slices the items of an array out of its bytes. A fault is told apart from bytes
that are no value. -/
def sliceItems (size : Nat) (decode : Bytes → Option (Option α)) :
    (length : Nat) → Bytes → Option (Option (Vector α length))
  | 0, _ => some (some #v[])
  | length + 1, bytes => do
    let some items ← sliceItems size decode length bytes | return none
    let start ← word? (size * length)
    let stop ← word? (size * (length + 1))
    let some item ← decode (← bytes.slice? start stop) | return none
    return some (items.push item)

def sliceDecode : (type : FixedType) → Bytes → Option (Option type.Value)
  | .array item length, bytes => sliceItems item.size item.sliceDecode length bytes
  | type, bytes => some (type.decode? bytes)

theorem sliceItems_eq {decode : Bytes → Option (Option α)} {decode? : Bytes → Option α}
    {size : Nat}
    (decodes : ∀ slice : Bytes, slice.length = size → slice.length < UInt64.size →
      decode slice = some (decode? slice))
    {bytes : Bytes} (fits : bytes.length < UInt64.size) {length : Nat}
    (enough : size * length ≤ bytes.length) :
    sliceItems size decode length bytes = some (decodeItems? size decode? length bytes) := by
  induction length with
  | zero => rfl
  | succ length ih =>
      have whole : size * (length + 1) = size * length + size := Nat.mul_succ size length
      rw [whole] at enough
      have slice : ((bytes.drop (size * length)).take size).length = size := by
        simp only [List.length_take, List.length_drop]
        omega
      rw [sliceItems, decodeItems?, ih (by omega)]
      cases decodeItems? size decode? length bytes with
      | none => rfl
      | some items =>
          have start : word? (size * length) = some (size * length) := word?_of_lt (by omega)
          have stop : word? (size * (length + 1)) = some (size * length + size) := by
            rw [whole]
            exact word?_of_lt (by omega)
          simp only [Option.bind_eq_bind, Option.bind_some, start, stop, Bytes.slice?_add enough,
            decodes _ slice (by omega)]
          cases decode? ((bytes.drop (size * length)).take size) with
          | none => rfl
          | some item => rfl

theorem sliceDecode_eq (type : FixedType) {bytes : Bytes} (width : bytes.length = type.size)
    (fits : bytes.length < UInt64.size) :
    type.sliceDecode bytes = some (type.decode? bytes) := by
  induction type generalizing bytes with
  | array item length ih =>
      have enough : item.size * length ≤ bytes.length := Nat.le_of_eq width.symm
      exact sliceItems_eq (fun _ => ih) fits enough
  | _ => rfl

end FixedType

/-- Reading step by step. Any step may fault, and a step that fails leaves the reader as it got
until then. -/
abbrev Checked := ExceptT StreamError (StateT Reader Option)

namespace Checked

def position : Checked Nat := do
  return (← get).position

def remaining : Checked Nat := do
  let reader ← get
  difference? reader.length reader.position

def peek (count : Nat) : Checked Bytes := do
  let reader ← get
  let available ← remaining
  if available < count then
    throw (.outOfBounds reader.position count available)
  let stop ← word? (reader.position + count)
  reader.bytes.slice? reader.position stop

def advance (count : Nat) : Checked Unit := do
  let reader ← get
  let position ← word? (reader.position + count)
  set { reader with position }

def rewind (position : Nat) : Checked Unit :=
  modify fun reader => { reader with position }

def read (type : FixedType) : Checked type.Value := do
  let bytes ← peek type.size
  match ← (type.sliceDecode bytes : Option _) with
  | none => throw (.invalidValue type.name (← position))
  | some value =>
    advance type.size
    return value

def readBytes : Checked Bytes := do
  let start ← position
  let count ← read (.number .usize)
  try
    let bytes ← peek count.toNat
    advance count.toNat
    pure bytes
  catch error =>
    rewind start
    throw error

def readText : Checked String := do
  let start ← position
  let bytes ← readBytes
  match Bytes.toText? bytes with
  | none =>
    rewind start
    throw (.invalidText start)
  | some text => return text

def take : (type : FieldType) → Checked type.Value
  | .fixed type => read type
  | .bytes => readBytes
  | .text => readText

section Steps

variable (reader : Reader)

theorem bind_eq (action : Checked α) (next : α → Checked β) :
    (action >>= next) reader =
      match action reader with
      | none => none
      | some (.error error, after) => some (.error error, after)
      | some (.ok value, after) => next value after := by
  change Option.bind (action reader) _ = _
  cases action reader with
  | none => rfl
  | some result =>
      obtain ⟨outcome, after⟩ := result
      cases outcome with
      | error error => rfl
      | ok value => rfl

theorem tryCatch_eq (action : Checked α) (handle : StreamError → Checked α) :
    (tryCatch action handle) reader =
      match action reader with
      | none => none
      | some (.error error, after) => handle error after
      | some (.ok value, after) => some (.ok value, after) := by
  change Option.bind (action reader) _ = _
  cases action reader with
  | none => rfl
  | some result =>
      obtain ⟨outcome, after⟩ := result
      cases outcome with
      | error error => rfl
      | ok value => rfl

theorem get_eq : (get : Checked Reader) reader = some (.ok reader, reader) := rfl

theorem set_eq (after : Reader) : (set after : Checked PUnit) reader = some (.ok ⟨⟩, after) := rfl

theorem throw_eq (error : StreamError) :
    (throw error : Checked α) reader = some (.error error, reader) := rfl

theorem pure_eq (value : α) : (pure value : Checked α) reader = some (.ok value, reader) := rfl

theorem lift_eq (value : α) :
    (liftM (some value) : Checked α) reader = some (.ok value, reader) := rfl

theorem rewind_advance (count : Nat) :
    rewind reader.position (reader.advance count) = some (.ok ⟨⟩, reader) := rfl

end Steps

end Checked

/-- A reader that stands inside bytes that fit in memory. -/
structure Reader.Inside (reader : Reader) : Prop where
  position_le : reader.position ≤ reader.length
  length_lt : reader.length < UInt64.size

namespace Reader.Inside

variable {reader : Reader}

theorem ofBytes {bytes : Bytes} (fits : bytes.length < UInt64.size) :
    (Reader.ofBytes bytes).Inside :=
  ⟨Nat.zero_le _, fits⟩

theorem position_add_le (inside : reader.Inside) {count : Nat}
    (enough : count ≤ reader.remaining) : reader.position + count ≤ reader.length := by
  have := inside.position_le
  simp only [remaining, length] at enough this ⊢
  omega

theorem advance (inside : reader.Inside) {count : Nat} (enough : count ≤ reader.remaining) :
    (reader.advance count).Inside :=
  ⟨inside.position_add_le enough, inside.length_lt⟩

theorem word?_position_add (inside : reader.Inside) {count : Nat}
    (enough : count ≤ reader.remaining) :
    word? (reader.position + count) = some (reader.position + count) :=
  word?_of_lt (Nat.lt_of_le_of_lt (inside.position_add_le enough) inside.length_lt)

end Reader.Inside

namespace Checked

variable {reader : Reader}

theorem peek_eq (inside : reader.Inside) (count : Nat) :
    peek count reader = some (reader.peek count, reader) := by
  have available : difference? reader.length reader.position = some reader.remaining :=
    difference?_of_le inside.position_le
  simp only [peek, remaining, bind_eq, get_eq, available, lift_eq]
  by_cases short : reader.remaining < count
  · simp only [if_pos short, throw_eq, Reader.peek_of_lt short, bind_eq]
  · have enough : count ≤ reader.remaining := Nat.le_of_not_lt short
    have stop := inside.word?_position_add enough
    have slice := Bytes.slice?_add (inside.position_add_le enough)
    simp only [if_neg short, stop, lift_eq, slice, bind_eq]
    rw [Reader.peek_of_le enough]
    rfl

theorem advance_eq (inside : reader.Inside) {count : Nat} (enough : count ≤ reader.remaining) :
    advance count reader = some (.ok ⟨⟩, reader.advance count) := by
  simp only [advance, bind_eq, get_eq, inside.word?_position_add enough, lift_eq, set_eq]
  rfl

/-- What an action returns or fails with, and the reader that it leaves. -/
def outcome : EStateM.Result StreamError Reader α → Except StreamError α × Reader
  | .ok value after => (.ok value, after)
  | .error error after => (.error error, after)

theorem read_eq (inside : reader.Inside) (type : FixedType) :
    read type reader = some (outcome (Reader.read type reader)) := by
  simp only [read, bind_eq, peek_eq inside]
  by_cases short : reader.remaining < type.size
  · rw [Reader.peek_of_lt short, Reader.read_of_lt type short]
    rfl
  · have enough : type.size ≤ reader.remaining := Nat.le_of_not_lt short
    have width : (reader.rest.take type.size).length = type.size := by
      rw [List.length_take, Reader.length_rest, Nat.min_eq_left enough]
    have word : (reader.rest.take type.size).length < UInt64.size := by
      have := inside.position_add_le enough
      have := inside.length_lt
      omega
    rw [Reader.peek_of_le enough, Reader.read_of_le type enough]
    simp only [type.sliceDecode_eq width word, lift_eq]
    cases type.decode? (reader.rest.take type.size) with
    | none => rfl
    | some value =>
        simp only [bind_eq, advance_eq inside enough]
        rfl

theorem readBytes_eq (inside : reader.Inside) :
    readBytes reader = some (outcome reader.readBytes) := by
  simp only [readBytes, position, bind_eq, get_eq, pure_eq, read_eq inside]
  by_cases short : reader.remaining < 8
  · rw [Reader.readBytes, Reader.read_of_lt (.number .usize) short]
    rfl
  · have enough : 8 ≤ reader.remaining := Nat.le_of_not_lt short
    obtain ⟨count, told, counted⟩ := Reader.read_usize_of_le enough
    have insideBody : (reader.advance 8).Inside := inside.advance enough
    simp only [Reader.readBytes, counted, outcome, told, tryCatch_eq, bind_eq, peek_eq insideBody]
    by_cases shortBody : (reader.advance 8).remaining < reader.announced
    · simp only [Reader.peek_of_lt shortBody, rewind_advance, throw_eq]
    · have there : reader.announced ≤ (reader.advance 8).remaining := Nat.le_of_not_lt shortBody
      simp only [Reader.peek_of_le there, advance_eq insideBody there, pure_eq]

theorem readText_eq (inside : reader.Inside) :
    readText reader = some (outcome reader.readText) := by
  simp only [readText, position, bind_eq, get_eq, pure_eq, readBytes_eq inside]
  cases got : reader.readBytes with
  | error error after =>
      cases Reader.eq_of_readBytes_eq_error got
      rw [Reader.readText_of_error got]
      rfl
  | ok bytes after =>
      have taken : Reader.take .bytes reader = .ok bytes after := got
      obtain ⟨-, rfl⟩ := Reader.of_take_eq_ok taken
      rw [Reader.readText_of_ok got]
      simp only [outcome]
      cases Bytes.toText? bytes with
      | none => simp only [bind_eq, rewind_advance, throw_eq]
      | some text => rfl

theorem take_eq (inside : reader.Inside) (type : FieldType) :
    take type reader = some (outcome (Reader.take type reader)) := by
  cases type with
  | fixed type => exact read_eq inside type
  | bytes => exact readBytes_eq inside
  | text => exact readText_eq inside

end Checked

end Courier

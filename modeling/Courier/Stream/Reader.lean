import Courier.Stream.Writer

namespace Courier

/-! A reader walks over bytes with a position that only moves forward. A read either consumes
exactly the bytes of the value it returns, or fails and consumes nothing. -/

inductive StreamError where
  | outOfBounds (position requested available : Nat)
  | invalidValue (type : String) (position : Nat)
  | invalidText (position : Nat)
deriving DecidableEq, Repr

def StreamError.message : StreamError → String
  | .outOfBounds position requested available =>
    s!"read of {requested} bytes at offset {position} exceeds buffer " ++
      s!"({available} bytes remaining)"
  | .invalidValue type position => s!"invalid {type} value at offset {position}"
  | .invalidText position => s!"string at offset {position} is not valid UTF-8"

structure Reader where
  bytes : Bytes
  position : Nat := 0
deriving DecidableEq, Repr

namespace Reader

def ofBytes (bytes : Bytes) : Reader :=
  { bytes }

def length (reader : Reader) : Nat :=
  reader.bytes.length

def isEmpty (reader : Reader) : Bool :=
  reader.bytes.isEmpty

/-- The position never passes the end, so nothing is lost in the subtraction. -/
def remaining (reader : Reader) : Nat :=
  reader.bytes.length - reader.position

def rest (reader : Reader) : Bytes :=
  reader.bytes.drop reader.position

def advance (reader : Reader) (count : Nat) : Reader :=
  { reader with position := reader.position + count }

def flush (_ : Reader) : Reader :=
  ofBytes []

/-- The next bytes, if there are that many; the position stays. -/
def peek (reader : Reader) (count : Nat) : Except StreamError Bytes :=
  if count ≤ reader.remaining then
    .ok (reader.rest.take count)
  else
    .error (.outOfBounds reader.position count reader.remaining)

def read (type : FixedType) : EStateM StreamError Reader type.Value := fun reader =>
  match reader.peek type.size with
  | .error error => .error error reader
  | .ok bytes =>
    match type.decode? bytes with
    | none => .error (.invalidValue type.name reader.position) reader
    | some value => .ok value (reader.advance type.size)

/-- On any failure the position is put back before the length. -/
def readBytes : EStateM StreamError Reader Bytes := fun reader =>
  match read (.number .usize) reader with
  | .error error _ => .error error reader
  | .ok count body =>
    match body.peek count.toNat with
    | .error error => .error error reader
    | .ok bytes => .ok bytes (body.advance count.toNat)

def readText : EStateM StreamError Reader String := fun reader =>
  match readBytes reader with
  | .error error _ => .error error reader
  | .ok bytes after =>
    match Bytes.toText? bytes with
    | none => .error (.invalidText reader.position) reader
    | some text => .ok text after

end Reader

end Courier

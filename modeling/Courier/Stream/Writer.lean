import Courier.Stream.Fixed

namespace Courier

/-! A writer only appends. Bytes and text are preceded by their length in bytes, as an eight-byte
number. -/

structure Writer where
  bytes : Bytes := []
deriving DecidableEq, Repr

namespace Writer

def length (writer : Writer) : Nat :=
  writer.bytes.length

def isEmpty (writer : Writer) : Bool :=
  writer.bytes.isEmpty

def append (writer : Writer) (bytes : Bytes) : Writer :=
  ⟨writer.bytes ++ bytes⟩

def write (writer : Writer) (type : FixedType) (value : type.Value) : Writer :=
  writer.append (type.encode value)

def lengthPrefixed (bytes : Bytes) : Bytes :=
  LittleEndian.encode 8 bytes.length ++ bytes

def writeBytes (writer : Writer) (bytes : Bytes) : Writer :=
  writer.append (lengthPrefixed bytes)

def writeText (writer : Writer) (text : String) : Writer :=
  writer.writeBytes (Bytes.ofText text)

def truncate (writer : Writer) (length : Nat) : Writer :=
  ⟨writer.bytes.take length⟩

def flush (_ : Writer) : Writer :=
  ⟨[]⟩

def exchange (writer : Writer) (other : Bytes) : Writer × Bytes :=
  (⟨other⟩, writer.bytes)

@[simp] theorem bytes_append (writer : Writer) (bytes : Bytes) :
    (writer.append bytes).bytes = writer.bytes ++ bytes := rfl

@[simp] theorem bytes_write (writer : Writer) (type : FixedType) (value : type.Value) :
    (writer.write type value).bytes = writer.bytes ++ type.encode value := rfl

@[simp] theorem bytes_writeBytes (writer : Writer) (bytes : Bytes) :
    (writer.writeBytes bytes).bytes = writer.bytes ++ lengthPrefixed bytes := rfl

@[simp] theorem bytes_writeText (writer : Writer) (text : String) :
    (writer.writeText text).bytes =
      writer.bytes ++ lengthPrefixed (Bytes.ofText text) := rfl

@[simp] theorem bytes_flush (writer : Writer) : writer.flush.bytes = [] := rfl

theorem truncate_append (writer : Writer) (bytes : Bytes) :
    (writer.append bytes).truncate writer.length = writer := by
  simp [truncate, length]

end Writer

end Courier

import Courier.Stream.Reader

namespace Courier

/-! A message is a sequence of fields, each of fixed width, a run of bytes, or text. Fields are
written one after the other and read back by the same types in the same order. -/

inductive FieldType where
  | fixed (type : FixedType)
  | bytes
  | text
deriving DecidableEq, Repr

@[reducible] def FieldType.Value : FieldType → Type
  | .fixed type => type.Value
  | .bytes => Bytes
  | .text => String

structure Field where
  type : FieldType
  value : type.Value

def Writer.put (writer : Writer) : (type : FieldType) → type.Value → Writer
  | .fixed type, value => writer.write type value
  | .bytes, bytes => writer.writeBytes bytes
  | .text, text => writer.writeText text

def Reader.take : (type : FieldType) → EStateM StreamError Reader type.Value
  | .fixed type => Reader.read type
  | .bytes => Reader.readBytes
  | .text => Reader.readText

def Writer.putAll (writer : Writer) (fields : List Field) : Writer :=
  fields.foldl (fun written field => written.put field.type field.value) writer

def Reader.takeAll : List FieldType → EStateM StreamError Reader (List Field)
  | [] => pure []
  | type :: types => do
    let value ← Reader.take type
    let fields ← Reader.takeAll types
    return ⟨type, value⟩ :: fields

end Courier

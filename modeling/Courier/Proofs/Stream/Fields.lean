import Courier.Proofs.Stream.Parses
import Courier.Stream.Field

namespace Courier

namespace Field

/-- The length in front of a run of bytes is a machine word, and no run of bytes that fits in memory
is longer than a word can tell. -/
def Fits : Field → Prop
  | ⟨.fixed _, _⟩ => True
  | ⟨.bytes, bytes⟩ => bytes.length < UInt64.size
  | ⟨.text, text⟩ => (Bytes.ofText text).length < UInt64.size

def form : Field → Bytes
  | ⟨.fixed type, value⟩ => type.encode value
  | ⟨.bytes, bytes⟩ => Writer.lengthPrefixed bytes
  | ⟨.text, text⟩ => Writer.lengthPrefixed (Bytes.ofText text)

end Field

theorem Writer.put_eq_append (writer : Writer) (field : Field) :
    writer.put field.type field.value = writer.append field.form := by
  obtain ⟨type, value⟩ := field
  cases type <;> rfl

theorem Writer.bytes_putAll (writer : Writer) (fields : List Field) :
    (writer.putAll fields).bytes = writer.bytes ++ fields.flatMap Field.form := by
  induction fields generalizing writer with
  | nil => simp [putAll]
  | cons field fields ih =>
      rw [putAll, List.foldl_cons, ← putAll, ih, put_eq_append, bytes_append, List.append_assoc,
        List.flatMap_cons]

namespace Reader

theorem parses_take (type : FieldType) :
    Parses (take type) fun value bytes =>
      Field.Fits ⟨type, value⟩ ∧ Field.form ⟨type, value⟩ = bytes := by
  cases type with
  | fixed type => exact (parses_read type).congr fun _ _ => (and_iff_right trivial).symm
  | bytes => exact parses_readBytes
  | text => exact parses_readText

theorem parses_takeAll (types : List FieldType) :
    Parses (takeAll types) fun fields bytes =>
      fields.map Field.type = types ∧ (∀ field ∈ fields, field.Fits) ∧
        fields.flatMap Field.form = bytes := by
  induction types with
  | nil =>
      apply (Parses.pure []).congr
      intro fields bytes
      constructor
      · rintro ⟨rfl, rfl⟩
        exact ⟨rfl, List.forall_mem_nil _, rfl⟩
      · rintro ⟨noTypes, -, rfl⟩
        cases List.map_eq_nil_iff.mp noTypes
        exact ⟨rfl, rfl⟩
  | cons type types ih =>
      apply ((parses_take type).bind fun value => ih.map (⟨type, value⟩ :: ·)).congr
      intro fields bytes
      constructor
      · rintro ⟨value, _, _, ⟨fits, rfl⟩, ⟨fields, ⟨rfl, allFit, rfl⟩, rfl⟩, rfl⟩
        exact ⟨rfl, List.forall_mem_cons.mpr ⟨fits, allFit⟩, rfl⟩
      · rintro ⟨sameTypes, allFit, rfl⟩
        cases fields with
        | nil => cases sameTypes
        | cons field fields =>
            obtain ⟨own, value⟩ := field
            injection sameTypes with same others
            cases same
            obtain ⟨fits, allFit⟩ := List.forall_mem_cons.mp allFit
            exact ⟨value, _, _, ⟨fits, rfl⟩, ⟨fields, ⟨others, allFit, rfl⟩, rfl⟩, rfl⟩

/-- Fields that fit are read back where they were written, and the reader stops right behind the
last of them. -/
theorem takeAll_putAll_iff (fields : List Field) (writer : Writer) (rest : Bytes) :
    takeAll (fields.map Field.type) ⟨(writer.putAll fields).bytes ++ rest, writer.length⟩ =
        .ok fields ⟨(writer.putAll fields).bytes ++ rest, (writer.putAll fields).length⟩ ↔
      ∀ field ∈ fields, field.Fits := by
  rw [parses_takeAll]
  constructor
  · rintro ⟨_, ⟨-, allFit, -⟩, -⟩
    exact allFit
  · intro allFit
    refine ⟨_, ⟨rfl, allFit, rfl⟩, ?_, ?_⟩
    · rw [Writer.bytes_putAll, Reader.rest, Writer.length, List.append_assoc, List.drop_left]
      exact List.prefix_append _ _
    · rw [Reader.advance, Writer.length, Writer.length, Writer.bytes_putAll, List.length_append]

end Reader

end Courier

import Courier.Proofs.Stream.Fields

namespace Courier

/-! Every value has one written form only: what a read has consumed is what a writer puts down for
the value it returned. -/

/-- The bytes that lie between a reader and where it has got to. -/
def Reader.consumed (reader after : Reader) : Bytes :=
  reader.rest.take (after.position - reader.position)

theorem Reader.consumed_advance {reader : Reader} {bytes : Bytes} (begins : bytes <+: reader.rest) :
    reader.consumed (reader.advance bytes.length) = bytes := by
  rw [consumed, advance, Nat.add_sub_cancel_left]
  exact (List.prefix_iff_eq_take.mp begins).symm

theorem Parses.consumed {action : EStateM ε Reader α} {form : α → Bytes → Prop}
    (parses : Parses action form) {reader after : Reader} {value : α}
    (ran : action reader = .ok value after) :
    form value (reader.consumed after) ∧
      reader.advance (reader.consumed after).length = after := by
  obtain ⟨bytes, written, begins, rfl⟩ := (parses reader value after).mp ran
  rw [Reader.consumed_advance begins]
  exact ⟨written, rfl⟩

namespace Reader

theorem form_eq_consumed {type : FieldType} {reader after : Reader} {value : type.Value}
    (taken : take type reader = .ok value after) :
    Field.form ⟨type, value⟩ = reader.consumed after :=
  ((parses_take type).consumed taken).1.2

/-- Whatever is read, writing it puts down the bytes that were consumed, for one field and for any
sequence of them. So a value is read from no other bytes than these. -/
theorem writes_consumed (reader : Reader) (writer : Writer) :
    (∀ type value after, take type reader = .ok value after →
        (writer.put type value).bytes = writer.bytes ++ reader.consumed after ∧
          reader.advance (reader.consumed after).length = after) ∧
      (∀ types fields after, takeAll types reader = .ok fields after →
        fields.map Field.type = types ∧
          (writer.putAll fields).bytes = writer.bytes ++ reader.consumed after ∧
          reader.advance (reader.consumed after).length = after) ∧
      ∀ type value after other otherAfter, take type reader = .ok value after →
        take type other = .ok value otherAfter →
        reader.consumed after = other.consumed otherAfter := by
  refine ⟨?_, ?_, ?_⟩
  · intro type value after taken
    refine ⟨?_, ((parses_take type).consumed taken).2⟩
    rw [Writer.put_eq_append writer ⟨type, value⟩, Writer.bytes_append, form_eq_consumed taken]
  · intro types fields after taken
    obtain ⟨⟨sameTypes, -, forms⟩, moved⟩ := (parses_takeAll types).consumed taken
    refine ⟨sameTypes, ?_, moved⟩
    rw [Writer.bytes_putAll, forms]
  · intro type value after other otherAfter taken otherTaken
    exact (form_eq_consumed taken).symm.trans (form_eq_consumed otherTaken)

/-- Two truth values, a number that is not a number, and a text. -/
def mixture : List Field :=
  [⟨.fixed (.array .bool 2), #v[true, false]⟩, ⟨.fixed (.number .f32), 0x7fa00001⟩, ⟨.text, "é"⟩]

def mixtureBytes : Bytes :=
  [1, 0, 0x01, 0x00, 0xa0, 0x7f, 2, 0, 0, 0, 0, 0, 0, 0, 0xc3, 0xa9]

theorem writes_consumed_mixture :
    takeAll (mixture.map Field.type) ⟨9 :: mixtureBytes ++ [5], 1⟩ =
        .ok mixture ⟨9 :: mixtureBytes ++ [5], 17⟩ ∧
      (Writer.putAll ⟨[7]⟩ mixture).bytes = 7 :: mixtureBytes := by
  have read : takeAll (mixture.map Field.type) ⟨9 :: mixtureBytes ++ [5], 1⟩ =
      .ok mixture ⟨9 :: mixtureBytes ++ [5], 17⟩ := rfl
  exact ⟨read, ((writes_consumed _ ⟨[7]⟩).2.1 _ _ _ read).2.1⟩

end Reader

end Courier

import Courier.Proofs.Stream.Bounds

namespace Courier.Reader

/-! What is read of fields whose bytes end too early. -/

theorem announced_of_cut {reader : Reader} {bytes : Bytes} (fits : bytes.length < UInt64.size)
    (told : 8 ≤ reader.remaining) (cut : reader.rest <+: Writer.lengthPrefixed bytes) :
    reader.announced = bytes.length := by
  have header : reader.rest.take 8 = LittleEndian.encode 8 bytes.length := by
    obtain ⟨missing, whole⟩ := cut
    have there : 8 ≤ reader.rest.length := by rwa [length_rest]
    calc
      reader.rest.take 8 = (reader.rest ++ missing).take 8 :=
        (List.take_append_of_le_length there).symm
      _ = (Writer.lengthPrefixed bytes).take 8 := by rw [whole]
      _ = LittleEndian.encode 8 bytes.length :=
        List.take_left' (LittleEndian.length_encode 8 bytes.length)
  rw [announced, header]
  exact LittleEndian.decode_encode_of_lt fits

theorem demands_of_truncated_count (type : FieldType) (counted : type.Counted) {reader : Reader}
    {bytes : Bytes} (fits : bytes.length < UInt64.size)
    (cut : reader.rest <+: Writer.lengthPrefixed bytes)
    (lacking : reader.remaining < 8 + bytes.length) :
    ∃ position requested available,
      reader.Demands type position requested available ∧ available < requested := by
  by_cases shortCount : reader.remaining < 8
  · exact ⟨_, _, _, .length counted, shortCount⟩
  · have told : 8 ≤ reader.remaining := Nat.le_of_not_lt shortCount
    refine ⟨_, _, _, .body counted told, ?_⟩
    rw [announced_of_cut fits told cut]
    omega

/-- The cut is in the value, in the length in front of it, or in the body, which the length still
tells in full: something is asked for that was cut off. -/
theorem demands_of_truncated {field : Field} {reader : Reader} (fits : field.Fits)
    (cut : reader.rest <+: field.form) (short : reader.rest ≠ field.form) :
    ∃ position requested available,
      reader.Demands field.type position requested available ∧ available < requested := by
  have lacking : reader.remaining < field.type.width field.value := by
    rw [← length_rest, ← Field.length_form]
    exact Nat.lt_of_le_of_ne cut.length_le fun same => short (cut.eq_of_length same)
  obtain ⟨type, value⟩ := field
  cases type with
  | fixed type => exact ⟨_, _, _, .value type, lacking⟩
  | bytes => exact demands_of_truncated_count .bytes trivial fits cut lacking
  | text => exact demands_of_truncated_count .text trivial fits cut lacking

theorem takeAll_cons (type : FieldType) (types : List FieldType) (reader : Reader) :
    takeAll (type :: types) reader =
      match take type reader with
      | .error error after => .error error after
      | .ok value middle =>
        match takeAll types middle with
        | .error error after => .error error after
        | .ok fields after => .ok (⟨type, value⟩ :: fields) after := by
  simp only [takeAll, Bind.bind, EStateM.bind]
  cases take type reader with
  | error error after => rfl
  | ok value middle =>
      dsimp only
      cases takeAll types middle with
      | error error after => rfl
      | ok fields after => rfl

theorem take_of_whole {field : Field} {reader : Reader} (fits : field.Fits)
    (whole : field.form <+: reader.rest) :
    take field.type reader = .ok field.value (reader.advance field.form.length) :=
  (parses_take field.type _ _ _).mpr ⟨_, ⟨fits, rfl⟩, whole, rfl⟩

theorem take_of_truncated {field : Field} {reader : Reader} (fits : field.Fits)
    (cut : reader.rest <+: field.form) (short : reader.rest ≠ field.form) :
    ∃ position requested available,
      take field.type reader = .error (.outOfBounds position requested available) reader := by
  obtain ⟨position, requested, available, demand⟩ := demands_of_truncated fits cut short
  exact ⟨_, _, _, (take_eq_outOfBounds_iff field.type reader _ _ _).mpr demand⟩

theorem takeAll_of_truncated {fields : List Field} {reader : Reader}
    (fits : ∀ field ∈ fields, field.Fits) (cut : reader.rest <+: fields.flatMap Field.form)
    (short : reader.rest ≠ fields.flatMap Field.form) :
    ∃ leading next trailing before position requested available,
      fields = leading ++ next :: trailing ∧
        takeAll (leading.map Field.type) reader = .ok leading before ∧
        take next.type before = .error (.outOfBounds position requested available) before ∧
        takeAll (fields.map Field.type) reader =
          .error (.outOfBounds position requested available) before := by
  induction fields generalizing reader with
  | nil => exact absurd (List.prefix_nil.mp cut) short
  | cons field fields ih =>
      obtain ⟨fitsFirst, fitsLater⟩ := List.forall_mem_cons.mp fits
      rw [List.flatMap_cons] at cut short
      by_cases whole : field.form <+: reader.rest
      · -- The first field is there, so the cut is in those behind it.
        have taken := take_of_whole fitsFirst whole
        obtain ⟨later, split⟩ := whole
        have left : (reader.advance field.form.length).rest = later := by
          rw [rest_advance, ← split, List.drop_left]
        rw [← split] at cut short
        have cutLater : later <+: fields.flatMap Field.form :=
          (List.prefix_append_right_inj field.form).mp cut
        have shortLater : later ≠ fields.flatMap Field.form := by
          rintro rfl
          exact short rfl
        obtain ⟨leading, next, trailing, before, position, requested, available, rfl, got, failed,
            stopped⟩ := ih fitsLater (left ▸ cutLater) (left ▸ shortLater)
        refine ⟨field :: leading, next, trailing, before, position, requested, available, rfl, ?_,
          failed, ?_⟩
        · rw [List.map_cons, takeAll_cons, taken]
          simp only [got]
        · rw [List.map_cons, takeAll_cons, taken]
          simp only [stopped]
      · have cutFirst : reader.rest <+: field.form :=
          (List.prefix_or_prefix_of_prefix cut (List.prefix_append _ _)).resolve_right whole
        have shortFirst : reader.rest ≠ field.form := by
          intro same
          exact whole (same ▸ List.prefix_rfl)
        obtain ⟨position, requested, available, failed⟩ :=
          take_of_truncated fitsFirst cutFirst shortFirst
        refine ⟨[], field, fields, reader, position, requested, available, rfl, rfl, failed, ?_⟩
        rw [List.map_cons, takeAll_cons, failed]

/-- Of fields whose bytes are cut off anywhere before the end, those in front are read as they
were written. The next one is out of bounds, and the reader stays in front of it. -/
theorem stops_of_truncated {fields : List Field} {bytes : Bytes}
    (fits : ∀ field ∈ fields, field.Fits) (cut : bytes <+: (Writer.putAll {} fields).bytes)
    (short : bytes ≠ (Writer.putAll {} fields).bytes) :
    ∃ leading next trailing before position requested available,
      fields = leading ++ next :: trailing ∧
        takeAll (leading.map Field.type) (.ofBytes bytes) = .ok leading before ∧
        take next.type before = .error (.outOfBounds position requested available) before ∧
        takeAll (fields.map Field.type) (.ofBytes bytes) =
          .error (.outOfBounds position requested available) before := by
  have written : (Writer.putAll {} fields).bytes = fields.flatMap Field.form :=
    Writer.bytes_putAll {} fields
  rw [written] at cut short
  exact takeAll_of_truncated fits cut short

/-- Two truth values and a text, and their bytes up to the middle of the last letter. -/
def accented : List Field :=
  [⟨.fixed (.array .bool 2), #[true, false].toVector⟩, ⟨.text, "né"⟩]

def accentCut : Bytes :=
  [1, 0, 3, 0, 0, 0, 0, 0, 0, 0, 0x6e, 0xc3]

theorem stops_of_truncated_accent :
    (∀ field ∈ accented, field.Fits) ∧ accentCut <+: (Writer.putAll {} accented).bytes ∧
      accentCut ≠ (Writer.putAll {} accented).bytes ∧
      ∃ leading next trailing before position requested available,
        accented = leading ++ next :: trailing ∧
          takeAll (leading.map Field.type) (.ofBytes accentCut) = .ok leading before ∧
          take next.type before = .error (.outOfBounds position requested available) before := by
  have fits : ∀ field ∈ accented, field.Fits := by
    have short : (Bytes.ofText "né").length < UInt64.size := by decide +kernel
    exact List.forall_mem_cons.mpr ⟨trivial, List.forall_mem_singleton.mpr short⟩
  have cut : accentCut <+: (Writer.putAll {} accented).bytes := ⟨[0xa9], by decide +kernel⟩
  have short : accentCut ≠ (Writer.putAll {} accented).bytes := by decide +kernel
  obtain ⟨leading, next, trailing, before, position, requested, available, parts, got, failed, -⟩ :=
    stops_of_truncated fits cut short
  exact ⟨fits, cut, short, leading, next, trailing, before, position, requested, available, parts,
    got, failed⟩

end Courier.Reader

import Courier.Proofs.Config.Foreign

namespace Courier

open Json

/-! Reading an object stands between two members. A key is read the same way at every place, and
decides what the value behind it is for. -/

inductive Content where
  | text (value : String)
  | count (value : Nat)

inductive Json.Tree.Holds : Tree → Content → Prop
  | text {glyphs : List Glyph} {value : String} (spells : Spells glyphs value.toList) :
      Holds (.string glyphs) (.text value)
  | count {numeral : Numeral} {value : Nat} (counts : numeral.Counts value) :
      Holds (.number numeral) (.count value)

namespace Config

def content (config : Config) : Setting → Content
  | .host => .text config.host
  | .port => .count config.port.toNat
  | .channels => .count config.channels.toNat
  | .maxPeers => .count config.maxPeers.toNat
  | .maxUsers => .count config.maxUsers.toNat
  | .pollTimeout => .count config.pollTimeout.toNat
  | .sendChannel => .count config.sendChannel.toNat
  | .logFilter => .text config.logFilter

theorem textOf_of_spells {glyphs : List Glyph} {text : String}
    (spells : Spells glyphs text.toList) :
    textOf (.ok ()) (glyphs.map Glyph.piece) = .ok text := by
  rw [textOf, decodePieces_of_spells spells]
  simp

theorem readText_of_spells {glyphs : List Glyph} {text : String}
    (spells : Spells glyphs text.toList) :
    readText (.string (glyphs.map Glyph.piece)) = .ok text := by
  rw [readText, Found.ofToken, textOf_of_spells spells]
  rfl

theorem integer?_of_counts {numeral : Numeral} {value : Nat} (counts : numeral.Counts value)
    (bounded : value < UInt64.size) : numeral.number.integer? = some (value : Int) := by
  have magnitude : numeral.number.magnitude = value := counts.total
  have negative : numeral.number.negative = false := counts.positive
  have fraction : numeral.number.fraction = none :=
    congrArg (Option.map Digits.values) counts.unbroken
  have exponent : numeral.number.exponent = none :=
    congrArg (Option.map Scale.exponent) counts.unscaled
  simp only [Number.integer?, magnitude, negative, fraction, exponent, Option.isSome_none,
    Bool.or_self, Bool.false_eq_true, if_false, if_pos bounded]

theorem readNumber_of_counts {numeral : Numeral} {value limit : Nat}
    (counts : numeral.Counts value) (shape : Shape) (inRange : value < limit)
    (small : limit ≤ UInt64.size) :
    readNumber shape limit (.number numeral.number) = .ok value := by
  have inside : 0 ≤ (value : Int) ∧ (value : Int) < limit :=
    ⟨Int.natCast_nonneg value, Int.ofNat_lt.mpr inRange⟩
  rw [readNumber, Found.ofToken, Found.ofNumber,
    integer?_of_counts counts (inRange.trans_le small)]
  simp only [bind, Except.bind, if_pos inside]
  rfl

theorem readOctet_of_counts {numeral : Numeral} {value : UInt8}
    (counts : numeral.Counts value.toNat) : readOctet (.number numeral.number) = .ok value := by
  rw [readOctet, readNumber_of_counts counts .octet value.toNat_lt (by decide), Except.map,
    UInt8.ofNat_toNat]

theorem readShort_of_counts {numeral : Numeral} {value : UInt16}
    (counts : numeral.Counts value.toNat) : readShort (.number numeral.number) = .ok value := by
  rw [readShort, readNumber_of_counts counts .short value.toNat_lt (by decide), Except.map,
    UInt16.ofNat_toNat]

theorem readLong_of_counts {numeral : Numeral} {value : UInt64}
    (counts : numeral.Counts value.toNat) (shape : Shape) :
    readLong shape (.number numeral.number) = .ok value := by
  rw [readLong, readNumber_of_counts counts shape value.toNat_lt (by decide), Except.map,
    UInt64.ofNat_toNat]

/-- One setting as it is in another configuration. -/
def adopt (config values : Config) : Setting → Config
  | .host => { config with host := values.host }
  | .port => { config with port := values.port }
  | .channels => { config with channels := values.channels }
  | .maxPeers => { config with maxPeers := values.maxPeers }
  | .maxUsers => { config with maxUsers := values.maxUsers }
  | .pollTimeout => { config with pollTimeout := values.pollTimeout }
  | .sendChannel => { config with sendChannel := values.sendChannel }
  | .logFilter => { config with logFilter := values.logFilter }

theorem store_of_holds {values : Config} {setting : Setting} {tree : Tree}
    (holds : tree.Holds (values.content setting)) (config : Config) :
    ∃ word, tree.words = [word] ∧
      config.store setting word.token = .ok (config.adopt values setting) := by
  cases setting <;> cases holds
  case host.text glyphs spells | logFilter.text glyphs spells =>
      refine ⟨.string glyphs, by rw [Tree.words], ?_⟩
      rw [Word.token, store, readText_of_spells spells]
      rfl
  case port.count numeral counts =>
      refine ⟨.number numeral, by rw [Tree.words], ?_⟩
      rw [Word.token, store, readShort_of_counts counts]
      rfl
  case channels.count numeral counts | sendChannel.count numeral counts =>
      refine ⟨.number numeral, by rw [Tree.words], ?_⟩
      rw [Word.token, store, readOctet_of_counts counts]
      rfl
  case maxPeers.count numeral counts | maxUsers.count numeral counts |
      pollTimeout.count numeral counts =>
      refine ⟨.number numeral, by rw [Tree.words], ?_⟩
      rw [Word.token, store, readLong_of_counts counts]
      rfl

theorem ofName?_of_unknown {name : String} (unknown : ∀ setting : Setting, setting.name ≠ name) :
    Setting.ofName? name = none := by
  rw [Option.eq_none_iff_forall_ne_some]
  intro setting found
  exact unknown setting (Setting.name_of_ofName? found)

namespace Reading

theorem readKey_of_spells {name : String} {key : List Glyph} (spells : Spells key name.toList)
    (reading : Reading) :
    reading.readKey (.string (key.map Glyph.piece)) =
      match Setting.ofName? name with
      | none => .ok { reading with expects := .colon none }
      | some setting =>
        if setting ∈ reading.seen then .error (.duplicate setting)
        else .ok { reading with
          expects := .colon (some setting), seen := setting :: reading.seen } := by
  rw [readKey, keyOf, textOf_of_spells spells]
  rfl

theorem readKey_of_fresh {setting : Setting} {key : List Glyph}
    (names : Spells key setting.name.toList) {reading : Reading} (fresh : setting ∉ reading.seen) :
    reading.readKey (.string (key.map Glyph.piece)) =
      .ok { reading with expects := .colon (some setting), seen := setting :: reading.seen } := by
  rw [readKey_of_spells names, Setting.ofName?_name]
  exact if_neg fresh

theorem readKey_of_seen {setting : Setting} {key : List Glyph}
    (names : Spells key setting.name.toList) {reading : Reading} (seen : setting ∈ reading.seen) :
    reading.readKey (.string (key.map Glyph.piece)) = .error (.duplicate setting) := by
  rw [readKey_of_spells names, Setting.ofName?_name]
  exact if_pos seen

theorem readKey_of_unknown {name : String} {key : List Glyph} (spells : Spells key name.toList)
    (unknown : ∀ setting : Setting, setting.name ≠ name) (reading : Reading) :
    reading.readKey (.string (key.map Glyph.piece)) =
      .ok { reading with expects := .colon none } := by
  rw [readKey_of_spells spells, ofName?_of_unknown unknown]

/-- A member with what goes before it and what comes behind it. -/
theorem through_member {reading : Reading} (waits : reading.expects = .memberEnd) (key : List Glyph)
    (later : List Word) :
    reading.through (.comma :: .string key :: later) =
      reading.readKey (.string (key.map Glyph.piece)) >>= fun next => next.through later := by
  have resumed : reading.step Word.comma.token = .ok { reading with expects := .key } := by
    rw [step, waits]
    rfl
  rw [through_cons_of_step resumed, through_cons]
  rfl

theorem through_colon (reading : Reading) (setting : Option Setting) (later : List Word) :
    Reading.through { reading with expects := .colon setting } (.colon :: later) =
      Reading.through (reading.afterColon setting) later :=
  through_cons_of_step rfl later

/-- A member whose key means nothing leaves no trace. -/
theorem through_unknown {name : String} {key : List Glyph} (spells : Spells key name.toList)
    (unknown : ∀ setting : Setting, setting.name ≠ name) {reading : Reading}
    (waits : reading.expects = .memberEnd) (value : Tree) (later : List Word) :
    reading.through (.comma :: .string key :: .colon :: (value.words ++ later)) =
      reading.through later := by
  have behind : reading.beyond none = reading := by rw [beyond, ← waits]
  rw [through_member waits, readKey_of_unknown spells unknown]
  change Reading.through { reading with expects := .colon none } _ = _
  rw [through_colon, afterColon]
  change (reading.beyond (some {})).through _ = _
  rw [through_append_of_through (reading.through_value [] value)]
  change (reading.beyond none).through _ = _
  rw [behind]

theorem through_seen {setting : Setting} {key : List Glyph} (names : Spells key setting.name.toList)
    {reading : Reading} (waits : reading.expects = .memberEnd) (seen : setting ∈ reading.seen)
    (later : List Word) :
    reading.through (.comma :: .string key :: later) = .error (.duplicate setting) := by
  rw [through_member waits, readKey_of_seen names seen]
  rfl

/-- No setting is an array or an object. -/
theorem store_bracket (config : Config) (setting : Setting) {token : Token}
    (bracket : token = .beginArray ∨ token = .beginObject) :
    ∃ error, config.store setting token = .error error := by
  obtain rfl | rfl := bracket <;> cases setting <;> exact ⟨_, rfl⟩

theorem through_value_of_error {reading : Reading} {setting : Setting}
    (waits : reading.expects = .value setting) (word : Word) {error : ParseError}
    (failed : reading.config.store setting word.token = .error error) (later : List Word) :
    reading.through (word :: later) = .error error := by
  simp only [through_cons, step, waits, readValue, failed, bind, Except.bind]

theorem through_value_of_ok {reading : Reading} {setting : Setting}
    (waits : reading.expects = .value setting) {word : Word} {config : Config}
    (stored : reading.config.store setting word.token = .ok config) (later : List Word) :
    reading.through (word :: later) =
      Reading.through { reading with expects := .memberEnd, config } later := by
  simp only [through_cons, step, waits, readValue, stored, bind, Except.bind]
  rfl

theorem through_value_or_error {reading : Reading} {setting : Setting}
    (waits : reading.expects = .value setting) (value : Tree) (later : List Word) :
    (∃ error, reading.through (value.words ++ later) = .error error) ∨
      ∃ config, reading.through (value.words ++ later) =
        Reading.through { reading with expects := .memberEnd, config } later := by
  have single (word : Word) : (∃ error, reading.through (word :: later) = .error error) ∨
      ∃ config, reading.through (word :: later) =
        Reading.through { reading with expects := .memberEnd, config } later := by
    cases outcome : reading.config.store setting word.token with
    | error error => exact .inl ⟨error, through_value_of_error waits word outcome later⟩
    | ok config => exact .inr ⟨config, through_value_of_ok waits outcome later⟩
  cases value with
  | null => exact single .null
  | boolean value => exact single (.boolean value)
  | number numeral => exact single (.number numeral)
  | string glyphs => exact single (.string glyphs)
  | array elements =>
      obtain ⟨error, failed⟩ := store_bracket reading.config setting (.inl rfl)
      cases elements <;> rw [Tree.words] <;>
        exact .inl ⟨error, through_value_of_error waits .beginArray failed _⟩
  | object members =>
      obtain ⟨error, failed⟩ := store_bracket reading.config setting (.inr rfl)
      rcases members with _ | ⟨⟨key, value⟩, members⟩ <;> rw [Tree.words] <;>
        exact .inl ⟨error, through_value_of_error waits .beginObject failed _⟩

theorem readKey_eq_ok {reading next : Reading} {key : List Glyph}
    (read : reading.readKey (.string (key.map Glyph.piece)) = .ok next) :
    ∃ found : Option Setting,
      { reading with expects := .colon found, seen := found.toList ++ reading.seen } = next ∧
        ∀ setting : Setting, Spells key setting.name.toList → found = some setting := by
  rw [readKey, keyOf] at read
  cases decoded : textOf (.ok ()) (key.map Glyph.piece) with
  | error error =>
      rw [decoded] at read
      cases read
  | ok name =>
      have known (setting : Setting) (names : Spells key setting.name.toList) :
          Setting.ofName? name = some setting := by
        rw [textOf_of_spells names] at decoded
        cases decoded
        exact setting.ofName?_name
      simp only [decoded, bind, Except.bind] at read
      cases found : Setting.ofName? name with
      | none =>
          rw [found] at read known
          cases read
          exact ⟨none, rfl, known⟩
      | some setting =>
          rw [found] at read known
          dsimp only at read
          split at read
          · cases read
          · cases read
            exact ⟨some setting, rfl, known⟩

theorem through_member_or_error {reading : Reading} (waits : reading.expects = .memberEnd)
    (key : List Glyph) (value : Tree) (later : List Word) :
    (∃ error, reading.through (.comma :: .string key :: .colon :: (value.words ++ later)) =
        .error error) ∨
      ∃ next : Reading, next.expects = .memberEnd ∧ reading.seen ⊆ next.seen ∧
        (∀ setting : Setting, Spells key setting.name.toList → setting ∈ next.seen) ∧
        reading.through (.comma :: .string key :: .colon :: (value.words ++ later)) =
          next.through later := by
  rw [through_member waits]
  cases read : reading.readKey (.string (key.map Glyph.piece)) with
  | error error => exact .inl ⟨error, rfl⟩
  | ok next =>
      obtain ⟨found, rfl, known⟩ := readKey_eq_ok read
      cases found with
      | none =>
          right
          refine ⟨reading.beyond none, rfl, List.Subset.refl _, ?_, ?_⟩
          · intro setting names
            cases known setting names
          · exact through_append_of_through (reading.through_value [] value) later
      | some found =>
          let keyed : Reading :=
            { reading with expects := .value found, seen := found :: reading.seen }
          have keyedWaits : keyed.expects = .value found := rfl
          obtain failed | ⟨config, went⟩ := through_value_or_error keyedWaits value later
          · exact .inl failed
          · right
            refine ⟨{ keyed with expects := .memberEnd, config }, rfl, List.subset_cons_self _ _,
              ?_, went⟩
            intro setting names
            cases known setting names
            exact List.mem_cons_self

end Reading

end Config

end Courier

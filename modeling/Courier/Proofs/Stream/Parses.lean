import Courier.Proofs.Action
import Courier.Stream.Reader

namespace Courier

namespace Reader

theorem length_rest (reader : Reader) : reader.rest.length = reader.remaining :=
  List.length_drop

@[simp] theorem rest_advance (reader : Reader) (count : Nat) :
    (reader.advance count).rest = reader.rest.drop count := by
  rw [rest, rest, advance, List.drop_drop]

theorem advance_advance (reader : Reader) (first second : Nat) :
    (reader.advance first).advance second = reader.advance (first + second) := by
  rw [advance, advance, advance, Nat.add_assoc]

theorem peek_eq_ok_iff (reader : Reader) (count : Nat) (bytes : Bytes) :
    reader.peek count = .ok bytes ↔ bytes.length = count ∧ bytes <+: reader.rest := by
  rw [peek, ← length_rest]
  split
  · next enough =>
    constructor
    · intro taken
      cases taken
      exact ⟨List.length_take_of_le enough, List.take_prefix count reader.rest⟩
    · rintro ⟨rfl, begins⟩
      rw [← List.prefix_iff_eq_take.mp begins]
  · next short =>
    constructor
    · intro taken
      cases taken
    · rintro ⟨rfl, begins⟩
      exact absurd begins.length_le short

end Reader

theorem append_prefix_iff (first second rest : Bytes) :
    first ++ second <+: rest ↔ first <+: rest ∧ second <+: rest.drop first.length := by
  constructor
  · rintro ⟨tail, rfl⟩
    rw [List.append_assoc, List.drop_left]
    exact ⟨List.prefix_append _ _, List.prefix_append _ _⟩
  · rintro ⟨⟨tail, rfl⟩, second⟩
    rw [List.drop_left] at second
    exact List.prefix_append_right_inj first |>.mpr second

/-- An action reads a grammar: it returns a value exactly where one of its forms stands, and it
stops right behind it. -/
def Parses (action : EStateM ε Reader α) (form : α → Bytes → Prop) : Prop :=
  ∀ reader value after, action reader = .ok value after ↔
    ∃ bytes, form value bytes ∧ bytes <+: reader.rest ∧ reader.advance bytes.length = after

namespace Parses

variable {action : EStateM ε Reader α} {form : α → Bytes → Prop}

theorem congr {other : α → Bytes → Prop} (parses : Parses action form)
    (same : ∀ value bytes, form value bytes ↔ other value bytes) : Parses action other := by
  intro reader value after
  rw [parses reader value after]
  exact exists_congr fun bytes => and_congr_left fun _ => same value bytes

theorem pure (value : α) :
    Parses (pure value : EStateM ε Reader α) fun result bytes => value = result ∧ bytes = [] := by
  intro reader result after
  constructor
  · intro ran
    cases ran
    exact ⟨[], ⟨rfl, rfl⟩, List.nil_prefix, rfl⟩
  · rintro ⟨_, ⟨rfl, rfl⟩, -, rfl⟩
    rfl

theorem throw (error : ε) :
    Parses (throw error : EStateM ε Reader α) fun _ _ => False := by
  intro reader result after
  constructor
  · intro ran
    cases ran
  · rintro ⟨_, impossible, -⟩
    exact impossible.elim

theorem bind {next : α → EStateM ε Reader β} {later : α → β → Bytes → Prop}
    (parses : Parses action form) (follows : ∀ value, Parses (next value) (later value)) :
    Parses (action >>= next) fun result bytes =>
      ∃ value first second, form value first ∧ later value result second ∧
        first ++ second = bytes := by
  intro reader result after
  constructor
  · intro ran
    obtain ⟨value, middle, acted, continued⟩ := of_bind_eq_ok ran
    obtain ⟨first, written, begins, rfl⟩ := (parses reader value middle).mp acted
    obtain ⟨second, added, goesOn, rfl⟩ := (follows value _ result after).mp continued
    rw [Reader.rest_advance] at goesOn
    refine ⟨first ++ second, ⟨value, first, second, written, added, rfl⟩, ?_, ?_⟩
    · exact (append_prefix_iff _ _ _).mpr ⟨begins, goesOn⟩
    · rw [Reader.advance_advance, List.length_append]
  · rintro ⟨_, ⟨value, first, second, written, added, rfl⟩, begins, rfl⟩
    obtain ⟨begins, goesOn⟩ := (append_prefix_iff _ _ _).mp begins
    have acted := (parses reader value _).mpr ⟨first, written, begins, rfl⟩
    have continued := (follows value (reader.advance first.length) result _).mpr
      ⟨second, added, by rwa [Reader.rest_advance], rfl⟩
    rw [Reader.advance_advance] at continued
    simp only [Bind.bind, EStateM.bind, acted, List.length_append]
    exact continued

theorem map (parses : Parses action form) (make : α → β) :
    Parses (do return make (← action)) fun result bytes =>
      ∃ value, form value bytes ∧ make value = result := by
  apply (parses.bind fun value => pure (make value)).congr
  intro result bytes
  constructor
  · rintro ⟨value, first, _, written, ⟨same, rfl⟩, rfl⟩
    exact ⟨value, by rwa [List.append_nil], same⟩
  · rintro ⟨value, written, same⟩
    exact ⟨value, bytes, [], written, ⟨same, rfl⟩, List.append_nil bytes⟩

theorem adaptExcept (parses : Parses action form) (change : ε → ε') :
    Parses (action.adaptExcept change) form := by
  intro reader value after
  rw [← parses reader value after, EStateM.adaptExcept]
  cases action reader <;> simp

end Parses

namespace Reader

theorem parses_read (type : FixedType) :
    Parses (read type) fun value bytes => type.encode value = bytes := by
  intro reader value after
  rw [read]
  cases peeked : reader.peek type.size with
  | error error =>
      constructor
      · intro ran
        cases ran
      · rintro ⟨bytes, written, begins, -⟩
        have width : bytes.length = type.size := by
          rw [← written, FixedType.length_encode]
        rw [(peek_eq_ok_iff reader type.size bytes).mpr ⟨width, begins⟩] at peeked
        cases peeked
  | ok bytes =>
      obtain ⟨width, begins⟩ := (peek_eq_ok_iff reader type.size bytes).mp peeked
      dsimp only
      constructor
      · intro ran
        split at ran
        · cases ran
        · next decoded =>
          cases ran
          exact ⟨bytes, type.encode_of_decode? width decoded, begins, by rw [width]⟩
      · rintro ⟨own, written, ownBegins, rfl⟩
        have ownWidth : own.length = type.size := by
          rw [← written, FixedType.length_encode]
        have same : own = bytes :=
          (List.prefix_of_prefix_length_le ownBegins begins (by omega)).eq_of_length (by omega)
        rw [← same, ← written, FixedType.decode?_encode, FixedType.length_encode]

theorem readBytes_eq_ok_iff (reader after : Reader) (value : Bytes) :
    readBytes reader = .ok value after ↔
      ∃ count body, read (.number .usize) reader = .ok count body ∧
        body.peek count.toNat = .ok value ∧ body.advance count.toNat = after := by
  rw [readBytes]
  constructor
  · intro ran
    split at ran
    · cases ran
    · next count body counted =>
      split at ran
      · cases ran
      · next bytes peeked =>
        cases ran
        exact ⟨count, body, counted, peeked, rfl⟩
  · rintro ⟨count, body, counted, peeked, rfl⟩
    simp only [counted, peeked]

theorem parses_readBytes :
    Parses readBytes fun value bytes =>
      value.length < UInt64.size ∧ Writer.lengthPrefixed value = bytes := by
  intro reader value after
  rw [readBytes_eq_ok_iff]
  constructor
  · rintro ⟨count, body, counted, peeked, rfl⟩
    obtain ⟨header, written, begins, rfl⟩ := (parses_read _ reader count body).mp counted
    obtain ⟨width, goesOn⟩ := (peek_eq_ok_iff _ _ _).mp peeked
    have whole : Writer.lengthPrefixed value = header ++ value := by
      rw [← written, Writer.lengthPrefixed, width]
      rfl
    rw [rest_advance] at goesOn
    refine ⟨_, ⟨width ▸ count.isLt, rfl⟩, ?_, ?_⟩
    · rw [whole]
      exact (append_prefix_iff _ _ _).mpr ⟨begins, goesOn⟩
    · rw [whole, advance_advance, List.length_append, width]
  · rintro ⟨_, ⟨bound, rfl⟩, begins, rfl⟩
    obtain ⟨begins, goesOn⟩ := (append_prefix_iff _ _ _).mp begins
    obtain ⟨count, width⟩ : ∃ count : (FixedType.number .usize).Value,
        count.toNat = value.length :=
      ⟨BitVec.ofNat _ value.length, (BitVec.toNat_ofNat _ _).trans (Nat.mod_eq_of_lt bound)⟩
    have header : FixedType.encode (.number .usize) count =
        LittleEndian.encode 8 value.length := by
      rw [← width]
      rfl
    refine ⟨count, _, (parses_read _ reader _ _).mpr ⟨_, header, begins, rfl⟩, ?_, ?_⟩
    · rw [peek_eq_ok_iff, rest_advance, width]
      exact ⟨rfl, goesOn⟩
    · rw [advance_advance, width, Writer.lengthPrefixed, List.length_append]

theorem parses_readText :
    Parses readText fun text bytes =>
      (Bytes.ofText text).length < UInt64.size ∧
        Writer.lengthPrefixed (Bytes.ofText text) = bytes := by
  intro reader text after
  rw [readText]
  constructor
  · intro ran
    split at ran
    · cases ran
    · next value body got =>
      split at ran
      · cases ran
      · next found decoded =>
        cases ran
        have stands := (parses_readBytes reader value after).mp got
        rwa [← Bytes.ofText_of_toText? decoded] at stands
  · intro stands
    have got := (parses_readBytes reader (Bytes.ofText text) after).mpr stands
    simp only [got, Bytes.toText?_ofText]

end Reader

end Courier

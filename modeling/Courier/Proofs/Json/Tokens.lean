import Mathlib.Data.List.Chain
import Courier.Proofs.Json.Grammar

namespace Courier.Json

open Text

/-! What is written comes back as the tokens it stands for: strings first. -/

theorem digitValue?_char (digit : HexDigit) : digitValue? 16 digit.char = some digit.value.val := by
  obtain ⟨value, capital⟩ := digit
  cases capital <;> revert value <;> decide

theorem unitOf?_chars (unit : CodeUnit) : unitOf? unit.chars = some unit.code := by
  have read : unit.chars.mapM (digitValue? 16) = some [unit.first.value.val, unit.second.value.val,
      unit.third.value.val, unit.fourth.value.val] := by
    simp [CodeUnit.chars, digitValue?_char]
  rw [unitOf?, read, Option.map_some, CodeUnit.code]
  simp only [valueOfDigits, List.foldl_cons, List.foldl_nil, Option.some.injEq]
  omega

def Glyph.piece : Glyph → Piece
  | .plain c _ => .char c
  | .escape _ meaning _ => .char meaning
  | .coded unit => .unit unit.code

theorem escaped?_of_listed {letter meaning : Char} (listed : (letter, meaning) ∈ escapes) :
    escaped? letter = some meaning ∧ letter ≠ 'u' := by
  have all : ∀ entry ∈ escapes, escaped? entry.1 = some entry.2 ∧ entry.1 ≠ 'u' := by decide
  exact all _ listed

theorem takeString_glyph (glyph : Glyph) (text : List Char) :
    takeString (glyph.chars ++ text) = (takeString text).push glyph.piece := by
  cases glyph with
  | plain c allowed =>
      -- what `rw` leaves is that no pattern for an escape matches
      obtain ⟨notQuote, notBackslash, notControl⟩ := allowed
      simp only [Glyph.chars, Glyph.piece, List.cons_append, List.nil_append]
      rw [takeString, if_neg notQuote, if_neg (by omega)]
      all_goals simp_all
  | escape letter meaning listed =>
      obtain ⟨known, notUnit⟩ := escaped?_of_listed listed
      simp only [Glyph.chars, Glyph.piece, List.cons_append, List.nil_append]
      rw [takeString, known]
      all_goals simp_all
  | coded unit =>
      have coded := unitOf?_chars unit
      simp only [Glyph.chars, Glyph.piece, CodeUnit.chars, List.cons_append, List.nil_append] at *
      rw [takeString, coded]

theorem takeString_glyphs (glyphs : List Glyph) (text : List Char) :
    takeString (glyphs.flatMap Glyph.chars ++ '"' :: text) =
      ⟨glyphs.map Glyph.piece, .ok text⟩ := by
  induction glyphs with
  | nil => simp [takeString]
  | cons glyph glyphs ih =>
      rw [List.flatMap_cons, List.append_assoc, takeString_glyph, ih]
      rfl

theorem isLeading_eq_false {unit : Nat} (outside : unit < 0xd800 ∨ 0xdc00 ≤ unit) :
    isLeading unit = false := by
  simp only [isLeading, Bool.and_eq_false_imp, decide_eq_true_eq, decide_eq_false_iff_not]
  omega

theorem isTrailing_eq_false {unit : Nat} (outside : unit < 0xdc00 ∨ 0xe000 ≤ unit) :
    isTrailing unit = false := by
  simp only [isTrailing, Bool.and_eq_false_imp, decide_eq_true_eq, decide_eq_false_iff_not]
  omega

theorem decodePieces_of_spells {glyphs : List Glyph} {text : List Char}
    (spells : Spells glyphs text) :
    decodePieces (.ok ()) (glyphs.map Glyph.piece) = .ok text := by
  induction spells with
  | nothing => rfl
  | plain _ ih | escape _ ih =>
      simp only [List.map_cons, Glyph.piece, decodePieces, ih]
      rfl
  | @coded unit c glyphs text stands _ ih =>
      -- no character is a surrogate
      have valid : c.toNat < 0xd800 ∨ 0xdfff < c.toNat ∧ c.toNat < 0x110000 := c.valid
      have notTrailing : isTrailing c.toNat = false := isTrailing_eq_false (by omega)
      have notLeading : isLeading c.toNat = false := isLeading_eq_false (by omega)
      rw [List.map_cons, Glyph.piece, stands, decodePieces.eq_def]
      simp only [notTrailing, notLeading, Bool.false_eq_true, if_false, ih, Char.ofNat_toNat]
      rfl
  | @pair high low c glyphs text leading trailing stands _ ih =>
      have highNotTrailing : isTrailing high.code = false := isTrailing_eq_false (.inl leading.2)
      have highLeading : isLeading high.code = true := by
        simpa [isLeading] using leading
      have lowTrailing : isTrailing low.code = true := by
        simpa [isTrailing] using trailing
      have one : paired high.code low.code = c := by
        rw [paired, ← stands, Char.ofNat_toNat]
      simp only [List.map_cons, Glyph.piece, decodePieces, highNotTrailing, highLeading,
        lowTrailing, Bool.false_eq_true, if_true, if_false, ih, one]
      rfl

def Sign.isMinus : Sign → Bool
  | .absent | .plus => false
  | .minus => true

def Scale.exponent (scale : Scale) : Exponent :=
  ⟨scale.sign.isMinus, scale.digits.values⟩

def Numeral.number (numeral : Numeral) : Number where
  negative := numeral.negative
  whole := numeral.whole.values
  fraction := numeral.fraction.map Digits.values
  exponent := numeral.scale.map Scale.exponent

def EndsDigits (text : List Char) : Prop :=
  ∀ c ∈ text.head?, digitValue? 10 c = none

theorem digitValue?_digitChar (digit : Fin 10) :
    digitValue? 10 (Nat.digitChar digit) = some digit.val := by
  revert digit
  decide

namespace Number

theorem takeDigits_digits (digits : List (Fin 10)) {text : List Char} (ends : EndsDigits text) :
    takeDigits 10 ((digits.map Fin.val).map Nat.digitChar ++ text) =
      (digits.map Fin.val, text) := by
  induction digits with
  | nil =>
      cases text with
      | nil => rfl
      | cons c text =>
          have none : digitValue? 10 c = none := ends c rfl
          simp [takeDigits, none]
  | cons digit digits ih =>
      simp only [List.map_cons, List.cons_append, takeDigits, digitValue?_digitChar, ih]

theorem takeSome_digits (digits : Digits) {text : List Char} (ends : EndsDigits text) :
    takeSome (digits.chars ++ text) = .ok (digits.values, text) := by
  rw [takeSome, Digits.chars, Digits.values, takeDigits_digits _ ends]
  rfl

theorem takeWhole_digits (digits : Digits) (starts : digits.first = 0 → digits.later = [])
    {text : List Char} (ends : EndsDigits text) :
    takeWhole (digits.chars ++ text) = .ok (digits.values, text) := by
  rw [takeWhole, takeSome_digits digits ends]
  simp only [bind, Except.bind]
  split
  · next second later rest leadingZero =>
    simp only [Digits.values, List.map_cons, Prod.mk.injEq, List.cons.injEq] at leadingZero
    rw [starts (Fin.ext leadingZero.1.1)] at leadingZero
    cases leadingZero.1.2
  · rfl

theorem endsDigits_cons {c : Char} (other : digitValue? 10 c = none) (text : List Char) :
    EndsDigits (c :: text) := by
  rintro _ ⟨⟩
  exact other

/-- What may come right behind a number. -/
structure Bounds (text : List Char) : Prop where
  digits : EndsDigits text
  point : text.head? ≠ some '.'
  small : text.head? ≠ some 'e'
  capital : text.head? ≠ some 'E'

theorem takeFraction_chars (fraction : Option Digits) {text : List Char}
    (ends : EndsDigits text) (point : text.head? ≠ some '.') :
    takeFraction (Numeral.fractionChars fraction ++ text) =
      .ok (fraction.map Digits.values, text) := by
  cases fraction with
  | none =>
      rw [Numeral.fractionChars, List.nil_append, takeFraction]
      · rfl
      · rintro rest rfl
        exact point rfl
  | some digits =>
      rw [Numeral.fractionChars, List.cons_append, takeFraction, takeSome_digits digits ends]
      rfl

theorem unsigned (digit : Fin 10) : Nat.digitChar digit ≠ '-' ∧ Nat.digitChar digit ≠ '+' := by
  revert digit
  decide

theorem takeSign_chars (sign : Sign) (digits : Digits) (text : List Char) :
    takeSign (sign.chars ++ (digits.chars ++ text)) = (sign.isMinus, digits.chars ++ text) := by
  cases sign with
  | absent =>
      obtain ⟨notMinus, notPlus⟩ := unsigned digits.first
      simp only [Sign.chars, List.nil_append, Digits.chars, Digits.values, List.map_cons,
        List.cons_append]
      rw [takeSign]
      · rfl
      · intro rest same
        exact notMinus (List.cons.inj same).1
      · intro rest same
        exact notPlus (List.cons.inj same).1
  | plus | minus => rfl

theorem takeExponent_chars (scale : Option Scale) {text : List Char} (bounds : Bounds text) :
    takeExponent (Numeral.scaleChars scale ++ text) = .ok (scale.map Scale.exponent, text) := by
  cases scale with
  | none =>
      rw [Numeral.scaleChars, List.nil_append, takeExponent]
      · rfl
      · rintro rest rfl
        exact bounds.small rfl
      · rintro rest rfl
        exact bounds.capital rfl
  | some scale =>
      obtain ⟨capital, sign, digits⟩ := scale
      have read : takeExponentDigits (sign.chars ++ (digits.chars ++ text)) =
          .ok (some ⟨sign.isMinus, digits.values⟩, text) := by
        simp only [takeExponentDigits, takeSign_chars, takeSome_digits digits bounds.digits]
        rfl
      rw [Numeral.scaleChars, Scale.chars, List.cons_append, List.append_assoc]
      cases capital <;> exact read

/-- What follows the digits of a part either stops them or is the next part. -/
theorem endsDigits_scale (scale : Option Scale) {text : List Char} (bounds : Bounds text) :
    EndsDigits (Numeral.scaleChars scale ++ text) ∧
      (Numeral.scaleChars scale ++ text).head? ≠ some '.' := by
  cases scale with
  | none => exact ⟨bounds.digits, bounds.point⟩
  | some scale =>
      rw [Numeral.scaleChars, Scale.chars]
      cases scale.capital <;>
        exact ⟨endsDigits_cons (by decide) _, by simp⟩

theorem endsDigits_fraction (fraction : Option Digits) {text : List Char}
    (ends : EndsDigits text) : EndsDigits (Numeral.fractionChars fraction ++ text) := by
  cases fraction with
  | none => exact ends
  | some digits => exact endsDigits_cons (by decide) _

theorem takeMinus_chars (negative : Bool) (digits : Digits) (text : List Char) :
    takeMinus ((if negative then ['-'] else []) ++ (digits.chars ++ text)) =
      (negative, digits.chars ++ text) := by
  cases negative with
  | true => rfl
  | false =>
      rw [if_neg Bool.false_ne_true, List.nil_append, takeMinus]
      · rintro rest same
        exact (unsigned digits.first).1 (List.cons.inj same).1

theorem take_chars (numeral : Numeral) {text : List Char} (bounds : Bounds text) :
    take (numeral.chars ++ text) = .ok (numeral.number, text) := by
  obtain ⟨endsScale, noPoint⟩ := endsDigits_scale numeral.scale bounds
  have ends := endsDigits_fraction numeral.fraction endsScale
  have whole := takeWhole_digits numeral.whole numeral.starts ends
  have fraction := takeFraction_chars numeral.fraction endsScale noPoint
  have scale := takeExponent_chars numeral.scale bounds
  simp only [take, Numeral.chars, List.append_assoc, takeMinus_chars, whole, fraction, scale,
    bind, Except.bind]
  rfl

end Number

def Word.token : Word → Token
  | .beginObject => .beginObject
  | .endObject => .endObject
  | .beginArray => .beginArray
  | .endArray => .endArray
  | .comma => .comma
  | .colon => .colon
  | .null => .null
  | .boolean value => .boolean value
  | .number numeral => .number numeral.number
  | .string glyphs => .string (glyphs.map Glyph.piece)

theorem tokens_lexeme {c : Char} {rest after : List Char} {token : Token}
    (solid : isSpace c = false) (found : lexeme c rest = ⟨token, some after⟩) :
    tokens (c :: rest) = token :: tokens after := by
  rw [tokens, if_neg (by simp [solid])]
  split
  · next other =>
    rw [found] at other
    cases other
  · next other =>
    rw [found] at other
    cases other
    rfl

theorem lexeme_of_take {c : Char} {rest text : List Char} {number : Number}
    (begins : c = '-' ∨ ∃ digit : Fin 10, Nat.digitChar digit = c)
    (taken : Number.take (c :: rest) = .ok (number, text)) :
    isSpace c = false ∧ lexeme c rest = ⟨.number number, some text⟩ := by
  obtain ⟨solid, noMark, noLetter, noQuote, numeric⟩ : isSpace c = false ∧
      punctuation? c = none ∧ word? c = none ∧ c ≠ '"' ∧ (c = '-' || c.isDigit) := by
    clear taken
    obtain rfl | ⟨digit, rfl⟩ := begins
    · decide
    · revert digit
      decide
  refine ⟨solid, ?_⟩
  rw [lexeme, noMark, noLetter]
  simp only [if_neg noQuote, if_pos numeric, numberLexeme, taken]

theorem Numeral.chars_eq_cons (numeral : Numeral) (text : List Char) :
    ∃ c rest, numeral.chars ++ text = c :: rest ∧
      (c = '-' ∨ ∃ digit : Fin 10, Nat.digitChar digit = c) := by
  obtain ⟨negative, whole, fraction, scale, starts⟩ := numeral
  cases negative with
  | true => exact ⟨'-', _, rfl, .inl rfl⟩
  | false => exact ⟨Nat.digitChar whole.first, _, rfl, .inr ⟨whole.first, rfl⟩⟩

theorem tokens_word (word : Word) {text : List Char}
    (bounds : ∀ numeral, word = .number numeral → Number.Bounds text) :
    tokens (word.chars ++ text) = word.token :: tokens text := by
  cases word with
  | number numeral =>
      have taken := Number.take_chars numeral (bounds numeral rfl)
      obtain ⟨c, rest, same, begins⟩ := numeral.chars_eq_cons text
      rw [same] at taken
      obtain ⟨solid, found⟩ := lexeme_of_take begins taken
      rw [Word.chars, same]
      exact tokens_lexeme solid found
  | string glyphs =>
      rw [Word.chars, List.cons_append, List.append_assoc]
      have found : lexeme '"' (glyphs.flatMap Glyph.chars ++ '"' :: text) =
          stringLexeme (takeString (glyphs.flatMap Glyph.chars ++ '"' :: text)) := rfl
      rw [takeString_glyphs] at found
      exact tokens_lexeme rfl found
  | boolean value => cases value <;> exact tokens_lexeme rfl rfl
  | _ => exact tokens_lexeme rfl rfl

theorem tokens_spaces {spaces : List Char} (blank : spaces ⊆ blanks)
    (text : List Char) : tokens (spaces ++ text) = tokens text := by
  induction spaces with
  | nil => rfl
  | cons c spaces ih =>
      obtain ⟨one, more⟩ := List.cons_subset.mp blank
      have space : isSpace c := by simpa [isSpace, blanks, or_assoc] using one
      rw [List.cons_append, tokens, if_pos space, ih more]

def Word.IsMark : Word → Prop
  | .null | .boolean _ | .number _ | .string _ => False
  | _ => True

def Parted (words : List Word) : Prop :=
  words.IsChain fun word next => word.IsMark ∨ next.IsMark

def marks : List Char :=
  ['\x7b', '\x7d', '[', ']', ',', ':']

theorem bounds_of_head {text : List Char} (apart : ∀ c ∈ text.head?, c ∈ blanks ++ marks) :
    Number.Bounds text := by
  have none : ∀ c ∈ blanks ++ marks, digitValue? 10 c = none ∧ c ≠ '.' ∧ c ≠ 'e' ∧ c ≠ 'E' := by
    intro c among
    simp only [blanks, marks, List.cons_append, List.nil_append, List.mem_cons, List.not_mem_nil,
      or_false] at among
    obtain rfl | rfl | rfl | rfl | rfl | rfl | rfl | rfl | rfl | rfl := among <;> decide
  constructor
  · intro c first
    exact (none c (apart c first)).1
  · intro first
    exact (none _ (apart _ first)).2.1 rfl
  · intro first
    exact (none _ (apart _ first)).2.2.1 rfl
  · intro first
    exact (none _ (apart _ first)).2.2.2 rfl

theorem bounds_of_spaced {words : List Word} {text : List Char} (spaced : Spaced words text)
    (parted : ∀ word ∈ words.head?, word.IsMark) : Number.Bounds text := by
  apply bounds_of_head
  cases spaced with
  | done spaces blank =>
      intro c first
      exact List.mem_append_left marks (blank (List.mem_of_mem_head? first))
  | @word word later text spaces blank rest =>
      intro c first
      cases spaces with
      | cons space spaces =>
          obtain rfl : space = c := by simpa using first
          exact List.mem_append_left marks (blank List.mem_cons_self)
      | nil =>
          have mark : word.IsMark := parted word rfl
          cases word <;> first | exact mark.elim | (cases first; decide)

theorem tokens_of_spaced {words : List Word} {text : List Char} (spaced : Spaced words text)
    (parted : Parted words) : tokens text = words.map Word.token := by
  induction spaced with
  | done spaces blank =>
      have passed := tokens_spaces blank []
      rw [List.append_nil] at passed
      rw [passed, tokens]
      rfl
  | @word word later text spaces blank rest ih =>
      obtain ⟨beside, parted⟩ := List.isChain_cons.mp parted
      rw [tokens_spaces blank, tokens_word word ?_, ih parted]
      · rfl
      · rintro numeral rfl
        apply bounds_of_spaced rest
        intro next first
        exact (beside next first).resolve_left id

theorem parted_cons {word : Word} {words : List Word} (mark : word.IsMark) (parted : Parted words) :
    Parted (word :: words) :=
  List.isChain_cons.mpr ⟨fun _ _ => .inl mark, parted⟩

theorem parted_append {words later : List Word} (parted : Parted words) (rest : Parted later)
    (mark : ∀ word ∈ later.head?, word.IsMark) : Parted (words ++ later) :=
  List.isChain_append.mpr ⟨parted, rest, fun _ _ word first => .inr (mark word first)⟩

namespace Tree

theorem mark_laterElements (later : List Tree) :
    ∀ word ∈ (laterElements later).head?, word.IsMark := by
  cases later <;> rintro _ ⟨⟩ <;> trivial

theorem mark_laterMembers (later : List (List Glyph × Tree)) :
    ∀ word ∈ (laterMembers later).head?, word.IsMark := by
  cases later <;> rintro _ ⟨⟩ <;> trivial

theorem parted_member (key : List Glyph) {words : List Word} (parted : Parted words) :
    Parted (.string key :: .colon :: words) :=
  List.isChain_cons.mpr ⟨by rintro _ ⟨⟩; exact .inr trivial, parted_cons trivial parted⟩

mutual

theorem parted_words : (tree : Tree) → Parted tree.words
  | .null | .boolean _ | .number _ | .string _ => by
      rw [words]
      exact List.isChain_singleton _
  | .array [] | .object [] => by
      rw [words]
      exact parted_cons trivial (List.isChain_singleton _)
  | .array (element :: later) => by
      rw [words]
      exact parted_cons trivial (parted_append element.parted_words (parted_laterElements later)
        (mark_laterElements later))
  | .object ((key, value) :: later) => by
      rw [words]
      exact parted_cons trivial (parted_member key (parted_append value.parted_words
        (parted_laterMembers later) (mark_laterMembers later)))

theorem parted_laterElements : (later : List Tree) → Parted (laterElements later)
  | [] => List.isChain_singleton _
  | element :: later => by
      rw [laterElements]
      exact parted_cons trivial (parted_append element.parted_words (parted_laterElements later)
        (mark_laterElements later))

theorem parted_laterMembers : (later : List (List Glyph × Tree)) → Parted (laterMembers later)
  | [] => List.isChain_singleton _
  | (key, value) :: later => by
      rw [laterMembers]
      exact parted_cons trivial (parted_member key (parted_append value.parted_words
        (parted_laterMembers later) (mark_laterMembers later)))

end

/-- A value never begins with the bracket that would end an array without it. -/
theorem words_eq_cons (tree : Tree) :
    ∃ word later, tree.words = word :: later ∧ word.token ≠ .endArray := by
  cases tree with
  | null => exact ⟨.null, [], by rw [words], nofun⟩
  | boolean value => exact ⟨.boolean value, [], by rw [words], nofun⟩
  | number numeral => exact ⟨.number numeral, [], by rw [words], nofun⟩
  | string glyphs => exact ⟨.string glyphs, [], by rw [words], nofun⟩
  | array elements => cases elements <;> exact ⟨.beginArray, _, by rw [words], nofun⟩
  | object members =>
      rcases members with _ | ⟨⟨key, value⟩, later⟩ <;>
        exact ⟨.beginObject, _, by rw [words], nofun⟩

theorem tokens_of_writtenAs {tree : Tree} {text : String} (written : tree.WrittenAs text) :
    tokens text.toList = tree.words.map Word.token :=
  tokens_of_spaced written tree.parted_words

end Tree

end Courier.Json

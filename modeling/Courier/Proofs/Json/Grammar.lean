import Courier.Json.Token

namespace Courier.Json

/-! How JSON is written, said without a reader: strings letter by letter, numbers digit by digit,
values as trees, and white space between the words that a tree comes to. -/

/-- A hexadecimal digit can be written large or small. -/
structure HexDigit where
  value : Fin 16
  capital : Bool

def HexDigit.char (digit : HexDigit) : Char :=
  if digit.capital then (Nat.digitChar digit.value).toUpper else Nat.digitChar digit.value

/-- Four of them write a unit of 16 bits. -/
structure CodeUnit where
  first : HexDigit
  second : HexDigit
  third : HexDigit
  fourth : HexDigit

namespace CodeUnit

def code (unit : CodeUnit) : Nat :=
  ((unit.first.value * 16 + unit.second.value) * 16 + unit.third.value) * 16 + unit.fourth.value

def chars (unit : CodeUnit) : List Char :=
  [unit.first.char, unit.second.char, unit.third.char, unit.fourth.char]

end CodeUnit

/-- The letters behind a backslash, each with the character it stands for. -/
def escapes : List (Char × Char) := [
  ('"', '"'), ('\\', '\\'), ('/', '/'), ('b', '\x08'), ('f', '\x0c'), ('n', '\n'), ('r', '\r'),
  ('t', '\t')]

/-- What may stand in a string as it is. -/
def Plain (c : Char) : Prop :=
  c ≠ '"' ∧ c ≠ '\\' ∧ 0x20 ≤ c.toNat

instance : DecidablePred Plain :=
  fun c => inferInstanceAs (Decidable (c ≠ '"' ∧ c ≠ '\\' ∧ 0x20 ≤ c.toNat))

inductive Glyph where
  | plain (c : Char) (allowed : Plain c)
  | escape (letter meaning : Char) (listed : (letter, meaning) ∈ escapes)
  | coded (unit : CodeUnit)

def Glyph.chars : Glyph → List Char
  | .plain c _ => [c]
  | .escape letter _ _ => ['\\', letter]
  | .coded unit => '\\' :: 'u' :: unit.chars

/-- The text that a string spells. A character beyond 16 bits takes two units if it is escaped, and
a unit of such a pair spells nothing on its own. -/
inductive Spells : List Glyph → List Char → Prop
  | nothing : Spells [] []
  | plain {c : Char} {allowed : Plain c} {glyphs : List Glyph} {text : List Char}
      (later : Spells glyphs text) : Spells (.plain c allowed :: glyphs) (c :: text)
  | escape {letter meaning : Char} {listed : (letter, meaning) ∈ escapes} {glyphs : List Glyph}
      {text : List Char} (later : Spells glyphs text) :
      Spells (.escape letter meaning listed :: glyphs) (meaning :: text)
  | coded {unit : CodeUnit} {c : Char} {glyphs : List Glyph} {text : List Char}
      (stands : unit.code = c.toNat) (later : Spells glyphs text) :
      Spells (.coded unit :: glyphs) (c :: text)
  | pair {high low : CodeUnit} {c : Char} {glyphs : List Glyph} {text : List Char}
      (leading : 0xd800 ≤ high.code ∧ high.code < 0xdc00)
      (trailing : 0xdc00 ≤ low.code ∧ low.code < 0xe000)
      (stands : c.toNat = 0x10000 + 0x400 * (high.code - 0xd800) + (low.code - 0xdc00))
      (later : Spells glyphs text) :
      Spells (.coded high :: .coded low :: glyphs) (c :: text)

/-- A number has at least one digit wherever it has any, and no zero before another digit of its
whole part. -/
structure Digits where
  first : Fin 10
  later : List (Fin 10)

namespace Digits

def values (digits : Digits) : List Nat :=
  (digits.first :: digits.later).map Fin.val

def chars (digits : Digits) : List Char :=
  digits.values.map Nat.digitChar

end Digits

inductive Sign where
  | absent
  | plus
  | minus

def Sign.chars : Sign → List Char
  | .absent => []
  | .plus => ['+']
  | .minus => ['-']

structure Scale where
  capital : Bool
  sign : Sign
  digits : Digits

def Scale.chars (scale : Scale) : List Char :=
  (if scale.capital then 'E' else 'e') :: (scale.sign.chars ++ scale.digits.chars)

structure Numeral where
  negative : Bool := false
  whole : Digits
  fraction : Option Digits := none
  scale : Option Scale := none
  starts : whole.first = 0 → whole.later = []

namespace Numeral

def fractionChars : Option Digits → List Char
  | none => []
  | some digits => '.' :: digits.chars

def scaleChars : Option Scale → List Char
  | none => []
  | some scale => scale.chars

def chars (numeral : Numeral) : List Char :=
  (if numeral.negative then ['-'] else []) ++
    (numeral.whole.chars ++ (fractionChars numeral.fraction ++ scaleChars numeral.scale))

/-- The numeral of a natural number has digits and nothing else. -/
structure Counts (numeral : Numeral) (value : Nat) : Prop where
  positive : numeral.negative = false
  unbroken : numeral.fraction = none
  unscaled : numeral.scale = none
  total : Text.valueOfDigits 10 numeral.whole.values = value

end Numeral

def blanks : List Char :=
  [' ', '\t', '\n', '\r']

inductive Word where
  | beginObject
  | endObject
  | beginArray
  | endArray
  | comma
  | colon
  | null
  | boolean (value : Bool)
  | number (numeral : Numeral)
  | string (glyphs : List Glyph)

namespace Word

def chars : Word → List Char
  | .beginObject => ['\x7b']
  | .endObject => ['\x7d']
  | .beginArray => ['[']
  | .endArray => [']']
  | .comma => [',']
  | .colon => [':']
  | .null => ['n', 'u', 'l', 'l']
  | .boolean true => ['t', 'r', 'u', 'e']
  | .boolean false => ['f', 'a', 'l', 's', 'e']
  | .number numeral => numeral.chars
  | .string glyphs => '"' :: (glyphs.flatMap Glyph.chars ++ ['"'])

end Word

inductive Spaced : List Word → List Char → Prop
  | done (spaces : List Char) (blank : spaces ⊆ blanks) : Spaced [] spaces
  | word {word : Word} {later : List Word} {text : List Char} (spaces : List Char)
      (blank : spaces ⊆ blanks) (rest : Spaced later text) :
      Spaced (word :: later) (spaces ++ (word.chars ++ text))

inductive Tree where
  | null
  | boolean (value : Bool)
  | number (numeral : Numeral)
  | string (glyphs : List Glyph)
  | array (elements : List Tree)
  | object (members : List (List Glyph × Tree))

namespace Tree

mutual

def words : Tree → List Word
  | .null => [.null]
  | .boolean value => [.boolean value]
  | .number numeral => [.number numeral]
  | .string glyphs => [.string glyphs]
  | .array [] => [.beginArray, .endArray]
  | .array (element :: later) => .beginArray :: (element.words ++ laterElements later)
  | .object [] => [.beginObject, .endObject]
  | .object ((key, value) :: later) =>
    .beginObject :: .string key :: .colon :: (value.words ++ laterMembers later)

/-- What follows an element: the bracket, or a comma and the next one. -/
def laterElements : List Tree → List Word
  | [] => [.endArray]
  | element :: later => .comma :: (element.words ++ laterElements later)

def laterMembers : List (List Glyph × Tree) → List Word
  | [] => [.endObject]
  | (key, value) :: later =>
    .comma :: .string key :: .colon :: (value.words ++ laterMembers later)

end

/-- The text holds the tree and nothing beside it. -/
def WrittenAs (tree : Tree) (text : String) : Prop :=
  Spaced tree.words text.toList

end Tree

end Courier.Json

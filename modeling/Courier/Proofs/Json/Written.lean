import Courier.Json.Written
import Courier.Proofs.Json.Grammar

namespace Courier.Json

/-! Every text and every number can be written, and this is how the writer does it. -/

theorem listed_of_shortEscape? {c letter : Char} (short : shortEscape? c = some letter) :
    (letter, c) ∈ escapes := by
  unfold shortEscape? at short
  split at short <;> cases short <;> decide

theorem plain_of_shortEscape?_eq_none {c : Char} (long : shortEscape? c = none)
    (visible : ¬ c.toNat < 0x20) : Plain c := by
  refine ⟨?_, ?_, by omega⟩
  · rintro rfl
    cases long
  · rintro rfl
    cases long

def HexDigit.small (value : Nat) (single : value < 16) : HexDigit :=
  ⟨⟨value, single⟩, false⟩

/-- A control character has a code of two digits. -/
def CodeUnit.ofControl (c : Char) (control : c.toNat < 0x20) : CodeUnit where
  first := .small 0 (by decide)
  second := .small 0 (by decide)
  third := .small (c.toNat / 16) (by omega)
  fourth := .small (c.toNat % 16) (by omega)

theorem CodeUnit.code_ofControl (c : Char) (control : c.toNat < 0x20) :
    (ofControl c control).code = c.toNat := by
  simp only [code, ofControl, HexDigit.small]
  omega

def Glyph.of (c : Char) : Glyph :=
  match short : shortEscape? c with
  | some letter => .escape letter c (listed_of_shortEscape? short)
  | none =>
    if control : c.toNat < 0x20 then .coded (.ofControl c control)
    else .plain c (plain_of_shortEscape?_eq_none short control)

theorem chars_of (c : Char) : (Glyph.of c).chars = escape c := by
  unfold Glyph.of
  split
  · next letter short =>
    have written : escape c = ['\\', letter] := by rw [escape, short]
    rw [written]
    rfl
  · next long =>
    split
    · next control =>
      have written : escape c = ['\\', 'u', '0', '0', Nat.digitChar (c.toNat / 16),
          Nat.digitChar (c.toNat % 16)] := by
        rw [escape, long]
        exact if_pos control
      rw [written]
      rfl
    · next visible =>
      have written : escape c = [c] := by
        rw [escape, long]
        exact if_neg visible
      rw [written]
      rfl

theorem spells_of (text : List Char) : Spells (text.map Glyph.of) text := by
  induction text with
  | nil => exact .nothing
  | cons c text ih =>
      rw [List.map_cons, Glyph.of]
      split
      · exact .escape ih
      · split
        · next control => exact .coded (CodeUnit.code_ofControl c control) ih
        · exact .plain ih

theorem chars_string (text : String) :
    (Word.string (text.toList.map Glyph.of)).chars = (writeString text).toList := by
  have escaped : (text.toList.map Glyph.of).flatMap Glyph.chars = text.toList.flatMap escape := by
    simp only [List.flatMap_map, chars_of]
  rw [Word.chars, writeString, String.toList_ofList, escaped]
  rfl

def Digits.push (digits : Digits) (last : Fin 10) : Digits :=
  ⟨digits.first, digits.later ++ [last]⟩

def Digits.ofNat (value : Nat) : Digits :=
  if single : value < 10 then ⟨⟨value, single⟩, []⟩
  else (ofNat (value / 10)).push ⟨value % 10, Nat.mod_lt _ (by decide)⟩

theorem Digits.values_push (digits : Digits) (last : Fin 10) :
    (digits.push last).values = digits.values ++ [last.val] := by
  simp [push, values]

theorem Digits.total_ofNat (value : Nat) : Text.valueOfDigits 10 (ofNat value).values = value := by
  fun_induction ofNat value with
  | case1 value single => simp [values, Text.valueOfDigits]
  | case2 value _ ih =>
      rw [values_push, Text.valueOfDigits, List.foldl_append, ← Text.valueOfDigits, ih]
      simp only [List.foldl_cons, List.foldl_nil]
      omega

theorem Digits.chars_ofNat (value : Nat) : (ofNat value).chars = Nat.toDigits 10 value := by
  fun_induction ofNat value with
  | case1 value single => rw [Nat.toDigits_of_lt_base single]; rfl
  | case2 value many ih =>
      have last := Nat.toDigits_of_base_le (by decide : 1 < 10) (Nat.not_lt.mp many)
      rw [chars] at ih ⊢
      rw [values_push, List.map_append, ih, last]
      rfl

theorem Digits.eq_zero_of_first {value : Nat} (zero : (ofNat value).first = 0) : value = 0 := by
  fun_induction ofNat value with
  | case1 value single => exact congrArg Fin.val zero
  | case2 value many ih =>
      have := ih zero
      omega

def Numeral.ofNat (value : Nat) : Numeral where
  whole := .ofNat value
  starts := by
    intro zero
    obtain rfl := Digits.eq_zero_of_first zero
    rw [Digits.ofNat]
    rfl

theorem counts_ofNat (value : Nat) : (Numeral.ofNat value).Counts value :=
  ⟨rfl, rfl, rfl, Digits.total_ofNat value⟩

theorem chars_number (value : Nat) :
    (Word.number (.ofNat value)).chars = (toString value).toList := by
  rw [Word.chars, Numeral.chars, Numeral.ofNat]
  simp [Digits.chars_ofNat, Numeral.fractionChars, Numeral.scaleChars]

/-- White space is never needed. -/
theorem spaced_chars (words : List Word) : Spaced words (words.flatMap Word.chars) := by
  induction words with
  | nil => exact .done [] (List.nil_subset _)
  | cons word words ih => exact .word [] (List.nil_subset _) ih

end Courier.Json

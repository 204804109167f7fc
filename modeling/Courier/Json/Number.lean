import Courier.Text.Digits

namespace Courier.Json

open Text

/-- A text fails to be JSON in one of two ways: it ends too early, or something in it cannot be
there. -/
inductive Fault where
  | cut
  | malformed
deriving DecidableEq, Repr

def Fault.before : List Char → Fault
  | [] => .cut
  | _ :: _ => .malformed

structure Exponent where
  negative : Bool
  digits : List Nat
deriving DecidableEq, Repr

structure Number where
  negative : Bool
  whole : List Nat
  fraction : Option (List Nat)
  exponent : Option Exponent
deriving DecidableEq, Repr

namespace Number

def takeSome (text : List Char) : Except Fault (List Nat × List Char) :=
  match takeDigits 10 text with
  | ([], rest) => .error (.before rest)
  | (digits, rest) => .ok (digits, rest)

def takeMinus : List Char → Bool × List Char
  | '-' :: rest => (true, rest)
  | text => (false, text)

def takeSign : List Char → Bool × List Char
  | '-' :: rest => (true, rest)
  | '+' :: rest => (false, rest)
  | text => (false, text)

def takeWhole (text : List Char) : Except Fault (List Nat × List Char) := do
  match ← takeSome text with
  | (0 :: _ :: _, _) => throw .malformed
  | taken => return taken

def takeFraction : List Char → Except Fault (Option (List Nat) × List Char)
  | '.' :: rest => do
    let (digits, rest) ← takeSome rest
    return (some digits, rest)
  | text => return (none, text)

def takeExponentDigits (text : List Char) : Except Fault (Option Exponent × List Char) := do
  let (negative, rest) := takeSign text
  let (digits, rest) ← takeSome rest
  return (some { negative, digits }, rest)

def takeExponent : List Char → Except Fault (Option Exponent × List Char)
  | 'e' :: rest => takeExponentDigits rest
  | 'E' :: rest => takeExponentDigits rest
  | text => return (none, text)

def take (text : List Char) : Except Fault (Number × List Char) := do
  let (negative, rest) := takeMinus text
  let (whole, rest) ← takeWhole rest
  let (fraction, rest) ← takeFraction rest
  let (exponent, rest) ← takeExponent rest
  return ({ negative, whole, fraction, exponent }, rest)

def magnitude (number : Number) : Nat :=
  valueOfDigits 10 number.whole

/-- Without fraction and exponent a number is an integer, if a signed or unsigned word of 64 bits
holds it and it is not a negative zero. -/
def integer? (number : Number) : Option Int :=
  let size := number.magnitude
  if number.fraction.isSome || number.exponent.isSome then none
  else if number.negative then
    if 0 < size && size ≤ UInt64.size / 2 then some (-size) else none
  else
    if size < UInt64.size then some size else none

/-- The digits that fit, as one number, and how many are left over. -/
def gather (significand : Nat) : List Nat → Nat × Nat
  | [] => (significand, 0)
  | digit :: rest =>
    if 10 * significand + digit < UInt64.size then gather (10 * significand + digit) rest
    else (significand, rest.length + 1)

/-- To 53 bits; a tie goes to the even neighbour. -/
def roundToDouble (value : Nat) : Nat :=
  let excess := value.log2 + 1 - 53
  let unit := Nat.pow 2 excess
  let kept := value / unit
  let dropped := value % unit
  let up := unit < 2 * dropped || (unit = 2 * dropped && kept % 2 = 1)
  if up then (kept + 1) * unit else kept * unit

def Exponent.value (exponent : Exponent) : Int :=
  let size := valueOfDigits 10 exponent.digits
  if exponent.negative then -size else size

def scaled (number : Number) : Nat × Int :=
  let (leading, unread) := gather 0 number.whole
  let fraction := number.fraction.getD []
  let (significand, dropped) := gather leading fraction
  let shift : Int := unread - (fraction.length - dropped : Nat)
  (significand, shift + (number.exponent.elim 0 Exponent.value))

/-- Any other number is held in binary floating point. Its leading digits are gathered and the
digits after those only scale it; the product of what was gathered and the power of ten, each
rounded to 53 bits, may not be too large for a double. -/
def exceedsDouble (number : Number) : Bool :=
  let (significand, exponent) := number.scaled
  significand ≠ 0 && 0 ≤ exponent &&
    (308 < exponent ||
      Nat.pow 2 1024 - Nat.pow 2 970 ≤
        roundToDouble significand * roundToDouble (Nat.pow 10 exponent.toNat))

theorem length_takeSome_lt {text rest : List Char} {digits : List Nat}
    (read : takeSome text = .ok (digits, rest)) : rest.length < text.length := by
  have total := length_takeDigits 10 text
  unfold takeSome at read
  split at read
  · cases read
  · next empty shape =>
    cases read
    rw [shape] at total
    have := List.length_pos_iff.mpr (by simpa using empty : digits ≠ [])
    simp only at total
    omega

theorem length_takeMinus_le (text : List Char) : (takeMinus text).2.length ≤ text.length := by
  unfold takeMinus
  split <;> simp

theorem length_takeSign_le (text : List Char) : (takeSign text).2.length ≤ text.length := by
  unfold takeSign
  split <;> simp

theorem length_takeWhole_lt {text rest : List Char} {digits : List Nat}
    (read : takeWhole text = .ok (digits, rest)) : rest.length < text.length := by
  unfold takeWhole at read
  cases taken : takeSome text with
  | error fault => simp [taken, bind, Except.bind] at read
  | ok pair =>
    simp only [taken, bind, Except.bind] at read
    split at read
    · cases read
    · cases read
      exact length_takeSome_lt taken

theorem length_takeFraction_le {text rest : List Char} {fraction : Option (List Nat)}
    (read : takeFraction text = .ok (fraction, rest)) : rest.length ≤ text.length := by
  unfold takeFraction at read
  split at read
  · next after =>
    cases taken : takeSome after with
    | error fault => simp [taken, bind, Except.bind] at read
    | ok pair =>
      simp only [taken, bind, Except.bind] at read
      cases read
      have := length_takeSome_lt taken
      simp only [List.length_cons]
      omega
  · cases read
    exact Nat.le_refl _

theorem length_takeExponentDigits_le {text rest : List Char} {exponent : Option Exponent}
    (read : takeExponentDigits text = .ok (exponent, rest)) : rest.length ≤ text.length := by
  unfold takeExponentDigits at read
  cases taken : takeSome (takeSign text).2 with
  | error fault => simp [taken, bind, Except.bind] at read
  | ok pair =>
    simp only [taken, bind, Except.bind] at read
    cases read
    have := length_takeSome_lt taken
    have := length_takeSign_le text
    omega

theorem length_takeExponent_le {text rest : List Char} {exponent : Option Exponent}
    (read : takeExponent text = .ok (exponent, rest)) : rest.length ≤ text.length := by
  unfold takeExponent at read
  split at read
  · have := length_takeExponentDigits_le read
    simp only [List.length_cons]
    omega
  · have := length_takeExponentDigits_le read
    simp only [List.length_cons]
    omega
  · cases read
    exact Nat.le_refl _

theorem length_take_lt {text rest : List Char} {number : Number}
    (read : take text = .ok (number, rest)) : rest.length < text.length := by
  unfold take at read
  have sign := length_takeMinus_le text
  cases whole : takeWhole (takeMinus text).2 with
  | error fault => simp [whole, bind, Except.bind] at read
  | ok first =>
    cases fraction : takeFraction first.2 with
    | error fault => simp [whole, fraction, bind, Except.bind] at read
    | ok second =>
      cases exponent : takeExponent second.2 with
      | error fault => simp [whole, fraction, exponent, bind, Except.bind] at read
      | ok third =>
        simp only [whole, fraction, exponent, bind, Except.bind] at read
        cases read
        have := length_takeWhole_lt whole
        have := length_takeFraction_le fraction
        have := length_takeExponent_le exponent
        omega

end Number

end Courier.Json
